import FeatureFlags.Proofs.Flag.Tiling

/-!
**Shards that nobody falls into.**

Without shards in total no sharder is asked, since it could not stay below their number: nobody
falls into a shard then. Nor does anybody where a shard has no ranges, or none that has a bucket
below the number of shards. A split with such a shard serves nobody, and may be taken out of its
allocation.

A sharder may do more than choose a shard, such as fail, or be counted. A flag is evaluated with
such a sharder step by step as without, so that what is not done cannot be seen.

* `Flag.evaluateWith`: a flag with a sharder that may do something besides.
* `Flag.evaluateWith_congr`: what a sharder does without shards in total does not matter.
* `Flag.evaluateWith_pure`: with a sharder that does nothing besides, it is `Flag.evaluate`.
* `Shard.IsEmpty`, `Split.IsEmpty`: shards, and splits, that nobody falls into.
* `Flag.evaluate_of_thinned`: a flag answers the same without them.
* `Flag.empty_shards_may_go`: sharders are not asked in vain, and empty shards serve nobody.
-/

namespace FeatureFlags

/-! ### Sharders that do something besides -/

section Asking

variable {m : Type → Type} [Monad m]

/-- Whether a text falls into a range, where the shard is asked for. -/
def ShardRange.servesWith (range : ShardRange) (ask : Octets → UInt32 → m UInt32) (total : UInt32)
    (input : Octets) : m Bool :=
  if total = 0 then return false
  else do
    let shard ← ask input total
    return range.contains shard

/-- Whether a subject falls into a range of a shard; ranges are tried in order. -/
def Shard.servesWith (shard : Shard) (ask : Octets → UInt32 → m UInt32) (total : UInt32)
    (subjectKey : String) : m Bool :=
  shard.ranges.anyM fun range =>
    range.servesWith ask total (octetsOf (shardInput shard.salt subjectKey))

/-- Whether a subject falls into all shards of a split; shards are tried in order. -/
def Split.servesWith (split : Split) (ask : Octets → UInt32 → m UInt32) (total : UInt32)
    (subjectKey : String) : m Bool :=
  split.shards.allM fun shard => shard.servesWith ask total subjectKey

/-- The first split that serves a subject, or why the allocation is skipped. -/
def Allocation.selectWith (allocation : Allocation) (ask : Octets → UInt32 → m UInt32)
    (total : UInt32) (visit : Visit) : m (Except SkipReason Split) :=
  if allocation.startAt.any fun start => visit.now.before start then return .error .beforeStart
  else if allocation.endAt.any fun stop => !visit.now.before stop then return .error .afterEnd
  else if !allocation.rules.all fun rule => rule.holds visit.attributes then
    return .error .failingRules
  else do
    let found ← allocation.splits.findM? fun split => split.servesWith ask total visit.subjectKey
    return found.elim (.error .outsideShards) .ok

namespace Flag

/-- The first allocation that serves a subject, with its split; allocations are tried in order. -/
def choiceWith? (flag : Flag) (ask : Octets → UInt32 → m UInt32) (visit : Visit) :
    m (Option (Allocation × Split)) :=
  flag.allocations.findSomeM? fun allocation => do
    let selected ← allocation.selectWith ask flag.totalShards (identified visit)
    return selected.toOption.map fun split => (allocation, split)

/-- What a flag answers to a choice. -/
def answerTo (flag : Flag) : Option (Allocation × Split) → Except FlagError Evaluation
  | none => .error .noAllocation
  | some (allocation, split) =>
    match flag.variations.get? split.variationKey with
    | none => .error .inconsistentFlag
    | some variation =>
      match variation.value.toValue? flag.variationType with
      | none => .error .inconsistentFlag
      | some value =>
        .ok ⟨value, variation.key, allocation.key, allocation.doLog, split.extraLogging,
          reasonOf allocation split⟩

/-- What a flag serves a subject, where shards are asked for. -/
def evaluateWith (flag : Flag) (ask : Octets → UInt32 → m UInt32) (visit : Visit) :
    m (Except FlagError Evaluation) :=
  if !flag.enabled then return .error .flagDisabled
  else do
    let choice ← flag.choiceWith? ask visit
    return flag.answerTo choice

end Flag

/-! ### Sharders that are not asked -/

variable {ask other : Octets → UInt32 → m UInt32} {total : UInt32}

theorem Split.servesWith_congr (split : Split) (subjectKey : String)
    (same : total ≠ 0 → ∀ input, ask input total = other input total) :
    split.servesWith ask total subjectKey = split.servesWith other total subjectKey := by
  have range (range : ShardRange) (input : Octets) :
      range.servesWith ask total input = range.servesWith other total input := by
    unfold ShardRange.servesWith
    by_cases zero : total = 0
    · rw [if_pos zero, if_pos zero]
    · rw [if_neg zero, if_neg zero, same zero]
  unfold Split.servesWith Shard.servesWith
  simp only [range]

/-- **What a sharder does without shards in total does not matter.** -/
theorem Flag.evaluateWith_congr (flag : Flag) (visit : Visit)
    (same : flag.totalShards ≠ 0 →
      ∀ input, ask input flag.totalShards = other input flag.totalShards) :
    flag.evaluateWith ask visit = flag.evaluateWith other visit := by
  unfold evaluateWith choiceWith? Allocation.selectWith
  simp only [Split.servesWith_congr _ _ same]

variable [LawfulMonad m]

theorem Split.servesWith_pure (split : Split) (sharder : Sharder) (total : UInt32)
    (subjectKey : String) :
    split.servesWith (fun input total => (pure (sharder input total) : m UInt32)) total subjectKey =
      pure (split.serves sharder total subjectKey) := by
  have range (range : ShardRange) (input : Octets) :
      range.servesWith (fun input total => (pure (sharder input total) : m UInt32)) total input =
        pure (range.serves sharder total input) := by
    unfold ShardRange.servesWith ShardRange.serves
    by_cases zero : total = 0
    · simp [zero]
    · simp [zero, bne_iff_ne.2 zero]
  unfold Split.servesWith Split.serves Shard.servesWith Shard.serves
  simp only [range, List.anyM_pure, List.allM_pure]

theorem Allocation.selectWith_pure (allocation : Allocation) (total : UInt32) (visit : Visit) :
    allocation.selectWith (fun input total => (pure (visit.sharder input total) : m UInt32)) total
      visit = pure (allocation.select total visit) := by
  unfold selectWith select
  split
  · rfl
  split
  · rfl
  split
  · rfl
  simp only [Split.servesWith_pure, List.findM?_pure, pure_bind]
  cases allocation.splits.find? fun split =>
    split.serves visit.sharder total visit.subjectKey <;> rfl

theorem Flag.choiceWith?_pure (flag : Flag) (visit : Visit) :
    flag.choiceWith? (fun input total => (pure (visit.sharder input total) : m UInt32)) visit =
      pure (flag.choice? visit) := by
  have asked (allocation : Allocation) :
      allocation.selectWith (fun input total => (pure (visit.sharder input total) : m UInt32))
        flag.totalShards (identified visit) =
      pure (allocation.select flag.totalShards (identified visit)) :=
    allocation.selectWith_pure flag.totalShards (identified visit)
  have candidate (allocation : Allocation) :
      (allocation.select flag.totalShards (identified visit)).toOption.map
        (fun split => (allocation, split)) = allocation.candidate? flag.totalShards visit := by
    unfold Allocation.candidate?
    cases allocation.select flag.totalShards (identified visit) <;> rfl
  unfold choiceWith?
  simp only [asked, pure_bind, candidate, List.findSomeM?_pure]
  rw [choice?_eq]

/-- **With a sharder that does nothing besides, a flag is evaluated as ever.** -/
theorem Flag.evaluateWith_pure (flag : Flag) (visit : Visit) :
    flag.evaluateWith (fun input total => (pure (visit.sharder input total) : m UInt32)) visit =
      pure (flag.evaluate visit) := by
  unfold evaluateWith evaluate
  rw [choiceWith?_pure, pure_bind]
  split <;> rfl

/-- A sharder that does something besides without shards in total only, such as to divide by zero,
is never asked for it. -/
theorem Flag.evaluateWith_of_pure (flag : Flag) (visit : Visit)
    (silent : flag.totalShards ≠ 0 →
      ∀ input, ask input flag.totalShards = pure (visit.sharder input flag.totalShards)) :
    flag.evaluateWith ask visit = pure (flag.evaluate visit) :=
  (flag.evaluateWith_congr visit silent).trans (flag.evaluateWith_pure visit)

end Asking

/-! ### Splits that serve nobody -/

/-- Nobody falls into a shard: it has no ranges, or each of them ends where it begins or before, or
begins at the number of shards or after. -/
def Shard.IsEmpty (total : UInt32) (shard : Shard) : Prop :=
  ∀ range ∈ shard.ranges, range.stop ≤ range.start ∨ total ≤ range.start

/-- One of the shards of a split is empty. -/
def Split.IsEmpty (total : UInt32) (split : Split) : Prop :=
  ∃ shard ∈ split.shards, shard.IsEmpty total

instance (total : UInt32) (shard : Shard) : Decidable (shard.IsEmpty total) :=
  inferInstanceAs (Decidable (∀ range ∈ shard.ranges, _ ∨ _))

instance (total : UInt32) (split : Split) : Decidable (split.IsEmpty total) :=
  inferInstanceAs (Decidable (∃ shard ∈ split.shards, shard.IsEmpty total))

namespace Split

variable {split : Split} {total : UInt32} {visit : Visit}

/-- Without shards in total every shard is empty. -/
theorem isEmpty_zero_iff : split.IsEmpty 0 ↔ split.shards ≠ [] := by
  have each (shard : Shard) : shard.IsEmpty 0 := fun _ _ => Or.inr UInt32.zero_le
  constructor
  · rintro ⟨shard, isShard, _⟩
    exact List.ne_nil_of_mem isShard
  · intro some_shard
    obtain ⟨shard, isShard⟩ := List.exists_mem_of_ne_nil _ some_shard
    exact ⟨shard, isShard, each shard⟩

/-- **A split with an empty shard covers nobody.** -/
theorem not_covers_of_isEmpty (empty : split.IsEmpty total)
    (below : total ≠ 0 → visit.sharder.StaysBelow total) : ¬ split.Covers total visit := by
  intro covers
  obtain ⟨shard, isShard, empty⟩ := empty
  obtain ⟨range, isRange, some_shards, least, most⟩ := covers shard isShard
  have bucket := Visit.bucket_lt (below some_shards) shard.salt
  rcases empty range isRange with ends | begins
  · exact UInt32.lt_irrefl _ (UInt32.lt_of_lt_of_le most (UInt32.le_trans ends least))
  · exact UInt32.lt_irrefl _ (UInt32.lt_of_lt_of_le bucket (UInt32.le_trans begins least))

end Split

/-! ### Taking them out -/

/-- Splits after some with an empty shard were taken out, and no others. -/
structure ThinnedSplits (total : UInt32) (splits thinned : List Split) : Prop where
  taken : thinned.Sublist splits
  kept : (splits.filter fun split => ¬ split.IsEmpty total).Sublist thinned

/-- An allocation after some of its splits with an empty shard were taken out. -/
def Allocation.Thinned (total : UInt32) (allocation thinned : Allocation) : Prop :=
  ∃ splits, ThinnedSplits total allocation.splits splits ∧
    thinned = { allocation with splits := splits }

section Thinning

variable {total : UInt32} {visit : Visit}

/-- The first split that passes a test is still there, if no split that was taken out passes it. -/
theorem ThinnedSplits.find?_eq {splits thinned : List Split} {test : Split → Bool}
    (thins : ThinnedSplits total splits thinned)
    (fails : ∀ split, split.IsEmpty total → ¬ test split) :
    thinned.find? test = splits.find? test := by
  have passing : (splits.filter fun split => ¬ split.IsEmpty total).filter test =
      splits.filter test := by
    rw [List.filter_filter]
    refine List.filter_congr fun split _ => ?_
    by_cases passes : test split
    · have full : ¬ split.IsEmpty total := fun empty => fails split empty passes
      simp [passes, full]
    · simp [passes]
  have fewer := thins.taken.filter test
  have more := thins.kept.filter test
  rw [passing] at more
  rw [← List.head?_filter, ← List.head?_filter, fewer.antisymm more]

/-- A thinned allocation contributes the same to answers. -/
theorem Allocation.Thinned.essence_candidate? {allocation thinned : Allocation}
    (thins : allocation.Thinned total thinned)
    (below : total ≠ 0 → visit.sharder.StaysBelow total) :
    (thinned.candidate? total visit).map Flag.essence =
      (allocation.candidate? total visit).map Flag.essence := by
  obtain ⟨splits, thins, rfl⟩ := thins
  have found : (splits.find? fun split => split.serves visit.sharder total visit.subjectKey) =
      allocation.splits.find? fun split => split.serves visit.sharder total visit.subjectKey :=
    thins.find?_eq fun _ empty serves =>
      Split.not_covers_of_isEmpty empty below (Split.serves_iff.1 serves)
  have own := Flag.essence_candidate? allocation allocation.splits total visit
  rw [Flag.essence_candidate?, found, ← own]

/-- **A flag answers the same without splits that have an empty shard.** -/
theorem Flag.evaluate_of_thinned (flag : Flag) {allocations : List Allocation}
    (thins : List.Forall₂ (Allocation.Thinned flag.totalShards) flag.allocations allocations)
    (below : flag.totalShards ≠ 0 → visit.sharder.StaysBelow flag.totalShards) :
    { flag with allocations := allocations }.evaluate visit = flag.evaluate visit := by
  have first {originals others : List Allocation}
      (thins : List.Forall₂ (Allocation.Thinned flag.totalShards) originals others) :
      (others.findSome? fun allocation =>
        allocation.candidate? flag.totalShards visit).map essence =
      (originals.findSome? fun allocation =>
        allocation.candidate? flag.totalShards visit).map essence := by
    induction thins with
    | nil => rfl
    | @cons allocation thinned _ _ thins _ ih =>
      have same := thins.essence_candidate? below
      simp only [List.findSome?_cons]
      cases own : allocation.candidate? flag.totalShards visit with
      | none =>
        rw [own] at same
        rw [Option.map_eq_none_iff.1 same]
        exact ih
      | some choice =>
        rw [own] at same
        obtain ⟨other, isOther, same⟩ := Option.map_eq_some_iff.1 same
        rw [isOther]
        exact congrArg some same
  exact evaluate_congr rfl rfl (first thins) fun _ _ _ => rfl

end Thinning

/-- An allocation without the splits that have a shard. -/
def Allocation.unsharded (allocation : Allocation) : Allocation :=
  { allocation with splits := allocation.splits.filter fun split => split.shards.isEmpty }

/-- Without shards in total these are the splits with an empty shard. -/
theorem Allocation.thinned_unsharded (allocation : Allocation) :
    allocation.Thinned 0 allocation.unsharded := by
  refine ⟨_, ⟨List.filter_sublist, ?_⟩, rfl⟩
  have same : (fun split : Split => decide ¬ split.IsEmpty 0) = fun split => split.shards.isEmpty :=
    funext fun split => by cases shards : split.shards <;> simp [Split.isEmpty_zero_iff, shards]
  rw [same]

namespace Flag

/-- **Sharders are not asked in vain, and empty shards serve nobody.**

Without shards in total a flag is evaluated without asking the sharder, whatever it does when it is
asked, and answers as if all splits with shards were taken out of all allocations. So no sharder
that divides by the number of shards ever divides by zero. With any number of shards, and a sharder
that stays below it, a split with an empty shard covers nobody, and such splits may be taken out of
any allocations without a change of the answer. -/
theorem empty_shards_may_go (flag : Flag) (visit : Visit) :
    (∀ (m : Type → Type) [Monad m] [LawfulMonad m] (ask : Octets → UInt32 → m UInt32),
      (flag.totalShards ≠ 0 →
        ∀ input, ask input flag.totalShards = pure (visit.sharder input flag.totalShards)) →
      flag.evaluateWith ask visit = pure (flag.evaluate visit)) ∧
    (flag.totalShards = 0 →
      (∀ (m : Type → Type) [Monad m] [LawfulMonad m] (ask : Octets → UInt32 → m UInt32),
        flag.evaluateWith ask visit = pure (flag.evaluate visit)) ∧
      flag.evaluate visit =
        { flag with allocations := flag.allocations.map Allocation.unsharded }.evaluate visit) ∧
    ((flag.totalShards ≠ 0 → visit.sharder.StaysBelow flag.totalShards) →
      (∀ split : Split, split.IsEmpty flag.totalShards → ¬ split.Covers flag.totalShards visit) ∧
      ∀ allocations,
        List.Forall₂ (Allocation.Thinned flag.totalShards) flag.allocations allocations →
          { flag with allocations := allocations }.evaluate visit = flag.evaluate visit) := by
  refine ⟨fun m _ _ ask silent => flag.evaluateWith_of_pure visit silent, fun zero => ⟨?_, ?_⟩,
    fun below => ⟨fun split empty => Split.not_covers_of_isEmpty empty below,
      fun allocations thins => flag.evaluate_of_thinned thins below⟩⟩
  · intro m _ _ ask
    exact flag.evaluateWith_of_pure visit fun some_shards => absurd zero some_shards
  · refine (flag.evaluate_of_thinned ?_ fun some_shards => absurd zero some_shards).symm
    rw [zero, List.forall₂_map_right_iff]
    exact List.forall₂_same.2 fun allocation _ => allocation.thinned_unsharded

/-! ### Sharders that divide -/

/-- The digest modulo the number of shards, where a division by zero fails. -/
def dividingSharder (input : Octets) (total : UInt32) : Option UInt32 :=
  if total = 0 then none else some (digestSharder input total)

/-- The launch after its splits for nobody, or all of its splits with shards, were taken out, and
without shards in total. -/
theorem empty_shards_may_go_launch :
    launch.evaluateWith dividingSharder earlyVisit = some (launch.evaluate earlyVisit) ∧
    { launch with totalShards := 0 }.evaluateWith dividingSharder earlyVisit =
      some ({ launch with totalShards := 0 }.evaluate earlyVisit) ∧
    { launch with totalShards := 0 }.evaluate earlyVisit =
      { launch with
        totalShards := 0
        allocations := [tomorrow, { today with splits := [anybody] }] }.evaluate earlyVisit ∧
    ¬ nobody.Covers launch.totalShards earlyVisit ∧
    { launch with allocations := [tomorrow, { today with splits := [anybody] }] }.evaluate
      earlyVisit = launch.evaluate earlyVisit := by
  obtain ⟨asked, _, thinned⟩ := empty_shards_may_go launch earlyVisit
  obtain ⟨_, zero, _⟩ := empty_shards_may_go { launch with totalShards := 0 } earlyVisit
  obtain ⟨unasked, unsharded⟩ := zero rfl
  obtain ⟨empty, thinned⟩ := thinned fun some_shards => digestSharder_staysBelow some_shards
  refine ⟨asked Option dividingSharder fun some_shards input => if_neg some_shards,
    unasked Option dividingSharder, unsharded, empty nobody (by decide), thinned _ ?_⟩
  exact .cons ⟨_, ⟨List.Sublist.refl _, List.filter_sublist⟩, rfl⟩
    (.cons ⟨_, ⟨List.sublist_cons_self _ _, by decide⟩, rfl⟩ .nil)

end Flag

end FeatureFlags
