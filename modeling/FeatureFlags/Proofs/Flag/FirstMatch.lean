import FeatureFlags.Evaluation
import FeatureFlags.Proofs.Dict

/-!
**The first match decides.**

An allocation and one of its splits match a visit when the allocation is open at the time, all
conditions of all of its rules hold, and every shard of the split has a range with the subject's
bucket. The matches of a flag are ordered by the place of the allocation and then by the place of
the split, and the first one alone decides what the flag serves: an error of its variation is the
answer, and no later match is tried.

* `Allocation.Admits`, `Split.Covers`: when an allocation and a split match a visit.
* `Flag.IsFirstMatch`: the first match, with its places.
* `Flag.Serves`: what an allocation and a split serve.
* `Flag.choice?_eq_some_iff`, `Flag.choice?_eq_none_iff`: the search finds the first match.
* `Flag.evaluate_follows_first_match`: the answer of a flag in all cases, and what cannot change it.
-/

namespace FeatureFlags

/-! ### Matches -/

namespace Visit

variable {visit : Visit}

/-- What conditions find under a name; the subject's key stands in for a missing `id`. -/
def attribute? (visit : Visit) (name : String) : Option AttributeValue :=
  (visit.attributes.get? name).or (if name = "id" then some (.string visit.subjectKey) else none)

/-- The bucket into which a salt puts the subject. -/
def bucket (visit : Visit) (total : UInt32) (salt : String) : UInt32 :=
  visit.sharder (octetsOf (salt ++ "-" ++ visit.subjectKey)) total

/-- The attributes that rules see hold the subject's key unless there is an `id` already. -/
theorem get?_identified (visit : Visit) (name : String) :
    (Flag.identified visit).attributes.get? name = visit.attribute? name := by
  unfold Flag.identified Attributes.withId attribute? Dict.contains
  by_cases isId : name = "id"
  · subst isId
    cases found : visit.attributes.get? "id" with
    | none => simp
    | some value => simp [found]
  · split <;> simp [isId]

end Visit

/-- An allocation is open at the time of a visit, and all conditions of all of its rules hold. -/
structure Allocation.Admits (allocation : Allocation) (visit : Visit) : Prop where
  begun : ∀ start ∈ allocation.startAt, ¬ visit.now.before start
  lasts : ∀ stop ∈ allocation.endAt, visit.now.before stop
  targeted : ∀ rule ∈ allocation.rules, ∀ condition ∈ rule.conditions,
    condition.operator.outcome? (visit.attribute? condition.attributeName) condition.value =
      some true

/-- Every shard of a split has a range with the bucket of the subject; without shards in total none
has. -/
def Split.Covers (split : Split) (total : UInt32) (visit : Visit) : Prop :=
  ∀ shard ∈ split.shards, ∃ range ∈ shard.ranges,
    total ≠ 0 ∧ range.start ≤ visit.bucket total shard.salt ∧
      visit.bucket total shard.salt < range.stop

/-- An allocation has a split that matches. -/
def Allocation.Matches (allocation : Allocation) (total : UInt32) (visit : Visit) : Prop :=
  allocation.Admits visit ∧ ∃ split ∈ allocation.splits, split.Covers total visit

/-- The allocation at one place and its split at another match. -/
structure Flag.IsMatch (flag : Flag) (visit : Visit) (allocation : Allocation) (split : Split)
    (places : Nat × Nat) : Prop where
  allocated : flag.allocations[places.1]? = some allocation
  shared : allocation.splits[places.2]? = some split
  admits : allocation.Admits visit
  covers : split.Covers flag.totalShards visit

/-- A match is the first if no other comes before it, by the allocation and then by the split. -/
structure Flag.IsFirstMatch (flag : Flag) (visit : Visit) (allocation : Allocation) (split : Split)
    (places : Nat × Nat) : Prop extends flag.IsMatch visit allocation split places where
  least : ∀ other otherSplit otherPlaces, flag.IsMatch visit other otherSplit otherPlaces →
    places.1 < otherPlaces.1 ∨ places.1 = otherPlaces.1 ∧ places.2 ≤ otherPlaces.2

/-- What an allocation and its split serve: the variation must be there, and its value must convert
to the type of the flag. -/
inductive Flag.Serves (flag : Flag) (allocation : Allocation) (split : Split) :
    Except FlagError Evaluation → Prop
  | missing (absent : flag.variations.get? split.variationKey = none) :
      flag.Serves allocation split (.error .inconsistentFlag)
  | unconvertible (variation : Variation)
      (present : flag.variations.get? split.variationKey = some variation)
      (misfit : variation.value.toValue? flag.variationType = none) :
      flag.Serves allocation split (.error .inconsistentFlag)
  | served (variation : Variation) (value : Value)
      (present : flag.variations.get? split.variationKey = some variation)
      (converted : variation.value.toValue? flag.variationType = some value) :
      flag.Serves allocation split (.ok {
        value := value
        variationKey := variation.key
        allocationKey := allocation.key
        doLog := allocation.doLog
        extraLogging := split.extraLogging
        reason := reasonOf allocation split })

/-! ### The search finds matches -/

theorem Condition.holds_iff {condition : Condition} {attributes : Attributes} :
    condition.holds attributes ↔ condition.outcome? attributes = some true := by
  unfold Condition.holds
  cases condition.outcome? attributes with
  | none => simp
  | some answer => simp

theorem Split.serves_iff {split : Split} {total : UInt32} {visit : Visit} :
    split.serves visit.sharder total visit.subjectKey ↔ split.Covers total visit := by
  unfold Split.serves Shard.serves ShardRange.serves ShardRange.contains shardInput Split.Covers
    Visit.bucket
  simp

instance (split : Split) (total : UInt32) (visit : Visit) : Decidable (split.Covers total visit) :=
  decidable_of_iff _ Split.serves_iff

namespace Allocation

variable {allocation : Allocation} {total : UInt32} {visit : Visit} {split : Split}

/-- The window and the rules, as they are tried. -/
theorem admits_iff : allocation.Admits visit ↔
    ¬ (allocation.startAt.any fun start => visit.now.before start) ∧
    ¬ (allocation.endAt.any fun stop => !visit.now.before stop) ∧
    allocation.rules.all fun rule => rule.holds (Flag.identified visit).attributes := by
  have begun : (¬ (allocation.startAt.any fun start => visit.now.before start)) ↔
      ∀ start ∈ allocation.startAt, ¬ visit.now.before start := by
    cases allocation.startAt <;> simp
  have lasts : (¬ (allocation.endAt.any fun stop => !visit.now.before stop)) ↔
      ∀ stop ∈ allocation.endAt, visit.now.before stop := by
    cases allocation.endAt <;> simp
  have targeted : (allocation.rules.all fun rule =>
        rule.holds (Flag.identified visit).attributes) ↔
      ∀ rule ∈ allocation.rules, ∀ condition ∈ rule.conditions,
        condition.operator.outcome? (visit.attribute? condition.attributeName) condition.value =
          some true := by
    simp only [List.all_eq_true, Rule.holds, Condition.holds_iff, Condition.outcome?,
      Visit.get?_identified]
  rw [begun, lasts, targeted]
  exact ⟨fun admits => ⟨admits.begun, admits.lasts, admits.targeted⟩,
    fun ⟨begun, lasts, targeted⟩ => ⟨begun, lasts, targeted⟩⟩

instance (allocation : Allocation) (visit : Visit) : Decidable (allocation.Admits visit) :=
  decidable_of_iff _ admits_iff.symm

/-- **An allocation selects its first split that covers the subject, provided that it admits the
visit.** -/
theorem select_eq_ok_iff :
    allocation.select total (Flag.identified visit) = .ok split ↔
      allocation.Admits visit ∧ (allocation.splits.find? fun split =>
        split.serves visit.sharder total visit.subjectKey) = some split := by
  have now : (Flag.identified visit).now = visit.now := rfl
  have sharder : (Flag.identified visit).sharder = visit.sharder := rfl
  have subject : (Flag.identified visit).subjectKey = visit.subjectKey := rfl
  rw [admits_iff]
  unfold select
  rw [now, sharder, subject]
  by_cases early : allocation.startAt.any fun start => visit.now.before start
  · simp [early]
  by_cases late : allocation.endAt.any fun stop => !visit.now.before stop
  · simp [early, late]
  by_cases targeted : allocation.rules.all fun rule =>
      rule.holds (Flag.identified visit).attributes
  · cases found : allocation.splits.find? fun split =>
        split.serves visit.sharder total visit.subjectKey with
    | none => simp [early, late, targeted]
    | some first => simp [early, late, targeted]
  · simp [early, late, targeted]

/-- An allocation selects a split exactly if it has a match. -/
theorem exists_select_iff : (∃ split, allocation.select total (Flag.identified visit) = .ok split) ↔
    allocation.Matches total visit := by
  constructor
  · rintro ⟨split, selected⟩
    obtain ⟨admits, found⟩ := select_eq_ok_iff.1 selected
    have serves := List.find?_some found
    exact ⟨admits, split, List.mem_of_find?_eq_some found, Split.serves_iff.1 serves⟩
  · rintro ⟨admits, split, inside, covers⟩
    have present : (allocation.splits.find? fun split =>
        split.serves visit.sharder total visit.subjectKey).isSome :=
      List.find?_isSome.2 ⟨split, inside, Split.serves_iff.2 covers⟩
    obtain ⟨first, found⟩ := Option.isSome_iff_exists.1 present
    exact ⟨first, select_eq_ok_iff.2 ⟨admits, found⟩⟩

/-- What an allocation contributes to the search: itself with the split that it selects. -/
def candidate? (allocation : Allocation) (total : UInt32) (visit : Visit) :
    Option (Allocation × Split) :=
  match allocation.select total (Flag.identified visit) with
  | .ok split => some (allocation, split)
  | .error _ => none

theorem candidate?_eq_some_iff {chosen : Allocation} :
    allocation.candidate? total visit = some (chosen, split) ↔
      chosen = allocation ∧ allocation.select total (Flag.identified visit) = .ok split := by
  unfold candidate?
  cases allocation.select total (Flag.identified visit) with
  | error reason => simp
  | ok first =>
    rw [Option.some.injEq, Except.ok.injEq, Prod.mk.injEq]
    exact and_congr eq_comm Iff.rfl

theorem candidate?_eq_none_iff :
    allocation.candidate? total visit = none ↔ ¬ allocation.Matches total visit := by
  rw [← exists_select_iff]
  unfold candidate?
  cases allocation.select total (Flag.identified visit) <;> simp

theorem candidate?_of_admits (admits : allocation.Admits visit) :
    allocation.candidate? total visit =
      (allocation.splits.find? fun split =>
        split.serves visit.sharder total visit.subjectKey).map fun split => (allocation, split) := by
  unfold candidate?
  cases found : allocation.splits.find? fun split =>
      split.serves visit.sharder total visit.subjectKey with
  | some split => rw [select_eq_ok_iff.2 ⟨admits, found⟩]; rfl
  | none =>
    cases selected : allocation.select total (Flag.identified visit) with
    | error reason => rfl
    | ok split =>
      rw [(select_eq_ok_iff.1 selected).2] at found
      cases found

end Allocation

namespace Flag

variable {flag : Flag} {visit : Visit} {allocation : Allocation} {split : Split}
  {places : Nat × Nat}

theorem choice?_eq (flag : Flag) (visit : Visit) :
    flag.choice? visit = flag.allocations.findSome? fun allocation =>
      allocation.candidate? flag.totalShards visit := rfl

theorem IsMatch.matches (isMatch : flag.IsMatch visit allocation split places) :
    allocation ∈ flag.allocations ∧ allocation.Matches flag.totalShards visit :=
  ⟨List.mem_of_getElem? isMatch.allocated, isMatch.admits, split,
    List.mem_of_getElem? isMatch.shared, isMatch.covers⟩

/-- There is only one first match. -/
theorem IsFirstMatch.unique {other : Allocation} {otherSplit : Split} {otherPlaces : Nat × Nat}
    (first : flag.IsFirstMatch visit allocation split places)
    (second : flag.IsFirstMatch visit other otherSplit otherPlaces) :
    (allocation, split) = (other, otherSplit) := by
  have below := first.least _ _ _ second.toIsMatch
  have above := second.least _ _ _ first.toIsMatch
  have samePlaces : places = otherPlaces := Prod.ext (by omega) (by omega)
  subst samePlaces
  have sameAllocation : allocation = other :=
    Option.some.inj (first.allocated.symm.trans second.allocated)
  subst sameAllocation
  have sameSplit : split = otherSplit := Option.some.inj (first.shared.symm.trans second.shared)
  rw [sameSplit]

/-- What the search chooses is the first match. -/
theorem isFirstMatch_of_choice? (chosen : flag.choice? visit = some (allocation, split)) :
    ∃ places, flag.IsFirstMatch visit allocation split places := by
  rw [choice?_eq, List.findSome?_eq_some_iff] at chosen
  obtain ⟨before, candidate, after, listed, isCandidate, silent⟩ := chosen
  obtain ⟨rfl, selected⟩ := Allocation.candidate?_eq_some_iff.1 isCandidate
  obtain ⟨admits, found⟩ := Allocation.select_eq_ok_iff.1 selected
  obtain ⟨serves, earlier, later, splits, missed⟩ := List.find?_eq_some_iff_append.1 found
  refine ⟨(before.length, earlier.length), ⟨by simp [listed], by simp [splits], admits,
    Split.serves_iff.1 serves⟩, fun other otherSplit otherPlaces isMatch => ?_⟩
  rcases Nat.lt_trichotomy before.length otherPlaces.1 with above | same | below
  · exact Or.inl above
  · refine Or.inr ⟨same, Nat.le_of_not_lt fun below => ?_⟩
    -- A match within the chosen allocation, before the chosen split, would have been found.
    have isAllocation : other = allocation := by
      have allocated := isMatch.allocated
      rw [listed, ← same] at allocated
      simpa using allocated.symm
    have shared := isMatch.shared
    rw [isAllocation, splits, List.getElem?_append_left below] at shared
    have refused := missed otherSplit (List.mem_of_getElem? shared)
    rw [Split.serves_iff.2 isMatch.covers] at refused
    cases refused
  · -- So would a match of an allocation before the chosen one.
    have allocated := isMatch.allocated
    rw [listed, List.getElem?_append_left below] at allocated
    exact absurd isMatch.matches.2
      (Allocation.candidate?_eq_none_iff.1 (silent other (List.mem_of_getElem? allocated)))

/-- **The search chooses nothing exactly if nothing matches.** -/
theorem choice?_eq_none_iff : flag.choice? visit = none ↔
    ∀ allocation split places, ¬ flag.IsMatch visit allocation split places := by
  rw [choice?_eq, List.findSome?_eq_none_iff]
  constructor
  · intro silent allocation split places isMatch
    have ⟨inside, isCandidate⟩ := isMatch.matches
    exact Allocation.candidate?_eq_none_iff.1 (silent allocation inside) isCandidate
  · intro none allocation inside
    refine Allocation.candidate?_eq_none_iff.2 fun ⟨admits, split, shared, covers⟩ => ?_
    obtain ⟨first, allocated⟩ := List.mem_iff_getElem?.1 inside
    obtain ⟨second, isSplit⟩ := List.mem_iff_getElem?.1 shared
    exact none allocation split (first, second) ⟨allocated, isSplit, admits, covers⟩

/-- **The search chooses the first match.** -/
theorem choice?_eq_some_iff : flag.choice? visit = some (allocation, split) ↔
    ∃ places, flag.IsFirstMatch visit allocation split places := by
  constructor
  · exact isFirstMatch_of_choice?
  · rintro ⟨places, isFirst⟩
    cases chosen : flag.choice? visit with
    | none => exact absurd isFirst.toIsMatch (choice?_eq_none_iff.1 chosen _ _ _)
    | some choice =>
      obtain ⟨otherPlaces, isChosen⟩ := isFirstMatch_of_choice? chosen
      rw [isFirst.unique isChosen]

/-! ### What a flag serves -/

/-- What counts of a choice: the allocation without its splits, and the split. -/
def essence (choice : Allocation × Split) : Allocation × Split :=
  ({ choice.1 with splits := [] }, choice.2)

/-- An enabled flag serves what its choice serves. -/
theorem serves_of_choice? (enabled : flag.enabled)
    (chosen : flag.choice? visit = some (allocation, split)) :
    flag.Serves allocation split (flag.evaluate visit) := by
  unfold evaluate
  simp only [enabled, chosen]
  cases present : flag.variations.get? split.variationKey with
  | none => exact .missing present
  | some variation =>
    cases converted : variation.value.toValue? flag.variationType with
    | none => simpa [converted] using .unconvertible variation present converted
    | some value => simpa [converted] using .served variation value present converted

/-- What an answer takes from a choice: what the split serves, whatever its shards, and of the
allocation its key, whether to report, and the reason. -/
def gist (choice : Allocation × Split) : Split × String × Bool × Reason :=
  ({ choice.2 with shards := [] }, choice.1.key, choice.1.doLog, reasonOf choice.1 choice.2)

/-- The gist of a choice does not depend on the splits that were not chosen. -/
theorem map_gist (choice : Option (Allocation × Split)) :
    choice.map gist = (choice.map essence).map gist := by
  rw [Option.map_map]
  rfl

/-- **The answer depends on the allocations through the gist of the choice alone.** -/
theorem evaluate_of_gist {other : Flag} (enabled : other.enabled = flag.enabled)
    (type : other.variationType = flag.variationType)
    (chosen : (other.choice? visit).map gist = (flag.choice? visit).map gist)
    (variations : ∀ allocation split, flag.choice? visit = some (allocation, split) →
      other.variations.get? split.variationKey = flag.variations.get? split.variationKey) :
    other.evaluate visit = flag.evaluate visit := by
  unfold evaluate
  rw [enabled, type]
  cases isChosen : flag.choice? visit with
  | none =>
    rw [isChosen] at chosen
    rw [Option.map_eq_none_iff.1 chosen]
  | some choice =>
    rw [isChosen] at chosen
    obtain ⟨otherChoice, isOther, same⟩ := Option.map_eq_some_iff.1 chosen
    simp only [gist, Prod.mk.injEq, Split.mk.injEq, true_and] at same
    obtain ⟨⟨variationKey, extraLogging⟩, key, doLog, reason⟩ := same
    rw [isOther]
    simp only [variationKey, variations choice.1 choice.2 isChosen, extraLogging, key, doLog, reason]

/-- Of the chosen allocation the answer does not depend on the splits that were not chosen. -/
theorem evaluate_congr {other : Flag} (enabled : other.enabled = flag.enabled)
    (type : other.variationType = flag.variationType)
    (chosen : (other.choice? visit).map essence = (flag.choice? visit).map essence)
    (variations : ∀ allocation split, flag.choice? visit = some (allocation, split) →
      other.variations.get? split.variationKey = flag.variations.get? split.variationKey) :
    other.evaluate visit = flag.evaluate visit := by
  refine evaluate_of_gist enabled type ?_ variations
  rw [map_gist, chosen, ← map_gist]

/-! ### What cannot change the answer -/

/-- Allocations without a match may be put in, taken out or replaced. -/
theorem evaluate_of_silent_allocations (flag : Flag)
    {before dropped inserted after : List Allocation}
    (silent : ∀ allocation ∈ dropped ++ inserted, ¬ allocation.Matches flag.totalShards visit) :
    { flag with allocations := before ++ inserted ++ after }.evaluate visit =
      { flag with allocations := before ++ dropped ++ after }.evaluate visit := by
  have passed : ∀ some : List Allocation, some ⊆ dropped ++ inserted →
      (some.findSome? fun allocation => allocation.candidate? flag.totalShards visit) = none := by
    intro some within
    rw [List.findSome?_eq_none_iff]
    intro allocation inside
    exact Allocation.candidate?_eq_none_iff.2 (silent allocation (within inside))
  refine evaluate_congr rfl rfl (congrArg _ ?_) fun _ _ _ => rfl
  simp only [choice?_eq, List.findSome?_append, passed dropped (List.subset_append_left _ _),
    passed inserted (List.subset_append_right _ _)]

/-- What an allocation contributes depends on its first split that covers the subject. -/
theorem essence_candidate? (allocation : Allocation) (splits : List Split) (total : UInt32)
    (visit : Visit) :
    (Allocation.candidate? { allocation with splits := splits } total visit).map essence =
      if allocation.Admits visit then
        (splits.find? fun split => split.serves visit.sharder total visit.subjectKey).map
          fun split => ({ allocation with splits := [] }, split)
      else none := by
  have sameTerms : Allocation.Admits { allocation with splits := splits } visit ↔
      allocation.Admits visit :=
    ⟨fun admits => ⟨admits.begun, admits.lasts, admits.targeted⟩,
      fun admits => ⟨admits.begun, admits.lasts, admits.targeted⟩⟩
  by_cases admits : allocation.Admits visit
  · rw [if_pos admits, Allocation.candidate?_of_admits (sameTerms.2 admits), Option.map_map]
    rfl
  · rw [if_neg admits, Option.map_eq_none_iff, Allocation.candidate?_eq_none_iff]
    intro isCandidate
    exact admits (sameTerms.1 isCandidate.1)

/-- What is chosen from allocations around one: a choice before it, or its own, or one after it. -/
theorem map_choice? {α : Type} (view : Allocation × Split → α) (flag : Flag) (visit : Visit)
    (before : List Allocation) (allocation : Allocation) (after : List Allocation) :
    (choice? { flag with allocations := before ++ allocation :: after } visit).map view =
      ((choice? { flag with allocations := before } visit).map view).or
        (((allocation.candidate? flag.totalShards visit).map view).or
          ((choice? { flag with allocations := after } visit).map view)) := by
  simp only [choice?_eq, List.findSome?_append, List.findSome?_cons, Option.map_or]
  cases allocation.candidate? flag.totalShards visit <;> rfl

/-- An allocation may be replaced by one that contributes the same to answers. -/
theorem evaluate_of_candidate? (flag : Flag) {before after : List Allocation}
    {allocation replaced : Allocation}
    (alike : (replaced.candidate? flag.totalShards visit).map gist =
      (allocation.candidate? flag.totalShards visit).map gist) :
    { flag with allocations := before ++ replaced :: after }.evaluate visit =
      { flag with allocations := before ++ allocation :: after }.evaluate visit := by
  refine evaluate_of_gist rfl rfl ?_ fun _ _ _ => rfl
  rw [map_choice?, map_choice?, alike]

/-- Splits without a match may be put in, taken out or replaced within their allocation. -/
theorem evaluate_of_silent_splits (flag : Flag) {before after : List Allocation}
    (allocation : Allocation) {first dropped inserted rest : List Split}
    (silent : allocation.Admits visit →
      ∀ split ∈ dropped ++ inserted, ¬ split.Covers flag.totalShards visit) :
    { flag with allocations :=
        before ++ { allocation with splits := first ++ inserted ++ rest } :: after }.evaluate visit =
      { flag with allocations :=
        before ++ { allocation with splits := first ++ dropped ++ rest } :: after }.evaluate
          visit := by
  refine evaluate_congr rfl rfl ?_ fun _ _ _ => rfl
  rw [map_choice?, map_choice?, essence_candidate?, essence_candidate?]
  by_cases admits : allocation.Admits visit
  · have passed : ∀ some : List Split, some ⊆ dropped ++ inserted →
        (some.find? fun split =>
          split.serves visit.sharder flag.totalShards visit.subjectKey) = none := by
      intro some within
      rw [List.find?_eq_none]
      intro split inside serves
      exact silent admits split (within inside) (Split.serves_iff.1 serves)
    simp only [List.find?_append, passed dropped (List.subset_append_left _ _),
      passed inserted (List.subset_append_right _ _)]
  · rw [if_neg admits, if_neg admits]

/-- Nothing behind a match counts, neither the later splits of its allocation nor the later
allocations. -/
theorem evaluate_of_behind_match (flag : Flag) {before after after' : List Allocation}
    (allocation : Allocation) {first rest rest' : List Split} {split : Split}
    (admits : allocation.Admits visit) (covers : split.Covers flag.totalShards visit) :
    { flag with allocations :=
        before ++ { allocation with splits := first ++ split :: rest' } :: after' }.evaluate visit =
      { flag with allocations :=
        before ++ { allocation with splits := first ++ split :: rest } :: after }.evaluate
          visit := by
  have found : ∃ served, ∀ rest : List Split, ((first ++ split :: rest).find? fun split =>
      split.serves visit.sharder flag.totalShards visit.subjectKey) = some served := by
    refine ⟨(first.find? fun split =>
      split.serves visit.sharder flag.totalShards visit.subjectKey).getD split, fun rest => ?_⟩
    have serves := Split.serves_iff.2 covers
    simp only [List.find?_append, List.find?_cons, serves]
    cases first.find? fun split =>
      split.serves visit.sharder flag.totalShards visit.subjectKey <;> rfl
  obtain ⟨served, found⟩ := found
  refine evaluate_congr rfl rfl ?_ fun _ _ _ => rfl
  rw [map_choice?, map_choice?, essence_candidate?, essence_candidate?, if_pos admits,
    if_pos admits, found, found]
  cases choice? { flag with allocations := before } visit <;> rfl

/-- Of the variations only the one of the chosen split counts. -/
theorem evaluate_of_other_variations (flag : Flag) {key : String} {entityId : Option Int64}
    {variations : Dict Variation} (isFirst : flag.IsFirstMatch visit allocation split places)
    (same : variations.get? split.variationKey = flag.variations.get? split.variationKey) :
    { flag with key := key, entityId := entityId, variations := variations }.evaluate visit =
      flag.evaluate visit := by
  refine evaluate_congr rfl rfl rfl fun other otherSplit chosen => ?_
  obtain ⟨otherPlaces, isOther⟩ := choice?_eq_some_iff.1 chosen
  have equal := congrArg Prod.snd (isFirst.unique isOther)
  rw [show otherSplit = split from equal.symm]
  exact same

/-- **The first match decides, and nothing else does.**

A disabled flag is refused, an enabled one without a match has no allocation, and any other serves
what its first match serves. Allocations and splits that do not match may be put in, taken out or
replaced, everything behind a match may be changed, and so may the key of the flag, its entity and
all variations but the one that is served. This is so for every sharder. -/
theorem evaluate_follows_first_match (flag : Flag) (visit : Visit) :
    (flag.enabled = false ∧ flag.evaluate visit = .error .flagDisabled ∨
      flag.enabled = true ∧ (∀ allocation split places,
          ¬ flag.IsMatch visit allocation split places) ∧
        flag.evaluate visit = .error .noAllocation ∨
      flag.enabled = true ∧ ∃ allocation split places,
        flag.IsFirstMatch visit allocation split places ∧
          flag.Serves allocation split (flag.evaluate visit)) ∧
    (∀ before dropped inserted after : List Allocation,
      (∀ allocation ∈ dropped ++ inserted, ¬ allocation.Matches flag.totalShards visit) →
      { flag with allocations := before ++ inserted ++ after }.evaluate visit =
        { flag with allocations := before ++ dropped ++ after }.evaluate visit) ∧
    (∀ (before after : List Allocation) (allocation : Allocation)
        (first dropped inserted rest : List Split),
      (allocation.Admits visit →
        ∀ split ∈ dropped ++ inserted, ¬ split.Covers flag.totalShards visit) →
      { flag with allocations := before ++
          { allocation with splits := first ++ inserted ++ rest } :: after }.evaluate visit =
        { flag with allocations := before ++
          { allocation with splits := first ++ dropped ++ rest } :: after }.evaluate visit) ∧
    (∀ (before after after' : List Allocation) (allocation : Allocation)
        (first rest rest' : List Split) (split : Split),
      allocation.Admits visit → split.Covers flag.totalShards visit →
      { flag with allocations := before ++
          { allocation with splits := first ++ split :: rest' } :: after' }.evaluate visit =
        { flag with allocations := before ++
          { allocation with splits := first ++ split :: rest } :: after }.evaluate visit) ∧
    (∀ allocation split places, flag.IsFirstMatch visit allocation split places →
      ∀ (key : String) (entityId : Option Int64) (variations : Dict Variation),
        variations.get? split.variationKey = flag.variations.get? split.variationKey →
        { flag with key := key, entityId := entityId, variations := variations }.evaluate visit =
          flag.evaluate visit) := by
  refine ⟨?_, fun _ _ _ _ silent => flag.evaluate_of_silent_allocations silent,
    fun _ _ allocation _ _ _ _ silent => flag.evaluate_of_silent_splits allocation silent,
    fun _ _ _ allocation _ _ _ _ admits covers =>
      flag.evaluate_of_behind_match allocation admits covers,
    fun _ _ _ isFirst _ _ _ same => flag.evaluate_of_other_variations isFirst same⟩
  cases enabled : flag.enabled with
  | false =>
    refine Or.inl ⟨rfl, ?_⟩
    unfold evaluate
    simp [enabled]
  | true =>
    cases chosen : flag.choice? visit with
    | none =>
      refine Or.inr (Or.inl ⟨rfl, choice?_eq_none_iff.1 chosen, ?_⟩)
      unfold evaluate
      simp [enabled, chosen]
    | some choice =>
      obtain ⟨places, isFirst⟩ := choice?_eq_some_iff.1 chosen
      exact Or.inr (Or.inr ⟨rfl, choice.1, choice.2, places, isFirst,
        serves_of_choice? enabled chosen⟩)

/-! ### A flag with an answer behind what does not match -/

/-- An allocation that is not open yet. -/
def tomorrow : Allocation :=
  ⟨"tomorrow", [], some ⟨1700086400, 0⟩, none, [⟨[], "off", Dict.empty⟩], true⟩

/-- A split without subjects, since its range of shards is empty. -/
def nobody : Split := ⟨[⟨"launch", [⟨0, 0⟩]⟩], "off", Dict.empty⟩

/-- A split of all subjects. -/
def anybody : Split := ⟨[], "on", Dict.empty⟩

/-- An allocation for one subject, whose second split serves. -/
def today : Allocation :=
  ⟨"today", [⟨[⟨.oneOf, "id", .multiple ["visitor"]⟩]⟩], none, none, [nobody, anybody], true⟩

/-- A flag that serves the subject what its second allocation says. -/
def launch : Flag where
  key := "launch"
  enabled := true
  variationType := .string
  variations := ⟨[("off", ⟨"off", .string "no"⟩), ("on", ⟨"on", .string "yes"⟩)], by decide⟩
  allocations := [tomorrow, today]
  totalShards := 10000
  entityId := none

/-- The subject, without attributes, one day early. -/
def earlyVisit : Visit := ⟨digestSharder, "visitor", Dict.empty, ⟨1700000000, 0⟩⟩

theorem launch_choice? : launch.choice? earlyVisit = some (today, anybody) := by decide +kernel

theorem evaluate_follows_first_match_launch :
    ¬ tomorrow.Matches launch.totalShards earlyVisit ∧
    { launch with allocations := [today] }.evaluate earlyVisit = launch.evaluate earlyVisit ∧
    ¬ nobody.Covers launch.totalShards earlyVisit ∧
    { launch with allocations := [tomorrow, { today with splits := [anybody] }] }.evaluate
      earlyVisit = launch.evaluate earlyVisit ∧
    today.Admits earlyVisit ∧ anybody.Covers launch.totalShards earlyVisit ∧
    { launch with allocations :=
      [tomorrow, { today with splits := [nobody, anybody, nobody] }, today] }.evaluate earlyVisit =
        launch.evaluate earlyVisit ∧
    (∃ places, launch.IsFirstMatch earlyVisit today anybody places) ∧
    { launch with variations := ⟨[("on", ⟨"on", .string "yes"⟩)], by decide⟩ }.evaluate
      earlyVisit = launch.evaluate earlyVisit := by
  have silent : ¬ tomorrow.Matches launch.totalShards earlyVisit :=
    fun isCandidate => absurd isCandidate.1 (by decide +kernel)
  have empty : ¬ nobody.Covers launch.totalShards earlyVisit := by decide +kernel
  have admits : today.Admits earlyVisit := by decide +kernel
  have covers : anybody.Covers launch.totalShards earlyVisit := by decide +kernel
  obtain ⟨places, isFirst⟩ := isFirstMatch_of_choice? launch_choice?
  obtain ⟨_, allocations, splits, behind, variations⟩ :=
    evaluate_follows_first_match launch earlyVisit
  refine ⟨silent, ?_, empty, ?_, admits, covers, ?_, ⟨places, isFirst⟩, ?_⟩
  · exact allocations [] [tomorrow] [] [today] fun allocation inside => by
      rw [List.mem_singleton.1 inside]
      exact silent
  · exact splits [tomorrow] [] today [] [nobody] [] [anybody] fun _ split inside => by
      rw [List.mem_singleton.1 inside]
      exact empty
  · exact behind [tomorrow] [] [today] today [nobody] [] [nobody] anybody admits covers
  · exact variations today anybody places isFirst "launch" none _ (by decide +kernel)

end Flag

end FeatureFlags
