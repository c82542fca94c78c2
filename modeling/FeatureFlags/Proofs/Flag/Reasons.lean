import FeatureFlags.Proofs.Flag.FirstMatch

/-!
**Who gets a static answer.**

The reason of an answer is told from the chosen split alone, and an answer is called static if the
split has no shards and its allocation no rules. A split without shards serves everyone, so nobody
whom the allocation reaches gets past it; but whoever falls into a split before it is served that
one. Those who get past them all are served alike, and the others may be served something else.

* `Flag.variationOf?`: the variation that a split serves, with its value.
* `Flag.mem_before_of_choice?`: nobody gets past a split without shards.
* `Flag.static_answer_is_shared_behind_shards`: what a static answer says of everyone else whom the
  allocation reaches.
* `Flag.static_answer_is_not_shared`: one subject gets a static answer and another, whom the same
  allocation reaches, another variation.
-/

namespace FeatureFlags

/-- The key and the value of the variation that is served. -/
def Evaluation.variation (evaluation : Evaluation) : String × Value :=
  (evaluation.variationKey, evaluation.value)

namespace Flag

variable {flag : Flag} {visit : Visit} {allocation : Allocation} {split : Split}
  {evaluation : Evaluation}

/-! ### Variations -/

/-- The key and the value of the variation that a split serves, if it serves one. -/
def variationOf? (flag : Flag) (split : Split) : Option (String × Value) := do
  let variation ← flag.variations.get? split.variationKey
  let value ← variation.value.toValue? flag.variationType
  return (variation.key, value)

/-- An answer comes from a choice, and its reason is that of the choice. -/
theorem exists_choice?_of_evaluate (served : flag.evaluate visit = .ok evaluation) :
    flag.enabled ∧ ∃ allocation split, flag.choice? visit = some (allocation, split) ∧
      evaluation.reason = reasonOf allocation split := by
  cases enabled : flag.enabled with
  | false =>
    unfold evaluate at served
    simp [enabled] at served
  | true =>
    cases chosen : flag.choice? visit with
    | none =>
      unfold evaluate at served
      simp [enabled, chosen] at served
    | some choice =>
      obtain ⟨allocation, split⟩ := choice
      have serves := serves_of_choice? enabled chosen
      rw [served] at serves
      cases serves
      exact ⟨rfl, allocation, split, rfl, rfl⟩

/-- The variation of an answer is the one that the chosen split serves. -/
theorem variation_of_choice? (enabled : flag.enabled)
    (chosen : flag.choice? visit = some (allocation, split)) :
    (flag.evaluate visit).toOption.map Evaluation.variation = flag.variationOf? split := by
  have serves := serves_of_choice? enabled chosen
  unfold variationOf?
  generalize flag.evaluate visit = answer at serves
  cases serves with
  | missing absent =>
    rw [absent]
    rfl
  | unconvertible variation present misfit =>
    simp only [present, misfit, Option.bind_eq_bind, Option.bind_some, Option.bind_none]
    rfl
  | served variation value present converted =>
    simp only [present, converted, Option.bind_eq_bind, Option.bind_some]
    rfl

/-- Answers of one choice are the same. -/
theorem evaluate_of_choice?_eq {other : Visit} (same : flag.choice? other = flag.choice? visit) :
    flag.evaluate other = flag.evaluate visit := by
  unfold evaluate
  rw [same]

/-- A choice is called static if there are neither rules nor shards. -/
theorem reasonOf_eq_static_iff :
    reasonOf allocation split = .static ↔ allocation.rules = [] ∧ split.shards = [] := by
  unfold reasonOf
  cases allocation.rules <;> cases split.shards <;> simp

/-! ### Splits without shards -/

/-- The split that is chosen is the first of its allocation that covers the subject. -/
theorem find?_of_choice? (chosen : flag.choice? visit = some (allocation, split)) :
    (allocation.splits.find? fun split =>
      split.serves visit.sharder flag.totalShards visit.subjectKey) = some split := by
  rw [choice?_eq, List.findSome?_eq_some_iff] at chosen
  obtain ⟨_, candidate, _, _, isCandidate, _⟩ := chosen
  obtain ⟨rfl, selected⟩ := Allocation.candidate?_eq_some_iff.1 isCandidate
  exact (Allocation.select_eq_ok_iff.1 selected).2

/-- Whatever comes before the chosen split does not cover the subject, and so has shards. -/
theorem exists_before_of_choice? (chosen : flag.choice? visit = some (allocation, split)) :
    ∃ before after, allocation.splits = before ++ split :: after ∧
      ∀ earlier ∈ before, earlier.shards ≠ [] ∧ ¬ earlier.Covers flag.totalShards visit := by
  obtain ⟨_, before, after, listed, missed⟩ :=
    List.find?_eq_some_iff_append.1 (find?_of_choice? chosen)
  refine ⟨before, after, listed, fun earlier inside => ?_⟩
  have uncovered : ¬ earlier.Covers flag.totalShards visit := by
    intro covers
    have refused := missed earlier inside
    rw [Split.serves_iff.2 covers] at refused
    cases refused
  -- A split without shards covers everyone.
  refine ⟨fun none => uncovered fun shard isShard => ?_, uncovered⟩
  rw [none] at isShard
  cases isShard

/-- Nobody gets past a split without shards. -/
theorem mem_before_of_choice? {other : Visit} {otherSplit : Split} {before after : List Split}
    (listed : allocation.splits = before ++ split :: after) (unsharded : split.shards = [])
    (chosen : flag.choice? other = some (allocation, otherSplit)) :
    otherSplit ∈ before ∨ otherSplit = split := by
  have serves : split.serves other.sharder flag.totalShards other.subjectKey := by
    rw [Split.serves, unsharded]
    rfl
  have found := find?_of_choice? chosen
  simp only [listed, List.find?_append, List.find?_cons, serves] at found
  cases earlier : before.find? fun split =>
      split.serves other.sharder flag.totalShards other.subjectKey with
  | none =>
    rw [earlier] at found
    exact Or.inr (Option.some.inj found).symm
  | some first =>
    rw [earlier] at found
    obtain rfl := Option.some.inj found
    exact Or.inl (List.mem_of_find?_eq_some earlier)

/-! ### Static answers -/

/-- **A static answer is shared by all who get past the shards before it.**

If an answer is static, its allocation has no rules and its split no shards, while all splits before
it have some. Whoever else the allocation reaches, whenever and with whatever sharder, is served by
that split, and then gets the very same answer, or is bucketed into a split before it. In this case
the answer is not static, and it is the same variation exactly if the two splits serve the same. -/
theorem static_answer_is_shared_behind_shards (served : flag.evaluate visit = .ok evaluation)
    (static : evaluation.reason = .static) :
    ∃ allocation split before after, flag.choice? visit = some (allocation, split) ∧
      allocation.rules = [] ∧ split.shards = [] ∧ allocation.splits = before ++ split :: after ∧
      (∀ earlier ∈ before, earlier.shards ≠ [] ∧ ¬ earlier.Covers flag.totalShards visit) ∧
      ∀ other otherSplit, flag.choice? other = some (allocation, otherSplit) →
        otherSplit = split ∧ flag.evaluate other = .ok evaluation ∨
        otherSplit ∈ before ∧ otherSplit.Covers flag.totalShards other ∧
          (∀ another, flag.evaluate other = .ok another → another.reason = .split) ∧
          ((flag.evaluate other).toOption.map Evaluation.variation = some evaluation.variation ↔
            flag.variationOf? otherSplit = flag.variationOf? split) := by
  obtain ⟨enabled, allocation, split, chosen, reason⟩ := exists_choice?_of_evaluate served
  obtain ⟨ruleless, unsharded⟩ := reasonOf_eq_static_iff.1 (reason.symm.trans static)
  obtain ⟨before, after, listed, sharded⟩ := exists_before_of_choice? chosen
  refine ⟨allocation, split, before, after, chosen, ruleless, unsharded, listed, sharded,
    fun other otherSplit otherChosen => ?_⟩
  rcases mem_before_of_choice? listed unsharded otherChosen with earlier | rfl
  · refine Or.inr ⟨earlier, ?_, fun another answered => ?_, ?_⟩
    · have serves := List.find?_some (find?_of_choice? otherChosen)
      exact Split.serves_iff.1 serves
    · obtain ⟨_, _, _, isChosen, otherReason⟩ := exists_choice?_of_evaluate answered
      obtain ⟨rfl, rfl⟩ := Prod.mk.inj (Option.some.inj (isChosen.symm.trans otherChosen))
      have shards := (sharded _ earlier).1
      rw [otherReason, reasonOf]
      simp [ruleless, shards]
    · have own := variation_of_choice? enabled chosen
      rw [served] at own
      rw [variation_of_choice? enabled otherChosen, ← own]
      rfl
  · exact Or.inl ⟨rfl, (evaluate_of_choice?_eq (otherChosen.trans chosen.symm)).trans served⟩

/-! ### An experiment on half of the subjects -/

/-- A split of the lower half of the shards. -/
def lowerHalf : Split := ⟨[⟨"experiment", [⟨0, 5000⟩]⟩], "off", Dict.empty⟩

/-- An allocation without rules, whose first split has a shard and whose second one has none. -/
def halfExperiment : Allocation :=
  ⟨"experiment", [], none, none, [lowerHalf, anybody], true⟩

/-- A flag with an experiment on half of the subjects. -/
def experiment : Flag := { launch with allocations := [halfExperiment] }

/-- What those get who are not in the lower half. -/
def staticAnswer : Evaluation :=
  ⟨.string "yes", "on", "experiment", true, Dict.empty, .static⟩

/-- A subject in the lower half, at the same time and with the same sharder. -/
def lowerVisit : Visit := { earlyVisit with subjectKey := "alice" }

theorem experiment_evaluate : experiment.evaluate earlyVisit = .ok staticAnswer := by decide +kernel

theorem experiment_choice? : experiment.choice? lowerVisit = some (halfExperiment, lowerHalf) := by
  decide +kernel

theorem static_answer_is_shared_behind_shards_experiment :
    experiment.evaluate earlyVisit = .ok staticAnswer ∧ staticAnswer.reason = .static ∧
    ∃ split before after, halfExperiment.splits = before ++ split :: after ∧
      split.shards = [] ∧ lowerHalf ∈ before ∧
      lowerHalf.Covers experiment.totalShards lowerVisit := by
  obtain ⟨allocation, split, before, after, chosen, _, unsharded, listed, _, others⟩ :=
    static_answer_is_shared_behind_shards experiment_evaluate rfl
  have same : experiment.choice? earlyVisit = some (halfExperiment, anybody) := by decide +kernel
  obtain ⟨rfl, rfl⟩ := Prod.mk.inj (Option.some.inj (same.symm.trans chosen))
  refine ⟨experiment_evaluate, rfl, anybody, before, after, listed, unsharded, ?_⟩
  rcases others lowerVisit lowerHalf experiment_choice? with ⟨equal, _⟩ | ⟨earlier, covers, _⟩
  · exact absurd equal (by decide)
  · exact ⟨earlier, covers⟩

/-- **A static answer is not the same for everyone whom its allocation reaches**, even at one time
and with one sharder. -/
theorem static_answer_is_not_shared :
    ¬ ∀ (flag : Flag) (visit other : Visit) (evaluation : Evaluation) (allocation : Allocation)
      (split otherSplit : Split), other.sharder = visit.sharder → other.now = visit.now →
      flag.evaluate visit = .ok evaluation → evaluation.reason = .static →
      flag.choice? visit = some (allocation, split) →
      flag.choice? other = some (allocation, otherSplit) →
        (flag.evaluate other).toOption.map Evaluation.variation = some evaluation.variation := by
  intro shared
  have same := shared experiment earlyVisit lowerVisit staticAnswer halfExperiment anybody lowerHalf
    rfl rfl experiment_evaluate rfl (by decide +kernel) experiment_choice?
  have served : (experiment.evaluate lowerVisit).toOption.map Evaluation.variation =
      some ("off", .string "no") := by decide +kernel
  rw [served] at same
  exact absurd same (by decide)

end Flag

end FeatureFlags
