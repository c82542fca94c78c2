import FeatureFlags.Proofs.Flag.FirstMatch

/-!
**Targeting is a conjunction of tests that may have no answer.**

A test that has no answer fails, and so does its negation, so an operator and its negation share the
inputs on which they fail together: those that they cannot decide. Rules hold if all of their
conditions hold, and so do all rules of an allocation, so it is the set of conditions alone that
tells whom an allocation is open to.

* `Operator.Accepts`: an operator, tried on an attribute.
* `never_both_of_negated`: a test and its negation.
* `matchTest?_isSome_iff`, `oneOfTest?_isSome_iff`: which tests have an answer.
* `Allocation.admits_iff_of_conditions`: rules with the same conditions are open to the same visits.
* `Flag.targeting_is_conjunction`: the laws of the operators, and what rules may be replaced by.
-/

namespace FeatureFlags

/-! ### Tests and their negations -/

/-- The condition of an operator on an attribute holds; the attribute may be missing. -/
def Operator.Accepts (operator : Operator) (attributes : Attributes) (name : String)
    (expected : ConditionValue) : Prop :=
  Condition.holds ⟨operator, name, expected⟩ attributes

/-- **A test and its negation never hold both**, and one of them does exactly if there is an
answer. -/
theorem never_both_of_negated {answer negated : Option Bool} (opposite : negated = answer.map not) :
    ¬ (answer.getD false ∧ negated.getD false) ∧
      ((answer.getD false ↔ ¬ negated.getD false) ↔ answer.isSome) := by
  subst opposite
  cases answer with
  | none => simp
  | some holds => cases holds <;> simp

/-- A pattern is looked for in texts only, and only if it is one. -/
theorem matchTest?_isSome_iff {actual : Option AttributeValue} {expected : ConditionValue} :
    (matchTest? actual expected).isSome ↔ ∃ text pattern, actual = some (.string text) ∧
      expected = .single (.string pattern) ∧ (Pattern.ofText? pattern).isSome := by
  unfold matchTest?
  split
  · rename_i text pattern
    rw [Option.isSome_map]
    constructor
    · exact fun isPattern => ⟨text, pattern, rfl, rfl, isPattern⟩
    · rintro ⟨_, _, sameText, samePattern, isPattern⟩
      cases sameText
      cases samePattern
      exact isPattern
  · rename_i other
    constructor
    · exact fun absent => by cases absent
    · rintro ⟨text, pattern, rfl, rfl, _⟩
      exact absurd rfl (other text pattern rfl)

/-- Every value but null has a text by which it is looked up. -/
theorem AttributeValue.lookupText?_isSome_iff {value : AttributeValue} :
    value.lookupText?.isSome ↔ value ≠ .null := by
  cases value <;> simp [lookupText?]

/-- A value is looked up in lists only, and only if it is there and not null. -/
theorem oneOfTest?_isSome_iff {actual : Option AttributeValue} {expected : ConditionValue} :
    (oneOfTest? actual expected).isSome ↔
      (∃ value, actual = some value ∧ value ≠ .null) ∧ ∃ values, expected = .multiple values := by
  cases expected with
  | single value => simp [oneOfTest?]
  | multiple values =>
    have listed : ∃ others, ConditionValue.multiple values = .multiple others := ⟨values, rfl⟩
    rw [oneOfTest?, Option.isSome_map, and_iff_left listed]
    cases actual with
    | none => simp
    | some value => simp [AttributeValue.lookupText?_isSome_iff]

/-! ### Rules with the same conditions -/

/-- **Whom an allocation is open to is told by the set of its conditions**, however they are put
into rules. -/
theorem Allocation.admits_iff_of_conditions {allocation : Allocation} {rules : List Rule}
    (same : ∀ condition, condition ∈ rules.flatMap Rule.conditions ↔
      condition ∈ allocation.rules.flatMap Rule.conditions) (visit : Visit) :
    Allocation.Admits { allocation with rules := rules } visit ↔ allocation.Admits visit := by
  have targets (rules : List Rule) :
      (∀ rule ∈ rules, ∀ condition ∈ rule.conditions,
        condition.operator.outcome? (visit.attribute? condition.attributeName) condition.value =
          some true) ↔
      ∀ condition ∈ rules.flatMap Rule.conditions,
        condition.operator.outcome? (visit.attribute? condition.attributeName) condition.value =
          some true := by
    simp only [List.mem_flatMap]
    exact ⟨fun each condition ⟨rule, isRule, inside⟩ => each rule isRule condition inside,
      fun each rule isRule condition inside => each condition ⟨rule, isRule, inside⟩⟩
  have alike := (targets rules).trans
    ((forall_congr' fun condition => imp_congr (same condition) Iff.rfl).trans
      (targets allocation.rules).symm)
  exact ⟨fun admits => ⟨admits.begun, admits.lasts, alike.1 admits.targeted⟩,
    fun admits => ⟨admits.begun, admits.lasts, alike.2 admits.targeted⟩⟩

namespace Flag

variable {visit : Visit}

/-- An allocation contributes the same to answers with other rules, if these have the same
conditions. They must not be none at all, since that is told by the reason. -/
theorem gist_candidate?_of_conditions {allocation : Allocation} {rules : List Rule}
    (some_rule : rules ≠ []) (other_rule : allocation.rules ≠ [])
    (same : ∀ condition, condition ∈ rules.flatMap Rule.conditions ↔
      condition ∈ allocation.rules.flatMap Rule.conditions) (total : UInt32) :
    (Allocation.candidate? { allocation with rules := rules } total visit).map gist =
      (allocation.candidate? total visit).map gist := by
  have targeted (split : Split) : reasonOf { allocation with rules := rules } split =
      reasonOf allocation split := by
    simp [reasonOf, some_rule, other_rule]
  have open_alike := Allocation.admits_iff_of_conditions same visit
  by_cases admits : allocation.Admits visit
  · rw [Allocation.candidate?_of_admits admits,
      Allocation.candidate?_of_admits (open_alike.2 admits), Option.map_map, Option.map_map]
    refine Option.map_congr fun split _ => ?_
    simp only [Function.comp_apply, gist, targeted]
  · have none (other : Allocation) (closed : ¬ other.Admits visit) :
        other.candidate? total visit = none :=
      Allocation.candidate?_eq_none_iff.2 fun isCandidate => closed isCandidate.1
    rw [none _ admits, none _ fun opened => admits (open_alike.1 opened)]

/-- **Targeting is a conjunction of tests that may have no answer.**

A match and its negation never hold both, and one of them does exactly if a text is tested for a
pattern; a look-up in a list and its negation never hold both, and one of them does exactly if a
value other than null is looked up in a list. The two tests for null are opposites, and an operator
that is not recognized never holds. A flag answers the same if the rules of an allocation are
replaced by others with the same set of conditions, as long as there are any rules before and
after. -/
theorem targeting_is_conjunction :
    (∀ (attributes : Attributes) (name : String) (expected : ConditionValue),
      (¬ (Operator.isMatch.Accepts attributes name expected ∧
          Operator.notMatch.Accepts attributes name expected) ∧
        ((Operator.isMatch.Accepts attributes name expected ↔
            ¬ Operator.notMatch.Accepts attributes name expected) ↔
          ∃ text pattern, attributes.get? name = some (.string text) ∧
            expected = .single (.string pattern) ∧ (Pattern.ofText? pattern).isSome)) ∧
      (¬ (Operator.oneOf.Accepts attributes name expected ∧
          Operator.notOneOf.Accepts attributes name expected) ∧
        ((Operator.oneOf.Accepts attributes name expected ↔
            ¬ Operator.notOneOf.Accepts attributes name expected) ↔
          (∃ value, attributes.get? name = some value ∧ value ≠ .null) ∧
            ∃ values, expected = .multiple values)) ∧
      (Operator.isNull.Accepts attributes name (.single (.boolean true)) ↔
        ¬ Operator.isNull.Accepts attributes name (.single (.boolean false))) ∧
      ¬ Operator.unrecognized.Accepts attributes name expected) ∧
    ∀ (flag : Flag) (before after : List Allocation) (allocation : Allocation)
      (rules : List Rule) (visit : Visit), rules ≠ [] → allocation.rules ≠ [] →
      (∀ condition, condition ∈ rules.flatMap Rule.conditions ↔
        condition ∈ allocation.rules.flatMap Rule.conditions) →
      { flag with allocations :=
          before ++ { allocation with rules := rules } :: after }.evaluate visit =
        { flag with allocations := before ++ allocation :: after }.evaluate visit := by
  refine ⟨fun attributes name expected => ⟨?_, ?_, ?_, ?_⟩,
    fun flag before after allocation rules visit some_rule other_rule same =>
      flag.evaluate_of_candidate? (gist_candidate?_of_conditions some_rule other_rule same _)⟩
  · rw [← matchTest?_isSome_iff]
    exact never_both_of_negated rfl
  · rw [← oneOfTest?_isSome_iff]
    exact never_both_of_negated rfl
  · simp only [Operator.Accepts, Condition.holds, Condition.outcome?, Operator.outcome?, nullTest?]
    cases attributes.get? name == none || attributes.get? name == some .null <;> decide
  · simp [Operator.Accepts, Condition.holds, Condition.outcome?, Operator.outcome?]

/-- The rule of a launch may be given twice, next to one without conditions. -/
theorem targeting_is_conjunction_launch :
    { launch with allocations := [tomorrow, { today with rules :=
      [⟨[]⟩, ⟨[⟨.oneOf, "id", .multiple ["visitor"]⟩, ⟨.oneOf, "id", .multiple ["visitor"]⟩]⟩] }]
      }.evaluate earlyVisit = launch.evaluate earlyVisit ∧
    (launch.evaluate earlyVisit).toOption.isSome := by
  refine ⟨?_, by decide +kernel⟩
  exact targeting_is_conjunction.2 launch [tomorrow] [] today _ earlyVisit (by decide) (by decide)
    fun condition => by simp [today]

end Flag

end FeatureFlags
