import FeatureFlags.Proofs.Version.Precedence
import FeatureFlags.Targeting

/-!
**What conditions make of versions.**

A condition whose value is a version compares it with an attribute that is one by the order of
versions. So the four operators follow precedence where it decides. Two versions that differ in
their builds alone have the same precedence, but the order goes on to the builds, and then the
operators answer as if one version came before the other.

* `Answers`: the answers of the four operators for one order.
* `Version.conditions_follow_precedence`: the answers for any two versions.
-/

namespace FeatureFlags

/-- The four operators answer for an attribute and the value of a condition as an order says. -/
structure Answers (actual : AttributeValue) (expected : Scalar) (order : Ordering) : Prop where
  greater : Operator.outcome? .greater (some actual) (.single expected) = some order.isGT
  greaterOrEqual :
    Operator.outcome? .greaterOrEqual (some actual) (.single expected) = some order.isGE
  less : Operator.outcome? .less (some actual) (.single expected) = some order.isLT
  lessOrEqual : Operator.outcome? .lessOrEqual (some actual) (.single expected) = some order.isLE

theorem answers_of_orderTest? {actual : AttributeValue} {expected : Scalar} {order : Ordering}
    (isOrder : orderTest? (some actual) (.single expected) = some order) :
    Answers actual expected order where
  greater := by rw [Operator.outcome?, isOrder, Option.map_some]
  greaterOrEqual := by rw [Operator.outcome?, isOrder, Option.map_some]
  less := by rw [Operator.outcome?, isOrder, Option.map_some]
  lessOrEqual := by rw [Operator.outcome?, isOrder, Option.map_some]

/-- The operators that compare. -/
def Operator.comparing : List Operator := [.greater, .greaterOrEqual, .less, .lessOrEqual]

theorem Operator.forall_comparing {p : Operator → Prop} :
    (∀ operator ∈ comparing, p operator) ↔
      p .greater ∧ p .greaterOrEqual ∧ p .less ∧ p .lessOrEqual := by
  simp [comparing]

theorem Answers.outcome?_eq {actual actual' : AttributeValue} {expected expected' : Scalar}
    {order : Ordering} (first : Answers actual expected order)
    (second : Answers actual' expected' order) : ∀ operator ∈ Operator.comparing,
      operator.outcome? (some actual') (.single expected') =
        operator.outcome? (some actual) (.single expected) := by
  refine Operator.forall_comparing.mpr ⟨?_, ?_, ?_, ?_⟩
  · rw [first.greater, second.greater]
  · rw [first.greaterOrEqual, second.greaterOrEqual]
  · rw [first.less, second.less]
  · rw [first.lessOrEqual, second.lessOrEqual]

namespace Version

open Std

variable {a b : String} {v w : Version}

theorem orderTest?_texts (first : ofText? a = some v) (second : ofText? b = some w) :
    orderTest? (some (.string a)) (.single (.string b)) = some (v.compare w) := by
  simp [orderTest?, Scalar.version?, AttributeValue.text?, first, second]

theorem answers (first : ofText? a = some v) (second : ofText? b = some w) :
    Answers (.string a) (.string b) (v.compare w) :=
  answers_of_orderTest? (orderTest?_texts first second)

/-- The four operators put one version before another by precedence, or by their builds. -/
theorem answers_of_before (first : ofText? a = some v) (second : ofText? b = some w)
    (before : v.Precedes w ∨ v.SamePrecedence w ∧ List.Lex BuildBefore v.build w.build) :
    Answers (.string a) (.string b) .lt ∧ Answers (.string b) (.string a) .gt := by
  have order := (compare_eq_lt_iff (wellFormed_of_ofText? first)
    (wellFormed_of_ofText? second)).mpr before
  exact ⟨order ▸ answers first second, OrientedCmp.gt_iff_lt.mpr order ▸ answers second first⟩

theorem answers_of_same (first : ofText? a = some v) (second : ofText? b = some w)
    (same : v.SamePrecedence w) (build : v.build = w.build) :
    Answers (.string a) (.string b) .eq := by
  have equal : v = w := by
    cases v
    cases w
    obtain ⟨⟨rfl, rfl, rfl⟩, rfl⟩ := same
    cases build
    rfl
  subst equal
  have alike : v.compare v = .eq := LawfulEqCmp.compare_eq_iff_eq.mpr rfl
  exact alike ▸ answers first second

/-- **The operators that compare follow the precedence of versions, and where it does not decide
they go on to the builds.**

For any two texts of versions one precedes the other, or they differ in their builds at most. In the
first case the answers stay the same with any other builds on either side. In the second case two
builds that are equal give equal versions, and of two others one comes before the other: by the
first identifier that differs, numbers by their values and then by their leading zeros, texts by
their characters, numbers before texts, and a list before any that goes on after it. -/
theorem conditions_follow_precedence (first : ofText? a = some v) (second : ofText? b = some w) :
    (v.Precedes w ∨ w.Precedes v ∨ v.SamePrecedence w ∧
      (v.build = w.build ∨ List.Lex BuildBefore v.build w.build ∨
        List.Lex BuildBefore w.build v.build)) ∧
    (v.Precedes w → Answers (.string a) (.string b) .lt) ∧
    (w.Precedes v → Answers (.string a) (.string b) .gt) ∧
    (¬ v.SamePrecedence w → ∀ a' b' v' w', ofText? a' = some v' → ofText? b' = some w' →
      v.SamePrecedence v' → w.SamePrecedence w' → ∀ operator ∈ Operator.comparing,
        operator.outcome? (some (.string a')) (.single (.string b')) =
          operator.outcome? (some (.string a)) (.single (.string b))) ∧
    (v.SamePrecedence w →
      (v.build = w.build → Answers (.string a) (.string b) .eq) ∧
      (List.Lex BuildBefore v.build w.build → Answers (.string a) (.string b) .lt) ∧
      (List.Lex BuildBefore w.build v.build → Answers (.string a) (.string b) .gt)) := by
  have cases := precedes_trichotomy (wellFormed_of_ofText? first) (wellFormed_of_ofText? second)
  refine ⟨cases, fun precedes => (answers_of_before first second (.inl precedes)).1,
    fun precedes => (answers_of_before second first (.inl precedes)).2, ?_, fun same =>
      ⟨answers_of_same first second same,
        fun before => (answers_of_before first second (.inr ⟨same, before⟩)).1,
        fun before => (answers_of_before second first (.inr ⟨same.symm, before⟩)).2⟩⟩
  intro differ a' b' v' w' first' second' same same'
  rcases cases with precedes | precedes | ⟨equal, _⟩
  · exact (answers_of_before first second (.inl precedes)).1.outcome?_eq
      (answers_of_before first' second' (.inl (precedes.congr same same'))).1
  · exact (answers_of_before second first (.inl precedes)).2.outcome?_eq
      (answers_of_before second' first' (.inl (precedes.congr same' same))).2
  · exact absurd equal differ

/-- A pre-release with the number 2, which precedes one with the number 10 whatever the builds
are. -/
theorem conditions_follow_precedence_alpha :
    Answers (.string "1.0.0-alpha.2+b") (.string "1.0.0-alpha.10+a") .lt := by
  have first : ofText? "1.0.0-alpha.2+b" =
      some ⟨1, 0, 0, ["alpha".toList, "2".toList], ["b".toList]⟩ := by decide +kernel
  have second : ofText? "1.0.0-alpha.10+a" =
      some ⟨1, 0, 0, ["alpha".toList, "10".toList], ["a".toList]⟩ := by decide +kernel
  have before : PreBefore "2".toList "10".toList :=
    .numbers (by decide) (by decide) (by decide)
  exact (conditions_follow_precedence first second).2.1
    (.preRelease ⟨rfl, rfl, rfl⟩ (List.cons_ne_nil _ _) (.cons (.rel before)))

/-- Two texts of versions with the same precedence, of which one is not at least the other, while
without its build it is. -/
theorem build_decides_condition :
    ¬ (∀ (a b : String) (v w : Version), ofText? a = some v → ofText? b = some w →
      v.SamePrecedence w →
        Operator.outcome? .greaterOrEqual (some (.string a)) (.single (.string b)) = some true) ∧
    ¬ (∀ (a b b' : String) (w w' : Version), ofText? b = some w → ofText? b' = some w' →
      w.SamePrecedence w' →
        Operator.outcome? .greaterOrEqual (some (.string a)) (.single (.string b')) =
          Operator.outcome? .greaterOrEqual (some (.string a)) (.single (.string b))) := by
  have plain : ofText? "1.0.0" = some ⟨1, 0, 0, [], []⟩ := by decide +kernel
  have built : ofText? "1.0.0+1" = some ⟨1, 0, 0, [], [['1']]⟩ := by decide +kernel
  have same : SamePrecedence ⟨1, 0, 0, [], []⟩ ⟨1, 0, 0, [], [['1']]⟩ := ⟨⟨rfl, rfl, rfl⟩, rfl⟩
  refine ⟨fun always => ?_, fun always => ?_⟩
  · exact absurd (always "1.0.0" "1.0.0+1" _ _ plain built same) (by decide +kernel)
  · exact absurd (always "1.0.0" "1.0.0" "1.0.0+1" _ _ plain built same) (by decide +kernel)

end Version

end FeatureFlags
