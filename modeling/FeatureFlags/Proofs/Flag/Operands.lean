import FeatureFlags.Proofs.Double.Reading
import FeatureFlags.Proofs.Version.Conditions

/-!
**The operators that compare form one order of numbers and texts.**

What an attribute is compared as depends on the value of the condition alone: as a version if that
is one, and else as a number. No text is both, since a version has two points and a number one at
most. So a text has the same standing on either side, as a version, as a number or as neither, and
two operands are compared exactly if they have standings of one kind, by a total order of each.

* `Operand.passes`: whether an operator accepts an operand for another one.
* `Operand.standing?`: what an operand counts as.
* `Operand.orderTest?_eq`: the comparison of two operands is that of their standings.
* `Operand.compared_consistently`: the laws of the operators.
-/

namespace FeatureFlags

/-! ### No text is a version and a number -/

namespace Version

theorem takeNumber_eq_some {input rest : List Char} {value : Nat}
    (taken : takeNumber input = some (value, rest)) :
    ∃ digits, input = digits ++ rest ∧ digits ≠ [] ∧ ∀ c ∈ digits, c.isDigit := by
  unfold takeNumber at taken
  obtain ⟨allowed, same⟩ := Option.ite_none_left_eq_some.mp taken
  cases same
  refine ⟨input.takeWhile Char.isDigit, List.takeWhile_append_dropWhile.symm, fun empty => ?_,
    fun c inside => List.mem_takeWhile_imp inside⟩
  exact allowed (.inl (List.isEmpty_iff.mpr empty))

theorem eq_cons_of_takeMark {mark : Char} {input rest : List Char}
    (taken : takeMark mark input = some rest) : input = mark :: rest := by
  cases input with
  | nil => cases taken
  | cons c others =>
    obtain ⟨rfl, same⟩ := Option.ite_none_right_eq_some.mp taken
    cases same
    rfl

/-- The text of a version begins with digits, a point, digits and another point. -/
theorem exists_points {text : String} {v : Version} (isRead : ofText? text = some v) :
    ∃ whole fraction rest, text.toList = whole ++ '.' :: (fraction ++ '.' :: rest) ∧ whole ≠ [] ∧
      (∀ c ∈ whole, c.isDigit) ∧ ∀ c ∈ fraction, c.isDigit := by
  unfold ofText? at isRead
  simp only [Option.bind_eq_bind, Option.bind_eq_some_iff, Prod.exists] at isRead
  obtain ⟨_, _, major, _, first, _, _, minor, _, second, _⟩ := isRead
  obtain ⟨whole, isText, nonempty, digits⟩ := takeNumber_eq_some major
  obtain ⟨fraction, isRest, _, others⟩ := takeNumber_eq_some minor
  rw [isText, eq_cons_of_takeMark first, isRest, eq_cons_of_takeMark second]
  exact ⟨whole, fraction, _, rfl, nonempty, digits, others⟩

end Version

namespace Double

/-- A number has one point at most. -/
theorem ofUnsigned?_points {negative : Bool} {whole fraction rest : List Char}
    (digits : ∀ c ∈ whole, c.isDigit) (others : ∀ c ∈ fraction, c.isDigit) :
    ofUnsigned? negative (whole ++ '.' :: (fraction ++ '.' :: rest)) = none := by
  unfold ofUnsigned?
  have spanned : (fraction ++ '.' :: rest).span Char.isDigit = (fraction, '.' :: rest) :=
    span_digits others (by simp)
  rw [span_digits digits (by simp)]
  simp only [spanned]
  split <;> rfl

/-- **The text of a version is no number.** -/
theorem ofText?_of_version {text : String} {v : Version}
    (isVersion : Version.ofText? text = some v) : ofText? text = none := by
  obtain ⟨whole, fraction, rest, isText, nonempty, digits, others⟩ :=
    Version.exists_points isVersion
  obtain ⟨c, front, rfl⟩ := List.exists_cons_of_ne_nil nonempty
  have isList : text.toList =
      if false then '-' :: c :: (front ++ '.' :: (fraction ++ '.' :: rest))
      else c :: (front ++ '.' :: (fraction ++ '.' :: rest)) := isText
  rw [ofText?_of_digit isList (digits c List.mem_cons_self)]
  exact ofUnsigned?_points digits others

end Double

/-! ### Standings -/

/-- What is compared with other operands: a version, or a number by its rank. -/
inductive Standing where
  | version (version : Version)
  | number (rank : Int)

namespace Standing

open Std

/-- What a double counts as, unless it is no number. -/
def ofDouble? (value : Double) : Option Standing :=
  if value.isNaN then none else some (number value.rank)

/-- Standings of one kind are compared. -/
def compare? : Standing → Standing → Option Ordering
  | version v, version w => some (v.compare w)
  | number m, number n => some (Ord.compare m n)
  | _, _ => none

/-- Doubles are compared by their standings. -/
theorem compare?_doubles (m n : Double) :
    m.compare? n = (ofDouble? m).bind fun first => (ofDouble? n).bind first.compare? := by
  cases first : m.isNaN <;> cases second : n.isNaN <;>
    simp [Double.compare?, ofDouble?, compare?, first, second]

/-- A number is not compared with a version. -/
theorem compare?_double_version (d : Double) (v : Version) :
    ((ofDouble? d).bind fun first => first.compare? (version v)) = none ∧
      (ofDouble? d).bind (version v).compare? = none := by
  cases isNaN : d.isNaN <;> simp [ofDouble?, compare?, isNaN]

/-- **Swapping two standings reverses their order.** -/
theorem compare?_swap (a b : Standing) : b.compare? a = (a.compare? b).map Ordering.swap := by
  cases a with
  | version v =>
    cases b with
    | version w => exact congrArg some OrientedCmp.eq_swap
    | number n => rfl
  | number m =>
    cases b with
    | version w => rfl
    | number n => exact congrArg some OrientedCmp.eq_swap

variable {a b c : Standing} {first second : Ordering}

/-- **The order of standings is transitive**, and strict where one of two steps is. -/
theorem compare?_trans (ab : a.compare? b = some first) (bc : b.compare? c = some second)
    (firstLeast : first.isGE) (secondLeast : second.isGE) :
    ∃ third, a.compare? c = some third ∧ third.isGE ∧
      (first = .gt ∨ second = .gt → third = .gt) := by
  cases b with
  | version w =>
    cases a with
    | number m => cases ab
    | version v =>
      cases c with
      | number n => cases bc
      | version u =>
        cases ab
        cases bc
        refine ⟨_, rfl, TransCmp.isGE_trans firstLeast secondLeast, ?_⟩
        rintro (greater | greater)
        · exact TransCmp.gt_of_gt_of_isGE greater secondLeast
        · exact TransCmp.gt_of_isGE_of_gt firstLeast greater
  | number n =>
    cases a with
    | version v => cases ab
    | number m =>
      cases c with
      | version u => cases bc
      | number k =>
        cases ab
        cases bc
        refine ⟨_, rfl, TransCmp.isGE_trans firstLeast secondLeast, ?_⟩
        rintro (greater | greater)
        · exact TransCmp.gt_of_gt_of_isGE greater secondLeast
        · exact TransCmp.gt_of_isGE_of_gt firstLeast greater

end Standing

/-! ### Operands -/

/-- What stands on either side of an operator that compares. -/
inductive Operand where
  | number (value : Double)
  | text (value : String)

namespace Operand

/-- An operand as an attribute. -/
def actual : Operand → AttributeValue
  | number value => .number value
  | text value => .string value

/-- An operand as the value of a condition. -/
def expected : Operand → Scalar
  | number value => .number value
  | text value => .string value

/-- The version that an operand spells. -/
def version? : Operand → Option Version
  | number _ => none
  | text value => Version.ofText? value

/-- The number that an operand is or spells. -/
def magnitude? : Operand → Option Double
  | number value => some value
  | text value => Double.ofText? value

/-- Whether an operator accepts an operand as the attribute and another as the value of the
condition. -/
def passes (x : Operand) (operator : Operator) (y : Operand) : Bool :=
  (operator.outcome? (some x.actual) (.single y.expected)).getD false

/-- What an operand counts as. -/
def standing? (x : Operand) : Option Standing :=
  match x.version? with
  | some version => some (.version version)
  | none => x.magnitude?.bind Standing.ofDouble?

variable {x y z : Operand}

/-- **No operand is a version and a number.** -/
theorem magnitude?_of_version {v : Version} (isVersion : x.version? = some v) :
    x.magnitude? = none := by
  cases x with
  | number value => cases isVersion
  | text value => exact Double.ofText?_of_version isVersion

theorem version?_of_magnitude {d : Double} (isNumber : x.magnitude? = some d) :
    x.version? = none := by
  cases isVersion : x.version? with
  | none => rfl
  | some version =>
    rw [magnitude?_of_version isVersion] at isNumber
    cases isNumber

theorem standing?_of_version {v : Version} (isVersion : x.version? = some v) :
    x.standing? = some (.version v) := by
  rw [standing?, isVersion]

theorem standing?_of_no_version (isNone : x.version? = none) :
    x.standing? = x.magnitude?.bind Standing.ofDouble? := by
  rw [standing?, isNone]

/-- The comparison of operands, by what they spell. -/
theorem orderTest?_operands (x y : Operand) :
    orderTest? (some x.actual) (.single y.expected) =
      match y.version? with
      | some version => x.version?.bind fun actual => some (actual.compare version)
      | none => y.magnitude?.bind fun expected => x.magnitude?.bind fun actual =>
          actual.compare? expected := by
  cases x <;> cases y <;> rfl

/-- **Operands are compared by their standings.** -/
theorem orderTest?_eq (x y : Operand) : orderTest? (some x.actual) (.single y.expected) =
    x.standing?.bind fun first => y.standing?.bind first.compare? := by
  rw [orderTest?_operands]
  -- The condition's version is tried first; numbers are only read where it gives none.
  cases second : y.version? with
  | some w =>
    rw [standing?_of_version second]
    cases first : x.version? with
    | some v =>
      rw [standing?_of_version first]
      rfl
    | none =>
      rw [standing?_of_no_version first]
      cases x.magnitude? with
      | none => rfl
      | some m => exact (Standing.compare?_double_version m w).1.symm
  | none =>
    rw [standing?_of_no_version second]
    cases first : x.version? with
    | some v =>
      rw [standing?_of_version first, magnitude?_of_version first]
      cases y.magnitude? with
      | none => rfl
      | some n => exact (Standing.compare?_double_version n v).2.symm
    | none =>
      rw [standing?_of_no_version first]
      cases y.magnitude? with
      | none => simp
      | some n =>
        cases x.magnitude? with
        | none => rfl
        | some m => exact Standing.compare?_doubles m n

/-! ### The laws of the operators -/

/-- The order of two operands, where they have one. -/
def order? (x y : Operand) : Option Ordering :=
  x.standing?.bind fun first => y.standing?.bind first.compare?

theorem order?_swap (x y : Operand) : y.order? x = (x.order? y).map Ordering.swap := by
  unfold order?
  cases x.standing? with
  | none => cases y.standing? <;> rfl
  | some first =>
    cases y.standing? with
    | none => rfl
    | some second => exact Standing.compare?_swap first second

theorem order?_trans {first second : Ordering} (xy : x.order? y = some first)
    (yz : y.order? z = some second) (firstLeast : first.isGE) (secondLeast : second.isGE) :
    ∃ third, x.order? z = some third ∧ third.isGE ∧
      (first = .gt ∨ second = .gt → third = .gt) := by
  obtain ⟨a, isFirst, xy⟩ := Option.bind_eq_some_iff.mp xy
  obtain ⟨b, isSecond, ab⟩ := Option.bind_eq_some_iff.mp xy
  obtain ⟨_, same, yz⟩ := Option.bind_eq_some_iff.mp yz
  cases isSecond.symm.trans same
  obtain ⟨c, isThird, bc⟩ := Option.bind_eq_some_iff.mp yz
  rw [order?, isFirst, isThird]
  exact Standing.compare?_trans ab bc firstLeast secondLeast

/-- The operators read the order. -/
theorem passes_eq (x y : Operand) :
    x.passes .greater y = ((x.order? y).map Ordering.isGT).getD false ∧
    x.passes .greaterOrEqual y = ((x.order? y).map Ordering.isGE).getD false ∧
    x.passes .less y = ((x.order? y).map Ordering.isLT).getD false ∧
    x.passes .lessOrEqual y = ((x.order? y).map Ordering.isLE).getD false := by
  unfold passes Operator.outcome? order?
  simp only [orderTest?_eq, and_self]

theorem passes_greater_iff : x.passes .greater y ↔ x.order? y = some .gt := by
  rw [(passes_eq x y).1]
  cases x.order? y with
  | none => simp
  | some order => cases order <;> simp

theorem passes_greaterOrEqual_iff :
    x.passes .greaterOrEqual y ↔ ∃ order, x.order? y = some order ∧ order.isGE := by
  rw [(passes_eq x y).2.1]
  cases x.order? y <;> simp

theorem passes_of_order?_none (incomparable : x.order? y = none) :
    ∀ operator ∈ Operator.comparing,
      x.passes operator y = false ∧ y.passes operator x = false := by
  have swapped : y.order? x = none := by rw [order?_swap, incomparable]; rfl
  have forward := passes_eq x y
  have backward := passes_eq y x
  rw [incomparable] at forward
  rw [swapped] at backward
  refine Operator.forall_comparing.mpr ⟨?_, ?_, ?_, ?_⟩
  · exact ⟨forward.1, backward.1⟩
  · exact ⟨forward.2.1, backward.2.1⟩
  · exact ⟨forward.2.2.1, backward.2.2.1⟩
  · exact ⟨forward.2.2.2, backward.2.2.2⟩

/-- Operands are incomparable, or exactly one of each two opposite operators accepts them. -/
theorem passes_cases (x y : Operand) :
    (∀ operator ∈ Operator.comparing, x.passes operator y = false) ∨
      x.passes .greaterOrEqual y = !x.passes .less y ∧
        x.passes .lessOrEqual y = !x.passes .greater y ∧
        ¬ (x.passes .greater y ∧ x.passes .less y) := by
  cases order : x.order? y with
  | none => exact .inl fun operator inside => (passes_of_order?_none order operator inside).1
  | some order' =>
    obtain ⟨greater, greaterOrEqual, less, lessOrEqual⟩ := passes_eq x y
    rw [greater, greaterOrEqual, less, lessOrEqual, order]
    right
    cases order' <;> decide

theorem passes_swap (x y : Operand) : x.passes .greater y = y.passes .less x ∧
    x.passes .greaterOrEqual y = y.passes .lessOrEqual x := by
  obtain ⟨greater, greaterOrEqual, _, _⟩ := passes_eq x y
  obtain ⟨_, _, less, lessOrEqual⟩ := passes_eq y x
  rw [greater, greaterOrEqual, less, lessOrEqual, order?_swap x y]
  cases x.order? y with
  | none => exact ⟨rfl, rfl⟩
  | some order => cases order <;> decide

/-- A version is incomparable with a number. -/
theorem order?_of_version (isVersion : x.version?.isSome) (isNumber : y.magnitude?.isSome) :
    x.order? y = none := by
  obtain ⟨v, isVersion⟩ := Option.isSome_iff_exists.mp isVersion
  obtain ⟨d, isNumber⟩ := Option.isSome_iff_exists.mp isNumber
  rw [order?, standing?_of_version isVersion,
    standing?_of_no_version (version?_of_magnitude isNumber), isNumber]
  exact (Standing.compare?_double_version d v).2

/-- What is not a number is incomparable with everything. -/
theorem order?_of_isNaN {d : Double} (isNumber : x.magnitude? = some d) (isNaN : d.isNaN) :
    x.order? y = none := by
  rw [order?, standing?_of_no_version (version?_of_magnitude isNumber), isNumber,
    Option.bind_some, Standing.ofDouble?, if_pos isNaN]
  rfl

/-- **The operators that compare form one consistent order of numbers and texts**, on either side of
a condition.

For any two operands all four operators refuse, or each is the opposite of another one. Swapping
the two sides swaps the operators, and the order is transitive, strictly where one of two steps is
strict. A version is never compared with what is or spells a number, and what is not a number is
never compared with anything. -/
theorem compared_consistently (x y z : Operand) :
    ((∀ operator ∈ Operator.comparing, x.passes operator y = false) ∨
      x.passes .greaterOrEqual y = !x.passes .less y ∧
        x.passes .lessOrEqual y = !x.passes .greater y ∧
        ¬ (x.passes .greater y ∧ x.passes .less y)) ∧
    (x.passes .greater y = y.passes .less x ∧
      x.passes .greaterOrEqual y = y.passes .lessOrEqual x) ∧
    (x.passes .greater y → y.passes .greaterOrEqual z → x.passes .greater z) ∧
    (x.passes .greaterOrEqual y → y.passes .greater z → x.passes .greater z) ∧
    (x.passes .greaterOrEqual y → y.passes .greaterOrEqual z → x.passes .greaterOrEqual z) ∧
    (x.version?.isSome → y.magnitude?.isSome → ∀ operator ∈ Operator.comparing,
      x.passes operator y = false ∧ y.passes operator x = false) ∧
    (∀ d, x.magnitude? = some d → d.isNaN → ∀ operator ∈ Operator.comparing,
      x.passes operator y = false ∧ y.passes operator x = false) := by
  refine ⟨passes_cases x y, passes_swap x y, ?_, ?_, ?_,
    fun isVersion isNumber => passes_of_order?_none (order?_of_version isVersion isNumber),
    fun d isNumber isNaN => passes_of_order?_none (order?_of_isNaN isNumber isNaN)⟩
  · intro greater atLeast
    obtain ⟨second, yz, secondLeast⟩ := passes_greaterOrEqual_iff.mp atLeast
    obtain ⟨third, xz, _, strict⟩ :=
      order?_trans (passes_greater_iff.mp greater) yz rfl secondLeast
    exact passes_greater_iff.mpr (strict (.inl rfl) ▸ xz)
  · intro atLeast greater
    obtain ⟨first, xy, firstLeast⟩ := passes_greaterOrEqual_iff.mp atLeast
    obtain ⟨third, xz, _, strict⟩ :=
      order?_trans xy (passes_greater_iff.mp greater) firstLeast rfl
    exact passes_greater_iff.mpr (strict (.inr rfl) ▸ xz)
  · intro atLeast atLeastNext
    obtain ⟨first, xy, firstLeast⟩ := passes_greaterOrEqual_iff.mp atLeast
    obtain ⟨second, yz, secondLeast⟩ := passes_greaterOrEqual_iff.mp atLeastNext
    obtain ⟨third, xz, thirdLeast, _⟩ := order?_trans xy yz firstLeast secondLeast
    exact passes_greaterOrEqual_iff.mpr ⟨third, xz, thirdLeast⟩

/-- A version, a number and texts of both kinds. -/
theorem compared_consistently_samples :
    (text "10").passes .greater (number (.ofNat 9)) = true ∧
    (text "10").passes .greater (text "8e0") = true ∧
    (text "1.0.0").passes .greater (number (.ofNat 0)) = false := by
  have ten : (text "10").passes .greater (number (.ofNat 9)) = true := by decide +kernel
  have nine : (number (.ofNat 9)).passes .greaterOrEqual (text "8e0") = true := by decide +kernel
  obtain ⟨_, _, chain, _⟩ := compared_consistently (text "10") (number (.ofNat 9)) (text "8e0")
  obtain ⟨_, _, _, _, _, apart, _⟩ :=
    compared_consistently (text "1.0.0") (number (.ofNat 0)) (text "8e0")
  exact ⟨ten, chain ten nine,
    (apart (by decide +kernel) rfl .greater List.mem_cons_self).1⟩

end Operand

end FeatureFlags
