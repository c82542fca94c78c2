import FeatureFlags.Json.Value
import FeatureFlags.Proofs.Double.Reading

/-!
**Every number of a document is a whole number of 64 bits or a finite double.**

A product that leaves the doubles is refused, and a quotient by a power of ten is not larger than
the number that is divided. So what is read of the text of a number is in range, and so it has a
text of its own, which tells the number again: it is read as the same double, and as the same whole
number if it is one of 64 bits.

* `Number.InRange`: the numbers of documents.
* `NumberText.inRange_of_read?`, `Document.inRange_of_toJson?`: what is read is in range.
* `Number.exists_text`, `Number.ofText?_text`, `Number.integerOfText?_text`: the text of a number.
-/

namespace FeatureFlags

/-- A number of a document: a whole number of 64 bits, signed or unsigned, or a finite double. -/
def Number.InRange : Number → Prop
  | whole value => -9223372036854775808 ≤ value ∧ value < 18446744073709551616
  | float value => value.isFinite

/-! ### Reading stays in range -/

namespace Double

/-- A whole number other than zero is not rounded below one. -/
theorem unitsPerOne_le_ofNat {n : Nat} (positive : n ≠ 0) :
    unitsPerOne ≤ unitsOf (ofNat n).magnitude := by
  have narrow : infinityMagnitude < 2 ^ 63 := by decide
  have one : unitsOf (powerMagnitude 0) = unitsPerOne := by
    rw [unitsOf_powerMagnitude, Nat.pow_zero, Nat.one_mul]
  have reached : powerMagnitude 0 ≤ rounded (n * unitsPerOne) := by
    refine le_rounded ?_
    rw [one]
    exact Nat.le_mul_of_pos_left _ (Nat.pos_of_ne_zero positive)
  have bounded : nearest (n * unitsPerOne) 1 < 2 ^ 63 := (Nat.min_le_left _ _).trans_lt narrow
  have above : powerMagnitude 0 ≤ nearest (n * unitsPerOne) 1 := by
    rw [nearest_eq]
    exact le_min (by decide) reached
  rw [ofNat, ofRatio, magnitude_ofParts bounded]
  exact one.symm.trans_le (unitsOf_strictMono.monotone above)

/-- A quotient by one or more is finite. -/
theorem isFinite_div {a b : Double} (finite : a.isFinite)
    (large : unitsPerOne ≤ unitsOf b.magnitude) : (a.div b).isFinite := by
  refine isFinite_ofParts ((nearest_le ?_ (Nat.mul_le_mul_left _ large)).trans_lt
    (of_decide_eq_true finite))
  exact unitsPerOne_pos.trans_le large

theorem isFinite_neg {a : Double} (finite : a.isFinite) : a.neg.isFinite :=
  isFinite_ofParts (of_decide_eq_true finite)

theorem isFinite_ofNat {n : Nat} (small : n ≤ 2 ^ 64) : (ofNat n).isFinite :=
  isFinite_ofInt (i := n) small

end Double

namespace NumberText

open Double

theorem isFinite_scale {value result : Double} {exponent : Int} (finite : value.isFinite)
    (found : scale value exponent = some result) : result.isFinite := by
  have powers (places : Nat) : unitsPerOne ≤ unitsOf (powerOfTen places).magnitude :=
    unitsPerOne_le_ofNat (Nat.pow_pos (by decide)).ne'
  fun_induction scale value exponent with
  | case1 value exponent _ _ product kept => exact Option.some.inj found ▸ kept
  | case3 value exponent => exact Option.some.inj found ▸ isFinite_div finite (powers _)
  | case4 value => exact Option.some.inj found ▸ finite
  | case6 value exponent _ _ _ ih => exact ih (isFinite_div finite (powers _)) found
  | case2 | case5 => cases found

theorem isFinite_floatOf {significand : Nat} {start : Int} {exponent : Option (Bool × List Nat)}
    {result : Double} (small : significand < significandBound)
    (found : floatOf significand start exponent = some result) : result.isFinite := by
  have finite : (Double.ofNat significand).isFinite := isFinite_ofNat small.le
  unfold floatOf at found
  split at found
  · exact isFinite_scale finite found
  · simp only at found
    split at found
    · split at found
      · cases found
      · cases found
        decide
    · exact isFinite_scale finite found

/-- **What is read of the text of a number is in range.** -/
theorem inRange_of_read? {text : NumberText} {number : Number} (found : text.read? = some number) :
    number.InRange := by
  cases number with
  | whole value => exact whole_of_read? found
  | float value =>
    obtain ⟨negative, whole, fraction, exponent⟩ := text
    have start : 0 < significandBound := by decide
    have fits := accumulate_lt whole start
    have signed {double : Double} (finite : double.isFinite) :
        (if negative then double.neg else double).isFinite := by
      split
      · exact isFinite_neg finite
      · exact finite
    unfold read? at found
    rcases taken : accumulate 0 whole with ⟨significand, left⟩
    rw [taken] at found fits
    simp only at found fits
    cases fraction with
    | some digits =>
      obtain ⟨double, isDouble, same⟩ := Option.map_eq_some_iff.mp found
      cases same
      exact signed (isFinite_floatOf (accumulate_lt digits fits) isDouble)
    | none =>
      cases exponent with
      | some exponent =>
        obtain ⟨double, isDouble, same⟩ := Option.map_eq_some_iff.mp found
        cases same
        exact signed (isFinite_floatOf fits isDouble)
      | none =>
        simp only at found
        split at found
        · split at found
          · cases found
          · split at found
            · cases found
              exact signed (isFinite_ofNat fits.le)
            · cases found
        · obtain ⟨double, isDouble, same⟩ := Option.map_eq_some_iff.mp found
          cases same
          exact signed (isFinite_floatOf fits isDouble)

end NumberText

namespace Document

variable {level : Nat} {document : Document} {number : Number}

/-- A number in a document is written there, or in a text that stands for a value. -/
theorem inRange_of_toJsonWith? {readText : String → Option Json}
    (texts : ∀ text number, readText text = some (.number number) → number.InRange)
    (found : document.toJsonWith? readText level = some (.number number)) : number.InRange := by
  cases document with
  | number text =>
    obtain ⟨_, isRead, same⟩ := Option.map_eq_some_iff.mp found
    cases same
    exact NumberText.inRange_of_read? isRead
  | null | bool value => cases found
  | string raw =>
    obtain ⟨_, _, impossible⟩ := Option.map_eq_some_iff.mp found
    cases impossible
  | array items =>
    unfold toJsonWith? at found
    split at found
    · obtain ⟨_, _, impossible⟩ := Option.map_eq_some_iff.mp found
      cases impossible
    · cases found
  | object members =>
    unfold toJsonWith? at found
    split at found
    · split at found
      · split at found
        · obtain ⟨text, _, isRead⟩ := Option.bind_eq_some_iff.mp found
          exact texts text number isRead
        · cases found
      · obtain ⟨_, _, impossible⟩ := Option.map_eq_some_iff.mp found
        cases impossible
    · cases found

/-- The induction is on how deep texts of values are nested. -/
theorem inRange_of_textToJson? (depth : Nat) :
    ∀ text number, textToJson? depth text = some (.number number) → number.InRange := by
  induction depth with
  | zero => exact fun _ _ impossible => by cases impossible
  | succ depth ih =>
    intro text number found
    obtain ⟨document, _, isValue⟩ := Option.bind_eq_some_iff.mp found
    exact inRange_of_toJsonWith? ih isValue

/-- **What is read of a document that is a number is in range.** -/
theorem inRange_of_toJson? (found : document.toJson? level = some (.number number)) :
    number.InRange :=
  inRange_of_toJsonWith? (fun text => inRange_of_textToJson? (text.length + 1) text) found

end Document

/-! ### The text of a number -/

namespace Number

variable {number : Number} {text : String}

theorem isFinite_toDouble (inRange : number.InRange) : number.toDouble.isFinite := by
  cases number with
  | whole value =>
    obtain ⟨least, most⟩ := inRange
    exact Double.isFinite_ofInt (by omega)
  | float value => exact inRange

theorem exists_text (inRange : number.InRange) : ∃ text, number.text? = some text := by
  cases number with
  | whole value => exact ⟨_, rfl⟩
  | float value =>
    have finite : value.isFinite = true := inRange
    by_cases zero : value.magnitude = 0
    · exact ⟨_, by rw [text?, Double.digits?, finite, if_neg (by decide), if_pos zero]⟩
    · exact ⟨_, by rw [text?, Double.digits?, finite, if_neg (by decide), if_neg zero]⟩

/-- The text of a number begins with a digit, or with one after a minus. -/
theorem exists_toList (isText : number.text? = some text) :
    ∃ (negative : Bool) (c : Char) (rest : List Char),
      text.toList = (if negative then '-' :: c :: rest else c :: rest) ∧ c.isDigit := by
  cases number with
  | whole value =>
    cases isText
    obtain ⟨c, rest, -, digit, isList⟩ := exists_toList_toString value
    exact ⟨_, c, rest, isList, digit⟩
  | float value =>
    obtain ⟨-, _, _, rfl, ⟨⟨c, rest, rfl, digit⟩, -⟩, -⟩ := Double.exists_isReadAs isText
    exact ⟨_, c, rest, String.toList_ofList, digit⟩

/-- **The text of a number is read as the double that the number is.** -/
theorem ofText?_text (inRange : number.InRange) (isText : number.text? = some text) :
    Double.ofText? text = some number.toDouble := by
  cases number with
  | whole value =>
    obtain ⟨least, most⟩ := inRange
    cases isText
    exact Double.ofText?_toString (by omega)
  | float value => exact Double.ofText?_of_digits? isText

/-- **It is read as a whole number exactly if the number is one of 64 signed bits**, and not if the
number is a double that happens to be whole. -/
theorem integerOfText?_text (inRange : number.InRange) (isText : number.text? = some text) :
    integerOfText? text = number.integer? := by
  cases number with
  | whole value =>
    have least : Double.minInteger ≤ value := inRange.1
    cases isText
    rw [integerOfText?_toString_eq, integer?]
    simp only [least, true_and]
  | float value =>
    obtain ⟨-, characters, _, rfl, -, -, mark⟩ := Double.exists_isReadAs isText
    have inside {c : Char} (member : c ∈ characters) : c ∈ (value.signed characters).toList := by
      rw [Double.signed, String.toList_ofList]
      split
      · exact List.mem_cons_of_mem _ member
      · exact member
    rcases mark with point | exponent
    · exact integerOfText?_of_mark (inside point) (by decide)
    · exact integerOfText?_of_mark (inside exponent) (by decide)

end Number

end FeatureFlags
