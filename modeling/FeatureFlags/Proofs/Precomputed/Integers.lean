import FeatureFlags.Precomputed.Codec
import FeatureFlags.Proofs.Double.Reading
import Mathlib.Tactic.NormNum

/-!
**Whole numbers of 64 bits, read of doubles and of texts.**

A double is read as the whole number that it is, and every other double is refused, with one
exception: `2 ^ 63` is one too large and is read as the largest number there is. A codec reads the
decimal text of a number, in quotes or not, as the number itself, without a double in between.

* `Double.ReadsAs`: which number a double is read as.
* `Double.whole_numbers_read`: what is read of a double, under a type or by a codec.
* `Codec.decodeValue?_integer`: a codec reads every whole number of 64 bits.
-/

namespace FeatureFlags

/-! ### Doubles -/

namespace Double

variable {d : Double} {i : Int64}

/-- A double that is read as a whole number of 64 bits: it is the number, or it is `2 ^ 63`, which
is one more than the largest of them. -/
def ReadsAs (d : Double) (i : Int64) : Prop :=
  d.toRat? = some (i.toInt : ℚ) ∨ d.toRat? = some (2 ^ 63) ∧ i = Int64.maxValue

theorem bounds_toInt (i : Int64) : minInteger ≤ i.toInt ∧ i.toInt ≤ maxInteger :=
  ⟨i.le_toInt, Int.le_of_lt_add_one i.toInt_lt⟩

theorem toRat?_eq_two_pow_iff :
    d.toRat? = some (2 ^ 63) ↔ d.isFinite ∧ d.units = (maxInteger + 1) * unitsPerOne := by
  have power : ((maxInteger + 1 : Int) : ℚ) = 2 ^ 63 := by norm_num [maxInteger]
  rw [← power, toRat?_eq_intCast_iff]

/-- **What is read as a whole number of 64 bits**: a whole number in range, and `2 ^ 63`. -/
theorem whole?_eq_some_iff : d.whole? = some i ↔ d.ReadsAs i := by
  rw [whole?, Option.map_eq_some_iff, ReadsAs, toRat?_eq_intCast_iff, toRat?_eq_two_pow_iff]
  constructor
  · rintro ⟨number, isNumber, rfl⟩
    obtain ⟨finite, ⟨least, most, value⟩ | ⟨rfl, value⟩⟩ := integer?_eq_some_iff.mp isNumber
    · left
      rw [Int64.toInt_ofInt_of_le least (Int.lt_add_one_of_le most)]
      exact ⟨finite, value⟩
    · exact .inr ⟨⟨finite, value⟩, by decide⟩
  · rintro (⟨finite, value⟩ | ⟨⟨finite, value⟩, rfl⟩)
    · obtain ⟨least, most⟩ := bounds_toInt i
      exact ⟨i.toInt, integer?_eq_some_iff.mpr ⟨finite, .inl ⟨least, most, value⟩⟩,
        Int64.ofInt_toInt i⟩
    · exact ⟨maxInteger, integer?_eq_some_iff.mpr ⟨finite, .inr ⟨rfl, value⟩⟩, by decide⟩

/-- What is not read is no whole number in range, and not `2 ^ 63` either. -/
theorem whole?_eq_none_iff : d.whole? = none ↔
    ¬ ∃ number : Int, -2 ^ 63 ≤ number ∧ number ≤ 2 ^ 63 ∧ d.toRat? = some (number : ℚ) := by
  rw [Option.eq_none_iff_forall_ne_some]
  constructor
  · rintro unread ⟨number, least, most, value⟩
    by_cases limit : number = 2 ^ 63
    · refine unread Int64.maxValue (whole?_eq_some_iff.mpr (.inr ⟨?_, rfl⟩))
      rw [value, limit]
      norm_num
    · refine unread (Int64.ofInt number) (whole?_eq_some_iff.mpr (.inl ?_))
      rw [Int64.toInt_ofInt_of_le least (by omega), value]
  · intro apart i isRead
    rcases whole?_eq_some_iff.mp isRead with value | ⟨value, _⟩
    · obtain ⟨least, most⟩ := bounds_toInt i
      unfold minInteger at least
      unfold maxInteger at most
      exact apart ⟨i.toInt, by omega, by omega, value⟩
    · exact apart ⟨2 ^ 63, by decide, by decide, by rw [value]; norm_num⟩

/-- A flag reads a double as a whole number like a codec. -/
theorem toValue?_integer (d : Double) :
    Scalar.toValue? .integer (.number d) = d.whole?.map .integer := by
  rw [Scalar.toValue?, whole?, Option.map_map]
  rfl

/-- **A double is read as a whole number of 64 bits exactly if it is one, or `2 ^ 63`.** A flag and
a codec read it alike, and what is no whole number from `-2 ^ 63` to `2 ^ 63` is refused: a
fraction, a number that is too small or too large, an infinity, and what is no number. -/
theorem whole_numbers_read (d : Double) :
    Scalar.toValue? .integer (.number d) = d.whole?.map .integer ∧
    (∀ codec : Codec, codec.decodeValue? .integer (.number (.float d)) = d.whole?.map .integer) ∧
    (∀ i : Int64, d.whole? = some i ↔
      d.toRat? = some (i.toInt : ℚ) ∨ d.toRat? = some (2 ^ 63) ∧ i = Int64.maxValue) ∧
    (d.whole? = none ↔
      ¬ ∃ number : Int, -2 ^ 63 ≤ number ∧ number ≤ 2 ^ 63 ∧ d.toRat? = some (number : ℚ)) :=
  ⟨toValue?_integer d, fun _ => rfl, fun _ => whole?_eq_some_iff, whole?_eq_none_iff⟩

/-- The double `2 ^ 63` is read as a number that it is not, by a flag and by a codec. -/
theorem two_pow_read_as_maxValue :
    ¬ (∀ (d : Double) (i : Int64), Scalar.toValue? .integer (.number d) = some (.integer i) ↔
      d.toRat? = some (i.toInt : ℚ)) ∧
    ¬ (∀ (d : Double) (i : Int64), d.whole? = some i ↔ d.toRat? = some (i.toInt : ℚ)) := by
  have limit : (ofParts false limitMagnitude).toRat? = some (2 ^ 63) :=
    toRat?_eq_two_pow_iff.mpr (by decide +kernel)
  have isRead : (ofParts false limitMagnitude).whole? = some Int64.maxValue := by decide +kernel
  have served : Scalar.toValue? .integer (.number (ofParts false limitMagnitude)) =
      some (.integer Int64.maxValue) := by decide +kernel
  have apart : (2 ^ 63 : ℚ) ≠ (Int64.maxValue.toInt : ℚ) := by
    have value : Int64.maxValue.toInt = 9223372036854775807 := by decide
    rw [value]
    norm_num
  exact ⟨fun same => apart (Option.some.inj (limit.symm.trans ((same _ _).mp served))),
    fun same => apart (Option.some.inj (limit.symm.trans ((same _ _).mp isRead)))⟩

end Double

/-! ### Texts -/

/-- What begins with a digit, or with one after a sign, is not in quotes. -/
theorem unquote_of_digit {negative : Bool} {text : String} {c : Char} {rest : List Char}
    (isList : text.toList = if negative then '-' :: c :: rest else c :: rest) (digit : c.isDigit) :
    unquote text = text := by
  unfold unquote
  split
  · rename_i quoted
    rw [isList] at quoted
    cases negative with
    | true => cases quoted
    | false =>
      cases quoted
      cases digit
  · rfl

theorem unquote_toString (number : Int) : unquote (toString number) = toString number := by
  obtain ⟨c, rest, -, digit, isList⟩ := exists_toList_toString number
  exact unquote_of_digit isList digit

/-- A text in quotes stands for the text. -/
theorem unquote_quoted (text : String) : unquote ("\"" ++ text ++ "\"") = text := by
  have characters : ("\"" ++ text ++ "\"").toList = '"' :: (text.toList ++ ['"']) := by
    rw [String.toList_append, String.toList_append]
    rfl
  unfold unquote
  rw [characters]
  simp only [List.reverse_append, List.reverse_cons, List.reverse_nil, List.nil_append,
    List.cons_append, List.reverse_reverse, String.ofList_toList]

namespace Codec

variable (codec : Codec) {i : Int64} {text : String}

theorem decodeValue?_integer_text (isNumber : integerOfText? (unquote text) = some i.toInt) :
    codec.decodeValue? .integer (.string text) = some (.integer i) := by
  rw [decodeValue?, readInteger?, wholeOfText?, isNumber]
  simp only [Int64.ofInt_toInt, Option.map_some]

/-- **A whole number of 64 bits passes the codec** as a number, as a text and as a text in
quotes. -/
theorem decodeValue?_integer (i : Int64) :
    codec.decodeValue? .integer (.number (.whole i.toInt)) = some (.integer i) ∧
    codec.decodeValue? .integer (.string (toString i.toInt)) = some (.integer i) ∧
    codec.decodeValue? .integer (.string ("\"" ++ toString i.toInt ++ "\"")) =
      some (.integer i) := by
  obtain ⟨least, most⟩ := Double.bounds_toInt i
  have isNumber := integerOfText?_toString least most
  refine ⟨?_, ?_, ?_⟩
  · simp [decodeValue?, readInteger?, Number.integer?, most]
  · exact codec.decodeValue?_integer_text (by rw [unquote_toString, isNumber])
  · exact codec.decodeValue?_integer_text (by rw [unquote_quoted, isNumber])

end Codec

end FeatureFlags
