import FeatureFlags.Proofs.Double.Shortest

/-!
**Numbers are read back from their texts.**

A reader puts the digits of a text together, before and after the point, and moves the point by the
written exponent. Whichever form a decimal is written in, what the reader gets stands for the same
number. The decimal that is written for a double is rounded to it, so the double is read back, with
its sign; and the digits of a whole number are read as the double nearest to it.

* `Double.ofUnsigned?_of_parts`: what is read of digits, a point and an exponent.
* `Double.ofText?_of_digits?`: a finite double is read back from its text.
* `Double.ofText?_toString`: a whole number is read as the double nearest to it.
* `integerOfText?_toString`, `integerOfText?_of_mark`: texts that are read as whole numbers.
-/

namespace FeatureFlags

namespace Double

/-! ### Digits -/

theorem digitsValue_append (start : Nat) (front back : List Char) :
    digitsValue start (front ++ back) = digitsValue (digitsValue start front) back :=
  List.foldl_append

theorem digitsValue_zeros (start count : Nat) :
    digitsValue start (List.replicate count '0') = start * 10 ^ count := by
  induction count generalizing start with
  | zero => rw [Nat.pow_zero, Nat.mul_one]; rfl
  | succ count ih =>
    have zero : digitsValue start ['0'] = start * 10 := rfl
    rw [List.replicate_succ, ← List.singleton_append, digitsValue_append, zero, ih, Nat.pow_succ']
    ring

theorem digitsValue_toDigits (n : Nat) : digitsValue 0 (Nat.toDigits 10 n) = n := by
  have value : Nat.ofDigitChars 10 (Nat.toDigits 10 n) 0 = n := Nat.ofDigitChars_ten_toDigits
  rw [Nat.ofDigitChars_eq_foldl] at value
  simpa [digitsValue, Nat.mul_comm] using value

/-! ### Parts of a text -/

/-- What follows the digits of a number: nothing, or an exponent. -/
def Ends (tail : List Char) (power : Int) : Prop :=
  tail = [] ∧ power = 0 ∨ ∃ rest, tail = 'e' :: rest ∧ exponentOf? rest = some power

theorem ends_nil : Ends [] 0 := .inl ⟨rfl, rfl⟩

theorem Ends.stops {tail : List Char} {power : Int} (ends : Ends tail power) :
    ∀ c ∈ tail.head?, c.isDigit = false := by
  rintro c isFirst
  rcases ends with ⟨rfl, -⟩ | ⟨rest, rfl, -⟩ <;> cases isFirst
  rfl

theorem span_digits {front back : List Char} (each : ∀ c ∈ front, c.isDigit)
    (stops : ∀ c ∈ back.head?, c.isDigit = false) :
    (front ++ back).span Char.isDigit = (front, back) := by
  rw [List.span_eq_takeWhile_dropWhile, List.takeWhile_append_of_pos each,
    List.dropWhile_append_of_pos each]
  cases back with
  | nil => simp
  | cons c rest => simp [stops c rfl]

/-- **What is read of digits, a point between them, and an exponent.** -/
theorem ofUnsigned?_of_parts (negative : Bool) {whole point fraction tail : List Char} {power : Int}
    (digits : ∀ c ∈ whole, c.isDigit) (some_digit : whole ≠ [])
    (others : ∀ c ∈ fraction, c.isDigit)
    (isPoint : point = [] ∧ fraction = [] ∨ point = '.' :: fraction) (ends : Ends tail power) :
    ofUnsigned? negative (whole ++ (point ++ tail)) =
      some (ofDecimal negative (digitsValue 0 (whole ++ fraction)) (power - fraction.length)) := by
  have nonempty : whole.isEmpty = false := List.isEmpty_eq_false_iff.mpr some_digit
  have stops := ends.stops
  unfold ofUnsigned?
  rcases isPoint with ⟨rfl, rfl⟩ | rfl
  · rw [List.nil_append, span_digits digits stops]
    rcases ends with ⟨rfl, rfl⟩ | ⟨rest, rfl, isPower⟩
    · simp [nonempty, digitsValue]
    · simp [nonempty, isPower, digitsValue]
  · rw [List.cons_append, span_digits digits (by simp), digitsValue_append]
    simp only [span_digits others stops, nonempty, Bool.false_and, Bool.false_eq_true, if_false]
    rcases ends with ⟨rfl, rfl⟩ | ⟨rest, rfl, isPower⟩
    · simp
    · simp [isPower]

/-- Characters that begin with a digit are read as a number: as digits and a power of ten that
stand for it. -/
structure IsReadAs (characters : List Char) (number : ℚ) : Prop where
  first : ∃ c rest, characters = c :: rest ∧ c.isDigit
  read : ∃ (digits : Nat) (exponent : Int), (digits * 10 ^ exponent : ℚ) = number ∧
    ∀ negative, ofUnsigned? negative characters = some (ofDecimal negative digits exponent)

theorem isReadAs_of_parts {whole point fraction tail : List Char} {power : Int} {number : ℚ}
    (digits : ∀ c ∈ whole, c.isDigit) (some_digit : whole ≠ [])
    (others : ∀ c ∈ fraction, c.isDigit)
    (isPoint : point = [] ∧ fraction = [] ∨ point = '.' :: fraction) (ends : Ends tail power)
    (value : (digitsValue 0 (whole ++ fraction) * 10 ^ (power - fraction.length) : ℚ) = number) :
    IsReadAs (whole ++ (point ++ tail)) number where
  first := by
    obtain ⟨c, rest, rfl⟩ := List.exists_cons_of_ne_nil some_digit
    exact ⟨c, _, rfl, digits c List.mem_cons_self⟩
  read := ⟨_, _, value, fun negative =>
    ofUnsigned?_of_parts negative digits some_digit others isPoint ends⟩

/-- Digits with a point between them. -/
theorem isReadAs_fraction {whole fraction : List Char} {number : ℚ}
    (digits : ∀ c ∈ whole, c.isDigit) (some_digit : whole ≠ [])
    (others : ∀ c ∈ fraction, c.isDigit)
    (value : (digitsValue 0 (whole ++ fraction) * 10 ^ (-(fraction.length : Int)) : ℚ) = number) :
    IsReadAs (whole ++ '.' :: fraction) number := by
  rw [← Int.zero_sub] at value
  have read := isReadAs_of_parts digits some_digit others (.inr rfl) ends_nil value
  rwa [List.append_nil] at read

/-- An exponent is a sign and the digits of its size. -/
theorem exponentOf?_signed (power : Int) :
    exponentOf? ((if power < 0 then '-' else '+') :: Nat.toDigits 10 power.natAbs) =
      some power := by
  have all : ((Nat.toDigits 10 power.natAbs).isEmpty ||
      !(Nat.toDigits 10 power.natAbs).all Char.isDigit) = false := by
    rw [Bool.or_eq_false_iff, List.isEmpty_eq_false_iff, Bool.not_eq_false', List.all_eq_true]
    exact ⟨Nat.toDigits_ne_nil, isDigit_toDigits⟩
  have value := digitsValue_toDigits power.natAbs
  by_cases negative : power < 0
  · have same : -(power.natAbs : Int) = power := by omega
    rw [if_pos negative]
    simp only [exponentOf?, all, value, same, Bool.false_eq_true, if_false, if_true]
  · have same : (power.natAbs : Int) = power := by omega
    rw [if_neg negative]
    simp only [exponentOf?, all, value, same, Bool.false_eq_true, if_false]

end Double

/-! ### The two forms of a decimal -/

namespace Decimal

open Double

variable (decimal : Decimal)

/-- **A decimal without an exponent is read as its number.** -/
theorem isReadAs_positional : IsReadAs (decimal.positional ['.', '0']) decimal.toRat := by
  have each : ∀ c ∈ decimal.digitChars, c.isDigit := isDigit_toDigits
  have some_digit : decimal.digitChars ≠ [] := Nat.toDigits_ne_nil
  have value : digitsValue 0 decimal.digitChars = decimal.digits := digitsValue_toDigits _
  unfold positional
  split
  case isTrue large =>
    refine isReadAs_fraction ?_ (by simp [some_digit]) (by simp) ?_
    · exact fun c member => (List.mem_append.mp member).elim (each c) (isDigit_replicate c)
    · have shifted : digitsValue 0 (decimal.digitChars ++
          List.replicate decimal.exponent.toNat '0' ++ ['0']) =
          decimal.digits * 10 ^ decimal.exponent.toNat * 10 := by
        have zero (start : Nat) : digitsValue start ['0'] = start * 10 := rfl
        rw [digitsValue_append, digitsValue_append, value, digitsValue_zeros, zero]
      have power : (10 : ℚ) ^ decimal.exponent.toNat = 10 ^ decimal.exponent := by
        rw [← zpow_natCast, Int.toNat_of_nonneg large]
      have tenth : (10 : ℚ) ^ (-(['0'].length : Int)) = 10⁻¹ := zpow_neg_one 10
      rw [shifted, tenth, toRat, ← power]
      push_cast
      exact mul_inv_cancel_right₀ (by norm_num) _
  case isFalse small =>
    split
    case isTrue places =>
      have less :
          (decimal.digitChars.drop decimal.wholePlaces.toNat).length = -decimal.exponent := by
        rw [List.length_drop]
        unfold wholePlaces at places ⊢
        omega
      have some_place : decimal.wholePlaces.toNat ≠ 0 := by omega
      refine isReadAs_fraction (fun c member => each c (List.mem_of_mem_take member)) ?_
        (fun c member => each c (List.mem_of_mem_drop member)) ?_
      · simp [List.take_eq_nil_iff, some_place, some_digit]
      · rw [List.take_append_drop, value, less, Int.neg_neg, toRat]
    case isFalse none_whole =>
      have length : (List.replicate (-decimal.wholePlaces).toNat '0' ++ decimal.digitChars).length =
          -decimal.exponent := by
        rw [List.length_append, List.length_replicate]
        unfold wholePlaces at none_whole ⊢
        omega
      have leading : digitsValue 0 (['0'] ++
          (List.replicate (-decimal.wholePlaces).toNat '0' ++ decimal.digitChars)) =
          decimal.digits := by
        have zero : digitsValue 0 ['0'] = 0 := rfl
        rw [digitsValue_append, digitsValue_append, zero, digitsValue_zeros, Nat.zero_mul, value]
      change IsReadAs (['0'] ++ '.' :: _) _
      refine isReadAs_fraction (by simp) (by simp) ?_ ?_
      · exact fun c member => (List.mem_append.mp member).elim (isDigit_replicate c) (each c)
      · rw [leading, length, Int.neg_neg, toRat]

/-- **So is a decimal with one digit before the point and an exponent.** -/
theorem isReadAs_scientific : IsReadAs decimal.scientific decimal.toRat := by
  have each : ∀ c ∈ decimal.digitChars, c.isDigit := isDigit_toDigits
  have value : digitsValue 0 decimal.digitChars = decimal.digits := digitsValue_toDigits _
  have ends : Ends ('e' :: (if decimal.wholePlaces - 1 < 0 then '-' else '+') ::
      Nat.toDigits 10 (decimal.wholePlaces - 1).natAbs) (decimal.wholePlaces - 1) :=
    .inr ⟨_, rfl, exponentOf?_signed _⟩
  have places : decimal.wholePlaces = (decimal.digitChars.length : Int) + decimal.exponent := rfl
  unfold scientific
  cases digits : decimal.digitChars with
  | nil => exact absurd digits Nat.toDigits_ne_nil
  | cons c rest =>
    rw [digits] at each value places
    obtain ⟨digit, others⟩ := List.forall_mem_cons.mp each
    have moved : decimal.wholePlaces - 1 - rest.length = decimal.exponent := by
      rw [places, List.length_cons]
      omega
    have read (point : List Char) (isPoint : point = [] ∧ rest = [] ∨ point = '.' :: rest) :
        IsReadAs ([c] ++ (point ++ _)) decimal.toRat :=
      isReadAs_of_parts (by simpa using digit) (by simp) others isPoint ends
        (by rw [List.singleton_append, value, moved, toRat])
    cases rest with
    | nil => exact read [] (.inl ⟨rfl, rfl⟩)
    | cons c' rest => exact read _ (.inr rfl)

theorem mem_positional : '.' ∈ decimal.positional ['.', '0'] := by
  unfold positional
  split
  · simp
  · split <;> simp

theorem mem_scientific : 'e' ∈ decimal.scientific := by simp [scientific]

end Decimal

/-! ### Signs -/

/-- Whether a text has a minus in front, and what follows its sign. -/
def splitSign : List Char → Bool × List Char
  | '-' :: rest => (true, rest)
  | '+' :: rest => (false, rest)
  | characters => (false, characters)

/-- **A digit is not taken for a sign.** -/
theorem splitSign_of_digit {negative : Bool} {c : Char} {rest : List Char} (digit : c.isDigit) :
    splitSign (if negative then '-' :: c :: rest else c :: rest) = (negative, c :: rest) := by
  cases negative with
  | true => rfl
  | false =>
    rw [if_neg Bool.false_ne_true]
    unfold splitSign
    split
    · rename_i isMinus
      obtain ⟨rfl, -⟩ := List.cons.inj isMinus
      exact absurd digit (by decide)
    · rename_i isPlus
      obtain ⟨rfl, -⟩ := List.cons.inj isPlus
      exact absurd digit (by decide)
    · rfl

namespace Double

theorem toLower_of_isDigit {c : Char} (digit : c.isDigit) : c.toLower = c := by
  have range : 48 ≤ c.toNat ∧ c.toNat ≤ 57 := Char.isDigit_iff_toNat.mp digit
  have notUpper : ¬ (c.val ≥ 'A'.val ∧ c.val ≤ 'Z'.val) := fun upper => by
    have above : 65 ≤ c.toNat := upper.1
    omega
  exact dif_neg notUpper

/-- What begins with a digit, or with one after the sign, is no name. -/
theorem ofText?_of_digit {negative : Bool} {text : String} {c : Char} {rest : List Char}
    (isList : text.toList = if negative then '-' :: c :: rest else c :: rest) (digit : c.isDigit) :
    ofText? text = ofUnsigned? negative (c :: rest) := by
  have named (name : String) (other : name.toList.head?.any Char.isDigit = false) :
      String.ofList ((c :: rest).map Char.toLower) ≠ name := by
    intro same
    rw [← same, String.toList_ofList, List.map_cons, toLower_of_isDigit digit, List.head?_cons,
      Option.any_some, digit] at other
    cases other
  unfold ofText?
  split
  rename_i sign cs signed
  have parts : splitSign text.toList = (sign, cs) := signed
  rw [isList, splitSign_of_digit digit] at parts
  cases parts
  rw [if_neg (not_or.mpr ⟨named _ (by decide), named _ (by decide)⟩),
    if_neg (named _ (by decide))]

/-- A double is its sign and its magnitude. -/
theorem ofParts_self (d : Double) : ofParts d.isNegative d.magnitude = d := by
  have range : d.bits.toNat < 2 ^ 64 := d.bits.toNat_lt
  have whole : (if d.isNegative then Nat.pow 2 63 else 0) + d.magnitude = d.bits.toNat := by
    simp only [isNegative, magnitude, decide_eq_true_eq, Nat.pow_eq]
    split <;> omega
  rw [ofParts, whole, UInt64.ofNat_toNat]

/-! ### The text of a double -/

/-- The text of a double is a sign and characters that are read as a number, which is rounded to the
double. A point or an exponent is among them. -/
theorem exists_isReadAs {d : Double} {text : String} (written : d.digits? = some text) :
    d.isFinite ∧ ∃ characters number, text = d.signed characters ∧ IsReadAs characters number ∧
      RoundsTo number d.magnitude ∧ ('.' ∈ characters ∨ 'e' ∈ characters) := by
  rw [digits?] at written
  obtain ⟨finite, written⟩ := Option.ite_none_left_eq_some.mp written
  refine ⟨by simpa using finite, ?_⟩
  split at written
  case isTrue zero =>
    cases written
    have read : IsReadAs (['0'] ++ '.' :: ['0']) 0 :=
      isReadAs_fraction (by simp) (by simp) (by simp) (by simp [digitsValue])
    have below : ((unitsOf 0 + unitsOf (0 - 1) : Nat) : ℚ) = 0 := by
      rw [Nat.zero_sub, unitsOf_zero, Nat.add_zero, Nat.cast_zero]
    have rounds : RoundsTo 0 0 :=
      ⟨by rw [below, zero_mul], by rw [zero_mul]; exact Nat.cast_nonneg _,
        fun odd => absurd rfl odd⟩
    exact ⟨_, 0, rfl, read, zero ▸ rounds, .inl (by simp)⟩
  case isFalse positive =>
    have rounds := shortest_roundsTo .toEven positive
    cases written
    refine ⟨_, _, rfl, ?_, rounds, ?_⟩
    · split
      · exact Decimal.isReadAs_positional _
      · exact Decimal.isReadAs_scientific _
    · split
      · exact .inl (Decimal.mem_positional _)
      · exact .inr (Decimal.mem_scientific _)

/-- **A finite double is read back from its text**, with its sign. -/
theorem ofText?_of_digits? {d : Double} {text : String} (written : d.digits? = some text) :
    ofText? text = some d := by
  obtain ⟨finite, characters, number, rfl, ⟨⟨c, rest, rfl, digit⟩, digits, exponent, rfl, read⟩,
    rounds, -⟩ := exists_isReadAs written
  rw [signed, ofText?_of_digit String.toList_ofList digit, read,
    ofDecimal_of_roundsTo rounds (of_decide_eq_true finite), ofParts_self]

end Double

/-! ### The text of a whole number -/

/-- The text of a whole number: a sign and its digits. -/
theorem toList_toString (number : Int) : (toString number).toList =
    if number < 0 then '-' :: Nat.toDigits 10 number.natAbs
    else Nat.toDigits 10 number.natAbs := by
  cases number with
  | ofNat n =>
    change (Nat.repr n).toList = _
    rw [Nat.repr_eq_ofList_toDigits, String.toList_ofList,
      Int.ofNat_eq_natCast, if_neg (Int.not_lt.mpr (Int.natCast_nonneg n))]
    rfl
  | negSucc n =>
    change ("-" ++ Nat.repr (n + 1)).toList = _
    rw [String.toList_append, Nat.repr_eq_ofList_toDigits,
      String.toList_ofList (l := Nat.toDigits 10 (n + 1)), if_pos (Int.negSucc_lt_zero n)]
    rfl

/-- It begins with a digit, or with one after the sign. -/
theorem exists_toList_toString (number : Int) : ∃ c rest,
    Nat.toDigits 10 number.natAbs = c :: rest ∧ c.isDigit ∧ (toString number).toList =
      if decide (number < 0) then '-' :: c :: rest else c :: rest := by
  have some_digit : Nat.toDigits 10 number.natAbs ≠ [] := Nat.toDigits_ne_nil
  obtain ⟨c, rest, same⟩ := List.exists_cons_of_ne_nil some_digit
  refine ⟨c, rest, same, isDigit_toDigits c (same ▸ List.mem_cons_self), ?_⟩
  rw [toList_toString, same]
  simp only [decide_eq_true_eq]

/-- **The text of a whole number is read back if it has 64 bits**, and is not read otherwise. -/
theorem integerOfText?_toString_eq (number : Int) : integerOfText? (toString number) =
    if Double.minInteger ≤ number ∧ number ≤ Double.maxInteger then some number else none := by
  obtain ⟨c, rest, same, digit, isList⟩ := exists_toList_toString number
  have all : ((c :: rest).isEmpty || !(c :: rest).all Char.isDigit) = false := by
    rw [← same, Bool.or_eq_false_iff, List.isEmpty_eq_false_iff, Bool.not_eq_false',
      List.all_eq_true]
    exact ⟨Nat.toDigits_ne_nil, isDigit_toDigits⟩
  have value : (if decide (number < 0) then -((Double.digitsValue 0 (c :: rest) : Nat) : Int)
      else (Double.digitsValue 0 (c :: rest) : Nat)) = number := by
    rw [← same, Double.digitsValue_toDigits]
    simp only [decide_eq_true_eq]
    split <;> omega
  unfold integerOfText?
  split
  rename_i sign digits signed
  have parts : splitSign (toString number).toList = (sign, digits) := signed
  rw [isList, splitSign_of_digit digit] at parts
  cases parts
  simp only [all, value, Bool.false_eq_true, if_false]

theorem integerOfText?_toString {number : Int} (least : Double.minInteger ≤ number)
    (most : number ≤ Double.maxInteger) : integerOfText? (toString number) = some number := by
  rw [integerOfText?_toString_eq, if_pos ⟨least, most⟩]

/-- What has a character other than digits and a sign is no whole number. -/
theorem integerOfText?_of_mark {text : String} {c : Char} (inside : c ∈ text.toList)
    (mark : c.isDigit = false ∧ c ≠ '-' ∧ c ≠ '+') : integerOfText? text = none := by
  obtain ⟨notDigit, notMinus, notPlus⟩ := mark
  have refused (characters : List Char) (member : c ∈ characters) :
      (characters.isEmpty || !characters.all Char.isDigit) = true := by
    rw [Bool.or_eq_true_iff, Bool.not_eq_true', List.all_eq_false]
    exact .inr ⟨c, member, by simp [notDigit]⟩
  unfold integerOfText?
  split
  rename_i negative digits signed
  rw [refused digits, if_pos rfl]
  split at signed
  · rename_i isList
    cases signed
    simpa [isList, notMinus] using inside
  · rename_i isList
    cases signed
    simpa [isList, notPlus] using inside
  · cases signed
    exact inside

/-- Digits without a point are read as a whole number. -/
theorem Double.ofUnsigned?_toDigits (negative : Bool) {n : Nat}
    (short : (Nat.toDigits 10 n).length ≤ 330) : ofUnsigned? negative (Nat.toDigits 10 n) =
      some (if n = 0 then ofParts negative 0 else ofRatio negative n 1) := by
  have read : ofUnsigned? negative (Nat.toDigits 10 n) = some (ofDecimal negative n 0) := by
    have parts := ofUnsigned?_of_parts negative isDigit_toDigits (Nat.toDigits_ne_nil (n := n))
      (fun c member => absurd member List.not_mem_nil) (.inl ⟨rfl, rfl⟩) ends_nil
    simpa [digitsValue_toDigits] using parts
  have above : ¬ ((Nat.toDigits 10 n).length : Int) + 0 < -330 := by omega
  have below : ¬ 330 < ((Nat.toDigits 10 n).length : Int) + 0 := by omega
  have unit : n * (tenPower 0).1 = n := Nat.mul_one n
  rw [read, ofDecimal]
  simp only [above, below, or_false, if_false, unit]
  rfl

/-- **The text of a whole number is read as the double nearest to it.** -/
theorem Double.ofText?_toString {number : Int} (small : number.natAbs ≤ 2 ^ 64) :
    ofText? (toString number) = some (ofInt number) := by
  obtain ⟨c, rest, same, digit, isList⟩ := exists_toList_toString number
  have short : (Nat.toDigits 10 number.natAbs).length ≤ 20 :=
    (Nat.length_toDigits_le_iff (by decide) (by decide)).mpr (by omega)
  rw [ofText?_of_digit isList digit, ← same, ofUnsigned?_toDigits _ (by omega), ofInt]
  split
  case isTrue zero =>
    obtain rfl : number = 0 := Int.natAbs_eq_zero.mp zero
    decide +kernel
  case isFalse => rfl

end FeatureFlags
