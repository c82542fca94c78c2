import FeatureFlags.Json.Number
import FeatureFlags.Proofs.Text.Octets
import Mathlib.Algebra.Order.Ring.Nat
import Mathlib.Data.List.TakeWhile

/-!
**Numbers as they are written.**

By the grammar of documents a number is a sign, a whole part, a fraction and an exponent. A reader
takes a number that is written so, all of it and no more, and takes nothing else. The text of a number
is written so. A whole number of 64 bits is read back as itself; whether a double is depends on its
digits.

* `NumberText.SpelledBy`: how a number is written.
* `NumberText.takeNumber_of_spelled`, `NumberText.spelled_of_takeNumber`: a reader takes that.
* `NumberText.spell`: the parts of a number, written in one of the ways.
* `Number.exists_spell`: the text of a number is spelled so.
* `NumberText.read?_whole`: a whole number is read back.
-/

namespace FeatureFlags

/-! ### Digits -/

/-- The octets of digits. -/
def digitOctets (digits : List Nat) : Octets := digits.map fun digit => UInt8.ofNat (48 + digit)

/-- The values of digits. -/
def digitValues (digits : List Char) : List Nat := digits.map fun c => c.toNat - 48

/-- Digits, as they are written. -/
def AreDigits (digits : List Nat) : Prop := ∀ digit ∈ digits, digit < 10

theorem areDigits_digitValues {characters : List Char} (each : ∀ c ∈ characters, c.isDigit) :
    AreDigits (digitValues characters) := by
  intro digit member
  obtain ⟨c, inside, rfl⟩ := List.mem_map.mp member
  have range : 48 ≤ c.toNat ∧ c.toNat ≤ 57 := Char.isDigit_iff_toNat.mp (each c inside)
  omega

/-- The octets of characters that are digits. -/
theorem flatMap_utf8EncodeChar {characters : List Char} (each : ∀ c ∈ characters, c.isDigit) :
    characters.flatMap String.utf8EncodeChar = digitOctets (digitValues characters) := by
  induction characters with
  | nil => rfl
  | cons c rest ih =>
    obtain ⟨first, others⟩ := List.forall_mem_cons.mp each
    have range : 48 ≤ c.toNat ∧ c.toNat ≤ 57 := Char.isDigit_iff_toNat.mp first
    have value : 48 + (c.toNat - 48) = c.toNat := by omega
    rw [List.flatMap_cons, utf8EncodeChar_of_lt (by omega), ih others]
    simp only [digitValues, digitOctets, List.map_cons, value, List.singleton_append]

/-- The digits of a number other than zero do not begin with zero. -/
theorem head?_toDigits {n : Nat} (positive : n ≠ 0) : (Nat.toDigits 10 n).head? ≠ some '0' := by
  induction n using Nat.strongRecOn with
  | _ n ih =>
    rw [Nat.toDigits_eq_if (by decide)]
    split
    · rename_i small
      have each : ∀ n < 10, n ≠ 0 → [Nat.digitChar n].head? ≠ some '0' := by decide
      exact each n small positive
    · have rest := ih (n / 10) (by omega) (by omega)
      cases first : Nat.toDigits 10 (n / 10) with
      | nil => exact absurd first Nat.toDigits_ne_nil
      | cons c others => simpa [first] using rest

theorem head?_digitValues {characters : List Char} (each : ∀ c ∈ characters, c.isDigit)
    (first : characters.head? ≠ some '0') : (digitValues characters).head? ≠ some 0 := by
  cases characters with
  | nil => simp [digitValues]
  | cons c rest =>
    have range : 48 ≤ c.toNat ∧ c.toNat ≤ 57 :=
      Char.isDigit_iff_toNat.mp (each c List.mem_cons_self)
    intro zero
    have value : c.toNat - 48 = 0 := Option.some.inj zero
    have code : c.toNat = 48 := by omega
    exact first (congrArg some (Char.toNat_inj.mp code))

theorem isDigit_toDigits {n : Nat} : ∀ c ∈ Nat.toDigits 10 n, c.isDigit :=
  fun _ member => Nat.isDigit_of_mem_toDigits (by decide) (by decide) member

/-- A number is written as a lone zero, or does not begin with zero. -/
theorem leads_toDigits (n : Nat) :
    digitValues (Nat.toDigits 10 n) = [0] ∨
      digitValues (Nat.toDigits 10 n) ≠ [] ∧ (digitValues (Nat.toDigits 10 n)).head? ≠ some 0 := by
  by_cases zero : n = 0
  · subst zero
    exact .inl (by decide)
  · refine .inr ⟨?_, head?_digitValues isDigit_toDigits (head?_toDigits zero)⟩
    simp [digitValues]

namespace Document

/-! ### The grammar of numbers -/

theorem isDigit_digitOctet {digit : Nat} (small : digit < 10) :
    isDigit (UInt8.ofNat (48 + digit)) = true := by
  revert digit
  decide

/-- What follows does not go on with a number. -/
def Stops (rest : Octets) : Prop :=
  ∀ octet ∈ rest.head?, isDigit octet = false ∧ octet ≠ 46 ∧ octet ≠ 101 ∧ octet ≠ 69

theorem stops_nil : Stops [] := by
  intro octet member
  cases member

theorem stops_cons {octet : UInt8} {rest : Octets}
    (other : isDigit octet = false ∧ octet ≠ 46 ∧ octet ≠ 101 ∧ octet ≠ 69) :
    Stops (octet :: rest) := by
  rintro _ ⟨⟩
  exact other

theorem takeDigits_append {digits : List Nat} (are : AreDigits digits) {rest : Octets}
    (ends : ∀ octet ∈ rest.head?, isDigit octet = false) :
    takeDigits (digitOctets digits ++ rest) = (digits, rest) := by
  induction digits with
  | nil =>
    cases rest with
    | nil => rfl
    | cons octet rest =>
      have other : isDigit octet = false := ends octet rfl
      simp [takeDigits, digitOctets, other]
  | cons digit digits ih =>
    obtain ⟨first, others⟩ := List.forall_mem_cons.mp are
    have digitFirst := isDigit_digitOctet first
    have later := ih others
    simp only [takeDigits, digitOctets, Prod.mk.injEq] at later ⊢
    simp only [List.map_cons, List.cons_append, List.takeWhile_cons, List.dropWhile_cons,
      digitFirst, if_true, later.1, later.2, and_true, List.cons.injEq]
    rw [UInt8.toNat_ofNat', Nat.mod_eq_of_lt (by omega), Nat.add_sub_cancel_left]

end Document

namespace NumberText

/-- The octets of a fraction. -/
def fractionOctets : Option (List Nat) → Octets
  | none => []
  | some digits => 46 :: digitOctets digits

/-- The octets of a signed exponent. -/
def exponentOctets : Option (Bool × List Nat) → Octets
  | none => []
  | some (negative, digits) => 101 :: (if negative then 45 else 43) :: digitOctets digits

/-- The octets of a number. -/
def spell (text : NumberText) : Octets :=
  (if text.negative then [45] else []) ++
    (digitOctets text.whole ++ (fractionOctets text.fraction ++ exponentOctets text.exponent))

/-- A number by the grammar: the whole part is a lone zero or does not begin with zero, and a
fraction or an exponent has digits. -/
structure WellFormed (text : NumberText) : Prop where
  whole : AreDigits text.whole
  leads : text.whole = [0] ∨ text.whole ≠ [] ∧ text.whole.head? ≠ some 0
  fraction : ∀ digits, text.fraction = some digits → digits ≠ [] ∧ AreDigits digits
  exponent : ∀ negative digits, text.exponent = some (negative, digits) →
    digits ≠ [] ∧ AreDigits digits

/-- An exponent may be marked in either case, and a plus may be left out. -/
def ExponentSpelledBy : Option (Bool × List Nat) → Octets → Prop
  | none, octets => octets = []
  | some (negative, digits), octets =>
    ∃ mark sign, (mark = 101 ∨ mark = 69) ∧
      (if negative then sign = [45] else sign = [] ∨ sign = [43]) ∧
      octets = mark :: (sign ++ digitOctets digits)

/-- How a number is written: a sign, the whole part, a fraction and an exponent. -/
def SpelledBy (text : NumberText) (octets : Octets) : Prop :=
  text.WellFormed ∧ ∃ exponent, ExponentSpelledBy text.exponent exponent ∧
    octets = (if text.negative then [45] else []) ++
      (digitOctets text.whole ++ (fractionOctets text.fraction ++ exponent))

open Document

variable {text : NumberText} {input rest : Octets}

theorem takeWhole_append {whole : List Nat} (are : AreDigits whole)
    (leads : whole = [0] ∨ whole ≠ [] ∧ whole.head? ≠ some 0)
    (ends : ∀ octet ∈ rest.head?, isDigit octet = false) :
    takeWhole (digitOctets whole ++ rest) = some (whole, rest) := by
  unfold takeWhole
  rw [takeDigits_append are ends]
  rcases leads with rfl | ⟨some_digit, leads⟩
  · rfl
  · cases whole with
    | nil => exact absurd rfl some_digit
    | cons digit digits =>
      cases digit with
      | zero => simp at leads
      | succ digit => rfl

theorem takeFraction_append {fraction : Option (List Nat)}
    (digits : ∀ digits, fraction = some digits → digits ≠ [] ∧ AreDigits digits)
    (ends : ∀ octet ∈ rest.head?, isDigit octet = false ∧ octet ≠ 46) :
    takeFraction (fractionOctets fraction ++ rest) = some (fraction, rest) := by
  cases fraction with
  | none =>
    cases rest with
    | nil => rfl
    | cons octet rest =>
      have other : octet ≠ 46 := (ends octet rfl).2
      unfold takeFraction
      split
      · rename_i same
        cases same
        exact absurd rfl other
      · rfl
  | some fraction =>
    obtain ⟨some_digit, are⟩ := digits fraction rfl
    simp only [fractionOctets, List.cons_append, takeFraction]
    rw [takeDigits_append are fun octet member => (ends octet member).1]
    cases fraction with
    | nil => exact absurd rfl some_digit
    | cons digit digits => rfl

theorem takeExponent_of_spelled {exponent : Option (Bool × List Nat)} {octets : Octets}
    (digits : ∀ negative digits, exponent = some (negative, digits) →
      digits ≠ [] ∧ AreDigits digits)
    (spelled : ExponentSpelledBy exponent octets) (stops : Stops rest) :
    takeExponent (octets ++ rest) = some (exponent, rest) := by
  cases exponent with
  | none =>
    cases spelled
    cases rest with
    | nil => rfl
    | cons octet rest =>
      obtain ⟨_, _, small, capital⟩ := stops octet rfl
      simp [takeExponent, small, capital]
  | some exponent =>
    obtain ⟨negative, exponent⟩ := exponent
    obtain ⟨some_digit, are⟩ := digits negative exponent rfl
    obtain ⟨mark, sign, marked, signed, rfl⟩ := spelled
    have taken := takeDigits_append are fun octet member => (stops octet member).1
    cases exponent with
    | nil => exact absurd rfl some_digit
    | cons digit exponent =>
      cases negative with
      | true =>
        cases signed
        simp [takeExponent, marked, taken]
      | false =>
        rcases signed with rfl | rfl
        · -- without a sign the first digit is not mistaken for one
          have first := isDigit_digitOctet (are digit List.mem_cons_self)
          simp only [digitOctets, List.map_cons, List.cons_append, List.nil_append] at taken ⊢
          generalize UInt8.ofNat (48 + digit) = octet at first taken ⊢
          have plus : octet ≠ 43 := by
            rintro rfl
            exact absurd first (by decide)
          have minus : octet ≠ 45 := by
            rintro rfl
            exact absurd first (by decide)
          unfold takeExponent
          show ite _ _ _ = _
          rw [if_pos marked]
          split
          rename_i negative after signed
          split at signed
          · rename_i same
            exact absurd (List.cons.inj same).1 plus
          · rename_i same
            exact absurd (List.cons.inj same).1 minus
          · obtain ⟨rfl, rfl⟩ := signed
            rw [taken]
        · simp [takeExponent, marked, taken]

theorem ends_exponent {exponent : Option (Bool × List Nat)} {octets : Octets}
    (spelled : ExponentSpelledBy exponent octets) (stops : Stops rest) :
    ∀ octet ∈ (octets ++ rest).head?, isDigit octet = false ∧ octet ≠ 46 := by
  intro octet member
  cases exponent with
  | none =>
    cases spelled
    exact ⟨(stops octet member).1, (stops octet member).2.1⟩
  | some exponent =>
    obtain ⟨mark, _, marked, _, rfl⟩ := spelled
    cases member
    rcases marked with rfl | rfl <;> decide

theorem ends_fraction (fraction : Option (List Nat)) {tail : Octets}
    (ends : ∀ octet ∈ tail.head?, isDigit octet = false ∧ octet ≠ 46) :
    ∀ octet ∈ (fractionOctets fraction ++ tail).head?, isDigit octet = false := by
  intro octet member
  cases fraction with
  | none => exact (ends octet member).1
  | some digits =>
    cases member
    decide

/-- What is spelled without its sign does not begin with one. -/
theorem digitOctets_ne_sign {whole : List Nat} (are : AreDigits whole) (some_digit : whole ≠ [])
    (rest after : Octets) : digitOctets whole ++ rest ≠ 45 :: after := by
  cases whole with
  | nil => exact absurd rfl some_digit
  | cons digit digits =>
    have first := isDigit_digitOctet (are digit List.mem_cons_self)
    intro same
    have sign : UInt8.ofNat (48 + digit) = 45 := (List.cons.inj same).1
    rw [sign] at first
    exact absurd first (by decide)

/-- **A reader takes a number that is spelled.** -/
theorem takeNumber_of_spelled {octets : Octets} (spelled : text.SpelledBy octets)
    (stops : Stops rest) : takeNumber (octets ++ rest) = some (text, rest) := by
  obtain ⟨negative, whole, fraction, exponent⟩ := text
  obtain ⟨⟨are, leads, are_fraction, are_exponent⟩, written, spelled, rfl⟩ := spelled
  have some_digit : whole ≠ [] := by
    rcases leads with rfl | ⟨some_digit, _⟩
    · simp
    · exact some_digit
  have ends := ends_exponent spelled stops
  have wholly := takeWhole_append are leads (ends_fraction fraction ends)
  have broken := takeFraction_append are_fraction ends
  have scaled := takeExponent_of_spelled are_exponent spelled stops
  simp only [List.append_assoc]
  cases negative with
  | true =>
    simp only [takeNumber, if_true, List.cons_append, List.nil_append]
    simp [wholly, broken, scaled]
  | false =>
    have unsigned := digitOctets_ne_sign are some_digit
      (fractionOctets fraction ++ (written ++ rest))
    simp only [Bool.false_eq_true, if_false, List.nil_append]
    unfold takeNumber
    split
    rename_i negative after signed
    split at signed
    · rename_i same
      exact absurd same (unsigned _)
    · obtain ⟨rfl, rfl⟩ := signed
      simp [wholly, broken, scaled]

/-- A number with the exponent written in lower case and with its sign. -/
theorem spelledBy_spell (formed : text.WellFormed) : text.SpelledBy text.spell := by
  refine ⟨formed, exponentOctets text.exponent, ?_, rfl⟩
  rcases text.exponent with _ | ⟨negative, digits⟩
  · rfl
  · cases negative with
    | true => exact ⟨101, [45], .inl rfl, rfl, rfl⟩
    | false => exact ⟨101, [43], .inl rfl, .inr rfl, rfl⟩

theorem takeNumber_spell (formed : text.WellFormed) (stops : Stops rest) :
    takeNumber (text.spell ++ rest) = some (text, rest) :=
  takeNumber_of_spelled (spelledBy_spell formed) stops

/-! ### Whatever is taken is spelled -/

/-- What is taken as digits are digits. -/
theorem areDigits_of_takeDigits {digits : List Nat} (taken : takeDigits input = (digits, rest)) :
    AreDigits digits ∧ input = digitOctets digits ++ rest := by
  cases taken
  have each : ∀ octet ∈ input.takeWhile isDigit, 48 ≤ octet.toNat ∧ octet.toNat ≤ 57 := by
    intro octet member
    simpa [isDigit, UInt8.le_iff_toNat_le] using List.mem_takeWhile_imp member
  constructor
  · intro digit member
    obtain ⟨octet, inside, rfl⟩ := List.mem_map.mp member
    have range := each octet inside
    omega
  · have same : digitOctets ((input.takeWhile isDigit).map fun octet => octet.toNat - 48) =
        input.takeWhile isDigit := by
      rw [digitOctets, List.map_map]
      refine (List.map_congr_left fun octet inside => ?_).trans (List.map_id _)
      have whole : 48 + (octet.toNat - 48) = octet.toNat := by
        have range := each octet inside
        omega
      show UInt8.ofNat (48 + (octet.toNat - 48)) = octet
      rw [whole, UInt8.ofNat_toNat]
    rw [same, List.takeWhile_append_dropWhile]

theorem whole_of_takeWhole {whole : List Nat} (taken : takeWhole input = some (whole, rest)) :
    AreDigits whole ∧ (whole = [0] ∨ whole ≠ [] ∧ whole.head? ≠ some 0) ∧
      input = digitOctets whole ++ rest := by
  unfold takeWhole at taken
  split at taken
  case h_1 | h_3 => cases taken
  case h_2 digits =>
    cases taken
    obtain ⟨are, same⟩ := areDigits_of_takeDigits digits
    exact ⟨are, .inl rfl, same⟩
  case h_4 none_taken _ other digits =>
    cases taken
    obtain ⟨are, same⟩ := areDigits_of_takeDigits digits
    refine ⟨are, .inr ⟨?_, ?_⟩, same⟩
    · rintro rfl
      exact none_taken rfl
    · intro first
      obtain ⟨others, rfl⟩ := List.head?_eq_some_iff.mp first
      exact other _ rfl

theorem fraction_of_takeFraction {fraction : Option (List Nat)}
    (taken : takeFraction input = some (fraction, rest)) :
    (∀ digits, fraction = some digits → digits ≠ [] ∧ AreDigits digits) ∧
      input = fractionOctets fraction ++ rest := by
  unfold takeFraction at taken
  split at taken
  · split at taken
    · cases taken
    · rename_i none_taken digits
      cases taken
      obtain ⟨are, same⟩ := areDigits_of_takeDigits digits
      refine ⟨?_, congrArg (List.cons 46) same⟩
      rintro _ ⟨⟩
      refine ⟨?_, are⟩
      rintro rfl
      exact none_taken rfl
  · cases taken
    refine ⟨?_, rfl⟩
    rintro _ ⟨⟩

theorem exponent_of_takeExponent {exponent : Option (Bool × List Nat)}
    (taken : takeExponent input = some (exponent, rest)) :
    (∀ negative digits, exponent = some (negative, digits) → digits ≠ [] ∧ AreDigits digits) ∧
      ∃ octets, ExponentSpelledBy exponent octets ∧ input = octets ++ rest := by
  unfold takeExponent at taken
  split at taken
  · rename_i mark after
    by_cases marked : mark = 101 ∨ mark = 69
    · rw [if_pos marked] at taken
      split at taken
      rename_i negative unsigned signed
      split at taken
      · cases taken
      · rename_i none_taken digits
        cases taken
        obtain ⟨are, rfl⟩ := areDigits_of_takeDigits digits
        refine ⟨?_, ?_⟩
        · rintro _ _ ⟨⟩
          refine ⟨?_, are⟩
          rintro rfl
          exact none_taken rfl
        · -- a plus, a minus, or no sign
          split at signed <;> cases signed
          · exact ⟨_, ⟨mark, [43], marked, .inr rfl, rfl⟩, rfl⟩
          · exact ⟨_, ⟨mark, [45], marked, rfl, rfl⟩, rfl⟩
          · exact ⟨_, ⟨mark, [], marked, .inl rfl, rfl⟩, rfl⟩
    · rw [if_neg marked] at taken
      cases taken
      exact ⟨by rintro _ _ ⟨⟩, [], rfl, rfl⟩
  · cases taken
    exact ⟨by rintro _ _ ⟨⟩, [], rfl, rfl⟩

/-- **Whatever a reader takes as a number is spelled.** -/
theorem spelled_of_takeNumber (taken : takeNumber input = some (text, rest)) :
    ∃ octets, text.SpelledBy octets ∧ input = octets ++ rest := by
  unfold takeNumber at taken
  split at taken
  rename_i negative unsigned signed
  obtain ⟨⟨whole, _⟩, isWhole, taken⟩ := Option.bind_eq_some_iff.mp taken
  obtain ⟨⟨fraction, _⟩, isFraction, taken⟩ := Option.bind_eq_some_iff.mp taken
  obtain ⟨⟨exponent, _⟩, isExponent, taken⟩ := Option.bind_eq_some_iff.mp taken
  cases taken
  obtain ⟨are, leads, rfl⟩ := whole_of_takeWhole isWhole
  obtain ⟨are_fraction, rfl⟩ := fraction_of_takeFraction isFraction
  obtain ⟨are_exponent, octets, spelled, rfl⟩ := exponent_of_takeExponent isExponent
  refine ⟨_, ⟨⟨are, leads, are_fraction, are_exponent⟩, octets, spelled, rfl⟩, ?_⟩
  split at signed
  · obtain ⟨rfl, rfl⟩ := signed
    simp
  · obtain ⟨rfl, rfl⟩ := signed
    simp

/-! ### Whole numbers -/

/-- The number that digits spell after a start. -/
def spelledFrom (start : Nat) (digits : List Nat) : Nat :=
  digits.foldl (fun value digit => value * 10 + digit) start

theorem le_spelledFrom (start : Nat) (digits : List Nat) : start ≤ spelledFrom start digits := by
  induction digits generalizing start with
  | nil => exact Nat.le_refl start
  | cons digit digits ih =>
    have grown : start ≤ start * 10 + digit := by omega
    exact Nat.le_trans grown (ih _)

/-- Digits are read to their end while they stay below the bound. -/
theorem accumulate_eq {start : Nat} {digits : List Nat}
    (fits : spelledFrom start digits < significandBound) :
    accumulate start digits = (spelledFrom start digits, []) := by
  induction digits generalizing start with
  | nil => rfl
  | cons digit digits ih =>
    have below : start * 10 + digit < significandBound :=
      Nat.lt_of_le_of_lt (le_spelledFrom _ digits) fits
    rw [accumulate, if_pos below]
    exact ih fits

theorem spelledFrom_toDigits (n : Nat) :
    spelledFrom 0 (digitValues (Nat.toDigits 10 n)) = n := by
  have value : Nat.ofDigitChars 10 (Nat.toDigits 10 n) 0 = n := Nat.ofDigitChars_ten_toDigits
  rw [Nat.ofDigitChars_eq_foldl] at value
  rw [spelledFrom, digitValues, List.foldl_map]
  simpa [Nat.mul_comm] using value

/-- The parts of the text of a whole number. -/
def ofWhole (value : Int) : NumberText where
  negative := decide (value < 0)
  whole := digitValues (Nat.toDigits 10 value.natAbs)
  fraction := none
  exponent := none

theorem accumulate_toDigits {n : Nat} (fits : n < 18446744073709551616) :
    accumulate 0 (digitValues (Nat.toDigits 10 n)) = (n, []) := by
  have bound : significandBound = 18446744073709551616 := by decide
  have spelled := spelledFrom_toDigits n
  rw [accumulate_eq (by rwa [spelled, bound]), spelled]

/-- **A whole number of 64 bits is read back.** -/
theorem read?_ofWhole {value : Int} (least : -9223372036854775808 ≤ value)
    (most : value < 18446744073709551616) : (ofWhole value).read? = some (.whole value) := by
  unfold read? ofWhole
  rw [accumulate_toDigits (by omega)]
  by_cases negative : value < 0
  · have power : Nat.pow 2 63 = 9223372036854775808 := by decide
    have same : -(value.natAbs : Int) = value := by omega
    have whole : ¬(value.natAbs = 0 ∨ Nat.pow 2 63 < value.natAbs) := by
      rw [power]
      omega
    simp only [negative, decide_true, List.isEmpty_nil, if_true, Bool.not_true, Bool.false_eq_true,
      if_false, whole, same]
  · have same : (value.natAbs : Int) = value := by omega
    simp only [negative, decide_false, List.isEmpty_nil, if_true, Bool.not_false, same]

theorem wellFormed_ofWhole (value : Int) : (ofWhole value).WellFormed where
  whole := areDigits_digitValues isDigit_toDigits
  leads := leads_toDigits _
  fraction := by simp [ofWhole]
  exponent := by simp [ofWhole]

theorem octetsOf_toString (value : Int) : octetsOf (toString value) = (ofWhole value).spell := by
  have digits (n : Nat) :
      octetsOf (Nat.repr n) = digitOctets (digitValues (Nat.toDigits 10 n)) := by
    rw [Nat.repr_eq_ofList_toDigits, octetsOf_ofList, flatMap_utf8EncodeChar isDigit_toDigits]
  have sign : octetsOf "-" = [45] := by decide
  cases value with
  | ofNat n =>
    change octetsOf (Nat.repr n) = _
    simp [digits, ofWhole, spell, fractionOctets, exponentOctets]
  | negSucc n =>
    change octetsOf ("-" ++ Nat.repr (n + 1)) = _
    rw [octetsOf_append, sign, digits]
    simp [ofWhole, spell, fractionOctets, exponentOctets]

/-- A number with a fraction or an exponent is read as a double. -/
theorem exists_float {text : NumberText} (broken : text.fraction.isSome ∨ text.exponent.isSome)
    {value : Number} (found : text.read? = some value) : ∃ double, value = .float double := by
  obtain ⟨negative, whole, fraction, exponent⟩ := text
  unfold read? at found
  cases fraction with
  | none =>
    cases exponent with
    | none => simp at broken
    | some exponent =>
      obtain ⟨double, _, rfl⟩ := Option.map_eq_some_iff.mp found
      exact ⟨_, rfl⟩
  | some digits =>
    obtain ⟨double, _, rfl⟩ := Option.map_eq_some_iff.mp found
    exact ⟨_, rfl⟩

/-- Digits are read while the number has 64 bits. -/
theorem accumulate_lt {start : Nat} (digits : List Nat) (fits : start < significandBound) :
    (accumulate start digits).1 < significandBound := by
  induction digits generalizing start with
  | nil => exact fits
  | cons digit digits ih =>
    unfold accumulate
    split
    · rename_i below
      exact ih below
    · exact fits

/-- A whole number that is read has 64 bits. -/
theorem whole_of_read? {text : NumberText} {value : Int} (found : text.read? = some (.whole value)) :
    -9223372036854775808 ≤ value ∧ value < 18446744073709551616 := by
  obtain ⟨negative, whole, fraction, exponent⟩ := text
  by_cases broken : fraction.isSome ∨ exponent.isSome
  · obtain ⟨double, same⟩ := exists_float broken found
    cases same
  obtain ⟨rfl, rfl⟩ : fraction = none ∧ exponent = none := by simpa using broken
  have bound : significandBound = 18446744073709551616 := by decide
  have power : Nat.pow 2 63 = 9223372036854775808 := by decide
  have start : 0 < significandBound := by rw [bound]; omega
  have fits := accumulate_lt whole start
  rw [bound] at fits
  unfold read? at found
  rcases taken : accumulate 0 whole with ⟨significand, left⟩
  rw [taken] at found fits
  simp only at found fits
  split at found
  · split at found
    · cases found
      omega
    · split at found
      · cases found
      · rename_i small
        cases found
        omega
  · obtain ⟨double, _, same⟩ := Option.map_eq_some_iff.mp found
    cases same

end NumberText

/-! ### Doubles -/

namespace Double

theorem unitsOf_pos {magnitude : Nat} (positive : magnitude ≠ 0) : 0 < unitsOf magnitude := by
  unfold unitsOf
  split
  · exact Nat.pos_of_ne_zero positive
  · have power (n : Nat) : 0 < Nat.pow 2 n := Nat.pow_pos (by decide)
    exact Nat.mul_pos (Nat.add_pos_left (power 52) _) (power _)

/-- A multiple of nothing is nothing, and does not lie above a positive bound. -/
theorem ne_zero_of_liesBetween {closed : Bool} {low high count : Nat} {exponent : Int}
    (positive : 0 < low)
    (lies : liesBetween closed low high (halvesOnGrid count exponent)) : count ≠ 0 := by
  rintro rfl
  have divisor : 0 < (tenPower exponent).2 := Nat.pow_pos (by decide)
  have above : 0 < low * (tenPower exponent).2 := Nat.mul_pos positive divisor
  unfold liesBetween halvesOnGrid at lies
  split at lies
  · simp at lies
    omega
  · simp at lies

theorem ne_zero_of_decimalWith {tie : Tie} {magnitude count : Nat} {decimal : Decimal}
    (positive : magnitude ≠ 0) (found : decimalWith tie magnitude count = some decimal) :
    decimal.digits ≠ 0 := by
  have low : 0 < unitsOf magnitude + unitsOf (magnitude - 1) :=
    Nat.add_pos_left (unitsOf_pos positive) _
  unfold decimalWith at found
  simp only at found
  split at found
  · rename_i both
    have below := ne_zero_of_liesBetween low (Bool.and_eq_true_iff.mp both).1
    split at found
    · cases found
      exact below
    · cases found
      simp
    · cases tie
      · cases found
        simp only
        omega
      · cases found
        simp
  · split at found
    · rename_i below
      cases found
      exact ne_zero_of_liesBetween low below
    · split at found
      · cases found
        simp
      · cases found

theorem ne_zero_trim {decimal : Decimal} (positive : decimal.digits ≠ 0) :
    decimal.trim.digits ≠ 0 := by
  induction decimal using Decimal.trim.induct with
  | case1 decimal divisible ih =>
    rw [Decimal.trim, if_pos divisible]
    exact ih (by simp only; omega)
  | case2 decimal indivisible =>
    rw [Decimal.trim, if_neg indivisible]
    exact positive

/-- The digits of a number other than zero are not zero. -/
theorem ne_zero_shortest (tie : Tie) {magnitude : Nat} (positive : magnitude ≠ 0) :
    (shortest tie magnitude).digits ≠ 0 := by
  unfold shortest
  split
  · rename_i found
    obtain ⟨count, _, found⟩ := List.exists_of_findSome?_eq_some found
    exact ne_zero_trim (ne_zero_of_decimalWith positive found)
  · exact (unitsOf_pos positive).ne'

end Double

namespace Decimal

/-- Characters that are a number without a sign, with a fraction or an exponent. -/
def IsNumber (characters : List Char) : Prop :=
  ∃ whole fraction exponent,
    (∀ negative, (⟨negative, whole, fraction, exponent⟩ : NumberText).WellFormed) ∧
      (fraction.isSome ∨ exponent.isSome) ∧
      characters.flatMap String.utf8EncodeChar =
        digitOctets whole ++
          (NumberText.fractionOctets fraction ++ NumberText.exponentOctets exponent)

/-- Digits that may stand before a point or an exponent. -/
structure Leads (digits : List Char) : Prop where
  each : ∀ c ∈ digits, c.isDigit
  leads : digits = ['0'] ∨ digits ≠ [] ∧ digits.head? ≠ some '0'

/-- Digits that may stand after a point or in an exponent. -/
structure Follows (digits : List Char) : Prop where
  each : ∀ c ∈ digits, c.isDigit
  some_digit : digits ≠ []

theorem leads_zero : Leads ['0'] where
  each := by simp
  leads := .inl rfl

theorem follows_zero : Follows ['0'] where
  each := by simp
  some_digit := by simp

theorem Leads.values {digits : List Char} (leads : Leads digits) :
    digitValues digits = [0] ∨ digitValues digits ≠ [] ∧ (digitValues digits).head? ≠ some 0 := by
  rcases leads.leads with rfl | ⟨some_digit, first⟩
  · exact .inl (by decide)
  · exact .inr ⟨by simpa [digitValues] using some_digit, head?_digitValues leads.each first⟩

theorem Follows.values {digits : List Char} (follows : Follows digits) :
    digitValues digits ≠ [] ∧ AreDigits (digitValues digits) :=
  ⟨by simpa [digitValues] using follows.some_digit, areDigits_digitValues follows.each⟩

theorem flatMap_cons_of_lt {c : Char} (narrow : c.toNat < 128) (rest : List Char) :
    (c :: rest).flatMap String.utf8EncodeChar =
      UInt8.ofNat c.toNat :: rest.flatMap String.utf8EncodeChar := by
  rw [List.flatMap_cons, utf8EncodeChar_of_lt narrow, List.singleton_append]

theorem isNumber_point {front back : List Char} (leads : Leads front) (follows : Follows back) :
    IsNumber (front ++ '.' :: back) := by
  refine ⟨digitValues front, some (digitValues back), none, fun negative => ?_, .inl rfl, ?_⟩
  · constructor
    · exact areDigits_digitValues leads.each
    · exact leads.values
    · rintro _ ⟨⟩
      exact follows.values
    · simp
  · rw [List.flatMap_append, flatMap_utf8EncodeChar leads.each, flatMap_cons_of_lt (by decide),
      flatMap_utf8EncodeChar follows.each]
    simp [NumberText.fractionOctets, NumberText.exponentOctets]

/-- A signed exponent goes after digits, or after digits with a fraction. -/
theorem isNumber_exponent {front back : List Char} {fraction : Option (List Char)}
    (leads : Leads front) (follows : ∀ digits, fraction = some digits → Follows digits)
    (scales : Follows back) (negative : Bool) :
    IsNumber (front ++ ((fraction.map ('.' :: ·)).getD [] ++
      'e' :: (if negative then '-' else '+') :: back)) := by
  refine ⟨digitValues front, fraction.map digitValues, some (negative, digitValues back),
    fun _ => ?_, .inr rfl, ?_⟩
  · constructor
    · exact areDigits_digitValues leads.each
    · exact leads.values
    · intro digits same
      obtain ⟨characters, some_fraction, rfl⟩ := Option.map_eq_some_iff.mp same
      exact (follows characters some_fraction).values
    · rintro _ _ ⟨⟩
      exact scales.values
  · have sign : ('e' :: (if negative then '-' else '+') :: back).flatMap String.utf8EncodeChar =
        NumberText.exponentOctets (some (negative, digitValues back)) := by
      rw [flatMap_cons_of_lt (by decide), flatMap_cons_of_lt (by cases negative <;> decide),
        flatMap_utf8EncodeChar scales.each]
      cases negative <;> rfl
    rw [List.flatMap_append, List.flatMap_append, flatMap_utf8EncodeChar leads.each, sign]
    cases fraction with
    | none => rfl
    | some digits =>
      rw [Option.map_some, Option.getD_some, flatMap_cons_of_lt (by decide),
        flatMap_utf8EncodeChar (follows digits rfl).each]
      rfl

/-! #### The two forms of a decimal -/

variable {d : Decimal}

theorem isDigit_replicate {count : Nat} : ∀ c ∈ List.replicate count '0', c.isDigit := by
  intro c member
  rw [List.eq_of_mem_replicate member]
  rfl

theorem isNumber_positional (positive : d.digits ≠ 0) : IsNumber (d.positional ['.', '0']) := by
  have each : ∀ c ∈ d.digitChars, c.isDigit := isDigit_toDigits
  have some_digit : d.digitChars ≠ [] := Nat.toDigits_ne_nil
  have first : d.digitChars.head? ≠ some '0' := head?_toDigits positive
  unfold positional
  split
  · refine isNumber_point ⟨fun c member => ?_, .inr ⟨by simp [some_digit], ?_⟩⟩
      follows_zero
    · exact (List.mem_append.mp member).elim (each c) (isDigit_replicate c)
    · cases digits : d.digitChars with
      | nil => exact absurd digits some_digit
      | cons c rest => simpa [digits] using first
  · rename_i broken
    split
    · rename_i places
      have less : d.wholePlaces.toNat < d.digitChars.length := by
        unfold wholePlaces at places ⊢
        omega
      have some_place : d.wholePlaces.toNat ≠ 0 := by omega
      refine isNumber_point ⟨fun c member => each c (List.mem_of_mem_take member), .inr ⟨?_, ?_⟩⟩
        ⟨fun c member => each c (List.mem_of_mem_drop member), ?_⟩
      · simp [List.take_eq_nil_iff, some_place, some_digit]
      · rwa [List.head?_take, if_neg some_place]
      · simpa [List.drop_eq_nil_iff] using less
    · refine isNumber_point leads_zero ⟨fun c member => ?_, ?_⟩
      · exact (List.mem_append.mp member).elim (isDigit_replicate c) (each c)
      · simp [some_digit]

theorem isNumber_scientific (positive : d.digits ≠ 0) : IsNumber d.scientific := by
  have each : ∀ c ∈ d.digitChars, c.isDigit := isDigit_toDigits
  have first : d.digitChars.head? ≠ some '0' := head?_toDigits positive
  have scales : Follows (Nat.toDigits 10 (d.wholePlaces - 1).natAbs) :=
    ⟨isDigit_toDigits, Nat.toDigits_ne_nil⟩
  unfold scientific
  cases digits : d.digitChars with
  | nil => exact absurd digits Nat.toDigits_ne_nil
  | cons c rest =>
    rw [digits] at each first
    obtain ⟨digit, others⟩ := List.forall_mem_cons.mp each
    have leads : Leads [c] := ⟨by simpa using digit, .inr ⟨by simp, by simpa using first⟩⟩
    have number (fraction : Option (List Char))
        (follows : ∀ digits, fraction = some digits → Follows digits) :=
      isNumber_exponent leads follows scales (decide (d.wholePlaces - 1 < 0))
    cases rest with
    | nil => simpa using number none (by simp)
    | cons c' rest =>
      have follows : Follows (c' :: rest) := ⟨others, by simp⟩
      simpa using number (some (c' :: rest)) (by simpa using follows)

end Decimal

namespace Double

/-- **The text of a finite double is a number by the grammar**, and not that of a whole number. -/
theorem exists_spell {value : Double} {text : String} (written : value.digits? = some text) :
    ∃ number : NumberText, number.WellFormed ∧ octetsOf text = number.spell ∧
      (number.fraction.isSome ∨ number.exponent.isSome) := by
  have signed (characters : List Char) (is_number : Decimal.IsNumber characters) :
      ∃ number : NumberText, number.WellFormed ∧
        octetsOf (value.signed characters) = number.spell ∧
          (number.fraction.isSome ∨ number.exponent.isSome) := by
    obtain ⟨whole, fraction, exponent, formed, broken, octets⟩ := is_number
    refine ⟨⟨value.isNegative, whole, fraction, exponent⟩, formed _, ?_, broken⟩
    rw [Double.signed, octetsOf_ofList]
    cases value.isNegative with
    | true =>
      simp only [if_true, NumberText.spell]
      rw [Decimal.flatMap_cons_of_lt (by decide), octets]
      rfl
    | false =>
      simp only [NumberText.spell]
      exact octets
  unfold digits? at written
  split at written
  · cases written
  · split at written
    · cases written
      have zero : Decimal.IsNumber (['0'] ++ '.' :: ['0']) :=
        Decimal.isNumber_point Decimal.leads_zero Decimal.follows_zero
      exact signed _ zero
    · rename_i positive
      have digits := ne_zero_shortest .toEven positive
      cases written
      apply signed
      split
      · exact Decimal.isNumber_positional digits
      · exact Decimal.isNumber_scientific digits

end Double

/-- **The text of a number is a number by the grammar**; a double that is not finite has none. -/
theorem Number.exists_spell {value : Number} {text : String} (written : value.text? = some text) :
    ∃ number : NumberText, number.WellFormed ∧ octetsOf text = number.spell := by
  cases value with
  | whole value =>
    cases written
    exact ⟨_, NumberText.wellFormed_ofWhole value, NumberText.octetsOf_toString value⟩
  | float value =>
    obtain ⟨number, formed, spelled, _⟩ := Double.exists_spell written
    exact ⟨number, formed, spelled⟩

end FeatureFlags
