import FeatureFlags.Instant.Text
import FeatureFlags.Proofs.Instant.Calendar
import Mathlib.Data.List.Induction
import Mathlib.Data.List.TakeWhile
import Mathlib.Data.Nat.Digits.Defs

/-!
**An instant is read back from its text.**

Each number of the text is written with as many digits as a reader takes, or with all of its digits
where a reader takes any number of them, and the character after it is no digit. So a reader finds
the numbers that were written, and from them the day and the second of the day.

* `Instant.IsValid`: the instants of the calendar; a leap second is the last second of a minute.
* `Instant.ofText?_text`: an instant is read back from its text.
* `Instant.isValid_of_ofText?`: what is read is valid.
-/

namespace FeatureFlags.Instant

/-- Whether an instant is on the calendar. A leap second comes after the second 59 of a minute. -/
structure IsValid (instant : Instant) : Prop where
  first : firstSecond ≤ instant.seconds
  last : instant.seconds ≤ lastSecond
  nanos : instant.nanos < 2 * nanosPerSecond
  leap : nanosPerSecond ≤ instant.nanos → instant.seconds % 60 = 59

/-! ### Digits -/

section Digits

variable {digits rest : List Char} {width n : Nat}

/-- What follows does not begin with a digit. -/
def Ends (rest : List Char) : Prop := ∀ c ∈ rest.head?, c.isDigit = false

theorem digitsValue_eq (digits : List Char) : digitsValue digits = Nat.ofDigitChars 10 digits 0 := by
  rw [Nat.ofDigitChars_eq_foldl, digitsValue]
  simp only [Nat.mul_comm]

theorem isDigit_paddedDigits : ∀ c ∈ paddedDigits width n, c.isDigit := by
  intro c member
  rcases List.mem_append.mp member with zero | digit
  · rw [List.eq_of_mem_replicate zero]
    rfl
  · exact Nat.isDigit_of_mem_toDigits (by decide) (by decide) digit

theorem paddedDigits_ne_nil : paddedDigits width n ≠ [] := by
  simp [paddedDigits, Nat.toDigits_ne_nil]

@[simp] theorem digitsValue_paddedDigits : digitsValue (paddedDigits width n) = n := by
  rw [digitsValue_eq, paddedDigits, Nat.ofDigitChars_append, Nat.ofDigitChars_replicate_zero,
    Nat.mul_zero, Nat.ofDigitChars_ten_toDigits]

/-- A number that fits is written with exactly as many digits as are asked for. -/
theorem length_paddedDigits (positive : 0 < width) (fits : n < 10 ^ width) :
    (paddedDigits width n).length = width := by
  have short : (Nat.toDigits 10 n).length ≤ width :=
    (Nat.length_toDigits_le_iff (by decide) positive).mpr fits
  rw [paddedDigits, List.length_append, List.length_replicate]
  omega

/-- A reader takes digits up to its width, or up to what is no digit. -/
theorem takeShortNumber_append (each : ∀ c ∈ digits, c.isDigit) (some_digit : digits ≠ [])
    (fits : digits.length ≤ width) (ends : digits.length = width ∨ Ends rest) :
    takeShortNumber width (digits ++ rest) = some (digitsValue digits, rest) := by
  have no_more : (rest.take (width - digits.length)).takeWhile Char.isDigit = [] := by
    rcases ends with full | ends
    · rw [full, Nat.sub_self]
      rfl
    · cases rest with
      | nil => simp
      | cons c rest =>
        have other : c.isDigit = false := ends c rfl
        cases width - digits.length <;> simp [other]
  have taken : ((digits ++ rest).take width).takeWhile Char.isDigit = digits := by
    rw [List.take_append, List.take_of_length_le fits, List.takeWhile_append_of_pos each, no_more,
      List.append_nil]
  unfold takeShortNumber
  rw [taken]
  simp [some_digit]

/-- Digits are no white space. -/
theorem skipSpaces_append (each : ∀ c ∈ digits, c.isDigit) (some_digit : digits ≠ []) :
    skipSpaces (digits ++ rest) = digits ++ rest := by
  cases digits with
  | nil => exact absurd rfl some_digit
  | cons c others =>
    have digit := each c List.mem_cons_self
    have ink : isSpace c = false := by
      have range : 48 ≤ c.toNat ∧ c.toNat ≤ 57 := Char.isDigit_iff_toNat.mp digit
      simp [isSpace]
      omega
    simp [skipSpaces, ink]

theorem skipSpaces_cons {c : Char} (ink : isSpace c = false) :
    skipSpaces (c :: rest) = c :: rest := by
  simp [skipSpaces, ink]

/-- A number of two digits. -/
theorem takePair_append (fits : n < 100) :
    takePair (paddedDigits 2 n ++ rest) = some (n, rest) := by
  have length : (paddedDigits 2 n).length = 2 := length_paddedDigits (by decide) fits
  rw [takePair, skipSpaces_append isDigit_paddedDigits paddedDigits_ne_nil,
    takeShortNumber_append isDigit_paddedDigits paddedDigits_ne_nil length.le (.inl length),
    digitsValue_paddedDigits]

theorem takeMark_cons {mark : Char} (ink : isSpace mark = false) :
    takeMark mark (mark :: rest) = some rest := by
  rw [takeMark, skipSpaces_cons ink]
  simp

/-- A year without a sign is read as four digits. -/
theorem takeYear_digits (each : ∀ c ∈ digits, c.isDigit) (four : digits.length = 4) :
    takeYear (digits ++ rest) = some ((digitsValue digits : Int), rest) := by
  have some_digit : digits ≠ [] := by
    rintro rfl
    cases four
  have taken : takeShortNumber 4 (digits ++ rest) = some (digitsValue digits, rest) :=
    takeShortNumber_append each some_digit four.le (.inl four)
  unfold takeYear
  rw [skipSpaces_append each some_digit]
  cases digits with
  | nil => exact absurd rfl some_digit
  | cons c others =>
    have digit := each c List.mem_cons_self
    split
    · rename_i same
      cases same
      cases digit
    · rename_i same
      cases same
      cases digit
    · rw [taken]
      rfl

/-- A year is read back, where no digit follows. -/
theorem takeYear_append (year : Int) (ends : Ends rest) :
    takeYear (yearText year ++ rest) = some (year, rest) := by
  have signed : takeShortNumber (paddedDigits 4 year.natAbs ++ rest).length
      (paddedDigits 4 year.natAbs ++ rest) = some (year.natAbs, rest) := by
    rw [takeShortNumber_append isDigit_paddedDigits paddedDigits_ne_nil (by simp) (.inr ends),
      digitsValue_paddedDigits]
  unfold yearText
  split
  · rename_i range
    have four : (paddedDigits 4 year.toNat).length = 4 := length_paddedDigits (by decide) (by omega)
    rw [takeYear_digits isDigit_paddedDigits four, digitsValue_paddedDigits]
    congr 2
    omega
  · split
    · have value : -(year.natAbs : Int) = year := by omega
      rw [List.cons_append, takeYear, skipSpaces_cons (by decide)]
      simp only [signed, Option.map_some, value]
    · have value : (year.natAbs : Int) = year := by omega
      rw [List.cons_append, takeYear, skipSpaces_cons (by decide)]
      simp only [signed, Option.map_some, value]

/-- A point with digits of a fraction. -/
theorem takeFraction_digits (each : ∀ c ∈ digits, c.isDigit) (some_digit : digits ≠ [])
    (nine : digits.length ≤ 9) (ends : Ends rest) :
    takeFraction ('.' :: (digits ++ rest)) =
      some (digitsValue digits * 10 ^ (9 - digits.length), rest) := by
  have taken : (digits ++ rest).takeWhile Char.isDigit = digits := by
    rw [List.takeWhile_append_of_pos each]
    cases rest with
    | nil => simp
    | cons c rest =>
      have other : c.isDigit = false := ends c rfl
      simp [other]
  simp only [takeFraction, taken]
  simp [some_digit, List.take_of_length_le nine]

/-- A fraction of a second is read back, where neither digit nor point follows. -/
theorem takeFraction_append (fits : n < 1000000000) (ends : Ends rest)
    (no_point : ∀ others, rest ≠ '.' :: others) :
    takeFraction (fractionText n ++ rest) = some (n, rest) := by
  have grouped (width count : Nat) (positive : 0 < width) (nine : width ≤ 9)
      (range : count < 10 ^ width) :
      takeFraction ('.' :: paddedDigits width count ++ rest) =
        some (count * 10 ^ (9 - width), rest) := by
    have length : (paddedDigits width count).length = width := length_paddedDigits positive range
    rw [List.cons_append, takeFraction_digits isDigit_paddedDigits paddedDigits_ne_nil
      (length.trans_le nine) ends, digitsValue_paddedDigits, length]
  unfold fractionText
  split
  · rename_i zero
    subst zero
    unfold takeFraction
    split
    · rename_i same
      exact absurd same (no_point _)
    · rfl
  · split
    · rw [grouped 3 _ (by decide) (by decide) (by omega)]
      congr 2
      omega
    · split
      · rw [grouped 6 _ (by decide) (by decide) (by omega)]
        congr 2
        omega
      · rw [grouped 9 _ (by decide) (by decide) (by omega)]
        simp

end Digits

/-! ### The parts of a text -/

theorem ends_cons {c : Char} {rest : List Char} (other : c.isDigit = false) : Ends (c :: rest) := by
  rintro _ ⟨⟩
  exact other

/-- **The numbers of a text are found**, where each has its digits. -/
theorem ofText?_ofList {date : Date} {hour minute second fraction : Nat}
    (month : date.month < 100) (day : date.day < 100) (hours : hour < 24) (minutes : minute < 60)
    (seconds : second ≤ 60) (nanos : fraction < 1000000000) (valid : date.isValid) :
    ofText? (String.ofList
      (yearText date.year ++ '-' :: paddedDigits 2 date.month ++ '-' :: paddedDigits 2 date.day ++
        'T' :: paddedDigits 2 hour ++ ':' :: paddedDigits 2 minute ++
        ':' :: paddedDigits 2 second ++ fractionText fraction ++ ['Z'])) =
      ofSeconds?
        (daysFromDate date * secondsPerDay +
          ((hour * 3600 + minute * 60 + (second - if second = 60 then 1 else 0) : Nat) : Int))
        (fraction + (if second = 60 then 1 else 0) * nanosPerSecond) := by
  have no_point : ∀ others, ['Z'] ≠ '.' :: others := by simp
  have last : takeFraction (fractionText fraction ++ ['Z']) = some (fraction, ['Z']) :=
    takeFraction_append nanos (ends_cons rfl) no_point
  have separator (rest : List Char) : takeSeparator ('T' :: rest) = some rest := rfl
  have offset : takeOffset (skipSpaces ['Z']) = some (0, []) := rfl
  have then_so {α β : Type} {part : Option α} {made : α} (found : part = some made)
      (next : α → Option β) : (part >>= next) = next made := by
    rw [found]
    rfl
  unfold ofText?
  rw [String.toList_ofList]
  simp only [List.append_assoc, List.cons_append]
  -- one step for each part of the text; what is left must not be simplified before it is reached
  refine (then_so (takeYear_append _ (ends_cons rfl)) _).trans ?_
  refine (then_so (takeMark_cons rfl) _).trans ?_
  refine (then_so (takePair_append month) _).trans ?_
  refine (then_so (takeMark_cons rfl) _).trans ?_
  refine (then_so (takePair_append day) _).trans ?_
  refine (then_so (separator _) _).trans ?_
  refine (then_so (takePair_append (by omega)) _).trans ?_
  refine (then_so (takeMark_cons rfl) _).trans ?_
  refine (then_so (takePair_append (by omega)) _).trans ?_
  refine (then_so (takeMark_cons rfl) _).trans ?_
  refine (then_so (takePair_append (by omega)) _).trans ?_
  refine (then_so last _).trans ?_
  refine (then_so offset _).trans ?_
  simp [skipSpaces, valid, hours, minutes, seconds]

/-! ### Days and seconds -/

variable {instant : Instant}

/-- The second of a day that a clock shows. -/
theorem secondOfDay_bounds (instant : Instant) :
    0 ≤ instant.secondOfDay ∧ instant.secondOfDay < 86400 ∧
      instant.dayNumber * 86400 + instant.secondOfDay = instant.seconds := by
  have day : instant.dayNumber = instant.seconds / 86400 :=
    Int.fdiv_eq_ediv_of_nonneg _ (by decide)
  have second : instant.secondOfDay = instant.seconds % 86400 :=
    Int.fmod_eq_emod_of_nonneg _ (by decide)
  omega

theorem daysInMonth_le (year : Int) (month : Nat) : daysInMonth year month ≤ 31 := by
  unfold daysInMonth
  split
  · split <;> omega
  · split <;> omega

theorem isValid_dateOfDays_dayNumber (valid : instant.IsValid) :
    (dateOfDays instant.dayNumber).isValid := by
  obtain ⟨low, high, whole⟩ := instant.secondOfDay_bounds
  have first := valid.first
  have last := valid.last
  unfold firstSecond secondsPerDay at first
  unfold lastSecond secondsPerDay at last
  exact isValid_dateOfDays (by omega) (by omega)

/-- **An instant is read back from its text.** -/
theorem ofText?_text (valid : instant.IsValid) : ofText? instant.text = some instant := by
  obtain ⟨low, high, whole⟩ := instant.secondOfDay_bounds
  have date := isValid_dateOfDays_dayNumber valid
  obtain ⟨_, ⟨_, month⟩, _, day⟩ := Date.isValid_iff.mp date
  have day := day.trans (daysInMonth_le _ _)
  have range := valid.nanos
  have leap_second := valid.leap
  generalize time_is : instant.secondOfDay.toNat = time
  have time_of_day : time < 86400 := by omega
  have seconds : instant.dayNumber * 86400 + (time : Int) = instant.seconds := by omega
  have minute_end : nanosPerSecond ≤ instant.nanos → time % 60 = 59 := by
    intro leap
    have := leap_second leap
    omega
  have clock (second : Nat) (same : second = time % 60) :
      instant.dayNumber * secondsPerDay +
        ((time / 3600 * 3600 + time / 60 % 60 * 60 + second : Nat) : Int) = instant.seconds := by
    unfold secondsPerDay
    omega
  have made : ofSeconds? instant.seconds instant.nanos = some instant :=
    if_pos ⟨valid.first, valid.last⟩
  unfold text
  rw [time_is]
  by_cases leap : nanosPerSecond ≤ instant.nanos
  · have last := minute_end leap
    have fraction : instant.nanos - 1 * nanosPerSecond < 1000000000 := by
      unfold nanosPerSecond at *
      omega
    simp only [if_pos leap]
    rw [ofText?_ofList (by omega) (by omega) (by omega) (by omega) (by omega) fraction date,
      daysFromDate_dateOfDays, if_pos (by omega), clock _ (by omega), Nat.sub_add_cancel (by omega),
      made]
  · have fraction : instant.nanos < 1000000000 := Nat.lt_of_not_le leap
    simp only [if_neg leap, Nat.zero_mul, Nat.sub_zero, Nat.add_zero]
    rw [ofText?_ofList (by omega) (by omega) (by omega) (by omega) (by omega) fraction date,
      daysFromDate_dateOfDays, if_neg (by omega), clock _ (by omega), Nat.zero_mul, Nat.add_zero,
      made]

/-! ### What is read -/

theorem digitsValue_lt {digits : List Char} (each : ∀ c ∈ digits, c.isDigit) :
    digitsValue digits < 10 ^ digits.length := by
  induction digits using List.reverseRecOn with
  | nil => exact Nat.one_pos
  | append_singleton digits c ih =>
    have digit : c.toNat ≤ 57 := (Char.isDigit_iff_toNat.mp (each c (by simp))).2
    have low := ih fun c member => each c (List.mem_append_left _ member)
    have value : digitsValue (digits ++ [c]) = digitsValue digits * 10 + (c.toNat - 48) := by
      rw [digitsValue, List.foldl_append]
      rfl
    rw [value, List.length_append, List.length_singleton, Nat.pow_succ]
    omega

/-- A fraction has nine digits at most. -/
theorem lt_of_takeFraction {input rest : List Char} {fraction : Nat}
    (taken : takeFraction input = some (fraction, rest)) : fraction < nanosPerSecond := by
  unfold takeFraction at taken
  split at taken
  · rename_i rest
    dsimp only at taken
    split at taken
    · cases taken
    · have each : ∀ c ∈ (rest.takeWhile Char.isDigit).take 9, c.isDigit := fun c member =>
        List.mem_takeWhile_imp (List.mem_of_mem_take member)
      have nine : ((rest.takeWhile Char.isDigit).take 9).length ≤ 9 := List.length_take_le _ _
      have power : 10 ^ ((rest.takeWhile Char.isDigit).take 9).length *
          10 ^ (9 - ((rest.takeWhile Char.isDigit).take 9).length) = nanosPerSecond := by
        rw [← Nat.pow_add, Nat.add_sub_cancel' nine]
        rfl
      cases taken
      rw [← power]
      exact Nat.mul_lt_mul_of_pos_right (digitsValue_lt each) (Nat.pow_pos (by decide))
  · cases taken
    decide

/-- An offset is a whole number of minutes. -/
theorem minutes_of_takeSignedOffset {input rest : List Char} {offset : Int}
    (taken : takeSignedOffset input = some (offset, rest)) : offset % 60 = 0 := by
  unfold takeSignedOffset at taken
  dsimp only at taken
  split at taken
  case h_4 => cases taken
  all_goals
    obtain ⟨⟨sign, _⟩, _, taken⟩ := Option.bind_eq_some_iff.mp taken
    obtain ⟨⟨hours, _⟩, _, taken⟩ := Option.bind_eq_some_iff.mp taken
    obtain ⟨⟨minutes, _⟩, _, taken⟩ := Option.bind_eq_some_iff.mp taken
    obtain ⟨_, taken⟩ := Option.ite_none_right_eq_some.mp taken
    cases taken
    refine Int.emod_eq_zero_of_dvd (Dvd.dvd.mul_left ?_ sign)
    omega

theorem minutes_of_takeOffset {input rest : List Char} {offset : Int}
    (taken : takeOffset input = some (offset, rest)) : offset % 60 = 0 := by
  unfold takeOffset at taken
  split at taken
  · cases taken
    rfl
  · cases taken
    rfl
  · split at taken
    · cases taken
      rfl
    · exact minutes_of_takeSignedOffset taken
  · exact minutes_of_takeSignedOffset taken

theorem isValid_of_ofSeconds? {seconds : Int} {nanos : Nat}
    (made : ofSeconds? seconds nanos = some instant) (fits : nanos < 2 * nanosPerSecond)
    (leap : nanosPerSecond ≤ nanos → seconds % 60 = 59) : instant.IsValid := by
  unfold ofSeconds? at made
  obtain ⟨⟨first, last⟩, made⟩ := Option.ite_none_right_eq_some.mp made
  cases made
  exact ⟨first, last, fits, leap⟩

/-- **What is read is valid.** -/
theorem isValid_of_ofText? {text : String} (made : ofText? text = some instant) :
    instant.IsValid := by
  unfold ofText? at made
  obtain ⟨⟨year, _⟩, _, made⟩ := Option.bind_eq_some_iff.mp made
  obtain ⟨_, _, made⟩ := Option.bind_eq_some_iff.mp made
  obtain ⟨⟨month, _⟩, _, made⟩ := Option.bind_eq_some_iff.mp made
  obtain ⟨_, _, made⟩ := Option.bind_eq_some_iff.mp made
  obtain ⟨⟨day, _⟩, _, made⟩ := Option.bind_eq_some_iff.mp made
  obtain ⟨_, _, made⟩ := Option.bind_eq_some_iff.mp made
  obtain ⟨⟨hour, _⟩, _, made⟩ := Option.bind_eq_some_iff.mp made
  obtain ⟨_, _, made⟩ := Option.bind_eq_some_iff.mp made
  obtain ⟨⟨minute, _⟩, _, made⟩ := Option.bind_eq_some_iff.mp made
  obtain ⟨_, _, made⟩ := Option.bind_eq_some_iff.mp made
  obtain ⟨⟨second, _⟩, _, made⟩ := Option.bind_eq_some_iff.mp made
  obtain ⟨⟨fraction, _⟩, fraction_read, made⟩ := Option.bind_eq_some_iff.mp made
  obtain ⟨⟨offset, _⟩, offset_read, made⟩ := Option.bind_eq_some_iff.mp made
  have small := lt_of_takeFraction fraction_read
  have minutes := minutes_of_takeOffset offset_read
  obtain ⟨_, made⟩ := Option.ite_none_right_eq_some.mp made
  refine isValid_of_ofSeconds? made ?_ ?_
  · split <;> omega
  · intro leap
    split at leap
    · rename_i last
      subst last
      unfold secondsPerDay
      rw [if_pos rfl]
      omega
    · omega

end FeatureFlags.Instant
