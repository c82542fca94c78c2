import FeatureFlags.Instant.Span
import FeatureFlags.Proofs.Instant.Text

/-!
**Spans between instants are exact.**

The words of a span stand for a whole number of nanoseconds. No two instants on the calendar are as
far apart as the longest span, so the words of the span between them never wrap, the span is never
refused, and it stands for the exact difference, but for the leap seconds that lie between the two
clock times.

* `TimeSpan.toNanos`, `Instant.toNanos`: spans and instants as whole numbers of nanoseconds.
* `TimeSpan.isShorter_iff`: spans are ordered as these numbers.
* `TimeSpan.ofNanos?_cases`: which numbers have a span.
* `Instant.exists_since?`: the span from one instant to another.
-/

namespace FeatureFlags

/-! ### Words -/

/-- Words are subtracted exactly, if the difference fits. -/
theorem toInt_ofInt_sub {first second : Int} (least : -9223372036854775808 ≤ first - second)
    (most : first - second < 9223372036854775808) :
    (Int64.ofInt first - Int64.ofInt second).toInt = first - second := by
  rw [← Int64.ofInt_sub, Int64.toInt_ofInt_of_le least most]

/-- Words are added exactly, if the sum fits. -/
theorem toInt_add_of_fits {first second : Int64}
    (least : -9223372036854775808 ≤ first.toInt + second.toInt)
    (most : first.toInt + second.toInt < 9223372036854775808) :
    (first + second).toInt = first.toInt + second.toInt := by
  rw [← Int64.toInt_ofInt_of_le least most, Int64.ofInt_add, Int64.ofInt_toInt, Int64.ofInt_toInt]

/-- The nanoseconds within a second are kept by a word. -/
theorem toNat_ofNat_nanos {nanos : Nat} (below : nanos < 1000000000) :
    (UInt32.ofNat nanos).toNat = nanos :=
  UInt32.toNat_ofNat_of_lt' (Nat.lt_trans below (by decide))

theorem ofNat_nanos_lt {nanos : Nat} (below : nanos < 1000000000) :
    UInt32.ofNat nanos < 1000000000 := by
  rw [UInt32.lt_iff_toNat_lt, toNat_ofNat_nanos below]
  exact below

namespace TimeSpan

/-- The nanoseconds of a span. -/
def toNanos (span : TimeSpan) : Int := span.seconds.toInt * 1000000000 + span.nanos.toNat

/-- The nanoseconds of the longest span, 2^63 - 1 milliseconds. -/
def longest : Int := 9223372036854775807 * 1000000

/-- A span is refused exactly if it is too long. -/
theorem of?_eq (seconds : Int64) {nanos : UInt32} (proper : nanos < 1000000000) :
    of? seconds nanos =
      if -longest ≤ seconds.toInt * 1000000000 + nanos.toNat ∧
          seconds.toInt * 1000000000 + nanos.toNat ≤ longest then
        some ⟨seconds, nanos, proper⟩
      else none := by
  have first : (-9223372036854776 : Int64).toInt = -9223372036854776 := by decide
  have last : (9223372036854775 : Int64).toInt = 9223372036854775 := by decide
  have fits : nanos.toNat < 1000000000 := UInt32.lt_iff_toNat_lt.1 proper
  have most : (807000000 : UInt32).toNat = 807000000 := by decide
  have least : (193000000 : UInt32).toNat = 193000000 := by decide
  unfold of? longest
  rw [dif_pos proper]
  simp only [Int64.lt_iff_toInt_lt, ← Int64.toInt_inj, UInt32.lt_iff_toNat_lt, first, last, most,
    least]
  split <;> split <;> first | rfl | omega

/-- **Spans are ordered as their numbers of nanoseconds.** -/
theorem isShorter_iff {first second : TimeSpan} :
    first.isShorter second ↔ first.toNanos < second.toNanos := by
  have firstFits : first.nanos.toNat < 1000000000 := UInt32.lt_iff_toNat_lt.1 first.nanos_lt
  have secondFits : second.nanos.toNat < 1000000000 := UInt32.lt_iff_toNat_lt.1 second.nanos_lt
  unfold isShorter toNanos
  rw [Bool.or_eq_true, Bool.and_eq_true, decide_eq_true_iff, decide_eq_true_iff, beq_iff_eq,
    Int64.lt_iff_toInt_lt, ← Int64.toInt_inj, UInt32.lt_iff_toNat_lt]
  omega

/-- Words of fewer seconds than that have a span, which stands for their nanoseconds. -/
theorem exists_of? {seconds : Int64} {nanos : UInt32} {whole : Int} {part : Nat}
    (isWhole : seconds.toInt = whole) (isPart : nanos.toNat = part) (below : part < 1000000000)
    (least : -9000000000000000 ≤ whole) (most : whole ≤ 9000000000000000) :
    ∃ span, of? seconds nanos = some span ∧ span.toNanos = whole * 1000000000 + part := by
  have proper : nanos < 1000000000 := by
    rw [UInt32.lt_iff_toNat_lt, isPart]
    exact below
  refine ⟨⟨seconds, nanos, proper⟩, ?_, ?_⟩
  · rw [of?_eq _ proper, isWhole, isPart, if_pos]
    unfold longest
    omega
  · rw [toNanos, isWhole, isPart]

/-- **A number of nanoseconds has a span exactly if it is not too large.** -/
theorem ofNanos?_cases (nanos : Nat) :
    (nanos : Int) ≤ longest ∧ (∃ span, ofNanos? nanos = some span ∧ span.toNanos = nanos) ∨
      longest < nanos ∧ ofNanos? nanos = none := by
  unfold ofNanos?
  by_cases long : 9223372036854775 < nanos / 1000000000
  · rw [if_pos long]
    refine Or.inr ⟨?_, rfl⟩
    unfold longest
    omega
  rw [if_neg long]
  have whole : (Int64.ofInt (nanos / 1000000000 : Nat)).toInt = (nanos / 1000000000 : Nat) :=
    Int64.toInt_ofInt_of_le (by omega) (by omega)
  have below : nanos % 1000000000 < 1000000000 := Nat.mod_lt _ (by decide)
  have part := toNat_ofNat_nanos below
  have proper := ofNat_nanos_lt below
  have sum : ((nanos / 1000000000 : Nat) : Int) * 1000000000 + (nanos % 1000000000 : Nat) =
      nanos := by
    omega
  rw [of?_eq _ proper, whole, part, sum]
  by_cases fits : (nanos : Int) ≤ longest
  · have least : -longest ≤ (nanos : Int) := by
      unfold longest
      omega
    refine Or.inl ⟨fits, _, if_pos ⟨least, fits⟩, ?_⟩
    rw [toNanos, whole, part, sum]
  · exact Or.inr ⟨Int.not_le.1 fits, if_neg fun inside => fits inside.2⟩

/-- As many days as there are on the calendar have a span. -/
theorem exists_ofDays? (days : Int64) (least : -200000000 ≤ days.toInt)
    (most : days.toInt ≤ 200000000) :
    ∃ span, ofDays? days = some span ∧ span.toNanos = days.toInt * 86400 * 1000000000 := by
  have product : (days * 86400).toInt = days.toInt * 86400 := by
    have day : (86400 : Int64) = Int64.ofInt 86400 := rfl
    rw [← Int64.ofInt_toInt days, day, ← Int64.ofInt_mul, Int64.ofInt_toInt]
    exact Int64.toInt_ofInt_of_le (by omega) (by omega)
  have none : (0 : UInt32).toNat = 0 := rfl
  obtain ⟨span, found, exact⟩ := exists_of? product none (by decide) (by omega) (by omega)
  refine ⟨span, ?_, exact.trans (Int.add_zero _)⟩
  rw [ofDays?, if_pos product.symm, found]

/-- One span after another stands for the sum, if neither is much longer than the calendar. -/
theorem exists_add? (first second : TimeSpan)
    (least : -1000000000000000000000000 ≤ first.toNanos)
    (most : first.toNanos ≤ 1000000000000000000000000)
    (secondLeast : -1000000000000000000000000 ≤ second.toNanos)
    (secondMost : second.toNanos ≤ 1000000000000000000000000) :
    ∃ span, first.add? second = some span ∧ span.toNanos = first.toNanos + second.toNanos := by
  have firstFits : first.nanos.toNat < 1000000000 := UInt32.lt_iff_toNat_lt.1 first.nanos_lt
  have secondFits : second.nanos.toNat < 1000000000 := UInt32.lt_iff_toNat_lt.1 second.nanos_lt
  unfold toNanos at least most secondLeast secondMost
  have seconds : (first.seconds + second.seconds).toInt =
      first.seconds.toInt + second.seconds.toInt := toInt_add_of_fits (by omega) (by omega)
  have nanos : (first.nanos + second.nanos).toNat = first.nanos.toNat + second.nanos.toNat := by
    rw [UInt32.toNat_add, Nat.mod_eq_of_lt (by omega)]
  have limit : (1000000000 : UInt32).toNat = 1000000000 := rfl
  unfold add?
  by_cases carries : 1000000000 ≤ first.nanos + second.nanos
  · have one : (1 : Int64).toInt = 1 := rfl
    have carried : (first.seconds + second.seconds + 1).toInt =
        first.seconds.toInt + second.seconds.toInt + 1 := by
      rw [toInt_add_of_fits, seconds, one] <;> rw [seconds, one] <;> omega
    have rest : (first.nanos + second.nanos - 1000000000).toNat =
        first.nanos.toNat + second.nanos.toNat - 1000000000 := by
      rw [UInt32.toNat_sub_of_le _ _ carries, nanos, limit]
    obtain ⟨span, found, exact⟩ := exists_of? carried rest (by omega) (by omega) (by omega)
    refine ⟨span, (if_pos carries).trans found, ?_⟩
    rw [UInt32.le_iff_toNat_le, nanos, limit] at carries
    rw [exact, toNanos, toNanos]
    omega
  · have below := UInt32.lt_iff_toNat_lt.1 (UInt32.not_le.1 carries)
    rw [nanos, limit] at below
    obtain ⟨span, found, exact⟩ := exists_of? seconds nanos below (by omega) (by omega)
    refine ⟨span, (if_neg carries).trans found, ?_⟩
    rw [exact, toNanos, toNanos]
    omega

end TimeSpan

/-! ### Instants -/

namespace Instant

/-- The nanoseconds from the beginning of 1970 to an instant. -/
def toNanos (instant : Instant) : Int := instant.seconds * 1000000000 + instant.nanos

/-- An instant is on the calendar, and not in a leap second. -/
structure IsSteady (instant : Instant) : Prop extends instant.IsValid where
  steady : instant.nanos < nanosPerSecond

theorem isSteady_iff {instant : Instant} :
    instant.IsSteady ↔ (firstSecond ≤ instant.seconds ∧ instant.seconds ≤ lastSecond) ∧
      instant.nanos < nanosPerSecond := by
  constructor
  · intro steady
    exact ⟨⟨steady.first, steady.last⟩, steady.steady⟩
  · rintro ⟨⟨first, last⟩, steady⟩
    have half : nanosPerSecond < 2 * nanosPerSecond := by decide
    exact ⟨⟨first, last, Nat.lt_trans steady half, fun leap => absurd steady (Nat.not_lt.2 leap)⟩,
      steady⟩

instance (instant : Instant) : Decidable instant.IsSteady := decidable_of_iff' _ isSteady_iff

variable {a b : Instant}

/-- Outside of leap seconds instants are ordered as their numbers of nanoseconds. -/
theorem before_iff (steady : a.IsSteady) (otherSteady : b.IsSteady) :
    a.before b ↔ a.toNanos < b.toNanos := by
  have nanos := steady.steady
  have otherNanos := otherSteady.steady
  unfold nanosPerSecond at nanos otherNanos
  unfold before toNanos
  rw [Bool.or_eq_true, Bool.and_eq_true, decide_eq_true_iff, decide_eq_true_iff, beq_iff_eq]
  omega

/-- There are fewer days on the calendar than that. -/
theorem IsValid.dayNumber_bounds (valid : a.IsValid) :
    -100000000 ≤ a.dayNumber ∧ a.dayNumber ≤ 100000000 := by
  have first : firstSecond = -8334601228800 := by decide
  have last : lastSecond = 8210266876799 := by decide
  have least := valid.first
  have most := valid.last
  obtain ⟨low, high, whole⟩ := a.secondOfDay_bounds
  omega

/-- The span between the days of two instants. -/
theorem exists_daysSince? (valid : a.IsValid) (otherValid : b.IsValid) :
    ∃ span, a.daysSince? b = some span ∧
      span.toNanos = (a.dayNumber - b.dayNumber) * 86400 * 1000000000 := by
  have bounds := valid.dayNumber_bounds
  have otherBounds := otherValid.dayNumber_bounds
  have days : (Int64.ofInt a.dayNumber - Int64.ofInt b.dayNumber).toInt =
      a.dayNumber - b.dayNumber := toInt_ofInt_sub (by omega) (by omega)
  obtain ⟨span, found, exact⟩ := TimeSpan.exists_ofDays?
    (Int64.ofInt a.dayNumber - Int64.ofInt b.dayNumber) (by omega) (by omega)
  exact ⟨span, found, by rw [exact, days]⟩

/-- No instant on the calendar is as long after another as the longest span. -/
theorem toNanos_sub_le_longest (valid : a.IsValid) (otherValid : b.IsValid) :
    a.toNanos - b.toNanos ≤ TimeSpan.longest := by
  have bounds := valid.dayNumber_bounds
  have otherBounds := otherValid.dayNumber_bounds
  obtain ⟨low, high, whole⟩ := a.secondOfDay_bounds
  obtain ⟨otherLow, otherHigh, otherWhole⟩ := b.secondOfDay_bounds
  have fits := valid.nanos
  unfold nanosPerSecond at fits
  unfold toNanos TimeSpan.longest
  omega

theorem leapsSince_bounds (a b : Instant) : -1 ≤ a.leapsSince b ∧ a.leapsSince b ≤ 1 := by
  unfold leapsSince
  split
  · decide
  · split <;> decide

/-- No leap second lies between instants that are not in one. -/
theorem IsSteady.leapsSince_eq_zero (steady : a.IsSteady) (otherSteady : b.IsSteady) :
    a.leapsSince b = 0 := by
  unfold leapsSince
  rw [if_neg fun leap => Nat.not_lt.2 leap.2 otherSteady.steady,
    if_neg fun leap => Nat.not_lt.2 leap.2 steady.steady]

/-- The span between the clock times of two instants. -/
theorem exists_clockSince? (valid : a.IsValid) (otherValid : b.IsValid) :
    ∃ span, a.clockSince? b = some span ∧
      span.toNanos = (a.secondOfDay - b.secondOfDay + a.leapsSince b) * 1000000000 +
        (a.nanos - b.nanos) := by
  obtain ⟨low, high, _⟩ := a.secondOfDay_bounds
  obtain ⟨otherLow, otherHigh, _⟩ := b.secondOfDay_bounds
  obtain ⟨leapLow, leapHigh⟩ := leapsSince_bounds a b
  have fits := valid.nanos
  have otherFits := otherValid.nanos
  unfold nanosPerSecond at fits otherFits
  have nanos : (Int64.ofInt a.nanos - Int64.ofInt b.nanos).toInt = a.nanos - b.nanos :=
    toInt_ofInt_sub (by omega) (by omega)
  have part : (UInt32.ofNat (((a.nanos - b.nanos : Int) % 1000000000).toNat)).toNat =
      ((a.nanos - b.nanos : Int) % 1000000000).toNat := toNat_ofNat_nanos (by omega)
  have whole : (Int64.ofInt a.secondOfDay - Int64.ofInt b.secondOfDay +
      Int64.ofInt (a.leapsSince b) + Int64.ofInt ((a.nanos - b.nanos : Int) / 1000000000)).toInt =
      a.secondOfDay - b.secondOfDay + a.leapsSince b + (a.nanos - b.nanos : Int) / 1000000000 := by
    rw [← Int64.ofInt_sub, ← Int64.ofInt_add, ← Int64.ofInt_add]
    exact Int64.toInt_ofInt_of_le (by omega) (by omega)
  obtain ⟨span, found, exact⟩ :=
    TimeSpan.exists_of? whole part (by omega) (by omega) (by omega)
  refine ⟨span, ?_, ?_⟩
  · simp only [clockSince?, nanos]
    exact found
  · rw [exact]
    omega

/-- **Any two instants on the calendar have a span between them, and it is exact**, where the leap
seconds between their clock times count. -/
theorem exists_since? (valid : a.IsValid) (otherValid : b.IsValid) :
    ∃ span, a.since? b = some span ∧
      span.toNanos = a.toNanos - b.toNanos + a.leapsSince b * 1000000000 := by
  obtain ⟨days, foundDays, exactDays⟩ := exists_daysSince? valid otherValid
  obtain ⟨clock, foundClock, exactClock⟩ := exists_clockSince? valid otherValid
  obtain ⟨low, high, whole⟩ := a.secondOfDay_bounds
  obtain ⟨otherLow, otherHigh, otherWhole⟩ := b.secondOfDay_bounds
  obtain ⟨leapLow, leapHigh⟩ := leapsSince_bounds a b
  have bounds := valid.dayNumber_bounds
  have otherBounds := otherValid.dayNumber_bounds
  have fits := valid.nanos
  have otherFits := otherValid.nanos
  unfold nanosPerSecond at fits otherFits
  obtain ⟨span, found, exact⟩ :=
    TimeSpan.exists_add? days clock (by omega) (by omega) (by omega) (by omega)
  refine ⟨span, ?_, ?_⟩
  · simp only [since?, foundDays, foundClock, Option.bind_eq_bind, Option.bind_some]
    exact found
  · rw [exact, exactDays, exactClock, toNanos, toNanos]
    omega

/-- **Between instants that are not in a leap second the span is their exact difference.** -/
theorem IsSteady.exists_since? (steady : a.IsSteady) (otherSteady : b.IsSteady) :
    ∃ span, a.since? b = some span ∧ span.toNanos = a.toNanos - b.toNanos := by
  obtain ⟨span, found, exact⟩ :=
    Instant.exists_since? steady.toIsValid otherSteady.toIsValid
  refine ⟨span, found, ?_⟩
  rw [exact, steady.leapsSince_eq_zero otherSteady]
  omega

end Instant

end FeatureFlags
