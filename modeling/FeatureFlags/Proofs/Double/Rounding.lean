import FeatureFlags.Double.Text
import FeatureFlags.Proofs.Double.Exact
import FeatureFlags.Proofs.Json.Numbers
import Mathlib.Algebra.Order.Field.Power
import Mathlib.Tactic.FieldSimp
import Mathlib.Tactic.Linarith
import Mathlib.Tactic.NormNum
import Mathlib.Tactic.Positivity

/-!
**Which numbers are rounded to a double.**

A number is rounded to a magnitude if it lies between the midpoints to the two magnitudes next to
it; the midpoints themselves belong to the even magnitudes. At a power of two the magnitude below is
only half as far, and what is nearly midway to it is rounded up, to a significand that is one too
large: this is the same magnitude.

* `Double.nearest_le`, `Double.nearest_of_between`: what a quotient is rounded to.
* `Double.RoundsTo`: the numbers between the midpoints.
* `Double.ofDecimal_of_roundsTo`: so is a decimal, whatever its digits are.
-/

namespace FeatureFlags

namespace Double

/-! ### Quotients -/

/-- A whole number that a quotient is near to is what it is rounded to. -/
theorem roundDiv_eq {num den whole : Nat} (positive : 0 < den)
    (least : 2 * (whole * den) ≤ 2 * num + den) (most : 2 * num ≤ 2 * (whole * den) + den)
    (apart : whole % 2 ≠ 0 →
      2 * (whole * den) < 2 * num + den ∧ 2 * num < 2 * (whole * den) + den) :
    roundDiv num den = whole := by
  have parts : num / den * den + num % den = num := Nat.div_add_mod' num den
  have rest : num % den < den := Nat.mod_lt num positive
  have next : (num / den + 1) * den = num / den * den + den := Nat.succ_mul _ _
  unfold roundDiv
  generalize num / den = quotient at *
  generalize num % den = remainder at *
  have notBelow : quotient ≤ whole := by
    by_contra below
    have gap : (whole + 1) * den ≤ quotient * den := Nat.mul_le_mul_right den (by omega)
    rw [Nat.succ_mul] at gap
    omega
  have notAbove : whole ≤ quotient + 1 := by
    by_contra above
    have gap : (quotient + 1 + 1) * den ≤ whole * den := Nat.mul_le_mul_right den (by omega)
    rw [Nat.succ_mul] at gap
    omega
  obtain rfl | rfl : whole = quotient ∨ whole = quotient + 1 := by omega
  all_goals
    split
    · omega
    · split <;> omega

/-- The binary places that are dropped of a number between two powers of two. -/
theorem log2_sub_eq {number doublings : Nat} (most : number < 2 ^ 53 * 2 ^ doublings)
    (least : doublings = 0 ∨ 2 ^ 52 * 2 ^ doublings ≤ number) : number.log2 - 52 = doublings := by
  by_cases zero : number = 0
  · subst zero
    rcases least with rfl | least
    · rfl
    · exact absurd least (Nat.not_le.mpr (Nat.mul_pos (by decide) (Nat.two_pow_pos _)))
  rw [← Nat.pow_add, ← Nat.log2_lt zero] at most
  rcases least with rfl | least
  · omega
  · rw [← Nat.pow_add, ← Nat.le_log2 zero] at least
    omega

/-- What a quotient is rounded to, if its size is known. -/
theorem nearest_of_place {num den doublings significand : Nat} (positive : 0 < den)
    (bounded : num < 2 ^ 53 * (den * 2 ^ doublings))
    (least : doublings = 0 ∨ 2 ^ 52 * (den * 2 ^ doublings) ≤ num)
    (isRounded : roundDiv num (den * 2 ^ doublings) = significand) :
    nearest num den = min infinityMagnitude (doublings * 2 ^ 52 + significand) := by
  have place : (num / den).log2 - 52 = doublings := by
    refine log2_sub_eq ?_ (least.imp_right fun large => ?_)
    · rw [Nat.div_lt_iff_lt_mul positive]
      calc num < 2 ^ 53 * (den * 2 ^ doublings) := bounded
        _ = 2 ^ 53 * 2 ^ doublings * den := by ring
    · rw [Nat.le_div_iff_mul_le positive]
      calc 2 ^ 52 * 2 ^ doublings * den = 2 ^ 52 * (den * 2 ^ doublings) := by ring
        _ ≤ num := large
  rw [nearest, place]
  simp only [Nat.pow_eq, isRounded]

/-- What a quotient is at most, it is not rounded above. -/
theorem roundDiv_le {num den whole : Nat} (positive : 0 < den) (most : num ≤ whole * den) :
    roundDiv num den ≤ whole := by
  have parts : num / den * den + num % den = num := Nat.div_add_mod' num den
  have quotient : num / den ≤ whole := Nat.div_le_of_le_mul (Nat.mul_comm _ _ ▸ most)
  by_cases same : num / den = whole
  · have rest : num % den = 0 := by
      rw [same] at parts
      omega
    rw [roundDiv, rest, if_pos (by omega), same]
  · have next := (roundDiv_bounds num den).2
    omega

/-- **What a magnitude is not below is not rounded above it.** -/
theorem nearest_le {num den magnitude : Nat} (positive : 0 < den)
    (most : num ≤ unitsOf magnitude * den) : nearest num den ≤ magnitude := by
  obtain ⟨doublings, significand, small, normal, rfl⟩ := exists_significand magnitude
  rw [unitsOf_eq small.le normal] at most
  refine (Nat.min_le_right _ _).trans ?_
  simp only [Nat.pow_eq]
  generalize isPlace : (num / den).log2 - 52 = place
  have unit : 0 < den * 2 ^ place := Nat.mul_pos positive (Nat.two_pow_pos _)
  have bounded : num / den < 2 ^ 53 * 2 ^ place := by
    rw [← Nat.pow_add]
    exact Nat.lt_of_lt_of_le Nat.lt_log2_self (Nat.pow_le_pow_right (by decide) (by omega))
  rw [Nat.div_lt_iff_lt_mul positive] at bounded
  have notMore : place ≤ doublings := by
    have below : num / den < 2 ^ (53 + doublings) := by
      rw [Nat.div_lt_iff_lt_mul positive, Nat.pow_add]
      exact most.trans_lt (Nat.mul_lt_mul_of_pos_right
        (Nat.mul_lt_mul_of_pos_right small (Nat.two_pow_pos _)) positive)
    by_cases zero : num / den = 0
    · rw [zero, Nat.log2_zero] at isPlace
      omega
    · rw [← Nat.log2_lt zero] at below
      omega
  rcases notMore.lt_or_eq with fewer | rfl
  · -- the number lies below a power of two that the magnitude has reached
    have carried : roundDiv num (den * 2 ^ place) ≤ 2 ^ 53 :=
      roundDiv_le unit (bounded.le.trans_eq (by ring))
    omega
  · have below : roundDiv num (den * 2 ^ place) ≤ significand :=
      roundDiv_le unit (most.trans_eq (by ring))
    omega

theorem isFinite_ofParts {negative : Bool} {magnitude : Nat}
    (finite : magnitude < infinityMagnitude) : (ofParts negative magnitude).isFinite := by
  have narrow : infinityMagnitude < 2 ^ 63 := by decide
  rw [isFinite, magnitude_ofParts (finite.trans narrow)]
  exact decide_eq_true finite

/-! ### Midpoints -/

/-- Twice the midpoint to the magnitude above. -/
theorem unitsOf_add_unitsOf_succ {doublings significand : Nat} (small : significand < 2 ^ 53)
    (normal : doublings = 0 ∨ 2 ^ 52 ≤ significand) :
    unitsOf (doublings * 2 ^ 52 + significand) + unitsOf (doublings * 2 ^ 52 + significand + 1) =
      (2 * significand + 1) * 2 ^ doublings := by
  rw [unitsOf_eq small.le normal, Nat.add_assoc, unitsOf_eq small (normal.imp_right (by omega)),
    Nat.succ_eq_add_one]
  ring

/-- Twice the midpoint to the magnitude below, which has the same number of doublings. -/
theorem unitsOf_add_unitsOf_pred {doublings significand : Nat} (small : significand < 2 ^ 53)
    (positive : significand ≠ 0) (normal : doublings = 0 ∨ 2 ^ 52 < significand) :
    unitsOf (doublings * 2 ^ 52 + significand) + unitsOf (doublings * 2 ^ 52 + significand - 1) =
      (2 * significand - 1) * 2 ^ doublings := by
  rw [unitsOf_eq small.le (normal.imp_right (by omega)),
    Nat.add_sub_assoc (Nat.pos_of_ne_zero positive), unitsOf_eq (by omega)
      (normal.imp_right (by omega)), ← Nat.add_mul]
  congr 1
  omega

/-- Twice the midpoint from a power of two to the magnitude below, which has one doubling less. -/
theorem unitsOf_add_unitsOf_pred_pow (doublings : Nat) :
    unitsOf ((doublings + 1) * 2 ^ 52 + 2 ^ 52) + unitsOf ((doublings + 1) * 2 ^ 52 + 2 ^ 52 - 1) =
      (2 ^ 54 - 1) * 2 ^ doublings := by
  have below : (doublings + 1) * 2 ^ 52 + 2 ^ 52 - 1 = doublings * 2 ^ 52 + (2 ^ 53 - 1) := by omega
  rw [below, unitsOf_eq (by decide) (.inr (by decide)), unitsOf_eq (by decide) (.inr (by decide)),
    Nat.pow_succ]
  omega

/-- Next to a power of two, what is below the power may be rounded up to it: the significand that is
one too large is carried. -/
theorem nearest_of_near_pow {num den fewer : Nat} (positive : 0 < den)
    (least : (2 ^ 54 - 1) * (den * 2 ^ fewer) ≤ 2 * num)
    (most : 2 * num ≤ 2 * (2 ^ 52 * (den * 2 ^ (fewer + 1))) + den * 2 ^ (fewer + 1)) :
    nearest num den = min infinityMagnitude ((fewer + 1) * 2 ^ 52 + 2 ^ 52) := by
  have unit : 0 < den * 2 ^ fewer := Nat.mul_pos positive (Nat.two_pow_pos _)
  have half : den * 2 ^ (fewer + 1) = 2 * (den * 2 ^ fewer) := by ring
  rcases Nat.lt_or_ge num (2 ^ 52 * (den * 2 ^ (fewer + 1))) with short | reached
  · have isRounded : roundDiv num (den * 2 ^ fewer) = 2 ^ 53 :=
      roundDiv_eq unit (by omega) (by omega) fun odd => absurd rfl odd
    have carried : fewer * 2 ^ 52 + 2 ^ 53 = (fewer + 1) * 2 ^ 52 + 2 ^ 52 := by omega
    rw [nearest_of_place positive (by omega) (.inr (by omega)) isRounded, carried]
  · have isRounded : roundDiv num (den * 2 ^ (fewer + 1)) = 2 ^ 52 :=
      roundDiv_eq (by omega) (by omega) (by omega) fun odd => absurd rfl odd
    exact nearest_of_place positive (by omega) (.inr reached) isRounded

/-- **What lies between the midpoints is rounded to the magnitude.** -/
theorem nearest_of_between {num den magnitude : Nat} (positive : 0 < den)
    (finite : magnitude < infinityMagnitude)
    (least : (unitsOf magnitude + unitsOf (magnitude - 1)) * den ≤ 2 * num)
    (most : 2 * num ≤ (unitsOf magnitude + unitsOf (magnitude + 1)) * den)
    (apart : magnitude % 2 ≠ 0 →
      (unitsOf magnitude + unitsOf (magnitude - 1)) * den < 2 * num ∧
      2 * num < (unitsOf magnitude + unitsOf (magnitude + 1)) * den) :
    nearest num den = magnitude := by
  obtain ⟨doublings, significand, small, normal, rfl⟩ := exists_significand magnitude
  have parity : (doublings * 2 ^ 52 + significand) % 2 = significand % 2 := by omega
  have unit : 0 < den * 2 ^ doublings := Nat.mul_pos positive (Nat.two_pow_pos _)
  have high : (2 * significand + 1) * 2 ^ doublings * den =
      2 * (significand * (den * 2 ^ doublings)) + den * 2 ^ doublings := by ring
  have below : (significand + 1) * (den * 2 ^ doublings) ≤ 2 ^ 53 * (den * 2 ^ doublings) :=
    Nat.mul_le_mul_right _ small
  rw [Nat.succ_mul] at below
  rw [unitsOf_add_unitsOf_succ small normal, high] at most apart
  rw [parity] at apart
  by_cases edge : doublings ≠ 0 ∧ significand = 2 ^ 52
  · obtain ⟨some_doubling, rfl⟩ := edge
    obtain ⟨fewer, rfl⟩ := Nat.exists_eq_add_one_of_ne_zero some_doubling
    have low : (2 ^ 54 - 1) * 2 ^ fewer * den = (2 ^ 54 - 1) * (den * 2 ^ fewer) := by ring
    rw [unitsOf_add_unitsOf_pred_pow, low] at least
    rw [nearest_of_near_pow positive least most, Nat.min_eq_right finite.le]
  · have isRounded : roundDiv num (den * 2 ^ doublings) = significand ∧
        (doublings = 0 ∨ 2 ^ 52 * (den * 2 ^ doublings) ≤ num) := by
      by_cases zero : significand = 0
      · subst zero
        exact ⟨roundDiv_eq unit (by omega) (by omega) (by omega), .inl (by omega)⟩
      have strictly : doublings = 0 ∨ 2 ^ 52 < significand := by omega
      have low : (2 * significand - 1) * 2 ^ doublings * den + den * 2 ^ doublings =
          2 * (significand * (den * 2 ^ doublings)) := by
        obtain ⟨less, rfl⟩ := Nat.exists_eq_add_one_of_ne_zero zero
        have odd : 2 * (less + 1) - 1 = 2 * less + 1 := by omega
        rw [odd]
        ring
      rw [unitsOf_add_unitsOf_pred small zero strictly] at least apart
      refine ⟨roundDiv_eq unit (by omega) (by omega) fun odd => ?_,
        strictly.imp_right fun large => ?_⟩
      · have strict := apart odd
        omega
      · have wide : (2 ^ 52 + 1) * (den * 2 ^ doublings) ≤ significand * (den * 2 ^ doublings) :=
          Nat.mul_le_mul_right _ large
        rw [Nat.succ_mul] at wide
        omega
    rw [nearest_of_place positive (by omega) isRounded.2 isRounded.1, Nat.min_eq_right finite.le]

/-! ### Numbers between midpoints -/

/-- A number lies between the midpoints from a magnitude to the two magnitudes next to it. It may be
one of them if the magnitude is even. -/
structure RoundsTo (number : ℚ) (magnitude : Nat) : Prop where
  least : ((unitsOf magnitude + unitsOf (magnitude - 1) : Nat) : ℚ) ≤ number * (2 * unitsPerOne)
  most : number * (2 * unitsPerOne) ≤ ((unitsOf magnitude + unitsOf (magnitude + 1) : Nat) : ℚ)
  apart : magnitude % 2 ≠ 0 →
    ((unitsOf magnitude + unitsOf (magnitude - 1) : Nat) : ℚ) < number * (2 * unitsPerOne) ∧
      number * (2 * unitsPerOne) < ((unitsOf magnitude + unitsOf (magnitude + 1) : Nat) : ℚ)

variable {magnitude : Nat}

/-- **A quotient between the midpoints is rounded to the magnitude.** -/
theorem ofRatio_of_roundsTo {num den : Nat} (positive : 0 < den)
    (finite : magnitude < infinityMagnitude) (rounds : RoundsTo (num / den) magnitude)
    (negative : Bool) : ofRatio negative num den = ofParts negative magnitude := by
  have divisor : (0 : ℚ) < den := Nat.cast_pos.mpr positive
  have halves : (num / den : ℚ) * (2 * unitsPerOne) =
      ((2 * (num * unitsPerOne) : Nat) : ℚ) / den := by
    push_cast
    ring
  obtain ⟨least, most, apart⟩ := rounds
  rw [halves] at least most apart
  rw [le_div_iff₀ divisor, ← Nat.cast_mul, Nat.cast_le] at least
  rw [div_le_iff₀ divisor, ← Nat.cast_mul, Nat.cast_le] at most
  rw [lt_div_iff₀ divisor, div_lt_iff₀ divisor, ← Nat.cast_mul, ← Nat.cast_mul, Nat.cast_lt,
    Nat.cast_lt] at apart
  rw [ofRatio, nearest_of_between positive finite least most apart]

/-! ### Decimals -/

theorem tenPower_pos (exponent : Int) : 0 < (tenPower exponent).2 := Nat.pow_pos (by decide)

theorem tenPower_eq (exponent : Int) :
    ((tenPower exponent).1 / (tenPower exponent).2 : ℚ) = 10 ^ exponent := by
  rw [tenPower, Nat.pow_eq, Nat.pow_eq, Nat.cast_pow, Nat.cast_pow, Nat.cast_ofNat,
    ← zpow_natCast, ← zpow_natCast, ← zpow_sub₀ (by norm_num)]
  congr 1
  omega

/-- The digits of a number tell its size. -/
theorem bounds_toDigits {number : Nat} (positive : number ≠ 0) :
    10 ^ ((Nat.toDigits 10 number).length - 1) ≤ number ∧
      number < 10 ^ (Nat.toDigits 10 number).length := by
  have some_digit : 0 < (Nat.toDigits 10 number).length :=
    List.length_pos_iff.mpr Nat.toDigits_ne_nil
  constructor
  · by_cases single : (Nat.toDigits 10 number).length - 1 = 0
    · rw [single]
      exact Nat.pos_of_ne_zero positive
    · refine Nat.le_of_not_lt fun below => ?_
      have short := (Nat.length_toDigits_le_iff (by decide) (Nat.pos_of_ne_zero single)).mpr below
      omega
  · exact (Nat.length_toDigits_le_iff (by decide) some_digit).mp (Nat.le_refl _)

section Bounds

variable {number : ℚ} (rounds : RoundsTo number magnitude)

include rounds

/-- What is rounded to a finite double is not too large. -/
theorem RoundsTo.below (finite : magnitude < infinityMagnitude) : number < 10 ^ (330 : ℤ) := by
  have unit : (0 : ℚ) < 2 * unitsPerOne := mul_pos two_pos cast_unitsPerOne_pos
  have large : unitsOf infinityMagnitude + unitsOf infinityMagnitude <
      10 ^ 330 * (2 * unitsPerOne) := by decide +kernel
  have most : unitsOf magnitude + unitsOf (magnitude + 1) ≤
      unitsOf infinityMagnitude + unitsOf infinityMagnitude :=
    Nat.add_le_add (unitsOf_strictMono.monotone finite.le) (unitsOf_strictMono.monotone finite)
  refine lt_of_mul_lt_mul_right (rounds.most.trans_lt ?_) unit.le
  rw [zpow_ofNat]
  exact_mod_cast most.trans_lt large

/-- What is not rounded to zero is not too small. -/
theorem RoundsTo.above (positive : magnitude ≠ 0) : 10 ^ (-330 : ℤ) < number := by
  have unit : (0 : ℚ) < 2 * unitsPerOne := mul_pos two_pos cast_unitsPerOne_pos
  have small : 2 * unitsPerOne < 10 ^ 330 := by decide +kernel
  have least : 1 ≤ unitsOf magnitude + unitsOf (magnitude - 1) :=
    Nat.add_pos_left (unitsOf_pos positive) _
  refine lt_of_mul_lt_mul_right (lt_of_lt_of_le ?_ rounds.least) unit.le
  calc (10 : ℚ) ^ (-330 : ℤ) * (2 * unitsPerOne) < 1 := by
        rw [zpow_neg, zpow_ofNat, inv_mul_lt_iff₀ (by positivity), mul_one]
        exact_mod_cast small
    _ ≤ _ := by exact_mod_cast least

end Bounds

/-- **A decimal between the midpoints is read as the magnitude**, however it is written: what is
decided by its size alone would be rounded to zero, or not be rounded to a finite double. -/
theorem ofDecimal_of_roundsTo {digits : Nat} {exponent : Int}
    (rounds : RoundsTo (digits * 10 ^ exponent) magnitude)
    (finite : magnitude < infinityMagnitude) (negative : Bool) :
    ofDecimal negative digits exponent = ofParts negative magnitude := by
  have scale : (0 : ℚ) < 10 ^ exponent := by positivity
  simp only [ofDecimal]
  split
  case isTrue small =>
    have zero : magnitude = 0 := by
      by_contra positive
      refine absurd (rounds.above positive) (not_lt.mpr ?_)
      by_cases no_digit : digits = 0
      · rw [no_digit, Nat.cast_zero, zero_mul]
        positivity
      calc (digits * 10 ^ exponent : ℚ)
          ≤ 10 ^ ((Nat.toDigits 10 digits).length : ℤ) * 10 ^ exponent := by
            refine mul_le_mul_of_nonneg_right ?_ scale.le
            rw [zpow_natCast]
            exact_mod_cast (bounds_toDigits no_digit).2.le
        _ = 10 ^ (((Nat.toDigits 10 digits).length : ℤ) + exponent) :=
            (zpow_add₀ (by norm_num) _ _).symm
        _ ≤ 10 ^ (-330 : ℤ) :=
            zpow_le_zpow_right₀ (by norm_num) (small.resolve_left no_digit).le
    rw [zero]
  case isFalse notSmall =>
    obtain ⟨some_digit, -⟩ := not_or.mp notSmall
    have notLarge : ¬ 330 < ((Nat.toDigits 10 digits).length : ℤ) + exponent := fun large => by
      refine absurd (rounds.below finite) (not_lt.mpr ?_)
      calc (10 : ℚ) ^ (330 : ℤ)
          ≤ 10 ^ ((((Nat.toDigits 10 digits).length - 1 : Nat) : ℤ) + exponent) :=
            zpow_le_zpow_right₀ (by norm_num) (by omega)
        _ = 10 ^ (((Nat.toDigits 10 digits).length - 1 : Nat) : ℤ) * 10 ^ exponent :=
            zpow_add₀ (by norm_num) _ _
        _ ≤ digits * 10 ^ exponent := by
            refine mul_le_mul_of_nonneg_right ?_ scale.le
            rw [zpow_natCast]
            exact_mod_cast (bounds_toDigits some_digit).1
    have quotient : ((digits * (tenPower exponent).1 : Nat) / (tenPower exponent).2 : ℚ) =
        digits * 10 ^ exponent := by
      rw [Nat.cast_mul, mul_div_assoc, tenPower_eq]
    rw [← quotient] at rounds
    rw [if_neg notLarge, ofRatio_of_roundsTo (tenPower_pos exponent) finite rounds negative]

end Double

end FeatureFlags
