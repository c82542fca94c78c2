import FeatureFlags.Double.Basic
import Mathlib.Algebra.Order.Field.Basic
import Mathlib.Algebra.Order.Field.Rat
import Mathlib.Order.Monotone.Basic
import Mathlib.Tactic.Ring

/-!
**The exact values of doubles, and how whole numbers are rounded to them.**

A magnitude is a significand that is doubled some times, so a larger magnitude has a larger value,
and the value that rounding picks is as near as any. Below `2 ^ 53` every whole number is a double,
and from there on every double is a whole number. So what the whole part of a double is rounded to
has no fraction, and comparing it with the double tells the whole numbers in range from all other
doubles but one: the largest whole number of 64 bits is rounded up to `2 ^ 63`.

* `Double.toRat?`: the number that a pattern stands for.
* `Double.unitsOf_strictMono`: the order of magnitudes is the order of values.
* `Double.rounded_near`, `Double.isNearest_ofInt`: rounding picks what is nearest.
* `Double.integer?_eq_some_iff`: what is read as a whole number of 64 bits.
-/

namespace FeatureFlags

namespace Double

/-! ### Magnitudes -/

/-- A magnitude counts doublings and a significand; below the normal numbers nothing is doubled. -/
theorem exists_significand (magnitude : Nat) : ∃ doublings significand,
    significand < 2 ^ 53 ∧ (doublings = 0 ∨ 2 ^ 52 ≤ significand) ∧
      magnitude = doublings * 2 ^ 52 + significand := by
  by_cases normal : magnitude / 2 ^ 52 = 0
  · exact ⟨0, magnitude, by omega, .inl rfl, by omega⟩
  · exact ⟨magnitude / 2 ^ 52 - 1, 2 ^ 52 + magnitude % 2 ^ 52, by omega, .inr (by omega),
      by omega⟩

/-- The value of a magnitude is its significand, doubled; a significand that is one too large has
the same value as the least one with another doubling. -/
theorem unitsOf_eq {doublings significand : Nat} (most : significand ≤ 2 ^ 53)
    (least : doublings = 0 ∨ 2 ^ 52 ≤ significand) :
    unitsOf (doublings * 2 ^ 52 + significand) = significand * 2 ^ doublings := by
  unfold unitsOf
  simp only [Nat.pow_eq]
  by_cases small : significand < 2 ^ 52
  · obtain rfl : doublings = 0 := by omega
    rw [if_pos (by omega)]
    omega
  by_cases carried : significand = 2 ^ 53
  · subst carried
    have exponent : (doublings * 2 ^ 52 + 2 ^ 53) / 2 ^ 52 = doublings + 2 := by omega
    have fraction : (doublings * 2 ^ 52 + 2 ^ 53) % 2 ^ 52 = 0 := by omega
    rw [exponent, fraction, if_neg (by omega)]
    show (2 ^ 52 + 0) * 2 ^ (doublings + 1) = _
    rw [Nat.pow_succ]
    omega
  · have exponent : (doublings * 2 ^ 52 + significand) / 2 ^ 52 = doublings + 1 := by omega
    have fraction : 2 ^ 52 + (doublings * 2 ^ 52 + significand) % 2 ^ 52 = significand := by omega
    rw [exponent, fraction, if_neg (by omega)]
    rfl

/-- **A larger magnitude has a larger value.** -/
theorem unitsOf_strictMono : StrictMono unitsOf := by
  refine strictMono_nat_of_lt_succ fun magnitude => ?_
  obtain ⟨doublings, significand, most, least, rfl⟩ := exists_significand magnitude
  rw [unitsOf_eq most.le least, Nat.add_assoc, unitsOf_eq most (least.imp_right (by omega))]
  exact Nat.mul_lt_mul_of_pos_right (Nat.lt_succ_self _) (Nat.two_pow_pos _)

/-- How often one is halved down to the smallest positive double. -/
def halvings : Nat := 1074

theorem unitsPerOne_eq : unitsPerOne = 2 ^ halvings := by decide +kernel

theorem halvings_eq : halvings = 1074 := rfl

theorem unitsPerOne_pos : 0 < unitsPerOne := by
  rw [unitsPerOne_eq]
  exact Nat.two_pow_pos _

theorem unitsOf_zero : unitsOf 0 = 0 := rfl

/-- No magnitude has a value strictly between the whole numbers from `2 ^ 52` on. -/
theorem unitsPerOne_dvd_unitsOf (magnitude : Nat) :
    unitsPerOne ∣ unitsOf magnitude ∨ unitsOf magnitude < 2 ^ 52 * unitsPerOne := by
  obtain ⟨doublings, significand, most, least, rfl⟩ := exists_significand magnitude
  rw [unitsOf_eq most.le least, unitsPerOne_eq]
  rcases Nat.lt_or_ge doublings halvings with few | many
  · right
    calc significand * 2 ^ doublings
        < 2 ^ 53 * 2 ^ doublings := Nat.mul_lt_mul_of_pos_right most (Nat.two_pow_pos _)
      _ = 2 ^ 52 * 2 ^ (doublings + 1) := by
          rw [← Nat.pow_add, ← Nat.pow_add]
          congr 1
          omega
      _ ≤ 2 ^ 52 * 2 ^ halvings := Nat.mul_le_mul_left _ (Nat.pow_le_pow_right (by decide) few)
  · exact .inl (Nat.dvd_mul_left_of_dvd (Nat.pow_dvd_pow 2 many) _)

/-- Every whole number below `2 ^ 53` is the value of a magnitude. -/
theorem exists_unitsOf_eq {number : Nat} (small : number < 2 ^ 53) :
    ∃ magnitude < infinityMagnitude, unitsOf magnitude = number * unitsPerOne := by
  have bound : infinityMagnitude = 2047 * 2 ^ 52 := rfl
  by_cases zero : number = 0
  · subst zero
    exact ⟨0, by decide, by rw [Nat.zero_mul, unitsOf_zero]⟩
  have places : number.log2 ≤ 52 := by
    have below := (Nat.log2_lt zero).mpr small
    omega
  have least : 2 ^ 52 ≤ number * 2 ^ (52 - number.log2) := by
    calc 2 ^ 52 = 2 ^ number.log2 * 2 ^ (52 - number.log2) := by
          rw [← Nat.pow_add, Nat.add_sub_cancel' places]
      _ ≤ number * 2 ^ (52 - number.log2) := Nat.mul_le_mul_right _ (Nat.log2_self_le zero)
  have most : number * 2 ^ (52 - number.log2) < 2 ^ 53 := by
    calc number * 2 ^ (52 - number.log2)
        < 2 ^ (number.log2 + 1) * 2 ^ (52 - number.log2) :=
          Nat.mul_lt_mul_of_pos_right Nat.lt_log2_self (Nat.two_pow_pos _)
      _ = 2 ^ 53 := by
          rw [← Nat.pow_add]
          congr 1
          omega
  refine ⟨(1022 + number.log2) * 2 ^ 52 + number * 2 ^ (52 - number.log2), by omega, ?_⟩
  rw [unitsOf_eq most.le (.inr least), unitsPerOne_eq, Nat.mul_assoc, ← Nat.pow_add]
  have halved := halvings_eq
  congr 2
  omega

/-! ### Rounding -/

/-- **A rounded quotient is as near as any whole number.** -/
theorem roundDiv_near {num den : Nat} (positive : 0 < den) (other : Nat) :
    ((num : Int) - (roundDiv num den * den : Nat)).natAbs ≤
      ((num : Int) - (other * den : Nat)).natAbs := by
  have parts : num / den * den + num % den = num := Nat.div_add_mod' num den
  have rest : num % den < den := Nat.mod_lt num positive
  have next : (num / den + 1) * den = num / den * den + den := Nat.succ_mul _ _
  -- another multiple lies at the quotient or below, or at the next one or above
  have sides : other * den ≤ num / den * den ∨ (num / den + 1) * den ≤ other * den := by
    rcases Nat.lt_or_ge (num / den) other with above | below
    · exact .inr (Nat.mul_le_mul_right den above)
    · exact .inl (Nat.mul_le_mul_right den below)
  have even : roundDiv num den * den = num / den * den ∧ 2 * (num % den) ≤ den ∨
      roundDiv num den * den = (num / den + 1) * den ∧ den ≤ 2 * (num % den) := by
    unfold roundDiv
    split
    · exact .inl ⟨rfl, by omega⟩
    · split
      · exact .inr ⟨rfl, by omega⟩
      · rcases Nat.mod_two_eq_zero_or_one (num / den) with even | odd
        · rw [even]
          exact .inl ⟨rfl, by omega⟩
        · rw [odd]
          exact .inr ⟨rfl, by omega⟩
  generalize roundDiv num den * den = rounded at *
  generalize other * den = otherwise at *
  omega

/-- The magnitude nearest to a number of smallest positive doubles, as if there were no largest. -/
def rounded (units : Nat) : Nat :=
  (units.log2 - 52) * 2 ^ 52 + roundDiv units (2 ^ (units.log2 - 52))

/-- A rounded quotient is the quotient or the next whole number. -/
theorem roundDiv_bounds (num den : Nat) :
    num / den ≤ roundDiv num den ∧ roundDiv num den ≤ num / den + 1 := by
  unfold roundDiv
  split
  · omega
  · split <;> omega

theorem unitsOf_rounded (units : Nat) :
    unitsOf (rounded units) =
      roundDiv units (2 ^ (units.log2 - 52)) * 2 ^ (units.log2 - 52) := by
  obtain ⟨above, below⟩ := roundDiv_bounds units (2 ^ (units.log2 - 52))
  refine unitsOf_eq ?_ ?_
  · have most : units / 2 ^ (units.log2 - 52) < 2 ^ 53 := by
      rw [Nat.div_lt_iff_lt_mul (Nat.two_pow_pos _), ← Nat.pow_add]
      exact Nat.lt_of_lt_of_le Nat.lt_log2_self (Nat.pow_le_pow_right (by decide) (by omega))
    omega
  · by_cases few : units.log2 ≤ 52
    · exact .inl (by omega)
    · have some_unit : units ≠ 0 := by
        rintro rfl
        exact few (by decide)
      have least : 2 ^ 52 ≤ units / 2 ^ (units.log2 - 52) := by
        rw [Nat.le_div_iff_mul_le (Nat.two_pow_pos _), ← Nat.pow_add]
        have total : 52 + (units.log2 - 52) = units.log2 := by omega
        rw [total]
        exact Nat.log2_self_le some_unit
      exact .inr (by omega)

/-- **No magnitude is nearer than the rounded one.** -/
theorem rounded_near (units magnitude : Nat) :
    ((units : Int) - unitsOf (rounded units)).natAbs ≤
      ((units : Int) - unitsOf magnitude).natAbs := by
  rw [unitsOf_rounded]
  obtain ⟨doublings, significand, most, least, rfl⟩ := exists_significand magnitude
  rw [unitsOf_eq most.le least]
  generalize isPlace : units.log2 - 52 = place
  have near (other : Nat) :
      ((units : Int) - (roundDiv units (2 ^ place) * 2 ^ place : Nat)).natAbs ≤
        ((units : Int) - (other * 2 ^ place : Nat)).natAbs :=
    roundDiv_near (Nat.two_pow_pos place) other
  rcases Nat.lt_or_ge doublings place with fewer | more
  · -- what is finer than the grid lies below its least normal point, which lies below the number
    have some_unit : units ≠ 0 := by
      rintro rfl
      exact absurd isPlace (by rw [Nat.log2_zero]; omega)
    have least_point : 2 ^ 52 * 2 ^ place ≤ units := by
      rw [← Nat.pow_add]
      have total : 52 + place = units.log2 := by omega
      rw [total]
      exact Nat.log2_self_le some_unit
    have finer : significand * 2 ^ doublings ≤ 2 ^ 52 * 2 ^ place := by
      calc significand * 2 ^ doublings ≤ 2 ^ 53 * 2 ^ doublings := Nat.mul_le_mul_right _ most.le
        _ = 2 ^ 52 * 2 ^ (doublings + 1) := by rw [← Nat.pow_add, ← Nat.pow_add]; congr 1; omega
        _ ≤ 2 ^ 52 * 2 ^ place :=
          Nat.mul_le_mul_left _ (Nat.pow_le_pow_right (by decide) fewer)
    have point := near (2 ^ 52)
    omega
  · have coarser : significand * 2 ^ doublings =
        significand * 2 ^ (doublings - place) * 2 ^ place := by
      rw [Nat.mul_assoc, ← Nat.pow_add, Nat.sub_add_cancel more]
    rw [coarser]
    exact near _

/-- What is not above a magnitude is not rounded above it. -/
theorem rounded_le {units magnitude : Nat} (most : units ≤ unitsOf magnitude) :
    rounded units ≤ magnitude := by
  refine Nat.le_of_not_lt fun above => ?_
  have larger := unitsOf_strictMono above
  have near := rounded_near units magnitude
  omega

/-- What is not below a magnitude is not rounded below it. -/
theorem le_rounded {units magnitude : Nat} (least : unitsOf magnitude ≤ units) :
    magnitude ≤ rounded units := by
  refine Nat.le_of_not_lt fun below => ?_
  have smaller := unitsOf_strictMono below
  have near := rounded_near units magnitude
  omega

theorem nearest_eq (units : Nat) : nearest units 1 = min infinityMagnitude (rounded units) := by
  unfold nearest rounded
  simp only [Nat.div_one, Nat.one_mul, Nat.pow_eq]

/-! ### Signs -/

theorem toNat_ofParts {negative : Bool} {magnitude : Nat} (small : magnitude < 2 ^ 63) :
    (ofParts negative magnitude).bits.toNat = (if negative then 2 ^ 63 else 0) + magnitude := by
  have whole : (if negative then 2 ^ 63 else 0) + magnitude < 2 ^ 64 := by split <;> omega
  exact UInt64.toNat_ofNat_of_lt' whole

@[simp] theorem magnitude_ofParts {negative : Bool} {magnitude : Nat} (small : magnitude < 2 ^ 63) :
    (ofParts negative magnitude).magnitude = magnitude := by
  rw [Double.magnitude, toNat_ofParts small, Nat.pow_eq]
  split <;> omega

@[simp] theorem isNegative_ofParts {negative : Bool} {magnitude : Nat}
    (small : magnitude < 2 ^ 63) : (ofParts negative magnitude).isNegative = negative := by
  rw [isNegative, toNat_ofParts small, Nat.pow_eq]
  cases negative with
  | true => simp
  | false => simpa using small

/-- How many smallest positive doubles a pattern stands for; an infinity counts as if its exponent
were that of a number. -/
def units (d : Double) : Int :=
  if d.isNegative then -(unitsOf d.magnitude : Int) else unitsOf d.magnitude

theorem natAbs_signed (negative : Prop) [Decidable negative] (size : Nat) :
    (if negative then -(size : Int) else size).natAbs = size := by
  split <;> omega

theorem natAbs_units (d : Double) : d.units.natAbs = unitsOf d.magnitude :=
  natAbs_signed _ _

/-- **Doubles are equal as numbers exactly if their values are**, unless one is no number. -/
theorem eq_iff {a b : Double} : a.eq b ↔ ¬ a.isNaN ∧ ¬ b.isNaN ∧ a.units = b.units := by
  have same : a.rank = b.rank ↔ a.units = b.units := by
    have injective := unitsOf_strictMono.injective.eq_iff (a := a.magnitude) (b := b.magnitude)
    have first := unitsOf_strictMono.injective.eq_iff (a := a.magnitude) (b := 0)
    have second := unitsOf_strictMono.injective.eq_iff (a := b.magnitude) (b := 0)
    rw [unitsOf_zero] at first second
    unfold rank units
    split <;> split <;> omega
  unfold eq compare?
  by_cases defined : a.isNaN || b.isNaN
  · rw [if_pos defined]
    rcases Bool.or_eq_true_iff.mp defined with first | second
    · simp [first]
    · simp [second]
  · rw [if_neg defined]
    obtain ⟨first, second⟩ := Bool.or_eq_false_iff.mp (Bool.eq_false_iff.mpr defined)
    simp [first, second, same]

theorem isNaN_of_isFinite {d : Double} (finite : d.isFinite) : d.isNaN = false := by
  simp only [isFinite, isNaN, decide_eq_true_eq, decide_eq_false_iff_not] at *
  omega

/-! ### Whole numbers -/

/-- The magnitude of a power of two. -/
def powerMagnitude (exponent : Nat) : Nat := (exponent + 1022) * 2 ^ 52 + 2 ^ 52

theorem unitsOf_powerMagnitude (exponent : Nat) :
    unitsOf (powerMagnitude exponent) = 2 ^ exponent * unitsPerOne := by
  have places : 52 + (exponent + 1022) = exponent + halvings := by
    rw [halvings_eq]
    omega
  rw [powerMagnitude, unitsOf_eq (by decide) (.inr (Nat.le_refl _)), unitsPerOne_eq,
    ← Nat.pow_add, ← Nat.pow_add, places]

/-- The magnitude of `2 ^ 63`. -/
def limitMagnitude : Nat := 1086 * 2 ^ 52

theorem unitsOf_limitMagnitude : unitsOf limitMagnitude = 2 ^ 63 * unitsPerOne := by
  have power : limitMagnitude = powerMagnitude 63 := by decide
  rw [power, unitsOf_powerMagnitude]

section Whole

variable {i : Int} {d : Double}

/-- A whole number of 64 bits is rounded without a bound. -/
theorem ofInt_eq (small : i.natAbs ≤ 2 ^ 63) :
    ofInt i = ofParts (decide (i < 0)) (rounded (i.natAbs * unitsPerOne)) ∧
      rounded (i.natAbs * unitsPerOne) ≤ limitMagnitude := by
  have below : rounded (i.natAbs * unitsPerOne) ≤ limitMagnitude := by
    refine rounded_le ?_
    rw [unitsOf_limitMagnitude]
    exact Nat.mul_le_mul_right _ small
  have bounded : min infinityMagnitude (rounded (i.natAbs * unitsPerOne)) =
      rounded (i.natAbs * unitsPerOne) :=
    Nat.min_eq_right (Nat.le_trans below (by decide))
  refine ⟨?_, below⟩
  rw [ofInt, ofRatio, nearest_eq, bounded]

theorem isFinite_ofInt (small : i.natAbs ≤ 2 ^ 64) : (ofInt i).isFinite := by
  have below : nearest (i.natAbs * unitsPerOne) 1 ≤ powerMagnitude 64 := by
    rw [nearest_eq]
    refine (Nat.min_le_right _ _).trans (rounded_le ?_)
    rw [unitsOf_powerMagnitude]
    exact Nat.mul_le_mul_right _ small
  have narrow : powerMagnitude 64 < 2 ^ 63 := by decide
  have finite : powerMagnitude 64 < infinityMagnitude := by decide
  rw [ofInt, ofRatio, isFinite, magnitude_ofParts (below.trans_lt narrow)]
  exact decide_eq_true (below.trans_lt finite)

theorem units_ofInt (small : i.natAbs ≤ 2 ^ 63) :
    (ofInt i).units = if i < 0 then -(unitsOf (rounded (i.natAbs * unitsPerOne)) : Int)
      else unitsOf (rounded (i.natAbs * unitsPerOne)) := by
  obtain ⟨same, below⟩ := ofInt_eq small
  have narrow : limitMagnitude < 2 ^ 63 := by decide
  rw [same, units, magnitude_ofParts (Nat.lt_of_le_of_lt below narrow),
    isNegative_ofParts (Nat.lt_of_le_of_lt below narrow)]
  simp only [decide_eq_true_eq]

/-- **No double is nearer to a whole number of 64 bits than the one it is rounded to.** -/
theorem ofInt_near (small : i.natAbs ≤ 2 ^ 63) (d : Double) :
    (i * unitsPerOne - (ofInt i).units).natAbs ≤ (i * unitsPerOne - d.units).natAbs := by
  have near := rounded_near (i.natAbs * unitsPerOne) d.magnitude
  have zero := rounded_near (i.natAbs * unitsPerOne) 0
  have value : (i.natAbs * unitsPerOne : Nat) = (if i < 0 then -(i * unitsPerOne) else
      i * unitsPerOne : Int) := by
    split
    · rw [← Int.neg_mul, Int.natCast_mul]
      congr 1
      omega
    · rw [Int.natCast_mul]
      congr 1
      omega
  rw [unitsOf_zero] at zero
  rw [units_ofInt small, units]
  split at value <;> split <;> split <;> omega

/-- A double that is a whole number is what the number is rounded to. -/
theorem units_ofInt_of_eq (small : i.natAbs ≤ 2 ^ 63) (exact : d.units = i * unitsPerOne) :
    (ofInt i).units = i * unitsPerOne := by
  have near := ofInt_near small d
  omega

/-- Whole numbers below `2 ^ 53` are not rounded. -/
theorem units_ofInt_of_lt (small : i.natAbs < 2 ^ 53) : (ofInt i).units = i * unitsPerOne := by
  obtain ⟨magnitude, finite, value⟩ := exists_unitsOf_eq small
  have narrow : magnitude < 2 ^ 63 := Nat.lt_trans finite (by decide)
  refine units_ofInt_of_eq (d := ofParts (decide (i < 0)) magnitude) (by omega) ?_
  rw [units, magnitude_ofParts narrow, isNegative_ofParts narrow, value, Int.natCast_mul]
  split
  · rename_i negative
    have below := of_decide_eq_true negative
    rw [← Int.neg_mul]
    congr 1
    omega
  · rename_i positive
    have above := of_decide_eq_false (Bool.eq_false_iff.mpr positive)
    congr 1
    omega

theorem units_ofInt_minInteger : (ofInt minInteger).units = minInteger * unitsPerOne := by
  decide +kernel

/-- The largest whole number of 64 bits is rounded up. -/
theorem units_ofInt_maxInteger :
    (ofInt maxInteger).units = (maxInteger + 1) * unitsPerOne := by
  decide +kernel

/-- The whole part of a finite double. -/
def wholePart (d : Double) : Int :=
  if d.isNegative then -(unitsOf d.magnitude / unitsPerOne : Nat)
  else (unitsOf d.magnitude / unitsPerOne : Nat)

theorem truncate_of_isFinite (finite : d.isFinite) : d.truncate = clampInteger d.wholePart := by
  rw [truncate, isNaN_of_isFinite finite, if_neg Bool.false_ne_true, if_pos finite]
  rfl

/-- The whole part of a whole number is the number. -/
theorem wholePart_of_units (exact : d.units = i * unitsPerOne) : d.wholePart = i := by
  have size : unitsOf d.magnitude = i.natAbs * unitsPerOne := by
    rw [← natAbs_units, exact, Int.natAbs_mul, Int.natAbs_natCast]
  have positive : (0 : Int) < unitsPerOne := Int.natCast_pos.mpr unitsPerOne_pos
  rw [wholePart, size, Nat.mul_div_cancel _ unitsPerOne_pos]
  rw [units] at exact
  cases negative : d.isNegative with
  | true =>
    rw [negative, if_pos rfl] at exact
    have sign : i ≤ 0 := Int.not_lt.mp fun above => by
      have product := Int.mul_pos above positive
      omega
    rw [if_pos rfl]
    omega
  | false =>
    rw [negative, if_neg Bool.false_ne_true] at exact
    have sign : 0 ≤ i := Int.not_lt.mp fun below => by
      have product := Int.mul_neg_of_neg_of_pos below positive
      omega
    rw [if_neg Bool.false_ne_true]
    omega

/-- From `2 ^ 52` on there are no fractions. -/
theorem units_of_large (large : 2 ^ 52 * unitsPerOne ≤ unitsOf d.magnitude) :
    d.units = d.wholePart * unitsPerOne := by
  have divides := (unitsPerOne_dvd_unitsOf d.magnitude).resolve_right (Nat.not_lt.mpr large)
  have value : ((unitsOf d.magnitude / unitsPerOne : Nat) : Int) * unitsPerOne =
      unitsOf d.magnitude := by
    rw [← Int.natCast_mul, Nat.div_mul_cancel divides]
  rw [units, wholePart]
  split
  · rw [Int.neg_mul, value]
  · rw [value]

/-- What the whole part is rounded to has no fraction: below `2 ^ 53` the whole part is not rounded,
and from there on there are no fractions. -/
theorem units_of_ofInt_wholePart (same : (ofInt d.wholePart).units = d.units) :
    d.units = d.wholePart * unitsPerOne := by
  by_cases small : d.wholePart.natAbs < 2 ^ 53
  · rw [← same, units_ofInt_of_lt small]
  refine units_of_large ?_
  have size : d.wholePart.natAbs = unitsOf d.magnitude / unitsPerOne := natAbs_signed _ _
  rw [← Nat.le_div_iff_mul_le unitsPerOne_pos]
  omega

/-- **What a whole number of 64 bits is rounded to is a whole number**, of size `2 ^ 63` at most. -/
theorem exists_units_ofInt (small : i.natAbs ≤ 2 ^ 63) :
    ∃ whole : Int, (ofInt i).units = whole * unitsPerOne ∧ whole.natAbs ≤ 2 ^ 63 := by
  by_cases exact : i.natAbs < 2 ^ 53
  · exact ⟨i, units_ofInt_of_lt exact, small⟩
  have size := congrArg Int.natAbs (units_ofInt small)
  rw [natAbs_units, natAbs_signed] at size
  have large : 2 ^ 52 * unitsPerOne ≤ unitsOf (ofInt i).magnitude := by
    have number : 2 ^ 52 < 2 ^ 53 := by decide
    obtain ⟨magnitude, _, value⟩ := exists_unitsOf_eq number
    rw [size, ← value]
    refine unitsOf_strictMono.monotone (le_rounded ?_)
    rw [value]
    exact Nat.mul_le_mul_right _ (by omega)
  have value := units_of_large large
  refine ⟨_, value, ?_⟩
  have most := unitsOf_strictMono.monotone (ofInt_eq small).2
  rw [← size, ← natAbs_units, value, Int.natAbs_mul, Int.natAbs_natCast,
    unitsOf_limitMagnitude] at most
  exact Nat.le_of_mul_le_mul_right most unitsPerOne_pos

theorem clampInteger_cases (i : Int) :
    minInteger ≤ i ∧ i ≤ maxInteger ∧ clampInteger i = i ∨
      i < minInteger ∧ clampInteger i = minInteger ∨
        maxInteger < i ∧ clampInteger i = maxInteger := by
  unfold clampInteger minInteger maxInteger
  omega

theorem natAbs_le_of_bounds (least : minInteger ≤ i) (most : i ≤ maxInteger) :
    i.natAbs ≤ 2 ^ 63 := by
  unfold minInteger at least
  unfold maxInteger at most
  omega

theorem natAbs_truncate (d : Double) : d.truncate.natAbs ≤ 2 ^ 63 := by
  have bounds (whole : Int) : (clampInteger whole).natAbs ≤ 2 ^ 63 := by
    unfold clampInteger minInteger maxInteger
    omega
  unfold truncate
  split
  · decide
  · split
    · exact bounds _
    · split <;> decide

/-- What has the value of a finite double is finite. -/
theorem isFinite_of_units_eq {a b : Double} (finite : a.isFinite) (same : a.units = b.units) :
    b.isFinite := by
  have values := congrArg Int.natAbs same
  rw [natAbs_units, natAbs_units] at values
  rw [isFinite] at finite ⊢
  rwa [← unitsOf_strictMono.injective values]

/-- A double is read as a whole number of 64 bits if it is finite and its truncation is rounded to
its value. -/
theorem integer?_eq_some_iff_truncate : d.integer? = some i ↔
    d.isFinite ∧ (ofInt d.truncate).units = d.units ∧ d.truncate = i := by
  have rounded_finite := isFinite_ofInt ((natAbs_truncate d).trans (by decide))
  rw [integer?, Option.ite_none_right_eq_some, Option.some.injEq, eq_iff,
    isNaN_of_isFinite rounded_finite]
  constructor
  · rintro ⟨⟨_, _, same⟩, isTruncate⟩
    exact ⟨isFinite_of_units_eq rounded_finite same, same, isTruncate⟩
  · rintro ⟨finite, same, isTruncate⟩
    rw [isNaN_of_isFinite finite]
    exact ⟨⟨Bool.false_ne_true, Bool.false_ne_true, same⟩, isTruncate⟩

/-- **What is read as a whole number of 64 bits**: the whole numbers in range, as themselves, and
`2 ^ 63`, as the largest one. -/
theorem integer?_eq_some_iff : d.integer? = some i ↔ d.isFinite ∧
    (minInteger ≤ i ∧ i ≤ maxInteger ∧ d.units = i * unitsPerOne ∨
      i = maxInteger ∧ d.units = (maxInteger + 1) * unitsPerOne) := by
  rw [integer?_eq_some_iff_truncate]
  refine and_congr_right fun finite => ?_
  rw [truncate_of_isFinite finite]
  constructor
  · rintro ⟨same, rfl⟩
    rcases clampInteger_cases d.wholePart with ⟨least, most, clamped⟩ | ⟨below, clamped⟩ |
      ⟨above, clamped⟩
    · rw [clamped] at same ⊢
      exact .inl ⟨least, most, units_of_ofInt_wholePart same⟩
    · -- the least whole number is not rounded, so that it would be the whole part
      rw [clamped, units_ofInt_minInteger] at same
      rw [wholePart_of_units same.symm] at below
      exact absurd below (Int.lt_irrefl _)
    · rw [clamped, units_ofInt_maxInteger] at same
      exact .inr ⟨clamped, same.symm⟩
  · rintro (⟨least, most, exact⟩ | ⟨rfl, exact⟩)
    · have clamped : clampInteger i = i := by
        unfold clampInteger
        omega
      rw [wholePart_of_units exact, clamped]
      exact ⟨(units_ofInt_of_eq (natAbs_le_of_bounds least most) exact).trans exact.symm, rfl⟩
    · rw [wholePart_of_units exact]
      have clamped : clampInteger (maxInteger + 1) = maxInteger := by decide
      rw [clamped, units_ofInt_maxInteger]
      exact ⟨exact.symm, rfl⟩

end Whole

/-! ### Exact values -/

/-- The number that a pattern stands for: its 52 low bits are a fraction after a one, or after a
zero if the exponent bits are zero, which is scaled by the exponent. What is not finite stands for
none. -/
def toRat? (d : Double) : Option ℚ :=
  if d.isFinite then
    let exponent : Nat := d.magnitude / 2 ^ 52
    let fraction : ℚ := (d.magnitude % 2 ^ 52 : Nat) / 2 ^ 52
    let size : ℚ :=
      if exponent = 0 then fraction * 2 ^ (-1022 : ℤ)
      else (1 + fraction) * 2 ^ ((exponent : ℤ) - 1023)
    some (if d.isNegative then -size else size)
  else none

theorem cast_unitsPerOne : (unitsPerOne : ℚ) = 2 ^ (1074 : ℤ) := by
  rw [unitsPerOne_eq, Nat.cast_pow, Nat.cast_ofNat, ← zpow_natCast, halvings_eq, Nat.cast_ofNat]

theorem cast_unitsPerOne_pos : (0 : ℚ) < unitsPerOne := Nat.cast_pos.mpr unitsPerOne_pos

theorem toRat?_of_isFinite {d : Double} (finite : d.isFinite) :
    d.toRat? = some ((d.units : ℚ) / unitsPerOne) := by
  have size : (if d.magnitude / 2 ^ 52 = 0 then
        ((d.magnitude % 2 ^ 52 : Nat) / 2 ^ 52 : ℚ) * 2 ^ (-1022 : ℤ)
      else (1 + ((d.magnitude % 2 ^ 52 : Nat) / 2 ^ 52 : ℚ)) *
        2 ^ (((d.magnitude / 2 ^ 52 : Nat) : ℤ) - 1023)) =
      (unitsOf d.magnitude : ℚ) / unitsPerOne := by
    have place (doublings significand : Nat) :
        ((significand * 2 ^ doublings : Nat) : ℚ) / unitsPerOne =
          significand / 2 ^ 52 * 2 ^ ((doublings : ℤ) - 1022) := by
      have power : (2 : ℚ) ^ ((doublings : ℤ) - 1022) = 2 ^ doublings * 2 ^ 52 / unitsPerOne := by
        rw [cast_unitsPerOne, ← zpow_natCast, ← zpow_natCast 2 52, ← zpow_add₀ two_ne_zero,
          ← zpow_sub₀ two_ne_zero]
        congr 1
        omega
      rw [power]
      push_cast
      ring
    split
    · have value : unitsOf (0 * 2 ^ 52 + d.magnitude % 2 ^ 52) = _ :=
        unitsOf_eq (by omega) (.inl rfl)
      have same : 0 * 2 ^ 52 + d.magnitude % 2 ^ 52 = d.magnitude := by omega
      rw [same] at value
      rw [value, place]
      rfl
    · have value : unitsOf ((d.magnitude / 2 ^ 52 - 1) * 2 ^ 52 +
          (2 ^ 52 + d.magnitude % 2 ^ 52)) = _ := unitsOf_eq (by omega) (.inr (by omega))
      have same : (d.magnitude / 2 ^ 52 - 1) * 2 ^ 52 + (2 ^ 52 + d.magnitude % 2 ^ 52) =
          d.magnitude := by omega
      have exponent : ((d.magnitude / 2 ^ 52 - 1 : Nat) : ℤ) - 1022 =
          ((d.magnitude / 2 ^ 52 : Nat) : ℤ) - 1023 := by omega
      rw [same] at value
      rw [value, place, exponent]
      push_cast
      ring
  rw [toRat?, if_pos finite]
  simp only [size, units]
  split
  · rw [Int.cast_neg, Int.cast_natCast, neg_div]
  · rw [Int.cast_natCast]

/-- A double is a whole number exactly if it is finite and counts that many ones. -/
theorem toRat?_eq_intCast_iff {d : Double} {i : Int} :
    d.toRat? = some (i : ℚ) ↔ d.isFinite ∧ d.units = i * unitsPerOne := by
  by_cases finite : d.isFinite
  · have product : (i : ℚ) * unitsPerOne = ((i * unitsPerOne : Int) : ℚ) := by
      rw [Int.cast_mul, Int.cast_natCast]
    rw [toRat?_of_isFinite finite, Option.some.injEq, div_eq_iff cast_unitsPerOne_pos.ne', product,
      Int.cast_inj]
    exact (and_iff_right finite).symm
  · rw [toRat?, if_neg finite]
    exact iff_of_false (Option.some_ne_none _).symm fun both => finite both.1

/-- No double is nearer to a number than this one. -/
def IsNearest (d : Double) (number : ℚ) : Prop :=
  ∃ value, d.toRat? = some value ∧
    ∀ (other : Double) (otherValue : ℚ), other.toRat? = some otherValue →
      |value - number| ≤ |otherValue - number|

/-- **A whole number of 64 bits is rounded to a double nearest to it.** -/
theorem isNearest_ofInt {i : Int} (small : i.natAbs ≤ 2 ^ 63) : (ofInt i).IsNearest i := by
  refine ⟨_, toRat?_of_isFinite (isFinite_ofInt (small.trans (by decide))), fun other otherValue isValue => ?_⟩
  have finite : other.isFinite := by
    by_contra infinite
    rw [toRat?, if_neg infinite] at isValue
    cases isValue
  rw [toRat?_of_isFinite finite, Option.some.injEq] at isValue
  have far (units : Int) : |(units : ℚ) / unitsPerOne - i| =
      ((i * unitsPerOne - units).natAbs : ℚ) / unitsPerOne := by
    have whole : (units : ℚ) / unitsPerOne - i =
        -((i * unitsPerOne - units : Int) : ℚ) / unitsPerOne := by
      rw [div_sub' cast_unitsPerOne_pos.ne']
      push_cast
      ring
    rw [whole, abs_div, abs_neg, abs_of_pos cast_unitsPerOne_pos, Nat.cast_natAbs, Int.cast_abs]
  rw [← isValue, far, far]
  refine div_le_div_of_nonneg_right ?_ cast_unitsPerOne_pos.le
  exact Nat.cast_le.mpr (ofInt_near small other)

end Double

end FeatureFlags
