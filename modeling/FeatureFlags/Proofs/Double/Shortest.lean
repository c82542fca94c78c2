import FeatureFlags.Proofs.Double.Rounding
import Mathlib.Data.Nat.Cast.Order.Field

/-!
**The shortest digits of a double are rounded to it.**

Every decimal that is chosen lies between the midpoints to the neighbours of the double, and with
seventeen digits there always is one. The decimals of seventeen digits are at most `10 ^ -16` of the
number apart, which is less than the distance of the two midpoints; and next to a power of two,
where the midpoint below is only half as far, it is less than the distance to the midpoint above.

* `Double.decimalWith_roundsTo`: a decimal that is chosen is rounded to the double.
* `Double.isSome_decimalWith`: one of seventeen digits is chosen.
* `Double.shortest_roundsTo`: the shortest decimal is rounded to the double.
-/

namespace FeatureFlags

/-- The number that a decimal stands for. -/
def Decimal.toRat (decimal : Decimal) : ℚ := decimal.digits * 10 ^ decimal.exponent

/-- Trailing zeros do not change a number. -/
@[simp] theorem Decimal.toRat_trim (decimal : Decimal) : decimal.trim.toRat = decimal.toRat := by
  induction decimal using Decimal.trim.induct with
  | case1 decimal divisible ih =>
    rw [Decimal.trim, if_pos divisible, ih]
    have digits : decimal.digits / 10 * 10 = decimal.digits :=
      Nat.div_mul_cancel (Nat.dvd_of_mod_eq_zero divisible.1)
    rw [Decimal.toRat, Decimal.toRat, zpow_add_one₀ (by norm_num), ← digits]
    push_cast
    rw [Nat.mul_div_cancel _ (by decide)]
    ring
  | case2 decimal indivisible => rw [Decimal.trim, if_neg indivisible]

namespace Double

variable {magnitude : Nat}

/-! ### Points of a grid -/

/-- The distance to the magnitude above is at most a part in `2 ^ 52` of a number and more than one
in `2 ^ 53`. The magnitude below is as far, except from a power of two. -/
theorem exists_gap (positive : magnitude ≠ 0) : ∃ gap, unitsOf (magnitude + 1) =
    unitsOf magnitude + gap ∧ unitsOf magnitude < 2 ^ 53 * gap ∧
      (unitsOf (magnitude - 1) + gap = unitsOf magnitude ∨
        unitsOf magnitude = 2 ^ 52 * gap ∧ unitsOf (magnitude - 1) < unitsOf magnitude) := by
  obtain ⟨doublings, significand, small, normal, rfl⟩ := exists_significand magnitude
  have value := unitsOf_eq small.le normal
  have above := unitsOf_add_unitsOf_succ small normal
  have odd : (2 * significand + 1) * 2 ^ doublings =
      significand * 2 ^ doublings + (significand * 2 ^ doublings + 2 ^ doublings) := by ring
  rw [value, odd, Nat.add_left_cancel_iff] at above
  refine ⟨2 ^ doublings, by rw [above, value], ?_, ?_⟩
  · rw [value]
    exact Nat.mul_lt_mul_of_pos_right small (Nat.two_pow_pos _)
  · by_cases edge : doublings ≠ 0 ∧ significand = 2 ^ 52
    · obtain ⟨-, rfl⟩ := edge
      exact .inr ⟨value, unitsOf_strictMono (Nat.sub_one_lt positive)⟩
    · have some_digit : significand ≠ 0 := by omega
      have strictly : doublings = 0 ∨ 2 ^ 52 < significand := by omega
      have below := unitsOf_add_unitsOf_pred small some_digit strictly
      have odd : (2 * significand - 1) * 2 ^ doublings + 2 ^ doublings =
          significand * 2 ^ doublings + significand * 2 ^ doublings := by
        rw [← Nat.succ_mul, ← Nat.add_mul]
        congr 1
        omega
      left
      omega

theorem RoundsTo.of_strict {number : ℚ}
    (least : ((unitsOf magnitude + unitsOf (magnitude - 1) : Nat) : ℚ) < number * (2 * unitsPerOne))
    (most : number * (2 * unitsPerOne) <
      ((unitsOf magnitude + unitsOf (magnitude + 1) : Nat) : ℚ)) : RoundsTo number magnitude :=
  ⟨least.le, most.le, fun _ => ⟨least, most⟩⟩

/-- A point of a grid is compared with the midpoints. -/
theorem liesBetween_iff {count : Nat} {exponent : Int} :
    liesBetween (magnitude % 2 == 0) (unitsOf magnitude + unitsOf (magnitude - 1))
        (unitsOf magnitude + unitsOf (magnitude + 1)) (halvesOnGrid count exponent) ↔
      RoundsTo (count * 10 ^ exponent) magnitude := by
  have divisor : (0 : ℚ) < (halvesOnGrid count exponent).2 :=
    Nat.cast_pos.mpr (tenPower_pos exponent)
  have halves : (count * 10 ^ exponent : ℚ) * (2 * unitsPerOne) =
      ((halvesOnGrid count exponent).1 : ℚ) / (halvesOnGrid count exponent).2 := by
    rw [← tenPower_eq, halvesOnGrid]
    push_cast
    ring
  have above (bound : Nat) : (bound : ℚ) ≤ (count * 10 ^ exponent : ℚ) * (2 * unitsPerOne) ↔
      bound * (halvesOnGrid count exponent).2 ≤ (halvesOnGrid count exponent).1 := by
    rw [halves, le_div_iff₀ divisor]
    exact_mod_cast Iff.rfl
  have below (bound : Nat) : (count * 10 ^ exponent : ℚ) * (2 * unitsPerOne) ≤ (bound : ℚ) ↔
      (halvesOnGrid count exponent).1 ≤ bound * (halvesOnGrid count exponent).2 := by
    rw [halves, div_le_iff₀ divisor]
    exact_mod_cast Iff.rfl
  rw [liesBetween]
  by_cases even : magnitude % 2 = 0
  · rw [beq_iff_eq.mpr even, if_pos rfl, Bool.and_eq_true, decide_eq_true_iff, decide_eq_true_iff,
      ← above, ← below]
    exact ⟨fun ⟨least, most⟩ => ⟨least, most, fun odd => absurd even odd⟩,
      fun rounds => ⟨rounds.least, rounds.most⟩⟩
  · rw [beq_eq_false_iff_ne.mpr even, if_neg Bool.false_ne_true, Bool.and_eq_true,
      decide_eq_true_iff, decide_eq_true_iff, ← Nat.not_le, ← Nat.not_le, ← above, ← below, not_le,
      not_le]
    exact ⟨fun ⟨least, most⟩ => .of_strict least most, fun rounds => rounds.apart even⟩

/-! ### The decimal that is chosen -/

/-- **A decimal that is chosen is rounded to the double.** -/
theorem decimalWith_roundsTo {tie : Tie} {count : Nat} {decimal : Decimal}
    (found : decimalWith tie magnitude count = some decimal) :
    RoundsTo decimal.toRat magnitude := by
  unfold decimalWith at found
  simp only at found
  split at found
  case isTrue both =>
    obtain ⟨below, above⟩ := Bool.and_eq_true_iff.mp both
    rw [liesBetween_iff] at below above
    split at found
    · cases found
      exact below
    · cases found
      exact above
    · cases tie with
      | upward =>
        cases found
        exact above
      | toEven =>
        cases found
        generalize floorOnGrid _ _ = point at below above ⊢
        rcases Nat.mod_two_eq_zero_or_one point with even | odd
        · simpa [Decimal.toRat, even] using below
        · simpa [Decimal.toRat, odd] using above
  case isFalse =>
    split at found
    case isTrue below =>
      cases found
      exact liesBetween_iff.mp below
    case isFalse =>
      obtain ⟨above, same⟩ := Option.ite_none_right_eq_some.mp found
      cases same
      exact liesBetween_iff.mp above

/-- A decimal is chosen if one of the two points next to the number will do. -/
theorem isSome_decimalWith_of_fits {tie : Tie} {count : Nat} {exponent : Int}
    (place : leadingPlace (unitsOf magnitude) - (count : Int) + 1 = exponent) {point : Nat}
    (isFloor : floorOnGrid (2 * unitsOf magnitude) exponent = point)
    (fits : RoundsTo (point * 10 ^ exponent) magnitude ∨
      RoundsTo ((point + 1 : Nat) * 10 ^ exponent) magnitude) :
    (decimalWith tie magnitude count).isSome := by
  unfold decimalWith
  simp only [place, isFloor]
  split
  · split
    · rfl
    · rfl
    · cases tie <;> rfl
  case isFalse notBoth =>
    split
    · rfl
    case isFalse notBelow =>
      rw [liesBetween_iff] at notBelow
      rw [if_pos (liesBetween_iff.mpr (fits.resolve_left notBelow))]
      rfl

theorem floorOnGrid_bounds (halves : Nat) (exponent : Int) :
    (floorOnGrid halves exponent * 10 ^ exponent : ℚ) * (2 * unitsPerOne) ≤ halves ∧
      (halves : ℚ) < ((floorOnGrid halves exponent + 1 : Nat) * 10 ^ exponent : ℚ) *
        (2 * unitsPerOne) := by
  have divisor : (0 : ℚ) < (tenPower exponent).2 := Nat.cast_pos.mpr (tenPower_pos exponent)
  have unit : 0 < 2 * unitsPerOne * (tenPower exponent).1 :=
    Nat.mul_pos (Nat.mul_pos two_pos unitsPerOne_pos) (Nat.pow_pos (by decide))
  have point (count : Nat) : (count * 10 ^ exponent : ℚ) * (2 * unitsPerOne) =
      ((count * (2 * unitsPerOne * (tenPower exponent).1) : Nat) : ℚ) / (tenPower exponent).2 := by
    rw [← tenPower_eq]
    push_cast
    ring
  rw [point, point, div_le_iff₀ divisor, lt_div_iff₀ divisor, ← Nat.cast_mul, Nat.cast_le,
    Nat.cast_lt, floorOnGrid]
  exact ⟨Nat.div_mul_le_self _ _, (Nat.div_lt_iff_lt_mul unit).mp (Nat.lt_succ_self _)⟩

/-! ### Seventeen digits -/

theorem ten_pow_leadingPlaceBelowOne_le {units : Nat} (positive : units ≠ 0) (fuel : Nat) :
    (10 : ℚ) ^ leadingPlaceBelowOne units fuel ≤ units / unitsPerOne := by
  have reaches (places : Nat) (large : unitsPerOne ≤ units * 10 ^ places) :
      (10 : ℚ) ^ (-(places : Int)) ≤ units / unitsPerOne := by
    rw [zpow_neg, zpow_natCast, inv_le_iff_one_le_mul₀ (by positivity), div_mul_eq_mul_div,
      one_le_div cast_unitsPerOne_pos]
    exact_mod_cast large
  induction fuel with
  | zero =>
    -- the smallest positive double stands above this place
    have smallest : unitsPerOne ≤ 10 ^ 324 := by decide +kernel
    exact reaches 324 (smallest.trans (Nat.le_mul_of_pos_left _ (Nat.pos_of_ne_zero positive)))
  | succ fuel ih =>
    rw [leadingPlaceBelowOne]
    split
    case isTrue large => exact reaches _ large
    case isFalse => exact ih

/-- The first digit of a number does not stand above the number. -/
theorem ten_pow_leadingPlace_le {units : Nat} (positive : units ≠ 0) :
    (10 : ℚ) ^ leadingPlace units ≤ units / unitsPerOne := by
  unfold leadingPlace
  split
  case isFalse => exact ten_pow_leadingPlaceBelowOne_le positive 324
  case isTrue large =>
    have whole : units / unitsPerOne ≠ 0 := (Nat.div_pos large unitsPerOne_pos).ne'
    have some_place : 0 < (Nat.toDigits 10 (units / unitsPerOne)).length :=
      List.length_pos_iff.mpr Nat.toDigits_ne_nil
    have least := (bounds_toDigits whole).1
    calc (10 : ℚ) ^ (((Nat.toDigits 10 (units / unitsPerOne)).length : Int) - 1)
        = ((10 ^ ((Nat.toDigits 10 (units / unitsPerOne)).length - 1) : Nat) : ℚ) := by
          rw [Nat.cast_pow, Nat.cast_ofNat, ← zpow_natCast, Nat.cast_sub some_place, Nat.cast_one]
      _ ≤ ((units / unitsPerOne : Nat) : ℚ) := Nat.cast_le.mpr least
      _ ≤ units / unitsPerOne := Nat.cast_div_le

/-- **Of the two points of a grid next to a number, one is rounded to the double** if the grid is
fine: the nearer of them, or the one above if the midpoint below is too close. -/
theorem roundsTo_of_fine (positive : magnitude ≠ 0) {point step : ℚ}
    (lower : point * (2 * unitsPerOne) ≤ 2 * unitsOf magnitude)
    (upper : 2 * unitsOf magnitude < (point + step) * (2 * unitsPerOne))
    (fine : step * (2 * unitsPerOne) * 10 ^ 16 ≤ 2 * unitsOf magnitude) :
    RoundsTo point magnitude ∨ RoundsTo (point + step) magnitude := by
  obtain ⟨gap, above, wide, below⟩ := exists_gap positive
  have isAbove : ((unitsOf magnitude + unitsOf (magnitude + 1) : Nat) : ℚ) =
      2 * unitsOf magnitude + gap := by
    rw [above]
    push_cast
    ring
  have fits : (unitsOf magnitude : ℚ) < 2 ^ 53 * gap := by exact_mod_cast wide
  rw [add_mul] at upper
  rcases below with below | ⟨power, below⟩
  · have isBelow : ((unitsOf magnitude + unitsOf (magnitude - 1) : Nat) : ℚ) =
        2 * unitsOf magnitude - gap := by
      have sum : (unitsOf (magnitude - 1) : ℚ) + gap = unitsOf magnitude := by exact_mod_cast below
      push_cast
      linarith
    by_cases near : (2 * unitsOf magnitude - gap : ℚ) < point * (2 * unitsPerOne)
    · left
      refine .of_strict (by rwa [isBelow]) ?_
      rw [isAbove]
      linarith
    · right
      rw [not_lt] at near
      refine .of_strict ?_ ?_
      · rw [isBelow, add_mul]
        linarith
      · rw [isAbove, add_mul]
        linarith
  · right
    have same : (unitsOf magnitude : ℚ) = 2 ^ 52 * gap := by exact_mod_cast power
    have less : (unitsOf (magnitude - 1) : ℚ) < unitsOf magnitude := by exact_mod_cast below
    refine .of_strict ?_ ?_
    · rw [add_mul]
      push_cast
      linarith
    · rw [isAbove, add_mul]
      linarith

/-- **One of the decimals of seventeen digits is chosen.** -/
theorem isSome_decimalWith (tie : Tie) (positive : magnitude ≠ 0) :
    (decimalWith tie magnitude 17).isSome := by
  generalize place : leadingPlace (unitsOf magnitude) - ((17 : Nat) : Int) + 1 = exponent
  generalize isFloor : floorOnGrid (2 * unitsOf magnitude) exponent = point
  obtain ⟨lower, upper⟩ := floorOnGrid_bounds (2 * unitsOf magnitude) exponent
  have next : ((point + 1 : Nat) : ℚ) * 10 ^ exponent = point * 10 ^ exponent + 10 ^ exponent := by
    push_cast
    ring
  have fine : (10 : ℚ) ^ exponent * (2 * unitsPerOne) * 10 ^ 16 ≤ 2 * unitsOf magnitude := by
    have first := ten_pow_leadingPlace_le (unitsOf_pos positive).ne'
    have shifted : leadingPlace (unitsOf magnitude) = exponent + 16 := by omega
    rw [le_div_iff₀ cast_unitsPerOne_pos, shifted, zpow_add₀ (by norm_num)] at first
    calc (10 : ℚ) ^ exponent * (2 * unitsPerOne) * 10 ^ 16
        = 2 * (10 ^ exponent * 10 ^ (16 : ℤ) * unitsPerOne) := by
          rw [zpow_ofNat]
          ring
      _ ≤ 2 * unitsOf magnitude := mul_le_mul_of_nonneg_left first two_pos.le
  rw [isFloor, Nat.cast_mul, Nat.cast_ofNat] at lower upper
  rw [next] at upper
  refine isSome_decimalWith_of_fits place isFloor ?_
  rw [next]
  exact roundsTo_of_fine positive lower upper fine

/-- **The shortest decimal is rounded to the double.** -/
theorem shortest_roundsTo (tie : Tie) (positive : magnitude ≠ 0) :
    RoundsTo (shortest tie magnitude).toRat magnitude := by
  unfold shortest
  split
  case h_1 decimal found =>
    obtain ⟨count, -, found⟩ := List.exists_of_findSome?_eq_some found
    rw [Decimal.toRat_trim]
    exact decimalWith_roundsTo found
  case h_2 missing =>
    have none_found := List.findSome?_eq_none_iff.mp missing 16 (by decide)
    have chosen := isSome_decimalWith tie positive
    rw [none_found] at chosen
    cases chosen

end Double

end FeatureFlags
