import FeatureFlags.Double.Basic

/-!
**The fewest decimal digits that read back as a double.**

A decimal reads back as a double when it lies in the interval of numbers that round to it, ends
included for an even magnitude. `Double.shortest` tries one digit, then two, and so on up to the
seventeen that always suffice; on each grid of decimals it looks at the two neighbours of the
number only, which is enough: if a point of the grid lies in the interval, so does one of these.
Of two neighbours in the interval the nearer is taken. How an exact tie goes is left to the format
that prints.

* `Decimal`: digits and a power of ten.
* `Double.shortest`: the chosen decimal of a finite number other than zero.
-/

namespace FeatureFlags

/-- The number `digits * 10 ^ exponent`. -/
structure Decimal where
  digits : Nat
  exponent : Int
deriving DecidableEq, Repr, Inhabited

/-- Where an exact tie between two neighbouring decimals goes. -/
inductive Tie where
  | toEven
  | upward
deriving DecidableEq, Repr

namespace Decimal

/-- The same number without trailing zeros among its digits. -/
def trim (d : Decimal) : Decimal :=
  if d.digits % 10 = 0 ∧ d.digits ≠ 0 then trim ⟨d.digits / 10, d.exponent + 1⟩ else d
termination_by d.digits
decreasing_by omega

end Decimal

namespace Double

/-- A power of ten as a quotient of natural numbers. -/
def tenPower (exponent : Int) : Nat × Nat :=
  (Nat.pow 10 exponent.toNat, Nat.pow 10 (-exponent).toNat)

/-- The largest whole number whose multiple of `10 ^ exponent` is not above `units` halves of the
smallest positive double. -/
def floorOnGrid (halves : Nat) (exponent : Int) : Nat :=
  halves * (tenPower exponent).2 / (2 * unitsPerOne * (tenPower exponent).1)

/-- A multiple of `10 ^ exponent`, in halves of the smallest positive double, as a quotient. -/
def halvesOnGrid (count : Nat) (exponent : Int) : Nat × Nat :=
  (count * (tenPower exponent).1 * (2 * unitsPerOne), (tenPower exponent).2)

/-- Whether a quotient lies between two bounds, which count if `closed`. -/
def liesBetween (closed : Bool) (low high : Nat) (point : Nat × Nat) : Bool :=
  if closed then decide (low * point.2 ≤ point.1) && decide (point.1 ≤ high * point.2)
  else decide (low * point.2 < point.1) && decide (point.1 < high * point.2)

/-- The greatest `k` with `10 ^ k` not above a positive number below one, counted down from
`fuel` places. -/
def leadingPlaceBelowOne (units : Nat) : Nat → Int
  | 0 => -324
  | fuel + 1 =>
    if unitsPerOne ≤ units * Nat.pow 10 (324 - fuel) then -(324 - fuel : Nat)
    else leadingPlaceBelowOne units fuel

/-- The decimal place of the first digit of a positive number: `0` for units, `1` for tens. -/
def leadingPlace (units : Nat) : Int :=
  if unitsPerOne ≤ units then ((Nat.toDigits 10 (units / unitsPerOne)).length : Int) - 1
  else leadingPlaceBelowOne units 324

/-- The decimal with `count` digits that reads back as the magnitude, if there is one. -/
def decimalWith (tie : Tie) (magnitude : Nat) (count : Nat) : Option Decimal :=
  let units := unitsOf magnitude
  let low := units + unitsOf (magnitude - 1)
  let high := units + unitsOf (magnitude + 1)
  let closed := magnitude % 2 == 0
  let exponent := leadingPlace units - (count : Int) + 1
  let below := floorOnGrid (2 * units) exponent
  let belowPoint := halvesOnGrid below exponent
  let abovePoint := halvesOnGrid (below + 1) exponent
  let belowFits := liesBetween closed low high belowPoint
  let aboveFits := liesBetween closed low high abovePoint
  if belowFits && aboveFits then
    match compare (belowPoint.1 + abovePoint.1) (2 * (2 * units) * belowPoint.2) with
    | .gt => some ⟨below, exponent⟩
    | .lt => some ⟨below + 1, exponent⟩
    | .eq =>
      match tie with
      | .toEven => some ⟨below + below % 2, exponent⟩
      | .upward => some ⟨below + 1, exponent⟩
  else if belowFits then some ⟨below, exponent⟩
  else if aboveFits then some ⟨below + 1, exponent⟩
  else none

/-- The decimal with the fewest digits that reads back as a finite magnitude other than zero. -/
def shortest (tie : Tie) (magnitude : Nat) : Decimal :=
  match (List.range 17).findSome? (fun count => decimalWith tie magnitude (count + 1)) with
  | some decimal => decimal.trim
  | none => ⟨unitsOf magnitude, 0⟩

end Double

end FeatureFlags
