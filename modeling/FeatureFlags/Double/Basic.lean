/-!
**Binary64 numbers as bit patterns, with every operation carried out on exact integers.**

A double is its 64 bits. The low 63 bits, its `magnitude`, order the numbers of one sign as the
numbers themselves are ordered, so no floating point arithmetic is needed anywhere: a finite
magnitude stands for the whole number `unitsOf magnitude` of the smallest positive double,
`2 ^ -1074`, and rounding is one division of natural numbers.

* `unitsOf`: the exact value of a magnitude.
* `nearest`: the magnitude nearest to a quotient, a tie going to the even one.
* `Double.compare?`: the order of two numbers, none when one of them is not a number.
-/

namespace FeatureFlags

/-- A binary64 number, as its bit pattern. -/
structure Double where
  bits : UInt64
deriving DecidableEq, Repr, Inhabited

namespace Double

/-! ### The parts of a pattern -/

/-- The magnitude of the infinities; larger magnitudes are not numbers. -/
def infinityMagnitude : Nat := 2047 * Nat.pow 2 52

/-- Whether the sign bit is set. -/
def isNegative (d : Double) : Bool := decide (Nat.pow 2 63 ≤ d.bits.toNat)

/-- The pattern without its sign bit. -/
def magnitude (d : Double) : Nat := d.bits.toNat % Nat.pow 2 63

/-- Whether the pattern stands for no number. -/
def isNaN (d : Double) : Bool := decide (infinityMagnitude < d.magnitude)

/-- Whether the pattern stands for a real number. -/
def isFinite (d : Double) : Bool := decide (d.magnitude < infinityMagnitude)

/-- The pattern with a given sign and magnitude. -/
def ofParts (negative : Bool) (magnitude : Nat) : Double :=
  ⟨UInt64.ofNat ((if negative then Nat.pow 2 63 else 0) + magnitude)⟩

/-- Positive zero. -/
def zero : Double := ofParts false 0

/-- An infinity. -/
def infinity (negative : Bool) : Double := ofParts negative infinityMagnitude

/-- The quiet pattern that stands for no number. -/
def nan (negative : Bool) : Double := ofParts negative (infinityMagnitude + Nat.pow 2 51)

/-- The same number with the other sign. -/
def neg (d : Double) : Double := ofParts (!d.isNegative) d.magnitude

/-! ### Exact values and rounding -/

/-- How many times the smallest positive double fits into one. -/
def unitsPerOne : Nat := Nat.pow 2 1074

/-- The exact value of a finite magnitude, in smallest positive doubles. -/
def unitsOf (magnitude : Nat) : Nat :=
  if magnitude / Nat.pow 2 52 = 0 then magnitude
  else (Nat.pow 2 52 + magnitude % Nat.pow 2 52) * Nat.pow 2 (magnitude / Nat.pow 2 52 - 1)

/-- The whole number nearest to a quotient; a tie goes to the even one. -/
def roundDiv (num den : Nat) : Nat :=
  if 2 * (num % den) < den then num / den
  else if den < 2 * (num % den) then num / den + 1
  else num / den + num / den % 2

/-- The magnitude nearest to `num / den` smallest positive doubles: 53 binary digits are kept, or
all of them below the normal numbers, and what is too large becomes infinite. -/
def nearest (num den : Nat) : Nat :=
  min infinityMagnitude
    (((num / den).log2 - 52) * Nat.pow 2 52 +
      roundDiv num (den * Nat.pow 2 ((num / den).log2 - 52)))

/-- The double nearest to a quotient of natural numbers. -/
def ofRatio (negative : Bool) (num den : Nat) : Double :=
  ofParts negative (nearest (num * unitsPerOne) den)

/-- The double nearest to a natural number. -/
def ofNat (n : Nat) : Double := ofRatio false n 1

/-- The double nearest to a whole number. -/
def ofInt (i : Int) : Double := ofRatio (decide (i < 0)) i.natAbs 1

/-- The rounded product of two finite numbers. -/
def mul (a b : Double) : Double :=
  ofParts (a.isNegative != b.isNegative)
    (nearest (unitsOf a.magnitude * unitsOf b.magnitude) unitsPerOne)

/-- The rounded quotient of a finite number by a finite number other than zero. -/
def div (a b : Double) : Double :=
  ofParts (a.isNegative != b.isNegative)
    (nearest (unitsOf a.magnitude * unitsPerOne) (unitsOf b.magnitude))

/-! ### Order -/

/-- A whole number that orders the doubles; both zeros have the rank zero. -/
def rank (d : Double) : Int := if d.isNegative then -(d.magnitude : Int) else d.magnitude

/-- The order of two numbers. -/
def compare? (a b : Double) : Option Ordering :=
  if a.isNaN || b.isNaN then none else some (compare a.rank b.rank)

/-- Whether two doubles are equal as numbers. -/
def eq (a b : Double) : Bool := a.compare? b == some .eq

/-! ### Whole numbers -/

/-- The smallest whole number of 64 bits. -/
def minInteger : Int := -9223372036854775808

/-- The largest whole number of 64 bits. -/
def maxInteger : Int := 9223372036854775807

/-- A whole number held to 64 bits. -/
def clampInteger (i : Int) : Int := max minInteger (min maxInteger i)

/-- The number without its fraction, held to 64 bits; zero for what is not a number. -/
def truncate (d : Double) : Int :=
  if d.isNaN then 0
  else if d.isFinite then
    let whole : Int := (unitsOf d.magnitude / unitsPerOne : Nat)
    clampInteger (if d.isNegative then -whole else whole)
  else if d.isNegative then minInteger else maxInteger

/-- The 64-bit whole number that a double stands for: its truncation, if that is the same double
again. -/
def integer? (d : Double) : Option Int :=
  if (ofInt d.truncate).eq d then some d.truncate else none

end Double

end FeatureFlags
