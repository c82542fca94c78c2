import FeatureFlags.Double.Text
import FeatureFlags.Json.Document

/-!
**The number that the text of a JSON number stands for.**

A number without fraction and exponent is whole as long as it fits into 64 bits, unsigned or signed;
minus zero does not count as whole. Everything else becomes a double in one fixed way: as many
leading digits as fit into 64 unsigned bits are taken as a whole number, rounded to a double, and
then multiplied or divided by a rounded power of ten. This is close to the number that is written
and not always the nearest double. A number that grows beyond the doubles is refused.

* `NumberText.read?`: the number of a text.
* `Number.toDouble`: a number as a double.
-/

namespace FeatureFlags

/-- A JSON number. -/
inductive Number where
  /-- A whole number of 64 bits, from `-2 ^ 63` up to `2 ^ 64 - 1`. -/
  | whole (value : Int)
  | float (value : Double)
deriving DecidableEq, Repr

namespace Number

/-- The double nearest to a whole number, or the double itself. -/
def toDouble : Number → Double
  | whole value => .ofInt value
  | float value => value

/-- The value of a whole number that fits into 64 signed bits. -/
def integer? : Number → Option Int
  | whole value => if value ≤ Double.maxInteger then some value else none
  | float _ => none

/-- The text of a number; what is no finite number has none. -/
def text? : Number → Option String
  | whole value => some (toString value)
  | float value => value.digits?

end Number

namespace NumberText

/-- Whole numbers are read while they stay below this bound. -/
def significandBound : Nat := Nat.pow 2 64

/-- The number that digits spell after a start, stopping before it leaves 64 bits, and the digits
that are left over. -/
def accumulate (start : Nat) : List Nat → Nat × List Nat
  | [] => (start, [])
  | digit :: rest =>
    if start * 10 + digit < significandBound then accumulate (start * 10 + digit) rest
    else (start, digit :: rest)

/-- The double nearest to a power of ten. -/
def powerOfTen (exponent : Nat) : Double := .ofNat (Nat.pow 10 exponent)

/-- A double scaled by a power of ten, in steps that the doubles can express. -/
def scale (value : Double) (exponent : Int) : Option Double :=
  if exponent.natAbs ≤ 308 then
    if 0 ≤ exponent then
      let product := value.mul (powerOfTen exponent.natAbs)
      if product.isFinite then some product else none
    else some (value.div (powerOfTen exponent.natAbs))
  else if value.magnitude = 0 then some value
  else if 0 ≤ exponent then none
  else scale (value.div (powerOfTen 308)) (exponent + 308)
termination_by exponent.natAbs
decreasing_by omega

/-- The largest exponent that is counted exactly. -/
def exponentBound : Int := 2147483647

/-- A sum of exponents, held to the range in which they are counted. -/
def clampExponent (exponent : Int) : Int := max (-exponentBound - 1) (min exponentBound exponent)

/-- The double of a significand, a power of ten and a written exponent. -/
def floatOf (significand : Nat) (start : Int) (exponent : Option (Bool × List Nat)) :
    Option Double :=
  match exponent with
  | none => scale (.ofNat significand) start
  | some (negative, digits) =>
    let size : Nat := digits.foldl (fun value digit => value * 10 + digit) 0
    if exponentBound < size then
      if significand ≠ 0 ∧ !negative then none else some .zero
    else
      scale (.ofNat significand)
        (clampExponent (if negative then start - (size : Int) else start + (size : Int)))

/-- The number that a text stands for, if it is in range. -/
def read? (text : NumberText) : Option Number :=
  let (significand, left) := accumulate 0 text.whole
  let signed (value : Double) : Number := .float (if text.negative then value.neg else value)
  match text.fraction, text.exponent with
  | none, none =>
    if left.isEmpty then
      if !text.negative then some (.whole significand)
      else if significand = 0 ∨ Nat.pow 2 63 < significand then some (signed (.ofNat significand))
      else some (.whole (-(significand : Int)))
    else (floatOf significand left.length none).map signed
  | fraction, exponent =>
    let (significand, used) :=
      match fraction with
      | none => (significand, 0)
      | some digits =>
        let (more, unread) := accumulate significand digits
        (more, digits.length - unread.length)
    (floatOf significand ((left.length : Int) - (used : Int)) exponent).map signed

end NumberText

end FeatureFlags
