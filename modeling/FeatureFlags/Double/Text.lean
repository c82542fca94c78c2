import FeatureFlags.Double.Shortest

/-!
**The written forms of a double.**

* `Double.plain`: positional, without an exponent and without a needless point, as a rule compares
  a number with a list of texts.
* `Double.digits?`: the form of a JSON document, which always shows a fraction or an exponent.
* `Double.ofText?`: the number that a text stands for, rounded to the nearest double.

Both printers use the fewest digits that read back; they differ in the notation and in where an
exact tie between two such decimals goes.
-/

namespace FeatureFlags

namespace Decimal

/-- The digits of a decimal as characters. -/
def digitChars (d : Decimal) : List Char := Nat.toDigits 10 d.digits

/-- How many characters stand before the decimal point, none or fewer for a number below one. -/
def wholePlaces (d : Decimal) : Int := (d.digitChars.length : Int) + d.exponent

/-- The decimal without an exponent; `whole` is appended to a number without a fraction. -/
def positional (whole : List Char) (d : Decimal) : List Char :=
  if 0 ≤ d.exponent then d.digitChars ++ List.replicate d.exponent.toNat '0' ++ whole
  else if 0 < d.wholePlaces then
    d.digitChars.take d.wholePlaces.toNat ++ '.' :: d.digitChars.drop d.wholePlaces.toNat
  else '0' :: '.' :: (List.replicate (-d.wholePlaces).toNat '0' ++ d.digitChars)

/-- The decimal with one digit before the point and a signed exponent. -/
def scientific (d : Decimal) : List Char :=
  let mantissa :=
    match d.digitChars with
    | [] => []
    | [c] => [c]
    | c :: rest => c :: '.' :: rest
  let power := d.wholePlaces - 1
  mantissa ++ 'e' :: (if power < 0 then '-' else '+') :: Nat.toDigits 10 power.natAbs

end Decimal

namespace Double

/-- Put the sign of a double before its text. -/
def signed (d : Double) (text : List Char) : String :=
  String.ofList (if d.isNegative then '-' :: text else text)

/-- The positional text of a double; a tie between two shortest decimals goes upward. -/
def plain (d : Double) : String :=
  if d.isNaN then "NaN"
  else if !d.isFinite then d.signed ['i', 'n', 'f']
  else if d.magnitude = 0 then d.signed ['0']
  else d.signed ((shortest .upward d.magnitude).positional [])

/-- The JSON text of a finite double: positional from `1e-5` up to `1e16`, always with a fraction,
and with an exponent outside of that range. A tie goes to the even digit. -/
def digits? (d : Double) : Option String :=
  if !d.isFinite then none
  else if d.magnitude = 0 then some (d.signed ['0', '.', '0'])
  else
    let decimal := shortest .toEven d.magnitude
    some (d.signed
      (if decimal.wholePlaces ≤ 16 ∧ -5 < decimal.wholePlaces then decimal.positional ['.', '0']
       else decimal.scientific))

/-! ### Reading -/

/-- The number that decimal digits stand for, continuing from `start`. -/
def digitsValue (start : Nat) (digits : List Char) : Nat :=
  digits.foldl (fun value c => value * 10 + (c.toNat - '0'.toNat)) start

/-- The double nearest to `digits * 10 ^ exponent`. What is far outside of the range of doubles is
decided by its size alone. -/
def ofDecimal (negative : Bool) (digits : Nat) (exponent : Int) : Double :=
  let places := ((Nat.toDigits 10 digits).length : Int) + exponent
  if digits = 0 ∨ places < -330 then ofParts negative 0
  else if 330 < places then infinity negative
  else ofRatio negative (digits * (tenPower exponent).1) (tenPower exponent).2

/-- An exponent: an optional sign and at least one digit, to the end. -/
def exponentOf? (cs : List Char) : Option Int :=
  let (negative, digits) :=
    match cs with
    | '-' :: rest => (true, rest)
    | '+' :: rest => (false, rest)
    | _ => (false, cs)
  if digits.isEmpty || !digits.all Char.isDigit then none
  else
    let value : Int := digitsValue 0 digits
    some (if negative then -value else value)

/-- A number without a sign: digits around an optional point, at least one of them, and an
optional exponent. -/
def ofUnsigned? (negative : Bool) (cs : List Char) : Option Double :=
  let (whole, rest) := cs.span Char.isDigit
  let (fraction, rest) :=
    match rest with
    | '.' :: tail => tail.span Char.isDigit
    | _ => ([], rest)
  if whole.isEmpty && fraction.isEmpty then none
  else
    let digits := digitsValue (digitsValue 0 whole) fraction
    match rest with
    | [] => some (ofDecimal negative digits (-(fraction.length : Int)))
    | 'e' :: tail | 'E' :: tail => do
      let exponent ← exponentOf? tail
      return ofDecimal negative digits (exponent - fraction.length)
    | _ => none

/-- The double that a text stands for: an optional sign, then a decimal number or, in letters of
either case, the name of an infinity or of what is not a number. -/
def ofText? (text : String) : Option Double :=
  let (negative, cs) :=
    match text.toList with
    | '-' :: rest => (true, rest)
    | '+' :: rest => (false, rest)
    | cs => (false, cs)
  let word := String.ofList (cs.map Char.toLower)
  if word = "inf" ∨ word = "infinity" then some (infinity negative)
  else if word = "nan" then some (nan negative)
  else ofUnsigned? negative cs

end Double

/-- The 64-bit whole number that a text stands for: an optional sign and at least one digit. -/
def integerOfText? (text : String) : Option Int :=
  let (negative, digits) :=
    match text.toList with
    | '-' :: rest => (true, rest)
    | '+' :: rest => (false, rest)
    | cs => (false, cs)
  if digits.isEmpty || !digits.all Char.isDigit then none
  else
    let size : Int := Double.digitsValue 0 digits
    let value := if negative then -size else size
    if Double.minInteger ≤ value ∧ value ≤ Double.maxInteger then some value else none

end FeatureFlags
