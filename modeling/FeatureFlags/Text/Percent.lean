import FeatureFlags.Text.Octets

/-!
**Percent signs that stand for octets.**

A character that a place does not admit is written as the octets of its UTF-8 form, each as a
percent sign with two hexadecimal digits. Reading takes a percent sign that no two digits follow as
itself.

* `Percent.encode`, `Percent.decode`: writing and reading.
* `Percent.encodeField`: a name or a value of a form, where a blank becomes a plus sign.
-/

namespace FeatureFlags.Percent

/-- An octet as a percent sign with two uppercase hexadecimal digits. -/
def triplet (octet : UInt8) : List Char :=
  ['%', (Nat.digitChar (octet.toNat / 16)).toUpper, (Nat.digitChar (octet.toNat % 16)).toUpper]

/-- A character as the octets of its UTF-8 form. -/
def triplets (c : Char) : List Char := (octetsOf (String.singleton c)).flatMap triplet

/-- Write characters, those that are not kept as octets. -/
def encode (keeps : Char → Bool) (chars : List Char) : List Char :=
  chars.flatMap fun c => if keeps c then [c] else triplets c

/-- The value of a hexadecimal digit. -/
def digit? (c : Char) : Option Nat :=
  if c.isDigit then some (c.toNat - 48)
  else if 'a' ≤ c ∧ c ≤ 'f' then some (c.toNat - 87)
  else if 'A' ≤ c ∧ c ≤ 'F' then some (c.toNat - 55)
  else none

/-- The octets that characters stand for. -/
def decode : List Char → Octets
  | '%' :: a :: b :: rest =>
    match digit? a, digit? b with
    | some high, some low => UInt8.ofNat (high * 16 + low) :: decode rest
    | _, _ => UInt8.ofNat '%'.toNat :: decode (a :: b :: rest)
  | c :: rest => octetsOf (String.singleton c) ++ decode rest
  | [] => []

/-- Whether a character stands for itself in a form. -/
def isFieldCharacter (c : Char) : Bool :=
  c.isAlphanum || c == '*' || c == '-' || c == '.' || c == '_'

/-- A name or a value of a form. -/
def encodeField (text : String) : String :=
  String.ofList (text.toList.flatMap fun c =>
    if c = ' ' then ['+'] else encode isFieldCharacter [c])

end FeatureFlags.Percent
