import FeatureFlags.Text.Octets

/-!
**Base64 with the standard alphabet, in its one canonical spelling.**

Three octets become four characters of six bits; one or two octets left over become two or three
characters and padding. Reading accepts exactly what writing produces: padding must be complete and
stand at the end, and the bits that padding leaves unused must be zero.

* `Base64.encode`, `Base64.decode?`: octets.
* `Base64.encodeText`, `Base64.decodeText?`: texts in UTF-8.
-/

namespace FeatureFlags.Base64

/-- The character of a value below 64. -/
def symbol (value : Nat) : Char :=
  if value < 26 then Char.ofNat (65 + value)
  else if value < 52 then Char.ofNat (71 + value)
  else if value < 62 then Char.ofNat (value - 4)
  else if value = 62 then '+'
  else '/'

/-- The value of a character of the alphabet. -/
def valueOf? (c : Char) : Option Nat :=
  if 'A' ≤ c ∧ c ≤ 'Z' then some (c.toNat - 65)
  else if 'a' ≤ c ∧ c ≤ 'z' then some (c.toNat - 71)
  else if '0' ≤ c ∧ c ≤ '9' then some (c.toNat + 4)
  else if c = '+' then some 62
  else if c = '/' then some 63
  else none

/-- The characters of a sequence of octets. -/
def encodeChars : Octets → List Char
  | a :: b :: c :: rest =>
    symbol (a.toNat / 4) :: symbol (a.toNat % 4 * 16 + b.toNat / 16) ::
      symbol (b.toNat % 16 * 4 + c.toNat / 64) :: symbol (c.toNat % 64) :: encodeChars rest
  | [a, b] =>
    [symbol (a.toNat / 4), symbol (a.toNat % 4 * 16 + b.toNat / 16), symbol (b.toNat % 16 * 4), '=']
  | [a] => [symbol (a.toNat / 4), symbol (a.toNat % 4 * 16), '=', '=']
  | [] => []

/-- The octets that characters spell canonically. -/
def decodeChars? : List Char → Option Octets
  | [] => some []
  | [w, x, '=', '='] => do
    let w ← valueOf? w
    let x ← valueOf? x
    if x % 16 = 0 then some [UInt8.ofNat (w * 4 + x / 16)] else none
  | [w, x, y, '='] => do
    let w ← valueOf? w
    let x ← valueOf? x
    let y ← valueOf? y
    if y % 4 = 0 then some [UInt8.ofNat (w * 4 + x / 16), UInt8.ofNat (x % 16 * 16 + y / 4)]
    else none
  | w :: x :: y :: z :: rest => do
    let w ← valueOf? w
    let x ← valueOf? x
    let y ← valueOf? y
    let z ← valueOf? z
    let tail ← decodeChars? rest
    return UInt8.ofNat (w * 4 + x / 16) :: UInt8.ofNat (x % 16 * 16 + y / 4) ::
      UInt8.ofNat (y % 4 * 64 + z) :: tail
  | _ => none

/-- The base64 form of octets. -/
def encode (octets : Octets) : String := String.ofList (encodeChars octets)

/-- The octets that a text spells canonically. -/
def decode? (text : String) : Option Octets := decodeChars? text.toList

/-- The base64 form of a text in UTF-8. -/
def encodeText (text : String) : String := encode (octetsOf text)

/-- The text whose base64 form is given. -/
def decodeText? (encoded : String) : Option String := do
  let octets ← decode? encoded
  octets.text?

end FeatureFlags.Base64
