/-!
**Octets, and the text they encode.**

A message is a list of octets. `octetsOf` writes a text in UTF-8 and `Octets.text?` reads one back,
which fails for octets that are not well-formed UTF-8.

* `hexOf`: two lowercase hexadecimal digits for each octet.
* `littleEndian`, `ofLittleEndian`: a number as octets, the lowest first.
-/

namespace FeatureFlags

/-- A sequence of octets. -/
abbrev Octets := List UInt8

/-- The UTF-8 form of a text. -/
def octetsOf (text : String) : Octets := text.toUTF8.data.toList

/-- The text that octets encode in UTF-8. -/
def Octets.text? (octets : Octets) : Option String :=
  String.fromUTF8? (ByteArray.mk octets.toArray)

/-- The digits of the octets in lowercase hexadecimal notation. -/
def hexOf (octets : Octets) : String :=
  String.ofList
    (octets.flatMap fun octet =>
      [Nat.digitChar (octet.toNat / 16), Nat.digitChar (octet.toNat % 16)])

/-- The lowest `count` octets of a number, the lowest first. -/
def littleEndian : Nat → Nat → Octets
  | 0, _ => []
  | count + 1, value => UInt8.ofNat (value % 256) :: littleEndian count (value / 256)

/-- The number that octets stand for, the lowest first. -/
def ofLittleEndian (octets : Octets) : Nat :=
  octets.foldr (fun octet value => octet.toNat + 256 * value) 0

end FeatureFlags
