/-!
**The characters that count as white space in text, in every script.**

* `isSpace`: the characters with the property White_Space.
-/

namespace FeatureFlags

/-- Whether a character is white space. -/
def isSpace (c : Char) : Bool :=
  let n := c.toNat
  decide (9 ≤ n ∧ n ≤ 13) || n == 32 || n == 0x85 || n == 0xA0 || n == 0x1680 ||
    decide (0x2000 ≤ n ∧ n ≤ 0x200A) || n == 0x2028 || n == 0x2029 || n == 0x202F ||
    n == 0x205F || n == 0x3000

/-- What follows the white space. -/
def skipSpaces (text : List Char) : List Char := text.dropWhile isSpace

end FeatureFlags
