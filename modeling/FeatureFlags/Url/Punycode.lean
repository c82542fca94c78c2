/-!
**Characters of all scripts, spelled in ASCII.**

A label of a domain can spell characters outside of ASCII. Its ASCII characters come first, up to
the last hyphen. Then come numbers, the lowest digit first, each of which says how far to count on
through the places of the label and, once around, through the codes of characters, until the next
character is put in. A digit below a threshold ends a number, and the thresholds adapt to the
numbers that were read before.

* `Punycode.decode?`: the characters that a label spells.
-/

namespace FeatureFlags.Punycode

/-! ### Digits -/

/-- The value of a digit: the letters come before the numerals. -/
def digit? (c : Char) : Option Nat :=
  if 'a' ≤ c ∧ c ≤ 'z' then some (c.toNat - 'a'.toNat)
  else if 'A' ≤ c ∧ c ≤ 'Z' then some (c.toNat - 'A'.toNat)
  else if c.isDigit then some (c.toNat - '0'.toNat + 26)
  else none

/-- The digits below this bound end a number. -/
def threshold (stage bias : Nat) : Nat := max 1 (min 26 (stage - bias))

/-- The bias that suits numbers of a size. -/
def biasOf (size stage : Nat) : Nat :=
  if 455 < size then biasOf (size / 35) (stage + 36) else stage + 36 * size / (size + 38)
termination_by size
decreasing_by omega

/-- The bias after a number that put in the last of some characters; the first number is expected to
be much larger than the others. -/
def adapt (number count : Nat) (isFirst : Bool) : Nat :=
  let size := if isFirst then number / 700 else number / 2
  biasOf (size + size / count) 0

/-! ### Reading -/

/-- What has been read: the characters so far, the code of the last one, where counting began for
the number that is being read and where it has come to, and the weight and the stage of its next
digit. -/
structure Progress where
  chars : List Char
  code : Nat
  start : Nat
  place : Nat
  weight : Nat
  stage : Nat
  bias : Nat
deriving DecidableEq, Repr

/-- Before the first number. -/
def Progress.ofAscii (chars : List Char) : Progress := ⟨chars, 128, 0, 0, 1, 36, 72⟩

/-- Whether a number is the code of a character. -/
def isCode (code : Nat) : Bool := code < 0xD800 || (0xDFFF < code && code < 0x110000)

/-- Read a digit, and put in a character if the digit ends a number. -/
def Progress.read? (progress : Progress) (c : Char) : Option Progress := do
  let digit ← digit? c
  let bound := threshold progress.stage progress.bias
  let place := progress.place + digit * progress.weight
  if bound ≤ digit then
    return { progress with
      place, weight := progress.weight * (36 - bound), stage := progress.stage + 36 }
  else
    let count := progress.chars.length + 1
    let code := progress.code + place / count
    if isCode code then
      return {
        chars := progress.chars.insertIdx (place % count) (Char.ofNat code)
        code
        start := place % count + 1
        place := place % count + 1
        weight := 1
        stage := 36
        bias := adapt (place - progress.start) count (progress.start == 0) }
    else none

/-- The characters before the last hyphen, and the digits after it; a hyphen at the very beginning
is no such hyphen. -/
def parts (label : List Char) : List Char × List Char :=
  match label.reverse.span (· != '-') with
  | (digits, _ :: first :: others) => ((first :: others).reverse, digits.reverse)
  | _ => ([], label)

/-- The characters that a label spells, if it ends with a whole number. -/
def decode? (label : List Char) : Option (List Char) := do
  let (ascii, digits) := parts label
  if ascii.any (128 ≤ ·.toNat) then none
  else
    let progress ← digits.foldlM Progress.read? (.ofAscii ascii)
    if progress.stage = 36 then some progress.chars else none

end FeatureFlags.Punycode
