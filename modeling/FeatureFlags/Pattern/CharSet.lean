/-!
**Sets of characters, as ranges of code points.**

A set lists its ranges from low to high, with a gap before each. Every operation sorts its result
and joins ranges that overlap or touch, so a set has one form.

* `CharSet.ofRanges`: the set that holds the code points of given ranges.
* `CharSet.union`, `inter`, `diff`, `symmDiff`, `compl`: set operations, within the characters.
* `CharSet.ofTexts`: a set written as ranges of hexadecimal numbers, for the tables.
-/

namespace FeatureFlags

/-- A set of characters: the first and the last code point of each range. -/
structure CharSet where
  ranges : List (Nat × Nat)
deriving DecidableEq, Repr, Inhabited

namespace CharSet

/-! ### One form for each set -/

/-- Put a range before sorted ranges, joined with those that it overlaps or touches. -/
def joinRange (range : Nat × Nat) : List (Nat × Nat) → List (Nat × Nat)
  | [] => [range]
  | next :: rest =>
    if next.1 ≤ range.2 + 1 then joinRange (range.1, max range.2 next.2) rest
    else range :: next :: rest

/-- The set that holds the code points of given ranges. -/
def ofRanges (ranges : List (Nat × Nat)) : CharSet :=
  ⟨((ranges.filter fun range => range.1 ≤ range.2).mergeSort fun a b => a.1 ≤ b.1).foldr
    joinRange []⟩

/-- The set without characters. -/
def empty : CharSet := ⟨[]⟩

/-- The set of one character. -/
def single (c : Char) : CharSet := ⟨[(c.toNat, c.toNat)]⟩

/-- The set of the characters from one to another. -/
def range (first last : Char) : CharSet := ⟨[(first.toNat, last.toNat)]⟩

/-- The set of all characters; surrogates are none. -/
def all : CharSet := ⟨[(0, 0xD7FF), (0xE000, 0x10FFFF)]⟩

/-- The set of the characters below 128. -/
def ascii : CharSet := ⟨[(0, 127)]⟩

/-- Whether a set holds a code point. -/
def holds (set : CharSet) (n : Nat) : Bool := set.ranges.any fun r => r.1 ≤ n && n ≤ r.2

/-- Whether a set holds a character. -/
def contains (set : CharSet) (c : Char) : Bool := set.holds c.toNat

/-- Whether a set holds characters below 128 only. -/
def isAscii (set : CharSet) : Bool := set.ranges.all fun r => r.2 < 128

/-! ### Operations -/

/-- The characters of either set. -/
def union (a b : CharSet) : CharSet := ofRanges (a.ranges ++ b.ranges)

/-- The characters of every set of a list. -/
def unions (sets : List CharSet) : CharSet := ofRanges (sets.flatMap CharSet.ranges)

/-- The characters of both sets. -/
def inter (a b : CharSet) : CharSet :=
  ofRanges
    (a.ranges.flatMap fun r => b.ranges.map fun s => (max r.1 s.1, min r.2 s.2))

/-- The gaps between ranges, from a code point on. -/
def gaps (start : Nat) : List (Nat × Nat) → List (Nat × Nat)
  | [] => [(start, 0x10FFFF)]
  | range :: rest => if range.1 = 0 then gaps (range.2 + 1) rest
    else (start, range.1 - 1) :: gaps (range.2 + 1) rest

/-- The characters that a set does not hold. -/
def compl (set : CharSet) : CharSet := (ofRanges (gaps 0 set.ranges)).inter all

/-- The characters of the first set that the second does not hold. -/
def diff (a b : CharSet) : CharSet := a.inter b.compl

/-- The characters of exactly one of two sets. -/
def symmDiff (a b : CharSet) : CharSet := (a.diff b).union (b.diff a)

/-! ### Tables -/

/-- The number that hexadecimal digits spell. -/
def hexNumber (digits : List Char) : Nat :=
  digits.foldl (fun value c =>
    value * 16 + (if c.isDigit then c.toNat - '0'.toNat else c.toNat - 'A'.toNat + 10)) 0

/-- A range, written as one number or as two with a hyphen between them. -/
def rangeOfText (text : List Char) : Nat × Nat :=
  match text.span (· != '-') with
  | (first, []) => (hexNumber first, hexNumber first)
  | (first, _ :: last) => (hexNumber first, hexNumber last)

/-- The words of a text with blanks between them. -/
def words (text : String) : List (List Char) :=
  (text.toList.splitBy fun a b => (a == ' ') == (b == ' ')).filter fun word =>
    word.head? != some ' '

/-- The set whose ranges are written in a table, in order. -/
def ofTexts (lines : List String) : CharSet :=
  ⟨lines.flatMap fun line => (words line).map rangeOfText⟩

end CharSet

end FeatureFlags
