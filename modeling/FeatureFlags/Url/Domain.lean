import FeatureFlags.Url.Direction
import FeatureFlags.Url.PlainForm
import FeatureFlags.Url.Punycode

/-!
**The names of domains.**

A domain is a row of labels with dots between them. It is first written in plain characters. A label
that begins with `xn--` then spells other characters, which must be plain themselves. No label may
begin with a mark, joiners may only stand where they join something, and the labels run in one
direction each.

* `Domain.ofText?`: the domain that a text names.
-/

namespace FeatureFlags

/-- The parts of a text between the places where a separator stands. -/
def splitAt (separates : Char → Bool) : List Char → List (List Char)
  | [] => [[]]
  | c :: rest =>
    match splitAt separates rest with
    | [] => [[c]]
    | first :: others => if separates c then [] :: first :: others else (c :: first) :: others

namespace Domain

/-! ### Marks and joiners -/

/-- The characters that begin with a mark when they are written in plain characters. -/
def marks : CharSet :=
  (CharSet.union (.ofCategories ["mn", "mc", "me"]) (.ofTexts ["FF9E-FF9F"])).diff
    (.ofTexts ["345"])

/-- Whether a label begins with a mark. -/
def beginsWithMark (label : List Char) : Bool := label.head?.any marks.contains

/-- The marks that take the vowel from a consonant. -/
def killers : CharSet := (CharSet.named? CharSet.properties "graphemelink").getD .empty

/-- The letters that join the letters on both of their sides. -/
def joinsBoth : CharSet :=
  .ofTexts
    ["620 626 628 62A-62E 633-63F 641-647 649-64A 66E-66F 679-687 69A-6BF 6C1-6C2 6CC 6CE 6D0-6D1",
     "6FA-6FC 6FF 712-714 71A-71D 71F-727 729 72B 72D-72E 74E-758 75C-76A 76D-770 772 775-777",
     "77A-77F 7CA-7EA 841-845 848 84A-853 855 860 862-865 868 886 889-88D 8A0-8A9 8AF-8B0 8B3-8B8",
     "8BA-8C8 1807 1820-1878 1887-18A8 18AA A840-A871 10AC0-10AC4 10AD3-10AD6 10AD8-10ADC",
     "10ADE-10AE0 10AEB-10AEE 10B80 10B82 10B86-10B88 10B8A-10B8B 10B8D 10B90 10BAD-10BAE",
     "10D01-10D21 10D23 10F30-10F32 10F34-10F44 10F51-10F53 10F70-10F73 10F76-10F81 10FB0",
     "10FB2-10FB3 10FB8 10FBB-10FBC 10FBE-10FBF 10FC1 10FC4 10FCA 1E922-1E943"]

/-- The letters that join only the letter before them. -/
def joinsBefore : CharSet :=
  .ofTexts
    ["622-625 627 629 62F-632 648 671-673 688-699 6C0 6C3-6CB 6CD 6CF 6D2-6D3 6D5 6EE-6EF 710",
     "715-719 71E 728 72A 72C 72F 74D 759-75B 76B-76C 771 773-774 778-779 840 846-847 849 854",
     "856-858 867 869-882 88E 8AA-8AC 8AE 8B1-8B2 8B9 10AC5 10AC7 10AC9-10ACA 10ACE-10AD2 10ADD",
     "10AE1 10AE4 10AEF 10B81 10B83-10B85 10B89 10B8C 10B8E-10B8F 10B91 10BA9-10BAC 10D22 10F33",
     "10F54 10F74-10F75 10FB4-10FB6 10FB9-10FBA 10FBD 10FC2-10FC3 10FC9"]

/-- The letters that join only the letter after them. -/
def joinsAfter : CharSet := .ofTexts ["A872 10ACD 10AD7 10D00 10FCB"]

/-- The characters through which letters join. -/
def transparent : CharSet :=
  (CharSet.ofCategories ["mn", "me", "cf"]).diff CharSet.joinControl

/-- Whether the next letter of a row is in one of two sets. -/
def nextIn (row : List Char) (one other : CharSet) : Bool :=
  (row.dropWhile transparent.contains).head?.any fun c => one.contains c || other.contains c

/-- Whether joiners stand where they join something, given what comes before, the last first: after
a mark that takes the vowel, or, for the joiner that parts letters, between letters that join. -/
def joinersFit (before : List Char) : List Char → Bool
  | [] => true
  | c :: rest =>
    (if CharSet.joinControl.contains c then
      before.head?.any killers.contains ||
        (c == '\u200c' && nextIn before joinsAfter joinsBoth && nextIn rest joinsBefore joinsBoth)
    else true) && joinersFit (c :: before) rest

/-! ### Labels -/

/-- The characters that a label in plain characters stands for. -/
def labelOf? (plain : List Char) : Option (List Char) :=
  match plain with
  | 'x' :: 'n' :: '-' :: '-' :: spelling =>
    (Punycode.decode? spelling).filter fun label =>
      label.all isPlain && label.any (128 ≤ ·.toNat) && label.take 4 != ['x', 'n', '-', '-']
  | plain => some plain

/-- Whether a domain may have a label. -/
def isLabel (label : List Char) : Bool := !beginsWithMark label && joinersFit [] label

/-- The two signs of order, with a stroke as a mark, as one character each. -/
def joinStrokes : List Char → List Char
  | '<' :: '\u0338' :: rest => '≮' :: joinStrokes rest
  | '>' :: '\u0338' :: rest => '≯' :: joinStrokes rest
  | c :: rest => c :: joinStrokes rest
  | [] => []

/-- The domain that a text names, if it names one. -/
def ofText? (text : List Char) : Option (List Char) := do
  let plain ← text.mapM plain?
  let labels ← (splitAt (· == '.') (joinStrokes plain.flatten)).mapM labelOf?
  if labels.all isLabel ∧ (labels.any Direction.turns → labels.all Direction.fits) then
    some (['.'].intercalate labels)
  else none

end Domain

end FeatureFlags
