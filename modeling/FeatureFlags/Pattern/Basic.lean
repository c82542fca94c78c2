import FeatureFlags.Pattern.Property

/-!
**Text patterns and where they match.**

A pattern stands for a set of stretches of text. A place between two characters can be asserted, so
whether a stretch matches may depend on its neighbours. Matching follows the text character by
character: the derivatives of a pattern by a character are the patterns for what may follow it, and
only finitely many arise.

* `Assertion.holds`: what may be asserted of the place between two characters.
* `Pattern.acceptsEmpty`, `Pattern.derivatives`: matching nothing, and matching one more character.
* `Pattern.occursIn`: whether some stretch of a text matches.
-/

namespace FeatureFlags

/-! ### Places -/

/-- A condition on the place between two neighbouring characters. Words are made of all word
characters, or of the ASCII ones only. -/
inductive Assertion where
  | textStart
  | textEnd
  | lineStart
  | lineEnd
  | anyLineStart
  | anyLineEnd
  | boundary (ascii : Bool)
  | noBoundary (ascii : Bool)
  | wordStart (ascii : Bool)
  | wordEnd (ascii : Bool)
  | noWordBefore (ascii : Bool)
  | noWordAfter (ascii : Bool)
deriving DecidableEq, Repr

namespace CharSet

/-- The ASCII characters of words. -/
def asciiWord : CharSet := .ofTexts ["30-39 41-5A 5F 61-7A"]

/-- The characters of words, or the ASCII ones. -/
def wordOf (ascii : Bool) : CharSet := if ascii then asciiWord else word

end CharSet

/-- Whether there is a word character at a side of a place. -/
def isWordAt (ascii : Bool) (side : Option Char) : Bool := side.any (CharSet.wordOf ascii).contains

/-- Whether a condition holds between two neighbouring characters, which are missing at the ends of
the text. A line ends before a line feed; where a carriage return may end it too, the two together
end it once. -/
def Assertion.holds (before after : Option Char) : Assertion → Bool
  | textStart => before.isNone
  | textEnd => after.isNone
  | lineStart => before.all (· == '\n')
  | lineEnd => after.all (· == '\n')
  | anyLineStart => before.all fun c => c == '\n' || (c == '\r' && after != some '\n')
  | anyLineEnd => after.all fun c => c == '\r' || (c == '\n' && before != some '\r')
  | boundary ascii => isWordAt ascii before != isWordAt ascii after
  | noBoundary ascii => isWordAt ascii before == isWordAt ascii after
  | wordStart ascii => !isWordAt ascii before && isWordAt ascii after
  | wordEnd ascii => isWordAt ascii before && !isWordAt ascii after
  | noWordBefore ascii => !isWordAt ascii before
  | noWordAfter ascii => !isWordAt ascii after

/-! ### Patterns -/

/-- A pattern of text. A group has a number; a repetition has a least number of turns, may have a
most, and takes as few as it can or as many. Neither the numbers nor that choice change what
matches. -/
inductive Pattern where
  | empty
  | text (characters : List Char)
  | one (set : CharSet)
  | place (assertion : Assertion)
  | group (number : Nat) (body : Pattern)
  | sequence (first second : Pattern)
  | choice (first second : Pattern)
  | repetition (body : Pattern) (least : Nat) (most : Option Nat) (few : Bool)
deriving DecidableEq, Repr

namespace Pattern

/-- The pattern of a text that may be empty. -/
def ofCharacters : List Char → Pattern
  | [] => empty
  | characters => text characters

/-- One pattern after another. -/
def followedBy (first second : Pattern) : Pattern :=
  match first with
  | empty => second
  | first => sequence first second

/-- Whether a pattern matches the empty stretch at a place. -/
def acceptsEmpty (before after : Option Char) : Pattern → Bool
  | empty => true
  | text characters => characters.isEmpty
  | one _ => false
  | place assertion => assertion.holds before after
  | group _ body => body.acceptsEmpty before after
  | sequence first second =>
    first.acceptsEmpty before after && second.acceptsEmpty before after
  | choice first second => first.acceptsEmpty before after || second.acceptsEmpty before after
  | repetition body least _ _ => least == 0 || body.acceptsEmpty before after

/-- The patterns of what may follow a character, given the one before it. In a repetition whose body
matches the empty stretch, the turns that are left out count as made. -/
def derivatives (before : Option Char) (c : Char) : Pattern → List Pattern
  | empty => []
  | text [] => []
  | text (first :: rest) => if c = first then [ofCharacters rest] else []
  | one set => if set.contains c then [empty] else []
  | place _ => []
  | group _ body => body.derivatives before c
  | sequence first second =>
    (first.derivatives before c).map (·.followedBy second) ++
      if first.acceptsEmpty before (some c) then second.derivatives before c else []
  | choice first second => first.derivatives before c ++ second.derivatives before c
  | repetition body least most few =>
    if most = some 0 then []
    else
      let left := if body.acceptsEmpty before (some c) then 0 else least - 1
      (body.derivatives before c).map
        (·.followedBy (repetition body left (most.map (· - 1)) few))

/-- Whether a stretch matches that begins in the text or goes on with one of given patterns. -/
def matchesFrom (pattern : Pattern) (before : Option Char) (live : List Pattern) :
    List Char → Bool
  | [] => (pattern :: live).any (·.acceptsEmpty before none)
  | c :: rest =>
    (pattern :: live).any (·.acceptsEmpty before (some c)) ||
      matchesFrom pattern (some c)
        ((pattern :: live).flatMap (·.derivatives before c)).eraseDups rest

/-- Whether a pattern matches some stretch of a text. -/
def occursIn (pattern : Pattern) (text : String) : Bool :=
  pattern.matchesFrom none [] text.toList

end Pattern

end FeatureFlags
