import FeatureFlags.Pattern.Basic

/-!
**Patterns put together from their parts, in a simple form.**

Sequences and choices lean to the right and hold no others directly; characters that follow each
other are one text, characters and sets to choose from are one set, and what all sequences to choose
from begin with stands before the choice. What matches does not change, but how much room a pattern
takes does.

* `Pattern.ofSet`, `Pattern.sequenceOf`, `Pattern.choiceOf`, `Pattern.turns`: the simple forms.
* `Pattern.parts`, `Pattern.alternatives`: what a sequence or a choice consists of.
-/

namespace FeatureFlags.Pattern

/-! ### Sets and sequences -/

/-- One character of a set; a single character is a text. -/
def ofSet (set : CharSet) : Pattern :=
  match set.ranges with
  | [(first, last)] => if first = last then text [Char.ofNat first] else one set
  | _ => one set

/-- The parts of a sequence, or the one pattern; the empty pattern has none. -/
def parts : Pattern → List Pattern
  | empty => []
  | sequence first second => first :: second.parts
  | pattern => [pattern]

/-- A part put before others, as one text where both are. -/
def prepend (part : Pattern) (others : List Pattern) : List Pattern :=
  match part, others with
  | text characters, text more :: others => text (characters ++ more) :: others
  | part, others => part :: others

/-- Parts that follow each other. -/
def chain : List Pattern → Pattern
  | [] => empty
  | [part] => part
  | part :: others => sequence part (chain others)

/-- Patterns that follow each other. -/
def sequenceOf (patterns : List Pattern) : Pattern :=
  chain ((patterns.flatMap parts).foldr prepend [])

/-! ### Choices -/

/-- The patterns that a choice is made from, or the one pattern. -/
def alternatives : Pattern → List Pattern
  | choice first second => first :: second.alternatives
  | pattern => [pattern]

/-- Patterns to choose from; among none there is no match. -/
def choiceFrom : List Pattern → Pattern
  | [] => one .empty
  | [pattern] => pattern
  | pattern :: others => choice pattern (choiceFrom others)

/-- The only character of a text, as a set. -/
def characterSet? : Pattern → Option CharSet
  | text [c] => some (.single c)
  | _ => none

/-- The set of a pattern that is one. -/
def set? : Pattern → Option CharSet
  | one set => some set
  | _ => none

/-- The first parts that two sequences have in common. -/
def commonParts : List Pattern → List Pattern → List Pattern
  | a :: as, b :: bs => if a = b then a :: commonParts as bs else []
  | _, _ => []

/-- The first parts that all of some sequences have in common; a single part is no sequence. -/
def sharedParts : List (List Pattern) → List Pattern
  | [] => []
  | first :: others =>
    if (first :: others).all fun parts => 2 ≤ parts.length then others.foldl commonParts first
    else []

/-- Patterns to choose from, of which none is a choice. The fuel bounds how often shared parts are
taken out. -/
def choiceWithin : Nat → List Pattern → Pattern
  | 0, patterns => choiceFrom patterns
  | fuel + 1, patterns =>
    match patterns with
    | [pattern] => pattern
    | patterns =>
      match (patterns.mapM characterSet?).or (patterns.mapM set?) with
      | some sets => ofSet (.unions sets)
      | none =>
        let shared := sharedParts (patterns.map parts)
        if shared.isEmpty then choiceFrom patterns
        else
          let rests := patterns.map fun pattern => chain (pattern.parts.drop shared.length)
          sequenceOf (shared ++ [choiceWithin fuel (rests.flatMap alternatives)])

/-- How many patterns a pattern is made of, itself included. -/
def nodeCount : Pattern → Nat
  | group _ body => body.nodeCount + 1
  | sequence first second => first.nodeCount + second.nodeCount + 1
  | choice first second => first.nodeCount + second.nodeCount + 1
  | repetition body _ _ _ => body.nodeCount + 1
  | _ => 1

/-- Patterns to choose from. -/
def choiceOf (patterns : List Pattern) : Pattern :=
  let alternatives := patterns.flatMap alternatives
  choiceWithin ((alternatives.map nodeCount).foldl (· + ·) 1) alternatives

/-! ### Repetitions -/

/-- Whether no stretch that matches holds a character. -/
def isEmptyOnly : Pattern → Bool
  | empty => true
  | text characters => characters.isEmpty
  | one _ => false
  | place _ => true
  | group _ body => body.isEmptyOnly
  | sequence first second => first.isEmptyOnly && second.isEmptyOnly
  | choice first second => first.isEmptyOnly && second.isEmptyOnly
  | repetition body _ most _ => body.isEmptyOnly || most == some 0

/-- A pattern a number of times over; what holds no characters is not repeated. -/
def turns (body : Pattern) (least : Nat) (most : Option Nat) (few : Bool) : Pattern :=
  let (least, most) :=
    if body.isEmptyOnly then (min least 1, some (min (most.getD 1) 1)) else (least, most)
  if most = some 0 then empty
  else if least = 1 ∧ most = some 1 then body
  else repetition body least most few

end FeatureFlags.Pattern
