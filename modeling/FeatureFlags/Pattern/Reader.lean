import FeatureFlags.Pattern.Class
import FeatureFlags.Pattern.Size

/-!
**Reading patterns.**

A pattern is a choice between sequences of characters, sets, assertions, groups and repetitions.
Modes are switched for the rest of a group or for one group. A pattern is refused when it is badly
formed, when it is nested too deep, when it could match what is no text, and when it is too large.

* `readGroup`: the inside of a group.
* `Pattern.ofText?`: the pattern that a text spells.
-/

namespace FeatureFlags

/-- How deep the parts of a pattern may be nested. -/
def Pattern.nestingLimit : Nat := 250

/-! ### Parts -/

/-- A part of a pattern that was read, and how deep its text is nested. -/
structure ReadPattern where
  pattern : Pattern
  depth : Nat

/-- What stands in a sequence: a part, or a switch of modes, which cannot be repeated. -/
inductive SequenceItem where
  | part (part : ReadPattern)
  | switch

namespace SequenceItem

/-- The pattern of an item. -/
def pattern : SequenceItem → Pattern
  | part read => read.pattern
  | switch => .empty

/-- How deep an item is nested. -/
def depth : SequenceItem → Nat
  | part read => read.depth
  | switch => 0

end SequenceItem

/-- Items that follow each other, the last one first. -/
def readSequence (items : List SequenceItem) : ReadPattern :=
  match items with
  | [] => ⟨.empty, 0⟩
  | [item] => ⟨item.pattern, item.depth⟩
  | items =>
    ⟨.sequenceOf (items.reverse.map (·.pattern)), (items.map (·.depth)).foldr max 0 + 1⟩

/-- Sequences to choose from, the last one first. -/
def readChoice (last : ReadPattern) (before : List ReadPattern) : ReadPattern :=
  match before with
  | [] => last
  | before =>
    ⟨.choiceOf ((last :: before).reverse.map (·.pattern)),
      ((last :: before).map (·.depth)).foldr max 0 + 1⟩

/-- The pattern of a character that stands for itself. -/
def literalPattern (flags : PatternFlags) (c : Char) : Pattern :=
  .ofSet (flags.fold (.single c))

/-- The pattern of a dot: any character, or any that ends no line. -/
def dotPattern? (flags : PatternFlags) : Option Pattern :=
  if !flags.unicode then none
  else if flags.dotMatchesAll then some (.one .all)
  else if flags.carriageReturns then some (.one (CharSet.compl ⟨[(10, 10), (13, 13)]⟩))
  else some (.one (CharSet.compl ⟨[(10, 10)]⟩))

/-- The start of the text, or of every line. -/
def startPattern (flags : PatternFlags) : Pattern :=
  .place (if flags.everyLine then (if flags.carriageReturns then .anyLineStart else .lineStart)
    else .textStart)

/-- The end of the text, or of every line. -/
def endPattern (flags : PatternFlags) : Pattern :=
  .place (if flags.everyLine then (if flags.carriageReturns then .anyLineEnd else .lineEnd)
    else .textEnd)

/-- The pattern of what follows a backslash. -/
def escapePattern? (flags : PatternFlags) : Escape → Option Pattern
  | .literal c => some (literalPattern flags c)
  | .octet _ => none
  | .set set => some (.ofSet set)
  | .place assertion => some (.place assertion)

/-- One character, set or assertion. -/
def readPrimitive (flags : PatternFlags) : List Char → Option (Pattern × List Char)
  | [] => none
  | '\\' :: rest => do
    let (escape, rest) ← readEscape flags rest
    let pattern ← escapePattern? flags escape
    return (pattern, rest)
  | '.' :: rest => (dotPattern? flags).map (·, rest)
  | '^' :: rest => some (startPattern flags, rest)
  | '$' :: rest => some (endPattern flags, rest)
  | c :: rest => some (literalPattern flags c, rest)

/-! ### Repetitions -/

/-- A decimal number with blanks around it, if it is one and fits into 32 bits. -/
def readCount (flags : PatternFlags) (rest : List Char) : Option (Nat × List Char) :=
  let rec digits : Nat → Nat → Bool → List Char → Option (Nat × List Char)
    | fuel + 1, value, found, c :: rest =>
      if c.isDigit then digits fuel (value * 10 + (c.toNat - '0'.toNat)) true (flags.skip rest)
      else if found ∧ value < Nat.pow 2 32 then some (value, skipSpaces (c :: rest)) else none
    | _, value, found, rest => if found ∧ value < Nat.pow 2 32 then some (value, rest) else none
  digits (rest.length + 1) 0 false (skipSpaces rest)

/-- The bounds of a counted repetition, without the opening brace. -/
def readBounds (flags : PatternFlags) (rest : List Char) :
    Option ((Nat × Option Nat) × List Char) := do
  let (least, rest) ← readCount flags (flags.skip rest)
  match rest with
  | '\x7d' :: rest => return ((least, some least), rest)
  | ',' :: rest =>
    match flags.skip rest with
    | '\x7d' :: rest => return ((least, none), rest)
    | rest =>
      let (most, rest) ← readCount flags rest
      match rest with
      | '\x7d' :: rest => if least ≤ most then return ((least, some most), rest) else none
      | _ => none
  | _ => none

/-- Whether a question mark asks for the other choice between few turns and many, and what follows
it. -/
def readTurnMark : List Char → Bool × List Char
  | '?' :: rest => (true, rest)
  | rest => (false, rest)

/-- The last item with a repetition around it. -/
def repeatLast (least : Nat) (most : Option Nat) (few : Bool) :
    List SequenceItem → Option (List SequenceItem)
  | .part read :: items =>
    some (.part ⟨read.pattern.turns least most few, read.depth + 1⟩ :: items)
  | _ => none

/-! ### Groups -/

/-- How the parenthesis of a group goes on. -/
inductive GroupStart where
  | plain
  | named (name : List Char)
  | modes (flags : PatternFlags)
  | switch (flags : PatternFlags)

/-- Whether a character may stand in the name of a group, or at its start. -/
def isNameChar (first : Bool) (c : Char) : Bool :=
  c == '_' || CharSet.alphabetic.contains c ||
    (!first && (c == '.' || c == '[' || c == ']' ||
      (CharSet.ofCategories ["nd", "nl", "no"]).contains c))

/-- The name of a group, up to its closing angle bracket. -/
def readGroupName (rest : List Char) : Option (List Char × List Char) :=
  match rest.span (· != '>') with
  | (c :: name, _ :: rest) =>
    if isNameChar true c && name.all (isNameChar false) then some (c :: name, rest) else none
  | _ => none

/-- The letters of modes up to a colon or a closing parenthesis. A letter and the hyphen may each
appear once, and the hyphen not last. -/
def readModeLetters : List Char → Option (List Char × Char × List Char)
  | [] => none
  | c :: rest =>
    if c = ':' ∨ c = ')' then some ([], c, rest)
    else if ['i', 'm', 's', 'U', 'u', 'R', 'x', '-'].contains c then do
      let (letters, last, rest) ← readModeLetters rest
      if letters.contains c ∨ (c = '-' ∧ letters.isEmpty) then none
      else return (c :: letters, last, rest)
    else none

/-- The modes with one of them switched. -/
def PatternFlags.switch (flags : PatternFlags) (on : Bool) (letter : Char) : PatternFlags :=
  match letter with
  | 'i' => { flags with ignoreCase := on }
  | 'm' => { flags with everyLine := on }
  | 's' => { flags with dotMatchesAll := on }
  | 'u' => { flags with unicode := on }
  | 'R' => { flags with carriageReturns := on }
  | 'U' => { flags with fewTurns := on }
  | 'x' => { flags with spaced := on }
  | _ => flags

/-- The modes after letters, of which those after the hyphen are switched off. -/
def PatternFlags.switchAll (flags : PatternFlags) (letters : List Char) : PatternFlags :=
  let off :=
    (letters.dropWhile (· != '-')).foldl (fun flags letter => flags.switch false letter) flags
  (letters.takeWhile (· != '-')).foldl (fun flags letter => flags.switch true letter) off

/-- What follows an opening parenthesis. There is no looking ahead or behind. -/
def readGroupStart (flags : PatternFlags) (rest : List Char) : Option (GroupStart × List Char) :=
  match flags.skip rest with
  | '?' :: '=' :: _ => none
  | '?' :: '!' :: _ => none
  | '?' :: '<' :: '=' :: _ => none
  | '?' :: '<' :: '!' :: _ => none
  | '?' :: 'P' :: '<' :: rest => (readGroupName rest).map fun read => (.named read.1, read.2)
  | '?' :: '<' :: rest => (readGroupName rest).map fun read => (.named read.1, read.2)
  | '?' :: rest => do
    let (letters, last, rest) ← readModeLetters rest
    if last = ':' then return (.modes (flags.switchAll letters), rest)
    else if letters.isEmpty then none
    else return (.switch (flags.switchAll letters), rest)
  | rest => some (.plain, rest)

/-! ### The whole -/

/-- What is read of a group: its pattern, the names of the groups so far, which are empty for groups
without a name, and the rest of the text, which is empty or begins with a closing parenthesis. -/
structure ReadGroup where
  read : ReadPattern
  names : List (List Char)
  rest : List Char

/-- The inside of a group from a place on, given the items of the current sequence, the last one
first, and the sequences before it. -/
def readGroup : Nat → PatternFlags → List (List Char) → List SequenceItem → List ReadPattern →
    List Char → Option ReadGroup
  | 0, _, _, _, _, _ => none
  | fuel + 1, flags, names, items, before, rest =>
    let inner := fun (flags' : PatternFlags) (name : Option (List Char)) (rest : List Char) => do
      let names' := name.toList ++ names
      let group ← readGroup fuel flags' names' [] [] rest
      match group.rest with
      | ')' :: rest =>
        let pattern :=
          if name.isSome then .group names'.length group.read.pattern else group.read.pattern
        readGroup fuel flags group.names
          (.part ⟨pattern, group.read.depth + 1⟩ :: items) before rest
      | _ => none
    let repeated := fun (least : Nat) (most : Option Nat) (rest : List Char) => do
      let (mark, rest) := readTurnMark rest
      let items ← repeatLast least most (mark != flags.fewTurns) items
      readGroup fuel flags names items before rest
    match flags.skip rest with
    | [] => some ⟨readChoice (readSequence items) before, names, []⟩
    | ')' :: rest => some ⟨readChoice (readSequence items) before, names, ')' :: rest⟩
    | '(' :: rest => do
      let (start, rest) ← readGroupStart flags rest
      match start with
      | .plain => inner flags (some []) rest
      | .named name => if names.contains name then none else inner flags (some name) rest
      | .modes flags => inner flags none rest
      | .switch flags => readGroup fuel flags names (.switch :: items) before rest
    | '|' :: rest => readGroup fuel flags names [] (readSequence items :: before) rest
    | '[' :: rest => do
      let (set, rest) ← readBrackets flags (2 * rest.length + 2) rest
      readGroup fuel flags names (.part ⟨.ofSet set.set, set.depth⟩ :: items) before rest
    | '?' :: rest => repeated 0 (some 1) rest
    | '*' :: rest => repeated 0 none rest
    | '+' :: rest => repeated 1 none rest
    | '\x7b' :: rest => do
      let (bounds, rest) ← readBounds flags rest
      repeated bounds.1 bounds.2 (flags.skip rest)
    | rest => do
      let (pattern, rest) ← readPrimitive flags rest
      readGroup fuel flags names (.part ⟨pattern, 0⟩ :: items) before rest

/-- The pattern that a text spells. -/
def Pattern.ofText? (text : String) : Option Pattern := do
  let characters := text.toList
  let group ← readGroup (characters.length + 1) {} [] [] [] characters
  let ⟨pattern, depth⟩ := group.read
  if group.rest.isEmpty ∧ depth ≤ nestingLimit ∧ pattern.isWithinLimit then some pattern else none

end FeatureFlags
