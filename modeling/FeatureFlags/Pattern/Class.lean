import FeatureFlags.Pattern.Basic
import FeatureFlags.Pattern.PropertyName
import FeatureFlags.Text.Blank

/-!
**Reading sets of characters and escapes in a pattern.**

A set stands in brackets and lists characters, ranges and named sets; sets may be nested, and
combined from left to right by `&&`, `--` and `~~`. A reader takes what is left of the text and
gives a value and the rest, or nothing.

* `PatternFlags`: the modes that change how a pattern is read.
* `readEscape`: what follows a backslash.
* `readBrackets`: what follows an opening bracket.
-/

namespace FeatureFlags

/-- The modes of a stretch of a pattern. -/
structure PatternFlags where
  ignoreCase : Bool := false
  everyLine : Bool := false
  dotMatchesAll : Bool := false
  unicode : Bool := true
  carriageReturns : Bool := false
  spaced : Bool := false
  fewTurns : Bool := false

namespace PatternFlags

/-! ### Blanks and comments -/

/-- What follows blanks and comments; a comment goes from a number sign to the end of its line. -/
def skipComments (inComment : Bool) : List Char → List Char
  | [] => []
  | c :: rest =>
    if inComment then skipComments (c != '\n') rest
    else if isSpace c then skipComments false rest
    else if c = '#' then skipComments true rest
    else c :: rest

/-- What follows blanks and comments, where the modes allow them. -/
def skip (flags : PatternFlags) (rest : List Char) : List Char :=
  if flags.spaced then skipComments false rest else rest

/-- The character that decides whether a hyphen in brackets stands for itself. Blanks before it are
passed over, and so is one number sign, but not the comment that it begins. -/
def peek (flags : PatternFlags) (rest : List Char) : Option Char :=
  if flags.spaced then
    let ahead :=
      match rest.dropWhile isSpace with
      | '#' :: comment => comment.dropWhile isSpace
      | ahead => ahead
    ahead.head?.or rest.head?
  else rest.head?

/-! ### Sets under the modes -/

/-- A set with the characters that count as the same. -/
def fold (flags : PatternFlags) (set : CharSet) : CharSet :=
  if flags.ignoreCase then (if flags.unicode then set.caseFold else set.asciiCaseFold) else set

/-- A set that may be negated. Without Unicode no set holds characters beyond ASCII. -/
def foldAndNegate? (flags : PatternFlags) (negated : Bool) (set : CharSet) : Option CharSet :=
  let folded := flags.fold set
  let result := if negated then folded.compl else folded
  if flags.unicode || result.isAscii then some result else none

end PatternFlags

/-! ### Named sets -/

namespace CharSet

/-- The ASCII set with a given name. -/
def asciiNamed? (name : String) : Option CharSet :=
  match name with
  | "alnum" => some (.ofTexts ["30-39 41-5A 61-7A"])
  | "alpha" => some (.ofTexts ["41-5A 61-7A"])
  | "ascii" => some ascii
  | "blank" => some (.ofTexts ["9 20"])
  | "cntrl" => some (.ofTexts ["0-1F 7F"])
  | "digit" => some (.ofTexts ["30-39"])
  | "graph" => some (.ofTexts ["21-7E"])
  | "lower" => some (.ofTexts ["61-7A"])
  | "print" => some (.ofTexts ["20-7E"])
  | "punct" => some (.ofTexts ["21-2F 3A-40 5B-60 7B-7E"])
  | "space" => some (.ofTexts ["9-D 20"])
  | "upper" => some (.ofTexts ["41-5A"])
  | "word" => some asciiWord
  | "xdigit" => some (.ofTexts ["30-39 41-46 61-66"])
  | _ => none

/-- The set that a letter after a backslash stands for: digits, white space or word characters. -/
def ofLetter (unicode : Bool) (letter : Char) : CharSet :=
  match letter with
  | 'd' => if unicode then digit else .ofTexts ["30-39"]
  | 's' => if unicode then space else .ofTexts ["9-D 20"]
  | _ => wordOf !unicode

end CharSet

/-! ### Escapes -/

/-- What a backslash and the characters after it stand for. -/
inductive Escape where
  | literal (c : Char)
  | octet (value : Nat)
  | set (set : CharSet)
  | place (assertion : Assertion)

/-- Whether a character stands for itself after a backslash: every ASCII character but letters,
digits and angle brackets. -/
def standsForItself (c : Char) : Bool :=
  decide (c.toNat < 128) && !c.isAlphanum && c != '<' && c != '>'

/-- The character with a given code point. -/
def charOf? (n : Nat) : Option Char := if n.isValidChar then some (Char.ofNat n) else none

/-- Whether a character is a hexadecimal digit. -/
def isHexDigit (c : Char) : Bool :=
  c.isDigit || decide ('a' ≤ c ∧ c ≤ 'f') || decide ('A' ≤ c ∧ c ≤ 'F')

/-- A number of hexadecimal digits, with blanks and comments between them. -/
def readHexDigits (flags : PatternFlags) : Nat → List Char → Option (List Char × List Char)
  | 0, rest => some ([], rest)
  | count + 1, rest => do
    match flags.skip rest with
    | c :: rest =>
      if isHexDigit c then
        let (digits, rest) ← readHexDigits flags count rest
        return (c.toUpper :: digits, rest)
      else none
    | [] => none

/-- Hexadecimal digits up to a closing brace. -/
def readHexBraces (flags : PatternFlags) : Nat → List Char → Option (List Char × List Char)
  | 0, _ => none
  | fuel + 1, rest => do
    match flags.skip rest with
    | '\x7d' :: rest => return ([], rest)
    | c :: rest =>
      if isHexDigit c then
        let (digits, rest) ← readHexBraces flags fuel rest
        return (c.toUpper :: digits, rest)
      else none
    | [] => none

/-- A character by its number: two, four or eight digits after `x`, `u` or `U`, or any number of
digits in braces. Two digits may stand for an octet. -/
def readHex (flags : PatternFlags) (letter : Char) (rest : List Char) :
    Option (Escape × List Char) := do
  match flags.skip rest with
  | '\x7b' :: inside =>
    let (digits, rest) ← readHexBraces flags (inside.length + 1) inside
    if digits.isEmpty then none
    let c ← charOf? (CharSet.hexNumber digits)
    return (.literal c, flags.skip rest)
  | rest =>
    let count := if letter = 'x' then 2 else if letter = 'u' then 4 else 8
    let (digits, rest) ← readHexDigits flags count rest
    let value := CharSet.hexNumber digits
    if letter = 'x' ∧ 128 ≤ value ∧ !flags.unicode then return (.octet value, flags.skip rest)
    let c ← charOf? value
    return (.literal c, flags.skip rest)

/-- The text before the first place where a mark stands, and the text after the mark. -/
def splitAtMark (mark : List Char) : List Char → Option (List Char × List Char)
  | [] => none
  | c :: rest =>
    if mark.isPrefixOf (c :: rest) then some ([], (c :: rest).drop mark.length)
    else (splitAtMark mark rest).map fun parts => (c :: parts.1, parts.2)

/-- The set that the text in the braces of a property stands for, and whether it is negated. -/
def propertySet? (text : List Char) : Option (CharSet × Bool) :=
  match splitAtMark ['!', '='] text with
  | some (property, value) => (CharSet.ofProperty? property value).map (·, true)
  | none =>
    match (splitAtMark [':'] text).or (splitAtMark ['='] text) with
    | some (property, value) => (CharSet.ofProperty? property value).map (·, false)
    | none => (CharSet.ofName? text).map (·, false)

/-- The text up to a closing brace, without blanks and comments. -/
def readPropertyText (flags : PatternFlags) : Nat → List Char → Option (List Char × List Char)
  | 0, _ => none
  | fuel + 1, rest =>
    match flags.skip rest with
    | '\x7d' :: rest => some ([], rest)
    | c :: rest => (readPropertyText flags fuel rest).map fun part => (c :: part.1, part.2)
    | [] => none

/-- A set by the name of a property, one letter or a text in braces. -/
def readProperty (flags : PatternFlags) (negated : Bool) (rest : List Char) :
    Option (Escape × List Char) := do
  if !flags.unicode then none
  match flags.skip rest with
  | '\x7b' :: inside =>
    let (text, rest) ← readPropertyText flags (inside.length + 1) inside
    let (set, unequal) ← propertySet? text
    let set ← flags.foldAndNegate? (negated != unequal) set
    return (.set set, rest)
  | c :: rest =>
    if c = '\\' then none
    let set ← CharSet.ofName? [c]
    let set ← flags.foldAndNegate? negated set
    return (.set set, flags.skip rest)
  | [] => none

/-- The name in the braces after `\b`, or nothing if a count must be meant. -/
def readBoundaryName (flags : PatternFlags) (rest : List Char) :
    Option (Option (String × List Char)) :=
  let isNameChar := fun c : Char => c.isAlpha || c == '-'
  match flags.skip rest with
  | [] => some none
  | c :: inside =>
    if !isNameChar c then none
    else
      let body := flags.skip (c :: inside)
      let name := body.takeWhile isNameChar
      match flags.skip (body.dropWhile isNameChar) with
      | '\x7d' :: rest => some (some (String.ofList name, rest))
      | _ => some none

/-- A boundary of words, which may be named in braces. -/
def readBoundary (flags : PatternFlags) (rest : List Char) : Option (Escape × List Char) :=
  let ascii := !flags.unicode
  match rest with
  | '\x7b' :: inside =>
    match readBoundaryName flags inside with
    | none => some (.place (.boundary ascii), rest)
    | some none => none
    | some (some (name, rest)) =>
      match name with
      | "start" => some (.place (.wordStart ascii), rest)
      | "end" => some (.place (.wordEnd ascii), rest)
      | "start-half" => some (.place (.noWordBefore ascii), rest)
      | "end-half" => some (.place (.noWordAfter ascii), rest)
      | _ => none
  | _ => some (.place (.boundary ascii), rest)

/-- What follows a backslash. -/
def readEscape (flags : PatternFlags) : List Char → Option (Escape × List Char)
  | [] => none
  | c :: rest =>
    if c = 'x' ∨ c = 'u' ∨ c = 'U' then readHex flags c rest
    else if c = 'p' ∨ c = 'P' then readProperty flags (c == 'P') rest
    else if c = 'd' ∨ c = 's' ∨ c = 'w' then some (.set (.ofLetter flags.unicode c), rest)
    else if c = 'D' ∨ c = 'S' ∨ c = 'W' then
      if flags.unicode then some (.set (CharSet.ofLetter true c.toLower).compl, rest) else none
    else if standsForItself c then some (.literal c, rest)
    else
      match c with
      | 'a' => some (.literal '\x07', rest)
      | 'f' => some (.literal '\x0c', rest)
      | 't' => some (.literal '\t', rest)
      | 'n' => some (.literal '\n', rest)
      | 'r' => some (.literal '\r', rest)
      | 'v' => some (.literal '\x0b', rest)
      | 'A' => some (.place .textStart, rest)
      | 'z' => some (.place .textEnd, rest)
      | 'b' => readBoundary flags rest
      | 'B' => some (.place (.noBoundary !flags.unicode), rest)
      | '<' => some (.place (.wordStart !flags.unicode), rest)
      | '>' => some (.place (.wordEnd !flags.unicode), rest)
      | _ => none

/-! ### Brackets -/

/-- A set that was read, and how deep brackets and lists are nested in its text. -/
structure ReadSet where
  set : CharSet
  depth : Nat

/-- How two sets are combined. -/
inductive SetOperation where
  | inter
  | diff
  | symmDiff

/-- The combination of two sets. -/
def SetOperation.apply : SetOperation → CharSet → CharSet → CharSet
  | inter => CharSet.inter
  | diff => CharSet.diff
  | symmDiff => CharSet.symmDiff

/-- One item of a set: a character, or a named set. -/
inductive SetItem where
  | literal (c : Char)
  | set (set : CharSet)

/-- One item of a set. -/
def readSetItem (flags : PatternFlags) : List Char → Option (SetItem × List Char)
  | [] => none
  | '\\' :: rest => do
    let (escape, rest) ← readEscape flags rest
    match escape with
    | .literal c => return (.literal c, rest)
    | .set set => return (.set set, rest)
    | .octet _ => none
    | .place _ => none
  | c :: rest => some (.literal c, rest)

/-- The set of a range of characters. Without Unicode its ends must be ASCII. -/
def rangeSet? (flags : PatternFlags) (first last : Char) : Option CharSet :=
  if first ≤ last ∧ (flags.unicode ∨ last.toNat < 128) then some (.range first last) else none

/-- The items of a list as one set. -/
def listSet (items : List ReadSet) : ReadSet :=
  match items with
  | [] => ⟨.empty, 0⟩
  | [item] => item
  | items => ⟨.unions (items.map (·.set)), (items.map (·.depth)).foldr max 0 + 1⟩

/-- A list of items combined with the sets to its left. -/
def combine (flags : PatternFlags) (left : Option (ReadSet × SetOperation)) (right : ReadSet) :
    ReadSet :=
  match left with
  | none => right
  | some (left, operation) =>
    ⟨operation.apply (flags.fold left.set) (flags.fold right.set), max left.depth right.depth + 1⟩

/-- A character or a range, or one named set. -/
def readRange (flags : PatternFlags) (rest : List Char) : Option (ReadSet × List Char) := do
  let (item, rest) ← readSetItem flags rest
  let alone : Option ReadSet :=
    match item with
    | .literal c => (rangeSet? flags c c).map (⟨·, 0⟩)
    | .set set => some ⟨set, 0⟩
  match flags.skip rest with
  | [] => none
  | '-' :: after =>
    if flags.peek after = some ']' ∨ flags.peek after = some '-' then
      let set ← alone
      return (set, '-' :: after)
    let (last, rest) ← readSetItem flags (flags.skip after)
    match item, last with
    | .literal first, .literal last =>
      let set ← rangeSet? flags first last
      return (⟨set, 0⟩, rest)
    | _, _ => none
  | rest =>
    let set ← alone
    return (set, rest)

/-- An ASCII set by its name between colons. -/
def readAsciiNamed (flags : PatternFlags) : List Char → Option (Option (ReadSet × List Char))
  | '[' :: ':' :: rest => do
    let (negated, rest) :=
      match rest with
      | '^' :: rest => (true, rest)
      | rest => (false, rest)
    match rest.dropWhile (· != ':') with
    | ':' :: ']' :: after =>
      let set ← CharSet.asciiNamed? (String.ofList (rest.takeWhile (· != ':')))
      return (flags.foldAndNegate? negated set).map fun set => (⟨set, 0⟩, after)
    | _ => none
  | _ => none

/-- Hyphens at the start of brackets, which stand for themselves, and how many there are. -/
def leadingHyphens (flags : PatternFlags) : Nat → List Char → Nat × List Char
  | fuel + 1, '-' :: rest =>
    let (count, rest) := leadingHyphens flags fuel (flags.skip rest)
    (count + 1, rest)
  | _, rest => (0, rest)

/-- What an opening bracket is followed by: a negation, and the characters that stand for themselves
only there. -/
def readBracketStart (flags : PatternFlags) (rest : List Char) :
    Bool × List ReadSet × List Char :=
  let rest := flags.skip rest
  let (negated, rest) :=
    match rest with
    | '^' :: rest => (true, flags.skip rest)
    | rest => (false, rest)
  let (hyphens, rest) := leadingHyphens flags rest.length rest
  let items := List.replicate hyphens ⟨.single '-', 0⟩
  match items, rest with
  | [], ']' :: rest => (negated, [⟨.single ']', 0⟩], flags.skip rest)
  | items, rest => (negated, items, rest)

mutual

/-- The set in brackets, without the opening bracket. -/
def readBrackets (flags : PatternFlags) : Nat → List Char → Option (ReadSet × List Char)
  | 0, _ => none
  | fuel + 1, rest => do
    let (negated, items, rest) := readBracketStart flags rest
    let (inside, rest) ← readSetItems flags fuel none items rest
    let set ← flags.foldAndNegate? negated inside.set
    return (⟨set, inside.depth + 1⟩, rest)

/-- The items up to the closing bracket. -/
def readSetItems (flags : PatternFlags) :
    Nat → Option (ReadSet × SetOperation) → List ReadSet → List Char → Option (ReadSet × List Char)
  | 0, _, _, _ => none
  | fuel + 1, left, items, rest =>
    match flags.skip rest with
    | [] => none
    | '[' :: inside =>
      match readAsciiNamed flags ('[' :: inside) with
      | some part => do
        let (set, rest) ← part
        readSetItems flags fuel left (items ++ [set]) rest
      | none => do
        let (set, rest) ← readBrackets flags fuel inside
        readSetItems flags fuel left (items ++ [set]) rest
    | ']' :: rest => some (combine flags left (listSet items), rest)
    | '&' :: '&' :: rest =>
      readSetItems flags fuel (some (combine flags left (listSet items), .inter)) [] rest
    | '-' :: '-' :: rest =>
      readSetItems flags fuel (some (combine flags left (listSet items), .diff)) [] rest
    | '~' :: '~' :: rest =>
      readSetItems flags fuel (some (combine flags left (listSet items), .symmDiff)) [] rest
    | rest => do
      let (set, rest) ← readRange flags rest
      readSetItems flags fuel left (items ++ [set]) rest

end

end FeatureFlags
