import FeatureFlags.Text.Octets

/-!
**JSON documents, read by the grammar alone.**

Reading a document decides where each value begins and ends and nothing else: a string keeps the
octets between its quotes, a number keeps its digits, nesting is not limited, and the members of an
object stay in order with their duplicates. What a document means is decided later and only for the
parts that somebody asks for, so a part that nobody asks for may hold text that is not UTF-8, a
number that is too large for any type, or any depth of brackets.

* `Document.read?`: the document that octets spell.
* `Document.isText`: whether every string of a document is well-formed UTF-8.
-/

namespace FeatureFlags

/-- The parts of a number as they are written. Digits are their values. -/
structure NumberText where
  negative : Bool
  whole : List Nat
  fraction : Option (List Nat)
  /-- Whether the exponent is negative, and its digits. -/
  exponent : Option (Bool × List Nat)
deriving DecidableEq, Repr

/-- A JSON value by its grammar. -/
inductive Document where
  | null
  | bool (value : Bool)
  | number (text : NumberText)
  | string (raw : Octets)
  | array (items : List Document)
  | object (members : List (Octets × Document))
deriving Repr, Inhabited

namespace Document

/-! ### Tokens -/

/-- Space, tab, line feed and carriage return may stand between tokens. -/
def isBlank (octet : UInt8) : Bool := octet == 32 || octet == 9 || octet == 10 || octet == 13

/-- What follows the blanks. -/
def skipBlanks (input : Octets) : Octets := input.dropWhile isBlank

/-- Whether an octet is a decimal digit. -/
def isDigit (octet : UInt8) : Bool := decide (48 ≤ octet ∧ octet ≤ 57)

/-- Whether an octet is a hexadecimal digit. -/
def isHexDigit (octet : UInt8) : Bool :=
  isDigit octet || decide (65 ≤ octet ∧ octet ≤ 70) || decide (97 ≤ octet ∧ octet ≤ 102)

/-- The octets that may follow a backslash on their own. -/
def shortEscapes : List UInt8 := [34, 92, 47, 98, 102, 110, 114, 116]

/-- The octets of a string up to its closing quote, and what follows the quote. Control characters
must be escaped, and an escape must be complete. -/
def takeString : Octets → Option (Octets × Octets)
  | [] => none
  | octet :: rest =>
    if octet = 34 then some ([], rest)
    else if octet = 92 then
      match rest with
      | [] => none
      | kind :: rest =>
        if shortEscapes.contains kind then
          (takeString rest).map fun (raw, after) => (octet :: kind :: raw, after)
        else if kind = 117 then
          match rest with
          | h₁ :: h₂ :: h₃ :: h₄ :: rest =>
            if [h₁, h₂, h₃, h₄].all isHexDigit then
              (takeString rest).map fun (raw, after) =>
                (octet :: kind :: h₁ :: h₂ :: h₃ :: h₄ :: raw, after)
            else none
          | _ => none
        else none
    else if octet < 32 then none
    else (takeString rest).map fun (raw, after) => (octet :: raw, after)

/-- The leading digits, as values, and what follows them. -/
def takeDigits (input : Octets) : List Nat × Octets :=
  ((input.takeWhile isDigit).map fun octet => octet.toNat - 48, input.dropWhile isDigit)

/-- The digits before the point: a lone zero, or digits that do not begin with zero. -/
def takeWhole (input : Octets) : Option (List Nat × Octets) :=
  match takeDigits input with
  | ([], _) => none
  | ([0], rest) => some ([0], rest)
  | (0 :: _, _) => none
  | (digits, rest) => some (digits, rest)

/-- The fraction after a point, which has at least one digit. -/
def takeFraction (input : Octets) : Option (Option (List Nat) × Octets) :=
  match input with
  | 46 :: rest =>
    match takeDigits rest with
    | ([], _) => none
    | (digits, rest) => some (some digits, rest)
  | _ => some (none, input)

/-- The exponent after its mark and sign, which has at least one digit. -/
def takeExponent (input : Octets) : Option (Option (Bool × List Nat) × Octets) :=
  match input with
  | octet :: rest =>
    if octet = 101 ∨ octet = 69 then
      let (negative, rest) :=
        match rest with
        | 43 :: rest => (false, rest)
        | 45 :: rest => (true, rest)
        | _ => (false, rest)
      match takeDigits rest with
      | ([], _) => none
      | (digits, rest) => some (some (negative, digits), rest)
    else some (none, input)
  | [] => some (none, input)

/-- A number and what follows it. -/
def takeNumber (input : Octets) : Option (NumberText × Octets) := do
  let (negative, rest) :=
    match input with
    | 45 :: rest => (true, rest)
    | _ => (false, input)
  let (whole, rest) ← takeWhole rest
  let (fraction, rest) ← takeFraction rest
  let (exponent, rest) ← takeExponent rest
  return (⟨negative, whole, fraction, exponent⟩, rest)

/-- What follows a word, if the input begins with it. -/
def takeWord (word : Octets) (input : Octets) : Option Octets :=
  if word.isPrefixOf input then some (input.drop word.length) else none

/-! ### Values -/

mutual

/-- The value at the beginning of the input, and what follows it. -/
def takeValue : Nat → Octets → Option (Document × Octets)
  | 0, _ => none
  | fuel + 1, input =>
    match input with
    | [] => none
    | octet :: rest =>
      if octet = 34 then (takeString rest).map fun (raw, after) => (.string raw, after)
      else if octet = 91 then
        match skipBlanks rest with
        | 93 :: after => some (.array [], after)
        | inside => (takeItems fuel inside).map fun (items, after) => (.array items, after)
      else if octet = 123 then
        match skipBlanks rest with
        | 125 :: after => some (.object [], after)
        | inside => (takeMembers fuel inside).map fun (members, after) => (.object members, after)
      else if octet = 110 then (takeWord [117, 108, 108] rest).map fun after => (.null, after)
      else if octet = 116 then
        (takeWord [114, 117, 101] rest).map fun after => (.bool true, after)
      else if octet = 102 then
        (takeWord [97, 108, 115, 101] rest).map fun after => (.bool false, after)
      else (takeNumber input).map fun (text, after) => (.number text, after)

/-- The items of an array that is not empty, up to its closing bracket. -/
def takeItems : Nat → Octets → Option (List Document × Octets)
  | 0, _ => none
  | fuel + 1, input => do
    let (item, rest) ← takeValue fuel input
    match skipBlanks rest with
    | 44 :: rest =>
      let (items, after) ← takeItems fuel (skipBlanks rest)
      return (item :: items, after)
    | 93 :: after => return ([item], after)
    | _ => none

/-- The members of an object that is not empty, up to its closing brace. -/
def takeMembers : Nat → Octets → Option (List (Octets × Document) × Octets)
  | 0, _ => none
  | fuel + 1, input =>
    match input with
    | 34 :: rest => do
      let (key, rest) ← takeString rest
      match skipBlanks rest with
      | 58 :: rest =>
        let (value, rest) ← takeValue fuel (skipBlanks rest)
        match skipBlanks rest with
        | 44 :: rest =>
          let (members, after) ← takeMembers fuel (skipBlanks rest)
          return ((key, value) :: members, after)
        | 125 :: after => return ([(key, value)], after)
        | _ => none
      | _ => none
    | _ => none

end

/-- The document that octets spell, with blanks around it. -/
def read? (input : Octets) : Option Document :=
  match takeValue (2 * input.length + 2) (skipBlanks input) with
  | some (document, rest) => if (skipBlanks rest).isEmpty then some document else none
  | none => none

/-! ### Strings in UTF-8 -/

mutual

/-- Whether every string of a document, keys included, is well-formed UTF-8. -/
def isText : Document → Bool
  | .string raw => raw.text?.isSome
  | .array items => areText items
  | .object members => membersAreText members
  | _ => true

/-- `isText` for each item. -/
def areText : List Document → Bool
  | [] => true
  | item :: rest => item.isText && areText rest

/-- `isText` for each key and value. -/
def membersAreText : List (Octets × Document) → Bool
  | [] => true
  | (key, value) :: rest => key.text?.isSome && value.isText && membersAreText rest

end

end Document

end FeatureFlags
