import FeatureFlags.Json.Number

/-!
**JSON values, with their meaning decided.**

`Document.toJson?` reads a whole document as a value: strings must be UTF-8 without lone surrogates,
numbers must be in range, and containers may be nested 127 deep. The members of an object that was
read stand in the order of their keys, and of several members with one key the last stays. An object
whose first key is `Document.textKey` has no other member and stands for the value that its string
spells. Objects that the library itself builds keep the order in which their members are given.

* `Json.read?`, `Json.readText?`: the value that octets or a text spell.
* `Json.render`: the text of a value, without blanks.
-/

namespace FeatureFlags

/-- A JSON value. -/
inductive Json where
  | null
  | bool (value : Bool)
  | number (value : Number)
  | string (value : String)
  | array (items : List Json)
  | object (members : List (String × Json))
deriving Repr, Inhabited

/-! ### Strings -/

namespace Document

/-- The character that a letter after a backslash stands for. -/
def shortEscape? : Char → Option Char
  | '"' => some '"'
  | '\\' => some '\\'
  | '/' => some '/'
  | 'b' => some '\x08'
  | 'f' => some '\x0c'
  | 'n' => some '\n'
  | 'r' => some '\r'
  | 't' => some '\t'
  | _ => none

/-- The value of a hexadecimal digit. -/
def hexDigitValue (c : Char) : Nat :=
  if c ≤ '9' then c.toNat - '0'.toNat
  else if c ≤ 'F' then c.toNat - 'A'.toNat + 10
  else c.toNat - 'a'.toNat + 10

/-- The number that four hexadecimal digits spell. -/
def hexValue (a b c d : Char) : Nat :=
  ((hexDigitValue a * 16 + hexDigitValue b) * 16 + hexDigitValue c) * 16 + hexDigitValue d

/-- The characters of a string with its escapes resolved. Surrogates must come in pairs. -/
def unescape? : List Char → Option (List Char)
  | [] => some []
  | '\\' :: 'u' :: a :: b :: c :: d :: rest =>
    let unit := hexValue a b c d
    if 0xDC00 ≤ unit ∧ unit ≤ 0xDFFF then none
    else if 0xD800 ≤ unit ∧ unit ≤ 0xDBFF then
      match rest with
      | '\\' :: 'u' :: e :: f :: g :: h :: rest =>
        let low := hexValue e f g h
        if 0xDC00 ≤ low ∧ low ≤ 0xDFFF then
          (unescape? rest).map
            (Char.ofNat (0x10000 + (unit - 0xD800) * 0x400 + (low - 0xDC00)) :: ·)
        else none
      | _ => none
    else (unescape? rest).map (Char.ofNat unit :: ·)
  | '\\' :: kind :: rest => do
    let c ← shortEscape? kind
    let tail ← unescape? rest
    return c :: tail
  | c :: rest => (unescape? rest).map (c :: ·)

/-- The text of a string, given the octets between its quotes. -/
def stringText? (raw : Octets) : Option String := do
  let text ← raw.text?
  let characters ← unescape? text.toList
  return String.ofList characters

/-! ### Values -/

/-- How many containers may lie around a value that is itself a container. -/
def nestingLimit : Nat := 127

/-- A member put into its place among members in the order of their keys, in the stead of one with
the same key. -/
def placeMember (key : String) (value : Json) : List (String × Json) → List (String × Json)
  | [] => [(key, value)]
  | (other, old) :: rest =>
    if key < other then (key, value) :: (other, old) :: rest
    else if key = other then (key, value) :: rest
    else (other, old) :: placeMember key value rest

/-- The first key of an object that stands for the value spelled by its string. -/
def textKey : String := "$serde_json::private::RawValue"

mutual

/-- The value of a document that lies inside of `level` containers, given what reads the texts of
values. -/
def toJsonWith? (readText : String → Option Json) (level : Nat) : Document → Option Json
  | .null => some .null
  | .bool value => some (.bool value)
  | .number text => text.read?.map .number
  | .string raw => (stringText? raw).map .string
  | .array items =>
    if level < nestingLimit then (itemsToJson? readText (level + 1) items).map .array else none
  | .object members =>
    if level < nestingLimit then
      if members.head?.bind (stringText? ·.1) = some textKey then
        match members with
        | [(_, .string raw)] => (stringText? raw).bind readText
        | _ => none
      else
        (membersToJson? readText (level + 1) members).map fun pairs =>
          .object (pairs.foldl (fun sorted pair => placeMember pair.1 pair.2 sorted) [])
    else none

/-- The values of the items of an array. -/
def itemsToJson? (readText : String → Option Json) (level : Nat) :
    List Document → Option (List Json)
  | [] => some []
  | item :: rest => do
    let value ← item.toJsonWith? readText level
    let values ← itemsToJson? readText level rest
    return value :: values

/-- The keys and values of an object, as they are written. -/
def membersToJson? (readText : String → Option Json) (level : Nat) :
    List (Octets × Document) → Option (List (String × Json))
  | [] => some []
  | (key, value) :: rest => do
    let key ← stringText? key
    let value ← value.toJsonWith? readText level
    let pairs ← membersToJson? readText level rest
    return (key, value) :: pairs

end

/-- The value that a text spells, where texts of values may be nested to a given depth. -/
def textToJson? : Nat → String → Option Json
  | 0, _ => none
  | depth + 1, text =>
    (read? (octetsOf text)).bind (toJsonWith? (textToJson? depth) 0)

/-- The value of a document that lies inside of `level` containers. A text is shorter than the one
around it, so texts of values are nested less deep than the text has characters. -/
def toJson? (level : Nat) (document : Document) : Option Json :=
  document.toJsonWith? (fun text => textToJson? (text.length + 1) text) level

end Document

namespace Json

mutual

/-- Whether no object in a value begins with the key that is kept for texts. -/
def isLiteral : Json → Bool
  | .array items => itemsAreLiteral items
  | .object members =>
    (members.head?.map Prod.fst != some Document.textKey) && membersAreLiteral members
  | _ => true

/-- `isLiteral` for each item. -/
def itemsAreLiteral : List Json → Bool
  | [] => true
  | item :: rest => item.isLiteral && itemsAreLiteral rest

/-- `isLiteral` for the value of each member. -/
def membersAreLiteral : List (String × Json) → Bool
  | [] => true
  | (_, value) :: rest => value.isLiteral && membersAreLiteral rest

end

/-- The value that octets spell. -/
def read? (input : Octets) : Option Json := do
  let document ← Document.read? input
  document.toJson? 0

/-- The value that a text spells. -/
def readText? (text : String) : Option Json := read? (octetsOf text)

/-! ### Equality -/

mutual

/-- Whether two values are the same, member for member. -/
def same : Json → Json → Bool
  | .null, .null => true
  | .bool a, .bool b => a == b
  | .number a, .number b => a == b
  | .string a, .string b => a == b
  | .array a, .array b => sameItems a b
  | .object a, .object b => sameMembers a b
  | _, _ => false

/-- `same` item by item. -/
def sameItems : List Json → List Json → Bool
  | [], [] => true
  | a :: as, b :: bs => a.same b && sameItems as bs
  | _, _ => false

/-- `same` member by member. -/
def sameMembers : List (String × Json) → List (String × Json) → Bool
  | [], [] => true
  | (k, a) :: as, (l, b) :: bs => k == l && a.same b && sameMembers as bs
  | _, _ => false

end

mutual

/-- `same` decides equality. -/
theorem same_iff : ∀ a b : Json, a.same b = true ↔ a = b
  | .null, b => by cases b <;> simp [same]
  | .bool _, b => by cases b <;> simp [same]
  | .number _, b => by cases b <;> simp [same]
  | .string _, b => by cases b <;> simp [same]
  | .array items, b => by cases b <;> simp [same, sameItems_iff items]
  | .object members, b => by cases b <;> simp [same, sameMembers_iff members]

/-- `sameItems` decides equality. -/
theorem sameItems_iff : ∀ as bs : List Json, sameItems as bs = true ↔ as = bs
  | [], bs => by cases bs <;> simp [sameItems]
  | a :: as, bs => by cases bs <;> simp [sameItems, same_iff a, sameItems_iff as]

/-- `sameMembers` decides equality. -/
theorem sameMembers_iff : ∀ as bs : List (String × Json), sameMembers as bs = true ↔ as = bs
  | [], bs => by cases bs <;> simp [sameMembers]
  | (k, a) :: as, bs => by
    cases bs with
    | nil => simp [sameMembers]
    | cons b bs => simp [sameMembers, same_iff a, sameMembers_iff as, Prod.ext_iff]

end

instance : DecidableEq Json := fun a b => decidable_of_iff _ (same_iff a b)

/-! ### Text -/

/-- A character inside of quotes: what cannot stand for itself is escaped, in the short form where
there is one. -/
def escapeChar (c : Char) : List Char :=
  match c with
  | '"' => ['\\', '"']
  | '\\' => ['\\', '\\']
  | '\x08' => ['\\', 'b']
  | '\x0c' => ['\\', 'f']
  | '\n' => ['\\', 'n']
  | '\r' => ['\\', 'r']
  | '\t' => ['\\', 't']
  | c =>
    if c.toNat < 32 then
      ['\\', 'u', '0', '0', Nat.digitChar (c.toNat / 16), Nat.digitChar (c.toNat % 16)]
    else [c]

/-- A text in quotes. -/
def quote (text : String) : String :=
  String.ofList ('"' :: (text.toList.flatMap escapeChar ++ ['"']))

mutual

/-- The text of a value, without blanks. A number that is not finite is written as `null`. -/
def render : Json → String
  | .null => "null"
  | .bool true => "true"
  | .bool false => "false"
  | .number value => value.text?.getD "null"
  | .string value => quote value
  | .array items => "[" ++ renderItems items ++ "]"
  | .object members => "\x7b" ++ renderMembers members ++ "\x7d"

/-- The texts of items with commas between them. -/
def renderItems : List Json → String
  | [] => ""
  | [item] => item.render
  | item :: rest => item.render ++ "," ++ renderItems rest

/-- The texts of members with commas between them. -/
def renderMembers : List (String × Json) → String
  | [] => ""
  | [(key, value)] => quote key ++ ":" ++ value.render
  | (key, value) :: rest => quote key ++ ":" ++ value.render ++ "," ++ renderMembers rest

end

/-- The octets of the text of a value. -/
def toOctets (value : Json) : Octets := octetsOf value.render

/-- A whole number as a value. -/
def int (value : Int) : Json := .number (.whole value)

/-- A double as a value. -/
def double (value : Double) : Json := .number (.float value)

/-- A text as a value, or null without one. -/
def text? (text : Option String) : Json := (text.map Json.string).getD .null

/-- The object in which of several members with one key the last stays. -/
def objectOf (members : List (String × Json)) : Json :=
  .object (members.foldl (fun sorted pair => Document.placeMember pair.1 pair.2 sorted) [])

end Json

end FeatureFlags
