import FeatureFlags.Dict
import FeatureFlags.Json.Value

/-!
**Reading typed values out of a document.**

A reader takes a document, and for a document that may hold others the number of containers around
it, and gives a value or nothing. A record is written as an object, whose unknown members are passed
over unread and whose known members may each appear once, or as an array of its fields in their
declared order, from which trailing fields may be missing.

* `Document.readRecord?`, `Record.require`, `Record.optional`: records.
* `Document.readName?`: a name without data, plain or as the only key of an object that maps it to
  null.
* `Document.readList?`, `Document.readDict?`: lists and maps.
-/

namespace FeatureFlags

namespace Document

variable {α : Type}

/-! ### Scalars -/

/-- The text of a string. -/
def readString? : Document → Option String
  | .string raw => stringText? raw
  | _ => none

/-- A truth value. -/
def readBool? : Document → Option Bool
  | .bool value => some value
  | _ => none

/-- A number in range. -/
def readNumber? : Document → Option Number
  | .number text => text.read?
  | _ => none

/-- A number as a double. -/
def readDouble? (document : Document) : Option Double :=
  document.readNumber?.map Number.toDouble

/-- A whole number of 64 signed bits. -/
def readInteger? (document : Document) : Option Int64 := do
  let number ← document.readNumber?
  number.integer?.map Int64.ofInt

/-- A whole number of 32 unsigned bits. -/
def readWord? (document : Document) : Option UInt32 := do
  match ← document.readNumber? with
  | .whole value =>
    if 0 ≤ value ∧ value < 4294967296 then some (UInt32.ofNat value.toNat) else none
  | .float _ => none

/-- A value that may be null. -/
def readNullable? (read : Document → Option α) : Document → Option (Option α)
  | .null => some none
  | document => (read document).map some

/-! ### Containers -/

/-- The items of an array. -/
def readList? (level : Nat) (read : Nat → Document → Option α) : Document → Option (List α)
  | .array items => if level < nestingLimit then items.mapM (read (level + 1)) else none
  | _ => none

/-- The members of an object as a map; of several members with one key the last stays. -/
def readDict? (level : Nat) (read : Nat → Document → Option α) : Document → Option (Dict α)
  | .object members =>
    if level < nestingLimit then do
      let entries ← members.mapM fun member => do
        let key ← stringText? member.1
        let value ← read (level + 1) member.2
        return (key, value)
      return Dict.ofList entries
    else none
  | _ => none

/-- A name without data. -/
def readName? (level : Nat) : Document → Option String
  | .string raw => stringText? raw
  | .object [(key, .null)] => if level < nestingLimit then stringText? key else none
  | _ => none

end Document

/-! ### Records -/

/-- The fields of a record that a document gives, and how many containers lie around them. -/
structure Record where
  level : Nat
  fields : List (String × Document)

namespace Document

/-- The members of an object whose keys are known, under their field names; none if a key is no
text or a field appears twice. -/
def knownMembers? (fieldOf : String → Option String) :
    List (Octets × Document) → Option (List (String × Document))
  | [] => some []
  | (key, value) :: rest => do
    let key ← stringText? key
    let known ← knownMembers? fieldOf rest
    match fieldOf key with
    | none => some known
    | some field =>
      if (known.lookup field).isSome then none else some ((field, value) :: known)

/-- A record with given field names, in which a field may have a second name. -/
def readRecordWith? (fieldOf : String → Option String) (names : List String) (level : Nat)
    (document : Document) : Option Record :=
  if level < nestingLimit then
    match document with
    | .object members => (knownMembers? fieldOf members).map fun known => ⟨level + 1, known⟩
    | .array items =>
      if items.length ≤ names.length then some ⟨level + 1, names.zip items⟩ else none
    | _ => none
  else none

/-- A record with given field names. -/
def readRecord? (names : List String) (level : Nat) (document : Document) : Option Record :=
  readRecordWith? (fun key => if names.contains key then some key else none) names level document

end Document

namespace Record

variable {α : Type}

/-- The value of a field that must be there. -/
def require (record : Record) (name : String) (read : Nat → Document → Option α) : Option α := do
  let document ← record.fields.lookup name
  read record.level document

/-- The value of a field, or a default without it. -/
def optional (record : Record) (name : String) (default : α) (read : Nat → Document → Option α) :
    Option α :=
  match record.fields.lookup name with
  | none => some default
  | some document => read record.level document

/-- The value of a field that may be missing or null. -/
def nullable (record : Record) (name : String) (read : Nat → Document → Option α) :
    Option (Option α) :=
  record.optional name none fun level => Document.readNullable? (read level)

end Record

end FeatureFlags
