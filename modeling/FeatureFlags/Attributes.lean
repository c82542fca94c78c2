import FeatureFlags.Flag.Json

/-!
**What is known about a subject.**

* `Attributes`: the named attributes of a subject, with `AttributeValue.compare?` as their order.
* `ContextAttributes`: the same attributes, the numbers apart from the categories.
-/

namespace FeatureFlags

/-! ### Attributes -/

/-- The value of an attribute. -/
inductive AttributeValue where
  | string (value : String)
  | number (value : Double)
  | boolean (value : Bool)
  | null
deriving DecidableEq, Repr

/-- The attributes of a subject by their names. -/
abbrev Attributes := Dict AttributeValue

namespace AttributeValue

/-- The place of a kind of value among the kinds. -/
def kind : AttributeValue → Nat
  | string _ => 0
  | number _ => 1
  | boolean _ => 2
  | null => 3

/-- The order of two values: texts come first, then numbers, then truth values, then null. What is
not a number has no place among the numbers. -/
def compare? (a b : AttributeValue) : Option Ordering :=
  match a, b with
  | string a, string b => some (compare a b)
  | number a, number b => a.compare? b
  | boolean a, boolean b => some (compare a b)
  | a, b => some (compare a.kind b.kind)

/-- Whether two values are equal; numbers are equal as numbers. -/
def eq (a b : AttributeValue) : Bool := a.compare? b == some .eq

/-- The text of a text. -/
def text? : AttributeValue → Option String
  | string value => some value
  | _ => none

/-- A value by its JSON form. -/
def read? : Document → Option AttributeValue
  | .null => some null
  | .bool value => some (boolean value)
  | .number text => text.read?.map fun value => number value.toDouble
  | .string raw => (Document.stringText? raw).map string
  | _ => none

/-- The JSON form of a value. -/
def toJson : AttributeValue → Json
  | string value => .string value
  | number value => .double value
  | boolean value => .bool value
  | null => .null

end AttributeValue

/-- The texts of truth values. -/
def boolText (value : Bool) : String := if value then "true" else "false"

namespace Attributes

/-- Attributes by their JSON form. -/
def read? (level : Nat) (document : Document) : Option Attributes :=
  document.readDict? level fun _ => AttributeValue.read?

/-- The JSON form of attributes. -/
def toJson (attributes : Attributes) : Json := Dict.toJson AttributeValue.toJson attributes

/-- The attributes with the subject's key as the attribute `id`, unless there is one. -/
def withId (attributes : Attributes) (subjectKey : String) : Attributes :=
  if attributes.contains "id" then attributes else attributes.insert "id" (.string subjectKey)

end Attributes

/-! ### Numbers and categories -/

/-- Attributes, the numbers apart from the categories. -/
structure ContextAttributes where
  numeric : Dict Double
  categorical : Dict String
deriving DecidableEq, Repr

namespace ContextAttributes

/-- The field that a name stands for; either field has a short name. -/
def fieldOf (name : String) : Option String :=
  match name with
  | "numericAttributes" | "numeric" => some "numericAttributes"
  | "categoricalAttributes" | "categorical" => some "categoricalAttributes"
  | _ => none

/-- Attributes apart, by their JSON form. -/
def read? (level : Nat) (document : Document) : Option ContextAttributes := do
  let record ←
    document.readRecordWith? fieldOf ["numericAttributes", "categoricalAttributes"] level
  let numeric ← record.optional "numericAttributes" Dict.empty fun level =>
    Document.readDict? level fun _ => Document.readDouble?
  let categorical ← record.optional "categoricalAttributes" Dict.empty fun level =>
    Document.readDict? level fun _ => Document.readString?
  return ⟨numeric, categorical⟩

/-- The JSON form of attributes apart. -/
def toJson (context : ContextAttributes) : Json :=
  .object
    [("numericAttributes", context.numeric.toJson .double),
      ("categoricalAttributes", context.categorical.toJson .string)]

/-- Attributes, the numbers apart from the categories. Truth values are categories, and what is null
is left out. -/
def ofAttributes (attributes : Attributes) : ContextAttributes where
  numeric := Dict.ofList (attributes.entries.filterMap fun entry =>
    match entry.2 with
    | .number value => some (entry.1, value)
    | _ => none)
  categorical := Dict.ofList (attributes.entries.filterMap fun entry =>
    match entry.2 with
    | .string value => some (entry.1, value)
    | .boolean value => some (entry.1, boolText value)
    | _ => none)

end ContextAttributes

end FeatureFlags
