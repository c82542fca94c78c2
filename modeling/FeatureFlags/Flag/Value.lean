import FeatureFlags.Double.Text
import FeatureFlags.Json.Reading

/-!
**Values: as flags spell them, and as callers get them.**

A flag spells the value of a variation as a scalar and says which type its values have. A caller
gets a value of that type: a whole number of 64 bits must be spelled by a number that is one, and a
JSON document is spelled by its text.

* `VariationType`: the five types, with their names and the numbers that stand for them.
* `Scalar.toValue?`: the value of a type that a scalar spells.
* `Value.toJson`, `Value.read?`: a value as a JSON object that names its type.
-/

namespace FeatureFlags

/-! ### Types -/

/-- The type of the values of a flag. -/
inductive VariationType where
  | string
  | integer
  | numeric
  | boolean
  | json
deriving DecidableEq, Repr

namespace VariationType

/-- All types. -/
def all : List VariationType := [string, integer, numeric, boolean, json]

/-- The name of a type in documents. -/
def name : VariationType → String
  | string => "STRING"
  | integer => "INTEGER"
  | numeric => "NUMERIC"
  | boolean => "BOOLEAN"
  | json => "JSON"

/-- The name of a type in messages. -/
def word : VariationType → String
  | string => "String"
  | integer => "Integer"
  | numeric => "Numeric"
  | boolean => "Boolean"
  | json => "Json"

/-- The number that stands for a type. -/
def wireId : VariationType → Nat
  | string => 1
  | integer => 2
  | numeric => 3
  | boolean => 4
  | json => 5

/-- The type with a name. -/
def ofName? (name : String) : Option VariationType := all.find? fun type => type.name == name

/-- The type that a number stands for. -/
def ofWireId? (id : Int) : Option VariationType := all.find? fun type => (type.wireId : Int) == id

/-- A type by its name. -/
def read? (level : Nat) (document : Document) : Option VariationType := do
  let name ← document.readName? level
  ofName? name

end VariationType

/-! ### Scalars -/

/-- A value as a flag spells it. -/
inductive Scalar where
  | boolean (value : Bool)
  | number (value : Double)
  | string (value : String)
deriving DecidableEq, Repr

namespace Scalar

/-- The JSON form of a scalar. -/
def toJson : Scalar → Json
  | boolean value => .bool value
  | number value => .double value
  | string value => .string value

/-- A scalar by its JSON form. -/
def read? : Document → Option Scalar
  | .bool value => some (boolean value)
  | .number text => text.read?.map fun value => number value.toDouble
  | .string raw => (Document.stringText? raw).map string
  | _ => none

end Scalar

/-! ### Values -/

/-- A value as a caller gets it. -/
inductive Value where
  | string (value : String)
  | integer (value : Int64)
  | numeric (value : Double)
  | boolean (value : Bool)
  | json (value : Json)
deriving DecidableEq, Repr

/-- The value of a type that a scalar spells. -/
def Scalar.toValue? : VariationType → Scalar → Option Value
  | .string, .string text => some (.string text)
  | .boolean, .boolean value => some (.boolean value)
  | .numeric, .number value => some (.numeric value)
  | .integer, .number value => value.integer?.map fun whole => .integer (Int64.ofInt whole)
  | .json, .string text => (Json.readText? text).map .json
  | _, _ => none

namespace Value

/-- The type of a value. -/
def type : Value → VariationType
  | string _ => .string
  | integer _ => .integer
  | numeric _ => .numeric
  | boolean _ => .boolean
  | json _ => .json

/-- The text of a text. -/
def text? : Value → Option String
  | string value => some value
  | _ => none

/-- The number of a whole number. -/
def integer? : Value → Option Int64
  | integer value => some value
  | _ => none

/-- The number of a double. -/
def numeric? : Value → Option Double
  | numeric value => some value
  | _ => none

/-- The truth value of a truth value. -/
def boolean? : Value → Option Bool
  | boolean value => some value
  | _ => none

/-- The document of a document. -/
def json? : Value → Option Json
  | json value => some value
  | _ => none

/-- A value as JSON, without its type. -/
def content : Value → Json
  | string value => .string value
  | integer value => .int value.toInt
  | numeric value => .double value
  | boolean value => .bool value
  | json value => value

/-- A value as a JSON object that names its type. -/
def toJson (value : Value) : Json :=
  .object [("type", .string value.type.name), ("value", value.content)]

/-- A value of a type, without the name of its type. -/
def readContent? (type : VariationType) (level : Nat) (document : Document) : Option Value :=
  match type with
  | .string => document.readString?.map string
  | .integer => document.readInteger?.map integer
  | .numeric => document.readDouble?.map numeric
  | .boolean => document.readBool?.map boolean
  | .json => (document.toJson? level).map json

/-- A value as an object that names its type, or as the type and the value in an array. -/
def read? (level : Nat) (document : Document) : Option Value := do
  let record ← document.readRecord? ["type", "value"] level
  let type ← record.require "type" VariationType.read?
  record.require "value" (readContent? type)

end Value

end FeatureFlags
