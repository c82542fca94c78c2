import FeatureFlags.Flag.Basic
import FeatureFlags.Instant.Text

/-!
**The JSON form of flags.**

Every part of a flag is a record with fixed field names. Readers pass over members with other names,
fill in what may be left out, and refuse what has the wrong shape.

* `Flag.read?`, `Flag.readText?`: a flag by its JSON form.
* `Flag.toJson`: the JSON form of a flag.
-/

namespace FeatureFlags

/-! ### Instants and environments -/

/-- An instant by its text. -/
def Instant.read? (document : Document) : Option Instant := do
  let text ← document.readString?
  Instant.ofText? text

/-- The JSON form of an instant. -/
def Instant.toJson (instant : Instant) : Json := .string instant.text

/-- The JSON form of what may be missing. -/
def nullOr {α : Type} (toJson : α → Json) (value : Option α) : Json := (value.map toJson).getD .null

/-- The JSON form of a map. -/
def Dict.toJson {α : Type} (toJson : α → Json) (dict : Dict α) : Json :=
  .object (dict.entries.map fun entry => (entry.1, toJson entry.2))

namespace Environment

/-- An environment by its JSON form. -/
def read? (level : Nat) (document : Document) : Option Environment := do
  let record ← document.readRecord? ["name"] level
  let name ← record.require "name" fun _ => Document.readString?
  return ⟨name⟩

/-- The JSON form of an environment. -/
def toJson (environment : Environment) : Json := .object [("name", .string environment.name)]

end Environment

/-! ### Targeting -/

namespace ConditionValue

/-- What an attribute is compared with, by its JSON form. -/
def read? (level : Nat) (document : Document) : Option ConditionValue :=
  match Scalar.read? document with
  | some value => some (single value)
  | none => (document.readList? level fun _ => Document.readString?).map multiple

/-- The JSON form of what an attribute is compared with. -/
def toJson : ConditionValue → Json
  | single value => value.toJson
  | multiple values => .array (values.map .string)

end ConditionValue

namespace Condition

/-- A condition by its JSON form. -/
def read? (level : Nat) (document : Document) : Option Condition := do
  let record ← document.readRecord? ["operator", "attribute", "value"] level
  let operator ← record.require "operator" fun _ => Document.readString?
  let attributeName ← record.require "attribute" fun _ => Document.readString?
  let value ← record.require "value" ConditionValue.read?
  return ⟨.ofName operator, attributeName, value⟩

/-- The JSON form of a condition. -/
def toJson (condition : Condition) : Json :=
  .object
    [("operator", .string condition.operator.name), ("attribute", .string condition.attributeName),
      ("value", condition.value.toJson)]

end Condition

namespace Rule

/-- A rule by its JSON form. -/
def read? (level : Nat) (document : Document) : Option Rule := do
  let record ← document.readRecord? ["conditions"] level
  let conditions ← record.require "conditions" fun level =>
    Document.readList? level Condition.read?
  return ⟨conditions⟩

/-- The JSON form of a rule. -/
def toJson (rule : Rule) : Json :=
  .object [("conditions", .array (rule.conditions.map Condition.toJson))]

end Rule

/-! ### Serving -/

namespace ShardRange

/-- A range of shards by its JSON form. -/
def read? (level : Nat) (document : Document) : Option ShardRange := do
  let record ← document.readRecord? ["start", "end"] level
  let start ← record.require "start" fun _ => Document.readWord?
  let stop ← record.require "end" fun _ => Document.readWord?
  return ⟨start, stop⟩

/-- The JSON form of a range of shards. -/
def toJson (range : ShardRange) : Json :=
  .object [("start", .int range.start.toNat), ("end", .int range.stop.toNat)]

end ShardRange

namespace Shard

/-- Shards by their JSON form. -/
def read? (level : Nat) (document : Document) : Option Shard := do
  let record ← document.readRecord? ["salt", "ranges"] level
  let salt ← record.require "salt" fun _ => Document.readString?
  let ranges ← record.require "ranges" fun level => Document.readList? level ShardRange.read?
  return ⟨salt, ranges⟩

/-- The JSON form of shards. -/
def toJson (shard : Shard) : Json :=
  .object
    [("salt", .string shard.salt), ("ranges", .array (shard.ranges.map ShardRange.toJson))]

end Shard

namespace Split

/-- A split by its JSON form. -/
def read? (level : Nat) (document : Document) : Option Split := do
  let record ← document.readRecord? ["shards", "variationKey", "extraLogging"] level
  let shards ← record.optional "shards" [] fun level => Document.readList? level Shard.read?
  let variationKey ← record.require "variationKey" fun _ => Document.readString?
  let extraLogging ← record.optional "extraLogging" Dict.empty fun level =>
    Document.readDict? level fun _ => Document.readString?
  return ⟨shards, variationKey, extraLogging⟩

/-- The JSON form of a split. -/
def toJson (split : Split) : Json :=
  .object
    [("shards", .array (split.shards.map Shard.toJson)),
      ("variationKey", .string split.variationKey),
      ("extraLogging", split.extraLogging.toJson .string)]

end Split

namespace Allocation

/-- An allocation by its JSON form. -/
def read? (level : Nat) (document : Document) : Option Allocation := do
  let record ←
    document.readRecord? ["key", "rules", "startAt", "endAt", "splits", "doLog"] level
  let key ← record.require "key" fun _ => Document.readString?
  let rules ← record.optional "rules" [] fun level => Document.readList? level Rule.read?
  let startAt ← record.nullable "startAt" fun _ => Instant.read?
  let endAt ← record.nullable "endAt" fun _ => Instant.read?
  let splits ← record.require "splits" fun level => Document.readList? level Split.read?
  let doLog ← record.optional "doLog" true fun _ => Document.readBool?
  return ⟨key, rules, startAt, endAt, splits, doLog⟩

/-- The JSON form of an allocation. -/
def toJson (allocation : Allocation) : Json :=
  .object
    [("key", .string allocation.key), ("rules", .array (allocation.rules.map Rule.toJson)),
      ("startAt", nullOr Instant.toJson allocation.startAt),
      ("endAt", nullOr Instant.toJson allocation.endAt),
      ("splits", .array (allocation.splits.map Split.toJson)), ("doLog", .bool allocation.doLog)]

end Allocation

namespace Variation

/-- A variation by its JSON form. -/
def read? (level : Nat) (document : Document) : Option Variation := do
  let record ← document.readRecord? ["key", "value"] level
  let key ← record.require "key" fun _ => Document.readString?
  let value ← record.require "value" fun _ => Scalar.read?
  return ⟨key, value⟩

/-- The JSON form of a variation. -/
def toJson (variation : Variation) : Json :=
  .object [("key", .string variation.key), ("value", variation.value.toJson)]

end Variation

/-! ### Flags -/

namespace Flag

/-- The names of the fields of a flag. -/
def fieldNames : List String :=
  ["key", "enabled", "variationType", "variations", "allocations", "totalShards", "entityId"]

/-- A flag by its JSON form. -/
def read? (level : Nat) (document : Document) : Option Flag := do
  let record ← document.readRecord? fieldNames level
  let key ← record.require "key" fun _ => Document.readString?
  let enabled ← record.require "enabled" fun _ => Document.readBool?
  let variationType ← record.require "variationType" VariationType.read?
  let variations ← record.require "variations" fun level =>
    Document.readDict? level Variation.read?
  let allocations ← record.require "allocations" fun level =>
    Document.readList? level Allocation.read?
  let totalShards ← record.require "totalShards" fun _ => Document.readWord?
  let entityId ← record.nullable "entityId" fun _ => Document.readInteger?
  return ⟨key, enabled, variationType, variations, allocations, totalShards, entityId⟩

/-- A flag by the text of its JSON form. -/
def readText? (text : String) : Option Flag := do
  let document ← Document.read? (octetsOf text)
  read? 0 document

/-- The JSON form of a flag; the identity of an entity is left out where there is none. -/
def toJson (flag : Flag) : Json :=
  .object
    ([("key", .string flag.key), ("enabled", .bool flag.enabled),
      ("variationType", .string flag.variationType.name),
      ("variations", flag.variations.toJson Variation.toJson),
      ("allocations", .array (flag.allocations.map Allocation.toJson)),
      ("totalShards", .int flag.totalShards.toNat)] ++
      (flag.entityId.map fun id => ("entityId", Json.int id.toInt)).toList)

end Flag

end FeatureFlags
