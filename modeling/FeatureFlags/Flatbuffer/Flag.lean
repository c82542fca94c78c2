import FeatureFlags.Flatbuffer.Schema
import FeatureFlags.Protobuf.Flag

/-!
**Flags in a buffer of tables.**

The slots of every kind of table are numbered here once for the schema and for the readers. A table
makes a flag if its type is known, what a flag cannot do without is there, and its instants are on
the calendar; entries of extra logging that lack a key or a value are passed over.

* `configSlots`: the schema of a configuration.
* `Buffer.flag`: the flag that a table makes, or why it makes none.
-/

namespace FeatureFlags

/-! ### Schemas -/

namespace Slots

/-- The slots of a value: its kind, then a field for each kind. -/
def value : Slots :=
  none.also 4 false (.number 1) |>.also 6 false (.number 1) |>.also 8 false (.number 8)
    |>.also 10 false .text

/-- The slots of a variation: its key and its value. -/
def variation : Slots := none.also 4 false .text |>.also 6 false (.table value)

/-- The slots of what an attribute is compared with: one value, or texts. -/
def conditionValue : Slots := none.also 4 false (.table value) |>.also 6 false .texts

/-- The slots of a condition: the attribute, the operator and the value. -/
def condition : Slots :=
  none.also 4 false .text |>.also 6 false (.number 1) |>.also 8 false (.table conditionValue)

/-- The slots of a rule: its conditions. -/
def rule : Slots := none.also 4 false (.tables condition)

/-- The slots of a range of shards: its bounds. -/
def shardRange : Slots := none.also 4 false (.number 4) |>.also 6 false (.number 4)

/-- The slots of shards: the salt and the ranges. -/
def shard : Slots := none.also 4 false .text |>.also 6 false (.tables shardRange)

/-- The slots of an entry of extra logging: the key and the value. -/
def entry : Slots := none.also 4 false .text |>.also 6 false .text

/-- The slots of a split: the variation, the shards and the extra logging. -/
def split : Slots :=
  none.also 4 false .text |>.also 6 false (.tables shard) |>.also 8 false (.tables entry)

/-- The slots of an allocation: its key, its rules, its bounds in time, its splits and whether it is
logged. -/
def allocation : Slots :=
  none.also 4 false .text |>.also 6 false (.tables rule) |>.also 8 false (.number 8)
    |>.also 10 false (.number 8) |>.also 12 false (.tables split) |>.also 14 false (.number 1)

/-- The slots of a flag: its key, which is required, whether it is enabled, its type, its
variations, its allocations, the number of shards and the identity of an entity. -/
def flag : Slots :=
  none.also 4 true .text |>.also 6 false (.number 1) |>.also 8 false (.number 1)
    |>.also 10 false (.tables variation) |>.also 12 false (.tables allocation)
    |>.also 14 false (.number 4) |>.also 16 false (.number 8)

/-- The slots of a configuration: when it was made, where for, and its flags. -/
def config : Slots :=
  none.also 4 false (.number 8) |>.also 6 false .text |>.also 8 false (.tables flag)

end Slots

/-! ### Readers -/

namespace Buffer

variable (buffer : Buffer)

/-- A number of 64 signed bits in a slot, if the table has it. -/
def int64? (table slot : Nat) : Decoded (Option Int64) :=
  (buffer.number? 8 table slot).map fun found => found.map fun bits => (UInt64.ofNat bits).toInt64

/-- A number of 32 bits in a slot, or zero. -/
def word32 (table slot : Nat) : Decoded UInt32 :=
  (buffer.number 4 0 table slot).map UInt32.ofNat

/-- The text in a slot, which must not be missing. -/
def requiredText (field : String) (table slot : Nat) : Decoded String := do
  let text ← buffer.text? table slot
  requireField field text

/-- The instant in a slot, if the table has it. -/
def instant? (table slot : Nat) : Decoded (Option Instant) := do
  let millis ← buffer.int64? table slot
  optionalInstant millis

/-- The scalar that a table makes. -/
def scalar (table : Nat) : Decoded Scalar := do
  match ← buffer.number 1 0 table 4 with
  | 1 => (buffer.bool false table 6).map .boolean
  | 2 => (buffer.number 8 0 table 8).map fun bits => .number ⟨UInt64.ofNat bits⟩
  | 3 => (buffer.requiredText "value.string_value" table 10).map .string
  | _ => .error (.missingField "value.kind")

/-- The variation that a table makes. -/
def variation (table : Nat) : Decoded Variation := do
  let key ← buffer.requiredText "variation.key" table 4
  let value ← buffer.table? table 6
  let value ← requireField "variation.value" value
  let value ← buffer.scalar value
  return ⟨key, value⟩

/-- What an attribute is compared with, as a table says it: one value, or else texts. -/
def conditionValue (table : Nat) : Decoded ConditionValue := do
  match ← buffer.table? table 4 with
  | some single => (buffer.scalar single).map .single
  | none =>
    match ← buffer.texts? table 6 with
    | some values => return .multiple values
    | none => .error (.missingField "condition.value")

/-- The condition that a table makes. -/
def condition (table : Nat) : Decoded Condition := do
  let value ← buffer.table? table 8
  let value ← requireField "condition.value" value
  let value ← buffer.conditionValue value
  let attributeName ← buffer.requiredText "condition.attribute" table 4
  let operatorId ← buffer.number 1 0 table 6
  return ⟨.ofWireId operatorId, attributeName, value⟩

/-- The rule that a table makes. -/
def rule (table : Nat) : Decoded Rule := do
  let conditions ← buffer.tables table 4
  (conditions.mapM buffer.condition).map Rule.mk

/-- The range of shards that a table makes. -/
def shardRange (table : Nat) : Decoded ShardRange := do
  let start ← buffer.word32 table 4
  let stop ← buffer.word32 table 6
  return ⟨start, stop⟩

/-- The shards that a table makes. -/
def shard (table : Nat) : Decoded Shard := do
  let salt ← buffer.requiredText "shard.salt" table 4
  let ranges ← buffer.tables table 6
  let ranges ← ranges.mapM buffer.shardRange
  return ⟨salt, ranges⟩

/-- The entry of extra logging that a table makes, if it has a key and a value. -/
def pair? (table : Nat) : Decoded (Option (String × String)) := do
  let key ← buffer.text? table 4
  let value ← buffer.text? table 6
  return key.bind fun key => value.map fun value => (key, value)

/-- The split that a table makes. -/
def split (table : Nat) : Decoded Split := do
  let shards ← buffer.tables table 6
  let shards ← shards.mapM buffer.shard
  let entries ← buffer.tables table 8
  let entries ← entries.mapM buffer.pair?
  let variationKey ← buffer.requiredText "split.variation_key" table 4
  return ⟨shards, variationKey, Dict.ofList (entries.filterMap id)⟩

/-- The allocation that a table makes. -/
def allocation (table : Nat) : Decoded Allocation := do
  let rules ← buffer.tables table 6
  let rules ← rules.mapM buffer.rule
  let splits ← buffer.tables table 12
  let splits ← splits.mapM buffer.split
  let key ← buffer.requiredText "allocation.key" table 4
  let startAt ← buffer.instant? table 8
  let endAt ← buffer.instant? table 10
  let doLog ← buffer.bool true table 14
  return ⟨key, rules, startAt, endAt, splits, doLog⟩

/-- The flag that a table makes. -/
def flag (table : Nat) : Decoded Flag := do
  let typeId ← buffer.number 1 0 table 8
  let variationType ← VariationType.ofWire typeId
  let variations ← buffer.tables table 10
  let variations ← variations.mapM buffer.variation
  let allocations ← buffer.tables table 12
  let allocations ← allocations.mapM buffer.allocation
  let key ← buffer.requiredText "flag.key" table 4
  let enabled ← buffer.bool false table 6
  let totalShards ← buffer.word32 table 14
  let entityId ← buffer.int64? table 16
  return ⟨key, enabled, variationType, variationsByKey variations, allocations, totalShards,
    entityId⟩

/-- The position of the table of a configuration. -/
def root : Decoded Nat := buffer.follow 0

/-- When a configuration was made. -/
def createdAt : Decoded (Option Instant) := do
  let root ← buffer.root
  buffer.instant? root 4

/-- Where a configuration was made for. -/
def environment : Decoded (Option String) := do
  let root ← buffer.root
  buffer.text? root 6

/-- The flags of a configuration, as keys and positions. -/
def flagIndex : Decoded (List (String × Nat)) := do
  let root ← buffer.root
  let flags ← buffer.tables root 8
  flags.mapM fun flag => do
    let key ← buffer.requiredText "flag.key" flag 4
    return (key, flag)

end Buffer

end FeatureFlags
