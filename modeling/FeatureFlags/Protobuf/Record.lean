import FeatureFlags.Flag.Listed
import FeatureFlags.Protobuf.Wire

/-!
**The messages that carry a configuration, field by field.**

A record holds what a message says, before it is decided whether that makes a flag. Where a field
that may hold one value is written more than once the last one counts, lists are joined, and
messages are joined field by field.

* `ConfigRecord.ofOctets?`: the record that octets hold.
* `ConfigRecord.toOctets`: the octets of a record, its fields in the order of their numbers and
  without those that hold what a missing field stands for.
-/

namespace FeatureFlags

open Wire

/-! ### Records -/

/-- What an attribute is compared with; a scalar may be left open. -/
inductive ConditionContent where
  | single (value : Option Scalar)
  | multiple (values : List String)
deriving DecidableEq, Repr

/-- A condition. -/
structure ConditionRecord where
  attributeName : String
  operatorId : Int32
  content : Option ConditionContent
deriving DecidableEq, Repr

/-- A variation; its value may be missing, or left open. -/
structure VariationRecord where
  key : String
  value : Option (Option Scalar)
deriving DecidableEq, Repr

/-- An allocation; its rules are lists of conditions. -/
structure AllocationRecord where
  key : String
  rules : List (List ConditionRecord)
  startMillis : Option Int64
  endMillis : Option Int64
  splits : List ListedSplit
  doLog : Option Bool
deriving DecidableEq, Repr

/-- A flag. -/
structure FlagRecord where
  key : String
  enabled : Bool
  typeId : Int32
  variations : List VariationRecord
  allocations : List AllocationRecord
  totalShards : UInt32
  entityId : Option Int64
deriving DecidableEq, Repr

/-- A configuration. -/
structure ConfigRecord where
  createdMillis : Option Int64
  environment : Option String
  flags : List FlagRecord
deriving DecidableEq, Repr

/-! ### Reading -/

/-- The fields of a message within a number of messages. -/
def Wire.Payload.fields? (depth : Nat) (payload : Payload) : Option (List MessageField) := do
  let content ← payload.octets?
  readFields? (fun _ => false) depth content

/-- The scalar that one field of a value holds. -/
def readScalarField? (field : MessageField) : Option Scalar :=
  match field.number with
  | 1 => field.payload.bool?.map .boolean
  | 2 => field.payload.fixed64?.map fun bits => .number ⟨UInt64.ofNat bits⟩
  | _ => field.payload.text?.map .string

/-- The scalar that the last field of a value holds. -/
def readScalar? (fields : List MessageField) : Option (Option Scalar) :=
  ((fields.filter fun field => [1, 2, 3].contains field.number).mapM readScalarField?).map
    List.getLast?

/-- The entries of a map of texts. A missing key or value is empty. -/
def readPair? (depth : Nat) (payload : Payload) : Option (String × String) := do
  let fields ← payload.fields? depth
  let key ← lastOr "" fields 1 Payload.text?
  let value ← lastOr "" fields 2 Payload.text?
  return (key, value)

/-- What an attribute is compared with, as some fields say it: either the fields of a scalar, or
texts. -/
inductive ContentFields where
  | single (fields : List MessageField)
  | multiple (values : List String)

/-- What one field of a comparison says. -/
def readContentField? (depth : Nat) (field : MessageField) : Option ContentFields := do
  let fields ← field.payload.fields? depth
  if field.number = 1 then
    let _ ← readScalar? fields
    return .single fields
  else
    let values ← occurrences fields 1 Payload.text?
    return .multiple values

/-- What a further field adds to a comparison: it goes on with one of its kind and replaces one of
the other kind. -/
def ContentFields.join : Option ContentFields → ContentFields → ContentFields
  | some (single before), single after => .single (before ++ after)
  | some (multiple before), multiple after => .multiple (before ++ after)
  | _, content => content

/-- What an attribute is compared with, if anything. -/
def readContent? (depth : Nat) (fields : List MessageField) : Option (Option ConditionContent) := do
  let parts ←
    (fields.filter fun field => [1, 2].contains field.number).mapM (readContentField? (depth + 1))
  match parts.foldl (fun content part => some (ContentFields.join content part)) none with
  | none => return none
  | some (.multiple values) => return some (.multiple values)
  | some (.single fields) =>
    let value ← readScalar? fields
    return some (.single value)

/-- The fields of all messages with a number, or nothing without such a message. -/
def joined? (depth : Nat) (fields : List MessageField) (number : Nat) :
    Option (Option (List MessageField)) :=
  (occurrences fields number (Payload.fields? depth)).map fun messages =>
    if messages.isEmpty then none else some messages.flatten

/-- A condition. -/
def ConditionRecord.read? (depth : Nat) (payload : Payload) : Option ConditionRecord := do
  let fields ← payload.fields? depth
  let attributeName ← lastOr "" fields 1 Payload.text?
  let operatorId ← lastOr 0 fields 2 Payload.int32?
  let content ← joined? (depth + 1) fields 3
  let content ← readContent? (depth + 1) (content.getD [])
  return ⟨attributeName, operatorId, content⟩

/-- The conditions of a rule. -/
def readRule? (depth : Nat) (payload : Payload) : Option (List ConditionRecord) := do
  let fields ← payload.fields? depth
  occurrences fields 1 (ConditionRecord.read? (depth + 1))

/-- A range of shards. -/
def ShardRange.readMessage? (depth : Nat) (payload : Payload) : Option ShardRange := do
  let fields ← payload.fields? depth
  let start ← lastOr 0 fields 1 Payload.word?
  let stop ← lastOr 0 fields 2 Payload.word?
  return ⟨start, stop⟩

/-- Shards. -/
def Shard.readMessage? (depth : Nat) (payload : Payload) : Option Shard := do
  let fields ← payload.fields? depth
  let salt ← lastOr "" fields 1 Payload.text?
  let ranges ← occurrences fields 2 (ShardRange.readMessage? (depth + 1))
  return ⟨salt, ranges⟩

/-- A split; its third field, a map, is delimited whatever shape is written, and its entries are
taken as they come. -/
def ListedSplit.readMessage? (depth : Nat) (payload : Payload) : Option ListedSplit := do
  let content ← payload.octets?
  let fields ← readFields? (· == 3) depth content
  let variationKey ← lastOr "" fields 1 Payload.text?
  let shards ← occurrences fields 2 (Shard.readMessage? (depth + 1))
  let entries ← occurrences fields 3 (readPair? (depth + 1))
  return ⟨shards, variationKey, entries⟩

/-- An allocation. -/
def AllocationRecord.read? (depth : Nat) (payload : Payload) : Option AllocationRecord := do
  let fields ← payload.fields? depth
  let key ← lastOr "" fields 1 Payload.text?
  let rules ← occurrences fields 2 (readRule? (depth + 1))
  let startMillis ← last? fields 3 Payload.int64?
  let endMillis ← last? fields 4 Payload.int64?
  let splits ← occurrences fields 5 (ListedSplit.readMessage? (depth + 1))
  let doLog ← last? fields 6 Payload.bool?
  return ⟨key, rules, startMillis, endMillis, splits, doLog⟩

/-- A variation. -/
def VariationRecord.read? (depth : Nat) (payload : Payload) : Option VariationRecord := do
  let fields ← payload.fields? depth
  let key ← lastOr "" fields 1 Payload.text?
  match ← joined? (depth + 1) fields 2 with
  | none => return ⟨key, none⟩
  | some value =>
    let value ← readScalar? value
    return ⟨key, some value⟩

/-- A flag. -/
def FlagRecord.read? (depth : Nat) (payload : Payload) : Option FlagRecord := do
  let fields ← payload.fields? depth
  let key ← lastOr "" fields 1 Payload.text?
  let enabled ← lastOr false fields 2 Payload.bool?
  let typeId ← lastOr 0 fields 3 Payload.int32?
  let variations ← occurrences fields 4 (VariationRecord.read? (depth + 1))
  let allocations ← occurrences fields 5 (AllocationRecord.read? (depth + 1))
  let totalShards ← lastOr 0 fields 6 Payload.word?
  let entityId ← last? fields 7 Payload.int64?
  return ⟨key, enabled, typeId, variations, allocations, totalShards, entityId⟩

/-- The configuration that octets hold. -/
def ConfigRecord.ofOctets? (octets : Octets) : Option ConfigRecord := do
  let fields ← readFields? (fun _ => false) 0 octets
  let createdMillis ← last? fields 1 Payload.int64?
  let environment ← last? fields 2 Payload.text?
  let flags ← occurrences fields 3 (FlagRecord.read? 1)
  return ⟨createdMillis, environment, flags⟩

/-! ### Writing -/

/-- A field that holds a text. -/
def textField (number : Nat) (text : String) : MessageField := ⟨number, .delimited (octetsOf text)⟩

/-- A field that holds a message. -/
def messageField (number : Nat) (fields : List MessageField) : MessageField :=
  ⟨number, .delimited (writeFields fields)⟩

/-- A field that holds a truth value. -/
def boolField (number : Nat) (value : Bool) : MessageField :=
  ⟨number, .varint (if value then 1 else 0)⟩

/-- A field that holds a number of 64 signed bits. -/
def int64Field (number : Nat) (value : Int64) : MessageField :=
  ⟨number, .varint value.toUInt64.toNat⟩

/-- A field that holds a number of 32 signed bits, written with 64. -/
def int32Field (number : Nat) (value : Int32) : MessageField := int64Field number value.toInt64

/-- A field that holds a number of 32 bits. -/
def wordField (number : Nat) (value : UInt32) : MessageField := ⟨number, .varint value.toNat⟩

/-- A field, unless it holds what its absence stands for. -/
def otherThan {α : Type} [DecidableEq α] (missing : α) (field : Nat → α → MessageField)
    (number : Nat) (value : α) : List MessageField :=
  if value = missing then [] else [field number value]

/-- A field, if there is a value for it. -/
def whenSome {α : Type} (field : Nat → α → MessageField) (number : Nat) (value : Option α) :
    List MessageField :=
  (value.map (field number)).toList

/-- The fields of a scalar. -/
def scalarFields : Option Scalar → List MessageField
  | none => []
  | some (.boolean value) => [boolField 1 value]
  | some (.number value) => [⟨2, .fixed64 value.bits.toNat⟩]
  | some (.string text) => [textField 3 text]

/-- The fields of what an attribute is compared with. -/
def contentFields : ConditionContent → List MessageField
  | .single value => [messageField 1 (scalarFields value)]
  | .multiple values => [messageField 2 (values.map (textField 1))]

/-- The fields of a condition. -/
def ConditionRecord.fields (record : ConditionRecord) : List MessageField :=
  otherThan "" textField 1 record.attributeName ++ otherThan 0 int32Field 2 record.operatorId ++
    whenSome messageField 3 (record.content.map contentFields)

/-- The fields of a range of shards. -/
def ShardRange.fields (range : ShardRange) : List MessageField :=
  otherThan 0 wordField 1 range.start ++ otherThan 0 wordField 2 range.stop

/-- The fields of shards. -/
def Shard.fields (shard : Shard) : List MessageField :=
  otherThan "" textField 1 shard.salt ++
    shard.ranges.map fun range => messageField 2 range.fields

/-- The fields of an entry of a map of texts. -/
def entryFields (entry : String × String) : List MessageField :=
  otherThan "" textField 1 entry.1 ++ otherThan "" textField 2 entry.2

/-- The fields of a split, the entries of its map in the order in which they are listed. -/
def ListedSplit.fields (listed : ListedSplit) : List MessageField :=
  otherThan "" textField 1 listed.variationKey ++
    (listed.shards.map fun shard => messageField 2 shard.fields) ++
    listed.extraLogging.map fun entry => messageField 3 (entryFields entry)

/-- The fields of an allocation. -/
def AllocationRecord.fields (record : AllocationRecord) : List MessageField :=
  otherThan "" textField 1 record.key ++
    (record.rules.map fun conditions =>
      messageField 2 (conditions.map fun condition => messageField 1 condition.fields)) ++
    whenSome int64Field 3 record.startMillis ++ whenSome int64Field 4 record.endMillis ++
    (record.splits.map fun split => messageField 5 split.fields) ++
    whenSome boolField 6 record.doLog

/-- The fields of a variation. -/
def VariationRecord.fields (record : VariationRecord) : List MessageField :=
  otherThan "" textField 1 record.key ++ whenSome messageField 2 (record.value.map scalarFields)

/-- The fields of a flag. -/
def FlagRecord.fields (record : FlagRecord) : List MessageField :=
  otherThan "" textField 1 record.key ++ otherThan false boolField 2 record.enabled ++
    otherThan 0 int32Field 3 record.typeId ++
    (record.variations.map fun variation => messageField 4 variation.fields) ++
    (record.allocations.map fun allocation => messageField 5 allocation.fields) ++
    otherThan 0 wordField 6 record.totalShards ++ whenSome int64Field 7 record.entityId

/-- The fields of a configuration. -/
def ConfigRecord.fields (record : ConfigRecord) : List MessageField :=
  whenSome int64Field 1 record.createdMillis ++ whenSome textField 2 record.environment ++
    record.flags.map fun flag => messageField 3 flag.fields

/-- The octets of a configuration. -/
def ConfigRecord.toOctets (record : ConfigRecord) : Octets := writeFields record.fields

end FeatureFlags
