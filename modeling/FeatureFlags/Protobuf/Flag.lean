import FeatureFlags.DecodeError
import FeatureFlags.Protobuf.Record

/-!
**The flag that a record makes, and the record of a flag.**

A record makes a flag if its type is known, its variations and conditions have values, and its
instants are on the calendar. Variations go by their own keys, and instants are counted in
milliseconds. The record of a flag holds the entries of its maps in the order in which they are
listed.

* `FlagRecord.toFlag`: the flag that a record makes, or why it makes none.
* `FlagRecord.ofListed`: the record of a listed flag.
* `encodeProtobuf`: the octets of a configuration with given flags.
-/

namespace FeatureFlags

/-! ### From records to flags -/

/-- The instant that lies a number of milliseconds after the beginning of 1970. -/
def Instant.ofWireMillis (millis : Int64) : Decoded Instant :=
  match Instant.ofMillis? millis.toInt with
  | some instant => .ok instant
  | none => .error (.invalidTimestamp millis.toInt)

/-- The instant that milliseconds stand for, if there are any. -/
def optionalInstant : Option Int64 → Decoded (Option Instant)
  | none => .ok none
  | some millis => (Instant.ofWireMillis millis).map some

/-- The type that a number stands for. -/
def VariationType.ofWire (id : Int) : Decoded VariationType :=
  match VariationType.ofWireId? id with
  | some type => .ok type
  | none => .error (.unknownVariationType id)

/-- What must not be missing. -/
def requireField {α : Type} (field : String) : Option α → Decoded α
  | some value => .ok value
  | none => .error (.missingField field)

/-- The condition that a record makes. -/
def ConditionRecord.toCondition (record : ConditionRecord) : Decoded Condition := do
  let value ←
    match record.content with
    | none => .error (.missingField "condition.value")
    | some (.single value) => (requireField "value.kind" value).map ConditionValue.single
    | some (.multiple values) => .ok (.multiple values)
  return ⟨.ofWireId record.operatorId.toInt, record.attributeName, value⟩

/-- The allocation that a record makes. -/
def AllocationRecord.toAllocation (record : AllocationRecord) : Decoded Allocation := do
  let rules ← record.rules.mapM fun conditions =>
    (conditions.mapM ConditionRecord.toCondition).map Rule.mk
  let startAt ← optionalInstant record.startMillis
  let endAt ← optionalInstant record.endMillis
  return ⟨record.key, rules, startAt, endAt, record.splits.map ListedSplit.split,
    record.doLog.getD true⟩

/-- The variation that a record makes. -/
def VariationRecord.toVariation (record : VariationRecord) : Decoded Variation := do
  let value ← requireField "variation.value" record.value
  let value ← requireField "value.kind" value
  return ⟨record.key, value⟩

/-- Variations by their own keys; of several with one key the last stays. -/
def variationsByKey (variations : List Variation) : Dict Variation :=
  Dict.ofList (variations.map fun variation => (variation.key, variation))

/-- The flag that a record makes. -/
def FlagRecord.toFlag (record : FlagRecord) : Decoded Flag := do
  let variationType ← VariationType.ofWire record.typeId.toInt
  let variations ← record.variations.mapM VariationRecord.toVariation
  let allocations ← record.allocations.mapM AllocationRecord.toAllocation
  return ⟨record.key, record.enabled, variationType, variationsByKey variations, allocations,
    record.totalShards, record.entityId⟩

/-! ### From flags to records -/

/-- The milliseconds of an instant. -/
def Instant.toWireMillis (instant : Instant) : Int64 := Int64.ofInt instant.toMillis

/-- The record of a condition. -/
def ConditionRecord.ofCondition (condition : Condition) : ConditionRecord :=
  ⟨condition.attributeName, Int32.ofInt condition.operator.wireId,
    match condition.value with
    | .single value => some (.single (some value))
    | .multiple values => some (.multiple values)⟩

/-- The record of an allocation; whether it is logged is always said. -/
def AllocationRecord.ofListed (listed : ListedAllocation) : AllocationRecord :=
  ⟨listed.key, listed.rules.map fun rule => rule.conditions.map .ofCondition,
    listed.startAt.map Instant.toWireMillis, listed.endAt.map Instant.toWireMillis,
    listed.splits, some listed.doLog⟩

/-- The record of a variation. -/
def VariationRecord.ofVariation (variation : Variation) : VariationRecord :=
  ⟨variation.key, some (some variation.value)⟩

/-- The record of a flag. -/
def FlagRecord.ofListed (listed : ListedFlag) : FlagRecord :=
  ⟨listed.key, listed.enabled, Int32.ofInt listed.variationType.wireId,
    listed.variations.map .ofVariation, listed.allocations.map .ofListed,
    listed.totalShards, listed.entityId⟩

/-- The octets of a configuration with given flags, as their maps are listed. -/
def encodeProtobuf (createdAt : Option Instant) (environment : Option String)
    (listings : List ListedFlag) : Octets :=
  ConfigRecord.toOctets
    ⟨createdAt.map Instant.toWireMillis, environment, listings.map FlagRecord.ofListed⟩

end FeatureFlags
