import FeatureFlags.Flag.Listed
import FeatureFlags.Flatbuffer.Builder
import FeatureFlags.Protobuf.Flag

/-!
**Writing flags into a buffer of tables.**

The parts of a table are written before the table itself, the entries of a map in the order in
which they are listed. A number that a missing field stands for is left out.

* `encodeFlatbuffer`: the octets of a configuration with given flags.
-/

namespace FeatureFlags

namespace Builder

/-- The slot of a number, unless the number is what a missing field stands for. -/
def numberUnless (missing slot count value : Nat) : List (Nat × SlotContent) :=
  if value = missing then [] else [(slot, .number count value)]

/-- The slot of a number of 64 signed bits, if there is one. -/
def int64Slot (slot : Nat) (value : Option Int64) : List (Nat × SlotContent) :=
  (value.map fun value => (slot, SlotContent.number 8 value.toUInt64.toNat)).toList

/-- A truth value as a number. -/
def bit (value : Bool) : Nat := if value then 1 else 0

/-- Write a scalar. -/
def scalar (value : Scalar) : Construction Nat :=
  match value with
  | .boolean value => table [(4, .number 1 1), (6, .number 1 (bit value))]
  | .number value => table [(4, .number 1 2), (8, .number 8 value.bits.toNat)]
  | .string value => do
    let place ← text value
    table [(4, .number 1 3), (10, .offset place)]

/-- Write a variation. -/
def variation (variation : Variation) : Construction Nat := do
  let key ← text variation.key
  let value ← scalar variation.value
  table [(4, .offset key), (6, .offset value)]

/-- Write what an attribute is compared with. -/
def conditionValue (value : ConditionValue) : Construction Nat :=
  match value with
  | .single value => do
    let single ← scalar value
    table [(4, .offset single)]
  | .multiple values => do
    let places ← values.mapM text
    let multiple ← vector places
    table [(6, .offset multiple)]

/-- Write a condition. -/
def condition (condition : Condition) : Construction Nat := do
  let attributeName ← text condition.attributeName
  let value ← conditionValue condition.value
  table
    ([(4, .offset attributeName)] ++ numberUnless 0 6 1 condition.operator.wireId ++
      [(8, .offset value)])

/-- Write a rule. -/
def rule (rule : Rule) : Construction Nat := do
  let places ← rule.conditions.mapM condition
  let conditions ← vector places
  table [(4, .offset conditions)]

/-- Write a range of shards. -/
def shardRange (range : ShardRange) : Construction Nat :=
  table (numberUnless 0 4 4 range.start.toNat ++ numberUnless 0 6 4 range.stop.toNat)

/-- Write shards. -/
def shard (shard : Shard) : Construction Nat := do
  let salt ← text shard.salt
  let places ← shard.ranges.mapM shardRange
  let ranges ← vector places
  table [(4, .offset salt), (6, .offset ranges)]

/-- Write an entry of extra logging. -/
def entry (entry : String × String) : Construction Nat := do
  let key ← text entry.1
  let value ← text entry.2
  table [(4, .offset key), (6, .offset value)]

/-- Write a split. -/
def split (listed : ListedSplit) : Construction Nat := do
  let variationKey ← text listed.variationKey
  let places ← listed.shards.mapM shard
  let shards ← vector places
  let places ← listed.extraLogging.mapM entry
  let entries ← vector places
  table [(4, .offset variationKey), (6, .offset shards), (8, .offset entries)]

/-- Write an allocation. -/
def allocation (listed : ListedAllocation) : Construction Nat := do
  let key ← text listed.key
  let places ← listed.rules.mapM rule
  let rules ← vector places
  let places ← listed.splits.mapM split
  let splits ← vector places
  table
    ([(4, .offset key), (6, .offset rules)] ++
      int64Slot 8 (listed.startAt.map Instant.toWireMillis) ++
      int64Slot 10 (listed.endAt.map Instant.toWireMillis) ++
      [(12, .offset splits)] ++ numberUnless 1 14 1 (bit listed.doLog))

/-- Write a flag. -/
def flag (listed : ListedFlag) : Construction Nat := do
  let key ← text listed.key
  let places ← listed.variations.mapM variation
  let variations ← vector places
  let places ← listed.allocations.mapM allocation
  let allocations ← vector places
  table
    ([(4, .offset key)] ++ numberUnless 0 6 1 (bit listed.enabled) ++
      numberUnless 0 8 1 listed.variationType.wireId ++
      [(10, .offset variations), (12, .offset allocations)] ++
      numberUnless 0 14 4 listed.totalShards.toNat ++ int64Slot 16 listed.entityId)

/-- Write a configuration. -/
def config (createdAt : Option Instant) (environment : Option String)
    (listings : List ListedFlag) : Construction Nat := do
  let places ← listings.mapM flag
  let flags ← vector places
  let environment ← environment.mapM text
  table
    (int64Slot 4 (createdAt.map Instant.toWireMillis) ++
      (environment.map fun place => (6, SlotContent.offset place)).toList ++ [(8, .offset flags)])

end Builder

/-- The octets of a configuration with given flags, as their maps are listed. -/
def encodeFlatbuffer (createdAt : Option Instant) (environment : Option String)
    (listings : List ListedFlag) : Octets :=
  Builder.finish (Builder.config createdAt environment listings)

end FeatureFlags
