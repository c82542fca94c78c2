import FeatureFlags.Flag.Basic

/-!
**Flags as they are written out.**

The maps of a flag have no order of their own. Whoever writes a flag out walks over each of them and
lists what it meets, in whatever order that is. A listed flag is what is written then.

* `ListedFlag`, `ListedAllocation`, `ListedSplit`: flags with their maps listed.
* `ListedSplit.split`: the split that is listed.
* `Flag.listed`: a flag listed in the order of its keys.
-/

namespace FeatureFlags

/-! ### Parts of flags -/

/-- A split with its extra logging as a walk lists it. -/
structure ListedSplit where
  shards : List Shard
  variationKey : String
  extraLogging : List (String × String)
deriving DecidableEq, Repr

/-- An allocation with listed splits. -/
structure ListedAllocation where
  key : String
  rules : List Rule
  startAt : Option Instant
  endAt : Option Instant
  splits : List ListedSplit
  doLog : Bool
deriving DecidableEq, Repr

/-- A flag with its variations as a walk lists them, and with listed allocations. -/
structure ListedFlag where
  key : String
  enabled : Bool
  variationType : VariationType
  variations : List Variation
  allocations : List ListedAllocation
  totalShards : UInt32
  entityId : Option Int64
deriving DecidableEq, Repr

/-- The split that is listed; of several entries with one key the last stays. -/
def ListedSplit.split (listed : ListedSplit) : Split :=
  ⟨listed.shards, listed.variationKey, Dict.ofList listed.extraLogging⟩

/-! ### The order of the keys -/

/-- A split listed in the order of the keys. -/
def Split.listed (split : Split) : ListedSplit :=
  ⟨split.shards, split.variationKey, split.extraLogging.entries⟩

/-- An allocation listed in the order of the keys. -/
def Allocation.listed (allocation : Allocation) : ListedAllocation :=
  ⟨allocation.key, allocation.rules, allocation.startAt, allocation.endAt,
    allocation.splits.map Split.listed, allocation.doLog⟩

/-- A flag listed in the order of the keys. -/
def Flag.listed (flag : Flag) : ListedFlag :=
  ⟨flag.key, flag.enabled, flag.variationType, flag.variations.values,
    flag.allocations.map Allocation.listed, flag.totalShards, flag.entityId⟩

end FeatureFlags
