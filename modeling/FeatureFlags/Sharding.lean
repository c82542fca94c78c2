import FeatureFlags.Digest
import FeatureFlags.Flag.Basic

/-!
**The shards into which subjects fall.**

A salt and a subject's key give a text, and a sharder maps texts to shards. Every party that serves
flags has to agree on both, so the texts are built in one way and the sharder in use is the digest
of the text.

* `Sharder`, `digestSharder`: a number below the number of shards for a text.
* `Split.serves`: whether a subject falls into all shards of a split.
-/

namespace FeatureFlags

/-- A choice of a shard for a text, given how many shards there are. -/
abbrev Sharder := Octets → UInt32 → UInt32

/-- The first four octets of the digest, the highest first, modulo the number of shards. -/
def digestSharder : Sharder := fun input total =>
  UInt32.ofNat (ofLittleEndian ((Digest.md5 input).take 4).reverse) % total

/-- The text that a salt and a subject's key give. -/
def shardInput (salt subjectKey : String) : String := salt ++ "-" ++ subjectKey

namespace ShardRange

/-- Whether a shard lies in a range. -/
def contains (range : ShardRange) (shard : UInt32) : Bool :=
  decide (range.start ≤ shard ∧ shard < range.stop)

/-- Whether a text falls into a range; without shards nothing does. -/
def serves (range : ShardRange) (sharder : Sharder) (total : UInt32) (input : Octets) : Bool :=
  total != 0 && range.contains (sharder input total)

end ShardRange

/-- Whether a subject falls into one of the ranges of shards. -/
def Shard.serves (shard : Shard) (sharder : Sharder) (total : UInt32) (subjectKey : String) :
    Bool :=
  shard.ranges.any fun range =>
    range.serves sharder total (octetsOf (shardInput shard.salt subjectKey))

/-- Whether a subject falls into all shards of a split. -/
def Split.serves (split : Split) (sharder : Sharder) (total : UInt32) (subjectKey : String) :
    Bool :=
  split.shards.all fun shard => shard.serves sharder total subjectKey

end FeatureFlags
