import FeatureFlags.Dict
import FeatureFlags.Flag.Value
import FeatureFlags.Instant.Basic

/-!
**Feature flags.**

A flag offers variations of one type. Its allocations are tried in order: an allocation is open for
a window of time, to the subjects that satisfy all of its rules, and its splits say which shards of
these subjects are served which variation.

* `Flag`, `Allocation`, `Split`, `Shard`, `ShardRange`, `Variation`: the parts of a flag.
* `Rule`, `Condition`, `Operator`, `ConditionValue`: whom an allocation is open to.
-/

namespace FeatureFlags

/-! ### Targeting -/

/-- What a condition asks of an attribute. -/
inductive Operator where
  | isMatch
  | notMatch
  | greaterOrEqual
  | greater
  | lessOrEqual
  | less
  | oneOf
  | notOneOf
  | isNull
  | unrecognized
deriving DecidableEq, Repr

namespace Operator

/-- The operators that are recognized. -/
def known : List Operator :=
  [isMatch, notMatch, greaterOrEqual, greater, lessOrEqual, less, oneOf, notOneOf, isNull]

/-- The name of an operator in documents. -/
def name : Operator → String
  | isMatch => "MATCHES"
  | notMatch => "NOT_MATCHES"
  | greaterOrEqual => "GTE"
  | greater => "GT"
  | lessOrEqual => "LTE"
  | less => "LT"
  | oneOf => "ONE_OF"
  | notOneOf => "NOT_ONE_OF"
  | isNull => "IS_NULL"
  | unrecognized => "UNRECOGNIZED"

/-- The number that stands for an operator. -/
def wireId : Operator → Nat
  | isMatch => 1
  | notMatch => 2
  | greaterOrEqual => 3
  | greater => 4
  | lessOrEqual => 5
  | less => 6
  | oneOf => 7
  | notOneOf => 8
  | isNull => 9
  | unrecognized => 0

/-- The operator with a name; any other name is not recognized. -/
def ofName (name : String) : Operator :=
  (known.find? fun operator => operator.name == name).getD unrecognized

/-- The operator that a number stands for; any other number is not recognized. -/
def ofWireId (id : Int) : Operator :=
  (known.find? fun operator => (operator.wireId : Int) == id).getD unrecognized

end Operator

/-- What an attribute is compared with. -/
inductive ConditionValue where
  | single (value : Scalar)
  | multiple (values : List String)
deriving DecidableEq, Repr

/-- A test of one attribute. -/
structure Condition where
  operator : Operator
  attributeName : String
  value : ConditionValue
deriving DecidableEq, Repr

/-- Conditions that must all hold. -/
structure Rule where
  conditions : List Condition
deriving DecidableEq, Repr

/-! ### Serving -/

/-- The shards from a first one up to, and not including, a last one. -/
structure ShardRange where
  start : UInt32
  stop : UInt32
deriving DecidableEq, Repr

/-- Some of the shards into which a salt scatters the subjects. -/
structure Shard where
  salt : String
  ranges : List ShardRange
deriving DecidableEq, Repr

/-- The subjects that lie in all of some shards, and the variation that they are served. -/
structure Split where
  shards : List Shard
  variationKey : String
  extraLogging : Dict String
deriving DecidableEq, Repr

/-- A part of the subjects for a window of time. -/
structure Allocation where
  key : String
  rules : List Rule
  startAt : Option Instant
  endAt : Option Instant
  splits : List Split
  doLog : Bool
deriving DecidableEq, Repr

/-- One of the values that a flag may have. -/
structure Variation where
  key : String
  value : Scalar
deriving DecidableEq, Repr

/-- A feature flag. -/
structure Flag where
  key : String
  enabled : Bool
  variationType : VariationType
  variations : Dict Variation
  allocations : List Allocation
  totalShards : UInt32
  entityId : Option Int64
deriving DecidableEq, Repr

/-- The place that a configuration was made for. -/
structure Environment where
  name : String
deriving DecidableEq, Repr

end FeatureFlags
