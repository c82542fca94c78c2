import FeatureFlags.Flag.Value

/-!
**Why a flag gives no value.**

* `FlagError`: the causes; `isNormal` tells those that call for the default without further ado.
* `FlagError.message`: the wording.
* `SkipReason`: why an allocation is passed over.
-/

namespace FeatureFlags

/-- Why a flag gives no value. -/
inductive FlagError where
  | configurationMissing
  | flagNotFound
  | flagDisabled
  | noAllocation
  | invalidType (expected found : VariationType)
  | undecodableFlag
  | inconsistentFlag
deriving DecidableEq, Repr

namespace FlagError

/-- The causes without further data. -/
def plain : List FlagError :=
  [configurationMissing, flagNotFound, flagDisabled, noAllocation, undecodableFlag,
    inconsistentFlag]

/-- The name of a cause in documents. -/
def name : FlagError → String
  | configurationMissing => "ConfigurationMissing"
  | flagNotFound => "FlagNotFound"
  | flagDisabled => "FlagDisabled"
  | noAllocation => "NoAllocation"
  | invalidType _ _ => "InvalidType"
  | undecodableFlag => "ConfigurationParseError"
  | inconsistentFlag => "ConfigurationError"

/-- The wording of a cause. -/
def message : FlagError → String
  | configurationMissing => "configuration missing"
  | flagNotFound => "flag not found"
  | flagDisabled => "flag is disabled"
  | noAllocation => "no allocation assigned"
  | invalidType expected found =>
    "invalid flag type (expected: " ++ expected.word ++ ", found: " ++ found.word ++ ")"
  | undecodableFlag => "error parsing configuration, try upgrading Eppo SDK"
  | inconsistentFlag => "configuration error, try upgrading Eppo SDK"

/-- Whether a cause arises in good order, so that the default is used without further ado. -/
def isNormal : FlagError → Bool
  | configurationMissing | flagNotFound | flagDisabled | noAllocation => true
  | invalidType _ _ | undecodableFlag | inconsistentFlag => false

/-- The JSON form of a cause. -/
def toJson : FlagError → Json
  | invalidType expected found =>
    .object
      [("InvalidType",
        .object [("expected", .string expected.name), ("found", .string found.name)])]
  | error => .string error.name

/-- The two types of a mismatch. -/
def readMismatch? (level : Nat) (document : Document) : Option FlagError := do
  let record ← document.readRecord? ["expected", "found"] level
  let expected ← record.require "expected" VariationType.read?
  let found ← record.require "found" VariationType.read?
  return invalidType expected found

/-- A cause by its JSON form: its name, or an object whose only key is its name. -/
def read? (level : Nat) (document : Document) : Option FlagError :=
  let named := do
    let name ← document.readName? level
    plain.find? fun error => error.name == name
  match document with
  | .object [(key, value)] =>
    if level < Document.nestingLimit ∧ Document.stringText? key = some "InvalidType" then
      readMismatch? (level + 1) value
    else named
  | _ => named

end FlagError

/-- Why an allocation is passed over. -/
inductive SkipReason where
  | beforeStart
  | afterEnd
  | failingRules
  | outsideShards
deriving DecidableEq, Repr

/-- The name of a reason. -/
def SkipReason.name : SkipReason → String
  | beforeStart => "BeforeStartDate"
  | afterEnd => "AfterEndDate"
  | failingRules => "FailingRules"
  | outsideShards => "TrafficExposureMiss"

end FeatureFlags
