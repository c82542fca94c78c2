import FeatureFlags.Notice
import FeatureFlags.Sharding
import FeatureFlags.Targeting

/-!
**What a flag serves a subject.**

The first allocation that is open at the time, whose rules the subject satisfies and one of whose
splits serves the subject decides, together with the first such split. The variation of the split
gives the value.

* `Allocation.select`: the split of an allocation that serves a subject, or why there is none.
* `Flag.choice?`: the allocation and the split that decide.
* `Flag.evaluate`: the value, with what is to be reported about it.
-/

namespace FeatureFlags

/-! ### Who is asking -/

/-- A subject at a time, and the choice of shards. -/
structure Visit where
  sharder : Sharder
  subjectKey : String
  attributes : Attributes
  now : Instant

/-! ### Choosing -/

namespace Allocation

/-- The first split that serves a subject, or why the allocation is skipped. The attributes hold the
subject's key already. -/
def select (allocation : Allocation) (total : UInt32) (visit : Visit) : Except SkipReason Split :=
  if allocation.startAt.any fun start => visit.now.before start then .error .beforeStart
  else if allocation.endAt.any fun stop => !visit.now.before stop then .error .afterEnd
  else if !allocation.rules.all fun rule => rule.holds visit.attributes then .error .failingRules
  else
    match allocation.splits.find? fun split =>
      split.serves visit.sharder total visit.subjectKey with
    | some split => .ok split
    | none => .error .outsideShards

end Allocation

/-- Why a value was served. -/
inductive Reason where
  | targetingMatch
  | split
  | static
deriving DecidableEq, Repr

/-- The name of a reason. -/
def Reason.name : Reason → String
  | targetingMatch => "TARGETING_MATCH"
  | split => "SPLIT"
  | static => "STATIC"

/-- What a flag serves. -/
structure Evaluation where
  value : Value
  variationKey : String
  allocationKey : String
  doLog : Bool
  extraLogging : Dict String
  reason : Reason
deriving DecidableEq, Repr

namespace Flag

/-- The visit with the subject's key among the attributes. -/
def identified (visit : Visit) : Visit :=
  { visit with attributes := visit.attributes.withId visit.subjectKey }

/-- The first allocation that serves a subject, with its split. -/
def choice? (flag : Flag) (visit : Visit) : Option (Allocation × Split) :=
  flag.allocations.findSome? fun allocation =>
    match allocation.select flag.totalShards (identified visit) with
    | .ok split => some (allocation, split)
    | .error _ => none

/-- The allocations before the one that serves a subject, each with why it was skipped. -/
def skipped (flag : Flag) (visit : Visit) : List (String × SkipReason) :=
  let rec walk : List Allocation → List (String × SkipReason)
    | [] => []
    | allocation :: rest =>
      match allocation.select flag.totalShards (identified visit) with
      | .ok _ => []
      | .error reason => (allocation.key, reason) :: walk rest
  walk flag.allocations

/-- Why an allocation serves a split: it has rules, or the split has shards, or neither. -/
def reasonOf (allocation : Allocation) (split : Split) : Reason :=
  if !allocation.rules.isEmpty then .targetingMatch
  else if !split.shards.isEmpty then .split
  else .static

/-- What a flag serves a subject. -/
def evaluate (flag : Flag) (visit : Visit) : Except FlagError Evaluation :=
  if !flag.enabled then .error .flagDisabled
  else
    match flag.choice? visit with
    | none => .error .noAllocation
    | some (allocation, split) =>
      match flag.variations.get? split.variationKey with
      | none => .error .inconsistentFlag
      | some variation =>
        match variation.value.toValue? flag.variationType with
        | none => .error .inconsistentFlag
        | some value =>
          .ok ⟨value, variation.key, allocation.key, allocation.doLog, split.extraLogging,
            reasonOf allocation split⟩

/-- What is noted while a flag is evaluated. -/
def evaluationNotices (flag : Flag) (visit : Visit) : List Notice :=
  if !flag.enabled then []
  else
    (flag.skipped visit).map (fun entry => .allocationSkipped flag.key entry.1 entry.2) ++
      match flag.choice? visit with
      | none => []
      | some (_, split) =>
        match flag.variations.get? split.variationKey with
        | none => [.variationMissing flag.key]
        | some variation =>
          if (variation.value.toValue? flag.variationType).isNone then
            [.valueUnconvertible flag.key]
          else []

/-- Refuse a flag whose values have another type than the expected one. -/
def requireType (flag : Flag) (expected : VariationType) : Except FlagError Unit :=
  if flag.variationType = expected then .ok ()
  else .error (.invalidType expected flag.variationType)

end Flag

end FeatureFlags
