import FeatureFlags.Configuration.Basic
import FeatureFlags.Evaluation

/-!
**Assignments, and the events that report them.**

A caller asks for the value of a flag, for a subject or for the subject that assignments were made
for. Without a configuration or a flag, and where a flag serves nobody, there is no assignment,
which is no error. An assignment that is to be reported comes with an event.

* `Configuration.assign`, `Configuration.assignPrecomputed`: the assignment of a flag.
* `AssignmentEvent.members`: the members of an event in its JSON form.
* `AssignmentCache.shouldLog`: whether an event was reported before.
-/

namespace FeatureFlags

/-! ### Events -/

/-- The library that reports events. -/
structure Sdk where
  name : String
  version : String
deriving DecidableEq, Repr

/-- The library itself. -/
def Sdk.own : Sdk := ⟨"rust", "0.1.0"⟩

/-- The version of the core that makes assignments. -/
def coreVersion : String := "0.1.0"

/-- The report of an assignment. -/
structure AssignmentEvent where
  featureFlag : String
  allocation : Option String
  variation : Option String
  subject : String
  subjectAttributes : Attributes
  timestamp : Instant
  sdk : Sdk
  obfuscated : Bool
  extraLogging : Dict String
deriving DecidableEq, Repr

namespace AssignmentEvent

/-- The name of the experiment: the flag and the allocation. -/
def experiment (event : AssignmentEvent) : Option String :=
  event.allocation.map fun allocation => event.featureFlag ++ "-" ++ allocation

/-- The JSON form of what is said about the library. -/
def metaData (event : AssignmentEvent) : Json :=
  .object
    [("sdkName", .string event.sdk.name), ("sdkVersion", .string event.sdk.version),
      ("coreVersion", .string coreVersion), ("obfuscated", .bool event.obfuscated)]

/-- The members of an event: its fields, and then the entries of extra logging as a walk meets
them. -/
def members (event : AssignmentEvent) (walk : event.extraLogging.Walk) : List (String × Json) :=
  [("featureFlag", .string event.featureFlag), ("allocation", Json.text? event.allocation),
    ("experiment", Json.text? event.experiment), ("variation", Json.text? event.variation),
    ("subject", .string event.subject), ("subjectAttributes", event.subjectAttributes.toJson),
    ("timestamp", event.timestamp.toJson), ("metaData", event.metaData)] ++
    walk.entries.map fun entry => (entry.1, .string entry.2)

/-- The JSON form of an event. -/
def toJson (event : AssignmentEvent) (walk : event.extraLogging.Walk) : Json :=
  .object (event.members walk)

end AssignmentEvent

/-! ### Assignments -/

/-- The value that a subject is served, and the event that reports it. -/
structure Assignment where
  value : Value
  event : Option AssignmentEvent
deriving DecidableEq, Repr

/-- Whose assignment is asked for, and when. -/
structure Query where
  flagKey : String
  expected : Option VariationType
  now : Instant
  sdk : Sdk

/-- What is given back: errors in good order are no assignment. -/
def settle (result : Except FlagError Assignment) : Except FlagError (Option Assignment) :=
  match result with
  | .ok assignment => .ok (some assignment)
  | .error error => if error.isNormal then .ok none else .error error

/-- What is noted about what is given back. -/
def settleNotice (flagKey : String) (result : Except FlagError Assignment) : Notice :=
  match result with
  | .ok _ => .flagEvaluated flagKey
  | .error .configurationMissing => .notConfigured flagKey
  | .error error =>
    if error.isNormal then .defaultReturned flagKey error else .evaluationFailed flagKey error

namespace Configuration

/-- The flag at a key, of an expected type. -/
def flag (configuration : Option Configuration) (query : Query) : Except FlagError Flag :=
  match configuration.bind Configuration.flags with
  | none => .error .configurationMissing
  | some decoder =>
    match decoder.answer? query.flagKey with
    | none => .error .flagNotFound
    | some (.error _) => .error .undecodableFlag
    | some (.ok flag) =>
      match query.expected with
      | none => .ok flag
      | some expected => (flag.requireType expected).map fun _ => flag

/-- The report of what a flag serves a subject. -/
def eventOf (query : Query) (visit : Visit) (flag : Flag) (evaluation : Evaluation) :
    AssignmentEvent where
  featureFlag := flag.key
  allocation := some evaluation.allocationKey
  variation := some evaluation.variationKey
  subject := visit.subjectKey
  subjectAttributes := visit.attributes
  timestamp := query.now
  sdk := query.sdk
  obfuscated := false
  extraLogging := evaluation.extraLogging

/-- A subject at the time of a query. -/
def visitOf (query : Query) (subject : Subject) : Visit :=
  ⟨digestSharder, subject.key, subject.attributes, query.now⟩

/-- What a flag serves a subject, or why it serves nothing. -/
def evaluate (configuration : Option Configuration) (query : Query) (subject : Subject) :
    Except FlagError Assignment := do
  let flag ← flag configuration query
  let visit := visitOf query subject
  let evaluation ← flag.evaluate visit
  return ⟨evaluation.value,
    if evaluation.doLog then some (eventOf query visit flag evaluation) else none⟩

/-- The assignment of a flag for a subject. -/
def assign (configuration : Option Configuration) (query : Query) (subject : Subject) :
    Except FlagError (Option Assignment) :=
  settle (evaluate configuration query subject)

/-- What is noted while a flag is evaluated and the assignment given back. -/
def assignNotices (configuration : Option Configuration) (query : Query) (subject : Subject) :
    List Notice :=
  (match flag configuration query with
    | .ok flag => flag.evaluationNotices (visitOf query subject)
    | .error _ => []) ++
    [settleNotice query.flagKey (evaluate configuration query subject)]

/-- The report of an assignment that was made elsewhere. -/
def precomputedEventOf (query : Query) (precomputed : Precomputed) (flag : PrecomputedFlag) :
    AssignmentEvent where
  featureFlag := query.flagKey
  allocation := flag.allocationKey
  variation := flag.variationKey
  subject := precomputed.subject.key
  subjectAttributes := precomputed.subject.attributes
  timestamp := query.now
  sdk := query.sdk
  obfuscated := precomputed.obfuscated
  extraLogging := flag.extraLogging

/-- What was assigned elsewhere, or why nothing was. -/
def evaluatePrecomputed (configuration : Option Configuration) (query : Query) :
    Except FlagError Assignment :=
  match configuration.bind Configuration.precomputed with
  | none => .error .configurationMissing
  | some precomputed =>
    match precomputed.flag? query.flagKey with
    | none => .error .flagNotFound
    | some flag =>
      if query.expected.any fun expected => flag.variationType ≠ expected then
        .error (.invalidType (query.expected.getD flag.variationType) flag.variationType)
      else
        .ok ⟨flag.value,
          if flag.doLog then some (precomputedEventOf query precomputed flag) else none⟩

/-- The assignment of a flag that was made elsewhere. -/
def assignPrecomputed (configuration : Option Configuration) (query : Query) :
    Except FlagError (Option Assignment) :=
  settle (evaluatePrecomputed configuration query)

/-- What is noted while an assignment that was made elsewhere is given back. -/
def assignPrecomputedNotices (configuration : Option Configuration) (query : Query) :
    List Notice :=
  [settleNotice query.flagKey (evaluatePrecomputed configuration query)]

end Configuration

/-! ### Reporting once -/

/-- What tells assignments from each other for reporting. -/
structure AssignmentKey where
  subjectKey : String
  flagKey : String
  allocationKey : Option String
  variationKey : Option String
deriving DecidableEq, Repr

/-- Whether an assignment can be recognized: its allocation and its variation have names. -/
def AssignmentKey.isCacheable (key : AssignmentKey) : Bool :=
  key.allocationKey.any (· != "") && key.variationKey.any (· != "")

/-- The key of a report. -/
def AssignmentEvent.key (event : AssignmentEvent) : AssignmentKey :=
  ⟨event.subject, event.featureFlag, event.allocation, event.variation⟩

/-- What is remembered about reports: those that were made, or nothing at all. -/
inductive AssignmentCache where
  | memory (seen : List AssignmentKey)
  | none
deriving DecidableEq, Repr

namespace AssignmentCache

/-- The memory without reports. -/
def empty : AssignmentCache := memory []

/-- Whether an assignment is to be reported, and what is remembered then. -/
def shouldLog (cache : AssignmentCache) (key : AssignmentKey) : Bool × AssignmentCache :=
  match cache with
  | memory seen =>
    if !key.isCacheable then (true, cache)
    else if seen.contains key then (false, cache)
    else (true, memory (key :: seen))
  | none => (true, none)

end AssignmentCache

end FeatureFlags
