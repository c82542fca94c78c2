import FeatureFlags.FlagError

/-!
**What is noted for the operator of the program.**

Functions that have something to note return it as data. A notice has a level, a wording, and may
name a flag and a further detail.

* `Notice`: what may be noted.
* `Notice.level`, `Notice.message`, `Notice.flagKey?`, `Notice.detail?`: what is shown of it.
-/

namespace FeatureFlags

/-- How much a notice matters. -/
inductive NoticeLevel where
  | trace
  | debug
  | warn
deriving DecidableEq, Repr

/-- The name of a level. -/
def NoticeLevel.name : NoticeLevel → String
  | trace => "TRACE"
  | debug => "DEBUG"
  | warn => "WARN"

/-- Something noted. -/
inductive Notice where
  | flagEvaluated (flagKey : String)
  | notConfigured (flagKey : String)
  | defaultReturned (flagKey : String) (error : FlagError)
  | evaluationFailed (flagKey : String) (error : FlagError)
  | allocationSkipped (flagKey allocationKey : String) (reason : SkipReason)
  | variationMissing (flagKey : String)
  | valueUnconvertible (flagKey : String)
  | flagUndecodable (flagKey : String)
  | saltVerbatim
  | extraLoggingDropped (key : String)
  | saltMissing
  | precomputedFlagMalformed (flagKey : String)
  | precomputedValueDropped (flagKey : String)
  | precomputedFieldDropped (flagKey field : String)
  | notAuthorized
  | badStatus (status : Nat)
  | pollFailed
deriving DecidableEq, Repr

namespace Notice

/-- How much a notice matters. -/
def level : Notice → NoticeLevel
  | flagEvaluated _ | defaultReturned _ _ | allocationSkipped _ _ _ => .trace
  | _ => .warn

/-- The wording of a notice. -/
def message : Notice → String
  | flagEvaluated _ => "evaluated a flag"
  | notConfigured _ => "evaluating a flag before Eppo configuration has been fetched"
  | defaultReturned _ error => "returning default assignment because of: " ++ error.message
  | evaluationFailed _ error => "error occurred while evaluating a flag: " ++ error.message
  | allocationSkipped _ _ reason => "allocation skipped: " ++ reason.name
  | variationMissing _ => "internal: unable to find variation"
  | valueUnconvertible _ => "internal: unable to convert Value to AssignmentValue"
  | flagUndecodable _ => "failed to decode flag"
  | saltVerbatim => "configuration salt is not valid base64, using it verbatim"
  | extraLoggingDropped _ => "dropping extra logging entry that failed to decode"
  | saltMissing => "obfuscated precomputed configuration has no salt"
  | precomputedFlagMalformed _ => "dropping malformed precomputed flag"
  | precomputedValueDropped _ => "dropping precomputed flag with undecodable value"
  | precomputedFieldDropped _ _ => "failed to decode precomputed flag field"
  | notAuthorized => "client is not authorized. Check your API key"
  | badStatus _ => "received non-200 response while fetching new configuration"
  | pollFailed => "failed to fetch configuration, will retry on next poll"

/-- The flag that a notice names. -/
def flagKey? : Notice → Option String
  | flagEvaluated key | notConfigured key | defaultReturned key _ | evaluationFailed key _
  | allocationSkipped key _ _ | variationMissing key | valueUnconvertible key
  | flagUndecodable key | precomputedFlagMalformed key | precomputedValueDropped key
  | precomputedFieldDropped key _ => some key
  | _ => none

/-- The field or the key that a notice names besides. -/
def detail? : Notice → Option String
  | extraLoggingDropped key => some key
  | precomputedFieldDropped _ field => some field
  | _ => none

end Notice

end FeatureFlags
