/-!
**Why a configuration, or a flag of it, cannot be read.**

* `DecodeError`: the causes.
* `DecodeError.message?`: the wording, for the causes that have one of their own.
-/

namespace FeatureFlags

/-- Why a configuration or a flag cannot be read. -/
inductive DecodeError where
  | invalidJson
  | invalidProtobuf
  | invalidFlatbuffer
  | unknownVariationType (id : Int)
  | missingField (field : String)
  | invalidTimestamp (millis : Int)
deriving DecidableEq, Repr

namespace DecodeError

/-- The name of a cause. -/
def name : DecodeError → String
  | invalidJson => "InvalidJson"
  | invalidProtobuf => "InvalidProtobuf"
  | invalidFlatbuffer => "InvalidFlatbuffer"
  | unknownVariationType _ => "UnknownVariationType"
  | missingField _ => "MissingField"
  | invalidTimestamp _ => "InvalidTimestamp"

/-- The wording of a cause that is found after the octets were taken apart. -/
def message? : DecodeError → Option String
  | unknownVariationType id => some ("unknown variation type id: " ++ toString id)
  | missingField field => some ("missing required field: " ++ field)
  | invalidTimestamp millis => some ("timestamp out of range: " ++ toString millis)
  | _ => none

end DecodeError

/-- What a computation gives that a cause may prevent. -/
abbrev Decoded (α : Type) := Except DecodeError α

end FeatureFlags
