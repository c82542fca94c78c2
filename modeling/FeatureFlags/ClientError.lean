import FeatureFlags.DecodeError
import FeatureFlags.FlagError

/-!
**Why an operation of a client fails.**

* `ClientError`: the causes, among them those of flags and of configurations.
* `ClientError.message?`: the wording, for the causes that have one of their own.
-/

namespace FeatureFlags

/-- Why an operation of a client fails. -/
inductive ClientError where
  | flag (error : FlagError)
  | decode (error : DecodeError)
  | invalidUrl
  | invalidResponse
  | badStatus (status : Nat)
  | unreadableBody
  | unauthorized
  | noRuntime
deriving DecidableEq, Repr

namespace ClientError

/-- The name of a cause. -/
def name : ClientError → String
  | flag error => error.name
  | decode error => error.name
  | invalidUrl => "InvalidUrl"
  | invalidResponse => "InvalidResponse"
  | badStatus _ => "HttpError"
  | unreadableBody => "Decoding"
  | unauthorized => "Unauthorized"
  | noRuntime => "NoRuntime"

/-- The wording of a cause. -/
def message? : ClientError → Option String
  | flag error => some error.message
  | decode error => error.message?
  | invalidUrl => some "invalid base_url configuration"
  | invalidResponse => some "invalid response from server"
  | badStatus status => some ("server responded with HTTP status " ++ toString status)
  | unreadableBody => none
  | unauthorized => some "unauthorized, api_key is likely invalid"
  | noRuntime => some "poller must be started from within a tokio runtime"

end ClientError

end FeatureFlags
