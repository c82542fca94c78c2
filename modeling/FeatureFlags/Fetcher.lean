import FeatureFlags.Assignment
import FeatureFlags.ClientError
import FeatureFlags.Url.Basic

/-!
**Asking the server for a configuration.**

A fetcher asks either for all flags or for the assignments of one subject. Once the server has
rejected the key, no more requests are sent. Any other failure leaves the fetcher as it was.

* `Fetcher.request`: the request for what is wanted, or why there is none.
* `Fetcher.receive`: what becomes of a response.
* `Fetcher.fetch`: both, with a transport in between.
-/

namespace FeatureFlags

/-! ### Requests and replies -/

/-- What is asked for. -/
inductive Wanted where
  | flags (materialization : Materialization)
  | assignments (subject : Subject)
deriving DecidableEq

/-- The two kinds of requests. -/
inductive RequestMethod where
  | get
  | post
deriving DecidableEq, Repr

/-- The name of a kind of request. -/
def RequestMethod.name : RequestMethod → String
  | get => "GET"
  | post => "POST"

/-- A request to a server. -/
structure Request where
  method : RequestMethod
  url : Url
  body : Option Json
deriving Repr

/-- A response of a server. -/
structure Response where
  status : Nat
  body : Octets
deriving DecidableEq, Repr

/-- What becomes of a request: it does not reach a server, the server gives no response, or it gives
one. -/
inductive Reply where
  | unreachable
  | closed
  | response (response : Response)
deriving DecidableEq, Repr

/-- How requests are answered. -/
abbrev Transport := Request → Reply

/-! ### Fetchers -/

/-- Where and as whom to ask, and whether the server has rejected the key. -/
structure Fetcher where
  baseUrl : String
  apiKey : String
  sdk : Sdk
  rejected : Bool
deriving DecidableEq, Repr

/-- What a fetch gives: the configuration or why there is none, the fetcher afterwards, the requests
that reached a server, and what is noted. -/
structure Fetched where
  result : Except ClientError Configuration
  fetcher : Fetcher
  requests : List Request
  notices : List Notice

namespace Fetcher

/-- The server that is asked unless another one is given. -/
def defaultBaseUrl : String := "https://fs-edge-assignment.eppo.cloud"

/-- A fetcher whose key has not been rejected. -/
def ofKey (baseUrl apiKey : String) (sdk : Sdk) : Fetcher := ⟨baseUrl, apiKey, sdk, false⟩

/-! ### Asking -/

/-- The fields that tell the server who asks. -/
def fields (fetcher : Fetcher) : List (String × String) :=
  [("apiKey", fetcher.apiKey), ("sdkName", fetcher.sdk.name), ("sdkVersion", fetcher.sdk.version)]

/-- Where a server answers. -/
def endpoint : Wanted → String
  | .flags _ => "/flag-config/v1/config"
  | .assignments _ => "/assignments"

/-- The method of a request. -/
def method : Wanted → RequestMethod
  | .flags _ => .get
  | .assignments _ => .post

/-- The body of a request. -/
def body? : Wanted → Option Json
  | .flags _ => none
  | .assignments subject =>
    some (.object
      [("subject_key", .string subject.key),
        ("subject_attributes", (ContextAttributes.ofAttributes subject.attributes).toJson)])

/-- The request for what is wanted, or why there is none. -/
def request (fetcher : Fetcher) (wanted : Wanted) : Except ClientError Request :=
  if fetcher.rejected then .error .unauthorized
  else
    match Url.ofText? (fetcher.baseUrl ++ endpoint wanted) with
    | none => .error .invalidUrl
    | some url => .ok ⟨method wanted, url.withFields fetcher.fields, body? wanted⟩

/-! ### Receiving -/

/-- The configuration that a body holds, with what is noted, or why it holds none. -/
def read (wanted : Wanted) (body : Octets) (now : Instant) :
    Except ClientError (Configuration × List Notice) :=
  match wanted with
  | .flags materialization =>
    match Decoder.ofOctets .json body materialization with
    | .ok (decoder, notices) => .ok (Configuration.ofFlags decoder now, notices)
    | .error error => .error (.decode error)
  | .assignments subject =>
    match PrecomputedResponse.ofOctets? body with
    | some response =>
      .ok (Configuration.ofPrecomputed (response.decode subject now), response.notices)
    | none => .error .unreadableBody

/-- What becomes of a response. -/
def receive (fetcher : Fetcher) (wanted : Wanted) (response : Response) (now : Instant) :
    Except ClientError Configuration × Fetcher × List Notice :=
  if response.status = 401 then
    (.error .unauthorized, { fetcher with rejected := true }, [.notAuthorized])
  else if response.status < 200 ∨ 300 ≤ response.status then
    (.error (.badStatus response.status), fetcher, [.badStatus response.status])
  else
    match read wanted response.body now with
    | .ok (configuration, notices) => (.ok configuration, fetcher, notices)
    | .error error => (.error error, fetcher, [])

/-- Ask for a configuration. Only addresses of the web are asked. -/
def fetch (fetcher : Fetcher) (wanted : Wanted) (transport : Transport) (now : Instant) : Fetched :=
  match fetcher.request wanted with
  | .error error => ⟨.error error, fetcher, [], []⟩
  | .ok request =>
    if request.url.isWeb then
      match transport request with
      | .unreachable => ⟨.error .invalidResponse, fetcher, [], []⟩
      | .closed => ⟨.error .invalidResponse, fetcher, [request], []⟩
      | .response response =>
        let (result, after, notices) := fetcher.receive wanted response now
        ⟨result, after, [request], notices⟩
    else ⟨.error .invalidResponse, fetcher, [], []⟩

end Fetcher

end FeatureFlags
