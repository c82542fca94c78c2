import FeatureFlags.Configuration.CacheFile
import FeatureFlags.Fetcher
import FeatureFlags.Poller.Basic

/-!
**Clients, which serve values and report them.**

A client serves values from the configuration in its store, and falls back to the default of its
caller. A value that is to be reported is reported once for each subject, flag, allocation and
variation. Configurations come from the disk when the client is opened, from the server, or from the
caller.

* `Client.valueOf`, `Client.evaluate`: the value of a flag, made elsewhere or here.
* `Client.set`, `Client.bootstrap`, `Client.fetch`: new configurations.
* `Client.poll`, `Client.tick`: what happens while the client polls.
-/

namespace FeatureFlags

/-- How a client is set up. Without a subject it fetches all flags. -/
structure ClientSettings where
  baseUrl : String
  apiKey : String
  sdk : Sdk
  subject : Option Subject
  cache : AssignmentCache
  store : StoreSettings

/-- A client. -/
structure Client where
  store : Store
  fetcher : Fetcher
  wanted : Wanted
  poller : Poller
  cache : AssignmentCache
  sdk : Sdk

namespace Client

/-! ### Opening -/

/-- What a client asks the server for. -/
def wantedOf (settings : ClientSettings) : Wanted :=
  match settings.subject with
  | some subject => .assignments subject
  | none => .flags settings.store.materialization

/-- A client, which starts from the configuration on disk if there is one. -/
def opened (settings : ClientSettings) (content : Option Octets) : Client × Publication :=
  let (_, store, publication) := (Store.ofSettings settings.store).load content
  (⟨store, .ofKey settings.baseUrl settings.apiKey settings.sdk, wantedOf settings, .idle,
    settings.cache, settings.sdk⟩, publication)

/-- Whether there is a configuration to serve from. -/
def isInitialized (client : Client) : Bool := client.store.isInitialized

/-! ### New configurations -/

/-- Serve from a configuration. -/
def set (client : Client) (configuration : Configuration) : Client × Publication :=
  let (store, publication) := client.store.set configuration
  ({ client with store }, publication)

/-- Serve from a configuration, if there is one and no error. -/
def accept (client : Client) (result : Except ClientError Configuration) :
    Except ClientError Unit × Client × Publication :=
  match result with
  | .ok configuration =>
    let (after, publication) := client.set configuration
    (.ok (), after, publication)
  | .error error => (.error error, client, .nothing)

/-- The configuration in an envelope, fetched at a given time unless it tells another. -/
def configurationOf (envelope : String) (now : Instant) : Except ClientError Configuration :=
  match (PrecomputedEnvelope.ofText envelope).bind fun envelope => envelope.decode now with
  | .ok precomputed => .ok (Configuration.ofPrecomputed precomputed)
  | .error error => .error (.decode error)

/-- Serve from the assignments in an envelope. -/
def bootstrap (client : Client) (envelope : String) (now : Instant) :
    Except ClientError Unit × Client × Publication :=
  client.accept (configurationOf envelope now)

/-- Fetch a configuration and serve from it, with what the fetch gave. -/
def fetch (client : Client) (transport : Transport) (now : Instant) :
    Except ClientError Unit × Client × Publication × Fetched :=
  let fetched := client.fetcher.fetch client.wanted transport now
  let (result, after, publication) :=
    { client with fetcher := fetched.fetcher }.accept fetched.result
  (result, after, publication, fetched)

/-! ### Polling -/

/-- What an event does to the poller of a client, and to its store. -/
def poll (client : Client) (event : PollEvent) : Client × PollEffect × Publication :=
  let (poller, effect) := client.poller.step event
  let (store, publication) := effect.apply client.store
  ({ client with poller, store }, effect, publication)

/-- The pause of the live run is over: fetch, and serve from what is fetched. Nothing happens unless
a run is pausing. -/
def tick (client : Client) (transport : Transport) (now : Instant) :
    Client × Publication × Option Fetched :=
  match client.poller.live with
  | some ⟨run, .pausing⟩ =>
    let (fetching, _, _) := client.poll (.pauseEnded run)
    let fetched := fetching.fetcher.fetch fetching.wanted transport now
    let (after, _, publication) :=
      { fetching with fetcher := fetched.fetcher }.poll (.fetchEnded run fetched.result)
    (after, publication, some fetched)
  | _ => (client, .nothing, none)

/-! ### Values -/

/-- Report an assignment unless it was reported before. -/
def report (client : Client) (assignment : Assignment) : Client × List AssignmentEvent :=
  match assignment.event with
  | none => (client, [])
  | some event =>
    let (isNew, cache) := client.cache.shouldLog event.key
    ({ client with cache }, if isNew then [event] else [])

/-- The value of what was assigned, with the report of it; nothing without an assignment. -/
def finish (client : Client) (result : Except FlagError (Option Assignment)) :
    Option Value × Client × List AssignmentEvent :=
  match result with
  | .ok (some assignment) =>
    let (after, events) := client.report assignment
    (some assignment.value, after, events)
  | _ => (none, client, [])

/-- A question to the client. -/
def query (client : Client) (flagKey : String) (type : VariationType) (now : Instant) : Query :=
  ⟨flagKey, some type, now, client.sdk⟩

/-- The value of a flag of a type for the subject that assignments were made for. -/
def assigned (client : Client) (flagKey : String) (type : VariationType) (now : Instant) :
    Option Value × Client × List AssignmentEvent :=
  client.finish
    (Configuration.assignPrecomputed client.store.active (client.query flagKey type now))

/-- What a reader takes from the value of a flag, and else the default. -/
def valueOf {α : Type} (client : Client) (flagKey : String) (type : VariationType)
    (read? : Value → Option α) (default : α) (now : Instant) :
    α × Client × List AssignmentEvent :=
  let (value, after, events) := client.assigned flagKey type now
  ((value.bind read?).getD default, after, events)

/-- The value of a flag of texts. -/
def text (client : Client) (flagKey default : String) (now : Instant) :
    String × Client × List AssignmentEvent :=
  client.valueOf flagKey .string Value.text? default now

/-- The value of a flag of truth values. -/
def boolean (client : Client) (flagKey : String) (default : Bool) (now : Instant) :
    Bool × Client × List AssignmentEvent :=
  client.valueOf flagKey .boolean Value.boolean? default now

/-- The value of a flag of whole numbers. -/
def integer (client : Client) (flagKey : String) (default : Int64) (now : Instant) :
    Int64 × Client × List AssignmentEvent :=
  client.valueOf flagKey .integer Value.integer? default now

/-- The value of a flag of numbers. -/
def numeric (client : Client) (flagKey : String) (default : Double) (now : Instant) :
    Double × Client × List AssignmentEvent :=
  client.valueOf flagKey .numeric Value.numeric? default now

/-- The value of a flag of documents. -/
def json (client : Client) (flagKey : String) (default : Json) (now : Instant) :
    Json × Client × List AssignmentEvent :=
  client.valueOf flagKey .json Value.json? default now

/-- The value that a flag of the default's type serves a subject, and else the default. -/
def evaluate (client : Client) (flagKey : String) (subject : Subject) (default : Value)
    (now : Instant) : Value × Client × List AssignmentEvent :=
  let (value, after, events) := client.finish
    (Configuration.assign client.store.active (client.query flagKey default.type now) subject)
  (value.getD default, after, events)

end Client

end FeatureFlags
