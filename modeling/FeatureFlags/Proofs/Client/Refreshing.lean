import FeatureFlags.Client
import FeatureFlags.Proofs.Configuration.Publishing
import Mathlib.Logic.Function.Basic

/-!
**Refreshing a client: failures change nothing, and a rejected key stops the traffic.**

A caller sets a configuration, hands over an envelope, or asks the server, and the runs of the
poller ask the server as well. What was asked is answered later, or never, and much may happen in
between. Every operation ends at once, or when its answer comes. Only the response that rejects the
key outlives the operation that it answers.

* `RefreshSession`, `RefreshSession.step`: a client with the requests that are under way.
* `Client.Moves`: what becomes of a client, and what comes of that.
* `RefreshSession.accounts_step`, `RefreshSession.moves_run`: this for a step, and for a run.
* `RefreshSession.Steady`: what operations do and which requests are sent, at any time.
* `Client.failed_refreshes_change_nothing`: this for every client and all that happens to it.
-/

namespace FeatureFlags

/-! ### Operations -/

/-- Who asks the server: a caller, or a run of the poller. -/
inductive Asker where
  | caller (number : Nat)
  | run (number : Nat)
deriving DecidableEq

/-- A step: an operation that needs no server; a caller asks the server, or the pause of a run is
over; a request is answered, or nobody waits for the answer any more. -/
inductive RefreshEvent where
  | set (configuration : Configuration)
  | bootstrap (envelope : String) (now : Instant)
  | start (inRuntime : Bool)
  | stop
  | ask (call : Nat) (wanted : Wanted)
  | tick (run : Nat)
  | answer (asker : Asker) (reply : Reply) (now : Instant)
  | abandon (asker : Asker)

/-- What comes of a step: how the operation ended that ended in it, what came of the store, the
request that was sent, and the response that was received. -/
structure RefreshOutcome where
  result : Option (Except ClientError Configuration)
  publication : Publication
  sent : Option Request
  received : Option Response

namespace RefreshOutcome

/-- Nothing. -/
def quiet : RefreshOutcome := ⟨none, .nothing, none, none⟩

/-- The configuration of an operation that has succeeded. -/
def stored? (outcome : RefreshOutcome) : Option Configuration :=
  outcome.result.bind Except.toOption

/-- Whether the server has rejected the key. -/
def rejects (outcome : RefreshOutcome) : Bool :=
  outcome.received.any fun response => response.status = 401

end RefreshOutcome

/-- How a fetch of the poller has ended. What a stopped run has fetched comes to nothing. -/
def PollEffect.result? : PollEffect → Option (Except ClientError Configuration)
  | .store configuration => some (.ok configuration)
  | .retry error => some (.error error)
  | _ => Option.none

/-- What came of the steps so far, in the order of time. -/
abbrev RefreshHistory := List RefreshOutcome

/-- A client, with what is asked for by the requests that are under way. -/
structure RefreshSession where
  client : Client
  pending : Asker → Option Wanted

namespace RefreshSession

/-- A client before anything was asked. -/
def opened (client : Client) : RefreshSession := ⟨client, fun _ => none⟩

/-- An operation that asked the server ends. -/
def conclude (session : RefreshSession) (asker : Asker)
    (result : Except ClientError Configuration) : RefreshSession × RefreshOutcome :=
  let pending := Function.update session.pending asker none
  match asker with
  | .caller _ =>
    let (_, client, publication) := session.client.accept result
    (⟨client, pending⟩, ⟨some result, publication, none, none⟩)
  | .run number =>
    let (client, effect, publication) := session.client.poll (.fetchEnded number result)
    (⟨client, pending⟩, ⟨effect.result?, publication, none, none⟩)

/-- A request is sent, or it is clear that none can be. -/
def send (session : RefreshSession) (asker : Asker) (wanted : Wanted) :
    RefreshSession × RefreshOutcome :=
  match session.client.fetcher.request wanted with
  | .error error => session.conclude asker (.error error)
  | .ok request =>
    if request.url.isWeb then
      ({ session with pending := Function.update session.pending asker (some wanted) },
        { RefreshOutcome.quiet with sent := some request })
    else session.conclude asker (.error .invalidResponse)

/-- A request is answered. -/
def receive (session : RefreshSession) (asker : Asker) (wanted : Wanted) (now : Instant) :
    Reply → RefreshSession × RefreshOutcome
  | .unreachable | .closed => session.conclude asker (.error .invalidResponse)
  | .response response =>
    let received := session.client.fetcher.receive wanted response now
    let client := { session.client with fetcher := received.2.1 }
    let (after, outcome) := { session with client }.conclude asker received.1
    (after, { outcome with received := some response })

/-- The poller goes on. -/
def poll (session : RefreshSession) (event : PollEvent) : RefreshSession × PollEffect :=
  let (client, effect, _) := session.client.poll event
  ({ session with client }, effect)

/-- One step. -/
def step (session : RefreshSession) : RefreshEvent → RefreshSession × RefreshOutcome
  | .set configuration =>
    let (client, publication) := session.client.set configuration
    ({ session with client }, ⟨some (.ok configuration), publication, none, none⟩)
  | .bootstrap envelope now =>
    let (_, client, publication) := session.client.bootstrap envelope now
    ({ session with client }, ⟨some (Client.configurationOf envelope now), publication, none, none⟩)
  | .start inRuntime => ((session.poll (.start inRuntime)).1, .quiet)
  | .stop => ((session.poll .stop).1, .quiet)
  | .ask call wanted =>
    match session.pending (.caller call) with
    | none => session.send (.caller call) wanted
    | some _ => (session, .quiet)
  | .tick run =>
    match session.poll (.pauseEnded run) with
    | (fetching, .fetch) => fetching.send (.run run) fetching.client.wanted
    | (after, _) => (after, .quiet)
  | .answer asker reply now =>
    match session.pending asker with
    | some wanted => session.receive asker wanted now reply
    | none => (session, .quiet)
  | .abandon asker =>
    ({ session with pending := Function.update session.pending asker none }, .quiet)

/-- The steps of a schedule, with what comes of each. -/
def run (session : RefreshSession) : List RefreshEvent → RefreshSession × RefreshHistory
  | [] => (session, [])
  | event :: rest =>
    let (after, outcome) := session.step event
    let (last, history) := after.run rest
    (last, outcome :: history)

end RefreshSession

/-! ### Histories -/

namespace RefreshHistory

/-- The configurations of the operations that have succeeded. -/
def stored (history : RefreshHistory) : List Configuration :=
  history.filterMap RefreshOutcome.stored?

/-- What came of the store. -/
def published (history : RefreshHistory) : Publication :=
  history.foldr (fun outcome rest => outcome.publication ++ rest) .nothing

/-- The responses that were received. -/
def received (history : RefreshHistory) : List Response :=
  history.filterMap RefreshOutcome.received

/-- Whether the server has rejected the key. -/
def rejects (history : RefreshHistory) : Bool := history.any RefreshOutcome.rejects

theorem stored_cons (outcome : RefreshOutcome) (rest : RefreshHistory) :
    stored (outcome :: rest) = outcome.stored?.toList ++ rest.stored := by
  rw [stored, List.filterMap_cons]
  cases outcome.stored? <;> rfl

theorem rejects_iff {history : RefreshHistory} :
    history.rejects ↔ ∃ response ∈ history.received, response.status = 401 := by
  simp only [rejects, received, RefreshOutcome.rejects, List.any_eq_true, List.mem_filterMap,
    Option.any_eq_true, decide_eq_true_eq]
  constructor
  · rintro ⟨outcome, member, response, isReceived, unauthorized⟩
    exact ⟨response, ⟨outcome, member, isReceived⟩, unauthorized⟩
  · rintro ⟨response, ⟨outcome, member, isReceived⟩, unauthorized⟩
    exact ⟨outcome, member, response, isReceived, unauthorized⟩

end RefreshHistory

/-! ### What a step does -/

namespace Store

/-- What comes of a store that configurations are set in, one after another. -/
def published (store : Store) (configurations : List Configuration) : Publication :=
  ⟨if store.settings.persists then configurations else [], store.announced configurations⟩

theorem published_nil (store : Store) : store.published [] = .nothing := by
  simp [published, announced, Publication.nothing]

theorem published_append (store : Store) (earlier later : List Configuration) :
    store.published (earlier ++ later) = store.published earlier ++ store.published later := by
  unfold published announced
  split <;> split <;> rfl

end Store

/-- What becomes of a client: its store holds what was stored last, its fetcher remembers that the
key was rejected, and what came of the store is what comes of storing that. -/
structure Client.Moves (before after : Client) (stored : List Configuration)
    (publication : Publication) (rejects : Bool) : Prop where
  store : after.store = { before.store with active := stored.getLast?.or before.store.active }
  publication : publication = before.store.published stored
  fetcher : after.fetcher = { before.fetcher with rejected := before.fetcher.rejected || rejects }
  wanted : after.wanted = before.wanted

namespace Client

variable {before between after : Client} {stored more : List Configuration}
  {publication further : Publication} {rejects again : Bool}

/-- The poller is nothing to the rest of a client. -/
theorem moves_poller (client : Client) (poller : Poller) :
    client.Moves { client with poller } [] .nothing false where
  store := rfl
  publication := (Store.published_nil _).symm
  fetcher := by rw [Bool.or_false]
  wanted := rfl

theorem moves_set (client : Client) (configuration : Configuration) :
    client.Moves (client.set configuration).1 [configuration] (client.set configuration).2
      false where
  store := rfl
  publication := rfl
  fetcher := by rw [Bool.or_false]; rfl
  wanted := rfl

theorem Moves.trans (moves : before.Moves between stored publication rejects)
    (moves' : between.Moves after more further again) :
    before.Moves after (stored ++ more) (publication ++ further) (rejects || again) where
  store := by
    rw [moves'.store, moves.store, List.getLast?_append, Option.or_assoc]
  publication := by
    rw [moves.publication, moves'.publication, Store.published_append, moves.store]
    rfl
  fetcher := by rw [moves'.fetcher, moves.fetcher, Bool.or_assoc]
  wanted := moves'.wanted.trans moves.wanted

theorem moves_accept (client : Client) (result : Except ClientError Configuration) :
    let (_, after, publication) := client.accept result
    client.Moves after result.toOption.toList publication false := by
  cases result with
  | ok configuration => exact client.moves_set configuration
  | error error => exact client.moves_poller client.poller

theorem told_accept (client : Client) (result : Except ClientError Configuration) :
    (client.accept result).1 = result.map fun _ => () := by
  cases result <;> rfl

/-- What a poller brings about, stored or not. -/
theorem moves_poll (client : Client) (event : PollEvent) :
    let (after, effect, publication) := client.poll event
    client.Moves after (effect.result?.bind Except.toOption).toList publication false := by
  unfold poll
  rcases client.poller.step event with ⟨poller, effect⟩
  cases effect with
  | store configuration =>
    have moved := (client.moves_poller poller).trans (moves_set _ configuration)
    exact moved
  | none | answer | fetch | retry => exact client.moves_poller poller

end Client

/-- The request that is sent for what is wanted, unless the key was rejected; there is none without
an address of the web. -/
def Fetcher.sendable? (fetcher : Fetcher) (wanted : Wanted) : Option Request :=
  (fetcher.request wanted).toOption.filter fun request => request.url.isWeb

/-- The only response that changes a fetcher is the one that rejects its key. -/
theorem Fetcher.receive_fetcher (fetcher : Fetcher) (wanted : Wanted) (response : Response)
    (now : Instant) :
    (fetcher.receive wanted response now).2.1 =
      { fetcher with rejected := fetcher.rejected || response.status = 401 } := by
  unfold receive
  split
  case isTrue rejects => simp [rejects]
  case isFalse accepts =>
    have same : fetcher =
        { fetcher with rejected := fetcher.rejected || response.status = 401 } := by
      simp [accepts]
    split
    · exact same
    · split <;> exact same

namespace RefreshSession

/-- What a step does to the client is what comes of it. -/
def Accounts (session : RefreshSession) (stepped : RefreshSession × RefreshOutcome) : Prop :=
  session.client.Moves stepped.1.client stepped.2.stored?.toList stepped.2.publication
    stepped.2.rejects

variable {session : RefreshSession}

theorem accounts_quiet (session : RefreshSession) (pending : Asker → Option Wanted)
    (sent : Option Request) :
    session.Accounts (⟨session.client, pending⟩, { RefreshOutcome.quiet with sent }) :=
  session.client.moves_poller session.client.poller

theorem accounts_conclude (session : RefreshSession) (asker : Asker)
    (result : Except ClientError Configuration) :
    session.Accounts (session.conclude asker result) := by
  cases asker with
  | caller call => exact session.client.moves_accept result
  | run number => exact session.client.moves_poll (.fetchEnded number result)

/-- No response is received when an operation ends by itself. -/
theorem rejects_conclude (asker : Asker) (result : Except ClientError Configuration) :
    (session.conclude asker result).2.rejects = false := by
  cases asker <;> rfl

theorem accounts_send (session : RefreshSession) (asker : Asker) (wanted : Wanted) :
    session.Accounts (session.send asker wanted) := by
  unfold send
  split
  case h_1 error _ => exact session.accounts_conclude asker (.error error)
  case h_2 request _ =>
    split
    · exact session.accounts_quiet _ _
    · exact session.accounts_conclude asker (.error .invalidResponse)

theorem accounts_receive (session : RefreshSession) (asker : Asker) (wanted : Wanted)
    (now : Instant) (reply : Reply) :
    session.Accounts (session.receive asker wanted now reply) := by
  cases reply with
  | unreachable | closed => exact session.accounts_conclude asker (.error .invalidResponse)
  | response response =>
    let received := session.client.fetcher.receive wanted response now
    let told : RefreshSession :=
      { session with client := { session.client with fetcher := received.2.1 } }
    have latched : session.client.Moves told.client [] .nothing (response.status = 401) :=
      ⟨rfl, (Store.published_nil _).symm, Fetcher.receive_fetcher .., rfl⟩
    have moves := latched.trans (told.accounts_conclude asker received.1)
    rw [rejects_conclude, Bool.or_false] at moves
    exact moves

/-- A run that pauses begins to fetch. -/
def fetching (session : RefreshSession) (run : Nat) : RefreshSession :=
  { session with
    client := { session.client with
      poller := { session.client.poller with live := some ⟨run, .fetching⟩ } } }

theorem step_tick (session : RefreshSession) (run : Nat) :
    session.step (.tick run) =
      if session.client.poller.live = some ⟨run, .pausing⟩ then
        (session.fetching run).send (.run run) session.client.wanted
      else (session, .quiet) := by
  simp only [step, poll, Client.poll, Poller.step]
  by_cases pausing : session.client.poller.live = some ⟨run, .pausing⟩
  · rw [if_pos pausing, if_pos pausing]
    rfl
  · rw [if_neg pausing, if_neg pausing]
    rfl

/-- **What a step does to the client is what comes of it.** -/
theorem accounts_step (session : RefreshSession) (event : RefreshEvent) :
    session.Accounts (session.step event) := by
  cases event with
  | set configuration => exact session.client.moves_set configuration
  | bootstrap envelope now =>
    exact session.client.moves_accept (Client.configurationOf envelope now)
  | start inRuntime => exact session.client.moves_poller _
  | stop => exact session.client.moves_poller _
  | ask call wanted =>
    simp only [step]
    split
    · exact session.accounts_send _ wanted
    · exact session.accounts_quiet _ _
  | tick run =>
    rw [step_tick]
    split
    · have began := session.client.moves_poller (session.fetching run).client.poller
      exact began.trans ((session.fetching run).accounts_send _ _)
    · exact session.accounts_quiet _ _
  | answer asker reply now =>
    simp only [step]
    split
    case h_1 wanted _ => exact session.accounts_receive asker wanted now reply
    case h_2 => exact session.accounts_quiet _ _
  | abandon asker => exact session.accounts_quiet _ _

/-- **What a run does to the client is what comes of its steps.** -/
theorem moves_run (session : RefreshSession) (events : List RefreshEvent) :
    let (last, history) := session.run events
    session.client.Moves last.client history.stored history.published history.rejects := by
  induction events generalizing session with
  | nil => exact session.client.moves_poller session.client.poller
  | cons event rest ih =>
    have moves := (session.accounts_step event).trans (ih (session.step event).1)
    rw [← RefreshHistory.stored_cons] at moves
    exact moves

/-! ### A rejected key -/

theorem sent_conclude (asker : Asker) (result : Except ClientError Configuration) :
    (session.conclude asker result).2.sent = none := by
  cases asker <;> rfl

theorem sent_send (session : RefreshSession) (asker : Asker) (wanted : Wanted) :
    (session.send asker wanted).2.sent = session.client.fetcher.sendable? wanted := by
  unfold send Fetcher.sendable?
  cases session.client.fetcher.request wanted with
  | error error => exact sent_conclude asker (.error error)
  | ok request =>
    by_cases isWeb : request.url.isWeb
    · simp [isWeb, Except.toOption, Option.filter_some]
    · simp [isWeb, Except.toOption, Option.filter_some, sent_conclude]

theorem sent_receive (asker : Asker) (wanted : Wanted) (now : Instant) (reply : Reply) :
    (session.receive asker wanted now reply).2.sent = none := by
  cases reply <;> exact sent_conclude _ _

/-- The run that fetches ends its fetch with what is given. -/
theorem result_conclude {run : Nat} (result : Except ClientError Configuration)
    (fetching : session.client.poller.live = some ⟨run, .fetching⟩) :
    (session.conclude (.run run) result).2.result = some result := by
  cases result <;> simp [conclude, Client.poll, Poller.step, fetching, PollEffect.result?]

/-- A fetch that fails leaves the run pausing, and the rest of the client as it was. -/
theorem client_conclude {run : Nat} (error : ClientError)
    (fetching : session.client.poller.live = some ⟨run, .fetching⟩) :
    (session.conclude (.run run) (.error error)).1.client =
      { session.client with
        poller := { session.client.poller with live := some ⟨run, .pausing⟩ } } := by
  simp [conclude, Client.poll, Poller.step, fetching, PollEffect.apply]

theorem send_of_rejected (asker : Asker) (wanted : Wanted)
    (rejected : session.client.fetcher.rejected = true) :
    session.send asker wanted = session.conclude asker (.error .unauthorized) := by
  simp [send, Fetcher.request, rejected]

/-- Once the key was rejected nothing is sent. -/
theorem sent_of_rejected (rejected : session.client.fetcher.rejected = true)
    (event : RefreshEvent) : (session.step event).2.sent = none := by
  cases event with
  | ask call wanted =>
    simp only [step]
    split
    · rw [send_of_rejected _ _ rejected, sent_conclude]
    · rfl
  | tick run =>
    rw [step_tick]
    split
    · have same : (session.fetching run).client.fetcher.rejected = true := rejected
      rw [send_of_rejected _ _ same, sent_conclude]
    · rfl
  | answer asker reply now =>
    simp only [step]
    split
    · exact sent_receive ..
    · rfl
  | set | bootstrap | start | stop | abandon => rfl

/-- A caller asks. -/
theorem step_ask {call : Nat} (free : session.pending (.caller call) = none) (wanted : Wanted) :
    session.step (.ask call wanted) = session.send (.caller call) wanted := by
  simp only [step, free]

/-- Whether a request is sent is up to the fetcher. -/
theorem sent_ask {call : Nat} (free : session.pending (.caller call) = none) (wanted : Wanted) :
    (session.step (.ask call wanted)).2.sent = session.client.fetcher.sendable? wanted := by
  rw [step_ask free, sent_send]

theorem sent_tick {run : Nat} (pausing : session.client.poller.live = some ⟨run, .pausing⟩) :
    (session.step (.tick run)).2.sent =
      session.client.fetcher.sendable? session.client.wanted := by
  rw [step_tick, if_pos pausing, sent_send]
  rfl

/-- A step that ends an operation because the key was rejected: it sends nothing, and leaves the
client as it was. -/
structure Refuses (session : RefreshSession) (event : RefreshEvent) : Prop where
  result : (session.step event).2.result = some (.error .unauthorized)
  sent : (session.step event).2.sent = none
  client : (session.step event).1.client = session.client

theorem refuses_ask {call : Nat} (rejected : session.client.fetcher.rejected = true)
    (free : session.pending (.caller call) = none) (wanted : Wanted) :
    session.Refuses (.ask call wanted) where
  result := by rw [step_ask free, send_of_rejected _ _ rejected]; rfl
  sent := sent_of_rejected rejected _
  client := by rw [step_ask free, send_of_rejected _ _ rejected]; rfl

theorem refuses_tick {run : Nat} (rejected : session.client.fetcher.rejected = true)
    (pausing : session.client.poller.live = some ⟨run, .pausing⟩) :
    session.Refuses (.tick run) := by
  have same : (session.fetching run).client.fetcher.rejected = true := rejected
  have stepped : session.step (.tick run) =
      (session.fetching run).conclude (.run run) (.error .unauthorized) := by
    rw [step_tick, if_pos pausing, send_of_rejected _ _ same]
  refine ⟨?_, sent_of_rejected rejected _, ?_⟩
  · rw [stepped]
    exact result_conclude _ rfl
  · rw [stepped, client_conclude _ rfl]
    have back : { session.client.poller with live := some ⟨run, .pausing⟩ } =
        session.client.poller := by
      rw [← pausing]
    exact congrArg (fun poller => { session.client with poller }) back

/-! ### Operations that nothing comes between -/

/-- What an operation comes to that ended in a step: the client afterwards, what came of the store,
and how it ended. -/
def verdict (stepped : RefreshSession × RefreshOutcome) :
    Client × Publication × Option (Except ClientError Configuration) :=
  (stepped.1.client, stepped.2.publication, stepped.2.result)

/-- What a step comes to, with the answer to the request that it has sent. -/
def exchange (session : RefreshSession) (event : RefreshEvent) (asker : Asker)
    (transport : Transport) (now : Instant) :
    Client × Publication × Option (Except ClientError Configuration) :=
  let (asked, outcome) := session.step event
  match outcome.sent with
  | some request =>
    let (client, publication, result) :=
      verdict (asked.step (.answer asker (transport request) now))
    (client, outcome.publication ++ publication, result)
  | none => verdict (asked, outcome)

/-- An operation ends with what a fetch has given. -/
def fetched (session : RefreshSession) (asker : Asker) (fetched : Fetched) :
    RefreshSession × RefreshOutcome :=
  { session with client := { session.client with fetcher := fetched.fetcher } }.conclude asker
    fetched.result

/-- Where no request is sent the operation ends at once, as the fetch does. -/
theorem send_of_unsendable {asker : Asker} {wanted : Wanted}
    (unsendable : session.client.fetcher.sendable? wanted = none) (transport : Transport)
    (now : Instant) :
    session.send asker wanted =
      session.fetched asker (session.client.fetcher.fetch wanted transport now) := by
  unfold send Fetcher.fetch
  unfold Fetcher.sendable? at unsendable
  cases sought : session.client.fetcher.request wanted with
  | error error => rfl
  | ok request =>
    have other : request.url.isWeb = false := by
      simpa [sought, Except.toOption, Option.filter_some] using unsendable
    simp only [other]
    rfl

theorem request_of_sendable {fetcher : Fetcher} {wanted : Wanted} {request : Request}
    (sendable : fetcher.sendable? wanted = some request) :
    fetcher.request wanted = .ok request ∧ request.url.isWeb := by
  unfold Fetcher.sendable? at sendable
  obtain ⟨sought, isWeb⟩ := Option.filter_eq_some_iff.mp sendable
  cases made : fetcher.request wanted with
  | error error =>
    rw [made] at sought
    cases sought
  | ok other =>
    rw [made] at sought
    cases sought
    exact ⟨rfl, isWeb⟩

/-- A request that is sent is under way. -/
theorem send_of_sendable {asker : Asker} {wanted : Wanted} {request : Request}
    (sendable : session.client.fetcher.sendable? wanted = some request) :
    session.send asker wanted =
      ({ session with pending := Function.update session.pending asker (some wanted) },
        { RefreshOutcome.quiet with sent := some request }) := by
  obtain ⟨made, isWeb⟩ := request_of_sendable sendable
  simp only [send, made, isWeb, if_true]

/-- The answer to a request that was sent ends the operation as the fetch does. -/
theorem verdict_receive (session : RefreshSession) {asker : Asker} {wanted : Wanted}
    {request : Request} (sendable : session.client.fetcher.sendable? wanted = some request)
    (transport : Transport) (now : Instant) :
    verdict (session.receive asker wanted now (transport request)) =
      verdict (session.fetched asker (session.client.fetcher.fetch wanted transport now)) := by
  obtain ⟨made, isWeb⟩ := request_of_sendable sendable
  simp only [Fetcher.fetch, made, isWeb, if_true]
  cases transport request <;> rfl

/-- What an operation comes to does not depend on the requests of others. -/
theorem verdict_fetched (pending : Asker → Option Wanted) (asker : Asker) (given : Fetched) :
    verdict ({ session with pending }.fetched asker given) =
      verdict (session.fetched asker given) := by
  cases asker <;> rfl

/-- An exchange ends the operation as a fetch does. -/
theorem exchange_of_send {began : RefreshSession} {event : RefreshEvent} {asker : Asker}
    {wanted : Wanted} (stepped : session.step event = began.send asker wanted)
    (transport : Transport) (now : Instant) :
    session.exchange event asker transport now =
      verdict (began.fetched asker (began.client.fetcher.fetch wanted transport now)) := by
  unfold exchange
  rw [stepped]
  cases sendable : began.client.fetcher.sendable? wanted with
  | none =>
    have unsent := (began.sent_send asker wanted).trans sendable
    simp only [unsent]
    rw [send_of_unsendable sendable transport now]
  | some request =>
    let asked : RefreshSession :=
      { began with pending := Function.update began.pending asker (some wanted) }
    have answered : verdict (asked.receive asker wanted now (transport request)) =
        verdict (began.fetched asker (began.client.fetcher.fetch wanted transport now)) :=
      (asked.verdict_receive sendable transport now).trans
        (verdict_fetched asked.pending asker _)
    rw [send_of_sendable sendable]
    simp only [step, Function.update_self]
    rw [answered]
    exact congrArg (fun publication => (_, publication, _)) (Publication.nothing_append _)

/-- **A caller that asks and is answered fetches.** -/
theorem exchange_ask {call : Nat} (free : session.pending (.caller call) = none)
    (transport : Transport) (now : Instant) :
    session.exchange (.ask call session.client.wanted) (.caller call) transport now =
      let (_, client, publication, fetched) := session.client.fetch transport now
      (client, publication, some fetched.result) :=
  exchange_of_send (step_ask free session.client.wanted) transport now

/-- **A run whose pause is over and that is answered ticks.** -/
theorem exchange_tick {run : Nat} (pausing : session.client.poller.live = some ⟨run, .pausing⟩)
    (transport : Transport) (now : Instant) :
    session.exchange (.tick run) (.run run) transport now =
      let (client, publication, fetched?) := session.client.tick transport now
      (client, publication, fetched?.map Fetched.result) := by
  have stepped : session.step (.tick run) =
      (session.fetching run).send (.run run) session.client.wanted := by
    rw [step_tick, if_pos pausing]
  have polled : session.client.poll (.pauseEnded run) =
      ((session.fetching run).client, .fetch, .nothing) := by
    simp only [Client.poll, Poller.step, if_pos pausing]
    rfl
  rw [exchange_of_send stepped]
  unfold Client.tick
  simp only [pausing, polled]
  have ends (fetched : Fetched) :
      verdict ((session.fetching run).fetched (.run run) fetched) = (_, _, some fetched.result) :=
    congrArg (fun result => (_, _, result)) (result_conclude fetched.result rfl)
  exact ends _

/-! ### Failures change nothing -/

/-- What operations do and which requests are sent, at any time. -/
structure Steady (session : RefreshSession) (client : Client) (history : RefreshHistory) :
    Prop where
  /-- An operation that ends in an error leaves the store as it was, and nothing comes of it. -/
  failed : ∀ event error, (session.step event).2.result = some (.error error) →
    (session.step event).1.client.store = session.client.store ∧
      (session.step event).2.publication = .nothing
  /-- One that succeeds stores one configuration, announces it once and queues it once. -/
  succeeded : ∀ event configuration, (session.step event).2.result = some (.ok configuration) →
    (session.step event).1.client.store =
        { session.client.store with active := some configuration } ∧
      (session.step event).2.publication.announced =
        (if session.client.store.settings.listens then [configuration] else []) ∧
      (session.step event).2.publication.queued =
        (if session.client.store.settings.persists then [configuration] else [])
  /-- As long as no operation ends nothing happens to the store. -/
  underWay : ∀ event, (session.step event).2.result = none →
    (session.step event).1.client.store = session.client.store ∧
      (session.step event).2.publication = .nothing
  /-- All that was ever stored, announced and queued is what operations have succeeded with. -/
  store : session.client.store =
      { client.store with active := history.stored.getLast?.or client.store.active } ∧
    history.published = client.store.published history.stored
  /-- Once the server has rejected the key, whoever asks is told so, and nothing is sent. -/
  refused : (∃ response ∈ history.received, response.status = 401) →
    (∀ event, (session.step event).2.sent = none) ∧
      (∀ call wanted, session.pending (.caller call) = none →
        session.Refuses (.ask call wanted)) ∧
      (∀ run, session.client.poller.live = some ⟨run, .pausing⟩ → session.Refuses (.tick run)) ∧
      ∀ wanted transport now,
        session.client.fetcher.fetch wanted transport now =
          ⟨.error .unauthorized, session.client.fetcher, [], []⟩
  /-- Until then whoever asks sends what would have been sent at first, whatever failed since. -/
  asked : (∀ response ∈ history.received, response.status ≠ 401) →
    session.client.fetcher = client.fetcher ∧
      (∀ call wanted, session.pending (.caller call) = none →
        (session.step (.ask call wanted)).2.sent = client.fetcher.sendable? wanted) ∧
      ∀ run, session.client.poller.live = some ⟨run, .pausing⟩ →
        (session.step (.tick run)).2.sent = client.fetcher.sendable? client.wanted
  /-- A caller is told whether its operation has succeeded. -/
  told :
    (∀ transport now, (session.client.fetch transport now).1 =
      (session.client.fetch transport now).2.2.2.result.map fun _ => ()) ∧
    ∀ envelope now, (session.client.bootstrap envelope now).1 =
      (Client.configurationOf envelope now).map fun _ => ()
  /-- A caller that asks and is answered at once has fetched. -/
  fetches : ∀ call transport now, session.pending (.caller call) = none →
    session.exchange (.ask call session.client.wanted) (.caller call) transport now =
      let (_, after, publication, fetched) := session.client.fetch transport now
      (after, publication, some fetched.result)
  /-- A run whose pause is over and that is answered at once has ticked. -/
  ticks : ∀ run transport now, session.client.poller.live = some ⟨run, .pausing⟩ →
    session.exchange (.tick run) (.run run) transport now =
      let (after, publication, fetched?) := session.client.tick transport now
      (after, publication, fetched?.map Fetched.result)

theorem Accounts.failed_or_underWay {stepped : RefreshSession × RefreshOutcome}
    (accounts : session.Accounts stepped) (unstored : stepped.2.stored? = none) :
    stepped.1.client.store = session.client.store ∧ stepped.2.publication = .nothing := by
  obtain ⟨store, publication, -, -⟩ := accounts
  rw [unstored] at store publication
  exact ⟨store, publication.trans (Store.published_nil _)⟩

theorem Accounts.succeeded {stepped : RefreshSession × RefreshOutcome}
    (accounts : session.Accounts stepped) {configuration : Configuration}
    (stored : stepped.2.stored? = some configuration) :
    stepped.1.client.store = { session.client.store with active := some configuration } ∧
      stepped.2.publication = session.client.store.published [configuration] := by
  obtain ⟨store, publication, -, -⟩ := accounts
  rw [stored] at store publication
  exact ⟨store, publication⟩

/-- A session whose history accounts for it is steady. -/
theorem steady_of_moves {client : Client} {history : RefreshHistory}
    (moves : client.Moves session.client history.stored history.published history.rejects)
    (fresh : client.fetcher.rejected = false) : session.Steady client history := by
  have latched : session.client.fetcher.rejected = history.rejects := by
    rw [moves.fetcher, fresh, Bool.false_or]
  have accounts := session.accounts_step
  refine
    { failed := fun event error failed => ?failed
      succeeded := fun event configuration succeeded => ?succeeded
      underWay := fun event going => ?underWay
      store := ⟨moves.store, moves.publication⟩
      refused := fun unauthorized => ?refused
      asked := fun authorized => ?asked
      told := ⟨fun _ _ => Client.told_accept _ _, fun _ _ => Client.told_accept _ _⟩
      fetches := fun call transport now free => exchange_ask free transport now
      ticks := fun run transport now pausing => exchange_tick pausing transport now }
  case failed =>
    exact (accounts event).failed_or_underWay (by rw [RefreshOutcome.stored?, failed]; rfl)
  case underWay =>
    exact (accounts event).failed_or_underWay (by rw [RefreshOutcome.stored?, going]; rfl)
  case succeeded =>
    obtain ⟨store, publication⟩ := (accounts event).succeeded
      (by rw [RefreshOutcome.stored?, succeeded]; rfl)
    rw [publication]
    exact ⟨store, rfl, rfl⟩
  case refused =>
    have rejected := latched.trans (RefreshHistory.rejects_iff.mpr unauthorized)
    refine ⟨sent_of_rejected rejected, fun call wanted free => refuses_ask rejected free wanted,
      fun run pausing => refuses_tick rejected pausing, fun wanted transport now => ?_⟩
    simp only [Fetcher.fetch, Fetcher.request, rejected, if_true]
  case asked =>
    have accepted : history.rejects = false := by
      rw [← Bool.not_eq_true, RefreshHistory.rejects_iff]
      rintro ⟨response, member, unauthorized⟩
      exact authorized response member unauthorized
    have same : session.client.fetcher = client.fetcher := by
      rw [moves.fetcher, accepted, Bool.or_false]
    refine ⟨same, fun call wanted free => ?_, fun run pausing => ?_⟩
    · rw [sent_ask free, same]
    · rw [sent_tick pausing, same, moves.wanted]

end RefreshSession

/-- **Failed refreshes change nothing, and a rejected key stops the traffic.** Whatever is done with
a client and whatever the server answers, an operation that fails leaves the store, the listener and
the queue as they were, and one that succeeds brings each of them one configuration; once the server
has rejected the key nothing is sent any more, and nothing else keeps requests from being sent. -/
theorem Client.failed_refreshes_change_nothing (settings : ClientSettings)
    (content : Option Octets) (events : List RefreshEvent) :
    let client := (Client.opened settings content).1
    let (session, history) := (RefreshSession.opened client).run events
    session.Steady client history :=
  RefreshSession.steady_of_moves
    ((RefreshSession.opened (Client.opened settings content).1).moves_run events) rfl

end FeatureFlags
