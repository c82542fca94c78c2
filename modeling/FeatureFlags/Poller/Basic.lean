import FeatureFlags.ClientError
import FeatureFlags.Configuration.Store

/-!
**Fetching again and again.**

A run of the poller pauses, fetches, and begins anew. At most one run is live. A run that was
stopped does nothing any more: when its pause is over it does not fetch, and what it was fetching is
dropped, even if another run has been started in the meantime. A fetch that fails ends no run.

* `Poller.step`: what an event does to the poller, and what it brings about.
* `PollTiming`: how long a run pauses.
-/

namespace FeatureFlags

/-! ### Runs -/

/-- What a run waits for. -/
inductive PollStage where
  | pausing
  | fetching
deriving DecidableEq, Repr

/-- A run, told from other runs by its number. -/
structure PollRun where
  number : Nat
  stage : PollStage
deriving DecidableEq, Repr

/-- The number of runs that were started, and the one that is live. -/
structure Poller where
  started : Nat
  live : Option PollRun
deriving DecidableEq, Repr

/-- What happens to a poller. Starting succeeds only within a runtime. The end of a pause and the
end of a fetch concern the run that has waited for them. -/
inductive PollEvent where
  | start (inRuntime : Bool)
  | stop
  | pauseEnded (run : Nat)
  | fetchEnded (run : Nat) (result : Except ClientError Configuration)

/-- What an event brings about. -/
inductive PollEffect where
  | none
  | answer (result : Except ClientError Bool)
  | fetch
  | store (configuration : Configuration)
  | retry (error : ClientError)

namespace Poller

/-- A poller without runs. -/
def idle : Poller := ⟨0, none⟩

/-- Whether a run is live. -/
def isRunning (poller : Poller) : Bool := poller.live.isSome

/-- Start a run, unless one is live. -/
def start (poller : Poller) (inRuntime : Bool) : Poller × Except ClientError Bool :=
  match poller.live with
  | some _ => (poller, .ok false)
  | none =>
    if inRuntime then (⟨poller.started + 1, some ⟨poller.started, .pausing⟩⟩, .ok true)
    else (poller, .error .noRuntime)

/-- Stop the run that is live. -/
def stop (poller : Poller) : Poller := { poller with live := none }

/-- What an event does to the poller, and what it brings about. -/
def step (poller : Poller) : PollEvent → Poller × PollEffect
  | .start inRuntime =>
    let (after, result) := poller.start inRuntime
    (after, .answer result)
  | .stop => (poller.stop, .none)
  | .pauseEnded run =>
    if poller.live = some ⟨run, .pausing⟩ then
      ({ poller with live := some ⟨run, .fetching⟩ }, .fetch)
    else (poller, .none)
  | .fetchEnded run result =>
    if poller.live = some ⟨run, .fetching⟩ then
      ({ poller with live := some ⟨run, .pausing⟩ },
        match result with
        | .ok configuration => .store configuration
        | .error error => .retry error)
    else (poller, .none)

end Poller

namespace PollEffect

/-- What an effect does to the store. -/
def apply (effect : PollEffect) (store : Store) : Store × Publication :=
  match effect with
  | .store configuration => Store.set store configuration
  | _ => (store, .nothing)

/-- What is noted about an effect. -/
def notices : PollEffect → List Notice
  | .retry _ => [.pollFailed]
  | _ => []

end PollEffect

/-! ### Timing -/

/-- How long a run pauses and how far a pause may differ from that, in milliseconds. -/
structure PollTiming where
  interval : Nat
  jitter : Nat
deriving DecidableEq, Repr

namespace PollTiming

/-- The timing unless another one is given. -/
def default : PollTiming := ⟨30000, 3000⟩

/-- A pause that is longer or shorter than the interval by an offset, but not below zero. -/
def pause (timing : PollTiming) (offset : Nat) (longer : Bool) : Nat :=
  if longer then timing.interval + offset else timing.interval - offset

end PollTiming

end FeatureFlags
