import FeatureFlags.Poller.Basic

/-!
**A poller on a clock.**

Time passes only when the clock is moved. Whatever the live run waits for then happens in order, as
far as it is due before the time that the clock is moved to; what is due at that very time happens
when the clock is moved again. All pauses have one length, and so have all fetches.

* `PollClock.advance`: move the clock.
-/

namespace FeatureFlags

/-- How long pauses and fetches take, in milliseconds, and what the fetch of a number gives. -/
structure PollWorld where
  pause : Nat
  delay : Nat
  fetch : Nat → Except ClientError Configuration

/-- A poller and its store at a time, with the time at which the wait of the live run is over and
the number of fetches that were begun. -/
structure PollClock where
  poller : Poller
  store : Store
  now : Nat
  due : Nat
  fetches : Nat

namespace PollClock

/-- A clock at its beginning. -/
def ofStore (store : Store) : PollClock := ⟨.idle, store, 0, 0, 0⟩

/-- Start a run, which pauses from now on. -/
def start (clock : PollClock) (world : PollWorld) (inRuntime : Bool) :
    PollClock × Except ClientError Bool :=
  let (poller, result) := clock.poller.start inRuntime
  match result with
  | .ok true => ({ clock with poller, due := clock.now + world.pause }, result)
  | _ => (clock, result)

/-- Stop the run that is live. -/
def stop (clock : PollClock) : PollClock := { clock with poller := clock.poller.stop }

/-- The wait of the live run is over. -/
def wake (clock : PollClock) (world : PollWorld) : PollClock × List Notice :=
  match clock.poller.live with
  | none => (clock, [])
  | some ⟨run, .pausing⟩ =>
    let (poller, _) := clock.poller.step (.pauseEnded run)
    ({ clock with poller, due := clock.due + world.delay, fetches := clock.fetches + 1 }, [])
  | some ⟨run, .fetching⟩ =>
    let (poller, effect) := clock.poller.step (.fetchEnded run (world.fetch clock.fetches))
    let (store, _) := effect.apply clock.store
    ({ clock with poller, store, due := clock.due + world.pause }, effect.notices)

/-- Let waits be over that are over before a time, at most as many as a bound. -/
def wakeUntil (world : PollWorld) (time : Nat) : Nat → PollClock → PollClock × List Notice
  | 0, clock => (clock, [])
  | bound + 1, clock =>
    if clock.poller.isRunning ∧ clock.due < time then
      let (after, notices) := clock.wake world
      let (last, more) := wakeUntil world time bound after
      (last, notices ++ more)
    else (clock, [])

/-- Move the clock by milliseconds. Every pause and fetch together take one at least. -/
def advance (clock : PollClock) (world : PollWorld) (millis : Nat) : PollClock × List Notice :=
  let time := clock.now + millis
  let (after, notices) := wakeUntil world time (2 * millis + 4) clock
  ({ after with now := time }, notices)

end PollClock

end FeatureFlags
