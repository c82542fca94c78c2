import FeatureFlags.Configuration.CacheFile
import FeatureFlags.Configuration.Store
import Mathlib.Logic.Function.Basic
import Mathlib.Logic.Relation
import Mathlib.Tactic.Simps.Basic

/-!
**Several callers at one store.**

A call that changes the store holds a lock from the moment it swaps the configuration until it has
queued it for the disk and announced it. Calls that read, and the writer of the file, go on
meanwhile. Restoring reads the file before it takes the lock, and what it read may be anything. Each
call is made once and has a number of its own; a caller that makes several calls makes one after
another. All that happens is kept in a log.

* `StoreSession`, `StoreSession.step`: a store with its calls and its writer, and their steps.
* `StoreLog.stored`, `StoreLog.announced`, `StoreLog.queued`, `StoreLog.written`: views of a log.
* `StoreSession.Turn`, `StoreSession.run_turns`: all that can happen in a session.
-/

namespace FeatureFlags

/-- A place in a list with one more item is the place of that item, or it was there before. -/
theorem List.snoc_eq_split {α : Type} {front before after : List α} {last item : α}
    (same : front ++ [last] = before ++ item :: after) :
    before = front ∧ item = last ∨ ∃ rest, front = before ++ item :: rest := by
  rcases List.eq_nil_or_concat after with rfl | ⟨rest, final, rfl⟩
  · obtain ⟨rfl, alike⟩ := List.append_inj' same rfl
    exact .inl ⟨rfl, by simpa using alike.symm⟩
  · have shape : front ++ [last] = (before ++ item :: rest) ++ [final] := by simpa using same
    exact .inr ⟨rest, (List.append_inj' shape rfl).1⟩

/-! ### Calls and what comes of them -/

/-- What may be asked of a store. -/
inductive StoreRequest where
  | set (configuration : Configuration)
  | load
  | get
  | flush

/-- What a call is told. -/
inductive StoreReply where
  | done
  | loaded (restored : Bool)
  | got (found : Option Configuration)
  | flushed

/-- How a configuration comes into the store. -/
inductive Origin where
  | set
  | restored
deriving DecidableEq

/-- A configuration that came into the store. -/
structure Arrival where
  call : Nat
  origin : Origin
  configuration : Configuration

/-- What the writer is asked for; an answer is for the call that waits for it. -/
inductive Job where
  | write (configuration : Configuration)
  | answer (call : Nat)

/-- The task of a job. -/
def Job.task : Job → CacheTask
  | write configuration => .write configuration
  | answer _ => .answer

/-- The configuration that a job is to write. -/
def Job.write? : Job → Option Configuration
  | write configuration => some configuration
  | answer _ => none

/-- Something that happened. -/
inductive Occurrence where
  | asked (call : Nat) (request : StoreRequest)
  | read (call : Nat) (content : Option Octets)
  | stored (arrival : Arrival)
  | queued (call : Nat) (job : Job)
  | announced (call : Nat) (configuration : Configuration)
  | handled (job : Job) (report : CacheReport)
  | replied (call : Nat) (reply : StoreReply)

namespace Occurrence

/-- The call that something belongs to; the writer works for itself. -/
def call? : Occurrence → Option Nat
  | asked call _ | read call _ | queued call _ | announced call _ | replied call _ => some call
  | stored arrival => some arrival.call
  | handled _ _ => none

/-- The call that changes the slot, the queue or the history of the listener. -/
def changer? : Occurrence → Option Nat
  | stored arrival => some arrival.call
  | queued call _ | announced call _ => some call
  | asked _ _ | read _ _ | handled _ _ | replied _ _ => none

/-- The configuration that comes into the store. -/
def arrival? : Occurrence → Option Arrival
  | stored arrival => some arrival
  | _ => none

/-- The configuration that is announced. -/
def announced? : Occurrence → Option Configuration
  | announced _ configuration => some configuration
  | _ => none

/-- The job that is queued. -/
def queued? : Occurrence → Option Job
  | queued _ job => some job
  | _ => none

/-- The job that the writer handles, with what comes of it. -/
def handled? : Occurrence → Option (Job × CacheReport)
  | handled job report => some (job, report)
  | _ => none

end Occurrence

/-! ### Views of a log -/

/-- What happened, in the order of time. -/
abbrev StoreLog := List Occurrence

namespace StoreLog

/-- The configurations that came into the store. -/
def arrivals (log : StoreLog) : List Arrival := log.filterMap Occurrence.arrival?

/-- The configurations that were stored. -/
def stored (log : StoreLog) : List Configuration := (arrivals log).map Arrival.configuration

/-- The configurations that were stored because a caller set them. -/
def storedBySet (log : StoreLog) : List Configuration :=
  ((arrivals log).filter fun arrival => arrival.origin = .set).map Arrival.configuration

/-- The configurations that the listener was told of. -/
def announced (log : StoreLog) : List Configuration := log.filterMap Occurrence.announced?

/-- The jobs that were queued. -/
def queued (log : StoreLog) : List Job := log.filterMap Occurrence.queued?

/-- The jobs that the writer handled, each with what came of it. -/
def handled (log : StoreLog) : List (Job × CacheReport) := log.filterMap Occurrence.handled?

/-- The jobs that the writer handled. -/
def handledJobs (log : StoreLog) : List Job := (handled log).map Prod.fst

/-- The configurations that the writer wrote, each with whether that succeeded. -/
def written (log : StoreLog) : List (Configuration × Bool) :=
  (handled log).filterMap fun (job, report) =>
    match job, report with
    | .write configuration, .written succeeded => some (configuration, succeeded)
    | _, _ => none

/-- The configurations that reached the file. -/
def kept (log : StoreLog) : List Configuration :=
  ((written log).filter Prod.snd).map Prod.fst

end StoreLog

/-! ### Sessions -/

/-- How far a call has come. While it publishes it owes what is still to be queued and announced. -/
inductive Stage where
  | ahead
  | asked (request : StoreRequest)
  | found (configuration : Configuration)
  | publishing (owed : Publication) (reply : StoreReply)
  | waiting
  | ended (reply : StoreReply)

/-- What a call still owes. -/
def Stage.owed : Stage → Publication
  | publishing owed _ => owed
  | _ => .nothing

/-- A store with its calls, the call that holds the lock, the queue and the disk of the writer, and
what happened so far. -/
structure StoreSession where
  store : Store
  lock : Option Nat
  stages : Nat → Stage
  jobs : List Job
  disk : CacheDisk
  log : StoreLog

/-- A step: a call is made, or it goes on, or the writer handles a job. A call that reads the file
finds the given content. -/
inductive StoreEvent where
  | ask (call : Nat) (request : StoreRequest)
  | advance (call : Nat) (content : Option Octets)
  | write (fate : WriteFate)

namespace StoreSession

/-- A session before the first call. -/
def opened (settings : StoreSettings) (disk : CacheDisk) : StoreSession where
  store := Store.ofSettings settings
  lock := none
  stages := fun _ => .ahead
  jobs := []
  disk := disk
  log := []

/-- A call comes further, and something happens. -/
@[simps]
def move (session : StoreSession) (call : Nat) (stage : Stage) (occurrence : Occurrence) :
    StoreSession :=
  { session with
    stages := Function.update session.stages call stage
    log := session.log ++ [occurrence] }

/-- A call is over. -/
@[simps!]
def reply (session : StoreSession) (call : Nat) (reply : StoreReply) : StoreSession :=
  session.move call (.ended reply) (.replied call reply)

/-- A call takes the lock and swaps the configuration. -/
@[simps!]
def publish (session : StoreSession) (arrival : Arrival) (change : Store × Publication)
    (reply : StoreReply) : StoreSession :=
  { session.move arrival.call (.publishing change.2 reply) (.stored arrival) with
    store := change.1
    lock := some arrival.call }

/-- A call queues a job. -/
@[simps!]
def enqueue (session : StoreSession) (call : Nat) (stage : Stage) (job : Job) : StoreSession :=
  { session.move call stage (.queued call job) with jobs := session.jobs ++ [job] }

/-- A call does what it was asked for, or begins to. -/
def start (session : StoreSession) (call : Nat) (request : StoreRequest)
    (content : Option Octets) : StoreSession :=
  match request with
  | .set configuration =>
    if session.lock.isSome then session
    else session.publish ⟨call, .set, configuration⟩ (session.store.set configuration) .done
  | .load =>
    match session.store.found content with
    | some configuration => session.move call (.found configuration) (.read call content)
    | none => session.reply call (.loaded false)
  | .get => session.reply call (.got session.store.active)
  | .flush =>
    if session.store.settings.persists then session.enqueue call .waiting (.answer call)
    else session.reply call .flushed

/-- A call restores what it found, unless the store has a configuration by now. -/
def restore (session : StoreSession) (call : Nat) (configuration : Configuration) :
    StoreSession :=
  if session.lock.isSome then session
  else
    match session.store.restore (some configuration) with
    | (true, change) => session.publish ⟨call, .restored, configuration⟩ change (.loaded true)
    | (false, _) => session.reply call (.loaded false)

/-- A call that holds the lock queues and announces what it owes, and then leaves the lock. -/
def deliver (session : StoreSession) (call : Nat) (owed : Publication) (reply : StoreReply) :
    StoreSession :=
  match owed with
  | ⟨configuration :: rest, announced⟩ =>
    session.enqueue call (.publishing ⟨rest, announced⟩ reply) (.write configuration)
  | ⟨[], configuration :: rest⟩ =>
    session.move call (.publishing ⟨[], rest⟩ reply) (.announced call configuration)
  | ⟨[], []⟩ => { session.reply call reply with lock := none }

/-- A call comes one step further. -/
def advance (session : StoreSession) (call : Nat) (content : Option Octets) : StoreSession :=
  match session.stages call with
  | .asked request => session.start call request content
  | .found configuration => session.restore call configuration
  | .publishing owed reply => session.deliver call owed reply
  | .ahead | .waiting | .ended _ => session

/-- What the writer leaves after its first job. -/
def written (session : StoreSession) (fate : WriteFate) : CacheWriter × CacheReport :=
  (CacheWriter.mk session.disk (session.jobs.map Job.task)).step fate

/-- The writer handles its first job. -/
@[simps]
def handle (session : StoreSession) (job : Job) (rest : List Job) (fate : WriteFate) :
    StoreSession :=
  { session with
    disk := (session.written fate).1.disk
    jobs := rest
    log := session.log ++ [.handled job (session.written fate).2] }

/-- The writer handles its first job, and answers the call that waits for it. -/
def write (session : StoreSession) (fate : WriteFate) : StoreSession :=
  match session.jobs with
  | [] => session
  | .write configuration :: rest => session.handle (.write configuration) rest fate
  | .answer call :: rest =>
    let after := session.handle (.answer call) rest fate
    match session.stages call with
    | .waiting => after.reply call .flushed
    | _ => after

/-- One step. -/
def step (session : StoreSession) : StoreEvent → StoreSession
  | .ask call request =>
    match session.stages call with
    | .ahead => session.move call (.asked request) (.asked call request)
    | _ => session
  | .advance call content => session.advance call content
  | .write fate => session.write fate

/-- The steps of a schedule. -/
def run (session : StoreSession) (events : List StoreEvent) : StoreSession :=
  events.foldl step session

/-- What the call that holds the lock still owes. -/
def owed (session : StoreSession) : Publication :=
  match session.lock with
  | some call => (session.stages call).owed
  | none => .nothing

end StoreSession

/-! ### What a step can do -/

/-- What may become of a session: one move of a call or of the writer, with what allows it. -/
inductive StoreSession.Turn (session : StoreSession) : StoreSession → Prop
  | ask (call : Nat) (request : StoreRequest) (ahead : session.stages call = .ahead) :
    Turn session (session.move call (.asked request) (.asked call request))
  | set (call : Nat) (configuration : Configuration)
    (asked : session.stages call = .asked (.set configuration)) (free : session.lock = none) :
    Turn session
      (session.publish ⟨call, .set, configuration⟩ (session.store.set configuration) .done)
  | find (call : Nat) (content : Option Octets) (configuration : Configuration)
    (asked : session.stages call = .asked .load)
    (found : session.store.found content = some configuration) :
    Turn session (session.move call (.found configuration) (.read call content))
  | restore (call : Nat) (configuration : Configuration)
    (found : session.stages call = .found configuration) (free : session.lock = none)
    (vacant : session.store.active = none) :
    Turn session
      (session.publish ⟨call, .restored, configuration⟩
        ({ session.store with active := some configuration },
          ⟨[], session.store.announced [configuration]⟩) (.loaded true))
  | dismiss (call : Nat)
    (loading : session.stages call = .asked .load ∨
      ∃ configuration, session.stages call = .found configuration) :
    Turn session (session.reply call (.loaded false))
  | get (call : Nat) (asked : session.stages call = .asked .get) :
    Turn session (session.reply call (.got session.store.active))
  | request (call : Nat) (asked : session.stages call = .asked .flush) :
    Turn session (session.enqueue call .waiting (.answer call))
  | skip (call : Nat) (asked : session.stages call = .asked .flush)
    (alone : session.store.settings.persists = false) :
    Turn session (session.reply call .flushed)
  | queue (call : Nat) (configuration : Configuration) (rest announced : List Configuration)
    (reply : StoreReply)
    (publishing : session.stages call = .publishing ⟨configuration :: rest, announced⟩ reply) :
    Turn session
      (session.enqueue call (.publishing ⟨rest, announced⟩ reply) (.write configuration))
  | announce (call : Nat) (configuration : Configuration) (rest : List Configuration)
    (reply : StoreReply)
    (publishing : session.stages call = .publishing ⟨[], configuration :: rest⟩ reply) :
    Turn session
      (session.move call (.publishing ⟨[], rest⟩ reply) (.announced call configuration))
  | finish (call : Nat) (reply : StoreReply)
    (publishing : session.stages call = .publishing ⟨[], []⟩ reply) :
    Turn session { session.reply call reply with lock := none }
  | handle (job : Job) (rest : List Job) (fate : WriteFate) (jobs : session.jobs = job :: rest) :
    Turn session (session.handle job rest fate)
  | answer (call : Nat) (waiting : session.stages call = .waiting)
    (handled : (StoreLog.handledJobs session.log).getLast? = some (.answer call)) :
    Turn session (session.reply call .flushed)

namespace StoreSession

open Relation (ReflTransGen)

variable {session after : StoreSession}

theorem start_turns (call : Nat) (request : StoreRequest) (content : Option Octets)
    (asked : session.stages call = .asked request) :
    ReflTransGen Turn session (session.start call request content) := by
  cases request with
  | set configuration =>
    unfold start
    by_cases held : session.lock.isSome
    · simp [held, ReflTransGen.refl]
    · simp only [held]
      exact .single (.set call configuration asked (by simpa using held))
  | load =>
    unfold start
    cases found : session.store.found content with
    | some configuration => exact .single (.find call content configuration asked found)
    | none => exact .single (.dismiss call (.inl asked))
  | get => exact .single (.get call asked)
  | flush =>
    unfold start
    by_cases persists : session.store.settings.persists
    · simp only [persists, if_true]
      exact .single (.request call asked)
    · simp only [persists]
      exact .single (.skip call asked (by simpa using persists))

theorem restore_turns (call : Nat) (configuration : Configuration)
    (found : session.stages call = .found configuration) :
    ReflTransGen Turn session (session.restore call configuration) := by
  unfold restore
  by_cases held : session.lock.isSome
  · simp [held, ReflTransGen.refl]
  · cases vacant : session.store.active with
    | none =>
      simp only [held, Store.restore, vacant]
      exact .single (.restore call configuration found (by simpa using held) vacant)
    | some other =>
      simp only [held, Store.restore, vacant]
      exact .single (.dismiss call (.inr ⟨configuration, found⟩))

theorem deliver_turns (call : Nat) (owed : Publication) (reply : StoreReply)
    (publishing : session.stages call = .publishing owed reply) :
    ReflTransGen Turn session (session.deliver call owed reply) := by
  obtain ⟨queued, announced⟩ := owed
  cases queued with
  | cons configuration rest =>
    exact .single (.queue call configuration rest announced reply publishing)
  | nil =>
    cases announced with
    | cons configuration rest =>
      exact .single (.announce call configuration rest reply publishing)
    | nil => exact .single (.finish call reply publishing)

theorem write_turns (fate : WriteFate) : ReflTransGen Turn session (session.write fate) := by
  unfold write
  split
  case h_1 => exact .refl
  case h_2 configuration rest jobs => exact .single (.handle _ rest fate jobs)
  case h_3 call rest jobs =>
    have handled : Turn session (session.handle (.answer call) rest fate) :=
      .handle _ rest fate jobs
    split
    case h_1 waiting =>
      refine .tail (.single handled) (.answer call waiting ?_)
      simp [StoreLog.handledJobs, StoreLog.handled, Occurrence.handled?]
    case h_2 => exact .single handled

theorem advance_turns (call : Nat) (content : Option Octets) :
    ReflTransGen Turn session (session.advance call content) := by
  unfold advance
  split
  case h_1 request asked => exact start_turns call request content asked
  case h_2 configuration found => exact restore_turns call configuration found
  case h_3 owed reply publishing => exact deliver_turns call owed reply publishing
  all_goals exact .refl

/-- **A step comes about by turns.** -/
theorem step_turns (event : StoreEvent) : ReflTransGen Turn session (session.step event) := by
  cases event with
  | ask call request =>
    simp only [step]
    split
    case h_1 ahead => exact .single (.ask call request ahead)
    case h_2 => exact .refl
  | advance call content => exact advance_turns call content
  | write fate => exact write_turns fate

/-- **A run comes about by turns.** -/
theorem run_turns (session : StoreSession) (events : List StoreEvent) :
    ReflTransGen Turn session (session.run events) := by
  induction events generalizing session with
  | nil => exact .refl
  | cons event rest rest_turns => exact (step_turns event).trans (rest_turns _)

end StoreSession

end FeatureFlags
