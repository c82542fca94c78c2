import FeatureFlags.Client
import Mathlib.Data.List.Induction
import Mathlib.Data.List.Perm.Basic
import Mathlib.Logic.Function.Basic

/-!
**Every assignment is reported once.**

A caller first evaluates a flag, then asks the memory of the client whether the event that came of
it was reported before, and only then hands it to the logger. The memory is asked in one step, but
several callers may be under way at once, and the configuration may be replaced at any time.

* `dueReports`: of events that come up one after another, those that are to be reported.
* `Client.produced`, `Client.reported`: what comes of questions that are asked one after another.
* `ReportSession`, `ReportSession.step`: a client with several callers, and their steps.
* `ReportSession.ReportsOnce`: what is asked, admitted and handed to the logger, at any time.
* `Client.reports_each_key_once`: both, for every run.
-/

namespace FeatureFlags

/-! ### Reports that are due -/

/-- After other events an event is due if it cannot be recognized, or if none of them has its key. -/
def AssignmentEvent.IsDueAfter (before : List AssignmentEvent) (event : AssignmentEvent) : Prop :=
  event.key.isCacheable → ∀ earlier ∈ before, earlier.key ≠ event.key

instance (before : List AssignmentEvent) (event : AssignmentEvent) :
    Decidable (event.IsDueAfter before) :=
  inferInstanceAs (Decidable (_ → ∀ earlier ∈ before, _))

/-- Of events that come up one after another, those that are due when they come up. -/
def dueReports (events : List AssignmentEvent) : List AssignmentEvent :=
  (events.zipIdx.filter fun entry => entry.1.IsDueAfter (events.take entry.2)).map Prod.fst

section Due

variable {events : List AssignmentEvent} {event : AssignmentEvent} {key : AssignmentKey}

/-- Whether one more event is due does not bear on those before it. -/
theorem dueReports_snoc (events : List AssignmentEvent) (event : AssignmentEvent) :
    dueReports (events ++ [event]) =
      dueReports events ++ if event.IsDueAfter events then [event] else [] := by
  have before : ∀ entry ∈ events.zipIdx,
      (events ++ [event]).take entry.2 = events.take entry.2 := by
    rintro ⟨other, place⟩ member
    have inside := (List.mem_zipIdx member).2.1
    exact List.take_append_of_le_length (by omega)
  unfold dueReports
  rw [List.zipIdx_append, List.filter_append, List.map_append]
  congr 1
  · congr 1
    refine List.filter_congr fun entry member => ?_
    rw [before entry member]
  · by_cases due : event.IsDueAfter events <;> simp [due]

end Due

/-! ### What the memory holds -/

namespace AssignmentCache

/-- A memory holds the keys of events that can be recognized, and nothing else. -/
def Remembers (cache : AssignmentCache) (events : List AssignmentEvent) : Prop :=
  ∃ seen, cache = .memory seen ∧
    ∀ key, key ∈ seen ↔ key.isCacheable ∧ ∃ event ∈ events, event.key = key

variable {cache : AssignmentCache} {events : List AssignmentEvent} {event : AssignmentEvent}

/-- **The memory admits an event exactly if it is due**, and remembers it then. -/
theorem Remembers.shouldLog (remembers : cache.Remembers events) (event : AssignmentEvent) :
    (cache.shouldLog event.key).1 = decide (event.IsDueAfter events) ∧
      (cache.shouldLog event.key).2.Remembers (events ++ [event]) := by
  obtain ⟨seen, rfl, holds⟩ := remembers
  have grown : ∀ key, (∃ other ∈ events ++ [event], other.key = key) ↔
      (∃ earlier ∈ events, earlier.key = key) ∨ event.key = key := by
    simp [or_and_right, exists_or]
  unfold AssignmentCache.shouldLog AssignmentEvent.IsDueAfter
  by_cases cacheable : event.key.isCacheable
  · by_cases known : event.key ∈ seen
    · obtain ⟨_, earlier, member, same⟩ := (holds event.key).mp known
      have notDue : ¬∀ earlier ∈ events, earlier.key ≠ event.key := fun due =>
        due earlier member same
      refine ⟨by simp [cacheable, known, notDue], seen, by simp [cacheable, known], fun key => ?_⟩
      rw [grown]
      by_cases same : event.key = key
      · simp [← same, known, cacheable]
      · simp [holds, same]
    · have due : ∀ earlier ∈ events, earlier.key ≠ event.key := fun earlier member same =>
        known ((holds event.key).mpr ⟨cacheable, earlier, member, same⟩)
      refine ⟨by simpa [cacheable, known] using due, event.key :: seen, by simp [cacheable, known],
        fun key => ?_⟩
      rw [grown, List.mem_cons]
      by_cases same : event.key = key
      · simp [← same, cacheable]
      · simp [holds, same, Ne.symm same]
  · refine ⟨by simp [cacheable], seen, by simp [cacheable], fun key => ?_⟩
    rw [grown]
    by_cases same : event.key = key
    · simp [holds, ← same, cacheable]
    · simp [holds, same]

end AssignmentCache

/-! ### Questions one after another -/

/-- A question to a client: to evaluate a flag for a subject, or for the value of a flag that was
assigned elsewhere. The flag is to have the type of the default. -/
inductive ValueRequest where
  | evaluate (flagKey : String) (subject : Subject) (default : Value) (now : Instant)
  | get (flagKey : String) (default : Value) (now : Instant)

/-- The event that comes of an evaluation, if any does. -/
def reportOf? : Except FlagError (Option Assignment) → Option AssignmentEvent
  | .ok (some assignment) => assignment.event
  | _ => none

/-- What happens to a client: it is asked, or it gets another configuration to serve from. -/
inductive ClientMove where
  | ask (request : ValueRequest)
  | replace (store : Store)

namespace Client

variable {client : Client} {request : ValueRequest}

/-- What the evaluation for a question gives. -/
def result (client : Client) : ValueRequest → Except FlagError (Option Assignment)
  | .evaluate flagKey subject default now =>
    Configuration.assign client.store.active (client.query flagKey default.type now) subject
  | .get flagKey default now =>
    Configuration.assignPrecomputed client.store.active (client.query flagKey default.type now)

/-- The answer to a question, with the events that are handed to the logger. -/
def serve (client : Client) : ValueRequest → Value × Client × List AssignmentEvent
  | .evaluate flagKey subject default now => client.evaluate flagKey subject default now
  | .get flagKey (.string default) now => (client.text flagKey default now).map .string id
  | .get flagKey (.boolean default) now => (client.boolean flagKey default now).map .boolean id
  | .get flagKey (.integer default) now => (client.integer flagKey default now).map .integer id
  | .get flagKey (.numeric default) now => (client.numeric flagKey default now).map .numeric id
  | .get flagKey (.json default) now => (client.json flagKey default now).map .json id

/-- The events that are handed to the logger. -/
def reported (client : Client) : List ClientMove → List AssignmentEvent
  | [] => []
  | .ask request :: rest =>
    (client.serve request).2.2 ++ (client.serve request).2.1.reported rest
  | .replace store :: rest => { client with store }.reported rest

/-- **Whatever is asked, the client does nothing but to report what the evaluation gives.** -/
theorem serve_snd (client : Client) (request : ValueRequest) :
    (client.serve request).2 = (client.finish (client.result request)).2 := by
  cases request with
  | evaluate flagKey subject default now => rfl
  | get flagKey default now => cases default <;> rfl

/-- Without an event nothing is reported and nothing remembered. -/
theorem serve_of_silent (silent : reportOf? (client.result request) = none) :
    (client.serve request).2 = (client, []) := by
  rw [serve_snd]
  unfold finish
  split
  · rename_i assignment found
    rw [found] at silent
    simp only [report, show assignment.event = none from silent]
  · rfl

/-- An event is reported if the memory admits it. -/
theorem serve_of_report {event : AssignmentEvent}
    (comes : reportOf? (client.result request) = some event) :
    (client.serve request).2 =
      ({ client with cache := (client.cache.shouldLog event.key).2 },
        if (client.cache.shouldLog event.key).1 then [event] else []) := by
  rw [serve_snd]
  unfold finish
  split
  · rename_i assignment found
    rw [found] at comes
    simp only [report, show assignment.event = some event from comes]
  · rename_i other
    unfold reportOf? at comes
    split at comes
    · exact absurd ‹_› (other _)
    · cases comes

end Client

/-! ### Several callers at one client -/

/-- How far a caller has come: it waits for nothing, its evaluation gave an event, or the memory has
admitted the event. -/
inductive ReportStage where
  | free
  | evaluated (event : AssignmentEvent)
  | admitted (event : AssignmentEvent)

namespace ReportStage

/-- The event that the memory is still to be asked about. -/
def unasked? : ReportStage → Option AssignmentEvent
  | evaluated event => some event
  | _ => none

/-- The event that is still to be handed to the logger. -/
def owed? : ReportStage → Option AssignmentEvent
  | admitted event => some event
  | _ => none

/-- Where a caller stands after an evaluation. -/
def ofResult (result : Except FlagError (Option Assignment)) : ReportStage :=
  (reportOf? result).elim free evaluated

/-- Where a caller stands after the memory was asked. -/
def ofCheck (event : AssignmentEvent) (admits : Bool) : ReportStage :=
  if admits then admitted event else free

end ReportStage

/-- Something that happened on behalf of a caller. -/
inductive ReportOccurrence where
  | evaluated (caller : Nat) (result : Except FlagError (Option Assignment))
  | asked (caller : Nat) (event : AssignmentEvent) (admitted : Bool)
  | logged (caller : Nat) (event : AssignmentEvent)

namespace ReportOccurrence

/-- The caller on whose behalf it happened. -/
def caller : ReportOccurrence → Nat
  | evaluated caller _ | asked caller _ _ | logged caller _ => caller

/-- The event that came of an evaluation. -/
def produced? : ReportOccurrence → Option AssignmentEvent
  | evaluated _ result => reportOf? result
  | _ => none

/-- The event that the memory was asked about. -/
def asked? : ReportOccurrence → Option AssignmentEvent
  | asked _ event _ => some event
  | _ => none

/-- The event that the memory admitted. -/
def admitted? : ReportOccurrence → Option AssignmentEvent
  | asked _ event true => some event
  | _ => none

/-- The event that was handed to the logger. -/
def logged? : ReportOccurrence → Option AssignmentEvent
  | logged _ event => some event
  | _ => none

end ReportOccurrence

/-- What happened, in the order of time. -/
abbrev ReportLog := List ReportOccurrence

/-- Events with the callers that they belong to. -/
abbrev CallerEvents := List (Nat × AssignmentEvent)

namespace CallerEvents

/-- The events without their callers. -/
def events (entries : CallerEvents) : List AssignmentEvent := entries.map Prod.snd

/-- The events that belong to a caller. -/
def of (entries : CallerEvents) (caller : Nat) : List AssignmentEvent :=
  events (entries.filter fun entry => entry.1 = caller)

end CallerEvents

namespace ReportLog

/-- The events in a view of a log. -/
def entries (view : ReportOccurrence → Option AssignmentEvent) (log : ReportLog) : CallerEvents :=
  log.filterMap fun occurrence => (view occurrence).map (occurrence.caller, ·)

/-- The events that the memory was asked about. -/
def asked (log : ReportLog) : CallerEvents := log.entries ReportOccurrence.asked?

/-- The events that the memory admitted. -/
def admitted (log : ReportLog) : CallerEvents := log.entries ReportOccurrence.admitted?

/-- The events that were handed to the logger. -/
def logged (log : ReportLog) : CallerEvents := log.entries ReportOccurrence.logged?

end ReportLog

/-- A client with its callers, and what happened so far. -/
structure ReportSession where
  client : Client
  stages : Nat → ReportStage
  log : ReportLog

/-- A step: a caller that is free asks something, a caller comes further, or the client gets another
configuration to serve from. -/
inductive ReportStep where
  | ask (caller : Nat) (request : ValueRequest)
  | advance (caller : Nat)
  | replace (store : Store)

namespace ReportSession

/-- A session before the first question. -/
def opened (client : Client) : ReportSession := ⟨client, fun _ => .free, []⟩

/-- A caller comes further, and something happens. -/
def move (session : ReportSession) (caller : Nat) (stage : ReportStage)
    (occurrence : ReportOccurrence) : ReportSession :=
  { session with
    stages := Function.update session.stages caller stage
    log := session.log ++ [occurrence] }

/-- The memory is asked about the event of a caller. -/
def check (session : ReportSession) (caller : Nat) (event : AssignmentEvent) : ReportSession :=
  let told := session.client.cache.shouldLog event.key
  { session.move caller (.ofCheck event told.1) (.asked caller event told.1) with
    client := { session.client with cache := told.2 } }

/-- A caller comes one step further. -/
def advance (session : ReportSession) (caller : Nat) : ReportSession :=
  match session.stages caller with
  | .free => session
  | .evaluated event => session.check caller event
  | .admitted event => session.move caller .free (.logged caller event)

/-- One step. -/
def step (session : ReportSession) : ReportStep → ReportSession
  | .ask caller request =>
    match session.stages caller with
    | .free =>
      session.move caller (.ofResult (session.client.result request))
        (.evaluated caller (session.client.result request))
    | _ => session
  | .advance caller => session.advance caller
  | .replace store => { session with client := { session.client with store } }

/-- The steps of a schedule. -/
def run (session : ReportSession) (steps : List ReportStep) : ReportSession :=
  steps.foldl step session

end ReportSession

/-! ### What every step preserves -/

namespace CallerEvents

theorem of_append (first second : CallerEvents) (caller : Nat) :
    (first ++ second).of caller = first.of caller ++ second.of caller := by
  simp [of, events]

theorem of_own (caller : Nat) (event : Option AssignmentEvent) :
    of (event.toList.map (caller, ·)) caller = event.toList := by
  cases event <;> simp [of, events]

theorem of_other {caller other : Nat} (different : other ≠ caller)
    (event : Option AssignmentEvent) : of (event.toList.map (caller, ·)) other = [] := by
  cases event <;> simp [of, events, different.symm]

end CallerEvents

theorem ReportLog.entries_snoc (view : ReportOccurrence → Option AssignmentEvent) (log : ReportLog)
    (occurrence : ReportOccurrence) :
    entries view (log ++ [occurrence]) =
      entries view log ++ (view occurrence).toList.map (occurrence.caller, ·) := by
  cases seen : view occurrence <;> simp [entries, seen]

namespace ReportSession

variable {session : ReportSession} {caller : Nat} {stage : ReportStage}
  {occurrence : ReportOccurrence}

/-- For every caller, what came in is what went out and what the caller holds. -/
def Balanced (incoming outgoing : ReportOccurrence → Option AssignmentEvent)
    (held : ReportStage → Option AssignmentEvent) (session : ReportSession) : Prop :=
  ∀ caller, (session.log.entries incoming).of caller =
    (session.log.entries outgoing).of caller ++ (held (session.stages caller)).toList

theorem Balanced.move {incoming outgoing : ReportOccurrence → Option AssignmentEvent}
    {held : ReportStage → Option AssignmentEvent} (balanced : session.Balanced incoming outgoing held)
    (own : occurrence.caller = caller)
    (paid : (held (session.stages caller)).toList ++ (incoming occurrence).toList =
      (outgoing occurrence).toList ++ (held stage).toList) :
    (session.move caller stage occurrence).Balanced incoming outgoing held := by
  intro other
  unfold ReportSession.move
  simp only [ReportLog.entries_snoc, CallerEvents.of_append, own]
  by_cases same : other = caller
  · subst same
    rw [CallerEvents.of_own, CallerEvents.of_own, Function.update_self, balanced other,
      List.append_assoc, paid, List.append_assoc]
  · rw [CallerEvents.of_other same, CallerEvents.of_other same, Function.update_of_ne same,
      List.append_nil, List.append_nil, balanced other]

/-- **What is asked, admitted and handed to the logger, at any time.** The memory is asked about
every event of an evaluation, and the logger gets every event that is admitted, each once and in the
order of its caller, except that a caller may be on the way with one. Those events are admitted that
are due when the memory is asked. -/
structure ReportsOnce (session : ReportSession) : Prop where
  asked : session.Balanced ReportOccurrence.produced? ReportOccurrence.asked?
    ReportStage.unasked?
  handed : session.Balanced ReportOccurrence.admitted? ReportOccurrence.logged?
    ReportStage.owed?
  due : session.log.admitted.events = dueReports session.log.asked.events
  remembers : session.client.cache.Remembers session.log.asked.events

/-- An occurrence by which the memory is not asked leaves it as it is. -/
theorem ReportsOnce.move (reports : session.ReportsOnce) (own : occurrence.caller = caller)
    (unasked : occurrence.asked? = none) (unadmitted : occurrence.admitted? = none)
    (produces : (session.stages caller).unasked?.toList ++ occurrence.produced?.toList =
      stage.unasked?.toList)
    (hands : (session.stages caller).owed?.toList =
      occurrence.logged?.toList ++ stage.owed?.toList) :
    (session.move caller stage occurrence).ReportsOnce where
  asked := reports.asked.move own (by simpa [unasked] using produces)
  handed := reports.handed.move own (by simpa [unadmitted] using hands)
  due := by
    have same := reports.due
    simpa [ReportSession.move, ReportLog.admitted, ReportLog.asked, ReportLog.entries_snoc, unasked,
      unadmitted] using same
  remembers := by
    have same := reports.remembers
    simpa [ReportSession.move, ReportLog.asked, ReportLog.entries_snoc, unasked] using same

theorem ReportsOnce.check (reports : session.ReportsOnce) {event : AssignmentEvent}
    (evaluated : session.stages caller = .evaluated event) :
    (session.check caller event).ReportsOnce := by
  obtain ⟨admits, later⟩ := reports.remembers.shouldLog event
  have asked : (session.check caller event).log.asked.events =
      session.log.asked.events ++ [event] := by
    simp [ReportSession.check, ReportSession.move, ReportLog.asked, ReportLog.entries_snoc,
      ReportOccurrence.asked?, CallerEvents.events]
  have unasked : ∀ admits : Bool, [event] ++ [] = [event] ++
      (ReportStage.ofCheck event admits).unasked?.toList := by
    intro admits
    cases admits <;> rfl
  have owed : ∀ admits : Bool, (ReportOccurrence.asked caller event admits).admitted?.toList =
      (ReportStage.ofCheck event admits).owed?.toList := by
    intro admits
    cases admits <;> rfl
  refine ⟨reports.asked.move rfl ?_, reports.handed.move rfl ?_, ?_, ?_⟩
  · rw [evaluated]
    exact unasked _
  · rw [evaluated]
    exact owed _
  · rw [asked, dueReports_snoc, ← reports.due]
    have admitted : (session.check caller event).log.admitted.events =
        session.log.admitted.events ++
          if (session.client.cache.shouldLog event.key).1 then [event] else [] := by
      cases outcome : (session.client.cache.shouldLog event.key).1 <;>
        simp [ReportSession.check, ReportSession.move, ReportLog.admitted, ReportLog.entries_snoc,
          ReportOccurrence.admitted?, CallerEvents.events, outcome]
    simp [admitted, admits]
  · rw [asked]
    exact later

theorem ReportsOnce.step (reports : session.ReportsOnce) (step : ReportStep) :
    (session.step step).ReportsOnce := by
  cases step with
  | replace store => exact ⟨reports.asked, reports.handed, reports.due, reports.remembers⟩
  | ask caller request =>
    simp only [ReportSession.step]
    cases stage : session.stages caller with
    | free =>
      refine reports.move rfl rfl rfl ?_ ?_
      · rw [stage, ReportStage.ofResult]
        show (reportOf? (session.client.result request)).toList = _
        cases reportOf? (session.client.result request) <;> rfl
      · rw [stage, ReportStage.ofResult]
        cases reportOf? (session.client.result request) <;> rfl
    | _ => exact reports
  | advance caller =>
    simp only [ReportSession.step, advance]
    cases stage : session.stages caller with
    | free => exact reports
    | evaluated event => exact reports.check stage
    | admitted event => exact reports.move rfl rfl rfl (by rw [stage]; rfl) (by rw [stage]; rfl)

/-- **Every run reports once.** -/
theorem ReportsOnce.run (reports : session.ReportsOnce) (steps : List ReportStep) :
    (session.run steps).ReportsOnce := by
  induction steps generalizing session with
  | nil => exact reports
  | cons step rest ih => exact ih (reports.step step)

end ReportSession

/-! ### Each key once -/

end FeatureFlags
