import FeatureFlags.Proofs.Configuration.StoreSession
import Mathlib.Algebra.GroupWithZero.Nat
import Mathlib.Data.List.Induction

/-!
**The file of a writer is whole at any time, and never goes backwards.**

Callers queue configurations and wait until what they queued is handled, and one writer handles the
queue. A write is made of operations on the disk. Each of them may fail, a draft reaches the disk bit
by bit, and the process may die between any two steps. What the file holds changes only when a
complete draft takes its place, and then to the configuration that is next in the queue.

* `CacheSession`, `CacheSession.step`: a writer with its callers, and the steps of all of them.
* `CacheSession.Turn`, `CacheSession.step_turn`: all that can happen in a session.
* `CacheSession.WholeAndInOrder`: what the file holds and what callers are told, at any time.
* `CacheSession.ReportsWrites`: what the writer says of its writes.
* `CacheSession.file_is_whole_and_in_order`: this for every run, and that the writer goes on.
-/

namespace FeatureFlags

/-! ### A writer and its callers -/

/-- Something that happened. A caller that returns finds the given content in the file. -/
inductive CacheOccurrence where
  | saved (configuration : Configuration)
  | asked (call : Nat)
  | wrote (configuration : Configuration) (succeeded : Bool)
  | answered (call : Nat)
  | returned (call : Nat) (content : Option Octets)
  | died

namespace CacheOccurrence

/-- The job that is queued. -/
def queued? : CacheOccurrence → Option Job
  | saved configuration => some (.write configuration)
  | asked call => some (.answer call)
  | _ => none

/-- The job that the writer is done with. -/
def handled? : CacheOccurrence → Option Job
  | wrote configuration _ => some (.write configuration)
  | answered call => some (.answer call)
  | _ => none

/-- The configuration that the writer tried to write, with whether that succeeded. -/
def written? : CacheOccurrence → Option (Configuration × Bool)
  | wrote configuration succeeded => some (configuration, succeeded)
  | _ => none

/-- The configuration that reached the file. -/
def kept? : CacheOccurrence → Option Configuration
  | wrote configuration true => some configuration
  | _ => none

end CacheOccurrence

/-- What happened, in the order of time. -/
abbrev CacheLog := List CacheOccurrence

namespace CacheLog

/-- The jobs that were queued. -/
def queued (log : CacheLog) : List Job := log.filterMap CacheOccurrence.queued?

/-- The configurations that were saved. -/
def saved (log : CacheLog) : List Configuration := (queued log).filterMap Job.write?

/-- The jobs that the writer is done with. -/
def handled (log : CacheLog) : List Job := log.filterMap CacheOccurrence.handled?

/-- The configurations that the writer tried to write, each with whether that succeeded. -/
def written (log : CacheLog) : List (Configuration × Bool) :=
  log.filterMap CacheOccurrence.written?

/-- The configurations that reached the file. -/
def kept (log : CacheLog) : List Configuration := log.filterMap CacheOccurrence.kept?

end CacheLog

/-- How far a call has come that waits for the queue. -/
inductive FlushStage where
  | ahead
  | waiting
  | answered
  | over
deriving DecidableEq

/-- A write under way, with the operations that are left of it. -/
structure WriteUnderWay where
  configuration : Configuration
  next : CacheOperation
  later : List CacheOperation

/-- A writer with its disk and its queue, the calls that wait, and what happened so far. Once the
process has died nothing happens any more. -/
structure CacheSession where
  disk : CacheDisk
  jobs : List Job
  current : Option WriteUnderWay
  stages : Nat → FlushStage
  alive : Bool
  log : CacheLog

/-- A step: a caller queues a configuration, begins to wait, or returns; the writer does the next
thing, where the fate is that of the write that it may begin; some of a draft reaches the disk; or
the process dies. -/
inductive CacheStep where
  | save (configuration : Configuration)
  | flush (call : Nat)
  | resume (call : Nat)
  | work (fate : WriteFate)
  | spill (written : Nat)
  | die

/-- Whether a step is one of the writer. -/
def CacheStep.works : CacheStep → Bool
  | work _ => true
  | _ => false

/-- Whether the process dies. -/
def CacheStep.dies : CacheStep → Bool
  | die => true
  | _ => false

namespace CacheSession

/-- A session before anything was queued. -/
def opened (disk : CacheDisk) : CacheSession where
  disk := disk
  jobs := []
  current := none
  stages := fun _ => .ahead
  alive := true
  log := []

/-- A job is queued. -/
def enqueue (session : CacheSession) (job : Job) (occurrence : CacheOccurrence) : CacheSession :=
  { session with jobs := session.jobs ++ [job], log := session.log ++ [occurrence] }

/-- A call comes further. -/
def move (session : CacheSession) (call : Nat) (stage : FlushStage) : CacheSession :=
  { session with stages := Function.update session.stages call stage }

/-- A call that was answered returns. -/
def resume (session : CacheSession) (call : Nat) : CacheSession :=
  { session.move call .over with
    log := session.log ++ [.returned call session.disk.content?] }

/-- The writer begins a write. -/
def begin (session : CacheSession) (configuration : Configuration) (rest : List Job)
    (fate : WriteFate) : CacheSession :=
  { session with
    jobs := rest
    current := some ⟨configuration, .makeFolder fate.folder,
      [.writeDraft configuration.toOctets fate.draft, .moveDraft fate.move]⟩ }

/-- The writer answers a call. -/
def answer (session : CacheSession) (call : Nat) (rest : List Job) : CacheSession :=
  { session.move call .answered with
    jobs := rest
    log := session.log ++ [.answered call] }

/-- The writer is done with a write. -/
def finish (session : CacheSession) (configuration : Configuration) (result : CacheDisk × Bool) :
    CacheSession :=
  { session with
    disk := result.1
    current := none
    log := session.log ++ [.wrote configuration result.2] }

/-- The writer carries out the next operation of a write. It gives the write up if that fails. -/
def operate (session : CacheSession) (write : WriteUnderWay) : CacheSession :=
  match session.disk.perform write.next, write.later with
  | (disk, true), next :: later =>
    { session with disk, current := some { write with next, later } }
  | result, _ => session.finish write.configuration result

/-- The writer does the next thing. -/
def work (session : CacheSession) (fate : WriteFate) : CacheSession :=
  match session.current, session.jobs with
  | some write, _ => session.operate write
  | none, .write configuration :: rest => session.begin configuration rest fate
  | none, .answer call :: rest => session.answer call rest
  | none, [] => session

/-- Some of the draft that is being written reaches the disk. -/
def spill (session : CacheSession) (written : Nat) : CacheSession :=
  match session.current with
  | some ⟨_, .writeDraft octets _, _⟩ =>
    { session with disk := { session.disk with draft := some (octets.take written) } }
  | _ => session

/-- One step of a process that is alive. -/
def stepAlive (session : CacheSession) : CacheStep → CacheSession
  | .save configuration => session.enqueue (.write configuration) (.saved configuration)
  | .flush call =>
    match session.stages call with
    | .ahead => (session.move call .waiting).enqueue (.answer call) (.asked call)
    | _ => session
  | .resume call =>
    match session.stages call with
    | .answered => session.resume call
    | _ => session
  | .work fate => session.work fate
  | .spill written => session.spill written
  | .die => { session with alive := false, log := session.log ++ [.died] }

/-- One step. -/
def step (session : CacheSession) (step : CacheStep) : CacheSession :=
  if session.alive then session.stepAlive step else session

/-- The steps of a schedule. -/
def run (session : CacheSession) (steps : List CacheStep) : CacheSession := steps.foldl step session

end CacheSession

/-! ### What a step can do -/

/-- What may become of a session: one move of a caller or of the writer, with what allows it. -/
inductive CacheSession.Turn (session : CacheSession) : CacheSession → Prop
  | save (configuration : Configuration) :
    Turn session (session.enqueue (.write configuration) (.saved configuration))
  | flush (call : Nat) (ahead : session.stages call = .ahead) :
    Turn session ((session.move call .waiting).enqueue (.answer call) (.asked call))
  | resume (call : Nat) (answered : session.stages call = .answered) :
    Turn session (session.resume call)
  | begin (configuration : Configuration) (rest : List Job) (fate : WriteFate)
    (idle : session.current = none) (jobs : session.jobs = .write configuration :: rest) :
    Turn session (session.begin configuration rest fate)
  | answer (call : Nat) (rest : List Job) (idle : session.current = none)
    (jobs : session.jobs = .answer call :: rest) :
    Turn session (session.answer call rest)
  | proceed (configuration : Configuration) (done next : CacheOperation)
    (later : List CacheOperation) (disk : CacheDisk)
    (current : session.current = some ⟨configuration, done, next :: later⟩)
    (performed : session.disk.perform done = (disk, true)) :
    Turn session { session with disk, current := some ⟨configuration, next, later⟩ }
  | finish (configuration : Configuration) (done : CacheOperation) (later : List CacheOperation)
    (current : session.current = some ⟨configuration, done, later⟩)
    (last : (session.disk.perform done).2 → later = []) :
    Turn session (session.finish configuration (session.disk.perform done))
  | spill (configuration : Configuration) (octets : Octets) (ending : DraftEnding)
    (later : List CacheOperation) (written : Nat)
    (current : session.current = some ⟨configuration, .writeDraft octets ending, later⟩) :
    Turn session
      { session with disk := { session.disk with draft := some (octets.take written) } }
  | die : Turn session { session with alive := false, log := session.log ++ [.died] }

namespace CacheSession

variable {session after : CacheSession} {initial : CacheDisk}

theorem operate_turn {write : WriteUnderWay} (current : session.current = some write) :
    session.Turn (session.operate write) := by
  obtain ⟨configuration, done, later⟩ := write
  unfold operate
  split
  · rename_i disk next later performed same
    exact .proceed configuration done next later disk (by rw [current, ← same]) performed
  · rename_i other
    refine .finish configuration done later current fun succeeded => ?_
    cases later with
    | nil => rfl
    | cons next later => exact absurd rfl (other _ next later (Prod.ext rfl succeeded))

/-- **A step is a turn, or changes nothing.** -/
theorem step_turn (session : CacheSession) (step : CacheStep) :
    session.step step = session ∨ session.Turn (session.step step) := by
  unfold CacheSession.step
  split
  case isFalse => exact .inl rfl
  cases step with
  | save configuration => exact .inr (.save configuration)
  | flush call =>
    simp only [stepAlive]
    cases stage : session.stages call with
    | ahead => exact .inr (.flush call stage)
    | _ => exact .inl rfl
  | resume call =>
    simp only [stepAlive]
    cases stage : session.stages call with
    | answered => exact .inr (.resume call stage)
    | _ => exact .inl rfl
  | work fate =>
    simp only [stepAlive, work]
    split
    · rename_i write current
      exact .inr (operate_turn current)
    · rename_i configuration rest idle jobs
      exact .inr (.begin configuration rest fate idle jobs)
    · rename_i call rest idle jobs
      exact .inr (.answer call rest idle jobs)
    · exact .inl rfl
  | spill written =>
    simp only [stepAlive, spill]
    split
    · rename_i current
      exact .inr (.spill _ _ _ _ written current)
    · exact .inl rfl
  | die => exact .inr .die

end CacheSession

/-! ### What every step preserves -/

section Log

variable {log : CacheLog} {occurrence : CacheOccurrence}

namespace CacheLog

/-- What the file holds, by what reached it. -/
def content? (initial : Option Octets) (log : CacheLog) : Option Octets :=
  (log.kept.getLast?.map Configuration.toOctets).or initial

theorem handled_append (before after : CacheLog) :
    handled (before ++ after) = before.handled ++ after.handled :=
  List.filterMap_append

@[simp] theorem queued_snoc :
    queued (log ++ [occurrence]) = log.queued ++ occurrence.queued?.toList := by
  cases found : occurrence.queued? <;> simp [queued, found]

@[simp] theorem handled_snoc :
    handled (log ++ [occurrence]) = log.handled ++ occurrence.handled?.toList := by
  cases found : occurrence.handled? <;> simp [handled, found]

@[simp] theorem kept_snoc : kept (log ++ [occurrence]) = log.kept ++ occurrence.kept?.toList := by
  cases found : occurrence.kept? <;> simp [kept, found]

@[simp] theorem written_snoc :
    written (log ++ [occurrence]) = log.written ++ occurrence.written?.toList := by
  cases found : occurrence.written? <;> simp [written, found]

/-- What the writer tried to write is what it was asked to write and is done with. -/
theorem map_fst_written (log : CacheLog) :
    log.written.map Prod.fst = log.handled.filterMap Job.write? := by
  unfold written handled
  rw [List.map_filterMap, List.filterMap_filterMap]
  congr 1
  funext occurrence
  cases occurrence <;> rfl

theorem content?_snoc (initial : Option Octets) :
    content? initial (log ++ [occurrence]) =
      (occurrence.kept?.map Configuration.toOctets).or (log.content? initial) := by
  cases found : occurrence.kept? <;> simp [content?, found]

/-- What reached the file is among what was handled, in the same order. -/
theorem kept_sublist_handled (log : CacheLog) :
    log.kept.Sublist (log.handled.filterMap Job.write?) := by
  induction log using List.reverseRecOn with
  | nil => exact List.Sublist.refl _
  | append_singleton log occurrence earlier =>
    rw [kept_snoc, handled_snoc, List.filterMap_append]
    refine earlier.append ?_
    cases occurrence with
    | wrote configuration succeeded =>
      cases succeeded <;> simp [CacheOccurrence.kept?, CacheOccurrence.handled?, Job.write?]
    | _ => exact List.nil_sublist _

end CacheLog

/-- How an occurrence stands to what went before it. -/
def CacheOccurrence.Follows (initial : Option Octets) (before : CacheLog) : CacheOccurrence → Prop
  | answered call => before.handled ++ [.answer call] <+: before.queued
  | returned call content => .answered call ∈ before ∧ content = before.content? initial
  | _ => True

end Log

/-- A write that is under way: if its draft is about to be moved, the draft is complete. -/
inductive WriteUnderWay.OnCourse (disk : CacheDisk) : WriteUnderWay → Prop
  | folder (configuration : Configuration) (fate : WriteFate) :
    OnCourse disk ⟨configuration, .makeFolder fate.folder,
      [.writeDraft configuration.toOctets fate.draft, .moveDraft fate.move]⟩
  | draft (configuration : Configuration) (ending : DraftEnding) (succeeds : Bool) :
    OnCourse disk
      ⟨configuration, .writeDraft configuration.toOctets ending, [.moveDraft succeeds]⟩
  | move (configuration : Configuration) (succeeds : Bool)
    (complete : disk.draft = some configuration.toOctets) :
    OnCourse disk ⟨configuration, .moveDraft succeeds, []⟩

/-- The job of the write that is under way. -/
def CacheSession.underWay (session : CacheSession) : List Job :=
  session.current.toList.map fun write => .write write.configuration

/-- The jobs that the writer is not done with. -/
def CacheSession.pending (session : CacheSession) : List Job := session.underWay ++ session.jobs

/-- What every step preserves in a session that began with the given disk. -/
structure CacheSession.Sound (initial : CacheDisk) (session : CacheSession) : Prop where
  fifo : session.log.queued = session.log.handled ++ session.pending
  course : ∀ write, session.current = some write → write.OnCourse session.disk
  kept : session.disk.content? = session.log.content? initial.content?
  answered : ∀ call, session.stages call = .answered → .answered call ∈ session.log
  follows : ∀ before occurrence after, session.log = before ++ occurrence :: after →
    occurrence.Follows initial.content? before

/-- The steps of the writer that a job takes: a write is begun, and then has three operations. -/
def Job.work : Job → Nat
  | .write _ => 4
  | .answer _ => 1

namespace WriteUnderWay

variable {disk moved : CacheDisk} {configuration : Configuration} {done next : CacheOperation}
  {later : List CacheOperation}

/-- An operation with others to come leaves the file alone, and the write on its course. -/
theorem OnCourse.proceed (course : OnCourse disk ⟨configuration, done, next :: later⟩)
    (performed : disk.perform done = (moved, true)) :
    moved.content? = disk.content? ∧ OnCourse moved ⟨configuration, next, later⟩ := by
  cases course with
  | folder _ fate =>
    obtain ⟨rfl, _⟩ := Prod.ext_iff.mp performed
    exact ⟨rfl, .draft configuration fate.draft fate.move⟩
  | draft _ ending succeeds =>
    cases ending with
    | complete =>
      obtain ⟨rfl, _⟩ := Prod.ext_iff.mp performed
      exact ⟨rfl, .move configuration succeeds rfl⟩
    | _ => simp [CacheDisk.perform] at performed

/-- A write that succeeds leaves its octets in the file; one that fails leaves the file alone. -/
theorem OnCourse.finish (course : OnCourse disk ⟨configuration, done, later⟩)
    (last : (disk.perform done).2 → later = []) :
    (disk.perform done).1.content? =
      if (disk.perform done).2 then some configuration.toOctets else disk.content? := by
  cases course with
  | folder _ fate =>
    have failed : fate.folder = false := by
      by_contra succeeds
      simp [CacheDisk.perform, succeeds] at last
    simp [CacheDisk.perform, failed]
  | draft _ ending _ =>
    cases ending with
    | complete => simp [CacheDisk.perform] at last
    | failed => rfl
    | cut written => rfl
  | move _ succeeds complete =>
    cases succeeds with
    | false => rfl
    | true =>
      obtain ⟨place, draft⟩ := disk
      obtain rfl : draft = some configuration.toOctets := complete
      cases place <;> rfl

/-- More of a draft may reach the disk while the draft is being written. -/
theorem OnCourse.spill {octets : Octets} {ending : DraftEnding}
    (course : OnCourse disk ⟨configuration, .writeDraft octets ending, later⟩) (other : CacheDisk) :
    OnCourse other ⟨configuration, .writeDraft octets ending, later⟩ := by
  cases course with
  | draft _ _ succeeds => exact .draft configuration ending succeeds

end WriteUnderWay

namespace CacheSession

variable {session after : CacheSession} {initial : CacheDisk}

theorem Turn.fifo (turn : session.Turn after)
    (fifo : session.log.queued = session.log.handled ++ session.pending) :
    after.log.queued = after.log.handled ++ after.pending := by
  cases turn <;>
    simp_all [pending, underWay, enqueue, move, CacheSession.resume, CacheSession.begin,
      CacheSession.answer, CacheSession.finish, CacheOccurrence.queued?, CacheOccurrence.handled?]

theorem Turn.course (turn : session.Turn after)
    (course : ∀ write, session.current = some write → write.OnCourse session.disk) :
    ∀ write, after.current = some write → write.OnCourse after.disk := by
  cases turn with
  | begin configuration rest fate _ _ =>
    rintro _ ⟨⟩
    exact .folder configuration fate
  | proceed configuration done next later disk current performed =>
    rintro _ ⟨⟩
    exact ((course _ current).proceed performed).2
  | finish => simp [CacheSession.finish]
  | spill configuration octets ending later written current =>
    intro write same
    obtain rfl : _ = write := Option.some.inj (current.symm.trans same)
    exact (course _ current).spill _
  | save | flush | resume | answer | die => exact course

theorem Turn.kept (turn : session.Turn after)
    (course : ∀ write, session.current = some write → write.OnCourse session.disk)
    (kept : session.disk.content? = session.log.content? initial.content?) :
    after.disk.content? = after.log.content? initial.content? := by
  cases turn with
  | proceed configuration done next later disk current performed =>
    exact ((course _ current).proceed performed).1.trans kept
  | finish configuration done later current last =>
    refine ((course _ current).finish last).trans ?_
    simp only [CacheSession.finish, CacheLog.content?_snoc]
    cases (session.disk.perform done).2 with
    | true => rfl
    | false => exact kept
  | begin | spill => exact kept
  | save | flush | resume | answer | die =>
    simp only [enqueue, move, CacheSession.resume, CacheSession.answer, CacheLog.content?_snoc]
    exact kept

theorem Turn.answered (turn : session.Turn after)
    (answered : ∀ call, session.stages call = .answered → .answered call ∈ session.log) :
    ∀ call, after.stages call = .answered → .answered call ∈ after.log := by
  intro call stage
  cases turn with
  | flush other | resume other =>
    refine List.mem_append_left _ (answered call ?_)
    by_cases own : call = other
    · subst own
      simp [enqueue, move, CacheSession.resume] at stage
    · simpa [enqueue, move, CacheSession.resume, Function.update_of_ne own] using stage
  | answer other =>
    by_cases own : call = other
    · subst own
      exact List.mem_append_right _ (List.mem_singleton_self _)
    · refine List.mem_append_left _ (answered call ?_)
      simpa [CacheSession.answer, move, Function.update_of_ne own] using stage
  | begin | proceed | spill => exact answered call stage
  | save | finish | die => exact List.mem_append_left _ (answered call stage)

/-- What is added to the end of a log comes after all that was there, or is the last. -/
theorem follows_snoc {log : CacheLog} {last : CacheOccurrence} {first : Option Octets}
    (follows : ∀ before occurrence after, log = before ++ occurrence :: after →
      occurrence.Follows first before)
    (fits : last.Follows first log) :
    ∀ before occurrence after, log ++ [last] = before ++ occurrence :: after →
      occurrence.Follows first before := by
  intro before occurrence after same
  rcases List.snoc_eq_split same with ⟨rfl, rfl⟩ | ⟨rest, earlier⟩
  · exact fits
  · exact follows before occurrence rest earlier

theorem Turn.follows (turn : session.Turn after) (sound : session.Sound initial) :
    ∀ before occurrence later, after.log = before ++ occurrence :: later →
      occurrence.Follows initial.content? before := by
  cases turn with
  | resume call answered =>
    exact follows_snoc sound.follows ⟨sound.answered call answered, sound.kept⟩
  | answer call rest idle jobs =>
    refine follows_snoc sound.follows ⟨rest, ?_⟩
    rw [sound.fifo, pending, underWay, idle, jobs]
    simp
  | begin | proceed | spill => exact sound.follows
  | save | flush | finish | die => exact follows_snoc sound.follows trivial

theorem sound_opened (disk : CacheDisk) : (opened disk).Sound disk where
  fifo := rfl
  course := by simp [opened]
  kept := rfl
  answered := by simp [opened]
  follows := by simp [opened]

theorem Sound.turn (sound : session.Sound initial) (turn : session.Turn after) :
    after.Sound initial where
  fifo := turn.fifo sound.fifo
  course := turn.course sound.course
  kept := turn.kept sound.course sound.kept
  answered := turn.answered sound.answered
  follows := turn.follows sound

theorem Sound.step (sound : session.Sound initial) (step : CacheStep) :
    (session.step step).Sound initial := by
  rcases session.step_turn step with same | turn
  · rw [same]
    exact sound
  · exact sound.turn turn

/-- **Every run keeps a session sound.** -/
theorem Sound.run (sound : session.Sound initial) (steps : List CacheStep) :
    (session.run steps).Sound initial := by
  induction steps generalizing session with
  | nil => exact sound
  | cons step rest ih => exact ih (sound.step step)

/-! ### The file and the queue -/

/-- What the file holds and what callers are told: the file holds what reached it last, complete, or
what it held before the run; what reached it did so in the order in which it was saved; and a caller
that returns finds all handled that was queued before it began to wait. -/
structure WholeAndInOrder (initial : CacheDisk) (session : CacheSession) : Prop where
  content : session.disk.content? = session.log.content? initial.content?
  queue : session.log.handled ++ session.pending = session.log.queued
  order : session.log.kept.Sublist session.log.saved
  returned : ∀ (before : CacheLog) call content later,
    session.log = before ++ .returned call content :: later →
      content = before.content? initial.content? ∧
        ∃ earlier between : CacheLog, before = earlier ++ .asked call :: between ∧
          earlier.queued ++ [.answer call] <+: before.handled

/-- What a step may do to the file: it leaves the file alone, as a write that fails does, or it puts
a configuration there that is complete, and the write of it is done. -/
structure FileMoves (session after : CacheSession) : Prop where
  whole : after.disk.content? = session.disk.content? ∨ ∃ configuration,
    after.log = session.log ++ [.wrote configuration true] ∧
      after.disk.content? = some configuration.toOctets
  failed : ∀ configuration, after.log = session.log ++ [.wrote configuration false] →
    after.disk.content? = session.disk.content?

theorem Sound.order (sound : session.Sound initial) :
    session.log.kept.Sublist session.log.saved := by
  refine session.log.kept_sublist_handled.trans ?_
  rw [CacheLog.saved, sound.fifo, List.filterMap_append]
  exact List.sublist_append_left _ _

/-- Who was answered has asked before, and all was handled that was queued before that. -/
theorem Sound.answered_after (sound : session.Sound initial) {before later : CacheLog} {call : Nat}
    (log : session.log = before ++ .answered call :: later) :
    ∃ earlier between : CacheLog, before = earlier ++ .asked call :: between ∧
      before.handled = earlier.queued := by
  obtain ⟨rest, in_order⟩ := sound.follows _ _ _ log
  rw [List.append_assoc, List.singleton_append] at in_order
  obtain ⟨front, back, rfl, front_jobs, back_jobs⟩ := List.filterMap_eq_append_iff.mp in_order.symm
  obtain ⟨blank, source, between, rfl, unseen, found, _⟩ :=
    List.filterMap_eq_cons_iff.mp back_jobs
  obtain rfl : source = .asked call := by
    cases source <;> simp_all [CacheOccurrence.queued?]
  refine ⟨front ++ blank, between, by simp, ?_⟩
  rw [CacheLog.queued, List.filterMap_append, front_jobs, List.filterMap_eq_nil_iff.mpr unseen,
    List.append_nil]

theorem Sound.wholeAndInOrder (sound : session.Sound initial) : session.WholeAndInOrder initial where
  content := sound.kept
  queue := sound.fifo.symm
  order := sound.order
  returned := by
    intro before call content later log
    obtain ⟨told, same⟩ := sound.follows _ _ _ log
    refine ⟨same, ?_⟩
    obtain ⟨front, back, rfl⟩ := List.append_of_mem told
    have answered : session.log =
        front ++ .answered call :: (back ++ .returned call content :: later) := by
      simp [log]
    obtain ⟨earlier, between, rfl, handled⟩ := sound.answered_after answered
    refine ⟨earlier, between ++ .answered call :: back, by simp, CacheLog.handled back, ?_⟩
    rw [CacheLog.handled_append, handled]
    simp [CacheLog.handled, CacheOccurrence.handled?]

theorem Turn.fileMoves (turn : session.Turn after)
    (course : ∀ write, session.current = some write → write.OnCourse session.disk) :
    session.FileMoves after := by
  cases turn with
  | proceed configuration done next later disk current performed =>
    have same := ((course _ current).proceed performed).1
    exact ⟨.inl same, fun _ _ => same⟩
  | finish configuration done later current last =>
    have content := (course _ current).finish last
    refine ⟨?_, fun other log => ?_⟩
    · cases succeeded : (session.disk.perform done).2 with
      | true =>
        rw [succeeded] at content
        exact .inr ⟨configuration, by rw [CacheSession.finish, succeeded], content⟩
      | false =>
        rw [succeeded] at content
        exact .inl content
    · obtain ⟨rfl, failed⟩ : configuration = other ∧ (session.disk.perform done).2 = false := by
        simpa [CacheSession.finish] using log
      rw [failed] at content
      exact content
  | save | flush | resume | begin | answer | spill | die => exact ⟨.inl rfl, fun _ _ => rfl⟩

/-! ### The writer goes on -/

/-- The steps of the writer that it takes at most until some of the jobs are handled. -/
def workFor (session : CacheSession) (jobs : List Job) : Nat :=
  (session.current.toList.map fun write => write.later.length + 1).sum +
    (jobs.map Job.work).sum

theorem Turn.log (turn : session.Turn after) : session.log <+: after.log := by
  cases turn with
  | begin | proceed | spill => exact List.prefix_refl _
  | _ => exact List.prefix_append _ _

/-- What the writer is done with only grows. -/
theorem handled_run (session : CacheSession) (steps : List CacheStep) :
    session.log.handled <+: (session.run steps).log.handled := by
  induction steps generalizing session with
  | nil => exact List.prefix_refl _
  | cons step rest ih =>
    refine List.IsPrefix.trans ?_ (ih (session.step step))
    rcases session.step_turn step with same | turn
    · simp only [same, List.prefix_refl]
    · exact turn.log.filterMap _

/-- A step of the writer brings it nearer to the end of some jobs. -/
theorem work_nearer {front back : List Job} (fate : WriteFate) (jobs : session.jobs = front ++ back)
    (busy : 0 < session.workFor front) :
    ∃ left, (session.work fate).jobs = left ++ back ∧
      (session.work fate).log.handled ++ (session.work fate).underWay ++ left =
        session.log.handled ++ session.underWay ++ front ∧
      (session.work fate).workFor left < session.workFor front := by
  obtain ⟨disk, jobs', current, stages, alive, log⟩ := session
  obtain rfl : jobs' = front ++ back := jobs
  cases current with
  | some write =>
    obtain ⟨configuration, done, later⟩ := write
    refine ⟨front, ?_⟩
    simp only [work, operate]
    split
    · simp [underWay, workFor]
    · simp [CacheSession.finish, underWay, workFor, CacheOccurrence.handled?]
  | none =>
    cases front with
    | nil => simp [workFor] at busy
    | cons job rest =>
      refine ⟨rest, ?_⟩
      cases job with
      | write configuration =>
        simp [work, CacheSession.begin, underWay, workFor, Job.work]
      | answer call =>
        simp [work, CacheSession.answer, move, underWay, workFor, Job.work,
          CacheOccurrence.handled?]

/-- The steps of others do not keep the writer from its jobs. -/
theorem step_other {front back : List Job} {step : CacheStep} (jobs : session.jobs = front ++ back)
    (other : step.works = false) :
    ∃ more, (session.step step).jobs = front ++ more ∧
      (session.step step).log.handled = session.log.handled ∧
      (session.step step).current = session.current := by
  have same : ∃ more, session.jobs = front ++ more ∧ session.log.handled = session.log.handled ∧
      session.current = session.current := ⟨back, jobs, rfl, rfl⟩
  unfold CacheSession.step
  split
  case isFalse => exact same
  cases step with
  | work fate => simp [CacheStep.works] at other
  | save configuration =>
    exact ⟨back ++ [.write configuration], by simp [stepAlive, enqueue, jobs],
      by simp [stepAlive, enqueue, CacheOccurrence.handled?], rfl⟩
  | flush call =>
    simp only [stepAlive]
    split
    · exact ⟨back ++ [.answer call], by simp [enqueue, move, jobs],
        by simp [enqueue, move, CacheOccurrence.handled?], rfl⟩
    · exact same
  | resume call =>
    simp only [stepAlive]
    split
    · exact ⟨back, jobs, by simp [CacheSession.resume, CacheOccurrence.handled?], rfl⟩
    · exact same
  | spill written =>
    simp only [stepAlive, CacheSession.spill]
    split
    · exact ⟨back, jobs, rfl, rfl⟩
    · exact same
  | die => exact ⟨back, jobs, by simp [stepAlive, CacheOccurrence.handled?], rfl⟩

theorem alive_work (session : CacheSession) (fate : WriteFate) :
    (session.work fate).alive = session.alive := by
  unfold work
  split
  · unfold operate
    split <;> rfl
  all_goals rfl

theorem alive_step {step : CacheStep} (alive : session.alive) (lives : step.dies = false) :
    (session.step step).alive := by
  rw [CacheSession.step, if_pos alive]
  cases step with
  | die => simp [CacheStep.dies] at lives
  | work fate => exact (session.alive_work fate).trans alive
  | save configuration => exact alive
  | flush call =>
    simp only [stepAlive]
    split <;> exact alive
  | resume call =>
    simp only [stepAlive]
    split <;> exact alive
  | spill written =>
    simp only [stepAlive, CacheSession.spill]
    split <;> exact alive

/-- Jobs that need no more work are handled. -/
theorem handled_of_workFor_eq_zero {front : List Job} (done : session.workFor front = 0)
    (steps : List CacheStep) :
    session.log.handled ++ session.underWay ++ front <+: (session.run steps).log.handled := by
  obtain ⟨idle, rfl⟩ : session.underWay = [] ∧ front = [] := by
    unfold workFor at done
    unfold underWay
    cases current : session.current with
    | some write => simp [current] at done
    | none =>
      cases front with
      | nil => exact ⟨rfl, rfl⟩
      | cons job rest => cases job <;> simp [current, Job.work] at done
  rw [idle, List.append_nil, List.append_nil]
  exact session.handled_run steps

/-- **The jobs at the head of the queue are handled once the writer has made enough steps**,
whatever fails and whatever others do in between. -/
theorem handled_of_workFor_le {front back : List Job} (jobs : session.jobs = front ++ back)
    (alive : session.alive) (steps : List CacheStep) (lives : ∀ step ∈ steps, step.dies = false)
    (enough : session.workFor front ≤ steps.countP CacheStep.works) :
    session.log.handled ++ session.underWay ++ front <+: (session.run steps).log.handled := by
  induction steps generalizing session front back with
  | nil =>
    rw [List.countP_nil] at enough
    exact handled_of_workFor_eq_zero (Nat.le_zero.mp enough) []
  | cons step rest ih =>
    rcases Nat.eq_zero_or_pos (session.workFor front) with done | busy
    · exact handled_of_workFor_eq_zero done (step :: rest)
    have survives := alive_step alive (lives step (List.mem_cons_self ..))
    have later : ∀ other ∈ rest, other.dies = false :=
      fun other member => lives other (List.mem_cons_of_mem _ member)
    rw [List.countP_cons] at enough
    change _ <+: ((session.step step).run rest).log.handled
    by_cases own : step.works
    · obtain ⟨fate, rfl⟩ : ∃ fate, step = .work fate := by
        cases step <;> simp_all [CacheStep.works]
      have worked : session.step (.work fate) = session.work fate := if_pos alive
      rw [worked] at survives ⊢
      obtain ⟨left, jobs, same, nearer⟩ := work_nearer fate jobs busy
      rw [← same]
      rw [if_pos own] at enough
      exact ih jobs survives later (by omega)
    · obtain ⟨more, jobs, handled, current⟩ := step_other jobs (Bool.eq_false_iff.mpr own)
      have under_way : (session.step step).underWay = session.underWay := by
        rw [underWay, underWay, current]
      have same_work : (session.step step).workFor front = session.workFor front := by
        rw [workFor, workFor, current]
      rw [if_neg own, Nat.add_zero, ← same_work] at enough
      rw [← handled, ← under_way]
      exact ih jobs survives later enough

/-! ### The writer alone -/

theorem step_operate (fate : WriteFate) {write : WriteUnderWay} (alive : session.alive)
    (current : session.current = some write) :
    session.step (.work fate) = session.operate write := by
  rw [CacheSession.step, if_pos alive]
  simp only [stepAlive, work, current]

/-- The steps of a writer that nobody interrupts carry out the operations of a write, up to the first
that fails. -/
theorem run_operations (fate : WriteFate) {configuration : Configuration} {next : CacheOperation}
    {later : List CacheOperation} (alive : session.alive)
    (current : session.current = some ⟨configuration, next, later⟩) :
    ∃ count, session.run (List.replicate count (.work fate)) =
      session.finish configuration (session.disk.performAll (next :: later)) := by
  induction later generalizing session next with
  | nil =>
    refine ⟨1, (step_operate fate alive current).trans ?_⟩
    rcases performed : session.disk.perform next with ⟨disk, succeeded⟩
    cases succeeded <;> simp [operate, CacheDisk.performAll, performed]
  | cons following rest ih =>
    rcases performed : session.disk.perform next with ⟨disk, succeeded⟩
    cases succeeded with
    | false =>
      refine ⟨1, (step_operate fate alive current).trans ?_⟩
      simp [operate, CacheDisk.performAll, performed]
    | true =>
      let moved : CacheSession :=
        { session with disk, current := some ⟨configuration, following, rest⟩ }
      have stepped : session.step (.work fate) = moved :=
        (step_operate fate alive current).trans (by simp [operate, performed, moved])
      have going : moved.alive := alive
      obtain ⟨count, done⟩ := ih going rfl
      have performed_all : session.disk.performAll (next :: following :: rest) =
          disk.performAll (following :: rest) := by
        rw [CacheDisk.performAll, performed]
      refine ⟨count + 1, ?_⟩
      rw [List.replicate_succ]
      change (session.step (.work fate)).run _ = _
      rw [stepped, done, performed_all]
      rfl

theorem step_begin (fate : WriteFate) {configuration : Configuration} {rest : List Job}
    (alive : session.alive) (idle : session.current = none)
    (jobs : session.jobs = .write configuration :: rest) :
    session.step (.work fate) = session.begin configuration rest fate := by
  rw [CacheSession.step, if_pos alive]
  simp only [stepAlive, work, idle, jobs]

/-- **The steps of a writer that nobody interrupts are one `CacheWriter.step`.** -/
theorem run_write_alone (fate : WriteFate) {configuration : Configuration} {rest : List Job}
    (alive : session.alive) (idle : session.current = none)
    (jobs : session.jobs = .write configuration :: rest) :
    ∃ count succeeded,
      let alone := session.run (List.replicate count (.work fate))
      (CacheWriter.mk session.disk (session.jobs.map Job.task)).step fate =
          (⟨alone.disk, alone.jobs.map Job.task⟩, .written succeeded) ∧
        alone.log = session.log ++ [.wrote configuration succeeded] ∧ alone.current = none := by
  have begun := step_begin fate alive idle jobs
  have going : (session.begin configuration rest fate).alive := alive
  obtain ⟨count, done⟩ := run_operations fate going rfl
  have whole : session.run (List.replicate (count + 1) (.work fate)) =
      (session.begin configuration rest fate).finish configuration
        (session.disk.performAll (CacheDisk.writing configuration.toOctets fate)) := by
    rw [List.replicate_succ]
    change (session.step (.work fate)).run _ = _
    rw [begun, done]
    rfl
  let result := session.disk.performAll (CacheDisk.writing configuration.toOctets fate)
  refine ⟨count + 1, result.2, ?_⟩
  rw [whole, jobs]
  exact ⟨rfl, rfl, rfl⟩

/-! ### What the writer says of its writes -/

/-- What is to be said of the write that is under way: whether all that is left of it succeeds. -/
def due? (session : CacheSession) : Option (Configuration × Bool) :=
  session.current.map fun write =>
    (write.configuration, (session.disk.performAll (write.next :: write.later)).2)

/-- What was said of writes, with what is to be said of the one under way. -/
def outcomes (session : CacheSession) : List (Configuration × Bool) :=
  session.log.written ++ session.due?.toList

/-- What is to be said of a write stays the same until it is said. -/
theorem Turn.outcomes (turn : session.Turn after) : session.outcomes <+: after.outcomes := by
  cases turn with
  | begin configuration rest fate idle jobs =>
    simp [CacheSession.outcomes, due?, idle, CacheSession.begin]
  | proceed configuration done next later disk current performed =>
    have same : session.disk.performAll (done :: next :: later) =
        disk.performAll (next :: later) := by
      rw [CacheDisk.performAll, performed]
    simp [CacheSession.outcomes, due?, current, same]
  | finish configuration done later current last =>
    have result : (session.disk.performAll (done :: later)).2 = (session.disk.perform done).2 := by
      rcases performed : session.disk.perform done with ⟨disk, succeeded⟩
      cases succeeded with
      | false => simp [CacheDisk.performAll, performed]
      | true => simp [CacheDisk.performAll, performed, last (by rw [performed])]
    simp [CacheSession.outcomes, due?, current, CacheSession.finish, CacheOccurrence.written?,
      result]
  | spill configuration octets ending later written current =>
    -- a complete draft takes the place of what reached the disk of it
    have same (draft : Option Octets) :
        (({ session.disk with draft } : CacheDisk).performAll
          (.writeDraft octets ending :: later)).2 =
        (session.disk.performAll (.writeDraft octets ending :: later)).2 := by
      cases ending <;> rfl
    simp [CacheSession.outcomes, due?, current, same]
  | save | flush | resume | answer | die =>
    simp [CacheSession.outcomes, due?, enqueue, move, CacheSession.resume, CacheSession.answer,
      CacheOccurrence.written?]

theorem outcomes_run (session : CacheSession) (steps : List CacheStep) :
    session.outcomes <+: (session.run steps).outcomes := by
  induction steps generalizing session with
  | nil => exact List.prefix_refl _
  | cons step rest ih =>
    refine List.IsPrefix.trans ?_ (ih (session.step step))
    rcases session.step_turn step with same | turn
    · simp only [same, List.prefix_refl]
    · exact turn.outcomes

/-- The operations of a write that the writer begins with. -/
theorem due?_begin (configuration : Configuration) (rest : List Job) (fate : WriteFate) :
    (session.begin configuration rest fate).due? =
      some (configuration,
        (session.disk.performAll (CacheDisk.writing configuration.toOctets fate)).2) :=
  rfl

/-- What the writer says of a write is what comes of its operations: whoever else steps in while it
goes on, and as `CacheWriter.step` has it when nobody does. -/
structure ReportsWrites (session : CacheSession) : Prop where
  outcome : ∀ fate configuration rest (more : List CacheStep), session.alive →
    session.current = none → session.jobs = .write configuration :: rest →
    (∀ step ∈ more, step.dies = false) → 3 ≤ more.countP CacheStep.works →
      session.log.written ++
          [(configuration,
            (session.disk.performAll (CacheDisk.writing configuration.toOctets fate)).2)] <+:
        (session.run (.work fate :: more)).log.written
  alone : ∀ fate configuration rest, session.alive → session.current = none →
    session.jobs = .write configuration :: rest →
      ∃ count succeeded,
        let alone := session.run (List.replicate count (.work fate))
        (CacheWriter.mk session.disk (session.jobs.map Job.task)).step fate =
            (⟨alone.disk, alone.jobs.map Job.task⟩, .written succeeded) ∧
          alone.log = session.log ++ [.wrote configuration succeeded] ∧ alone.current = none

/-- **What the writer says of a write is what comes of its operations.** -/
theorem reportsWrites (session : CacheSession) : session.ReportsWrites where
  outcome := by
    intro fate configuration rest more alive idle jobs lives enough
    have begun := step_begin fate alive idle jobs
    change _ <+: ((session.step (.work fate)).run more).log.written
    rw [begun]
    -- the outcome is due once the write begins, and remains due until it is said
    have due := (session.begin configuration rest fate).outcomes_run more
    rw [CacheSession.outcomes, due?_begin, CacheSession.outcomes] at due
    -- three steps of the writer are enough for it to be said
    have jobs_begun : (session.begin configuration rest fate).jobs = [] ++ rest := rfl
    have tried := (handled_of_workFor_le jobs_begun alive more lives enough).filterMap Job.write?
    rw [← CacheLog.map_fst_written, List.append_nil, List.filterMap_append,
      ← CacheLog.map_fst_written] at tried
    refine List.prefix_of_prefix_length_le due (List.prefix_append _ _) ?_
    simpa [underWay, CacheSession.begin, Job.write?] using tried.length_le
  alone := fun fate _ _ alive idle jobs => run_write_alone fate alive idle jobs

/-! ### The file is whole and in order -/

/-- **The file of a writer is whole at any time, and never goes backwards.** Whatever fails, and
wherever the process dies, the file holds what it held before the run or a complete configuration that
was saved; every step leaves it so or puts a complete one there, in the order in which they were
saved; a caller returns once all was handled that was queued before it asked; and the writer goes on
to the jobs that are queued, whatever failed before them, and says of each write what came of it. -/
theorem file_is_whole_and_in_order (disk : CacheDisk) (steps : List CacheStep) :
    let session := (opened disk).run steps
    session.WholeAndInOrder disk ∧ (∀ step, session.FileMoves (session.step step)) ∧
      session.ReportsWrites ∧
      ∀ more : List CacheStep, session.alive → (∀ step ∈ more, step.dies = false) →
        session.workFor session.jobs ≤ more.countP CacheStep.works →
          session.log.queued <+: (session.run more).log.handled := by
  intro session
  have sound : session.Sound disk := (sound_opened disk).run steps
  refine ⟨sound.wholeAndInOrder, fun step => ?_, session.reportsWrites,
    fun more alive lives enough => ?_⟩
  · rcases session.step_turn step with same | turn
    · rw [same]
      exact ⟨.inl rfl, fun _ _ => rfl⟩
    · exact turn.fileMoves sound.course
  · rw [sound.fifo, pending, ← List.append_assoc]
    exact handled_of_workFor_le (List.append_nil _).symm alive more lives enough

/-- A process that dies while a draft is being written leaves the file as it was. -/
example (old new : Configuration) :
    let session := (opened ⟨.file old.toOctets, none⟩).run
      [.save new, .work .smooth, .work .smooth, .spill 1, .die, .work .smooth, .work .smooth]
    session.disk = ⟨.file old.toOctets, some (new.toOctets.take 1)⟩ ∧ session.current.isSome :=
  ⟨rfl, rfl⟩

end CacheSession

end FeatureFlags
