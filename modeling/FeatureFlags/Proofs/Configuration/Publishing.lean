import FeatureFlags.Proofs.Configuration.StoreSession

/-!
**Slot, listener, queue and file see the same configurations in one order.**

What a call that holds the lock still owes makes up for what the queue and the listener have not
seen yet: what was brought about, with what is owed, is what came into the store. The file holds
what the writer wrote last, and the writer goes by the queue. A call that restores finds the slot
empty while it holds the lock, so it is the first that stores, and the only one that restores.

* `StoreSession.Sound`, `StoreSession.Sound.turn`: what every turn preserves.
* `StoreSession.InOneOrder`: what the parts of a session see, and what calls are told, at any time.
* `StoreSession.GoesOn`: that no call waits for ever for the lock.
* `StoreSession.Agreed`: what the parts see in the end.
* `StoreSession.publishes_in_one_order`: all of this, for every run.
-/

namespace FeatureFlags

/-! ### Logs that grow -/

namespace Publication

@[simp] theorem mk_append (queued announced more further : List Configuration) :
    (⟨queued, announced⟩ : Publication) ++ ⟨more, further⟩ =
      ⟨queued ++ more, announced ++ further⟩ := rfl

theorem append_assoc (first second third : Publication) :
    (first ++ second) ++ third = first ++ (second ++ third) := by
  obtain ⟨⟩ := first
  obtain ⟨⟩ := second
  obtain ⟨⟩ := third
  simp

@[simp] theorem nothing_append (publication : Publication) :
    nothing ++ publication = publication := by
  obtain ⟨⟩ := publication
  simp [nothing]

@[simp] theorem append_nothing (publication : Publication) :
    publication ++ nothing = publication := by
  obtain ⟨⟩ := publication
  simp [nothing]

end Publication

namespace Occurrence

/-- What is queued for the disk and announced. -/
def brought (occurrence : Occurrence) : Publication where
  queued := (occurrence.queued?.bind Job.write?).toList
  announced := occurrence.announced?.toList

/-- What is to be queued and announced. -/
def due (settings : StoreSettings) (occurrence : Occurrence) : Publication :=
  match occurrence.arrival? with
  | none => .nothing
  | some arrival =>
    ⟨if settings.persists ∧ arrival.origin = .set then [arrival.configuration] else [],
      if settings.listens then [arrival.configuration] else []⟩

variable {occurrence : Occurrence}

@[simp] theorem brought_of_quiet (quiet : occurrence.changer? = none) :
    occurrence.brought = .nothing := by
  cases occurrence <;> simp_all [changer?, brought, queued?, announced?, Publication.nothing]

@[simp] theorem due_of_quiet (settings : StoreSettings) (quiet : occurrence.changer? = none) :
    occurrence.due settings = .nothing := by
  cases occurrence <;> simp_all [changer?, due, arrival?]

end Occurrence

/-- Whether a reply is one that a request may get. -/
def StoreReply.Answers : StoreReply → StoreRequest → Prop
  | done, .set _ | loaded _, .load | got _, .get | flushed, .flush => True
  | _, _ => False

namespace StoreLog

variable {log : StoreLog} {occurrence : Occurrence}

/-- What has been queued for the disk and announced. -/
def brought (log : StoreLog) : Publication := ⟨log.queued.filterMap Job.write?, log.announced⟩

/-- What is to be queued and announced, by what came into the store. -/
def due (settings : StoreSettings) (log : StoreLog) : Publication where
  queued := if settings.persists then log.storedBySet else []
  announced := if settings.listens then log.stored else []

/-- Whether a call has changed neither the slot nor the queue nor the history of the listener. -/
def Untouched (log : StoreLog) (call : Nat) : Prop :=
  ∀ occurrence ∈ log, occurrence.changer? ≠ some call

/-- A call that was to set a configuration has stored it. -/
def HasSet (log : StoreLog) (call : Nat) : Prop :=
  ∃ configuration, .asked call (.set configuration) ∈ log ∧
    .stored ⟨call, .set, configuration⟩ ∈ log

/-- A call that was to load has stored a configuration that it restored. -/
def HasRestored (log : StoreLog) (call : Nat) : Prop :=
  .asked call .load ∈ log ∧ ∃ configuration, .stored ⟨call, .restored, configuration⟩ ∈ log

/-- What a call must have been asked for, and must have done or left alone, to be told something. -/
def Earned (log : StoreLog) (call : Nat) : StoreReply → Prop
  | .done => log.HasSet call
  | .loaded true => log.HasRestored call
  | .loaded false => .asked call .load ∈ log ∧ log.Untouched call
  | .got _ => .asked call .get ∈ log
  | .flushed => .asked call .flush ∈ log

/-- Each occurrence stands in a relation to what went before it. -/
def Each (relates : StoreLog → Occurrence → Prop) (log : StoreLog) : Prop :=
  ∀ before occurrence after, log = before ++ occurrence :: after → relates before occurrence

@[simp] theorem arrivals_snoc :
    arrivals (log ++ [occurrence]) = arrivals log ++ occurrence.arrival?.toList := by
  cases found : occurrence.arrival? <;> simp [arrivals, found]

@[simp] theorem announced_snoc :
    announced (log ++ [occurrence]) = announced log ++ occurrence.announced?.toList := by
  cases found : occurrence.announced? <;> simp [announced, found]

@[simp] theorem queued_snoc :
    queued (log ++ [occurrence]) = queued log ++ occurrence.queued?.toList := by
  cases found : occurrence.queued? <;> simp [queued, found]

@[simp] theorem handled_snoc :
    handled (log ++ [occurrence]) = handled log ++ occurrence.handled?.toList := by
  cases found : occurrence.handled? <;> simp [handled, found]

theorem brought_snoc : brought (log ++ [occurrence]) = log.brought ++ occurrence.brought := by
  cases found : occurrence.queued? with
  | none => simp [brought, Occurrence.brought, found]
  | some job => cases wanted : job.write? <;> simp [brought, Occurrence.brought, found, wanted]

theorem due_snoc (settings : StoreSettings) :
    due settings (log ++ [occurrence]) = log.due settings ++ occurrence.due settings := by
  unfold due Occurrence.due
  cases found : occurrence.arrival? with
  | none => simp [storedBySet, stored, found]
  | some arrival =>
    by_cases persists : settings.persists <;> by_cases listens : settings.listens <;>
      by_cases set : arrival.origin = .set <;>
      simp [storedBySet, stored, found, persists, listens, set]

theorem Each.snoc {relates : StoreLog → Occurrence → Prop} (each : Each relates log)
    (last : relates log occurrence) : Each relates (log ++ [occurrence]) := by
  intro before other after same
  rcases List.snoc_eq_split same with ⟨rfl, rfl⟩ | ⟨rest, earlier⟩
  · exact last
  · exact each before other rest earlier

theorem untouched_snoc {call : Nat} :
    Untouched (log ++ [occurrence]) call ↔
      Untouched log call ∧ occurrence.changer? ≠ some call := by
  simp [Untouched, or_imp, forall_and]

theorem HasSet.append {call : Nat} (done : log.HasSet call) (more : StoreLog) :
    HasSet (log ++ more) call := by
  obtain ⟨configuration, asked, stored⟩ := done
  exact ⟨configuration, List.mem_append_left _ asked, List.mem_append_left _ stored⟩

theorem HasRestored.append {call : Nat} (restored : log.HasRestored call) (more : StoreLog) :
    HasRestored (log ++ more) call := by
  obtain ⟨asked, configuration, stored⟩ := restored
  exact ⟨List.mem_append_left _ asked, configuration, List.mem_append_left _ stored⟩

theorem Earned.snoc {call : Nat} {reply : StoreReply} (earned : log.Earned call reply)
    (quiet : occurrence.changer? ≠ some call) : Earned (log ++ [occurrence]) call reply := by
  match reply, earned with
  | .done, done => exact done.append _
  | .loaded true, restored => exact restored.append _
  | .loaded false, ⟨asked, untouched⟩ =>
    exact ⟨List.mem_append_left _ asked, untouched_snoc.mpr ⟨untouched, quiet⟩⟩
  | .got _, asked | .flushed, asked => exact List.mem_append_left _ asked

/-- What a call is told is an answer to what it was asked for. -/
theorem Earned.asked {call : Nat} {reply : StoreReply} (earned : log.Earned call reply) :
    ∃ request, .asked call request ∈ log ∧ reply.Answers request := by
  match reply, earned with
  | .done, ⟨configuration, asked, _⟩ => exact ⟨.set configuration, asked, trivial⟩
  | .loaded true, ⟨asked, _⟩ | .loaded false, ⟨asked, _⟩ => exact ⟨.load, asked, trivial⟩
  | .got _, asked => exact ⟨.get, asked, trivial⟩
  | .flushed, asked => exact ⟨.flush, asked, trivial⟩

end StoreLog

namespace Occurrence

/-- Only a call's own occurrences are changes that it makes. -/
theorem call?_of_changer? {occurrence : Occurrence} {call : Nat}
    (changer : occurrence.changer? = some call) : occurrence.call? = some call := by
  cases occurrence <;> simp_all [changer?, call?]

/-- How an occurrence stands to what went before it. -/
def Follows (settings : StoreSettings) (before : StoreLog) : Occurrence → Prop
  | asked call _ => ∀ other ∈ before, other.call? ≠ some call
  | stored ⟨call, .set, configuration⟩ =>
    asked call (.set configuration) ∈ before ∧ before.Untouched call
  | stored ⟨call, .restored, configuration⟩ =>
    StoreLog.stored before = [] ∧ asked call .load ∈ before ∧
      ∃ content, read call content ∈ before ∧
        (Store.ofSettings settings).found content = some configuration
  | queued call (.answer waiting) => waiting = call ∧ asked call .flush ∈ before
  | handled job _ => StoreLog.handledJobs before ++ [job] <+: StoreLog.queued before
  | replied call reply =>
    (∀ other, replied call other ∉ before) ∧ before.Earned call reply ∧
      match reply with
      | .got found => found = (StoreLog.stored before).getLast?
      | .done | .loaded true => StoreLog.brought before = StoreLog.due settings before
      | .flushed =>
        settings.persists → (StoreLog.handledJobs before).getLast? = some (.answer call)
      | .loaded false => True
  | _ => True

end Occurrence

/-! ### What every step preserves -/

/-- Whether a call holds the lock. -/
def Stage.publishes : Stage → Bool
  | publishing _ _ => true
  | _ => false

/-- How far a call has come, by what a log has of it. -/
def Stage.Fits (settings : StoreSettings) (log : StoreLog) (call : Nat) : Stage → Prop
  | ahead => ∀ occurrence ∈ log, occurrence.call? ≠ some call
  | asked request => .asked call request ∈ log ∧ log.Untouched call
  | found configuration =>
    (.asked call .load ∈ log ∧
      ∃ content, .read call content ∈ log ∧
        (Store.ofSettings settings).found content = some configuration) ∧ log.Untouched call
  | publishing owed reply =>
    (owed.queued.length ≤ 1 ∧ owed.announced.length ≤ 1) ∧
      (reply = .done ∧ log.HasSet call ∨ reply = .loaded true ∧ log.HasRestored call)
  | waiting => .asked call .flush ∈ log
  | ended reply => log.Earned call reply

/-- The calls that publish are the one that holds the lock. -/
def Guarded (stages : Nat → Stage) (lock : Option Nat) : Prop :=
  ∀ call, (stages call).publishes ↔ lock = some call

/-- The calls that were told something are over. -/
def Answered (stages : Nat → Stage) (log : StoreLog) : Prop :=
  ∀ call reply, .replied call reply ∈ log → stages call = .ended reply

/-- How far the calls have come is what the log has of them. -/
def Fitting (settings : StoreSettings) (stages : Nat → Stage) (log : StoreLog) : Prop :=
  ∀ call, (stages call).Fits settings log call

/-- What every step preserves in a session that began with the given disk. -/
structure StoreSession.Sound (settings : StoreSettings) (initial : CacheDisk)
    (session : StoreSession) : Prop where
  setUp : session.store.settings = settings
  active : session.store.active = session.log.stored.getLast?
  follows : session.log.Each (Occurrence.Follows settings)
  guarded : Guarded session.stages session.lock
  balance : session.log.brought ++ session.owed = session.log.due settings
  fifo : session.log.queued = session.log.handledJobs ++ session.jobs
  written : session.log.written.map Prod.fst = session.log.handledJobs.filterMap Job.write?
  kept : session.disk.content? =
    (session.log.kept.getLast?.map Configuration.toOctets).or initial.content?
  answered : Answered session.stages session.log
  fitting : Fitting settings session.stages session.log

namespace CacheDisk

/-- A write that succeeds leaves its octets in the file; one that fails leaves the file alone. -/
theorem content?_writing (disk : CacheDisk) (octets : Octets) (fate : WriteFate) :
    (disk.performAll (writing octets fate)).1.content? =
      if (disk.performAll (writing octets fate)).2 then some octets else disk.content? := by
  obtain ⟨folder, draft, move⟩ := fate
  obtain ⟨place, old⟩ := disk
  cases folder <;> cases draft <;> cases move <;> cases place <;> rfl

end CacheDisk

/-! #### The lock -/

section Guarded

variable {stages : Nat → Stage} {lock : Option Nat} {call : Nat} {stage : Stage}
  {owed : Publication} {reply : StoreReply}

theorem Guarded.lock_eq (guarded : Guarded stages lock)
    (publishing : stages call = .publishing owed reply) : lock = some call :=
  (guarded call).mp (by simp [publishing, Stage.publishes])

theorem Guarded.exists_publishing (guarded : Guarded stages lock) (held : lock = some call) :
    ∃ owed reply, stages call = .publishing owed reply := by
  have publishes := (guarded call).mpr held
  cases stage : stages call with
  | publishing owed reply => exact ⟨owed, reply, rfl⟩
  | _ => simp [stage, Stage.publishes] at publishes

theorem Guarded.update (guarded : Guarded stages lock)
    (same : (stages call).publishes = stage.publishes) :
    Guarded (Function.update stages call stage) lock := by
  intro other
  rw [← guarded other]
  by_cases own : other = call
  · subst own
    simp [same]
  · simp [Function.update_of_ne own]

theorem Guarded.take (guarded : Guarded stages none) (publishes : stage.publishes) :
    Guarded (Function.update stages call stage) (some call) := by
  intro other
  by_cases own : other = call
  · subst own
    simp [publishes]
  · have idle : ¬(stages other).publishes := by simp [guarded other]
    simp [Function.update_of_ne own, idle, Ne.symm own]

theorem Guarded.leave (guarded : Guarded stages (some call)) (ended : stage.publishes = false) :
    Guarded (Function.update stages call stage) none := by
  intro other
  by_cases own : other = call
  · subst own
    simp [ended]
  · have idle : ¬(stages other).publishes := by simp [guarded other, Ne.symm own]
    simp [Function.update_of_ne own, idle]

end Guarded

namespace StoreSession

variable {settings : StoreSettings} {initial : CacheDisk} {session after : StoreSession}

/-! #### The slot and the queue -/

theorem Turn.setUp (turn : session.Turn after) : after.store.settings = session.store.settings := by
  cases turn <;> rfl

theorem Turn.active (turn : session.Turn after)
    (active : session.store.active = session.log.stored.getLast?) :
    after.store.active = after.log.stored.getLast? := by
  cases turn <;> simp_all [StoreLog.stored, Store.set, Occurrence.arrival?]

theorem Turn.fifo (turn : session.Turn after)
    (fifo : session.log.queued = session.log.handledJobs ++ session.jobs) :
    after.log.queued = after.log.handledJobs ++ after.jobs := by
  cases turn <;> simp_all [StoreLog.handledJobs, Occurrence.queued?, Occurrence.handled?]

/-! #### The lock and what is owed -/

theorem Turn.guarded (turn : session.Turn after) (guarded : Guarded session.stages session.lock) :
    Guarded after.stages after.lock := by
  cases turn
  case set free =>
    rw [free] at guarded
    exact guarded.take rfl
  case restore free _ =>
    rw [free] at guarded
    exact guarded.take rfl
  case finish publishing =>
    rw [guarded.lock_eq publishing] at guarded
    exact guarded.leave rfl
  case handle => exact guarded
  case dismiss loading =>
    apply guarded.update
    obtain asked | ⟨configuration, found⟩ := loading <;> simp [*, Stage.publishes]
  all_goals exact guarded.update (by simp [*, Stage.publishes])

section Balance

variable {call : Nat} {stage : Stage} {owed : Publication} {reply : StoreReply}
  {occurrence : Occurrence}

theorem owed_of_publishing (guarded : Guarded session.stages session.lock)
    (publishing : session.stages call = .publishing owed reply) : session.owed = owed := by
  simp [StoreSession.owed, guarded.lock_eq publishing, publishing, Stage.owed]

theorem owed_move (same : (session.stages call).owed = stage.owed) :
    (session.move call stage occurrence).owed = session.owed := by
  simp only [StoreSession.owed, move_lock, move_stages]
  cases session.lock with
  | none => rfl
  | some other =>
    by_cases own : other = call
    · subst own
      simp [same]
    · simp [Function.update_of_ne own]

theorem owed_of_free (free : session.lock = none) : session.owed = .nothing := by
  simp [StoreSession.owed, free]

/-- An occurrence keeps the balance if what it brings about, with what is left to do, is what was
owed with what is due for the occurrence. -/
theorem balance_snoc {left : Publication}
    (balance : session.log.brought ++ session.owed = session.log.due settings)
    (settled : occurrence.brought ++ left = session.owed ++ occurrence.due settings) :
    StoreLog.brought (session.log ++ [occurrence]) ++ left =
      StoreLog.due settings (session.log ++ [occurrence]) := by
  rw [StoreLog.brought_snoc, StoreLog.due_snoc, Publication.append_assoc, settled,
    ← Publication.append_assoc, balance]

theorem balance_move (balance : session.log.brought ++ session.owed = session.log.due settings)
    (quiet : occurrence.changer? = none) (same : (session.stages call).owed = stage.owed) :
    (session.move call stage occurrence).log.brought ++ (session.move call stage occurrence).owed =
      (session.move call stage occurrence).log.due settings := by
  apply balance_snoc balance
  simp [owed_move same, quiet]

theorem Turn.balance (turn : session.Turn after) (setUp : session.store.settings = settings)
    (guarded : Guarded session.stages session.lock)
    (balance : session.log.brought ++ session.owed = session.log.due settings) :
    after.log.brought ++ after.owed = after.log.due settings := by
  subst setUp
  cases turn
  case set call configuration asked free =>
    apply balance_snoc balance
    rw [owed_of_free free]
    simp [StoreSession.owed, Stage.owed, Store.set, Store.announced, Occurrence.brought,
      Occurrence.due, Occurrence.queued?, Occurrence.announced?, Occurrence.arrival?]
  case restore call configuration found free vacant =>
    apply balance_snoc balance
    rw [owed_of_free free]
    simp [StoreSession.owed, Stage.owed, Store.announced, Occurrence.brought, Occurrence.due,
      Occurrence.queued?, Occurrence.announced?, Occurrence.arrival?]
  case queue call configuration rest announced reply publishing =>
    apply balance_snoc balance
    rw [owed_of_publishing guarded publishing]
    simp [StoreSession.owed, Stage.owed, guarded.lock_eq publishing, Occurrence.brought,
      Occurrence.due, Occurrence.queued?, Occurrence.announced?, Occurrence.arrival?, Job.write?]
  case announce call configuration rest reply publishing =>
    apply balance_snoc balance
    rw [owed_of_publishing guarded publishing]
    simp [StoreSession.owed, Stage.owed, guarded.lock_eq publishing, Occurrence.brought,
      Occurrence.due, Occurrence.queued?, Occurrence.announced?, Occurrence.arrival?]
  case finish call reply publishing =>
    apply balance_snoc balance
    rw [owed_of_publishing guarded publishing]
    simp [StoreSession.owed, Publication.nothing, Occurrence.brought,
      Occurrence.due, Occurrence.queued?, Occurrence.announced?, Occurrence.arrival?]
  case request call asked =>
    apply balance_snoc balance
    have owed : (session.enqueue call .waiting (.answer call)).owed = session.owed := by
      change (session.move call .waiting (.queued call (.answer call))).owed = session.owed
      exact owed_move (by simp [asked, Stage.owed])
    have nothing : (Occurrence.queued call (.answer call)).brought = .nothing := rfl
    have due : (Occurrence.queued call (.answer call)).due session.store.settings = .nothing := rfl
    simp [owed, nothing, due]
  case handle job rest fate jobs =>
    apply balance_snoc balance
    have owed : (session.handle job rest fate).owed = session.owed := rfl
    rw [owed, Occurrence.brought_of_quiet rfl, Occurrence.due_of_quiet _ rfl]
    simp
  case dismiss call loading =>
    apply balance_move balance rfl
    obtain asked | ⟨configuration, found⟩ := loading <;> simp [*, Stage.owed]
  all_goals exact balance_move balance rfl (by simp [*, Stage.owed])

end Balance

/-! #### The file -/

section File

variable {configuration : Configuration} {call : Nat} {rest : List Job}

theorem written_write (fate : WriteFate) (jobs : session.jobs = .write configuration :: rest) :
    (session.written fate).1.disk =
        (session.disk.performAll (CacheDisk.writing configuration.toOctets fate)).1 ∧
      (session.written fate).2 = .written
        (session.disk.performAll (CacheDisk.writing configuration.toOctets fate)).2 := by
  unfold written
  rw [jobs]
  exact ⟨rfl, rfl⟩

theorem written_answer (fate : WriteFate) (jobs : session.jobs = .answer call :: rest) :
    (session.written fate).1.disk = session.disk ∧ (session.written fate).2 = .answered := by
  unfold written
  rw [jobs]
  exact ⟨rfl, rfl⟩

end File

theorem Turn.written (turn : session.Turn after)
    (written : session.log.written.map Prod.fst = session.log.handledJobs.filterMap Job.write?) :
    after.log.written.map Prod.fst = after.log.handledJobs.filterMap Job.write? := by
  cases turn
  case handle job rest fate jobs =>
    cases job with
    | write configuration =>
      simp_all [StoreLog.written, StoreLog.handledJobs, Occurrence.handled?, Job.write?,
        written_write fate jobs]
    | answer call =>
      simp_all [StoreLog.written, StoreLog.handledJobs, Occurrence.handled?, Job.write?]
  all_goals simpa [StoreLog.written, StoreLog.handledJobs, Occurrence.handled?] using written

theorem Turn.kept (turn : session.Turn after)
    (kept : session.disk.content? =
      (session.log.kept.getLast?.map Configuration.toOctets).or initial.content?) :
    after.disk.content? =
      (after.log.kept.getLast?.map Configuration.toOctets).or initial.content? := by
  cases turn
  case handle job rest fate jobs =>
    cases job with
    | write configuration =>
      obtain ⟨disk, report⟩ := written_write fate jobs
      rw [handle_disk, disk, CacheDisk.content?_writing]
      cases succeeded :
        (session.disk.performAll (CacheDisk.writing configuration.toOctets fate)).2 with
      | true => simp [StoreLog.kept, StoreLog.written, Occurrence.handled?, report, succeeded]
      | false =>
        simpa [StoreLog.kept, StoreLog.written, Occurrence.handled?, report, succeeded] using kept
    | answer call =>
      obtain ⟨disk, report⟩ := written_answer fate jobs
      rw [handle_disk, disk]
      simpa [StoreLog.kept, StoreLog.written, Occurrence.handled?, report] using kept
  all_goals simpa [StoreLog.kept, StoreLog.written, Occurrence.handled?] using kept

end StoreSession

/-! #### The calls and what the log has of them -/

section Calls

variable {settings : StoreSettings} {stages : Nat → Stage} {log : StoreLog} {call : Nat}
  {stage : Stage} {reply : StoreReply} {occurrence : Occurrence}

/-- A call that publishes goes on to fit while it owes less. -/
theorem publishing_snoc {owed left : Publication}
    (fits : (Stage.publishing owed reply).Fits settings log call)
    (queued : left.queued.length ≤ owed.queued.length)
    (announced : left.announced.length ≤ owed.announced.length) :
    (Stage.publishing left reply).Fits settings (log ++ [occurrence]) call := by
  obtain ⟨⟨one, another⟩, told⟩ := fits
  refine ⟨⟨Nat.le_trans queued one, Nat.le_trans announced another⟩, ?_⟩
  obtain ⟨rfl, set⟩ | ⟨rfl, restored⟩ := told
  · exact .inl ⟨rfl, set.append _⟩
  · exact .inr ⟨rfl, restored.append _⟩

/-- What a log has of a call stays as it is when something else happens. -/
theorem fits_snoc (fits : stage.Fits settings log call) (foreign : occurrence.call? ≠ some call) :
    stage.Fits settings (log ++ [occurrence]) call := by
  have quiet : occurrence.changer? ≠ some call :=
    fun changer => foreign (Occurrence.call?_of_changer? changer)
  cases stage with
  | ahead =>
    intro other happened
    rcases List.mem_append.mp happened with old | new
    · exact fits other old
    · rw [List.mem_singleton.mp new]
      exact foreign
  | asked request =>
    obtain ⟨asked, untouched⟩ := fits
    exact ⟨List.mem_append_left _ asked, StoreLog.untouched_snoc.mpr ⟨untouched, quiet⟩⟩
  | found configuration =>
    obtain ⟨⟨asked, content, read, found⟩, untouched⟩ := fits
    exact ⟨⟨List.mem_append_left _ asked, content, List.mem_append_left _ read, found⟩,
      StoreLog.untouched_snoc.mpr ⟨untouched, quiet⟩⟩
  | publishing owed reply => exact publishing_snoc fits Nat.le.refl Nat.le.refl
  | waiting => exact List.mem_append_left _ fits
  | ended reply => exact fits.snoc quiet

theorem Fitting.update (fitting : Fitting settings stages log) (own : occurrence.call? = some call)
    (fits : stage.Fits settings (log ++ [occurrence]) call) :
    Fitting settings (Function.update stages call stage) (log ++ [occurrence]) := by
  intro other
  by_cases same : other = call
  · subst same
    simpa using fits
  · rw [Function.update_of_ne same]
    exact fits_snoc (fitting other) (by simpa [own] using Ne.symm same)

/-- What the log has of a call at a stage. -/
theorem Fitting.of_stage (fitting : Fitting settings stages log) (reached : stages call = stage) :
    stage.Fits settings log call :=
  reached ▸ fitting call

theorem untouched_of_ahead (fits : Stage.ahead.Fits settings log call) : log.Untouched call :=
  fun other happened changer => fits other happened (Occurrence.call?_of_changer? changer)

/-- A call that loads, and has not restored anything, may be told so. -/
theorem Fitting.dismissed (fitting : Fitting settings stages log)
    (loading : stages call = .asked .load ∨
      ∃ configuration, stages call = .found configuration) : log.Earned call (.loaded false) := by
  obtain asked | ⟨configuration, found⟩ := loading
  · exact fitting.of_stage asked
  · obtain ⟨⟨asked, _⟩, untouched⟩ := fitting.of_stage found
    exact ⟨asked, untouched⟩

theorem Answered.update (answered : Answered stages log)
    (ongoing : ∀ reply, stages call ≠ .ended reply)
    (told : ∀ other reply, occurrence = .replied other reply → other = call ∧ stage = .ended reply) :
    Answered (Function.update stages call stage) (log ++ [occurrence]) := by
  intro other reply happened
  rcases List.mem_append.mp happened with old | new
  · have before : stages other = .ended reply := answered other reply old
    have foreign : other ≠ call := fun same => ongoing reply (same ▸ before)
    rw [Function.update_of_ne foreign, before]
  · obtain ⟨rfl, ended⟩ := told other reply (List.mem_singleton.mp new).symm
    rw [Function.update_self, ended]

/-- A call that is not over has not been told anything. -/
theorem Answered.silent (answered : Answered stages log)
    (ongoing : ∀ reply, stages call ≠ .ended reply) (reply : StoreReply) :
    .replied call reply ∉ log :=
  fun told => ongoing reply (answered call reply told)

end Calls

namespace StoreSession

variable {settings : StoreSettings} {initial : CacheDisk} {session after : StoreSession}

theorem Turn.fitting (turn : session.Turn after) (setUp : session.store.settings = settings)
    (fitting : Fitting settings session.stages session.log) :
    Fitting settings after.stages after.log := by
  cases turn
  case ask call request ahead =>
    have untouched := untouched_of_ahead (fitting.of_stage ahead)
    refine fitting.update rfl ⟨by simp, ?_⟩
    exact StoreLog.untouched_snoc.mpr ⟨untouched, by simp [Occurrence.changer?]⟩
  case set call configuration asked _ =>
    obtain ⟨asked, _⟩ := fitting.of_stage asked
    refine fitting.update rfl ⟨⟨?_, ?_⟩, .inl ⟨rfl, configuration, by simp [asked], by simp⟩⟩
    · simp only [Store.set]
      split <;> simp
    · simp only [Store.set, Store.announced]
      split <;> simp
  case find call content configuration asked found =>
    obtain ⟨asked, untouched⟩ := fitting.of_stage asked
    refine fitting.update rfl ⟨⟨by simp [asked], content, by simp, ?_⟩, ?_⟩
    · rw [← found, ← setUp]
      rfl
    · exact StoreLog.untouched_snoc.mpr ⟨untouched, by simp [Occurrence.changer?]⟩
  case restore call configuration found _ _ =>
    obtain ⟨⟨asked, _⟩, _⟩ := fitting.of_stage found
    refine fitting.update rfl ⟨⟨by simp, ?_⟩, .inr ⟨rfl, by simp [asked], configuration, by simp⟩⟩
    simp only [Store.announced]
    split <;> simp
  case dismiss call loading =>
    exact fitting.update rfl ((fitting.dismissed loading).snoc (by simp [Occurrence.changer?]))
  case queue call _ _ _ _ publishing =>
    have fits := fitting.of_stage publishing
    exact fitting.update rfl (publishing_snoc fits (by simp) (by simp))
  case announce call _ _ _ publishing =>
    have fits := fitting.of_stage publishing
    exact fitting.update rfl (publishing_snoc fits (by simp) (by simp))
  case finish call reply publishing =>
    have fits := fitting.of_stage publishing
    refine fitting.update rfl ?_
    obtain ⟨_, ⟨rfl, set⟩ | ⟨rfl, restored⟩⟩ := fits
    · exact set.append _
    · exact restored.append _
  case handle => exact fun other => fits_snoc (fitting other) (by simp [Occurrence.call?])
  case get call asked =>
    obtain ⟨asked, _⟩ := fitting.of_stage asked
    exact fitting.update rfl (List.mem_append_left _ asked)
  case request call asked | skip call asked _ =>
    obtain ⟨asked, _⟩ := fitting.of_stage asked
    exact fitting.update rfl (List.mem_append_left _ asked)
  case answer call waiting _ =>
    have asked := fitting.of_stage waiting
    exact fitting.update rfl (List.mem_append_left _ asked)

theorem Turn.answered (turn : session.Turn after)
    (answered : Answered session.stages session.log) : Answered after.stages after.log := by
  cases turn
  case dismiss call loading =>
    apply answered.update
    · obtain asked | ⟨configuration, found⟩ := loading <;> simp [*]
    · simp
  case handle => simpa [Answered] using answered
  all_goals exact answered.update (by simp [*]) (by simp)

theorem Turn.follows (turn : session.Turn after) (sound : session.Sound settings initial) :
    after.log.Each (Occurrence.Follows settings) := by
  have follows := sound.follows
  have answered := sound.answered
  have fitting := sound.fitting
  cases turn
  case ask call request ahead =>
    have fits := fitting.of_stage ahead
    exact follows.snoc fits
  case set call configuration asked _ =>
    have fits := fitting.of_stage asked
    exact follows.snoc fits
  case restore call configuration found _ vacant =>
    have fits := fitting.of_stage found
    have first : session.log.stored = [] := by simpa [vacant] using sound.active.symm
    exact follows.snoc ⟨first, fits.1⟩
  case dismiss call loading =>
    refine follows.snoc ⟨answered.silent ?_, fitting.dismissed loading, trivial⟩
    obtain asked | ⟨configuration, found⟩ := loading <;> simp [*]
  case get call asked =>
    have fits := fitting.of_stage asked
    exact follows.snoc ⟨answered.silent (by simp [asked]), fits.1, sound.active⟩
  case request call asked =>
    have fits := fitting.of_stage asked
    exact follows.snoc ⟨rfl, fits.1⟩
  case skip call asked alone =>
    have fits := fitting.of_stage asked
    refine follows.snoc ⟨answered.silent (by simp [asked]), fits.1, fun persists => ?_⟩
    simp [← sound.setUp, alone] at persists
  case finish call reply publishing =>
    have fits := fitting.of_stage publishing
    -- what is brought about is all that is due, as the call owes nothing any more
    have owed : session.owed = .nothing := owed_of_publishing sound.guarded publishing
    have paid : session.log.brought = session.log.due settings := by
      rw [← sound.balance, owed, Publication.append_nothing]
    have ongoing : ∀ other, session.stages call ≠ .ended other := by simp [publishing]
    obtain ⟨_, ⟨rfl, set⟩ | ⟨rfl, restored⟩⟩ := fits
    · exact follows.snoc ⟨answered.silent ongoing, set, paid⟩
    · exact follows.snoc ⟨answered.silent ongoing, restored, paid⟩
  case handle job rest fate jobs =>
    refine follows.snoc ⟨rest, ?_⟩
    rw [sound.fifo, jobs, List.append_assoc]
    rfl
  case answer call waiting handled =>
    have asked := fitting.of_stage waiting
    exact follows.snoc ⟨answered.silent (by simp [waiting]), asked, fun _ => handled⟩
  all_goals exact follows.snoc trivial

/-! #### Every run -/

theorem sound_opened (settings : StoreSettings) (disk : CacheDisk) :
    (opened settings disk).Sound settings disk where
  setUp := rfl
  active := rfl
  follows := by simp [StoreLog.Each, opened]
  guarded := by simp [Guarded, opened, Stage.publishes]
  balance := by
    by_cases persists : settings.persists <;> by_cases listens : settings.listens <;>
      simp [opened, StoreSession.owed, StoreLog.brought, StoreLog.due, persists, listens,
        StoreLog.queued, StoreLog.announced, StoreLog.storedBySet, StoreLog.stored,
        StoreLog.arrivals]
  fifo := rfl
  written := rfl
  kept := rfl
  answered := by simp [Answered, opened]
  fitting := by simp [Fitting, opened, Stage.Fits]

theorem Sound.turn (sound : session.Sound settings initial) (turn : session.Turn after) :
    after.Sound settings initial where
  setUp := turn.setUp.trans sound.setUp
  active := turn.active sound.active
  follows := turn.follows sound
  guarded := turn.guarded sound.guarded
  balance := turn.balance sound.setUp sound.guarded sound.balance
  fifo := turn.fifo sound.fifo
  written := turn.written sound.written
  kept := turn.kept sound.kept
  answered := turn.answered sound.answered
  fitting := turn.fitting sound.setUp sound.fitting

theorem Sound.turns (sound : session.Sound settings initial)
    (turns : Relation.ReflTransGen Turn session after) : after.Sound settings initial := by
  induction turns with
  | refl => exact sound
  | tail _ turn before => exact before.turn turn

/-- **Every run keeps a session sound.** -/
theorem sound_run (settings : StoreSettings) (disk : CacheDisk) (events : List StoreEvent) :
    ((opened settings disk).run events).Sound settings disk :=
  (sound_opened settings disk).turns (run_turns _ events)

end StoreSession

/-! ### One order -/

/-- What stands behind an item of a view, with what the view has before and after it. -/
theorem exists_of_filterMap_eq {α β : Type} {view : α → Option β} {whole : List α}
    {before after : List β} {item : β} (seen : whole.filterMap view = before ++ item :: after) :
    ∃ first source second, whole = first ++ source :: second ∧ first.filterMap view = before ∧
      view source = some item := by
  obtain ⟨front, back, rfl, front_seen, back_seen⟩ := List.filterMap_eq_append_iff.mp seen
  obtain ⟨blank, source, second, rfl, unseen, found, _⟩ :=
    List.filterMap_eq_cons_iff.mp back_seen
  refine ⟨front ++ blank, source, second, by simp, ?_, found⟩
  rw [List.filterMap_append, front_seen, List.filterMap_eq_nil_iff.mpr unseen, List.append_nil]

namespace StoreLog

variable {settings : StoreSettings} {log before after : StoreLog} {call : Nat}

/-- A configuration that was restored is the first that came into the store. -/
theorem Each.restored_first (each : log.Each (Occurrence.Follows settings))
    {configuration : Configuration}
    (restored : .stored ⟨call, .restored, configuration⟩ ∈ log) :
    log.arrivals.head? = some ⟨call, .restored, configuration⟩ := by
  obtain ⟨before, after, rfl⟩ := List.append_of_mem restored
  obtain ⟨first, _⟩ := each before _ after rfl
  have none_before : arrivals before = [] := by simpa [stored] using first
  unfold arrivals at none_before ⊢
  simp [none_before, Occurrence.arrival?]

/-- No call before one that is told that it restored was told so. -/
theorem Each.loaded_first (each : log.Each (Occurrence.Follows settings))
    (loaded : log = before ++ .replied call (.loaded true) :: after) (other : Nat) :
    .replied other (.loaded true) ∉ before := by
  intro earlier
  obtain ⟨unanswered, ⟨_, configuration, restored⟩, _⟩ := each _ _ _ loaded
  obtain ⟨front, back, rfl⟩ := List.append_of_mem earlier
  obtain ⟨_, ⟨_, another, restored_before⟩, _⟩ :=
    each front (.replied other (.loaded true)) (back ++ .replied call (.loaded true) :: after)
      (by simp [loaded])
  have head : log.arrivals.head? = some ⟨call, .restored, configuration⟩ :=
    each.restored_first (by rw [loaded]; exact List.mem_append_left _ restored)
  have head_before : log.arrivals.head? = some ⟨other, .restored, another⟩ :=
    each.restored_first (by simp [loaded, restored_before])
  obtain rfl : call = other := by simp_all
  exact unanswered _ earlier

/-- A call is made once, for one thing. -/
theorem Each.asked_once (each : log.Each (Occurrence.Follows settings))
    {request other : StoreRequest} (asked : .asked call request ∈ log)
    (another : .asked call other ∈ log) : request = other := by
  obtain ⟨before, after, rfl⟩ := List.append_of_mem asked
  have fresh := each before _ after rfl
  rcases List.mem_append.mp another with earlier | now | later
  · exact absurd rfl (fresh _ earlier)
  · rfl
  · rename_i later
    obtain ⟨front, back, rfl⟩ := List.append_of_mem later
    have again := each (before ++ .asked call request :: front) (.asked call other) back (by simp)
    exact absurd rfl (again (.asked call request) (by simp))

/-- A set is answered once its configuration is stored, and it was asked to store it. -/
theorem Each.done (each : log.Each (Occurrence.Follows settings))
    (done : log = before ++ .replied call .done :: after) :
    ∃ earlier configuration later,
      before = earlier ++ .stored ⟨call, .set, configuration⟩ :: later ∧
        .asked call (.set configuration) ∈ earlier := by
  obtain ⟨_, ⟨configuration, _, stored⟩, _⟩ := each _ _ _ done
  obtain ⟨earlier, later, rfl⟩ := List.append_of_mem stored
  obtain ⟨asked, _⟩ := each earlier (.stored ⟨call, .set, configuration⟩)
    (later ++ .replied call .done :: after) (by simp [done])
  exact ⟨earlier, configuration, later, rfl, asked⟩

/-- What was stored is queued and announced once a call that published is told so. -/
theorem Each.published (each : log.Each (Occurrence.Follows settings)) {reply : StoreReply}
    (replied : log = before ++ .replied call reply :: after)
    (published : reply = .done ∨ reply = .loaded true) : before.brought = before.due settings := by
  obtain rfl | rfl := published
  · exact (each _ _ _ replied).2.2
  · exact (each _ _ _ replied).2.2

/-- A flush is answered once all is handled that was queued before it. -/
theorem Each.flushed (each : log.Each (Occurrence.Follows settings))
    (flushed : log = before ++ .replied call .flushed :: after) (persists : settings.persists) :
    ∃ earlier later, before = earlier ++ .queued call (.answer call) :: later ∧
      .asked call .flush ∈ earlier ∧ handledJobs before = queued earlier ++ [.answer call] := by
  obtain ⟨_, _, last⟩ := each _ _ _ flushed
  obtain ⟨jobs, handled_jobs⟩ := List.getLast?_eq_some_iff.mp (last persists)
  -- the answer was handled, so it was the next job in the queue, and so it was queued
  have seen : before.filterMap (fun occurrence => occurrence.handled?.map Prod.fst) =
      jobs ++ .answer call :: [] := by
    rw [← handled_jobs]
    simp [handledJobs, handled, List.map_filterMap]
  obtain ⟨front, source, back, rfl, front_jobs, found⟩ := exists_of_filterMap_eq seen
  obtain ⟨report, rfl⟩ : ∃ report, source = .handled (.answer call) report := by
    cases source <;> simp_all [Occurrence.handled?]
  have front_handled : handledJobs front = jobs := by
    rw [← front_jobs]
    simp [handledJobs, handled, List.map_filterMap]
  obtain ⟨rest, in_order⟩ := each front (.handled (.answer call) report)
    (back ++ .replied call .flushed :: after) (by simp [flushed])
  rw [front_handled, List.append_assoc] at in_order
  obtain ⟨earlier, source, later, rfl, earlier_jobs, found⟩ := exists_of_filterMap_eq in_order.symm
  obtain ⟨asker, rfl⟩ : ∃ asker, source = .queued asker (.answer call) := by
    cases source <;> simp_all [Occurrence.queued?]
  obtain ⟨rfl, asked⟩ := each earlier (.queued asker (.answer call))
    (later ++ .handled (.answer call) report :: back ++ .replied call .flushed :: after)
    (by simp [flushed])
  refine ⟨earlier, later ++ .handled (.answer call) report :: back, by simp, asked, ?_⟩
  rw [handled_jobs, ← earlier_jobs]
  rfl

end StoreLog

namespace StoreSession

variable {settings : StoreSettings} {initial : CacheDisk} {session after : StoreSession}

/-- Every call is over, and so is the work of the writer. -/
structure Settled (session : StoreSession) : Prop where
  calls : ∀ call, session.stages call = .ahead ∨ ∃ reply, session.stages call = .ended reply
  jobs : session.jobs = []

/-- A call is over, and has left the lock, after so many steps of its own. -/
def EndsWith (session : StoreSession) (call count : Nat) (reply : StoreReply) : Prop :=
  let after := session.run (List.replicate count (.advance call none))
  after.stages call = .ended reply ∧ after.lock = none

/-- The call that holds the lock comes to leave it, and one that is to set a configuration comes to
its end once the lock is free. -/
structure GoesOn (session : StoreSession) : Prop where
  leaves : ∀ call, session.lock = some call → ∃ count reply, session.EndsWith call count reply
  sets : ∀ call configuration, session.stages call = .asked (.set configuration) →
    session.lock = none → ∃ count, session.EndsWith call count .done

/-- Slot, listener, queue and file see the same configurations in one order.

While a call holds the lock, it may still owe what it stored last to the queue and the listener.
Once it is told that it is done it owes nothing, and by then what it was to set is stored. -/
structure InOneOrder (settings : StoreSettings) (initial : CacheDisk) (session : StoreSession) :
    Prop where
  active : session.store.active = session.log.stored.getLast?
  gets : ∀ (before : StoreLog) call found after,
    session.log = before ++ .replied call (.got found) :: after → found = before.stored.getLast?
  answers : ∀ before call reply after, session.log = before ++ .replied call reply :: after →
    ∃ request, .asked call request ∈ before ∧ reply.Answers request
  sets : ∀ (before : StoreLog) call configuration after,
    session.log = before ++ .stored ⟨call, .set, configuration⟩ :: after →
      .asked call (.set configuration) ∈ before ∧
        ∀ occurrence ∈ before, occurrence.changer? ≠ some call
  done : ∀ before call after, session.log = before ++ .replied call .done :: after →
    ∃ earlier configuration later,
      before = earlier ++ .stored ⟨call, .set, configuration⟩ :: later ∧
        .asked call (.set configuration) ∈ earlier
  restores : ∀ (before : StoreLog) call configuration after,
    session.log = before ++ .stored ⟨call, .restored, configuration⟩ :: after →
      before.stored = [] ∧ .asked call .load ∈ before ∧
        ∃ content, .read call content ∈ before ∧
          (Store.ofSettings settings).found content = some configuration
  announced : session.log.announced ++ session.owed.announced =
    if settings.listens then session.log.stored else []
  queued : session.log.queued.filterMap Job.write? ++ session.owed.queued =
    if settings.persists then session.log.storedBySet else []
  published : ∀ (before : StoreLog) call reply after,
    session.log = before ++ .replied call reply :: after →
      reply = .done ∨ reply = .loaded true →
        before.announced = (if settings.listens then before.stored else []) ∧
          before.queued.filterMap Job.write? =
            if settings.persists then before.storedBySet else []
  owed : session.owed.queued.length ≤ 1 ∧ session.owed.announced.length ≤ 1
  paid : session.lock = none → session.owed = .nothing
  loaded : ∀ before call after, session.log = before ++ .replied call (.loaded true) :: after →
    (∃ configuration, .stored ⟨call, .restored, configuration⟩ ∈ before) ∧
      ∀ other, .replied other (.loaded true) ∉ before ∧ .replied other (.loaded true) ∉ after
  dismissed : ∀ call, .replied call (.loaded false) ∈ session.log →
    ∀ occurrence ∈ session.log, occurrence.changer? ≠ some call
  flushed : settings.persists → ∀ (before : StoreLog) call after,
    session.log = before ++ .replied call .flushed :: after →
      ∃ earlier later : StoreLog, before = earlier ++ .queued call (.answer call) :: later ∧
        .asked call .flush ∈ earlier ∧ before.handledJobs = earlier.queued ++ [.answer call]
  written : session.log.written.map Prod.fst ++ session.jobs.filterMap Job.write? =
    session.log.queued.filterMap Job.write?
  kept : session.disk.content? =
    (session.log.kept.getLast?.map Configuration.toOctets).or initial.content?

/-- In the end all was stored that was to be set, and slot, listener and file agree. -/
structure Agreed (settings : StoreSettings) (session : StoreSession) : Prop where
  sets : ∀ call configuration, .asked call (.set configuration) ∈ session.log →
    .stored ⟨call, .set, configuration⟩ ∈ session.log
  listener : settings.listens → session.log.announced.getLast? = session.store.active
  file : settings.persists → ∀ call configuration,
    session.log.arrivals.getLast? = some ⟨call, .set, configuration⟩ →
      session.store.active = some configuration ∧
        ∃ succeeded, session.log.written.getLast? = some (configuration, succeeded) ∧
          (succeeded → session.disk.content? = some configuration.toOctets)

/-! #### From what is sound -/

theorem Sound.owed_brief (sound : session.Sound settings initial) :
    session.owed.queued.length ≤ 1 ∧ session.owed.announced.length ≤ 1 := by
  cases held : session.lock with
  | none => simp [owed_of_free held, Publication.nothing]
  | some call =>
    obtain ⟨owed, reply, publishing⟩ := sound.guarded.exists_publishing held
    rw [owed_of_publishing sound.guarded publishing]
    exact (sound.fitting.of_stage publishing).1

theorem Sound.inOneOrder (sound : session.Sound settings initial) :
    session.InOneOrder settings initial where
  active := sound.active
  gets := fun _ _ _ _ got => (sound.follows _ _ _ got).2.2
  answers := fun _ _ _ _ replied => (sound.follows _ _ _ replied).2.1.asked
  sets := fun _ _ _ _ stored => sound.follows _ _ _ stored
  restores := fun _ _ _ _ stored => sound.follows _ _ _ stored
  announced := congrArg Publication.announced sound.balance
  queued := congrArg Publication.queued sound.balance
  done := fun _ _ _ done => sound.follows.done done
  published := by
    intro before call reply after replied publishes
    have paid := sound.follows.published replied publishes
    exact ⟨congrArg Publication.announced paid, congrArg Publication.queued paid⟩
  owed := sound.owed_brief
  paid := owed_of_free
  loaded := by
    intro before call after loaded
    refine ⟨(sound.follows _ _ _ loaded).2.1.2, fun other => ?_⟩
    refine ⟨sound.follows.loaded_first loaded other, fun later => ?_⟩
    obtain ⟨front, back, rfl⟩ := List.append_of_mem later
    have again : session.log =
        (before ++ .replied call (.loaded true) :: front) ++
          .replied other (.loaded true) :: back := by
      simp [loaded]
    exact sound.follows.loaded_first again call (by simp)
  dismissed := by
    intro call dismissed
    obtain ⟨_, untouched⟩ := sound.fitting.of_stage (sound.answered call _ dismissed)
    exact untouched
  flushed := fun persists _ _ _ flushed => sound.follows.flushed flushed persists
  written := by
    rw [sound.written, sound.fifo, List.filterMap_append]
  kept := sound.kept

/-- No call holds the lock once every call is over. -/
theorem Sound.lock_eq_none (sound : session.Sound settings initial) (settled : session.Settled) :
    session.lock = none := by
  cases held : session.lock with
  | none => rfl
  | some call =>
    obtain ⟨owed, told, publishing⟩ := sound.guarded.exists_publishing held
    obtain ahead | ⟨reply, ended⟩ := settled.calls call <;> simp_all

/-- A call that was to set a configuration has stored it once it is over. -/
theorem Sound.stored_of_ended (sound : session.Sound settings initial) {call : Nat}
    {configuration : Configuration} {reply : StoreReply}
    (asked : .asked call (.set configuration) ∈ session.log)
    (ended : session.stages call = .ended reply) :
    .stored ⟨call, .set, configuration⟩ ∈ session.log := by
  have earned : session.log.Earned call reply := sound.fitting.of_stage ended
  obtain ⟨request, again, answers⟩ := earned.asked
  obtain rfl := sound.follows.asked_once asked again
  obtain rfl : reply = .done := by cases reply <;> simp_all [StoreReply.Answers]
  obtain ⟨other, asked_other, stored⟩ := earned
  obtain rfl : configuration = other := by
    simpa using sound.follows.asked_once asked asked_other
  exact stored

/-- In a session that is settled, slot, listener and file agree. -/
theorem Sound.agreed (sound : session.Sound settings initial) (settled : session.Settled) :
    session.Agreed settings := by
  have order := sound.inOneOrder
  have paid := order.paid (sound.lock_eq_none settled)
  constructor
  · intro call configuration asked
    obtain ahead | ⟨reply, ended⟩ := settled.calls call
    · have fits := sound.fitting.of_stage ahead
      exact absurd rfl (fits _ asked)
    · exact sound.stored_of_ended asked ended
  · intro listens
    have announced : session.log.announced = session.log.stored := by
      simpa [paid, Publication.nothing, listens] using order.announced
    rw [announced, order.active]
  · intro persists call configuration last
    have queued : session.log.queued.filterMap Job.write? = session.log.storedBySet := by
      simpa [paid, Publication.nothing, persists] using order.queued
    have written : session.log.written.map Prod.fst = session.log.storedBySet := by
      simpa [settled.jobs, queued] using order.written
    obtain ⟨earlier, arrivals⟩ := List.getLast?_eq_some_iff.mp last
    have active : session.store.active = some configuration := by
      simp [order.active, StoreLog.stored, arrivals]
    refine ⟨active, ?_⟩
    have last_written : session.log.written.getLast?.map Prod.fst = some configuration := by
      simp [← List.getLast?_map, written, StoreLog.storedBySet, arrivals]
    obtain ⟨⟨_, succeeded⟩, final, rfl⟩ := Option.map_eq_some_iff.mp last_written
    refine ⟨succeeded, final, fun success => ?_⟩
    obtain ⟨former, writes⟩ := List.getLast?_eq_some_iff.mp final
    simp [order.kept, StoreLog.kept, writes, success]

/-! #### Runs that go on -/

theorem Turn.log (turn : session.Turn after) : session.log <+: after.log := by
  cases turn <;> exact List.prefix_append _ _

theorem turns_log (turns : Relation.ReflTransGen Turn session after) :
    session.log <+: after.log := by
  induction turns with
  | refl => exact List.prefix_refl _
  | tail _ turn before => exact before.trans turn.log

/-- The slot is never empty again. -/
theorem Sound.active_isSome (sound : session.Sound settings initial) (events : List StoreEvent)
    (active : session.store.active.isSome) : (session.run events).store.active.isSome := by
  have later := sound.turns (run_turns session events)
  obtain ⟨rest, log⟩ := turns_log (run_turns session events)
  rw [sound.active, List.getLast?_isSome] at active
  have grown : StoreLog.stored (session.log ++ rest) = session.log.stored ++ StoreLog.stored rest :=
    by simp [StoreLog.stored, StoreLog.arrivals]
  rw [later.active, List.getLast?_isSome, ← log, grown]
  exact List.append_ne_nil_of_left_ne_nil active _

/-- A call that publishes comes to its end by its own steps, whatever it owes, and leaves the lock
then. -/
theorem exists_ended_of_publishing {call : Nat} {owed : Publication} {reply : StoreReply}
    (publishing : session.stages call = .publishing owed reply) :
    ∃ count, session.EndsWith call count reply := by
  obtain ⟨queued, announced⟩ := owed
  induction queued generalizing session with
  | cons configuration rest ih =>
    have stepped : (session.step (.advance call none)).stages call =
        .publishing ⟨rest, announced⟩ reply := by
      simp [step, advance, publishing, deliver]
    obtain ⟨count, ends⟩ := ih stepped
    exact ⟨count + 1, ends⟩
  | nil =>
    induction announced generalizing session with
    | cons configuration rest ih =>
      have stepped : (session.step (.advance call none)).stages call =
          .publishing ⟨[], rest⟩ reply := by
        simp [step, advance, publishing, deliver]
      obtain ⟨count, ends⟩ := ih stepped
      exact ⟨count + 1, ends⟩
    | nil =>
      refine ⟨1, ?_, ?_⟩
      · simp [run, step, advance, publishing, deliver]
      · simp [run, step, advance, publishing, deliver]

/-- **No call waits for ever for the lock.** -/
theorem Sound.goesOn (sound : session.Sound settings initial) : session.GoesOn where
  leaves := by
    intro call held
    obtain ⟨owed, reply, publishing⟩ := sound.guarded.exists_publishing held
    obtain ⟨count, ends⟩ := exists_ended_of_publishing publishing
    exact ⟨count, reply, ends⟩
  sets := by
    intro call configuration asked free
    have stepped : (session.step (.advance call none)).stages call =
        .publishing (session.store.set configuration).2 .done := by
      simp [step, advance, asked, start, free]
    obtain ⟨count, ends⟩ := exists_ended_of_publishing stepped
    exact ⟨count + 1, ends⟩

/-- **Slot, listener, queue and file see the same configurations in one order.** A call that set a
configuration is told so once it is stored, queued and announced, and comes to that point as soon as
the lock is free. -/
theorem publishes_in_one_order (settings : StoreSettings) (disk : CacheDisk)
    (events : List StoreEvent) :
    let session := (opened settings disk).run events
    session.InOneOrder settings disk ∧ session.GoesOn ∧
      (session.Settled → session.Agreed settings) ∧
      ∀ more, session.store.active.isSome → (session.run more).store.active.isSome := by
  intro session
  have sound : session.Sound settings disk := sound_run settings disk events
  exact ⟨sound.inOneOrder, sound.goesOn, sound.agreed, sound.active_isSome⟩

/-- A call that read the file before another one set a configuration does not restore what it
read. -/
example (configuration stale : Configuration) (content : Option Octets) :
    let reading := (opened ⟨true, true, .lazy⟩ .blank).move 0 (.found stale) (.read 0 content)
    let session := reading.run
      [.ask 1 (.set configuration), .advance 1 none, .advance 0 none, .advance 1 none,
        .advance 1 none, .advance 1 none, .advance 0 none, .write .smooth]
    session.stages 0 = .ended (.loaded false) ∧ session.store.active = some configuration ∧
      session.log.announced = [configuration] ∧
      session.disk.content? = some configuration.toOctets :=
  ⟨rfl, rfl, rfl, rfl⟩

end StoreSession

end FeatureFlags
