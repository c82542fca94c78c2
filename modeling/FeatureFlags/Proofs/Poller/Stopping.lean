import FeatureFlags.Proofs.Poller.Tasks
import Mathlib.Data.List.Induction

/-!
**A run that was stopped never writes.**

Runs overlap: a task that was stopped may have a fetch under way while the next run has begun. Its
flag tells it from the others. The flag of a task that goes on is set exactly if nothing was stopped
since the task was spawned, and a task stores what it fetched exactly if its flag is set.

* `PollSession.Unstopped`: whether a run was stopped, told from the history alone.
* `PollSession.set_iff_unstopped`: a flag tells the history of its task.
* `PollSession.Disciplined`: what stopping and starting come to, at any time.
* `PollSession.stopped_runs_never_write`: this for every history.
-/

namespace FeatureFlags

/-- An event is neither a stop nor about the task of a run. -/
def TaskEvent.Spares (run : Nat) : TaskEvent → Prop
  | .poller (.start _) => True
  | .poller .stop => False
  | .poller (.pauseEnded other) | .poller (.fetchEnded other _) | .lost other => other ≠ run

namespace PollSession

/-! ### Histories -/

/-- After a history an event begins a run. -/
def Begins (store : Store) (earlier : List TaskEvent) (event : TaskEvent) (run : Nat) : Prop :=
  (((opened store).run earlier).step event).2 = .answer (.ok true) ∧
    ((opened store).run earlier).tasks.length = run

/-- A run was begun in a history, and nothing was stopped since. -/
def Unstopped (store : Store) (events : List TaskEvent) (run : Nat) : Prop :=
  ∃ earlier event later, events = earlier ++ event :: later ∧ Begins store earlier event run ∧
    .poller .stop ∉ later

variable {store : Store} {events : List TaskEvent} {event : TaskEvent} {run : Nat}

theorem length_run_le (session : PollSession) (events : List TaskEvent) :
    session.tasks.length ≤ (session.run events).tasks.length := by
  induction events generalizing session with
  | nil => exact Nat.le_refl _
  | cons event rest ih => exact Nat.le_trans (session.step_turn event).length_le (ih _)

/-- Nothing was begun since a history that ends with a stop. -/
theorem not_begins_stop {earlier : List TaskEvent} : ¬Begins store earlier (.poller .stop) run :=
  fun begins => by simp [Begins, step] at begins

/-- A run is begun by the last event of a history, or it was begun before and that event does not
stop it. -/
theorem unstopped_snoc : Unstopped store (events ++ [event]) run ↔
    Begins store events event run ∨ event ≠ .poller .stop ∧ Unstopped store events run := by
  constructor
  · rintro ⟨earlier, first, later, same, begins, unstopped⟩
    rcases List.eq_nil_or_concat later with rfl | ⟨later, last, rfl⟩
    · obtain ⟨rfl, rfl⟩ := List.append_singleton_inj.mp same
      exact .inl begins
    · rw [List.concat_eq_append, ← List.cons_append, ← List.append_assoc] at same
      obtain ⟨rfl, rfl⟩ := List.append_singleton_inj.mp same
      rw [List.concat_eq_append, List.mem_append, List.mem_singleton, not_or] at unstopped
      exact .inr ⟨Ne.symm unstopped.2, earlier, first, later, rfl, begins, unstopped.1⟩
  · rintro (begins | ⟨other, earlier, first, later, rfl, begins, unstopped⟩)
    · exact ⟨events, event, [], rfl, begins, List.not_mem_nil⟩
    · refine ⟨earlier, first, later ++ [event], by simp, begins, ?_⟩
      simp [unstopped, other.symm]

/-- A run that was spawned before a stop has been stopped. -/
theorem not_unstopped_of_spawned {earlier later : List TaskEvent}
    (spawned : run < ((opened store).run earlier).tasks.length) :
    ¬Unstopped store (earlier ++ .poller .stop :: later) run := by
  rintro ⟨before, first, after, same, ⟨starts, rfl⟩, unstopped⟩
  rcases List.append_eq_append_iff.mp same with ⟨between, rfl, tail⟩ | ⟨between, rfl, tail⟩
  · rw [run_append] at spawned
    exact absurd (length_run_le _ between) (Nat.not_le.mpr spawned)
  · cases between with
    | nil =>
      obtain ⟨rfl, -⟩ := List.cons.inj tail
      exact not_begins_stop ⟨starts, rfl⟩
    | cons head rest =>
      obtain ⟨-, rfl⟩ := List.cons.inj tail
      simp at unstopped

/-! ### Flags and histories -/

theorem sound_reached (store : Store) (events : List TaskEvent) :
    ((opened store).run events).Sound :=
  (sound_opened store).runs events

variable {session after : PollSession} {effect : PollEffect}

/-- Once a stop is over no run is live. -/
theorem not_live_of_stop (sound : session.Sound) :
    ¬(session.step (.poller .stop)).1.Live run := by
  intro live
  have held := (sound.step (.poller .stop)).held_of_live run live
  cases now : session.held <;> simp [step, stop, now] at held

/-- A task that goes on after a step that stops nothing went on before with the same flag, or was
just spawned. -/
theorem Turn.task_before (turn : session.Turn event after effect) (other : event ≠ .poller .stop)
    {active : Bool} {now : PollStage} (task : after.tasks[run]? = some ⟨active, some now⟩) :
    (∃ before, session.tasks[run]? = some ⟨active, some before⟩) ∨
      effect = .answer (.ok true) ∧ session.tasks.length = run ∧ active = true := by
  cases turn with
  | release | idle => exact absurd rfl other
  | refuse | outside | sleep | ignore => exact .inl ⟨now, task⟩
  | spawn idle =>
    rcases (tasks_spawn session).mp task with before | ⟨rfl, fresh⟩
    · exact .inl ⟨now, before⟩
    · cases fresh
      exact .inr ⟨rfl, rfl, rfl⟩
  | wake _ _ waiting | store _ _ waiting | retry _ _ _ waiting =>
    exact .inl (task_before_move (mayMove_of_task waiting _) task)
  | drop | lose => exact .inl (task_before_move (mayMove_none _ _) task)

/-- **A flag tells the history of its task**: as long as the task goes on, its flag is set exactly
if nothing was stopped since the task was spawned. -/
theorem set_iff_unstopped (store : Store) (events : List TaskEvent) {active : Bool}
    {stage : PollStage}
    (task : ((opened store).run events).tasks[run]? = some ⟨active, some stage⟩) :
    active = true ↔ Unstopped store events run := by
  induction events using List.reverseRecOn generalizing active stage with
  | nil => simp [opened] at task
  | append_singleton events event ih =>
    have sound := (sound_reached store events).step event
    have turn := ((opened store).run events).step_turn event
    rw [run_append, run_cons, run_nil] at task
    rw [unstopped_snoc]
    by_cases stops : event = .poller .stop
    · subst stops
      refine iff_of_false ?_ (not_or.mpr ⟨not_begins_stop, fun unstopped => unstopped.1 rfl⟩)
      rintro rfl
      exact not_live_of_stop (sound_reached store events) ⟨stage, task⟩
    · rcases turn.task_before stops task with ⟨before, task⟩ | ⟨starts, length, rfl⟩
      · have spawned : run < ((opened store).run events).tasks.length :=
          (List.getElem?_eq_some_iff.mp task).1
        have begun : ¬Begins store events event run := fun begins => Nat.ne_of_gt spawned begins.2
        rw [ih task, or_iff_right begun, and_iff_right stops]
      · exact iff_of_true rfl (.inl ⟨starts, length⟩)

/-! ### Starting, fetching, storing -/

theorem Turn.task_of_spares (turn : session.Turn event after effect) (spares : event.Spares run)
    {task : PollTask} (before : session.tasks[run]? = some task) :
    after.tasks[run]? = some task := by
  cases turn with
  | release | idle => exact spares.elim
  | refuse | outside | sleep | ignore => exact before
  | spawn => exact (tasks_spawn session).mpr (.inl before)
  | wake | store | drop | retry | lose =>
    have other : _ ≠ run := spares
    simpa [tasks_move, other] using before

/-- A run goes on waiting while nothing is stopped and nothing happens to its task. -/
theorem task_of_spared {task : PollTask} (before : session.tasks[run]? = some task)
    (between : List TaskEvent) (spared : ∀ event ∈ between, event.Spares run) :
    (session.run between).tasks[run]? = some task := by
  induction between generalizing session with
  | nil => exact before
  | cons event rest ih =>
    have spares := spared event (List.mem_cons_self ..)
    exact ih ((session.step_turn event).task_of_spares spares before) fun other member =>
      spared other (List.mem_cons_of_mem _ member)

/-- What starting, stopping and fetching come to after a history. -/
structure Disciplined (session : PollSession) (store : Store) (events : List TaskEvent) :
    Prop where
  /-- At most one run is live. -/
  one_live : ∀ first second, session.Live first → session.Live second → first = second
  /-- Starting is refused, and changes nothing, exactly while a run is live. -/
  refused_iff : ∀ inRuntime,
    session.step (.poller (.start inRuntime)) = (session, .answer (.ok false)) ↔
      ∃ run, session.Live run
  /-- Otherwise it begins exactly one run, a new one, and changes nothing else. -/
  begun : (¬∃ run, session.Live run) →
    session.step (.poller (.start true)) = (session.spawn, .answer (.ok true)) ∧
      ∀ run, session.spawn.Live run ↔ run = session.tasks.length
  /-- Without a runtime it fails, and changes nothing. -/
  outside : (¬∃ run, session.Live run) →
    session.step (.poller (.start false)) = (session, .answer (.error .noRuntime))
  /-- What a run has fetched is stored exactly if the run was not stopped since it was begun. -/
  stored_iff : ∀ run configuration, session.Fetches run →
    ((session.step (.poller (.fetchEnded run (.ok configuration)))).2 = .store configuration ↔
      Unstopped store events run)
  /-- Nothing else comes into the store, and nothing else is published. -/
  stores_only : ∀ event,
    let (after, effect) := session.step event
    ((∃ run configuration, event = .poller (.fetchEnded run (.ok configuration)) ∧
        session.Fetches run ∧ Unstopped store events run ∧ effect = .store configuration ∧
        after.store = (session.store.set configuration).1 ∧
        after.published = session.published ++ (session.store.set configuration).2) ∨
      after.store = session.store ∧ after.published = session.published)
  /-- A run that was spawned before a stop stores nothing any more, whatever was started since. -/
  stale : ∀ earlier later, events = earlier ++ .poller .stop :: later →
    ∀ run < ((opened store).run earlier).tasks.length, ∀ result,
      let after := (session.step (.poller (.fetchEnded run result))).1
      after.store = session.store ∧ after.published = session.published
  /-- A fetch that fails leaves the store as it was and the run live, and the run fetches again once
  its pause is over. -/
  retried : ∀ run error, session.Live run → session.Fetches run →
    let (after, effect) := session.step (.poller (.fetchEnded run (.error error)))
    effect = .retry error ∧ after.store = session.store ∧ after.published = session.published ∧
      ∀ between, (∀ event ∈ between, event.Spares run) →
        (after.run between).Live run ∧
          ((after.run between).step (.poller (.pauseEnded run))).2 = .fetch ∧
          ((after.run between).step (.poller (.pauseEnded run))).1.Fetches run
  /-- A client that polls has this poller and this store, and publishes the same. -/
  followed : ∀ client : Client, client.poller = .idle → client.store = store →
    let (after, publication) := client.follow ((opened store).seenIn events)
    after.poller = session.poller ∧ after.store = session.store ∧ publication = session.published
  /-- It is told and does the same, but for what stopped tasks still do unseen. -/
  agrees : ∀ event : PollEvent,
    let seen := (session.poller.step event).2
    let done := (session.step (.poller event)).2
    done = seen ∨ seen = .none ∧ (done = .fetch ∨ ∃ error, done = .retry error)

theorem Sound.refused_iff (sound : session.Sound) (inRuntime : Bool) :
    session.step (.poller (.start inRuntime)) = (session, .answer (.ok false)) ↔
      ∃ run, session.Live run := by
  rw [← sound.isRunning_iff]
  cases running : session.isRunning with
  | true => simp [PollSession.step, start, running]
  | false => cases inRuntime <;> simp [PollSession.step, start, running]

theorem Sound.step_start (sound : session.Sound) (idle : ¬∃ run, session.Live run) :
    session.step (.poller (.start true)) = (session.spawn, .answer (.ok true)) ∧
      session.step (.poller (.start false)) = (session, .answer (.error .noRuntime)) := by
  rw [← sound.isRunning_iff] at idle
  simp [PollSession.step, start, idle]

theorem live_spawn (idle : ¬∃ run, session.Live run) :
    session.spawn.Live run ↔ run = session.tasks.length := by
  constructor
  · rintro ⟨stage, task⟩
    rcases (tasks_spawn session).mp task with before | ⟨rfl, -⟩
    · exact absurd ⟨run, stage, before⟩ idle
    · rfl
  · rintro rfl
    exact ⟨.pausing, (tasks_spawn session).mpr (.inr ⟨rfl, rfl⟩)⟩

/-- A task that fetched stores the configuration exactly if its flag is set. -/
theorem stores_iff_set {active : Bool} {configuration : Configuration}
    (fetching : session.tasks[run]? = some ⟨active, some .fetching⟩) :
    (session.step (.poller (.fetchEnded run (.ok configuration)))).2 = .store configuration ↔
      active = true := by
  cases active <;> simp [step, fetching, settle]

/-- Only a task that fetches and whose flag is set changes the store. -/
theorem Turn.saves_or_keeps (turn : session.Turn event after effect) :
    (∃ run configuration, event = .poller (.fetchEnded run (.ok configuration)) ∧
        session.tasks[run]? = some ⟨true, some .fetching⟩ ∧ effect = .store configuration ∧
        after.store = (session.store.set configuration).1 ∧
        after.published = session.published ++ (session.store.set configuration).2) ∨
      after.store = session.store ∧ after.published = session.published := by
  cases turn with
  | store run configuration fetching =>
    exact .inl ⟨run, configuration, rfl, fetching, rfl, rfl, rfl⟩
  | _ => exact .inr ⟨rfl, rfl⟩

/-- A fetch of a live run that fails leaves the run pausing. -/
theorem step_failed {active : Bool} {error : ClientError}
    (fetching : session.tasks[run]? = some ⟨active, some .fetching⟩) :
    session.step (.poller (.fetchEnded run (.error error))) =
      (session.move run (some .pausing), .retry error) := by
  simp [step, fetching, settle]

/-- A run whose pause is over fetches. -/
theorem step_woken {active : Bool}
    (pausing : session.tasks[run]? = some ⟨active, some .pausing⟩) :
    session.step (.poller (.pauseEnded run)) = (session.move run (some .fetching), .fetch) := by
  simp [step, pausing]

theorem task_move_self {active : Bool} {before stage : Option PollStage}
    (task : session.tasks[run]? = some ⟨active, before⟩) :
    (session.move run stage).tasks[run]? = some ⟨active, stage⟩ := by
  simp [task]

/-- **A run that was stopped never writes.** After any history at most one run is live, and starting
is refused exactly while one is; what a run has fetched is stored exactly if nothing was stopped
since the run was begun; nothing else is stored; a fetch that fails costs nothing but time; and a
client that polls sees just that. -/
theorem stopped_runs_never_write (store : Store) (events : List TaskEvent) :
    ((opened store).run events).Disciplined store events := by
  let session := (opened store).run events
  have sound : session.Sound := sound_reached store events
  have saves : ∀ event, _ := fun event => (session.step_turn event).saves_or_keeps
  refine
    { one_live := fun first second => sound.live_unique
      refused_iff := sound.refused_iff
      begun := fun idle => ⟨(sound.step_start idle).1, fun run => live_spawn idle⟩
      outside := fun idle => (sound.step_start idle).2
      stored_iff := ?stored_iff
      stores_only := ?stores_only
      stale := ?stale
      retried := ?retried
      followed := ?followed
      agrees := fun event => ((session.step_turn (.poller event)).poller_step sound).2 }
  case stored_iff =>
    rintro run configuration ⟨active, fetching⟩
    exact (stores_iff_set fetching).trans (set_iff_unstopped store events fetching)
  case stores_only =>
    intro event
    rcases saves event with ⟨run, configuration, same, fetching, stored⟩ | kept
    · have unstopped := (set_iff_unstopped store events fetching).mp rfl
      exact .inl ⟨run, configuration, same, ⟨true, fetching⟩, unstopped, stored⟩
    · exact .inr kept
  case stale =>
    rintro earlier later rfl run spawned result
    rcases saves (.poller (.fetchEnded run result)) with ⟨_, _, same, fetching, -⟩ | kept
    · cases same
      have unstopped := (set_iff_unstopped store _ fetching).mp rfl
      exact absurd unstopped (not_unstopped_of_spawned spawned)
    · exact kept
  case retried =>
    rintro run error ⟨stage, live⟩ ⟨active, fetching⟩
    rw [fetching] at live
    cases live
    rw [step_failed fetching]
    refine ⟨rfl, rfl, rfl, fun between spared => ?_⟩
    have paused : (session.move run (some .pausing)).tasks[run]? = some ⟨true, some .pausing⟩ :=
      task_move_self fetching
    have pausing := task_of_spared paused between spared
    rw [step_woken pausing]
    exact ⟨⟨.pausing, pausing⟩, rfl, true, task_move_self pausing⟩
  case followed =>
    intro client idle same
    have followed : (opened store).Followed client := ⟨idle, same⟩
    obtain ⟨⟨poller, kept⟩, published⟩ := (sound_opened store).follow_seenIn followed events
    exact ⟨poller, kept, (published.trans (Publication.nothing_append _)).symm⟩

/-- A fetch that a stop has overtaken is dropped, though the next run fetches already. -/
example (store : Store) (old new : Configuration) :
    let session := (opened store).run
      [.poller (.start true), .poller (.pauseEnded 0), .poller .stop, .poller (.start true),
        .poller (.pauseEnded 1)]
    session.Fetches 0 ∧ session.Fetches 1 ∧
      (session.step (.poller (.fetchEnded 0 (.ok old)))).1.store = store ∧
      (session.step (.poller (.fetchEnded 1 (.ok new)))).1.store = (store.set new).1 :=
  ⟨⟨false, rfl⟩, ⟨true, rfl⟩, rfl, rfl⟩

end PollSession

end FeatureFlags
