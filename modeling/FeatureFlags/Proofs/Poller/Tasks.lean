import FeatureFlags.Client
import FeatureFlags.Proofs.Configuration.Publishing

/-!
**A poller and the tasks that it has spawned.**

Each run is a task of its own, with a flag of its own, and the poller holds the task that it spawned
last until it is stopped. Stopping clears the flag of the task that is held and lets go of it. The
task does not end by that: it may fetch on, and looks at its flag only when a fetch has succeeded.
The runtime may end a task at any time, because it was stopped or for reasons of its own.

* `PollSession.step`, `PollSession.run`: the tasks and the store, and what events do to them.
* `PollSession.Turn`, `PollSession.step_turn`: all that can happen in a step.
* `PollSession.Sound`: only the task that is held can be live.
* `PollSession.Sound.follow_seenIn`: the poller and the store of a client that polls are what its
  tasks make of them.
-/

namespace FeatureFlags

/-! ### Tasks -/

/-- A task that polls: whether its flag is set, and what it waits for unless it has ended. -/
structure PollTask where
  active : Bool
  stage : Option PollStage
deriving DecidableEq

/-- Every task that a poller has spawned, the one that it holds, its store, and what came of the
store so far. -/
structure PollSession where
  tasks : List PollTask
  held : Option Nat
  store : Store
  published : Publication

/-- What happens to the tasks: an event of the poller, or the runtime ends a task. -/
inductive TaskEvent where
  | poller (event : PollEvent)
  | lost (run : Nat)

namespace PollSession

/-- A session before anything was spawned. -/
def opened (store : Store) : PollSession := ⟨[], none, store, .nothing⟩

/-- Whether the task that is held has not ended. -/
def isRunning (session : PollSession) : Bool :=
  match session.held with
  | some run => session.tasks[run]?.any fun task => task.stage.isSome
  | none => false

/-- Spawn a task, and hold it. -/
@[simps]
def spawn (session : PollSession) : PollSession :=
  { session with
    tasks := session.tasks ++ [⟨true, some .pausing⟩]
    held := some session.tasks.length }

/-- A task goes on to wait for something else, or ends. -/
@[simps]
def move (session : PollSession) (run : Nat) (stage : Option PollStage) : PollSession :=
  { session with tasks := session.tasks.modify run fun task => { task with stage } }

/-- Clear the flag of a task, and let go of it. -/
@[simps]
def release (session : PollSession) (run : Nat) : PollSession :=
  { session with
    tasks := session.tasks.modify run fun task => { task with active := false }
    held := none }

/-- A configuration comes into the store. -/
@[simps]
def save (session : PollSession) (configuration : Configuration) : PollSession :=
  { session with
    store := (session.store.set configuration).1
    published := session.published ++ (session.store.set configuration).2 }

/-- Start a run, unless the task that is held goes on. -/
def start (session : PollSession) (inRuntime : Bool) : PollSession × Except ClientError Bool :=
  if session.isRunning then (session, .ok false)
  else if inRuntime then (session.spawn, .ok true)
  else (session, .error .noRuntime)

/-- Stop the run that is held. -/
def stop (session : PollSession) : PollSession :=
  match session.held with
  | some run => session.release run
  | none => session

/-- A task has fetched: it looks at its flag before it stores a configuration, and ends if the flag
was cleared. A failure is left for the next pause. -/
def settle (session : PollSession) (run : Nat) (active : Bool) :
    Except ClientError Configuration → PollSession × PollEffect
  | .ok configuration =>
    if active then ((session.move run (some .pausing)).save configuration, .store configuration)
    else (session.move run none, .none)
  | .error error => (session.move run (some .pausing), .retry error)

/-- What an event does to the tasks and the store, and what it brings about. -/
def step (session : PollSession) : TaskEvent → PollSession × PollEffect
  | .poller (.start inRuntime) =>
    let (after, result) := session.start inRuntime
    (after, .answer result)
  | .poller .stop => (session.stop, .none)
  | .poller (.pauseEnded run) =>
    match session.tasks[run]? with
    | some ⟨_, some .pausing⟩ => (session.move run (some .fetching), .fetch)
    | _ => (session, .none)
  | .poller (.fetchEnded run result) =>
    match session.tasks[run]? with
    | some ⟨active, some .fetching⟩ => session.settle run active result
    | _ => (session, .none)
  | .lost run => (session.move run none, .none)

/-- What events do, one after another. -/
def run (session : PollSession) (events : List TaskEvent) : PollSession :=
  events.foldl (fun session event => (session.step event).1) session

@[simp]
theorem run_nil (session : PollSession) : session.run [] = session := rfl

@[simp]
theorem run_cons (session : PollSession) (event : TaskEvent) (rest : List TaskEvent) :
    session.run (event :: rest) = (session.step event).1.run rest := rfl

theorem run_append (session : PollSession) (events more : List TaskEvent) :
    session.run (events ++ more) = (session.run events).run more :=
  List.foldl_append ..

/-! ### Live runs -/

/-- A run is live: it was not stopped, and its task has not ended. -/
def Live (session : PollSession) (run : Nat) : Prop :=
  ∃ stage, session.tasks[run]? = some ⟨true, some stage⟩

/-- A run fetches, whether it was stopped or not. -/
def Fetches (session : PollSession) (run : Nat) : Prop :=
  ∃ active, session.tasks[run]? = some ⟨active, some .fetching⟩

/-- A task may be moved on to wait for something unless it has ended; it may end at any time. -/
def MayMove (session : PollSession) (run : Nat) (stage : Option PollStage) : Prop :=
  stage.isSome → ∃ active before, session.tasks[run]? = some ⟨active, some before⟩

/-! ### What a step can do -/

/-- What may become of a session in a step. -/
inductive Turn (session : PollSession) : TaskEvent → PollSession → PollEffect → Prop
  | refuse (inRuntime : Bool) (running : session.isRunning) :
    Turn session (.poller (.start inRuntime)) session (.answer (.ok false))
  | spawn (idle : session.isRunning = false) :
    Turn session (.poller (.start true)) session.spawn (.answer (.ok true))
  | outside (idle : session.isRunning = false) :
    Turn session (.poller (.start false)) session (.answer (.error .noRuntime))
  | release (run : Nat) (held : session.held = some run) :
    Turn session (.poller .stop) (session.release run) .none
  | idle (vacant : session.held = none) : Turn session (.poller .stop) session .none
  | wake (run : Nat) (active : Bool)
    (pausing : session.tasks[run]? = some ⟨active, some .pausing⟩) :
    Turn session (.poller (.pauseEnded run)) (session.move run (some .fetching)) .fetch
  | sleep (run : Nat) (awake : ∀ active, session.tasks[run]? ≠ some ⟨active, some .pausing⟩) :
    Turn session (.poller (.pauseEnded run)) session .none
  | store (run : Nat) (configuration : Configuration)
    (fetching : session.tasks[run]? = some ⟨true, some .fetching⟩) :
    Turn session (.poller (.fetchEnded run (.ok configuration)))
      ((session.move run (some .pausing)).save configuration) (.store configuration)
  | drop (run : Nat) (configuration : Configuration)
    (fetching : session.tasks[run]? = some ⟨false, some .fetching⟩) :
    Turn session (.poller (.fetchEnded run (.ok configuration))) (session.move run none) .none
  | retry (run : Nat) (active : Bool) (error : ClientError)
    (fetching : session.tasks[run]? = some ⟨active, some .fetching⟩) :
    Turn session (.poller (.fetchEnded run (.error error))) (session.move run (some .pausing))
      (.retry error)
  | ignore (run : Nat) (result : Except ClientError Configuration)
    (elsewhere : ¬session.Fetches run) :
    Turn session (.poller (.fetchEnded run result)) session .none
  | lose (run : Nat) : Turn session (.lost run) (session.move run none) .none

/-- **A step is a turn.** -/
theorem step_turn (session : PollSession) (event : TaskEvent) :
    session.Turn event (session.step event).1 (session.step event).2 := by
  cases event with
  | lost run => exact .lose run
  | poller event =>
    cases event with
    | start inRuntime =>
      simp only [step, start]
      cases running : session.isRunning with
      | true => exact .refuse inRuntime running
      | false =>
        cases inRuntime with
        | true => exact .spawn running
        | false => exact .outside running
    | stop =>
      simp only [step, stop]
      cases held : session.held with
      | some run => exact .release run held
      | none => exact .idle held
    | pauseEnded run =>
      simp only [step]
      split
      case h_1 active pausing => exact .wake run active pausing
      case h_2 other => exact .sleep run other
    | fetchEnded run result =>
      simp only [step]
      split
      case h_1 active fetching =>
        cases result with
        | error error => exact .retry run active error fetching
        | ok configuration =>
          cases active with
          | true => exact .store run configuration fetching
          | false => exact .drop run configuration fetching
      case h_2 other =>
        have elsewhere : ¬session.Fetches run := by
          rintro ⟨active, fetching⟩
          exact other active fetching
        exact .ignore run result elsewhere

variable {session after : PollSession} {event : TaskEvent} {effect : PollEffect} {run : Nat}

/-- What comes of the store in a step is what its effect says. -/
theorem Turn.applied (turn : session.Turn event after effect) :
    after.store = (effect.apply session.store).1 ∧
      after.published = session.published ++ (effect.apply session.store).2 := by
  cases turn with
  | store => exact ⟨rfl, rfl⟩
  | _ => exact ⟨rfl, (Publication.append_nothing _).symm⟩

/-! ### The tasks after a step -/

theorem tasks_move (session : PollSession) (run other : Nat) (stage : Option PollStage) :
    (session.move run stage).tasks[other]? =
      (session.tasks[other]?).map fun task =>
        if run = other then { task with stage } else task := by
  rw [move_tasks, List.getElem?_modify]
  split <;> rfl

theorem mayMove_of_task {active : Bool} {before : PollStage}
    (task : session.tasks[run]? = some ⟨active, some before⟩) (stage : Option PollStage) :
    session.MayMove run stage := fun _ => ⟨active, before, task⟩

theorem mayMove_none (session : PollSession) (run : Nat) : session.MayMove run none :=
  fun goes => by simp at goes

/-- A task that waits for something after a move had the same flag before, and had not ended. -/
theorem task_before_move {stage : Option PollStage} {other : Nat} {active : Bool} {now : PollStage}
    (mayMove : session.MayMove run stage)
    (task : (session.move run stage).tasks[other]? = some ⟨active, some now⟩) :
    ∃ before, session.tasks[other]? = some ⟨active, some before⟩ := by
  rw [tasks_move, Option.map_eq_some_iff] at task
  obtain ⟨⟨flag, before⟩, task, same⟩ := task
  split at same
  case isTrue equal =>
    subst equal
    obtain ⟨rfl, rfl⟩ : flag = active ∧ stage = some now := by simpa using same
    obtain ⟨_, before, moving⟩ := mayMove rfl
    rw [task] at moving
    cases moving
    exact ⟨before, task⟩
  case isFalse => exact ⟨now, by rw [task, same]⟩

theorem tasks_release (session : PollSession) (run other : Nat) :
    (session.release run).tasks[other]? =
      (session.tasks[other]?).map fun task =>
        if run = other then { task with active := false } else task := by
  rw [release_tasks, List.getElem?_modify]
  split <;> rfl

theorem tasks_spawn (session : PollSession) {other : Nat} {task : PollTask} :
    session.spawn.tasks[other]? = some task ↔
      session.tasks[other]? = some task ∨
        other = session.tasks.length ∧ task = ⟨true, some .pausing⟩ := by
  rw [spawn_tasks, List.getElem?_append]
  split
  case isTrue within => simp [Nat.ne_of_lt within]
  case isFalse beyond =>
    rw [List.getElem?_singleton, List.getElem?_eq_none (Nat.not_lt.mp beyond)]
    split <;> grind

/-- No task is ever taken from the list. -/
theorem Turn.length_le (turn : session.Turn event after effect) :
    session.tasks.length ≤ after.tasks.length := by
  cases turn <;> simp

/-! ### Only the task that is held is live -/

/-- The flag of the task that is held is set, and no other task that goes on has its flag set. -/
structure Sound (session : PollSession) : Prop where
  set_of_held : ∀ run, session.held = some run → ∃ stage, session.tasks[run]? = some ⟨true, stage⟩
  held_of_live : ∀ run, session.Live run → session.held = some run

theorem sound_opened (store : Store) : (opened store).Sound where
  set_of_held run held := by simp [opened] at held
  held_of_live run live := by simp [Live, opened] at live

theorem Sound.isRunning_iff (sound : session.Sound) :
    session.isRunning = true ↔ ∃ run, session.Live run := by
  unfold isRunning
  constructor
  · intro running
    split at running
    case h_1 run held =>
      obtain ⟨stage, task⟩ := sound.set_of_held run held
      rw [task, Option.any_some, Option.isSome_iff_exists] at running
      obtain ⟨stage, rfl⟩ := running
      exact ⟨run, stage, task⟩
    case h_2 => simp at running
  · rintro ⟨run, stage, task⟩
    rw [sound.held_of_live run ⟨stage, task⟩]
    simp [task]

/-- A task that goes on to wait for something else keeps its flag, so that what is held stays so. -/
theorem Sound.move (sound : session.Sound) {stage : Option PollStage}
    (mayMove : session.MayMove run stage) : (session.move run stage).Sound where
  set_of_held other held := by
    obtain ⟨before, task⟩ := sound.set_of_held other held
    rw [tasks_move, task]
    split <;> exact ⟨_, rfl⟩
  held_of_live other := fun ⟨_, task⟩ => sound.held_of_live other (task_before_move mayMove task)

/-- A task is spawned only when no other is live. -/
theorem Sound.spawn (sound : session.Sound) (idle : session.isRunning = false) :
    session.spawn.Sound where
  set_of_held run held := by
    obtain rfl : session.tasks.length = run := Option.some_inj.mp held
    exact ⟨some .pausing, (tasks_spawn session).mpr (.inr ⟨rfl, rfl⟩)⟩
  held_of_live run := fun ⟨stage, task⟩ => by
    rcases (tasks_spawn session).mp task with before | ⟨rfl, -⟩
    · simp [sound.isRunning_iff.mpr ⟨run, stage, before⟩] at idle
    · rfl

/-- Only the task that was held could be live, and its flag is cleared. -/
theorem Sound.release (sound : session.Sound) (held : session.held = some run) :
    (session.release run).Sound where
  set_of_held other holds := by simp at holds
  held_of_live other := fun ⟨stage, task⟩ => by
    rw [tasks_release, Option.map_eq_some_iff] at task
    obtain ⟨⟨active, before⟩, task, same⟩ := task
    split at same
    case isTrue => simp at same
    case isFalse different =>
      rw [same] at task
      rw [sound.held_of_live other ⟨stage, task⟩, Option.some_inj] at held
      exact absurd held.symm different

theorem Turn.sound (turn : session.Turn event after effect) (sound : session.Sound) :
    after.Sound := by
  cases turn with
  | refuse | outside | idle | sleep | ignore => exact sound
  | spawn idle => exact sound.spawn idle
  | release run held => exact sound.release held
  | wake run active waiting | retry run active error waiting =>
    exact sound.move (mayMove_of_task waiting _)
  | store run configuration fetching =>
    have moved := sound.move (mayMove_of_task fetching (some .pausing))
    exact ⟨moved.set_of_held, moved.held_of_live⟩
  | drop | lose => exact sound.move (mayMove_none _ _)

theorem Sound.step (sound : session.Sound) (event : TaskEvent) : (session.step event).1.Sound :=
  (session.step_turn event).sound sound

theorem Sound.runs (sound : session.Sound) (events : List TaskEvent) :
    (session.run events).Sound := by
  induction events generalizing session with
  | nil => exact sound
  | cons event rest ih => exact ih (sound.step event)

theorem Sound.live_unique (sound : session.Sound) {first second : Nat} (live : session.Live first)
    (other : session.Live second) : first = second := by
  have held := sound.held_of_live first live
  rw [sound.held_of_live second other] at held
  exact (Option.some_inj.mp held).symm

/-! ### What the client knows of its tasks -/

/-- The run that is live, with what it waits for. -/
def live? (session : PollSession) : Option PollRun :=
  session.held.bind fun run =>
    session.tasks[run]?.bind fun task => task.stage.map fun stage => ⟨run, stage⟩

/-- The poller of a client: how many tasks were spawned, and which run is live. -/
@[simps]
def poller (session : PollSession) : Poller := ⟨session.tasks.length, session.live?⟩

/-- What an event is for the poller of a client. A live task that is lost is as good as stopped, and
what becomes of other tasks is not seen. -/
def seen (session : PollSession) : TaskEvent → List PollEvent
  | .poller event => [event]
  | .lost run => if session.live?.any fun live => live.number = run then [.stop] else []

theorem isRunning_eq (session : PollSession) : session.isRunning = session.live?.isSome := by
  unfold isRunning live?
  cases session.held with
  | none => rfl
  | some run => cases task : session.tasks[run]? <;> simp [task]

theorem Sound.live?_eq_some_iff (sound : session.Sound) {stage : PollStage} :
    session.live? = some ⟨run, stage⟩ ↔ session.tasks[run]? = some ⟨true, some stage⟩ := by
  constructor
  · intro live
    simp only [live?, Option.bind_eq_some_iff, Option.map_eq_some_iff] at live
    obtain ⟨_, held, ⟨active, _⟩, task, _, rfl, same⟩ := live
    cases same
    obtain ⟨_, set⟩ := sound.set_of_held run held
    rw [task] at set ⊢
    cases set
    rfl
  · intro task
    simp [live?, sound.held_of_live run ⟨stage, task⟩, task]

/-- A poller agrees with a session if it counts its tasks and knows which run is live. -/
theorem Sound.poller_eq (sound : session.Sound) {poller : Poller}
    (started : session.tasks.length = poller.started)
    (live : ∀ run stage,
      session.tasks[run]? = some ⟨true, some stage⟩ ↔ poller.live = some ⟨run, stage⟩) :
    session.poller = poller := by
  obtain ⟨count, run?⟩ := poller
  obtain rfl : session.tasks.length = count := started
  obtain rfl : session.live? = run? :=
    Option.ext fun ⟨run, stage⟩ => sound.live?_eq_some_iff.trans (live run stage)
  rfl

theorem live_at_move (session : PollSession) {other : Nat} {stage : Option PollStage}
    {now : PollStage} :
    (session.move run stage).tasks[other]? = some ⟨true, some now⟩ ↔
      if run = other then
        stage = some now ∧ ∃ before, session.tasks[run]? = some ⟨true, before⟩
      else session.tasks[other]? = some ⟨true, some now⟩ := by
  rw [tasks_move]
  split
  case isTrue same =>
    subst same
    cases session.tasks[run]? with
    | none => simp
    | some task =>
      obtain ⟨active, before⟩ := task
      simp [and_comm]
  case isFalse => simp

/-- A live task that waits for something else, or ends, is the same run for the poller. -/
theorem Sound.poller_move (sound : session.Sound) {before : PollStage} (stage : Option PollStage)
    (task : session.tasks[run]? = some ⟨true, some before⟩) :
    (session.move run stage).poller =
      { session.poller with live := stage.map fun stage => ⟨run, stage⟩ } := by
  refine (sound.move (mayMove_of_task task stage)).poller_eq (by simp) fun other now => ?_
  rw [live_at_move]
  split
  case isTrue same => simp [same ▸ task, same]
  case isFalse different =>
    have dead : session.tasks[other]? ≠ some ⟨true, some now⟩ :=
      fun live => different (sound.live_unique ⟨_, task⟩ ⟨_, live⟩)
    simp [dead, different]

/-- What becomes of a task that is not live is nothing to the poller. -/
theorem Sound.poller_move_dead (sound : session.Sound) (dead : ¬session.Live run)
    {stage : Option PollStage} (mayMove : session.MayMove run stage) :
    (session.move run stage).poller = session.poller := by
  refine (sound.move mayMove).poller_eq (by simp) fun other now => ?_
  rw [live_at_move, poller_live, sound.live?_eq_some_iff]
  split
  case isTrue same =>
    subst same
    refine iff_of_false ?_ fun live => dead ⟨now, live⟩
    rintro ⟨rfl, before, task⟩
    obtain ⟨active, stage, moving⟩ := mayMove rfl
    rw [moving] at task
    cases task
    exact dead ⟨stage, moving⟩
  case isFalse => rfl

theorem Sound.poller_spawn (sound : session.Sound) (idle : session.isRunning = false) :
    session.spawn.poller =
      ⟨session.tasks.length + 1, some ⟨session.tasks.length, .pausing⟩⟩ := by
  refine (sound.spawn idle).poller_eq (by simp) fun other now => ?_
  have dead : session.tasks[other]? ≠ some ⟨true, some now⟩ := fun task => by
    simp [sound.isRunning_iff.mpr ⟨other, now, task⟩] at idle
  rw [tasks_spawn]
  simp [dead, eq_comm]

theorem Sound.poller_release (sound : session.Sound) (held : session.held = some run) :
    (session.release run).poller = session.poller.stop := by
  refine (sound.release held).poller_eq (by simp [Poller.stop]) fun other now => ?_
  refine iff_of_false (fun task => ?_) (by simp [Poller.stop])
  have vacant := (sound.release held).held_of_live other ⟨now, task⟩
  simp at vacant

/-- **What the poller of a client does in a step is what its tasks do**, and so are the answers,
what is fetched and what is stored. A task that was stopped may go on unseen for a while: it may
begin a fetch or note that one has failed, where the poller does nothing. -/
theorem Turn.poller_step {event : PollEvent} (turn : session.Turn (.poller event) after effect)
    (sound : session.Sound) :
    after.poller = (session.poller.step event).1 ∧
      (effect = (session.poller.step event).2 ∨
        (session.poller.step event).2 = .none ∧
          (effect = .fetch ∨ ∃ error, effect = .retry error)) := by
  have unlike {stage : PollStage} {run : Nat}
      (other : session.tasks[run]? ≠ some ⟨true, some stage⟩) :
      session.live? ≠ some ⟨run, stage⟩ := fun live => other (sound.live?_eq_some_iff.mp live)
  cases turn with
  | refuse inRuntime running =>
    rw [isRunning_eq, Option.isSome_iff_exists] at running
    obtain ⟨live, isLive⟩ := running
    simp [Poller.step, Poller.start, isLive]
  | spawn idle =>
    have none_live : session.live? = none := by simpa [isRunning_eq] using idle
    simp [Poller.step, Poller.start, none_live, sound.poller_spawn idle]
  | outside idle =>
    have none_live : session.live? = none := by simpa [isRunning_eq] using idle
    simp [Poller.step, Poller.start, none_live]
  | release run held => exact ⟨sound.poller_release held, .inl rfl⟩
  | idle vacant =>
    have none_live : session.live? = none := by rw [live?, vacant, Option.bind_none]
    refine ⟨?_, .inl rfl⟩
    simp [Poller.step, Poller.stop, poller, none_live]
  | wake run active pausing =>
    cases active with
    | true =>
      have live := sound.live?_eq_some_iff.mpr pausing
      simp [Poller.step, live, sound.poller_move (some .fetching) pausing]
    | false =>
      have dead : ¬session.Live run := fun ⟨_, task⟩ => by simp [pausing] at task
      have other : session.live? ≠ some ⟨run, .pausing⟩ := unlike (by simp [pausing])
      simp [Poller.step, other, sound.poller_move_dead dead (mayMove_of_task pausing _)]
  | sleep run awake =>
    have other := unlike (awake true)
    simp [Poller.step, other]
  | store run configuration fetching =>
    have live := sound.live?_eq_some_iff.mpr fetching
    have moved := sound.poller_move (some .pausing) fetching
    refine ⟨?_, .inl ?_⟩
    · rw [show ((session.move run (some .pausing)).save configuration).poller =
        (session.move run (some .pausing)).poller from rfl, moved]
      simp [Poller.step, live]
    · simp [Poller.step, live]
  | drop run configuration fetching =>
    have dead : ¬session.Live run := fun ⟨_, task⟩ => by simp [fetching] at task
    have other : session.live? ≠ some ⟨run, .fetching⟩ := unlike (by simp [fetching])
    have ended : (session.move run none).poller = session.poller :=
      sound.poller_move_dead dead (mayMove_none _ _)
    simp [Poller.step, other, ended]
  | retry run active error fetching =>
    cases active with
    | true =>
      have live := sound.live?_eq_some_iff.mpr fetching
      simp [Poller.step, live, sound.poller_move (some .pausing) fetching]
    | false =>
      have dead : ¬session.Live run := fun ⟨_, task⟩ => by simp [fetching] at task
      have other : session.live? ≠ some ⟨run, .fetching⟩ := unlike (by simp [fetching])
      simp [Poller.step, other, sound.poller_move_dead dead (mayMove_of_task fetching _)]
  | ignore run result elsewhere =>
    have other : session.live? ≠ some ⟨run, .fetching⟩ :=
      unlike fun task => elsewhere ⟨true, task⟩
    simp [Poller.step, other]

/-- A task that is lost is as good as stopped if it was live, and else nothing to the poller. -/
theorem Sound.poller_lost (sound : session.Sound) (run : Nat) :
    (session.move run none).poller =
      if session.live?.any fun live => live.number = run then session.poller.stop
      else session.poller := by
  by_cases live : session.Live run
  · obtain ⟨stage, task⟩ := live
    rw [sound.poller_move none task]
    simp [sound.live?_eq_some_iff.mpr task, Poller.stop]
  · rw [sound.poller_move_dead live (mayMove_none _ _), if_neg]
    intro any
    rw [Option.any_eq_true] at any
    obtain ⟨⟨number, stage⟩, isLive, same⟩ := any
    obtain rfl : number = run := by simpa using same
    exact live ⟨stage, sound.live?_eq_some_iff.mp isLive⟩

end PollSession

/-! ### Clients that poll -/

namespace Client

/-- What events do to the poller of a client and to its store, one after another. -/
def follow (client : Client) : List PollEvent → Client × Publication
  | [] => (client, .nothing)
  | event :: rest =>
    let (after, _, publication) := client.poll event
    let (last, more) := after.follow rest
    (last, publication ++ more)

theorem follow_append (client : Client) (events more : List PollEvent) :
    client.follow (events ++ more) =
      (((client.follow events).1.follow more).1,
        (client.follow events).2 ++ ((client.follow events).1.follow more).2) := by
  induction events generalizing client with
  | nil => simp [follow]
  | cons event rest ih => simp [follow, ih, Publication.append_assoc]

end Client

namespace PollSession

variable {session : PollSession} {client : Client}

/-- What the events of a run are for the poller of a client. -/
def seenIn (session : PollSession) : List TaskEvent → List PollEvent
  | [] => []
  | event :: rest => session.seen event ++ (session.step event).1.seenIn rest

/-- The poller and the store of a client are those of a session. -/
structure Followed (session : PollSession) (client : Client) : Prop where
  poller : client.poller = session.poller
  store : client.store = session.store

/-- A client follows a step. -/
theorem Sound.follow_seen (sound : session.Sound) (followed : session.Followed client)
    (event : TaskEvent) :
    (session.step event).1.Followed (client.follow (session.seen event)).1 ∧
      (session.step event).1.published =
        session.published ++ (client.follow (session.seen event)).2 := by
  cases event with
  | lost run =>
    have lost := sound.poller_lost run
    simp only [seen, PollSession.step]
    split
    case isTrue live =>
      rw [if_pos live, ← followed.poller] at lost
      exact ⟨⟨lost.symm, followed.store⟩, (Publication.append_nothing _).symm⟩
    case isFalse dead =>
      rw [if_neg dead, ← followed.poller] at lost
      exact ⟨⟨lost.symm, followed.store⟩, (Publication.append_nothing _).symm⟩
  | poller event =>
    have turn := session.step_turn (.poller event)
    obtain ⟨poller, effect⟩ := turn.poller_step sound
    -- what a stopped task does unseen does not come to the store
    have apply_eq : (session.step (.poller event)).2.apply session.store =
        (session.poller.step event).2.apply session.store := by
      rcases effect with same | ⟨nothing, fetches | ⟨error, retries⟩⟩
      · rw [same]
      · rw [nothing, fetches]
        rfl
      · rw [nothing, retries]
        rfl
    obtain ⟨store, published⟩ := turn.applied
    rw [apply_eq, ← followed.poller, ← followed.store] at store published
    rw [← followed.poller] at poller
    refine ⟨⟨poller.symm, store.symm⟩, ?_⟩
    simpa [seen, Client.follow, Client.poll] using published

/-- **The poller and the store of a client that polls are what its tasks make of them.** -/
theorem Sound.follow_seenIn (sound : session.Sound) (followed : session.Followed client)
    (events : List TaskEvent) :
    (session.run events).Followed (client.follow (session.seenIn events)).1 ∧
      (session.run events).published =
        session.published ++ (client.follow (session.seenIn events)).2 := by
  induction events generalizing session client with
  | nil => exact ⟨followed, (Publication.append_nothing _).symm⟩
  | cons event rest ih =>
    obtain ⟨stepped, published⟩ := sound.follow_seen followed event
    obtain ⟨followed, later⟩ := ih (sound.step event) stepped
    rw [seenIn, Client.follow_append, run_cons]
    exact ⟨followed, by rw [later, published, Publication.append_assoc]⟩

end PollSession

end FeatureFlags
