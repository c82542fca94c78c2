import FeatureFlags.Proofs.Catalog.Lookup
import Mathlib.Logic.Function.Basic

/-!
**Several callers at one decoder.**

A caller asks for one flag, for all flags, or for the keys. It walks through the keys it needs in an
order of its own, and at each key it first peeks at what is kept; only where that was in vain and
the decoder converts on demand it goes back, looks again, converts and keeps the result. These steps
of all callers may follow each other in any order.

* `Session`, `Session.run`: a decoder with its callers, and the steps of a schedule.
* `Session.Sound`: every answer is the answer of the catalog, and no flag is converted twice.
* `lazy_and_prewarmed_agree`: when flags are converted cannot be told from the answers.
-/

namespace FeatureFlags.Decoder

/-! ### Requests and answers -/

/-- What a caller may ask for. -/
inductive Request where
  | find (key : String)
  | visit
  | flags
  | keys
  | count
deriving DecidableEq

/-- What a caller is told. -/
inductive Answer where
  | found (result : Option (Decoded Flag))
  | visited (entries : List (String × Option Flag))
  | listed (entries : List (String × Decoded Flag))
  | keys (keys : List String)
  | count (flags : Nat)

/-- Two answers are alike if they differ at most in the order in which keys were met. -/
def Answer.Alike : Answer → Answer → Prop
  | .found first, .found second => first = second
  | .visited first, .visited second => first.Perm second
  | .listed first, .listed second => first.Perm second
  | .keys first, .keys second => first.Perm second
  | .count first, .count second => first = second
  | _, _ => False

/-- An order in which all keys of a catalog are met. -/
structure Walk (catalog : Catalog) where
  keys : List String
  complete : keys.Perm catalog.keys

/-- The keys that a request looks up. -/
def Request.lookups (walk : List String) : Request → List String
  | .find key => [key]
  | .visit | .flags => walk
  | .keys | .count => []

/-- The answer to a request, given the results of its lookups. -/
def Request.answer (catalog : Catalog) (walk : List String)
    (results : List (String × Option (Decoded Flag))) : Request → Answer
  | .find _ => .found (results.head?.bind (·.2))
  | .visit => .visited (results.map fun entry => (entry.1, entry.2.bind Except.toOption))
  | .flags => .listed (results.filterMap fun entry => entry.2.map fun result => (entry.1, result))
  | .keys => .keys walk
  | .count => .count catalog.size

/-- The answer of the catalog itself, each flag converted anew. -/
def Request.oneShot (catalog : Catalog) (walk : List String) (request : Request) : Answer :=
  request.answer catalog walk ((request.lookups walk).map fun key => (key, catalog.flag? key))

/-- **The order of a walk does not matter.** -/
theorem Request.oneShot_alike (catalog : Catalog) (request : Request) {first second : List String}
    (shuffled : first.Perm second) :
    (request.oneShot catalog first).Alike (request.oneShot catalog second) := by
  cases request with
  | find key => exact rfl
  | visit => exact (shuffled.map _).map _
  | flags => exact (shuffled.map _).filterMap _
  | keys => exact shuffled
  | count => exact rfl

/-! ### Sessions -/

/-- A request under way: the keys still to look up, whether the first of them was peeked for in
vain, and the results so far. -/
structure Task where
  request : Request
  walk : List String
  todo : List String
  missed : Bool
  results : List (String × Option (Decoded Flag))

/-- A request that begins. -/
def Task.begin (request : Request) (walk : List String) : Task :=
  ⟨request, walk, request.lookups walk, false, []⟩

/-- A task with the result of its first lookup. -/
def Task.record (task : Task) (key : String) (result : Option (Decoded Flag))
    (rest : List String) : Task :=
  { task with todo := rest, missed := false, results := task.results ++ [(key, result)] }

/-- A request that was answered. -/
structure Reply where
  caller : Nat
  request : Request
  answer : Answer

/-- A decoder with its callers, the keys that it has converted, what it has noted and what it has
answered. -/
structure Session (catalog : Catalog) where
  materialization : Materialization
  decoder : Decoder
  converted : List String
  notices : List Notice
  tasks : Nat → Option Task
  answered : List Reply

/-- A step of one caller: it asks, unless it waits for an answer, or it goes on with its request. -/
inductive Event (catalog : Catalog) where
  | ask (caller : Nat) (request : Request) (walk : Walk catalog)
  | advance (caller : Nat)

/-- Whether a step takes the request of a caller further. -/
def Event.advances {catalog : Catalog} (caller : Nat) : Event catalog → Bool
  | .ask _ _ _ => false
  | .advance other => other == caller

namespace Session

variable {catalog : Catalog}

/-- A session with a new decoder and no callers. -/
def opened (catalog : Catalog) (materialization : Materialization) : Session catalog where
  materialization := materialization
  decoder := (Decoder.ofCatalog catalog materialization).1
  converted := (Decoder.opening catalog materialization).2.1
  notices := (Decoder.ofCatalog catalog materialization).2
  tasks := fun _ => none
  answered := []

/-- A session in which a caller has another task, or none. -/
def put (session : Session catalog) (caller : Nat) (task : Option Task) : Session catalog :=
  { session with tasks := Function.update session.tasks caller task }

/-- Answer a request whose lookups are all done. -/
def reply (session : Session catalog) (caller : Nat) (task : Task) : Session catalog :=
  { session.put caller none with
    answered := session.answered ++
      [⟨caller, task.request, task.request.answer catalog task.walk task.results⟩] }

/-- Peek for a key. A decoder that has converted everything has no more to say. -/
def peek (session : Session catalog) (caller : Nat) (task : Task) (key : String)
    (rest : List String) : Session catalog :=
  match session.decoder.peek? key, session.materialization with
  | some result, _ => session.put caller (task.record key (some result) rest)
  | none, .prewarmed => session.put caller (task.record key none rest)
  | none, .lazy => session.put caller (some { task with missed := true })

/-- Look again for a key, and convert its flag if there is still nothing kept. -/
def settle (session : Session catalog) (caller : Nat) (task : Task) (key : String)
    (rest : List String) : Session catalog :=
  let (result, decoder, converted, notices) := session.decoder.settle key
  { session.put caller (task.record key result rest) with
    decoder := decoder
    converted := session.converted ++ converted
    notices := session.notices ++ notices }

/-- Take the request of a caller one step further. -/
def advance (session : Session catalog) (caller : Nat) : Session catalog :=
  match session.tasks caller with
  | none => session
  | some task =>
    match task.todo with
    | [] => session.reply caller task
    | key :: rest =>
      if task.missed then session.settle caller task key rest
      else session.peek caller task key rest

/-- One step of one caller. -/
def step (session : Session catalog) : Event catalog → Session catalog
  | .ask caller request walk =>
    match session.tasks caller with
    | some _ => session
    | none => session.put caller (Task.begin request walk.keys)
  | .advance caller => session.advance caller

/-- The steps of a schedule. -/
def run (session : Session catalog) (events : List (Event catalog)) : Session catalog :=
  events.foldl step session

/-! ### What every step preserves -/

end Session

/-- The results of a task are those of the catalog, for the keys that it has looked up so far. -/
structure Task.OnTrack (catalog : Catalog) (task : Task) : Prop where
  walk : task.walk.Perm catalog.keys
  results : ∃ looked, task.request.lookups task.walk = looked ++ task.todo ∧
    task.results = looked.map fun key => (key, catalog.flag? key)

namespace Task.OnTrack

variable {catalog : Catalog} {task : Task}

theorem begin (request : Request) (walk : Walk catalog) :
    (Task.begin request walk.keys).OnTrack catalog :=
  ⟨walk.complete, [], rfl, rfl⟩

theorem miss (onTrack : task.OnTrack catalog) : { task with missed := true }.OnTrack catalog :=
  ⟨onTrack.walk, onTrack.results⟩

theorem record (onTrack : task.OnTrack catalog) {key : String} {rest : List String}
    (todo : task.todo = key :: rest) :
    (task.record key (catalog.flag? key) rest).OnTrack catalog := by
  obtain ⟨looked, lookups, results⟩ := onTrack.results
  refine ⟨onTrack.walk, looked ++ [key], ?_, ?_⟩
  · rw [todo] at lookups
    rw [List.append_assoc, List.singleton_append]
    exact lookups
  · rw [List.map_append, ← results]
    rfl

/-- The answer of a task without further lookups is that of the catalog. -/
theorem answer (onTrack : task.OnTrack catalog) (done : task.todo = []) :
    task.request.answer catalog task.walk task.results =
      task.request.oneShot catalog task.walk := by
  obtain ⟨looked, lookups, results⟩ := onTrack.results
  rw [done, List.append_nil] at lookups
  rw [Request.oneShot, lookups, results]

end Task.OnTrack

namespace Session

variable {catalog : Catalog} {session : Session catalog}

/-- **What holds throughout a session.** Lookups give what the catalog gives, a decoder that began
with everything keeps everything, and all results and answers so far are those of the catalog. -/
structure Sound (session : Session catalog) : Prop where
  tallied : Tallied catalog session.decoder session.converted session.notices
  whole : session.materialization = .prewarmed →
    ∀ key, session.decoder.peek? key = catalog.flag? key
  tasks : ∀ caller task, session.tasks caller = some task → task.OnTrack catalog
  answered : ∀ reply ∈ session.answered,
    ∃ walk : Walk catalog, reply.answer = reply.request.oneShot catalog walk.keys

theorem sound_opened (catalog : Catalog) (materialization : Materialization) :
    (opened catalog materialization).Sound where
  tallied := Tallied.ofCatalog catalog materialization
  whole := fun eager key => by
    have same : materialization = .prewarmed := eager
    rw [opened, same]
    exact prewarmed_peek? catalog key
  tasks := fun _ _ busy => by cases busy
  answered := fun _ member => by cases member

theorem tasks_put (session : Session catalog) (caller other : Nat) (task : Option Task) :
    (session.put caller task).tasks other = if other = caller then task else session.tasks other :=
  Function.update_apply session.tasks caller task other

namespace Sound

theorem put (sound : session.Sound) (caller : Nat) {task : Option Task}
    (onTrack : ∀ next, task = some next → next.OnTrack catalog) :
    (session.put caller task).Sound where
  tallied := sound.tallied
  whole := sound.whole
  tasks := fun other next busy => by
    rw [tasks_put] at busy
    split at busy
    · exact onTrack next busy
    · exact sound.tasks other next busy
  answered := sound.answered

theorem reply (sound : session.Sound) {caller : Nat} {task : Task} (onTrack : task.OnTrack catalog)
    (done : task.todo = []) : (session.reply caller task).Sound where
  tallied := sound.tallied
  whole := sound.whole
  tasks := (sound.put caller fun _ impossible => by cases impossible).tasks
  answered := fun entry member => by
    rcases List.mem_append.1 member with before | now
    · exact sound.answered entry before
    · rw [List.mem_singleton.1 now]
      exact ⟨⟨task.walk, onTrack.walk⟩, onTrack.answer done⟩

theorem peek (sound : session.Sound) {caller : Nat} {task : Task} {key : String}
    {rest : List String} (onTrack : task.OnTrack catalog) (todo : task.todo = key :: rest) :
    (session.peek caller task key rest).Sound := by
  have recorded := onTrack.record todo
  unfold Session.peek
  split
  · rename_i result found
    rw [sound.tallied.faithful key result found] at recorded
    exact sound.put caller fun next same => Option.some.inj same ▸ recorded
  · rename_i missing eager
    rw [← sound.whole eager key, missing] at recorded
    exact sound.put caller fun next same => Option.some.inj same ▸ recorded
  · exact sound.put caller fun next same => Option.some.inj same ▸ onTrack.miss

theorem settle (sound : session.Sound) {caller : Nat} {task : Task} {key : String}
    {rest : List String} (onTrack : task.OnTrack catalog) (todo : task.todo = key :: rest) :
    (session.settle caller task key rest).Sound := by
  have recorded := onTrack.record todo
  rw [← sound.tallied.settle_fst key] at recorded
  have placed : (session.put caller
      (some (task.record key (session.decoder.settle key).1 rest))).Sound :=
    sound.put caller fun next same => Option.some.inj same ▸ recorded
  refine ⟨sound.tallied.settle key, fun eager other => ?_, placed.tasks, sound.answered⟩
  have whole := sound.whole eager
  show peek? (session.decoder.settle key).2.1 other = catalog.flag? other
  rcases session.decoder.settle_cases key with ⟨_, _, outcome⟩ | ⟨_, _, outcome⟩ |
    ⟨result, missing, fresh, _⟩
  · rw [outcome]
    exact whole other
  · rw [outcome]
    exact whole other
  · rw [whole key, ← sound.tallied.source, fresh] at missing
    cases missing

theorem advance (sound : session.Sound) (caller : Nat) : (session.advance caller).Sound := by
  unfold Session.advance
  split
  · exact sound
  · rename_i task busy
    have onTrack := sound.tasks caller task busy
    split
    · rename_i done
      exact sound.reply onTrack done
    · rename_i key rest todo
      split
      · exact sound.settle onTrack todo
      · exact sound.peek onTrack todo

/-- **One step of one caller preserves it.** -/
theorem step (sound : session.Sound) (event : Event catalog) : (session.step event).Sound := by
  cases event with
  | ask caller request walk =>
    simp only [Session.step]
    split
    · exact sound
    · exact sound.put caller fun next same => Option.some.inj same ▸ .begin request walk
  | advance caller => exact sound.advance caller

/-- **So does every schedule.** -/
theorem run (sound : session.Sound) (events : List (Event catalog)) :
    (session.run events).Sound := by
  induction events generalizing session with
  | nil => exact sound
  | cons event rest ih => exact ih (sound.step event)

end Sound

/-! ### Every request is answered -/

end Session

/-- How many steps of its caller are enough for a task to be answered. -/
def Task.work (task : Task) : Nat := 2 * task.todo.length + if task.missed then 1 else 2

namespace Session

variable {catalog : Catalog} {session : Session catalog}

/-- What was answered stays answered. -/
theorem answered_subset_step (session : Session catalog) (event : Event catalog) :
    session.answered ⊆ (session.step event).answered := by
  cases event with
  | ask caller request walk =>
    simp only [step]
    split <;> exact List.Subset.refl _
  | advance caller =>
    simp only [step, advance]
    split
    · exact List.Subset.refl _
    · split
      · exact List.subset_append_left _ _
      · split
        · exact List.Subset.refl _
        · unfold peek
          split <;> exact List.Subset.refl _

theorem answered_subset_run (session : Session catalog) (events : List (Event catalog)) :
    session.answered ⊆ (session.run events).answered := by
  induction events generalizing session with
  | nil => exact List.Subset.refl _
  | cons event rest ih =>
    exact List.Subset.trans (answered_subset_step session event) (ih (session.step event))

/-- A step of its caller brings a task nearer to its answer, or answers it. -/
theorem advance_task {caller : Nat} {task : Task} (busy : session.tasks caller = some task) :
    (∃ reply ∈ (session.advance caller).answered,
      reply.caller = caller ∧ reply.request = task.request) ∨
    ∃ next, (session.advance caller).tasks caller = some next ∧ next.request = task.request ∧
      next.work < task.work := by
  have placed : ∀ next, (session.put caller next).tasks caller = next := fun next => by
    rw [tasks_put, if_pos rfl]
  unfold advance
  rw [busy]
  simp only
  split
  · exact Or.inl ⟨_, List.mem_append_right _ (List.mem_singleton_self _), rfl, rfl⟩
  · rename_i key rest todo
    have nearer : ∀ result, (task.record key result rest).work < task.work := fun result => by
      have afterwards : (task.record key result rest).work = 2 * rest.length + 2 := rfl
      rw [afterwards, Task.work, todo, List.length_cons]
      split <;> omega
    refine Or.inr ?_
    split
    · exact ⟨_, placed _, rfl, nearer _⟩
    · rename_i first
      unfold peek
      split
      · exact ⟨_, placed _, rfl, nearer _⟩
      · exact ⟨_, placed _, rfl, nearer _⟩
      · refine ⟨_, placed _, rfl, ?_⟩
        simp only [Task.work, first]
        simp

/-- The steps of others leave a task as it is. -/
theorem step_task_other {caller : Nat} {task : Task} (busy : session.tasks caller = some task)
    {event : Event catalog} (other : event.advances caller = false) :
    (session.step event).tasks caller = some task := by
  have elsewhere : ∀ {second : Nat} {next : Option Task}, caller ≠ second →
      (session.put second next).tasks caller = some task := fun different => by
    rw [tasks_put, if_neg different, busy]
  cases event with
  | ask second request walk =>
    simp only [step]
    split
    · exact busy
    · rename_i free
      refine elsewhere fun same => ?_
      rw [← same, busy] at free
      cases free
  | advance second =>
    have different : caller ≠ second := fun same => by
      simp [Event.advances, same] at other
    simp only [step, advance]
    split
    · exact busy
    · split
      · exact elsewhere different
      · split
        · exact elsewhere different
        · unfold peek
          split <;> exact elsewhere different

/-- **A request is answered once its caller has made enough steps**, whatever the others do in
between. -/
theorem replied_of_work_le {caller : Nat} {task : Task} (busy : session.tasks caller = some task)
    (events : List (Event catalog)) (enough : task.work ≤ events.countP (·.advances caller)) :
    ∃ reply ∈ (session.run events).answered,
      reply.caller = caller ∧ reply.request = task.request := by
  induction events generalizing session task with
  | nil =>
    have positive : 0 < task.work := by
      unfold Task.work
      split <;> omega
    rw [List.countP_nil] at enough
    omega
  | cons event rest ih =>
    rw [List.countP_cons] at enough
    by_cases own : event.advances caller = true
    · rw [if_pos own] at enough
      have isAdvance : session.step event = session.advance caller := by
        cases event with
        | ask second request walk => cases own
        | advance second => rw [step, beq_iff_eq.1 own]
      show ∃ reply ∈ ((session.step event).run rest).answered, _
      rw [isAdvance]
      rcases advance_task busy with ⟨reply, member, answers⟩ | ⟨next, waits, same, nearer⟩
      · exact ⟨reply, answered_subset_run _ rest member, answers⟩
      · rw [← same]
        exact ih waits (by omega)
    · rw [if_neg own, Nat.add_zero] at enough
      exact ih (step_task_other busy (Bool.eq_false_iff.2 own)) enough

/-! ### A caller alone -/

/-- **The steps of a caller that nobody interrupts are one `Decoder.find`.** The third step is spare
where the peek is enough. -/
theorem run_find_alone (session : Session catalog) (onDemand : session.materialization = .lazy)
    {caller : Nat} (free : session.tasks caller = none) (key : String) (walk : Walk catalog) :
    let after := session.run
      [.ask caller (.find key) walk, .advance caller, .advance caller, .advance caller]
    after.decoder = (session.decoder.find key).2.1 ∧
      after.answered = session.answered ++
        [⟨caller, .find key, .found (session.decoder.find key).1⟩] := by
  simp only [run, List.foldl_cons, List.foldl_nil, step, free, find_eq_settle]
  cases kept : session.decoder.peek? key with
  | some result =>
    simp [advance, put, Task.begin, Request.lookups, peek, kept, Task.record, reply,
      Request.answer, Decoder.settle]
  | none =>
    simp [advance, put, Task.begin, Request.lookups, peek, kept, onDemand, settle, Task.record,
      reply, Request.answer]

end Session

/-! ### When flags are converted cannot be told -/

/-- **Converting on demand and converting everything at the start give the same answers.**

Octets are refused by both, for the same reason, or by neither. For every schedule of steps of any
callers, everything that was looked up and answered is what the catalog gives when each flag is
converted anew, so that answers to the same request differ at most in the order of the keys; every
request is answered after enough steps of its caller; and no flag is converted twice, also none that
cannot be decoded, which is noted when it is converted. -/
theorem lazy_and_prewarmed_agree (format : WireFormat) (octets : Octets) :
    (∃ error, ∀ materialization, ofOctets format octets materialization = .error error) ∨
    ∃ catalog, Catalog.ofOctets format octets = .ok catalog ∧
      (∀ materialization,
        ofOctets format octets materialization = .ok (ofCatalog catalog materialization)) ∧
      (∀ materialization (events : List (Event catalog)),
        let session := (Session.opened catalog materialization).run events
        (∀ reply ∈ session.answered, ∃ walk : Walk catalog,
          reply.answer = reply.request.oneShot catalog walk.keys) ∧
        (∀ caller task, session.tasks caller = some task →
          (∀ entry ∈ task.results, entry.2 = catalog.flag? entry.1) ∧
          ∀ more, task.work ≤ more.countP (·.advances caller) →
            ∃ reply ∈ (session.run more).answered,
              reply.caller = caller ∧ reply.request = task.request) ∧
        session.converted.Nodup ∧ (∀ key ∈ session.converted, key ∈ catalog.keys) ∧
        session.notices = session.converted.flatMap catalog.warnings) ∧
      ∀ events events' : List (Event catalog),
        ∀ reply ∈ ((Session.opened catalog .lazy).run events).answered,
        ∀ reply' ∈ ((Session.opened catalog .prewarmed).run events').answered,
          reply.request = reply'.request → reply.answer.Alike reply'.answer := by
  cases outcome : Catalog.ofOctets format octets with
  | error error =>
    refine Or.inl ⟨error, fun materialization => ?_⟩
    rw [ofOctets, outcome]
    rfl
  | ok catalog =>
    refine Or.inr ⟨catalog, rfl, fun materialization => ?_, fun materialization events => ?_, ?_⟩
    · rw [ofOctets, outcome]
      rfl
    · have sound := (Session.sound_opened catalog materialization).run events
      refine ⟨sound.answered, fun caller task busy => ⟨fun entry member => ?_, fun more enough => ?_⟩,
        sound.tallied.once, fun key member => ?_, sound.tallied.noted⟩
      · obtain ⟨looked, _, results⟩ := (sound.tasks caller task busy).results
        rw [results] at member
        obtain ⟨key, _, same⟩ := List.mem_map.1 member
        rw [← same]
      · exact Session.replied_of_work_le busy more enough
      · exact Catalog.isSome_flag?_iff.1 (sound.tallied.present member)
    · intro events events' reply member reply' member' same
      obtain ⟨walk, isOneShot⟩ :=
        ((Session.sound_opened catalog .lazy).run events).answered reply member
      obtain ⟨walk', isOneShot'⟩ :=
        ((Session.sound_opened catalog .prewarmed).run events').answered reply' member'
      rw [isOneShot, isOneShot', same]
      exact reply'.request.oneShot_alike catalog (walk.complete.trans walk'.complete.symm)

end FeatureFlags.Decoder
