import FeatureFlags.Proofs.Client.Reporting
import FeatureFlags.Proofs.Configuration.Restoring
import FeatureFlags.Proofs.Precomputed.Spellings

/-!
**A typed getter reports what it returns, unless a file gave the flag a value of another type.**

A flag that was assigned elsewhere declares a type, next to its value. A getter first compares the
declared type with its own, then reports the assignment, and only then takes the value out, which
succeeds only if the value itself is of the type. Whatever a response is decoded to declares the
types that its values have, and that survives the way to the disk and back. But a file is believed:
if it declares another type than its value has, the getter reports the assignment and returns the
default.

* `Precomputed.IsWellTyped`: each flag declares the type of its value.
* `Client.Returns`: what a typed getter may do; `Client.serve_get_eq_iff`: exactly this it does.
* `Configuration.Arises`, `Client.InUse`: configurations that were decoded or written by a client,
  and clients that hold no others.
* `Client.get_reports_what_it_returns`: what a typed getter reports, and `get_reports_without_return`
  what it reports though it returns the default.
-/

namespace FeatureFlags

open Document

/-! ### Declared types -/

/-- A flag declares the type of its value. -/
def PrecomputedFlag.IsWellTyped (flag : PrecomputedFlag) : Prop :=
  flag.value.type = flag.variationType

/-- Each flag declares the type of its value. -/
def Precomputed.IsWellTyped (precomputed : Precomputed) : Prop :=
  ∀ entry ∈ precomputed.flags.entries, entry.2.IsWellTyped

/-- Each flag that was assigned elsewhere declares the type of its value. -/
def Configuration.IsWellTyped (configuration : Configuration) : Prop :=
  ∀ precomputed ∈ configuration.precomputed, precomputed.IsWellTyped

/-- A flag is found among the entries, under its key or the digest of it. -/
theorem Precomputed.IsWellTyped.flag? {precomputed : Precomputed} {key : String}
    {flag : PrecomputedFlag} (wellTyped : precomputed.IsWellTyped)
    (found : precomputed.flag? key = some flag) : flag.IsWellTyped :=
  wellTyped _ (Dict.get?_eq_some_iff.mp found)

/-- **What a response is decoded to is well typed.** -/
theorem PrecomputedResponse.isWellTyped_decode (response : PrecomputedResponse) (subject : Subject)
    (fetchedAt : Instant) : (response.decode subject fetchedAt).IsWellTyped := by
  intro entry member
  obtain ⟨source, _, found⟩ := List.mem_filterMap.mp (Dict.mem_of_mem_ofList member)
  obtain ⟨flag, isFlag, rfl⟩ := Option.map_eq_some_iff.mp found
  obtain ⟨written, _, isDecoded⟩ := Option.bind_eq_some_iff.mp isFlag
  obtain ⟨value, isValue, same⟩ := Option.bind_eq_some_iff.mp isDecoded
  cases same
  exact Codec.type_of_decodeValue? isValue

/-! ### To the disk and back -/

theorem Value.type_of_readContent? {type : VariationType} {level : Nat} {document : Document}
    {value : Value} (found : readContent? type level document = some value) :
    value.type = type := by
  cases type with
  | string | integer | numeric | boolean | json =>
    obtain ⟨_, _, rfl⟩ := Option.map_eq_some_iff.mp found
    rfl

/-- A value that was written is read as one of its type, though perhaps as another one. -/
theorem Value.type_of_read?_document {level : Nat} {written value : Value}
    (inside : level < nestingLimit)
    (found : read? level written.toJson.document = some value) : value.type = written.type := by
  rw [read?, toJson, readRecord?_document inside (by simp) (by simp)] at found
  simp only [Record.require, List.map_cons, List.map_nil, List.lookup_cons, beq_self_eq_true,
    Option.bind_eq_bind, Option.bind_some, VariationType.read?_document] at found
  exact type_of_readContent? found

/-- A flag that was written is read as one that declares the same type and has a value of the same
type. -/
theorem PrecomputedFlag.isWellTyped_of_read?_document {level : Nat}
    {written flag : PrecomputedFlag} (inside : level + 1 < nestingLimit)
    (found : read? level written.toJson.document = some flag) (wellTyped : written.IsWellTyped) :
    flag.IsWellTyped := by
  rw [read?, toJson, readRecord?_document (by omega) (by simp) (by simp)] at found
  obtain ⟨record, isRecord, found⟩ := Option.bind_eq_some_iff.mp found
  cases isRecord
  obtain ⟨_, _, found⟩ := Option.bind_eq_some_iff.mp found
  obtain ⟨_, _, found⟩ := Option.bind_eq_some_iff.mp found
  obtain ⟨type, isType, found⟩ := Option.bind_eq_some_iff.mp found
  obtain ⟨value, isValue, found⟩ := Option.bind_eq_some_iff.mp found
  obtain ⟨_, _, found⟩ := Option.bind_eq_some_iff.mp found
  obtain ⟨_, _, found⟩ := Option.bind_eq_some_iff.mp found
  cases found
  simp [Record.require, List.lookup_cons] at isType isValue
  show value.type = type
  rw [Value.type_of_read?_document inside isValue, ← isType]
  exact wellTyped

/-- Assignments that were written are read as well typed ones if they were well typed. -/
theorem Precomputed.isWellTyped_of_read?_document {level : Nat} {written precomputed : Precomputed}
    (inside : level + 3 < nestingLimit)
    (found : read? level written.toJson.document = some precomputed)
    (wellTyped : written.IsWellTyped) : precomputed.IsWellTyped := by
  rw [read?, toJson, readRecord?_document (by omega) (by simp) (by simp)] at found
  obtain ⟨record, isRecord, found⟩ := Option.bind_eq_some_iff.mp found
  cases isRecord
  obtain ⟨flags, areFlags, found⟩ := Option.bind_eq_some_iff.mp found
  obtain ⟨_, _, found⟩ := Option.bind_eq_some_iff.mp found
  obtain ⟨_, _, found⟩ := Option.bind_eq_some_iff.mp found
  obtain ⟨_, _, found⟩ := Option.bind_eq_some_iff.mp found
  obtain ⟨_, _, found⟩ := Option.bind_eq_some_iff.mp found
  obtain ⟨_, _, found⟩ := Option.bind_eq_some_iff.mp found
  obtain ⟨_, _, found⟩ := Option.bind_eq_some_iff.mp found
  obtain ⟨_, _, found⟩ := Option.bind_eq_some_iff.mp found
  cases found
  simp only [Record.require, List.map_cons, List.lookup_cons, beq_self_eq_true,
    Option.bind_eq_bind, Option.bind_some] at areFlags
  intro entry member
  obtain ⟨source, listed, isRead⟩ := exists_of_readDict?_document (by omega) areFlags member
  exact PrecomputedFlag.isWellTyped_of_read?_document (by omega) isRead (wellTyped source listed)

namespace Configuration

/-- A file is believed: what it restores has the assignments that it spells. -/
theorem exists_parts_of_ofOctets {octets : Octets} {materialization : Materialization}
    {made : Configuration × List Notice} (restored : ofOctets octets materialization = .ok made) :
    ∃ fetchedAt flags,
      (Document.read? octets).bind readParts? = some (fetchedAt, flags, made.1.precomputed) := by
  unfold ofOctets at restored
  split at restored
  · cases restored
  · rename_i fetchedAt flags precomputed spelled
    refine ⟨fetchedAt, flags, ?_⟩
    rw [spelled]
    cases flags with
    | none =>
      cases restored
      rfl
    | some written =>
      obtain ⟨decoder, _, same⟩ := Except.bind_eq_ok restored
      cases same
      rfl

/-- The assignments in the document of a configuration are read from its own. -/
theorem exists_source_of_readParts?_document {written : Configuration} {fetchedAt : Instant}
    {flags : Option (WireFormat × Octets)} {precomputed : Precomputed}
    (found : readParts? written.toJson.document = some (fetchedAt, flags, some precomputed)) :
    ∃ source, written.precomputed = some source ∧
      Precomputed.read? 1 source.toJson.document = some precomputed := by
  obtain ⟨record, isRecord, found⟩ := Option.bind_eq_some_iff.mp found
  obtain ⟨_, _, found⟩ := Option.bind_eq_some_iff.mp found
  obtain ⟨_, _, found⟩ := Option.bind_eq_some_iff.mp found
  obtain ⟨_, isRead, same⟩ := Option.bind_eq_some_iff.mp found
  cases same
  rcases written with ⟨_, _ | decoder, _ | source⟩ <;>
    rw [toJson, readRecord?_document (by decide) (by simp) (by simp)] at isRecord <;>
    cases isRecord <;>
    simp [Record.nullable, Record.optional, List.lookup_cons] at isRead
  all_goals
    rw [Precomputed.toJson, readNullable?_object, Option.map_eq_some_iff] at isRead
    obtain ⟨_, isRead, same⟩ := isRead
    cases same
    exact ⟨source, rfl, isRead⟩

/-- A configuration that was written is restored with well typed assignments if it had such. -/
theorem isWellTyped_of_ofOctets_toOctets {written : Configuration}
    {materialization : Materialization} {made : Configuration × List Notice}
    (wellTyped : written.IsWellTyped)
    (restored : ofOctets written.toOctets materialization = .ok made) : made.1.IsWellTyped := by
  intro precomputed holds
  obtain ⟨fetchedAt, flags, spelled⟩ := exists_parts_of_ofOctets restored
  rw [toOctets, read?_toOctets, Option.bind_some, show made.1.precomputed = _ from holds] at spelled
  obtain ⟨source, isSource, isRead⟩ := exists_source_of_readParts?_document spelled
  exact Precomputed.isWellTyped_of_read?_document (by decide) isRead (wellTyped source isSource)

end Configuration

/-! ### What a typed getter does -/

namespace Client

variable {client : Client} {flagKey : String} {default : Value} {now : Instant}

/-- The flag that a client has under a key, of the assignments that it was made with. -/
def stored? (client : Client) (flagKey : String) : Option (Precomputed × PrecomputedFlag) := do
  let precomputed ← client.store.active.bind Configuration.precomputed
  let flag ← precomputed.flag? flagKey
  return (precomputed, flag)

/-- What is reported when the value of a stored flag is asked for. -/
def reportOf (client : Client) (flagKey : String) (type : VariationType) (now : Instant)
    (precomputed : Precomputed) (flag : PrecomputedFlag) : Client × List AssignmentEvent :=
  client.report ⟨flag.value,
    if flag.doLog then
      some (Configuration.precomputedEventOf (client.query flagKey type now) precomputed flag)
    else none⟩

/-- What a typed getter may do: the value that it returns, the client afterwards, and the events
that are handed to the logger. -/
inductive Returns (client : Client) (flagKey : String) (default : Value) (now : Instant) :
    Value × Client × List AssignmentEvent → Prop
  | nothing
      (other : ∀ precomputed flag, client.stored? flagKey = some (precomputed, flag) →
        flag.variationType ≠ default.type) :
      Returns client flagKey default now (default, client, [])
  | stored (precomputed : Precomputed) (flag : PrecomputedFlag)
      (found : client.stored? flagKey = some (precomputed, flag))
      (declared : flag.variationType = default.type) (fits : flag.value.type = default.type) :
      Returns client flagKey default now
        (flag.value, client.reportOf flagKey default.type now precomputed flag)
  | belied (precomputed : Precomputed) (flag : PrecomputedFlag)
      (found : client.stored? flagKey = some (precomputed, flag))
      (declared : flag.variationType = default.type) (misfit : flag.value.type ≠ default.type) :
      Returns client flagKey default now
        (default, client.reportOf flagKey default.type now precomputed flag)

/-- What was assigned elsewhere is reported if it is declared to be of the type. -/
theorem assigned_eq (client : Client) (flagKey : String) (type : VariationType) (now : Instant) :
    client.assigned flagKey type now =
      match client.stored? flagKey with
      | some (precomputed, flag) =>
        if flag.variationType = type then
          (some flag.value, client.reportOf flagKey type now precomputed flag)
        else (none, client, [])
      | none => (none, client, []) := by
  unfold assigned Configuration.assignPrecomputed Configuration.evaluatePrecomputed stored?
  cases client.store.active.bind Configuration.precomputed with
  | none => rfl
  | some precomputed =>
    simp only [Option.bind_eq_bind, Option.bind_some]
    cases found : precomputed.flag? flagKey with
    | none => simp only [query, found]; rfl
    | some flag =>
      simp only [query, found, Option.bind_some]
      by_cases declared : flag.variationType = type
      · simp [declared, settle, finish, reportOf, query]
      · simp [declared, settle, finish, FlagError.isNormal]

/-- A reader that takes the values of one type leaves the default in the place of all others. -/
theorem map_valueOf {α : Type} {type : VariationType} {read? : Value → Option α} {make : α → Value}
    (takes : ∀ value, (read? value).map make = if value.type = type then some value else none)
    (client : Client) (flagKey : String) (default : α) (now : Instant) :
    (client.valueOf flagKey type read? default now).map make id =
      (((client.assigned flagKey type now).1.filter fun value => value.type = type).getD
        (make default), (client.assigned flagKey type now).2) := by
  unfold valueOf
  obtain ⟨value, after⟩ := client.assigned flagKey type now
  cases value with
  | none => rfl
  | some value =>
    have taken := takes value
    by_cases fits : value.type = type
    · obtain ⟨content, isContent, made⟩ := Option.map_eq_some_iff.mp (taken.trans (if_pos fits))
      simp [Option.filter, fits, isContent, made]
    · have absent := Option.map_eq_none_iff.mp (taken.trans (if_neg fits))
      simp [Option.filter, fits, absent]

/-- A typed getter returns what was assigned if it is of its type, and else the default. -/
theorem serve_get (client : Client) (flagKey : String) (default : Value) (now : Instant) :
    client.serve (.get flagKey default now) =
      (((client.assigned flagKey default.type now).1.filter
          fun value => value.type = default.type).getD default,
        (client.assigned flagKey default.type now).2) := by
  cases default with
  | string | boolean | integer | numeric | json =>
    exact map_valueOf (fun value => by cases value <;> rfl) client flagKey _ now

/-- **A typed getter does one of three things.** -/
theorem returns_serve (client : Client) (flagKey : String) (default : Value) (now : Instant) :
    client.Returns flagKey default now (client.serve (.get flagKey default now)) := by
  rw [serve_get, assigned_eq]
  cases found : client.stored? flagKey with
  | none => exact .nothing fun _ _ isStored => by simp [found] at isStored
  | some stored =>
    obtain ⟨precomputed, flag⟩ := stored
    dsimp only
    by_cases declared : flag.variationType = default.type
    · rw [if_pos declared]
      by_cases fits : flag.value.type = default.type
      · rw [Option.filter_some_pos (by simpa using fits)]
        exact .stored precomputed flag found declared fits
      · rw [Option.filter_some_neg (by simpa using fits)]
        exact .belied precomputed flag found declared fits
    · rw [if_neg declared]
      refine .nothing fun _ other isStored => ?_
      cases found.symm.trans isStored
      exact declared

/-- What a typed getter does is determined by what the client has under the key. -/
theorem Returns.unique {first second : Value × Client × List AssignmentEvent}
    (one : client.Returns flagKey default now first)
    (other : client.Returns flagKey default now second) : first = second := by
  cases one with
  | nothing absent =>
    cases other with
    | nothing => rfl
    | stored _ _ found declared | belied _ _ found declared =>
      exact absurd declared (absent _ _ found)
  | stored _ _ found declared fits =>
    cases other with
    | nothing absent => exact absurd declared (absent _ _ found)
    | stored _ _ again =>
      cases found.symm.trans again
      rfl
    | belied _ _ again _ misfit =>
      cases found.symm.trans again
      exact absurd fits misfit
  | belied _ _ found declared misfit =>
    cases other with
    | nothing absent => exact absurd declared (absent _ _ found)
    | stored _ _ again _ fits =>
      cases found.symm.trans again
      exact absurd fits misfit
    | belied _ _ again =>
      cases found.symm.trans again
      rfl

end Client

/-! ### Configurations that a client makes -/

/-- Configurations that come about by decoding, or that were written before. -/
inductive Configuration.Arises : Configuration → Prop
  | unassigned (fetchedAt : Instant) (flags : Option Decoder) : Arises ⟨fetchedAt, flags, none⟩
  | decoded (fetchedAt : Instant) (flags : Option Decoder) (response : PrecomputedResponse)
      (subject : Subject) (decodedAt : Instant) :
      Arises ⟨fetchedAt, flags, some (response.decode subject decodedAt)⟩
  | restored {written : Configuration} (arises : written.Arises)
      {materialization : Materialization} {made : Configuration × List Notice}
      (isMade : ofOctets written.toOctets materialization = .ok made) : Arises made.1

/-- **They are well typed.** -/
theorem Configuration.Arises.isWellTyped {configuration : Configuration}
    (arises : configuration.Arises) : configuration.IsWellTyped := by
  induction arises with
  | unassigned fetchedAt flags => rintro _ ⟨⟩
  | decoded fetchedAt flags response subject decodedAt =>
    rintro _ ⟨⟩
    exact response.isWellTyped_decode subject decodedAt
  | restored _ isMade ih => exact isWellTyped_of_ofOctets_toOctets ih isMade

/-- What is found on disk is what the file restores. -/
theorem Store.exists_of_found {store : Store} {content : Option Octets}
    {configuration : Configuration} (isFound : store.found content = some configuration) :
    ∃ octets made, content = some octets ∧
      Configuration.ofOctets octets store.settings.materialization = .ok made ∧
      made.1 = configuration := by
  simp only [found] at isFound
  split at isFound
  · obtain ⟨octets, isContent, isFound⟩ := Option.bind_eq_some_iff.mp isFound
    obtain ⟨made, isMade, same⟩ := Option.bind_eq_some_iff.mp isFound
    cases same
    refine ⟨octets, made, isContent, ?_, rfl⟩
    cases outcome : Configuration.ofOctets octets store.settings.materialization with
    | error cause =>
      rw [outcome] at isMade
      cases isMade
    | ok other =>
      rw [outcome] at isMade
      cases isMade
      rfl
  · cases isFound

/-- What is fetched arises by decoding. -/
theorem Fetcher.arises_of_fetch {fetcher : Fetcher} {wanted : Wanted} {transport : Transport}
    {now : Instant} {configuration : Configuration}
    (fetched : (fetcher.fetch wanted transport now).result = .ok configuration) :
    configuration.Arises := by
  have ofBody : ∀ {body made}, read wanted body now = .ok made → made.1.Arises := by
    intro body made found
    unfold read at found
    split at found <;> split at found <;> cases found
    · exact .unassigned _ _
    · exact .decoded _ _ _ _ _
  unfold fetch at fetched
  split at fetched
  · cases fetched
  · split at fetched
    · split at fetched
      · cases fetched
      · cases fetched
      · rename_i response _
        have received : (fetcher.receive wanted response now).1 = .ok configuration := fetched
        unfold receive at received
        split at received
        · cases received
        · split at received
          · cases received
          · split at received
            · rename_i found
              cases received
              exact ofBody found
            · cases received
    · cases fetched

namespace Client

/-- What is in an envelope arises by decoding. -/
theorem arises_of_configurationOf {envelope : String} {now : Instant}
    {configuration : Configuration} (found : configurationOf envelope now = .ok configuration) :
    configuration.Arises := by
  unfold configurationOf at found
  split at found
  · rename_i precomputed isDecoded
    cases found
    obtain ⟨content, _, isDecoded⟩ := Except.bind_eq_ok isDecoded
    unfold PrecomputedEnvelope.decode at isDecoded
    cases isResponse : content.open? with
    | error cause =>
      rw [isResponse] at isDecoded
      cases isDecoded
    | ok response =>
      rw [isResponse] at isDecoded
      cases isDecoded
      exact .decoded _ _ _ _ _
  · cases found

/-- Clients in use: what they serve from was decoded, or restored from a file that was written of
what was. -/
inductive InUse : Client → Prop
  | opened (settings : ClientSettings) (content : Option Octets)
      (own : ∀ octets ∈ content,
        ∃ written : Configuration, written.Arises ∧ written.toOctets = octets) :
      InUse (Client.opened settings content).1
  | set {client : Client} (inUse : client.InUse) {configuration : Configuration}
      (arises : configuration.Arises) : InUse (client.set configuration).1
  | bootstrapped {client : Client} (inUse : client.InUse) (envelope : String) (now : Instant) :
      InUse (client.bootstrap envelope now).2.1
  | fetched {client : Client} (inUse : client.InUse) (transport : Transport) (now : Instant) :
      InUse (client.fetch transport now).2.1
  | polled {client : Client} (inUse : client.InUse) (event : PollEvent)
      (decoded : ∀ run configuration, event = .fetchEnded run (.ok configuration) →
        configuration.Arises) :
      InUse (client.poll event).1
  | ticked {client : Client} (inUse : client.InUse) (transport : Transport) (now : Instant) :
      InUse (client.tick transport now).1
  | served {client : Client} (inUse : client.InUse) (request : ValueRequest) :
      InUse (client.serve request).2.1

/-- A client serves from what arises in these ways. -/
def IsSound (client : Client) : Prop :=
  ∀ configuration ∈ client.store.active, configuration.Arises

theorem IsSound.accept {client : Client} (sound : client.IsSound)
    {result : Except ClientError Configuration}
    (arises : ∀ configuration, result = .ok configuration → configuration.Arises) :
    (client.accept result).2.1.IsSound := by
  cases result with
  | ok configuration =>
    rintro _ ⟨⟩
    exact arises configuration rfl
  | error error => exact sound

/-- The poller stores nothing but what was fetched. -/
theorem fetchEnded_of_store {poller : Poller} {event : PollEvent} {configuration : Configuration}
    (stores : (poller.step event).2 = .store configuration) :
    ∃ run, event = .fetchEnded run (.ok configuration) := by
  cases event with
  | start | stop => cases stores
  | pauseEnded run =>
    simp only [Poller.step] at stores
    split at stores <;> cases stores
  | fetchEnded run result =>
    simp only [Poller.step] at stores
    split at stores
    · cases result with
      | ok fetched =>
        cases stores
        exact ⟨run, rfl⟩
      | error error => cases stores
    · cases stores

theorem IsSound.poll {client : Client} (sound : client.IsSound) {event : PollEvent}
    (arises : ∀ run configuration, event = .fetchEnded run (.ok configuration) →
      configuration.Arises) :
    (client.poll event).1.IsSound := by
  intro configuration holds
  have applied : configuration ∈ ((client.poller.step event).2.apply client.store).1.active := holds
  cases effect : (client.poller.step event).2 with
  | store stored =>
    rw [effect] at applied
    cases applied
    obtain ⟨run, rfl⟩ := fetchEnded_of_store effect
    exact arises run configuration rfl
  | none | answer | fetch | retry =>
    rw [effect] at applied
    exact sound configuration applied

theorem IsSound.tick {client : Client} (sound : client.IsSound) (transport : Transport)
    (now : Instant) : (client.tick transport now).1.IsSound := by
  unfold Client.tick
  split
  · rename_i run _
    let fetching := (client.poll (.pauseEnded run)).1
    have pausing : fetching.IsSound := sound.poll fun _ _ impossible => by cases impossible
    let fetched := fetching.fetcher.fetch fetching.wanted transport now
    have aside : IsSound { fetching with fetcher := fetched.fetcher } := pausing
    show (Client.poll { fetching with fetcher := fetched.fetcher }
      (.fetchEnded run fetched.result)).1.IsSound
    refine aside.poll fun _ configuration ended => ?_
    cases isResult : fetched.result with
    | ok other =>
      rw [isResult] at ended
      cases ended
      exact Fetcher.arises_of_fetch isResult
    | error error =>
      rw [isResult] at ended
      cases ended
  · exact sound

theorem IsSound.fetch {client : Client} (sound : client.IsSound) (transport : Transport)
    (now : Instant) : (client.fetch transport now).2.1.IsSound := by
  let fetched := client.fetcher.fetch client.wanted transport now
  have aside : IsSound { client with fetcher := fetched.fetcher } := sound
  exact aside.accept fun _ found => Fetcher.arises_of_fetch found

/-- A client that is opened starts from nothing, or from what its file restores. -/
theorem isSound_opened {settings : ClientSettings} {content : Option Octets}
    (own : ∀ octets ∈ content,
      ∃ written : Configuration, written.Arises ∧ written.toOctets = octets) :
    (Client.opened settings content).1.IsSound := by
  intro configuration holds
  have restored : configuration ∈
      ((Store.ofSettings settings.store).load content).2.1.active := holds
  unfold Store.load at restored
  cases isFound : (Store.ofSettings settings.store).found content with
  | none =>
    rw [isFound] at restored
    cases restored
  | some other =>
    rw [isFound] at restored
    cases restored
    obtain ⟨octets, made, isContent, isMade, rfl⟩ := Store.exists_of_found isFound
    obtain ⟨written, arises, rfl⟩ := own octets isContent
    exact arises.restored isMade

theorem IsSound.serve {client : Client} (sound : client.IsSound) (request : ValueRequest) :
    (client.serve request).2.1.IsSound := by
  cases comes : reportOf? (client.result request) with
  | none =>
    rw [serve_of_silent comes]
    exact sound
  | some event =>
    rw [serve_of_report comes]
    exact sound

/-- **A client in use serves from what arises in these ways.** -/
theorem InUse.isSound {client : Client} (inUse : client.InUse) : client.IsSound := by
  induction inUse with
  | opened settings content own => exact isSound_opened own
  | set _ arises =>
    rintro _ ⟨⟩
    exact arises
  | bootstrapped _ envelope now sound =>
    exact sound.accept fun _ found => arises_of_configurationOf found
  | fetched _ transport now sound => exact sound.fetch transport now
  | polled _ event decoded sound => exact sound.poll decoded
  | ticked _ transport now sound => exact sound.tick transport now
  | served _ request sound => exact sound.serve request

/-! ### What a typed getter reports -/

/-- Where the flags are well typed, no value is reported that is not returned. -/
theorem Returns.of_isWellTyped {client : Client} {flagKey : String} {default : Value}
    {now : Instant} {answer : Value × Client × List AssignmentEvent}
    (wellTyped : ∀ configuration ∈ client.store.active, configuration.IsWellTyped)
    (returns : client.Returns flagKey default now answer) :
    answer = (default, client, []) ∨
      ∃ precomputed flag, client.stored? flagKey = some (precomputed, flag) ∧
        flag.value.type = default.type ∧
        answer = (flag.value, client.reportOf flagKey default.type now precomputed flag) := by
  cases returns with
  | nothing => exact .inl rfl
  | stored precomputed flag found declared fits =>
    exact .inr ⟨precomputed, flag, found, fits, rfl⟩
  | belied precomputed flag found declared misfit =>
    obtain ⟨_, holds, found⟩ := Option.bind_eq_some_iff.mp found
    obtain ⟨_, isFlag, same⟩ := Option.bind_eq_some_iff.mp found
    cases same
    obtain ⟨configuration, active, holds⟩ := Option.bind_eq_some_iff.mp holds
    have honest : flag.value.type = flag.variationType :=
      (wellTyped configuration active precomputed holds).flag? isFlag
    exact absurd (honest.trans declared) misfit

/-- **A typed getter reports what it returns, unless a flag belies its type.**

It does one of three things: it returns the default and does nothing else; it returns the stored
value of its type and reports it; or it reports a stored value that is of another type than its flag
declares, and returns the default. The third is ruled out where the flags are well typed, and so
they are in every client in use, whatever it was sent. A file on disk is believed, though. -/
theorem get_reports_what_it_returns (client : Client) (flagKey : String) (default : Value)
    (now : Instant) :
    (∀ answer, client.serve (.get flagKey default now) = answer ↔
      client.Returns flagKey default now answer) ∧
    ((∀ configuration ∈ client.store.active, configuration.IsWellTyped) →
      client.serve (.get flagKey default now) = (default, client, []) ∨
        ∃ precomputed flag, client.stored? flagKey = some (precomputed, flag) ∧
          flag.value.type = default.type ∧
          client.serve (.get flagKey default now) =
            (flag.value, client.reportOf flagKey default.type now precomputed flag)) ∧
    (client.InUse → ∀ configuration ∈ client.store.active, configuration.IsWellTyped) ∧
    ∀ octets materialization made, Configuration.ofOctets octets materialization = .ok made →
      ∃ fetchedAt flags, (Document.read? octets).bind Configuration.readParts? =
        some (fetchedAt, flags, made.1.precomputed) := by
  have returns := client.returns_serve flagKey default now
  refine ⟨fun answer => ⟨?_, returns.unique⟩, fun wellTyped => returns.of_isWellTyped wellTyped,
    fun inUse configuration active => (inUse.isSound configuration active).isWellTyped,
    fun octets materialization made => Configuration.exists_parts_of_ofOctets⟩
  rintro rfl
  exact returns

/-- A file in which a text is declared to be a whole number. -/
def belyingFile : Octets :=
  (Configuration.ofPrecomputed
    { flags := Dict.ofList
        [("rollout", ⟨some "everyone", some "on", .integer, .string "ten", Dict.empty, true⟩)]
      obfuscated := false
      salt := []
      format := "PRECOMPUTED"
      fetchedAt := ⟨1704067200, 0⟩
      publishedAt := none
      environment := none
      subject := ⟨"visitor", Dict.empty⟩ }).toOctets

/-- A client that is opened with this file. -/
def belied : Client :=
  (Client.opened ⟨"", "", .own, none, .empty, ⟨true, true, .lazy⟩⟩ (some belyingFile)).1

/-- **What is reported is not always returned**: the file is accepted, the getter returns the
default, and yet the assignment is handed to the logger and remembered. -/
theorem get_reports_without_return :
    belied.isInitialized = true ∧
      (belied.stored? "rollout").map (fun stored => stored.2.value) = some (.string "ten") ∧
      (belied.integer "rollout" 3 ⟨1704067200, 0⟩).1 = 3 ∧
      (belied.integer "rollout" 3 ⟨1704067200, 0⟩).2.2.length = 1 ∧
      (belied.integer "rollout" 3 ⟨1704067200, 0⟩).2.1.cache ≠ belied.cache := by
  decide +kernel

end Client

end FeatureFlags
