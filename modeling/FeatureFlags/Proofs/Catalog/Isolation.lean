import FeatureFlags.Proofs.Catalog.Agreement
import FeatureFlags.Proofs.Flatbuffer.Agreement
import FeatureFlags.Proofs.Json.Places
import FeatureFlags.Proofs.Protobuf.Places

/-!
**One flag does not affect another.**

A catalog tells the flags of a configuration from each other without decoding them, so another value
in the place of one of them changes what is found under its key and nothing else, even if it makes
no flag: in a document, which passes over every value that its grammar allows; in a message, where
any other record may stand in a field; and in a buffer, where the tables of other flags are the
same.

* `Catalog.DiffersAt`: what two catalogs that differ at one key have in common.
* `Catalog.exists_flag_place`: the place of a flag in a document.
* `Catalog.flag?_ofFlatbuffer`: what a catalog of a buffer gives.
* `Catalog.replaced_flag_spares_others`: the flags of the three formats.
-/

namespace FeatureFlags

open Document Wire

namespace Catalog

/-! ### Catalogs that differ at one key -/

/-- Two catalogs have the same keys, and at every key but one the same is found and the same
assignments are made, whenever flags are decoded and whatever was looked up before. -/
structure DiffersAt (key : String) (first second : Catalog) : Prop where
  keys : second.keys = first.keys
  size : second.size = first.size
  find : ∀ other, other ≠ key → ∀ materialization asked materialization' asked',
    ((Decoder.after second materialization' asked').find other).1 =
      ((Decoder.after first materialization asked).find other).1
  assign : ∀ query : Query, query.flagKey ≠ key →
    ∀ materialization asked time materialization' asked' time' subject,
      Configuration.assign
          (some (.ofFlags (Decoder.after second materialization' asked') time')) query subject =
        Configuration.assign
          (some (.ofFlags (Decoder.after first materialization asked) time)) query subject

variable {first second : Catalog} {key : String}

theorem size_eq_length_keys (catalog : Catalog) : catalog.size = catalog.keys.length :=
  List.length_map _ |>.symm

/-- Catalogs that give the same at every other key differ at one key. -/
theorem differsAt_of_flag? (present : key ∈ first.keys) (still : key ∈ second.keys)
    (same : ∀ other, other ≠ key → second.flag? other = first.flag? other) :
    DiffersAt key first second := by
  have keys : second.keys = first.keys := by
    refine Dict.keys_eq_of_isSome fun other => ?_
    by_cases here : other = key
    · subst here
      rw [Dict.mem_keys_iff.mp present, Dict.mem_keys_iff.mp still]
    · have found := congrArg Option.isSome (same other here)
      rwa [flag?, flag?, Option.isSome_map, Option.isSome_map] at found
  refine ⟨keys, ?_, fun other apart _ _ _ _ => ?_, fun query apart _ _ _ _ _ _ subject => ?_⟩
  · rw [size_eq_length_keys, size_eq_length_keys, keys]
  · rw [Decoder.find_after, Decoder.find_after, same other apart]
  · refine Configuration.assign_of_answer ?_ _ _ subject
    rw [Decoder.after, Decoder.after, Decoder.answer?_findAll, Decoder.answer?_findAll,
      same _ apart]

/-- A flag that cannot be decoded is an error of its own, whatever is asked. -/
theorem assign_of_undecodable {cause : DecodeError}
    (broken : first.flag? key = some (.error cause)) (materialization : Materialization)
    (asked : List String) (time : Instant) {query : Query} (isKey : query.flagKey = key)
    (subject : Subject) :
    Configuration.assign (some (.ofFlags (Decoder.after first materialization asked) time)) query
      subject = .error .undecodableFlag := by
  have answer : (Decoder.after first materialization asked).answer? query.flagKey =
      some (.error cause) := by
    rw [Decoder.after, Decoder.answer?_findAll, isKey, broken]
  rw [Configuration.assign, Configuration.evaluate, Configuration.flag]
  simp only [Configuration.ofFlags, Option.bind_some, answer]
  rfl

/-! ### Documents -/

/-- **A flag of a document has its place**, where any other value may stand. -/
theorem exists_flag_place {octets : Octets} {catalog : Catalog}
    (isCatalog : ofOctets .json octets = .ok catalog) (present : key ∈ catalog.keys) :
    ∃ before raw after stored, octets = before ++ (raw ++ after) ∧ stored.Spells raw ∧
      catalog.flags.get? key = some (.document stored) ∧
      ∀ {value document}, document.SpellsPadded value → IsUtf8 value →
        ofOctets .json (before ++ (value ++ after)) =
          .ok { catalog with
            octets := before ++ (value ++ after)
            flags := catalog.flags.insert key (.document document) } := by
  rw [ofOctets, ofJson] at isCatalog
  cases found : readDocument? octets with
  | none =>
    rw [found] at isCatalog
    cases isCatalog
  | some made =>
    rw [found] at isCatalog
    cases isCatalog
    obtain ⟨document, isDocument, found⟩ := Option.bind_eq_some_iff.mp found
    obtain ⟨record, isRecord, found⟩ := Option.bind_eq_some_iff.mp found
    obtain ⟨createdAt, isCreatedAt, found⟩ := Option.bind_eq_some_iff.mp found
    obtain ⟨environment, isEnvironment, found⟩ := Option.bind_eq_some_iff.mp found
    obtain ⟨flags, areFlags, same⟩ := Option.bind_eq_some_iff.mp found
    cases same
    obtain ⟨fill, stored, isPart, isFlag, replaceFlag⟩ :=
      exists_keyed_part isRecord areFlags present
    obtain ⟨before, raw, after, rfl, spelled, surrounds⟩ :=
      isPart.exists_place (read?_eq_some_iff.mp isDocument)
    refine ⟨before, raw, after, stored, rfl, spelled, ?_, fun {value other} padded utf8 => ?_⟩
    · obtain ⟨found, isFound⟩ := Option.isSome_iff_exists.mp (Dict.mem_keys_iff.mp present)
      rw [isFlag] at isFound
      obtain ⟨_, same⟩ := Option.ite_none_right_eq_some.mp isFound
      rw [isFlag, isFound, same]
    · obtain ⟨changed, isChanged, level, newFlags, others⟩ := replaceFlag other
      have isText : rawDocument? other = some (.document other) :=
        if_pos (SpellsPadded.isText padded utf8)
      rw [isText, Option.map_some] at newFlags
      rw [← Record.nullable_congr level (others "createdAt" (by decide))] at isCreatedAt
      rw [← Record.nullable_congr level (others "environment" (by decide))] at isEnvironment
      rw [ofOctets, ofJson, readDocument?, read?_eq_some_iff.mpr (surrounds padded)]
      simp only [Option.bind_eq_bind, Option.bind_some, isChanged, isCreatedAt, isEnvironment,
        newFlags, Option.pure_def]

/-! ### Messages -/

/-- **A flag of a message has its place**, where any other record of its key may stand. -/
theorem exists_record_place {octets : Octets} {catalog : Catalog} {record : ConfigRecord}
    {front back : List FlagRecord} {flag : FlagRecord}
    (isCatalog : ofOctets .protobuf octets = .ok catalog)
    (read : ConfigRecord.ofOctets? octets = some record)
    (listed : record.flags = front ++ flag :: back) :
    ∃ before written after payload, octets = before ++ (written ++ after) ∧
      Writes (fun _ => false) 100 ⟨3, payload⟩ written ∧ FlagRecord.read? 1 payload = some flag ∧
      ∀ {other new part}, FlagRecord.read? 1 other = some new →
        Writes (fun _ => false) 100 ⟨3, other⟩ part → new.key = flag.key →
          ∃ changed, ofOctets .protobuf (before ++ (part ++ after)) = .ok changed ∧
            changed.createdAt = catalog.createdAt ∧ changed.environment = catalog.environment ∧
            DiffersAt flag.key catalog changed := by
  obtain ⟨before, written, after, payload, rfl, writes, isFlag, replace⟩ :=
    ConfigRecord.exists_flag_place read listed
  refine ⟨before, written, after, payload, rfl, writes, isFlag,
    fun {other new part} isNew isPart sameKey => ?_⟩
  rw [ofOctets, ofProtobuf, read] at isCatalog
  obtain ⟨createdAt, isCreatedAt, same⟩ := Except.bind_eq_ok isCatalog
  cases same
  refine ⟨⟨.protobuf, before ++ (part ++ after), createdAt, record.environment,
    Dict.ofList ((front ++ new :: back).map fun flag => (flag.key, .record flag))⟩, ?_, rfl, rfl,
    differsAt_of_flag? ?_ ?_ fun key apart => ?_⟩
  · rw [ofOctets, ofProtobuf, replace isNew isPart]
    simp only [isCreatedAt, bind, Except.bind, pure, Except.pure]
  · refine Dict.mem_keys_ofList.mpr ⟨(flag.key, .record flag), ?_, rfl⟩
    rw [listed]
    simp
  · exact Dict.mem_keys_ofList.mpr ⟨(new.key, .record new), by simp, sameKey⟩
  · rw [flag?, flag?, listed, List.map_append, List.map_append, List.map_cons, List.map_cons,
      sameKey]
    exact congrArg _ (Dict.get?_ofList_replace (RawFlag.record flag) (RawFlag.record new) apart)

end Catalog

/-! ### Buffers -/

/-- The key of a flag and what its table makes. -/
def Buffer.flagEntry (buffer : Buffer) (flag : Nat) : Decoded (String × Decoded Flag) := do
  let key ← buffer.requiredText "flag.key" flag 4
  return (key, buffer.flag flag)

/-- Two buffers list flags whose tables agree, but for one in each, which bear the same key. -/
def Buffer.DifferInFlag (key : String) (first second : Buffer) : Prop :=
  ∃ root front flag back root' front' flag' back',
    first.root = .ok root ∧ first.tables root 8 = .ok (front ++ flag :: back) ∧
    second.root = .ok root' ∧ second.tables root' 8 = .ok (front' ++ flag' :: back') ∧
    first.text? flag 4 = .ok (some key) ∧ second.text? flag' 4 = .ok (some key) ∧
    List.Forall₂ (AgreeTable first second .flag) front front' ∧
    List.Forall₂ (AgreeTable first second .flag) back back'

/-- Results that are each changed on their way are changed together. -/
theorem Decoded.mapM_map {α β γ : Type} (read : α → Decoded β) (f : β → γ) (items : List α) :
    (items.mapM fun item => Except.map f (read item)) =
      Except.map (List.map f) (items.mapM read) := by
  induction items with
  | nil => rfl
  | cons head rest ih =>
    rw [List.mapM_cons, List.mapM_cons, ih]
    cases read head with
    | error cause => rfl
    | ok value => cases rest.mapM read <;> rfl

/-- Results around one of them. -/
theorem Decoded.exists_of_mapM_append_cons {α β : Type} {read : α → Decoded β}
    {front back : List α} {item : α} {results : List β}
    (made : (front ++ item :: back).mapM read = .ok results) :
    ∃ before result after, front.mapM read = .ok before ∧ read item = .ok result ∧
      back.mapM read = .ok after ∧ results = before ++ result :: after := by
  rw [List.mapM_append, List.mapM_cons] at made
  obtain ⟨before, isBefore, made⟩ := Except.bind_eq_ok made
  obtain ⟨others, areOthers, same⟩ := Except.bind_eq_ok made
  obtain ⟨result, isResult, made⟩ := Except.bind_eq_ok areOthers
  obtain ⟨after, isAfter, last⟩ := Except.bind_eq_ok made
  cases last
  cases same
  exact ⟨before, result, after, isBefore, isResult, isAfter, rfl⟩

theorem Buffer.AgreeTable.flagEntry {first second : Buffer} {flag other : Nat}
    (agree : AgreeTable first second .flag flag other) :
    first.flagEntry flag = second.flagEntry other :=
  Decoded.bind_eq (agree.requiredText rfl) fun _ => by rw [agree.flag]

namespace Catalog

/-- What a catalog of a buffer gives is what its flags make, each under its key. -/
theorem flag?_ofFlatbuffer {octets : Octets} {catalog : Catalog} {root : Nat} {flags : List Nat}
    (isCatalog : ofOctets .flatbuffer octets = .ok catalog)
    (isRoot : (Buffer.ofOctets octets).root = .ok root)
    (areFlags : (Buffer.ofOctets octets).tables root 8 = .ok flags) :
    ∃ entries, flags.mapM (Buffer.ofOctets octets).flagEntry = .ok entries ∧
      ∀ key, catalog.flag? key = (Dict.ofList entries).get? key := by
  rw [ofOctets, ofFlatbuffer] at isCatalog
  split at isCatalog
  case isFalse => cases isCatalog
  obtain ⟨createdAt, _, isCatalog⟩ := Except.bind_eq_ok isCatalog
  obtain ⟨environment, _, isCatalog⟩ := Except.bind_eq_ok isCatalog
  obtain ⟨index, isIndex, same⟩ := Except.bind_eq_ok isCatalog
  cases same
  rw [Buffer.flagIndex, isRoot] at isIndex
  simp only [bind, Except.bind, areFlags] at isIndex
  refine ⟨index.map fun entry => (entry.1, (Buffer.ofOctets octets).flag entry.2), ?_,
    fun key => ?_⟩
  · have each := Decoded.mapM_map (fun flag => do
      let key ← (Buffer.ofOctets octets).requiredText "flag.key" flag 4
      return (key, flag)) (fun entry => (entry.1, (Buffer.ofOctets octets).flag entry.2)) flags
    refine Eq.trans ?_ (each.trans (congrArg _ isIndex))
    refine congrArg (flags.mapM ·) (funext fun flag => ?_)
    rw [Buffer.flagEntry]
    cases (Buffer.ofOctets octets).requiredText "flag.key" flag 4 <;> rfl
  · rw [flag?, Dict.get?_ofList, Dict.get?_ofList, Dict.latest?_map_values, Dict.latest?_map_values,
      Option.map_map]
    rfl

/-- **One flag of a buffer in the place of another leaves the others.** -/
theorem differsAt_of_differInFlag {octets octets' : Octets}
    (isFirst : ofOctets .flatbuffer octets = .ok first)
    (isSecond : ofOctets .flatbuffer octets' = .ok second)
    (differ : Buffer.DifferInFlag key (.ofOctets octets) (.ofOctets octets')) :
    DiffersAt key first second := by
  obtain ⟨root, front, flag, back, root', front', flag', back', isRoot, areFlags, isRoot',
    areFlags', isKey, isKey', agreeFront, agreeBack⟩ := differ
  obtain ⟨entries, made, found⟩ := flag?_ofFlatbuffer isFirst isRoot areFlags
  obtain ⟨entries', made', found'⟩ := flag?_ofFlatbuffer isSecond isRoot' areFlags'
  obtain ⟨before, entry, after, isBefore, isEntry, isAfter, rfl⟩ :=
    Decoded.exists_of_mapM_append_cons made
  obtain ⟨before', entry', after', isBefore', isEntry', isAfter', rfl⟩ :=
    Decoded.exists_of_mapM_append_cons made'
  have sameFront := Decoded.mapM_eq agreeFront fun _ _ => Buffer.AgreeTable.flagEntry
  have sameBack := Decoded.mapM_eq agreeBack fun _ _ => Buffer.AgreeTable.flagEntry
  rw [isBefore, isBefore'] at sameFront
  rw [isAfter, isAfter'] at sameBack
  cases sameFront
  cases sameBack
  rw [Buffer.flagEntry, Buffer.requiredText, isKey] at isEntry
  rw [Buffer.flagEntry, Buffer.requiredText, isKey'] at isEntry'
  cases isEntry
  cases isEntry'
  refine differsAt_of_flag? ?_ ?_ fun other apart => ?_
  · rw [← isSome_flag?_iff, found, ← Dict.mem_keys_iff, Dict.mem_keys_ofList]
    exact ⟨_, List.mem_append_right _ List.mem_cons_self, rfl⟩
  · rw [← isSome_flag?_iff, found', ← Dict.mem_keys_iff, Dict.mem_keys_ofList]
    exact ⟨_, List.mem_append_right _ List.mem_cons_self, rfl⟩
  · rw [found, found', Dict.get?_ofList_replace _ _ apart]

/-! ### One flag at a time -/

/-- **A flag that is replaced does not affect the others.**

In a document any value that the grammar allows may stand in the place of the value of a flag. The
document is still accepted, with the same keys and the same data about itself; every other key gives
the same; and what stands under the key itself is found there, or is the error that it cannot be
decoded. In a message any other record with the same key may stand in the place of a record, however
it is written. Two buffers that list the same flags, but for one with the same key, give the same at
all other keys. -/
theorem replaced_flag_spares_others :
    (∀ {octets catalog key}, ofOctets .json octets = .ok catalog → key ∈ catalog.keys →
      ∃ before raw after stored, octets = before ++ (raw ++ after) ∧ stored.Spells raw ∧
        catalog.flags.get? key = some (.document stored) ∧
        ∀ (value : String) (document : Document), document.SpellsPadded (octetsOf value) →
          ∃ changed, ofOctets .json (before ++ (octetsOf value ++ after)) = .ok changed ∧
            changed.createdAt = catalog.createdAt ∧ changed.environment = catalog.environment ∧
            DiffersAt key catalog changed ∧
            ∀ materialization asked,
              ((Decoder.after changed materialization asked).find key).1 =
                some (RawFlag.document document).decode ∧
              (Flag.read? 0 document = none → ∀ time query subject, query.flagKey = key →
                Configuration.assign
                  (some (.ofFlags (Decoder.after changed materialization asked) time)) query
                  subject = .error .undecodableFlag)) ∧
    (∀ {octets catalog record front flag back}, ofOctets .protobuf octets = .ok catalog →
      ConfigRecord.ofOctets? octets = some record → record.flags = front ++ flag :: back →
      ∃ before written after payload, octets = before ++ (written ++ after) ∧
        Writes (fun _ => false) 100 ⟨3, payload⟩ written ∧ FlagRecord.read? 1 payload = some flag ∧
        ∀ {other new part}, FlagRecord.read? 1 other = some new →
          Writes (fun _ => false) 100 ⟨3, other⟩ part → new.key = flag.key →
            ∃ changed, ofOctets .protobuf (before ++ (part ++ after)) = .ok changed ∧
              changed.createdAt = catalog.createdAt ∧
              changed.environment = catalog.environment ∧ DiffersAt flag.key catalog changed) ∧
    ∀ {octets octets' catalog catalog' key}, ofOctets .flatbuffer octets = .ok catalog →
      ofOctets .flatbuffer octets' = .ok catalog' →
      Buffer.DifferInFlag key (.ofOctets octets) (.ofOctets octets') →
        DiffersAt key catalog catalog' := by
  refine ⟨fun {octets catalog key} isCatalog present => ?_, exists_record_place,
    differsAt_of_differInFlag⟩
  obtain ⟨before, raw, after, stored, same, spelled, isFlag, replace⟩ :=
    exists_flag_place isCatalog present
  refine ⟨before, raw, after, stored, same, spelled, isFlag, fun value document padded => ?_⟩
  have here : (catalog.flags.insert key (.document document)).get? key =
      some (.document document) := by
    rw [Dict.get?_insert, if_pos rfl]
  refine ⟨_, replace padded ⟨value, rfl⟩, rfl, rfl,
    differsAt_of_flag? present ?_ fun other apart => ?_, fun materialization asked => ⟨?_, ?_⟩⟩
  · rw [keys, Dict.mem_keys_iff, here]
    rfl
  · rw [flag?, flag?, Dict.get?_insert, if_neg apart]
  · rw [Decoder.find_after, flag?, here]
    rfl
  · intro unreadable time query subject isKey
    have broken : flag? { catalog with
        octets := before ++ (octetsOf value ++ after)
        flags := catalog.flags.insert key (.document document) } key =
        some (.error .invalidJson) := by
      rw [flag?, here, Option.map_some, RawFlag.decode, unreadable]
    exact assign_of_undecodable broken materialization asked time isKey subject

/-- A document with two values that are no flags. -/
def twoValues : Octets := octetsOf "\x7b\"flags\":\x7b\"a\":0,\"b\":null\x7d\x7d"

/-- A record that has nothing but a key and whether it is enabled. -/
def bareRecord (key : String) (enabled : Bool) : FlagRecord :=
  ⟨key, enabled, 0, [], [], 0, none⟩

/-- A message with two records. -/
def twoRecords : ConfigRecord := ⟨none, none, [bareRecord "a" false, bareRecord "b" false]⟩

/-- A buffer with two tables, of which the first may be enabled. -/
def twoTables (enabled : UInt8) : Octets :=
  [16, 0, 0, 0, 10, 0, 8, 0, 0, 0, 0, 0, 4, 0, 0, 0, 12, 0, 0, 0, 4, 0, 0, 0, 2, 0, 0, 0,
    16, 0, 0, 0, 24, 0, 0, 0, 8, 0, 12, 0, 4, 0, 8, 0, 8, 0, 0, 0, 20, 0, 0, 0, enabled, 0, 0, 0,
    20, 0, 0, 0, 16, 0, 0, 0, 0, 0, 0, 0, 1, 0, 0, 0, 97, 0, 0, 0, 1, 0, 0, 0, 98, 0]

/-- The second tables agree, whether or not the first is enabled. -/
theorem agreeTable_twoTables :
    Buffer.AgreeTable (.ofOctets (twoTables 1)) (.ofOctets (twoTables 0)) .flag 56 56 := by
  have key : (Buffer.ofOctets (twoTables 1)).fieldPosition 56 4 = .ok (some 60) ∧
      (Buffer.ofOctets (twoTables 0)).fieldPosition 56 4 = .ok (some 60) := by decide +kernel
  have enabled : (Buffer.ofOctets (twoTables 1)).fieldPosition 56 6 = .ok (some 64) ∧
      (Buffer.ofOctets (twoTables 0)).fieldPosition 56 6 = .ok (some 64) := by decide +kernel
  have absent : ∀ slot ∈ [8, 10, 12, 14, 16],
      (Buffer.ofOctets (twoTables 1)).fieldPosition 56 slot = .ok none ∧
        (Buffer.ofOctets (twoTables 0)).fieldPosition 56 slot = .ok none := by decide +kernel
  simp only [List.forall_mem_cons, List.not_mem_nil, false_imp_iff, implies_true] at absent
  simp only [Slots.flag, Buffer.AgreeTable, key, enabled, absent, Decoded.Alike, Buffer.Agree]
  exact ⟨⟨⟨⟨⟨⟨⟨trivial, .some (by decide +kernel)⟩, .some (by decide +kernel)⟩, .none⟩, .none⟩,
    .none⟩, .none⟩, .none⟩

/-- A document with a number out of range for a flag, a message with another record and a buffer
with another table. -/
theorem replaced_flag_spares_others_bare :
    (∃ catalog changed before raw after, ofOctets .json twoValues = .ok catalog ∧
      twoValues = before ++ (raw ++ after) ∧
      ofOctets .json (before ++ (octetsOf "1e999" ++ after)) = .ok changed ∧
      DiffersAt "a" catalog changed) ∧
    (∃ catalog changed before written after, ofOctets .protobuf twoRecords.toOctets = .ok catalog ∧
      twoRecords.toOctets = before ++ (written ++ after) ∧
      ofOctets .protobuf
        (before ++ ((messageField 3 (bareRecord "a" true).fields).write ++ after)) = .ok changed ∧
      DiffersAt "a" catalog changed) ∧
    ∃ catalog changed, ofOctets .flatbuffer (twoTables 1) = .ok catalog ∧
      ofOctets .flatbuffer (twoTables 0) = .ok changed ∧ DiffersAt "a" catalog changed := by
  obtain ⟨documents, messages, buffers⟩ := replaced_flag_spares_others
  refine ⟨?_, ?_, ?_⟩
  · obtain ⟨catalog, isCatalog, present⟩ :
        ∃ catalog, ofOctets .json twoValues = .ok catalog ∧ "a" ∈ catalog.keys := by decide +kernel
    obtain ⟨before, raw, after, _, same, _, _, replace⟩ := documents isCatalog present
    obtain ⟨document, isDocument⟩ := Option.isSome_iff_exists.mp
      (show (Document.read? (octetsOf "1e999")).isSome = true by decide +kernel)
    obtain ⟨changed, isChanged, _, _, differs, _⟩ :=
      replace "1e999" document (read?_eq_some_iff.mp isDocument)
    exact ⟨catalog, changed, before, raw, after, isCatalog, same, isChanged, differs⟩
  · obtain ⟨catalog, isCatalog, _⟩ :
        ∃ catalog, ofOctets .protobuf twoRecords.toOctets = .ok catalog ∧ "a" ∈ catalog.keys := by
      decide +kernel
    have isRecord : ConfigRecord.ofOctets? twoRecords.toOctets = some twoRecords := by
      decide +kernel
    obtain ⟨before, written, after, _, same, _, _, replace⟩ :=
      messages isCatalog isRecord
        (show twoRecords.flags = [] ++ bareRecord "a" false :: [bareRecord "b" false] from rfl)
    have isNew : FlagRecord.read? 1 (.delimited (writeFields (bareRecord "a" true).fields)) =
        some (bareRecord "a" true) := by decide +kernel
    have sound : (messageField 3 (bareRecord "a" true).fields).Sound :=
      ⟨by decide, by decide, trivial⟩
    obtain ⟨changed, isChanged, _, _, differs⟩ :=
      replace isNew (sound.writes (fun impossible => by cases impossible) (by decide +kernel)) rfl
    exact ⟨catalog, changed, before, written, after, isCatalog, same, isChanged, differs⟩
  · obtain ⟨first, isFirst, _⟩ : ∃ catalog, ofOctets .flatbuffer (twoTables 1) = .ok catalog ∧
        "a" ∈ catalog.keys := by decide +kernel
    obtain ⟨second, isSecond, _⟩ : ∃ catalog, ofOctets .flatbuffer (twoTables 0) = .ok catalog ∧
        "a" ∈ catalog.keys := by decide +kernel
    refine ⟨first, second, isFirst, isSecond, buffers isFirst isSecond ?_⟩
    exact ⟨16, [], 44, [56], 16, [], 44, [56], by decide +kernel, by decide +kernel,
      by decide +kernel, by decide +kernel, by decide +kernel, by decide +kernel, .nil,
      .cons agreeTable_twoTables .nil⟩

end Catalog

end FeatureFlags
