import FeatureFlags.Proofs.Catalog.Isolation
import FeatureFlags.Proofs.Catalog.Session
import FeatureFlags.Proofs.Flatbuffer.Unchecked
import FeatureFlags.Proofs.Json.Records

/-!
**All views of a catalog agree, and a lookup gives the last flag with the key.**

The octets of a configuration list flags, each under its key, and a key may stand there more than
once. A catalog has the keys of that list and at each of them the flag that is listed last. So the
keys are counted, listed, visited and found alike, whatever was asked before and in whatever order a
caller walks through them. Messages and buffers keep the key inside of the flag itself, so there a
flag that is found bears the key that it was asked for.

* `Catalog.listed?`: the flags that octets list, in their order.
* `Catalog.flags_eq_ofList`: the flags of a catalog are those that its octets list.
* `Decoder.Answer.Fits`, `Catalog.ViewsAgree`: what callers are told, and that it is the same.
* `views_agree_and_the_last_counts`: catalogs of all formats.
-/

namespace FeatureFlags

open Wire

namespace Catalog

/-! ### What octets list -/

/-- The members of a document that is an object, each under its name. -/
def listedMembers? : Document → Option (List (String × RawFlag))
  | .object members => members.mapM fun member =>
      (Document.stringText? member.1).map fun key => (key, .document member.2)
  | _ => none

/-- The flags that octets list, in the order in which they stand there, each under its key: the
members of an object, the messages in a field, or the tables of a vector. -/
def listed? (octets : Octets) : WireFormat → Option (List (String × RawFlag))
  | .json => do
    let document ← Document.read? octets
    let record ← document.readRecord? ["createdAt", "environment", "flags"] 0
    (record.fields.lookup "flags").bind listedMembers?
  | .protobuf => do
    let fields ← readFields? (fun _ => false) 0 octets
    let records ← occurrences fields 3 (FlagRecord.read? 1)
    return records.map fun record => (record.key, .record record)
  | .flatbuffer => do
    let buffer := Buffer.ofOctets octets
    let root ← buffer.root.toOption
    let flags ← (buffer.tables root 8).toOption
    flags.mapM fun flag =>
      (buffer.text? flag 4).toOption.join.map fun key => (key, .table buffer flag)

/-- What reads each item reads the items that a narrower reader reads. -/
theorem mapM_of_narrower {α β : Type} {narrow wide : α → Option β} {items : List α}
    {results : List β} (each : ∀ item result, narrow item = some result → wide item = some result)
    (found : items.mapM narrow = some results) : items.mapM wide = some results := by
  induction items generalizing results with
  | nil => exact found
  | cons item rest ih =>
    rw [List.mapM_cons] at found ⊢
    obtain ⟨first, isFirst, found⟩ := Option.bind_eq_some_iff.mp found
    obtain ⟨others, areOthers, same⟩ := Option.bind_eq_some_iff.mp found
    rw [each item first isFirst, ih areOthers]
    exact same

/-- A map of raw flags has the members of its object. -/
theorem exists_listedMembers? {level : Nat} {document : Document} {flags : Dict RawFlag}
    (areFlags : document.readDict? level (fun _ => rawDocument?) = some flags) :
    ∃ listed, listedMembers? document = some listed ∧ flags = Dict.ofList listed := by
  unfold Document.readDict? at areFlags
  split at areFlags
  case h_2 => cases areFlags
  case h_1 members =>
  obtain ⟨_, areFlags⟩ := Option.ite_none_right_eq_some.mp areFlags
  obtain ⟨entries, areEntries, same⟩ := Option.bind_eq_some_iff.mp areFlags
  cases same
  refine ⟨entries, mapM_of_narrower (fun member entry isEntry => ?_) areEntries, rfl⟩
  obtain ⟨key, isKey, isEntry⟩ := Option.bind_eq_some_iff.mp isEntry
  obtain ⟨raw, isRaw, same⟩ := Option.bind_eq_some_iff.mp isEntry
  cases same
  obtain ⟨_, same⟩ := Option.ite_none_right_eq_some.mp isRaw
  cases same
  rw [isKey]
  rfl

variable {octets : Octets} {catalog : Catalog}

theorem exists_listed_document (accepted : ofOctets .json octets = .ok catalog) :
    ∃ listed, listed? octets .json = some listed ∧ catalog.flags = Dict.ofList listed := by
  rw [ofOctets, ofJson] at accepted
  cases found : readDocument? octets with
  | none =>
    rw [found] at accepted
    cases accepted
  | some made =>
    rw [found] at accepted
    cases accepted
    obtain ⟨document, isDocument, found⟩ := Option.bind_eq_some_iff.mp found
    obtain ⟨record, isRecord, found⟩ := Option.bind_eq_some_iff.mp found
    obtain ⟨createdAt, _, found⟩ := Option.bind_eq_some_iff.mp found
    obtain ⟨environment, _, found⟩ := Option.bind_eq_some_iff.mp found
    obtain ⟨flags, areFlags, same⟩ := Option.bind_eq_some_iff.mp found
    cases same
    obtain ⟨written, isWritten, areFlags⟩ := Option.bind_eq_some_iff.mp areFlags
    obtain ⟨listed, areListed, same⟩ := exists_listedMembers? areFlags
    refine ⟨listed, ?_, same⟩
    simp only [listed?, isDocument, isRecord, isWritten, Option.bind_eq_bind, Option.bind_some,
      areListed]

theorem exists_listed_message (accepted : ofOctets .protobuf octets = .ok catalog) :
    ∃ listed, listed? octets .protobuf = some listed ∧ catalog.flags = Dict.ofList listed := by
  rw [ofOctets, ofProtobuf] at accepted
  split at accepted
  case h_1 => cases accepted
  case h_2 record isRecord =>
  obtain ⟨createdAt, _, same⟩ := Except.bind_eq_ok accepted
  cases same
  obtain ⟨fields, areFields, found⟩ := Option.bind_eq_some_iff.mp isRecord
  obtain ⟨createdMillis, _, found⟩ := Option.bind_eq_some_iff.mp found
  obtain ⟨environment, _, found⟩ := Option.bind_eq_some_iff.mp found
  obtain ⟨flags, areFlags, same⟩ := Option.bind_eq_some_iff.mp found
  cases same
  refine ⟨flags.map fun flag => (flag.key, .record flag), ?_, rfl⟩
  simp only [listed?, areFields, areFlags, Option.bind_eq_bind, Option.bind_some, Option.pure_def]

/-- The tables of an index are listed under their keys. -/
theorem mapM_listed {buffer : Buffer} {flags : List Nat} {index : List (String × Nat)}
    (lists : List.Forall₂ (fun flag entry => entry.2 = flag ∧
      buffer.text? flag 4 = .ok (some entry.1)) flags index) :
    (flags.mapM fun flag => (buffer.text? flag 4).toOption.join.map fun key =>
        (key, RawFlag.table buffer flag)) =
      some (index.map fun entry => (entry.1, .table buffer entry.2)) := by
  induction lists with
  | nil => rfl
  | cons first _ ih =>
    obtain ⟨rfl, isKey⟩ := first
    rw [List.mapM_cons, isKey, ih]
    rfl

theorem exists_listed_buffer (accepted : ofOctets .flatbuffer octets = .ok catalog) :
    ∃ listed, listed? octets .flatbuffer = some listed ∧ catalog.flags = Dict.ofList listed := by
  rw [ofOctets, ofFlatbuffer] at accepted
  split at accepted
  case isFalse => cases accepted
  case isTrue verified =>
  obtain ⟨createdAt, _, accepted⟩ := Except.bind_eq_ok accepted
  obtain ⟨environment, _, accepted⟩ := Except.bind_eq_ok accepted
  obtain ⟨index, isIndex, same⟩ := Except.bind_eq_ok accepted
  cases same
  obtain ⟨root, isRoot, holds⟩ := Buffer.exists_root_of_keepsTo verified
  obtain ⟨flags, made, areFlags, _, isMade, lists⟩ := Buffer.flagIndex_of_holds isRoot holds
  rw [isMade] at isIndex
  cases isIndex
  refine ⟨_, ?_, rfl⟩
  simp only [listed?, isRoot, areFlags, Except.toOption, Option.bind_eq_bind, Option.bind_some]
  exact mapM_listed lists

/-- **The flags of a catalog are those that its octets list**, in each format. -/
theorem exists_listed {format : WireFormat} (accepted : ofOctets format octets = .ok catalog) :
    ∃ listed, listed? octets format = some listed ∧ catalog.flags = Dict.ofList listed := by
  cases format with
  | json => exact exists_listed_document accepted
  | protobuf => exact exists_listed_message accepted
  | flatbuffer => exact exists_listed_buffer accepted

/-! ### The last flag with a key -/

/-- **A catalog has the keys of a list of flags, and at each key the flag that is listed last.** -/
structure Serves (catalog : Catalog) (listed : List (String × RawFlag)) : Prop where
  keys : ∀ key, key ∈ catalog.keys ↔ ∃ raw, (key, raw) ∈ listed
  last : ∀ front key raw back, listed = front ++ (key, raw) :: back →
    (∀ later ∈ back, later.1 ≠ key) → catalog.flag? key = some raw.decode

theorem serves_of_flags {listed : List (String × RawFlag)}
    (same : catalog.flags = Dict.ofList listed) : catalog.Serves listed where
  keys := fun key => by
    rw [Catalog.keys, same, Dict.mem_keys_ofList]
    constructor
    · rintro ⟨entry, inside, rfl⟩
      exact ⟨entry.2, inside⟩
    · rintro ⟨raw, inside⟩
      exact ⟨(key, raw), inside, rfl⟩
  last := by
    rintro front key raw back rfl noneLater
    rw [flag?, same, Dict.ofList_replace_last noneLater raw raw, Dict.get?_insert, if_pos rfl]
    rfl

end Catalog

/-! ### Flags that carry their keys -/

/-- A flag that a message makes has the key of the message. -/
theorem FlagRecord.key_of_toFlag {record : FlagRecord} {flag : Flag}
    (made : record.toFlag = .ok flag) : flag.key = record.key := by
  obtain ⟨variationType, _, made⟩ := Except.bind_eq_ok made
  obtain ⟨variations, _, made⟩ := Except.bind_eq_ok made
  obtain ⟨allocations, _, same⟩ := Except.bind_eq_ok made
  cases same
  rfl

/-- A flag that a table makes has the key of the table. -/
theorem Buffer.key_of_flag {buffer : Buffer} {table : Nat} {flag : Flag}
    (made : buffer.flag table = .ok flag) : buffer.text? table 4 = .ok (some flag.key) := by
  obtain ⟨typeId, _, made⟩ := Except.bind_eq_ok made
  obtain ⟨variationType, _, made⟩ := Except.bind_eq_ok made
  obtain ⟨tables, _, made⟩ := Except.bind_eq_ok made
  obtain ⟨variations, _, made⟩ := Except.bind_eq_ok made
  obtain ⟨tables, _, made⟩ := Except.bind_eq_ok made
  obtain ⟨allocations, _, made⟩ := Except.bind_eq_ok made
  obtain ⟨key, isKey, made⟩ := Except.bind_eq_ok made
  obtain ⟨enabled, _, made⟩ := Except.bind_eq_ok made
  obtain ⟨totalShards, _, made⟩ := Except.bind_eq_ok made
  obtain ⟨entityId, _, same⟩ := Except.bind_eq_ok made
  cases same
  obtain ⟨text, isText, isKey⟩ := Except.bind_eq_ok isKey
  cases text with
  | none => cases isKey
  | some text =>
    cases isKey
    exact isText

namespace Catalog

variable {octets : Octets} {catalog : Catalog}

/-- A flag that is listed bears the key that it is listed under, if it is no document. -/
theorem key_of_listed {format : WireFormat} {listed : List (String × RawFlag)} {key : String}
    {raw : RawFlag} {flag : Flag} (notJson : format ≠ .json)
    (isListed : listed? octets format = some listed) (inside : (key, raw) ∈ listed)
    (made : raw.decode = .ok flag) : flag.key = key := by
  cases format with
  | json => exact absurd rfl notJson
  | protobuf =>
    obtain ⟨fields, _, isListed⟩ := Option.bind_eq_some_iff.mp isListed
    obtain ⟨records, _, same⟩ := Option.bind_eq_some_iff.mp isListed
    cases same
    obtain ⟨record, _, same⟩ := List.mem_map.mp inside
    cases same
    exact FlagRecord.key_of_toFlag made
  | flatbuffer =>
    obtain ⟨root, _, isListed⟩ := Option.bind_eq_some_iff.mp isListed
    obtain ⟨flags, _, isListed⟩ := Option.bind_eq_some_iff.mp isListed
    obtain ⟨table, _, isEntry⟩ := Document.mem_of_mapM isListed inside
    obtain ⟨text, isText, same⟩ := Option.map_eq_some_iff.mp isEntry
    cases same
    rw [Buffer.key_of_flag made] at isText
    exact Option.some.inj isText

/-- What is found in a catalog of messages or tables bears the key that it was asked for. -/
theorem key_of_flag? {format : WireFormat} (accepted : ofOctets format octets = .ok catalog)
    (notJson : format ≠ .json) {key : String} {flag : Flag}
    (found : catalog.flag? key = some (.ok flag)) : flag.key = key := by
  obtain ⟨listed, isListed, same⟩ := exists_listed accepted
  obtain ⟨raw, isRaw, made⟩ := Option.map_eq_some_iff.mp found
  rw [same] at isRaw
  exact key_of_listed notJson isListed (Dict.mem_of_get?_ofList isRaw) made

end Catalog

/-! ### What callers are told -/

namespace Decoder

variable {catalog : Catalog}

/-- **What a caller is told is what a catalog says**: a walk meets each key once, and says of each
what a lookup says. -/
def Answer.Fits (catalog : Catalog) : Request → Answer → Prop
  | .find key, .found result => result = catalog.flag? key
  | .visit, .visited entries => (entries.map Prod.fst).Perm catalog.keys ∧
      ∀ key flag, (key, some flag) ∈ entries ↔ catalog.flag? key = some (.ok flag)
  | .flags, .listed entries => (entries.map Prod.fst).Perm catalog.keys ∧
      ∀ key result, (key, result) ∈ entries ↔ catalog.flag? key = some result
  | .keys, .keys names => names.Perm catalog.keys
  | .count, .count size => size = catalog.keys.length
  | _, _ => False

/-- A walk over all keys with what is found at them meets each flag that there is. -/
theorem mem_walk_iff {walk : List String} (complete : walk.Perm catalog.keys) {key : String}
    {result : Decoded Flag} :
    (key, some result) ∈ walk.map (fun key => (key, catalog.flag? key)) ↔
      catalog.flag? key = some result := by
  rw [List.mem_map]
  constructor
  · rintro ⟨other, _, same⟩
    obtain ⟨rfl, found⟩ := Prod.mk.inj same
    exact found
  · intro found
    refine ⟨key, ?_, by rw [found]⟩
    rw [complete.mem_iff, ← Catalog.isSome_flag?_iff, found]
    rfl

theorem fits_visit {walk : List String} (complete : walk.Perm catalog.keys) :
    (Request.visit.oneShot catalog walk).Fits catalog .visit := by
  refine ⟨?_, fun key flag => ?_⟩
  · rw [List.map_map, Request.lookups, List.map_map]
    exact (List.map_id _).symm ▸ complete
  · rw [← mem_walk_iff complete, List.mem_map]
    constructor
    · rintro ⟨⟨other, found⟩, inside, same⟩
      obtain ⟨rfl, isFlag⟩ := Prod.mk.inj same
      obtain ⟨result, rfl, isFlag⟩ := Option.bind_eq_some_iff.mp isFlag
      cases result with
      | error cause => cases isFlag
      | ok flag =>
        cases isFlag
        exact inside
    · intro inside
      exact ⟨_, inside, rfl⟩

theorem fits_flags {walk : List String} (complete : walk.Perm catalog.keys) :
    (Request.flags.oneShot catalog walk).Fits catalog .flags := by
  have members : ∀ key result, (key, result) ∈ (walk.map fun key => (key, catalog.flag? key)).filterMap
      (fun entry => entry.2.map fun result => (entry.1, result)) ↔
        catalog.flag? key = some result := fun key result => by
    rw [← mem_walk_iff complete, List.mem_filterMap]
    constructor
    · rintro ⟨⟨other, found⟩, inside, same⟩
      obtain ⟨result, rfl, same⟩ := Option.map_eq_some_iff.mp same
      cases same
      exact inside
    · intro inside
      exact ⟨_, inside, rfl⟩
  refine ⟨?_, members⟩
  -- Nothing is left out of the walk, since all its keys are keys of the catalog.
  have whole : ((walk.map fun key => (key, catalog.flag? key)).filterMap
      (fun entry => entry.2.map fun result => (entry.1, result))).map Prod.fst = walk := by
    have present : ∀ key ∈ walk, (catalog.flag? key).isSome := fun key inside =>
      Catalog.isSome_flag?_iff.mpr (complete.mem_iff.mp inside)
    clear members complete
    induction walk with
    | nil => rfl
    | cons key rest ih =>
      obtain ⟨here, later⟩ := List.forall_mem_cons.mp present
      obtain ⟨result, found⟩ := Option.isSome_iff_exists.mp here
      simp only [List.map_cons, found, List.filterMap_cons, Option.map_some, ih later]
  exact whole.symm ▸ complete

/-- **The answer of the catalog itself fits**, in whatever order the caller walks. -/
theorem fits_oneShot (request : Request) (walk : Walk catalog) :
    (request.oneShot catalog walk.keys).Fits catalog request := by
  cases request with
  | find key => exact rfl
  | visit => exact fits_visit walk.complete
  | flags => exact fits_flags walk.complete
  | keys => exact walk.complete
  | count => exact catalog.size_eq_length_keys

/-- Lookups one after another give what the catalog gives. -/
theorem Tallied.findAll_fst {decoder : Decoder} {converted : List String} {notices : List Notice}
    (keys : List String) (tallied : Tallied catalog decoder converted notices) :
    (decoder.findAll keys).1 = keys.map fun key => (key, catalog.flag? key) := by
  induction keys generalizing decoder converted notices with
  | nil => rfl
  | cons key rest ih =>
    simp only [Decoder.findAll, find_eq_settle, tallied.settle_fst key, ih (tallied.settle key),
      List.map_cons]

/-- **A visit tells of each key, in order, what the catalog gives**, whatever was looked up before. -/
theorem visit_after (catalog : Catalog) (materialization : Materialization)
    (asked : List String) :
    ((after catalog materialization asked).visit).1 =
      catalog.keys.map fun key => (key, (catalog.flag? key).bind Except.toOption) := by
  have tallied := ((Tallied.ofCatalog catalog materialization).findAll asked).1
  have walked := tallied.findAll_fst (after catalog materialization asked).catalog.keys
  have same : (after catalog materialization asked).catalog = catalog := tallied.source
  rw [same] at walked
  simp only [visit, same]
  rw [show ((after catalog materialization asked).findAll catalog.keys).1 = _ from walked,
    List.map_map]
  rfl

end Decoder

/-- **All views of a catalog agree**, whenever its flags are decoded, whatever was looked up before,
and however several callers ask at once. -/
structure Catalog.ViewsAgree (catalog : Catalog) : Prop where
  distinct : catalog.keys.Nodup
  counted : catalog.size = catalog.keys.length
  found : ∀ key, (catalog.flag? key).isSome ↔ key ∈ catalog.keys
  lookups : ∀ materialization asked key,
    ((Decoder.after catalog materialization asked).find key).1 = catalog.flag? key
  visits : ∀ materialization asked, ((Decoder.after catalog materialization asked).visit).1 =
    catalog.keys.map fun key => (key, (catalog.flag? key).bind Except.toOption)
  replies : ∀ materialization (events : List (Decoder.Event catalog)),
    ∀ reply ∈ ((Decoder.Session.opened catalog materialization).run events).answered,
      reply.answer.Fits catalog reply.request

theorem Catalog.viewsAgree (catalog : Catalog) : catalog.ViewsAgree where
  distinct := catalog.flags.keys_nodup
  counted := catalog.size_eq_length_keys
  found := fun _ => Catalog.isSome_flag?_iff
  lookups := Decoder.find_after catalog
  visits := Decoder.visit_after catalog
  replies := fun materialization events reply member => by
    obtain ⟨walk, isOneShot⟩ :=
      ((Decoder.Session.sound_opened catalog materialization).run events).answered reply member
    rw [isOneShot]
    exact Decoder.fits_oneShot reply.request walk

/-! ### Catalogs of all formats -/

/-- **All views of a configuration agree, and a lookup gives the right flag.** Whenever the flags are
decoded, each key is counted, listed and visited once, found exactly if it is one of the keys, and
visited with the flag that a lookup gives. Of several flags that the octets list under one key the
last one counts; and in messages and buffers a flag that is found bears the key itself. -/
theorem views_agree_and_the_last_counts {format : WireFormat} {octets : Octets} {catalog : Catalog}
    (accepted : Catalog.ofOctets format octets = .ok catalog) :
    (∀ materialization, Decoder.ofOctets format octets materialization =
      .ok (Decoder.ofCatalog catalog materialization)) ∧
    catalog.ViewsAgree ∧
    (∃ listed, Catalog.listed? octets format = some listed ∧ catalog.Serves listed) ∧
    (format ≠ .json → ∀ key flag, catalog.flag? key = some (.ok flag) → flag.key = key) := by
  refine ⟨fun materialization => ?_, catalog.viewsAgree, ?_,
    fun notJson key flag => Catalog.key_of_flag? accepted notJson⟩
  · rw [Decoder.ofOctets, accepted]
    rfl
  · obtain ⟨listed, isListed, same⟩ := Catalog.exists_listed accepted
    exact ⟨listed, isListed, Catalog.serves_of_flags same⟩

/-- A message with two flags under the key `a` and one under the empty key. -/
def Catalog.repeatedKey : Octets :=
  [26, 7, 10, 1, 97, 24, 1, 48, 5, 26, 2, 24, 1, 26, 7, 10, 1, 97, 24, 1, 48, 9]

theorem views_agree_and_the_last_counts_repeated :
    ∃ catalog flag, Catalog.ofOctets .protobuf Catalog.repeatedKey = .ok catalog ∧
      catalog.size = 2 ∧ catalog.keys.Nodup ∧ catalog.flag? "a" = some (.ok flag) ∧
      flag.key = "a" ∧ flag.totalShards = 9 := by
  obtain ⟨catalog, accepted, keys⟩ : ∃ catalog,
      Catalog.ofOctets .protobuf Catalog.repeatedKey = .ok catalog ∧ catalog.keys = ["", "a"] := by
    decide +kernel
  obtain ⟨-, agree, ⟨listed, isListed, serves⟩, keyed⟩ := views_agree_and_the_last_counts accepted
  have listedLast : listed = [("a", .record ⟨"a", false, 1, [], [], 5, none⟩),
      ("", .record ⟨"", false, 1, [], [], 0, none⟩)] ++
      ("a", .record ⟨"a", false, 1, [], [], 9, none⟩) :: [] :=
    Option.some.inj (isListed.symm.trans (by rfl))
  have found := serves.last _ _ _ _ listedLast (fun later inside => by cases inside)
  have isFlag : (RawFlag.record ⟨"a", false, 1, [], [], 9, none⟩).decode =
      .ok ⟨"a", false, .string, Dict.empty, [], 9, none⟩ := by rfl
  rw [isFlag] at found
  refine ⟨catalog, _, accepted, ?_, agree.distinct, found, keyed (by decide) _ _ found, rfl⟩
  rw [agree.counted, keys]
  rfl

end FeatureFlags
