import FeatureFlags.Flag.Json
import FeatureFlags.Proofs.Instant.Text
import FeatureFlags.Proofs.Json.Restoring

/-!
**Records and maps are read back part by part.**

The document of a record has a member for each field that was written, under the name of the field,
and the document of a map has a member for each entry, in order. So a record or a map is read back
exactly if each of its parts is.

* `Document.readRecord?_document`: the fields of a record.
* `Document.readDict?_document`: a map is read back exactly if each of its values is.
-/

namespace FeatureFlags

namespace Document

/-! ### Scalars -/

@[simp] theorem readString?_document (text : String) :
    (Json.string text).document.readString? = some text :=
  stringText?_escaped text

@[simp] theorem readBool?_document (value : Bool) :
    (Json.bool value).document.readBool? = some value := by
  simp [Json.document, readBool?]

@[simp] theorem readName?_document (level : Nat) (name : String) :
    (Json.string name).document.readName? level = some name := by
  simp [Json.document, readName?, stringText?_escaped]

theorem read?_instant {instant : Instant} (valid : instant.IsValid) :
    Instant.read? instant.toJson.document = some instant := by
  rw [Instant.read?, Instant.toJson, readString?_document, Option.bind_eq_bind, Option.bind_some,
    Instant.ofText?_text valid]

/-- What may be missing is read back exactly if it is missing or read back. -/
theorem readNullable?_nullOr {α : Type} {read : Document → Option α} {toJson : α → Json}
    {value : Option α} (present : ∀ item ∈ value, ∃ text, toJson item = .string text)
    (each : ∀ item ∈ value, read (toJson item).document = some item) :
    (nullOr toJson value).document.readNullable? read = some value := by
  cases value with
  | none => simp [nullOr, Json.document, readNullable?]
  | some item =>
    obtain ⟨text, string⟩ := present item rfl
    have found := each item rfl
    rw [string] at found
    simp only [Json.document] at found
    simp [nullOr, string, Json.document, readNullable?, found]

theorem readNullable?_object {α : Type} (read : Document → Option α)
    (members : List (String × Json)) :
    (Json.object members).document.readNullable? read =
      (read (Json.object members).document).map some := by
  simp only [Json.document, readNullable?]

@[simp] theorem readNullable?_text? (text : Option String) :
    (Json.text? text).document.readNullable? readString? = some text := by
  cases text with
  | none => simp [Json.text?, Json.document, readNullable?]
  | some text =>
    simp [Json.text?, Json.document, readNullable?, readString?, stringText?_escaped]

/-! ### Records -/

variable {level : Nat} {members : List (String × Json)} {names : List String}

theorem knownMembers?_memberDocuments (known : ∀ member ∈ members, member.1 ∈ names)
    (once : (members.map Prod.fst).Nodup) :
    knownMembers? (fun key => if names.contains key then some key else none)
        (Json.memberDocuments members) =
      some (members.map fun member => (member.1, member.2.document)) := by
  induction members with
  | nil => rfl
  | cons member rest ih =>
    obtain ⟨key, value⟩ := member
    obtain ⟨present, others⟩ := List.forall_mem_cons.mp known
    obtain ⟨new, rest_once⟩ := List.nodup_cons.mp once
    have absent : (rest.map fun member => (member.1, member.2.document)).lookup key = none := by
      rw [List.lookup_eq_none_iff]
      intro pair inside
      obtain ⟨member, listed, rfl⟩ := List.mem_map.mp inside
      exact bne_iff_ne.mpr fun same => new (List.mem_map.mpr ⟨member, listed, same.symm⟩)
    simp only [Json.memberDocuments, knownMembers?, stringText?_escaped, ih others rest_once]
    simp [present, absent]

/-- The fields of a record are the members that were written. -/
theorem readRecord?_document (inside : level < nestingLimit)
    (known : ∀ member ∈ members, member.1 ∈ names) (once : (members.map Prod.fst).Nodup) :
    (Json.object members).document.readRecord? names level =
      some ⟨level + 1, members.map fun member => (member.1, member.2.document)⟩ := by
  have fields := knownMembers?_memberDocuments known once
  have document : (Json.object members).document = .object (Json.memberDocuments members) := by
    simp only [Json.document]
  rw [document, readRecord?, readRecordWith?, if_pos inside, fields]
  rfl

/-! ### Maps -/

variable {α : Type} {read : Nat → Document → Option α} {toJson : α → Json}

/-- The reader of the members of a map. -/
def readMember? (level : Nat) (read : Nat → Document → Option α) (member : Octets × Document) :
    Option (String × α) := do
  let key ← stringText? member.1
  let value ← read (level + 1) member.2
  return (key, value)

theorem readMember?_eq_some_iff {key : String} {document : Document} {entry : String × α} :
    readMember? level read (escaped key, document) = some entry ↔
      key = entry.1 ∧ read (level + 1) document = some entry.2 := by
  obtain ⟨name, value⟩ := entry
  simp [readMember?, stringText?_escaped, Option.bind_eq_some_iff, and_comm]

/-- The members of a map are read under the keys that they were written with, and each is read back
if all are. -/
theorem mapM_readMember?_eq_some_iff {entries found : List (String × α)} :
    (Json.memberDocuments (entries.map fun entry => (entry.1, toJson entry.2))).mapM
        (readMember? level read) = some found ↔
      List.Forall₂ (fun entry other =>
        entry.1 = other.1 ∧ read (level + 1) (toJson entry.2).document = some other.2)
        entries found := by
  induction entries generalizing found with
  | nil => simp [Json.memberDocuments, eq_comm]
  | cons entry rest ih =>
    simp only [List.map_cons, Json.memberDocuments, List.mapM_cons, Option.pure_def,
      Option.bind_eq_bind, Option.bind_eq_some_iff, readMember?_eq_some_iff, ih]
    constructor
    · rintro ⟨other, same, others, each, ⟨⟩⟩
      exact .cons same each
    · rintro (_ | ⟨same, each⟩)
      exact ⟨_, same, _, each, rfl⟩

/-- A map is read member by member. -/
theorem readDict?_eq_map_mapM (inside : level < nestingLimit) (dict : Dict α) :
    (dict.toJson toJson).document.readDict? level read =
      ((Json.memberDocuments (dict.entries.map fun entry => (entry.1, toJson entry.2))).mapM
        (readMember? level read)).map Dict.ofList := by
  simp only [Dict.toJson, Json.document, readDict?, inside, if_true]
  exact Option.map_eq_bind.symm

/-- Every value of a map that is read was read from a value that was written. -/
theorem exists_of_readDict?_document (inside : level < nestingLimit) {written dict : Dict α}
    (found : (written.toJson toJson).document.readDict? level read = some dict)
    {entry : String × α} (member : entry ∈ dict.entries) :
    ∃ source ∈ written.entries, read (level + 1) (toJson source.2).document = some entry.2 := by
  rw [readDict?_eq_map_mapM inside, Option.map_eq_some_iff] at found
  obtain ⟨entries, areEntries, rfl⟩ := found
  have each := mapM_readMember?_eq_some_iff.mp areEntries
  obtain ⟨place, inside, rfl⟩ := List.mem_iff_getElem.mp (Dict.mem_of_mem_ofList member)
  exact ⟨_, List.getElem_mem (each.length_eq ▸ inside), (each.get _ inside).2⟩

/-- **A map is read back exactly if each of its values is.** -/
theorem readDict?_document (inside : level < nestingLimit) (dict : Dict α) :
    (dict.toJson toJson).document.readDict? level read = some dict ↔
      ∀ entry ∈ dict.entries, read (level + 1) (toJson entry.2).document = some entry.2 := by
  rw [readDict?_eq_map_mapM inside, Option.map_eq_some_iff]
  constructor
  · rintro ⟨found, each, same⟩
    have each := mapM_readMember?_eq_some_iff.mp each
    have keys : dict.entries.map Prod.fst = found.map Prod.fst :=
      List.forall₂_eq_eq_eq ▸ (List.forall₂_map_left_iff.mpr
        (List.forall₂_map_right_iff.mpr (each.imp fun _ _ both => both.1)))
    have ordered : found.Pairwise fun first second => first.1 < second.1 := by
      have in_order := dict.keys_ordered
      rw [Dict.keys, keys] at in_order
      exact List.pairwise_map.mp in_order
    -- what was found is in order, so that it is the map itself
    have whole : found = dict.entries := by
      rw [← same]
      exact (congrArg Dict.entries (Dict.ofList_entries ⟨found, ordered⟩)).symm
    rw [whole] at each
    exact fun entry member => (List.forall₂_same.mp each entry member).2
  · intro each
    refine ⟨dict.entries, mapM_readMember?_eq_some_iff.mpr ?_, Dict.ofList_entries dict⟩
    exact List.forall₂_same.mpr fun entry member => ⟨rfl, each entry member⟩

/-! ### What is read -/

theorem mem_of_mapM {β : Type} {items : List β} {each : β → Option α} {results : List α}
    (found : items.mapM each = some results) {result : α} (member : result ∈ results) :
    ∃ item ∈ items, each item = some result := by
  induction items generalizing results with
  | nil =>
    cases found
    cases member
  | cons item rest ih =>
    rw [List.mapM_cons] at found
    obtain ⟨first, isFirst, found⟩ := Option.bind_eq_some_iff.mp found
    obtain ⟨others, areOthers, same⟩ := Option.bind_eq_some_iff.mp found
    cases same
    rcases List.mem_cons.mp member with rfl | inside
    · exact ⟨item, List.mem_cons_self, isFirst⟩
    · obtain ⟨other, listed, isOther⟩ := ih areOthers inside
      exact ⟨other, List.mem_cons_of_mem _ listed, isOther⟩

/-- Every value of a map was read from a document. -/
theorem exists_of_readDict? {document : Document} {dict : Dict α}
    (found : document.readDict? level read = some dict) {entry : String × α}
    (member : entry ∈ dict.entries) : ∃ value, read (level + 1) value = some entry.2 := by
  unfold readDict? at found
  split at found
  · obtain ⟨_, found⟩ := Option.ite_none_right_eq_some.mp found
    obtain ⟨entries, areEntries, same⟩ := Option.bind_eq_some_iff.mp found
    cases same
    obtain ⟨source, _, isRead⟩ := mem_of_mapM areEntries (Dict.mem_of_mem_ofList member)
    obtain ⟨key, _, isRead⟩ := Option.bind_eq_some_iff.mp isRead
    obtain ⟨value, isValue, same⟩ := Option.bind_eq_some_iff.mp isRead
    cases same
    exact ⟨source.2, isValue⟩
  · cases found

/-- What is read of a value that may be missing was read from a document. -/
theorem exists_of_readNullable? {read : Document → Option α} {document : Document}
    {value : Option α} (found : document.readNullable? read = some value) {item : α}
    (present : item ∈ value) : ∃ document, read document = some item := by
  unfold readNullable? at found
  split at found
  · cases found
    cases present
  · obtain ⟨_, isRead, rfl⟩ := Option.map_eq_some_iff.mp found
    cases present
    exact ⟨_, isRead⟩

end Document

theorem Record.exists_of_require {α : Type} {record : Record} {name : String}
    {read : Nat → Document → Option α} {value : α}
    (found : record.require name read = some value) :
    ∃ document, read record.level document = some value := by
  obtain ⟨document, _, isRead⟩ := Option.bind_eq_some_iff.mp found
  exact ⟨document, isRead⟩

theorem Record.exists_of_nullable {α : Type} {record : Record} {name : String}
    {read : Nat → Document → Option α} {value : Option α}
    (found : record.nullable name read = some value) {item : α} (present : item ∈ value) :
    ∃ document, read record.level document = some item := by
  unfold nullable optional at found
  split at found
  · cases found
    cases present
  · exact Document.exists_of_readNullable? found present

end FeatureFlags
