import FeatureFlags.Proofs.Json.Places
import FeatureFlags.Proofs.Json.Records

/-!
**What is read back in whatever order members are written.**

The members of an object that is made of a map come in whatever order the map is walked. A form of a
value is the value with the members of each of its objects in some order. A record finds its fields
by their names and a map is made of its entries in any order, so what is read of one form is read of
all of them.

* `Json.HasForm`: the forms of a value.
* `Json.Restores`: every form of a value is read as one content.
* `Json.restores_list`, `Json.restores_dict`: lists and maps of what is restored.
* `Json.exists_record_of_hasForm`, `Record.Holds.require`: records of what is restored.
-/

namespace FeatureFlags

open Document

namespace Json

/-! ### Forms -/

mutual

/-- Whether a value is another one with the members of each object in some order. -/
def HasForm : Json → Json → Prop
  | .array items, form => ∃ others, form = .array others ∧ ItemsHaveForm items others
  | .object members, form =>
    ∃ listed others, form = .object others ∧ others.Perm listed ∧ MembersHaveForm members listed
  | value, form => form = value

/-- `HasForm` item by item. -/
def ItemsHaveForm : List Json → List Json → Prop
  | [], others => others = []
  | item :: rest, others =>
    ∃ form later, others = form :: later ∧ item.HasForm form ∧ ItemsHaveForm rest later

/-- `HasForm` member by member. -/
def MembersHaveForm : List (String × Json) → List (String × Json) → Prop
  | [], others => others = []
  | (key, value) :: rest, others =>
    ∃ form later, others = (key, form) :: later ∧ value.HasForm form ∧ MembersHaveForm rest later

end

theorem itemsHaveForm_iff {items others : List Json} :
    ItemsHaveForm items others ↔ List.Forall₂ HasForm items others := by
  induction items generalizing others with
  | nil => rw [ItemsHaveForm, List.forall₂_nil_left_iff]
  | cons item rest ih =>
    rw [ItemsHaveForm, List.forall₂_cons_left_iff]
    constructor
    · rintro ⟨form, later, same, isForm, forms⟩
      exact ⟨form, later, isForm, ih.mp forms, same⟩
    · rintro ⟨form, later, isForm, forms, same⟩
      exact ⟨form, later, same, isForm, ih.mpr forms⟩

theorem membersHaveForm_iff {members others : List (String × Json)} :
    MembersHaveForm members others ↔
      List.Forall₂ (fun member other => other.1 = member.1 ∧ member.2.HasForm other.2)
        members others := by
  induction members generalizing others with
  | nil => rw [MembersHaveForm, List.forall₂_nil_left_iff]
  | cons member rest ih =>
    obtain ⟨key, value⟩ := member
    rw [MembersHaveForm, List.forall₂_cons_left_iff]
    constructor
    · rintro ⟨form, later, same, isForm, forms⟩
      exact ⟨(key, form), later, ⟨rfl, isForm⟩, ih.mp forms, same⟩
    · rintro ⟨⟨name, form⟩, later, ⟨rfl, isForm⟩, forms, same⟩
      exact ⟨form, later, same, isForm, ih.mpr forms⟩

/-- **The members of a form come from a walk over what the object was made of.** -/
theorem exists_walk_of_hasForm {β : Type} {items : List β} {member : β → String × Json}
    {form : Json} (isForm : (Json.object (items.map member)).HasForm form) :
    ∃ walk others, form = .object others ∧ walk.Perm items ∧
      List.Forall₂ (fun item other => other.1 = (member item).1 ∧ (member item).2.HasForm other.2)
        walk others := by
  rw [HasForm] at isForm
  obtain ⟨listed, others, same, shuffled, forms⟩ := isForm
  rw [membersHaveForm_iff, List.forall₂_map_left_iff] at forms
  obtain ⟨walk, paired, walked⟩ := List.perm_comp_forall₂ shuffled forms.flip
  exact ⟨walk, others, same, walked, paired.flip⟩

/-- What is paired item by item has a partner. -/
theorem exists_paired {β γ : Type} {related : β → γ → Prop} {items : List β} {others : List γ}
    (paired : List.Forall₂ related items others) {item : β} (inside : item ∈ items) :
    ∃ other ∈ others, related item other := by
  induction paired with
  | nil => cases inside
  | cons first _ ih =>
    obtain rfl | later := List.mem_cons.mp inside
    · exact ⟨_, List.mem_cons_self, first⟩
    · obtain ⟨other, isOther, isRelated⟩ := ih later
      exact ⟨other, List.mem_cons_of_mem _ isOther, isRelated⟩

mutual

/-- A value is a form of itself. -/
theorem HasForm.refl : ∀ value : Json, value.HasForm value
  | .null => rfl
  | .bool _ => rfl
  | .number _ => rfl
  | .string _ => rfl
  | .array items => ⟨items, rfl, ItemsHaveForm.refl items⟩
  | .object members => ⟨members, members, rfl, .refl members, MembersHaveForm.refl members⟩

/-- `HasForm.refl` for items. -/
theorem ItemsHaveForm.refl : ∀ items : List Json, ItemsHaveForm items items
  | [] => rfl
  | item :: rest => ⟨item, rest, rfl, HasForm.refl item, ItemsHaveForm.refl rest⟩

/-- `HasForm.refl` for members. -/
theorem MembersHaveForm.refl : ∀ members : List (String × Json), MembersHaveForm members members
  | [] => rfl
  | (_, value) :: rest => ⟨value, rest, rfl, HasForm.refl value, MembersHaveForm.refl rest⟩

end

/-! ### Values that are read back -/

variable {α : Type}

/-- **Every form of a value is read as one content.** -/
def Restores (value : Json) (read : Document → Option α) (content : α) : Prop :=
  ∀ form, value.HasForm form → read form.document = some content

/-- A value with no other form is restored if it is read back. -/
theorem restores_of_alone {value : Json} {read : Document → Option α} {content : α}
    (alone : ∀ form, value.HasForm form → form = value)
    (found : read value.document = some content) : value.Restores read content := by
  intro form isForm
  rw [alone form isForm, found]

theorem restores_string (text : String) : (Json.string text).Restores readString? text :=
  restores_of_alone (fun _ same => same) (readString?_document text)

theorem restores_bool (value : Bool) : (Json.bool value).Restores readBool? value :=
  restores_of_alone (fun _ same => same) (readBool?_document value)

/-- An instant that may be missing is restored as null or as a text. -/
theorem restores_instant? {instant : Option Instant} (valid : ∀ item ∈ instant, item.IsValid) :
    (nullOr Instant.toJson instant).Restores (readNullable? Instant.read?) instant := by
  refine restores_of_alone (fun form isForm => ?_)
    (readNullable?_nullOr (fun item _ => ⟨item.text, rfl⟩) fun item present =>
      read?_instant (valid item present))
  cases instant with
  | none => exact isForm
  | some item => exact isForm

variable {level : Nat} {read : Nat → Document → Option α} {toJson : α → Json}

/-- **A list is restored if each of its items is.** -/
theorem restores_list (inside : level < nestingLimit) {items : List α}
    (each : ∀ item ∈ items, (toJson item).Restores (read (level + 1)) item) :
    (Json.array (items.map toJson)).Restores (readList? level read) items := by
  intro form isForm
  rw [HasForm] at isForm
  obtain ⟨others, rfl, forms⟩ := isForm
  rw [itemsHaveForm_iff, List.forall₂_map_left_iff] at forms
  rw [document, readList?, if_pos inside]
  induction forms with
  | nil => rfl
  | cons isForm _ ih =>
    obtain ⟨first, rest⟩ := List.forall_mem_cons.mp each
    rw [itemDocuments, List.mapM_cons, first _ isForm, ih rest]
    rfl

/-- Members are read one by one. -/
theorem mapM_readMember?_memberDocuments {members : List (String × Json)}
    {entries : List (String × α)}
    (each : List.Forall₂ (fun entry member => member.1 = entry.1 ∧
      read (level + 1) member.2.document = some entry.2) entries members) :
    (memberDocuments members).mapM (readMember? level read) = some entries := by
  induction each with
  | nil => rfl
  | @cons entry member _ _ first _ ih =>
    obtain ⟨key, value⟩ := member
    rw [memberDocuments, List.mapM_cons, readMember?_eq_some_iff.mpr first, ih]
    rfl

theorem readDict?_object (inside : level < nestingLimit) {members : List (String × Json)}
    {entries : List (String × α)}
    (found : (memberDocuments members).mapM (readMember? level read) = some entries) :
    (Json.object members).document.readDict? level read = some (Dict.ofList entries) := by
  have read : readDict? level read (.object (memberDocuments members)) =
      ((memberDocuments members).mapM (readMember? level read)).map Dict.ofList := by
    rw [readDict?, if_pos inside]
    exact Option.map_eq_bind.symm
  rw [document, read, found, Option.map_some]

/-- **A map is restored if each of its values is.** -/
theorem restores_dict (inside : level < nestingLimit) {dict : Dict α}
    (each : ∀ entry ∈ dict.entries, (toJson entry.2).Restores (read (level + 1)) entry.2) :
    (dict.toJson toJson).Restores (readDict? level read) dict := by
  intro form isForm
  obtain ⟨walk, others, rfl, walked, forms⟩ := exists_walk_of_hasForm isForm
  have found : (memberDocuments others).mapM (readMember? level read) = some walk := by
    refine mapM_readMember?_memberDocuments ?_
    rw [List.forall₂_iff_zip] at forms ⊢
    refine ⟨forms.1, fun {entry member} paired => ?_⟩
    obtain ⟨named, isForm⟩ := forms.2 paired
    exact ⟨named, each entry (walked.mem_iff.mp (List.of_mem_zip paired).1) _ isForm⟩
  rw [readDict?_object inside found, Dict.ofList_eq_of_perm walked]

/-! ### Records -/

end Json

/-- **The fields of a record are forms of the members of an object**, and no others. -/
structure Record.Holds (record : Record) (level : Nat) (members : List (String × Json)) :
    Prop where
  level : record.level = level
  present : ∀ name value, (name, value) ∈ members →
    ∃ form, value.HasForm form ∧ record.fields.lookup name = some form.document
  absent : ∀ name, name ∉ members.map Prod.fst → record.fields.lookup name = none

namespace Record.Holds

variable {α : Type} {record : Record} {level : Nat} {members : List (String × Json)}
  {name : String} {value : Json}

theorem require {read : Nat → Document → Option α} {content : α}
    (holds : record.Holds level members) (listed : (name, value) ∈ members)
    (restored : value.Restores (read level) content) : record.require name read = some content := by
  obtain ⟨form, isForm, found⟩ := holds.present name value listed
  rw [Record.require_of_lookup found, holds.level, restored form isForm]

theorem optional {read : Nat → Document → Option α} {content : α}
    (holds : record.Holds level members) (default : α) (listed : (name, value) ∈ members)
    (restored : value.Restores (read level) content) :
    record.optional name default read = some content := by
  obtain ⟨form, isForm, found⟩ := holds.present name value listed
  rw [Record.optional, found, holds.level]
  exact restored form isForm

theorem nullable {read : Nat → Document → Option α} {content : Option α}
    (holds : record.Holds level members) (listed : (name, value) ∈ members)
    (restored : value.Restores (readNullable? (read level)) content) :
    record.nullable name read = some content :=
  holds.optional none listed restored

/-- What was not written is missing. -/
theorem nullable_of_absent (holds : record.Holds level members)
    (unlisted : name ∉ members.map Prod.fst) (read : Nat → Document → Option α) :
    record.nullable name read = some none := by
  rw [Record.nullable, Record.optional, holds.absent name unlisted]

end Record.Holds

namespace Json

variable {level : Nat} {members : List (String × Json)} {names : List String} {value form : Json}

/-- What stands under a key that no other member bears is found there. -/
theorem lookup_of_distinct {name : String} (distinct : (members.map Prod.fst).Nodup)
    (listed : (name, value) ∈ members) :
    (members.map fun member => (member.1, member.2.document)).lookup name =
      some value.document := by
  obtain ⟨front, back, rfl⟩ := List.append_of_mem listed
  rw [List.map_append, List.map_cons, List.nodup_append] at distinct
  refine List.lookup_eq_some_iff.mpr ⟨front.map fun member => (member.1, member.2.document),
    back.map fun member => (member.1, member.2.document), by simp, fun field inside => ?_⟩
  obtain ⟨member, isMember, rfl⟩ := List.mem_map.mp inside
  exact bne_iff_ne.mpr fun same => distinct.2.2 member.1 (List.mem_map_of_mem isMember) name
    List.mem_cons_self same.symm

/-- **Every form of an object is read as a record**, if it has fields of the record and each once. -/
theorem exists_record_of_hasForm (inside : level < nestingLimit)
    (known : ∀ member ∈ members, member.1 ∈ names) (once : (members.map Prod.fst).Nodup)
    (isForm : (Json.object members).HasForm form) :
    ∃ record, form.document.readRecord? names level = some record ∧
      record.Holds (level + 1) members := by
  rw [← List.map_id members] at isForm
  obtain ⟨walk, others, rfl, walked, forms⟩ := exists_walk_of_hasForm isForm
  have keys : others.map Prod.fst = walk.map Prod.fst := by
    rw [← List.forall₂_eq_eq_eq, List.forall₂_map_left_iff, List.forall₂_map_right_iff]
    exact forms.flip.imp fun other member paired => paired.1
  have shuffled : (others.map Prod.fst).Perm (members.map Prod.fst) := keys ▸ walked.map Prod.fst
  have distinct : (others.map Prod.fst).Nodup := shuffled.nodup_iff.mpr once
  have named : ∀ other ∈ others, other.1 ∈ names := fun other inside => by
    obtain ⟨member, listed, same⟩ :=
      List.mem_map.mp (shuffled.mem_iff.mp (List.mem_map_of_mem inside))
    exact same ▸ known member listed
  refine ⟨_, readRecord?_document inside named distinct, rfl, fun name value listed => ?_,
    fun name unlisted => ?_⟩
  · obtain ⟨⟨_, form⟩, isOther, rfl, isForm⟩ := exists_paired forms (walked.mem_iff.mpr listed)
    exact ⟨form, isForm, lookup_of_distinct distinct isOther⟩
  · rw [List.lookup_eq_none_iff]
    intro field inside
    obtain ⟨other, listed, rfl⟩ := List.mem_map.mp inside
    refine bne_iff_ne.mpr fun same => unlisted ?_
    exact shuffled.mem_iff.mp (same ▸ List.mem_map_of_mem listed)

end Json

end FeatureFlags
