import FeatureFlags.Proofs.Json.Insertion

/-!
**What readers make of a document when one part of it is exchanged.**

A part of a document stands in a field of a record, which may be written as an object or as an
array, or among the items of a list or the entries of a map. A reader of the whole looks at the part
through the reader of the part alone, so the whole is read alike if the part is.

* `Document.FieldPlace`, `Document.EntryPlace`: the places of parts.
* `Document.HasPart.exists_text_place`: the place of a part in a text.
* `Document.FieldPlace.readRecord?`: records that differ in one field.
* `Document.EntryPlace.read?_congr`: lists and maps in which a part is exchanged for one that is read
  alike.
* `Document.exists_listed_part`: what is listed in a field has its place, and is changed there.
-/

namespace FeatureFlags

namespace Document

/-! ### Places -/

/-- The documents of a record with some value in one of its fields: an object with a member of this
name, or an array with an item where the field is declared. -/
inductive FieldPlace (names : List String) (name : String) : (Document → Document) → Prop
  | member (front back : List (Octets × Document)) (key : Octets)
      (isName : stringText? key = some name) :
      FieldPlace names name fun hole => .object (front ++ (key, hole) :: back)
  | item (front back : List Document) (isName : names[front.length]? = some name) :
      FieldPlace names name fun hole => .array (front ++ hole :: back)

/-- How a field holds its parts. -/
inductive Holding where
  | list
  | map

/-- The documents of a list or a map with some value at one of its places, counted from zero. -/
inductive EntryPlace : Holding → Nat → (Document → Document) → Prop
  | item (front back : List Document) :
      EntryPlace .list front.length fun hole => .array (front ++ hole :: back)
  | entry (front back : List (Octets × Document)) (key : Octets) :
      EntryPlace .map front.length fun hole => .object (front ++ (key, hole) :: back)

variable {names : List String} {name : String} {fill : Document → Document}

/-- A document is a part of itself. -/
theorem hasPart_self (document : Document) : document.HasPart document fun hole => hole := by
  intro octets spelled
  refine ⟨[], octets, [], by simp, spelled, fun other others padded => ?_⟩
  rwa [List.nil_append, List.append_nil]

theorem FieldPlace.hasPart (place : FieldPlace names name fill) (part : Document) :
    (fill part).HasPart part fill := by
  cases place with
  | member front back key => exact hasPart_member front back key part
  | item front back => exact hasPart_item front back part

theorem EntryPlace.hasPart {holding : Holding} {index : Nat}
    (place : EntryPlace holding index fill) (part : Document) :
    (fill part).HasPart part fill := by
  cases place with
  | item front back => exact hasPart_item front back part
  | entry front back key => exact hasPart_member front back key part

/-- **The place of a part in a text**, the blanks around it aside. -/
theorem HasPart.exists_text_place {document part : Document} {text : String}
    (isPart : document.HasPart part fill) (isDocument : read? (octetsOf text) = some document) :
    ∃ before written after : String, text = before ++ written ++ after ∧
      part.Spells (octetsOf written) ∧
      ∀ {other : Document} {new : String}, other.SpellsPadded (octetsOf new) →
        read? (octetsOf (before ++ new ++ after)) = some (fill other) := by
  obtain ⟨before, raw, after, same, spelled, surrounds⟩ :=
    isPart.exists_place (read?_eq_some_iff.mp isDocument)
  obtain ⟨first, rest, front, last, isCons, isConcat, low, low_last⟩ := exists_ends spelled
  obtain ⟨isBefore, isRest⟩ := PartsAtMark.isUtf8
    (.inr ⟨first, rest ++ after, by rw [isCons, List.cons_append], low⟩) ⟨text, same.symm⟩
  obtain ⟨isRaw, isAfter⟩ := PartsAtMark.isUtf8 (.inl ⟨front, last, isConcat, low_last⟩) isRest
  obtain ⟨before, rfl⟩ := isBefore
  obtain ⟨raw, rfl⟩ := isRaw
  obtain ⟨after, rfl⟩ := isAfter
  refine ⟨before, raw, after, ?_, spelled, fun padded => ?_⟩
  · rw [← octetsOf_append, ← octetsOf_append, ← String.append_assoc] at same
    exact eq_of_octetsOf same
  · rw [read?_eq_some_iff, octetsOf_append, octetsOf_append, List.append_assoc]
    exact surrounds padded

/-! ### Records that differ in one field -/

/-- Two records have some values in one field, and the same in all others. -/
structure Swaps (name : String) (old new : Document) (first second : Record) : Prop where
  level : second.level = first.level
  old : first.fields.lookup name = some old
  new : second.fields.lookup name = some new
  others : ∀ other, other ≠ name → second.fields.lookup other = first.fields.lookup other

/-- Another value of a member leaves all other fields, or there are no fields with either. -/
theorem knownMembers?_swap (fieldOf : String → Option String) {key : Octets} {text : String}
    (isText : stringText? key = some text) (isField : fieldOf text = some name)
    (front back : List (Octets × Document)) (old new : Document) :
    (knownMembers? fieldOf (front ++ (key, old) :: back) = none ∧
      knownMembers? fieldOf (front ++ (key, new) :: back) = none) ∨
    ∃ first second, knownMembers? fieldOf (front ++ (key, old) :: back) = some first ∧
      knownMembers? fieldOf (front ++ (key, new) :: back) = some second ∧
      first.lookup name = some old ∧ second.lookup name = some new ∧
      ∀ other, other ≠ name → second.lookup other = first.lookup other := by
  induction front with
  | nil =>
    simp only [List.nil_append, knownMembers?, isText, isField, Option.bind_eq_bind,
      Option.bind_some]
    cases knownMembers? fieldOf back with
    | none => exact .inl ⟨rfl, rfl⟩
    | some known =>
      simp only [Option.bind_some]
      split
      · exact .inl ⟨rfl, rfl⟩
      · refine .inr ⟨_, _, rfl, rfl, ?_, ?_, fun other apart => ?_⟩
        · rw [lookup_cons_ite, if_pos rfl]
        · rw [lookup_cons_ite, if_pos rfl]
        · rw [lookup_cons_ite, lookup_cons_ite, if_neg apart, if_neg apart]
  | cons member front ih =>
    obtain ⟨raw, value⟩ := member
    simp only [List.cons_append, knownMembers?, Option.bind_eq_bind]
    cases stringText? raw with
    | none => exact .inl ⟨rfl, rfl⟩
    | some label =>
      simp only [Option.bind_some]
      obtain ⟨isNone, isNone'⟩ | ⟨first, second, isFirst, isSecond, hasOld, hasNew, others⟩ := ih
      · rw [isNone, isNone']
        exact .inl ⟨rfl, rfl⟩
      rw [isFirst, isSecond]
      simp only [Option.bind_some]
      cases fieldOf label with
      | none => exact .inr ⟨first, second, rfl, rfl, hasOld, hasNew, others⟩
      | some field =>
        have taken : (second.lookup field).isSome = (first.lookup field).isSome := by
          by_cases same : field = name
          · rw [same, hasOld, hasNew]
            rfl
          · rw [others field same]
        simp only [taken]
        split
        · exact .inl ⟨rfl, rfl⟩
        · rename_i free
          have apart : name ≠ field := fun same => free (by rw [← same, hasOld]; rfl)
          refine .inr ⟨_, _, rfl, rfl, ?_, ?_, fun other differs => ?_⟩
          · rw [lookup_cons_ite, if_neg apart, hasOld]
          · rw [lookup_cons_ite, if_neg apart, hasNew]
          · rw [lookup_cons_ite, lookup_cons_ite, others other differs]

/-- Another item of an array is the value of its field and of no other. -/
theorem lookup_zip_swap (distinct : names.Nodup) {front : List Document}
    (isName : names[front.length]? = some name) (back : List Document) (old new : Document) :
    (names.zip (front ++ old :: back)).lookup name = some old ∧
      ∀ other, other ≠ name → (names.zip (front ++ new :: back)).lookup other =
        (names.zip (front ++ old :: back)).lookup other := by
  induction front generalizing names with
  | nil =>
    cases names with
    | nil => cases isName
    | cons head names =>
      obtain rfl := Option.some.inj isName
      simp only [List.nil_append, List.zip_cons_cons, lookup_cons_ite]
      exact ⟨if_pos trivial, fun other apart => by rw [if_neg apart, if_neg apart]⟩
  | cons item front ih =>
    cases names with
    | nil => cases isName
    | cons head names =>
      obtain ⟨new_head, distinct⟩ := List.nodup_cons.mp distinct
      have isName : names[front.length]? = some name := isName
      have apart : name ≠ head := fun same =>
        new_head (same ▸ List.mem_of_getElem? isName)
      obtain ⟨hasOld, others⟩ := ih distinct isName
      simp only [List.cons_append, List.zip_cons_cons, lookup_cons_ite]
      exact ⟨by rw [if_neg apart, hasOld], fun other differs => by rw [others other differs]⟩

/-- **Another value in a field leaves all other fields**, or there is no record with either. -/
theorem FieldPlace.readRecord? (place : FieldPlace names name fill) (isField : name ∈ names)
    (distinct : names.Nodup) (level : Nat) (old new : Document) :
    ((fill old).readRecord? names level = none ∧ (fill new).readRecord? names level = none) ∨
    ∃ first second, (fill old).readRecord? names level = some first ∧
      (fill new).readRecord? names level = some second ∧ Swaps name old new first second := by
  simp only [Document.readRecord?, readRecordWith?]
  by_cases inside : level < nestingLimit
  case neg => exact .inl ⟨if_neg inside, if_neg inside⟩
  simp only [if_pos inside]
  cases place with
  | member front back key isName =>
    have isKnown : (if names.contains name then some name else none) = some name :=
      if_pos (by simpa using isField)
    obtain ⟨isNone, isNone'⟩ | ⟨first, second, isFirst, isSecond, hasOld, hasNew, others⟩ :=
      knownMembers?_swap (fun key => if names.contains key then some key else none) isName isKnown
        front back old new
    · exact .inl ⟨Option.map_eq_none_iff.mpr isNone, Option.map_eq_none_iff.mpr isNone'⟩
    · exact .inr ⟨⟨level + 1, first⟩, ⟨level + 1, second⟩,
        Option.map_eq_some_iff.mpr ⟨first, isFirst, rfl⟩,
        Option.map_eq_some_iff.mpr ⟨second, isSecond, rfl⟩, rfl, hasOld, hasNew, others⟩
  | item front back isName =>
    have sameLength : (front ++ new :: back).length = (front ++ old :: back).length := by simp
    simp only [sameLength]
    split
    · obtain ⟨hasOld, others⟩ := lookup_zip_swap distinct isName back old new
      obtain ⟨hasNew, _⟩ := lookup_zip_swap distinct isName back new old
      exact .inr ⟨_, _, rfl, rfl, rfl, hasOld, hasNew, others⟩
    · exact .inl ⟨rfl, rfl⟩

/-- A field of an object stands under its name. -/
theorem exists_member_of_known {fieldOf : String → Option String}
    {members : List (Octets × Document)} {known : List (String × Document)} {value : Document}
    (areKnown : knownMembers? fieldOf members = some known)
    (found : known.lookup name = some value) :
    ∃ front key back text, members = front ++ (key, value) :: back ∧ stringText? key = some text ∧
      fieldOf text = some name := by
  induction members generalizing known with
  | nil =>
    cases areKnown
    cases found
  | cons member rest ih =>
    obtain ⟨raw, content⟩ := member
    obtain ⟨text, isText, areKnown⟩ := Option.bind_eq_some_iff.mp areKnown
    obtain ⟨others, areOthers, areKnown⟩ := Option.bind_eq_some_iff.mp areKnown
    have later (found : others.lookup name = some value) : ∃ front key back text,
        (raw, content) :: rest = front ++ (key, value) :: back ∧ stringText? key = some text ∧
          fieldOf text = some name := by
      obtain ⟨front, key, back, text, rfl, isKey, isField⟩ := ih areOthers found
      exact ⟨(raw, content) :: front, key, back, text, rfl, isKey, isField⟩
    cases isField : fieldOf text with
    | none =>
      rw [isField] at areKnown
      obtain rfl := Option.some.inj areKnown
      exact later found
    | some field =>
      rw [isField] at areKnown
      obtain ⟨_, same⟩ := Option.ite_none_left_eq_some.mp areKnown
      cases same
      rw [lookup_cons_ite] at found
      by_cases here : name = field
      · rw [if_pos here] at found
        cases found
        exact ⟨[], raw, rest, text, rfl, isText, here ▸ isField⟩
      · rw [if_neg here] at found
        exact later found

/-- **The value of a field has its place in a record.** -/
theorem exists_fieldPlace {level : Nat} {document value : Document} {record : Record}
    (isRecord : document.readRecord? names level = some record)
    (found : record.fields.lookup name = some value) :
    ∃ field, FieldPlace names name field ∧ document = field value := by
  obtain ⟨_, isRecord⟩ := Option.ite_none_right_eq_some.mp isRecord
  cases document with
  | object members =>
    obtain ⟨known, areKnown, rfl⟩ := Option.map_eq_some_iff.mp isRecord
    obtain ⟨front, key, back, text, rfl, isText, isField⟩ := exists_member_of_known areKnown found
    obtain ⟨_, same⟩ := Option.ite_none_right_eq_some.mp isField
    obtain rfl := Option.some.inj same
    exact ⟨_, .member front back key isText, rfl⟩
  | array items =>
    obtain ⟨_, same⟩ := Option.ite_none_right_eq_some.mp isRecord
    cases same
    obtain ⟨_, _, split, _⟩ := List.lookup_eq_some_iff.mp found
    obtain ⟨before, others, front, rest, sameLength, rfl, rfl, _, split⟩ :=
      List.zip_eq_append_iff.mp split
    obtain ⟨_, back, rfl, rfl, _⟩ := List.zip_eq_cons_iff.mp split.symm
    refine ⟨_, .item front back ?_, rfl⟩
    rw [← sameLength, List.getElem?_append_right (Nat.le_refl _), Nat.sub_self]
    rfl
  | null | bool | number | string => cases isRecord

/-- Where a record is read, one is read with another value in a field. -/
theorem FieldPlace.exists_record (place : FieldPlace names name fill) (isField : name ∈ names)
    (distinct : names.Nodup) {level : Nat} {old : Document} {record : Record}
    (isRecord : (fill old).readRecord? names level = some record) (new : Document) :
    ∃ changed, (fill new).readRecord? names level = some changed ∧
      Swaps name old new record changed := by
  obtain ⟨isNone, _⟩ | ⟨first, second, isFirst, isSecond, swaps⟩ :=
    place.readRecord? isField distinct level old new
  · rw [isNone] at isRecord
    cases isRecord
  · obtain rfl := Option.some.inj (isFirst.symm.trans isRecord)
    exact ⟨second, isSecond, swaps⟩

namespace Swaps

variable {α : Type} {old new : Document} {first second : Record}
  (swaps : Swaps name old new first second) (read : Nat → Document → Option α)

include swaps

theorem require_old : first.require name read = read first.level old :=
  Record.require_of_lookup swaps.old read

theorem require_new : second.require name read = read first.level new := by
  rw [Record.require_of_lookup swaps.new read, swaps.level]

theorem optional_old (default : α) : first.optional name default read = read first.level old := by
  rw [Record.optional, swaps.old]

theorem optional_new (default : α) : second.optional name default read = read first.level new := by
  rw [Record.optional, swaps.new, swaps.level]

variable {read} in
theorem require_same (same : read first.level new = read first.level old) :
    second.require name read = first.require name read := by
  rw [swaps.require_new, same, swaps.require_old]

variable {read} in
theorem optional_same (default : α) (same : read first.level new = read first.level old) :
    second.optional name default read = first.optional name default read := by
  rw [swaps.optional_new, same, swaps.optional_old]

variable {other : String} (apart : other ≠ name)

include apart

theorem require_other : second.require other read = first.require other read :=
  Record.require_congr swaps.level (swaps.others other apart) read

theorem optional_other (default : α) :
    second.optional other default read = first.optional other default read :=
  Record.optional_congr swaps.level (swaps.others other apart) default read

theorem nullable_other : second.nullable other read = first.nullable other read :=
  Record.nullable_congr swaps.level (swaps.others other apart) read

end Swaps

/-! ### Lists and maps in which a part is exchanged -/

variable {α : Type} {read : Nat → Document → Option α} {old new : Document}

/-- The content of a field that holds its parts in a list or a map. -/
def Holding.Content (α : Type) : Holding → Type
  | .list => List α
  | .map => Dict α

/-- The reader of a field that holds its parts in a list or a map. -/
def Holding.read? (read : Nat → Document → Option α) :
    (holding : Holding) → Nat → Document → Option (holding.Content α)
  | .list, level, document => document.readList? level read
  | .map, level, document => document.readDict? level read

/-- **Parts that are read alike may stand for each other.** -/
theorem EntryPlace.read?_congr {holding : Holding} {index : Nat}
    (place : EntryPlace holding index fill) (same : ∀ level, read level new = read level old)
    (level : Nat) : holding.read? read level (fill new) = holding.read? read level (fill old) := by
  cases place with
  | item front back =>
    simp only [Holding.read?, readList?, List.mapM_append, List.mapM_cons, same]
    rfl
  | entry front back key =>
    simp only [Holding.read?, readDict?, List.mapM_append, List.mapM_cons, same]
    rfl

/-- What an item is read from, and what is read if it is changed. -/
theorem exists_item_place {each : Document → Option α} {documents : List Document} {items : List α}
    {index : Nat} {item : α} (found : documents.mapM each = some items)
    (isItem : items[index]? = some item) :
    ∃ front old back, documents = front ++ old :: back ∧ front.length = index ∧
      each old = some item ∧ ∀ {new : Document} {change : α → α}, each new = some (change item) →
        (front ++ new :: back).mapM each = some (items.modify index change) := by
  induction documents generalizing items index with
  | nil =>
    cases found
    cases isItem
  | cons head rest ih =>
    rw [List.mapM_cons] at found
    obtain ⟨first, isFirst, found⟩ := Option.bind_eq_some_iff.mp found
    obtain ⟨others, areOthers, same⟩ := Option.bind_eq_some_iff.mp found
    cases same
    cases index with
    | zero =>
      obtain rfl := Option.some.inj isItem
      refine ⟨[], head, rest, rfl, rfl, isFirst, fun isChanged => ?_⟩
      rw [List.nil_append, List.mapM_cons, isChanged, areOthers]
      rfl
    | succ index =>
      obtain ⟨front, old, back, rfl, rfl, isRead, replace⟩ := ih areOthers isItem
      refine ⟨head :: front, old, back, rfl, rfl, isRead, fun isChanged => ?_⟩
      rw [List.cons_append, List.mapM_cons, isFirst, replace isChanged]
      rfl

/-- **An item that is read has its place in a list**, and what is read is changed with it. -/
theorem exists_entryPlace {level index : Nat} {document : Document} {items : List α} {item : α}
    (found : document.readList? level read = some items) (isItem : items[index]? = some item) :
    ∃ entry old, EntryPlace .list index entry ∧ document = entry old ∧
      read (level + 1) old = some item ∧
      ∀ {new : Document} {change : α → α}, read (level + 1) new = some (change item) →
        (entry new).readList? level read = some (items.modify index change) := by
  cases document with
  | array documents =>
    obtain ⟨inside, found⟩ := Option.ite_none_right_eq_some.mp found
    obtain ⟨front, old, back, rfl, rfl, isRead, replace⟩ := exists_item_place found isItem
    exact ⟨_, old, .item front back, rfl, isRead,
      fun isChanged => (if_pos inside).trans (replace isChanged)⟩
  | null | bool | number | string | object => cases found

/-- **An item of a list in a field of a record has its place in the document**, and what is read of
the field is changed with it. -/
theorem exists_listed_part {level index : Nat} {document : Document} {record : Record}
    {items : List α} {item : α} (isField : name ∈ names) (distinct : names.Nodup)
    (isRecord : document.readRecord? names level = some record)
    (found : record.require name (fun level => readList? level read) = some items)
    (isItem : items[index]? = some item) :
    ∃ field entry old, FieldPlace names name field ∧ EntryPlace .list index entry ∧
      document = field (entry old) ∧ read (record.level + 1) old = some item ∧
      ∀ {new : Document} {change : α → α}, read (record.level + 1) new = some (change item) →
        ∃ changed, (field (entry new)).readRecord? names level = some changed ∧
          Swaps name (entry old) (entry new) record changed ∧
          readList? record.level read (entry new) = some (items.modify index change) := by
  obtain ⟨value, isValue, areItems⟩ := Option.bind_eq_some_iff.mp found
  obtain ⟨field, fieldPlace, rfl⟩ := exists_fieldPlace isRecord isValue
  obtain ⟨entry, old, entryPlace, rfl, isRead, replace⟩ := exists_entryPlace areItems isItem
  refine ⟨field, entry, old, fieldPlace, entryPlace, rfl, isRead, fun {new change} isChanged => ?_⟩
  obtain ⟨changed, isNew, swaps⟩ := fieldPlace.exists_record isField distinct isRecord (entry new)
  exact ⟨changed, isNew, swaps, replace isChanged⟩

end Document

/-- A field in which something is listed is there. -/
theorem Record.require_of_optional {α : Type} {record : Record} {name : String}
    {read : Nat → Document → Option (List α)} {items : List α} {index : Nat} {item : α}
    (found : record.optional name [] read = some items) (isItem : items[index]? = some item) :
    record.require name read = some items := by
  cases isValue : record.fields.lookup name with
  | none =>
    rw [Record.optional, isValue] at found
    cases found
    cases isItem
  | some value =>
    rw [Record.optional, isValue] at found
    rwa [Record.require_of_lookup isValue]

end FeatureFlags
