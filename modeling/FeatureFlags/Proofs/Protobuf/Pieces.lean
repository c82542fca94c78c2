import FeatureFlags.Proofs.Protobuf.Wire
import FeatureFlags.Protobuf.Record

/-!
**The pieces that messages are written from.**

The fields of a record are listed piece by piece: a field unless it holds what its absence stands
for, a field if there is a value for it, and a field for each element of a list. Each piece can be
written, is found again by its number, and gives back what it was made of.

* `Writable`: fields that can be written.
* `filter_otherThan`, `filter_whenSome`, `filter_map_field`: the fields with a number.
* `lastOr_eq`, `last?_eq`, `occurrences_messages`, `joined?_eq`: what is read from a piece.
-/

namespace FeatureFlags

open Wire

/-- Fields that can be written. -/
def Writable (fields : List MessageField) : Prop := ∀ field ∈ fields, field.Sound

/-- A way to make fields puts the number into the field that it was given. -/
def Numbered {α : Type} (field : Nat → α → MessageField) : Prop :=
  ∀ number value, (field number value).number = number

/-- A way to make fields makes fields that can be written. -/
def Sure {α : Type} (field : Nat → α → MessageField) : Prop :=
  ∀ number value, 0 < number → number < 2 ^ 29 → (field number value).Sound

@[simp] theorem numbered_text : Numbered textField := fun _ _ => rfl

@[simp] theorem numbered_message : Numbered messageField := fun _ _ => rfl

@[simp] theorem numbered_bool : Numbered boolField := fun _ _ => rfl

@[simp] theorem numbered_int64 : Numbered int64Field := fun _ _ => rfl

@[simp] theorem numbered_int32 : Numbered int32Field := fun _ _ => rfl

@[simp] theorem numbered_word : Numbered wordField := fun _ _ => rfl

@[simp] theorem sure_text : Sure textField := fun _ _ positive small => ⟨positive, small, trivial⟩

@[simp] theorem sure_message : Sure messageField := fun _ _ positive small =>
  ⟨positive, small, trivial⟩

@[simp] theorem sure_bool : Sure boolField := fun _ value positive small =>
  ⟨positive, small, by cases value <;> simp [boolField, Payload.Sound]⟩

@[simp] theorem sure_int64 : Sure int64Field := fun _ value positive small =>
  ⟨positive, small, value.toUInt64.toNat_lt⟩

@[simp] theorem sure_int32 : Sure int32Field := fun number value => sure_int64 number value.toInt64

@[simp] theorem sure_word : Sure wordField := fun _ value positive small =>
  ⟨positive, small, Nat.lt_trans value.toNat_lt (by decide)⟩

/-! ### Pieces can be written -/

section Pieces

variable {α : Type} {field : Nat → α → MessageField}

@[simp] theorem writable_append {first second : List MessageField} :
    Writable (first ++ second) ↔ Writable first ∧ Writable second := List.forall_mem_append

theorem writable_otherThan [DecidableEq α] (sure : Sure field) (missing value : α) {number : Nat}
    (positive : 0 < number) (small : number < 2 ^ 29) :
    Writable (otherThan missing field number value) := by
  intro item member
  unfold otherThan at member
  split at member
  · cases member
  · rw [List.mem_singleton.1 member]
    exact sure number value positive small

theorem writable_whenSome (sure : Sure field) (value : Option α) {number : Nat}
    (positive : 0 < number) (small : number < 2 ^ 29) : Writable (whenSome field number value) := by
  intro item member
  cases value with
  | none => cases member
  | some content =>
    rw [List.mem_singleton.1 member]
    exact sure number content positive small

theorem writable_map {β : Type} (sure : Sure field) (items : List β) (content : β → α)
    {number : Nat} (positive : 0 < number) (small : number < 2 ^ 29) :
    Writable (items.map fun item => field number (content item)) := by
  intro item member
  obtain ⟨part, _, rfl⟩ := List.mem_map.1 member
  exact sure number (content part) positive small

theorem writable_messages {β : Type} (items : List β) (content : β → List MessageField)
    {number : Nat} (positive : 0 < number) (small : number < 2 ^ 29) :
    Writable (items.map fun item => messageField number (content item)) :=
  writable_map sure_message items content positive small

/-! ### Pieces by their numbers -/

theorem filter_otherThan [DecidableEq α] (numbered : Numbered field) (missing value : α)
    (number wanted : Nat) :
    (otherThan missing field number value).filter (fun item => item.number == wanted) =
      if number = wanted then otherThan missing field number value else [] := by
  unfold otherThan
  split
  · simp
  · by_cases same : number = wanted
    · subst same
      simp [numbered number value]
    · simp [numbered number value, same]

theorem filter_whenSome (numbered : Numbered field) (value : Option α) (number wanted : Nat) :
    (whenSome field number value).filter (fun item => item.number == wanted) =
      if number = wanted then whenSome field number value else [] := by
  cases value with
  | none => simp [whenSome]
  | some content =>
    by_cases same : number = wanted
    · subst same
      simp [whenSome, numbered number content]
    · simp [whenSome, numbered number content, same]

theorem filter_map_field {β : Type} (numbered : Numbered field) (items : List β) (content : β → α)
    (number wanted : Nat) :
    (items.map fun item => field number (content item)).filter (fun item => item.number == wanted) =
      if number = wanted then items.map fun item => field number (content item) else [] := by
  by_cases same : number = wanted
  · rw [if_pos same, List.filter_eq_self]
    intro item member
    obtain ⟨part, _, rfl⟩ := List.mem_map.1 member
    simpa [numbered number (content part)] using same
  · rw [if_neg same, List.filter_eq_nil_iff]
    intro item member
    obtain ⟨part, _, rfl⟩ := List.mem_map.1 member
    simpa [numbered number (content part)] using same

theorem filter_messages {β : Type} (items : List β) (content : β → List MessageField)
    (number wanted : Nat) :
    (items.map fun item => messageField number (content item)).filter
        (fun item => item.number == wanted) =
      if number = wanted then items.map fun item => messageField number (content item) else [] :=
  filter_map_field numbered_message items content number wanted

/-! ### What pieces hold -/

/-- A payload reader gives back what a field was made of. -/
def ReadsBack {α : Type} (field : Nat → α → MessageField) (read : Payload → Option α) : Prop :=
  ∀ number value, read (field number value).payload = some value

theorem lastOr_eq [DecidableEq α] {read : Payload → Option α} (readsBack : ReadsBack field read)
    {missing value : α} {number : Nat} {fields : List MessageField}
    (here : fields.filter (fun item => item.number == number) =
      otherThan missing field number value) :
    lastOr missing fields number read = some value := by
  rw [lastOr, last?, occurrences, here, otherThan]
  by_cases same : value = missing
  · rw [if_pos same, same]
    rfl
  · rw [if_neg same, List.mapM_cons, readsBack number value]
    rfl

theorem last?_eq {read : Payload → Option α} (readsBack : ReadsBack field read)
    {value : Option α} {number : Nat} {fields : List MessageField}
    (here : fields.filter (fun item => item.number == number) = whenSome field number value) :
    last? fields number read = some value := by
  rw [last?, occurrences, here]
  cases value with
  | none => rfl
  | some content =>
    show (([field number content].mapM fun item => read item.payload).map List.getLast?) = _
    rw [List.mapM_cons, readsBack number content]
    rfl

theorem occurrences_eq {read : Payload → Option α} (readsBack : ReadsBack field read)
    {values : List α} {number : Nat} {fields : List MessageField}
    (here : fields.filter (fun item => item.number == number) = values.map (field number)) :
    occurrences fields number read = some values := by
  rw [occurrences, here]
  exact List.mapM_map_eq_self fun value _ => readsBack number value

end Pieces

/-! ### Messages within messages -/

theorem mem_of_filter_eq {fields found : List MessageField} {number : Nat}
    (here : fields.filter (fun item => item.number == number) = found) {field : MessageField}
    (member : field ∈ found) : field ∈ fields := by
  rw [← here] at member
  exact (List.mem_filter.1 member).1

theorem length_message_le {fields inner : List MessageField} {number : Nat}
    (member : messageField number inner ∈ fields) :
    (writeFields inner).length ≤ (writeFields fields).length :=
  length_content_le member

/-- Messages in a list are read back if each can be, as each is shorter than the whole. -/
theorem occurrences_messages {α : Type} {read : Payload → Option α}
    {content : α → List MessageField} {items : List α} {number : Nat} {fields : List MessageField}
    (here : fields.filter (fun item => item.number == number) =
      items.map fun item => messageField number (content item))
    (short : (writeFields fields).length < 2 ^ 64)
    (reads : ∀ item ∈ items, (writeFields (content item)).length < 2 ^ 64 →
      read (.delimited (writeFields (content item))) = some item) :
    occurrences fields number read = some items := by
  have each : ∀ item ∈ items, read (messageField number (content item)).payload = some item := by
    intro item member
    have inside : messageField number (content item) ∈ fields :=
      mem_of_filter_eq here (List.mem_map.2 ⟨item, member, rfl⟩)
    exact reads item member (Nat.lt_of_le_of_lt (length_message_le inside) short)
  rw [occurrences, here]
  exact List.mapM_map_eq_self each

theorem fields?_writeFields (depth : Nat) {fields : List MessageField} (writable : Writable fields)
    (short : (writeFields fields).length < 2 ^ 64) :
    Payload.fields? depth (.delimited (writeFields fields)) = some fields :=
  readFields?_writeFields depth writable (fun _ _ impossible => by cases impossible) short

/-- A message that may be missing is read back with its fields. -/
theorem joined?_eq (depth : Nat) {value : Option (List MessageField)} {number : Nat}
    {fields : List MessageField}
    (here : fields.filter (fun item => item.number == number) = whenSome messageField number value)
    (writable : ∀ inner, value = some inner → Writable inner)
    (short : (writeFields fields).length < 2 ^ 64) : joined? depth fields number = some value := by
  rw [joined?, occurrences, here]
  cases value with
  | none => rfl
  | some inner =>
    have inside : messageField number inner ∈ fields :=
      mem_of_filter_eq here (List.mem_singleton_self _)
    have read := fields?_writeFields depth (writable inner rfl)
      (Nat.lt_of_le_of_lt (length_message_le inside) short)
    show (([messageField number inner].mapM fun item : MessageField =>
      item.payload.fields? depth).map _) = _
    rw [List.mapM_cons, messageField, read]
    show some (some ([inner] : List (List MessageField)).flatten) = _
    rw [List.flatten_singleton]

end FeatureFlags
