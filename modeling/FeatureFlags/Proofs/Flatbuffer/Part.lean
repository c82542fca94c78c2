import FeatureFlags.Flatbuffer.Flag
import FeatureFlags.Proofs.Flatbuffer.Construction

/-!
**Tables that serve a reader.**

A table serves a reader if the reader gives a certain result for it, and a visit of it spends a
certain cost. The numbers of a table may be left out, so they are listed with what is left out.

* `Builder.slotWhenSome`: the slot of a number that may be left out.
* `Buffer.Serves`: a table that a reader reads; `Buffer.vectorOf_results`, `Buffer.vectorOf_serves`:
  a vector of such tables.
* `Buffer.IsTable.number`, `Buffer.IsTable.bool`, `Buffer.IsTable.int64?`, `Buffer.IsTable.word32`:
  numbers, read with what their absence stands for.
-/

namespace FeatureFlags

/-! ### Numbers that may be left out -/

namespace Builder

/-- A number, unless it is what its absence stands for. -/
def otherwise (missing value : Nat) : Option Nat := if value = missing then none else some value

/-- The slot of a number, if there is one. -/
def slotWhenSome (slot count : Nat) (value : Option Nat) : List (Nat × SlotContent) :=
  (value.map fun value => (slot, SlotContent.number count value)).toList

@[simp] theorem getD_otherwise (missing value : Nat) :
    (otherwise missing value).getD missing = value := by
  unfold otherwise
  split
  · rename_i same
    rw [same]
    rfl
  · rfl

theorem numberUnless_eq (missing slot count value : Nat) :
    numberUnless missing slot count value = slotWhenSome slot count (otherwise missing value) := by
  unfold numberUnless otherwise
  split <;> rfl

theorem int64Slot_eq (slot : Nat) (value : Option Int64) :
    int64Slot slot value = slotWhenSome slot 8 (value.map fun value => value.toUInt64.toNat) := by
  cases value <;> rfl

@[simp] theorem lookup_slotWhenSome (slot count key : Nat) (value : Option Nat) :
    (slotWhenSome slot count value).lookup key =
      if key = slot then value.map (.number count) else none := by
  cases value with
  | none => simp [slotWhenSome]
  | some value =>
    by_cases same : key = slot
    · subst same
      simp [slotWhenSome]
    · simp [slotWhenSome, same]

theorem otherwise_lt {missing value bound : Nat} (below : value < bound) :
    ∀ number ∈ otherwise missing value, number < bound := by
  intro number member
  unfold otherwise at member
  split at member
  · cases member
  · cases member
    exact below

/-! ### Fields that fit -/

/-- Fields that a table can have, and no more of them than some number. -/
structure Fitting (used count : Nat) (fields : List (Nat × SlotContent)) : Prop where
  each : ∀ field ∈ fields, Fits used field.2 ∧ Buffer.IsSlot field.1 ∧ field.1 < 64
  few : fields.length ≤ count

namespace Fitting

variable {used count more slot : Nat} {fields rest : List (Nat × SlotContent)}

theorem fieldsFit (fitting : Fitting used count fields) (small : count ≤ 16) :
    FieldsFit used fields :=
  ⟨fun field member => (fitting.each field member).1,
    fun field member => (fitting.each field member).2, Nat.le_trans fitting.few small⟩

theorem nil : Fitting used 0 [] := ⟨List.forall_mem_nil _, Nat.le_refl 0⟩

theorem cons {content : SlotContent} (isSlot : Buffer.IsSlot slot ∧ slot < 64)
    (fits : Fits used content) (others : Fitting used count rest) :
    Fitting used (count + 1) ((slot, content) :: rest) :=
  ⟨List.forall_mem_cons.2 ⟨⟨fits, isSlot⟩, others.each⟩, Nat.succ_le_succ others.few⟩

theorem offset {place : Nat} (isSlot : Buffer.IsSlot slot ∧ slot < 64) (inside : place ≤ used)
    (others : Fitting used count rest) :
    Fitting used (count + 1) ((slot, .offset place) :: rest) :=
  others.cons isSlot inside

theorem append (first : Fitting used count fields) (second : Fitting used more rest) :
    Fitting used (count + more) (fields ++ rest) :=
  ⟨List.forall_mem_append.2 ⟨first.each, second.each⟩, by
    rw [List.length_append]
    exact Nat.add_le_add first.few second.few⟩

theorem slotWhenSome {octets : Nat} {value : Option Nat}
    (isSlot : Buffer.IsSlot slot ∧ slot < 64) (isCount : octets = 1 ∨ octets = 4 ∨ octets = 8)
    (fits : ∀ number ∈ value, number < 256 ^ octets) :
    Fitting used 1 (slotWhenSome slot octets value) := by
  cases value with
  | none => exact ⟨List.forall_mem_nil _, Nat.zero_le 1⟩
  | some number => exact .cons isSlot ⟨isCount, fits number rfl⟩ .nil

end Fitting

end Builder

namespace Buffer

variable {buffer : Buffer} {position : Nat}

/-! ### Readers of numbers -/

namespace IsTable

variable {fields : List (Nat × SlotContent)} {table slot : Nat}

theorem number {count : Nat} (isTable : buffer.IsTable fields table) (isSlot : IsSlot slot)
    (value : Option Nat) (default : Nat) (here : fields.lookup slot = value.map (.number count)) :
    buffer.number count default table slot = .ok (value.getD default) := by
  rw [Buffer.number, isTable.number? isSlot here]
  rfl

theorem bool (isTable : buffer.IsTable fields table) (isSlot : IsSlot slot) (value : Option Nat)
    (default : Bool) (here : fields.lookup slot = value.map (.number 1)) :
    buffer.bool default table slot = .ok ((value.map (· != 0)).getD default) := by
  rw [Buffer.bool, isTable.number? isSlot here]
  rfl

theorem int64? (isTable : buffer.IsTable fields table) (isSlot : IsSlot slot)
    (value : Option Int64)
    (here : fields.lookup slot =
      (value.map fun value => value.toUInt64.toNat).map (.number 8)) :
    buffer.int64? table slot = .ok value := by
  rw [Buffer.int64?, isTable.number? isSlot here]
  cases value with
  | none => rfl
  | some value =>
    show Except.ok (some (UInt64.ofNat value.toUInt64.toNat).toInt64) = _
    rw [UInt64.ofNat_toNat]
    simp

theorem word32 (isTable : buffer.IsTable fields table) (isSlot : IsSlot slot) (value : UInt32)
    (here : fields.lookup slot = (Builder.otherwise 0 value.toNat).map (.number 4)) :
    buffer.word32 table slot = .ok value := by
  rw [Buffer.word32, isTable.number isSlot _ 0 here]
  show Except.ok (UInt32.ofNat ((Builder.otherwise 0 value.toNat).getD 0)) = _
  rw [Builder.getD_otherwise, UInt32.ofNat_toNat]

theorem requiredText {field text : String} {place : Nat} (isTable : buffer.IsTable fields table)
    (isSlot : IsSlot slot) (here : fields.lookup slot = some (.offset place))
    (isText : buffer.IsText text (buffer.size - place)) :
    buffer.requiredText field table slot = .ok text := by
  rw [Buffer.requiredText, isTable.text? isSlot here isText]
  rfl

end IsTable

/-! ### Readers of tables -/

/-- A reader gives a result for a table, and a visit of the table spends a cost. -/
structure Serves {α : Type} (read : Buffer → Nat → Decoded α) (slots : Slots) (result : Decoded α)
    (cost : Budget) (buffer : Buffer) (position : Nat) : Prop where
  reads : read buffer position = result
  costs : Costs (buffer.visitTable slots position) cost

/-- The texts of a vector are read one by one, and each spends its cost. -/
theorem vectorOf_texts {texts : List String}
    (vector : Builder.VectorOf (fun text buffer position => buffer.IsText text position) texts
      buffer position) :
    ∃ targets, buffer.IsVector targets position ∧ targets.mapM buffer.textAt = .ok texts ∧
      List.Forall₂ (fun target cost => Costs (buffer.visitText target) cost) targets
        (texts.map fun text => ⟨0, 4 + (octetsOf text).length⟩) := by
  obtain ⟨targets, isVector, each⟩ := vector
  refine ⟨targets, isVector, ?_, ?_⟩
  · clear isVector
    induction each with
    | nil => exact List.mapM_nil
    | cons head _ ih =>
      rw [List.mapM_cons, head.textAt, ih]
      rfl
  · rw [List.forall₂_map_right_iff]
    exact each.flip.imp fun target text isText => isText.costs

/-- The tables of a vector are read one by one up to the first that makes nothing, and each spends
its cost. -/
theorem vectorOf_results {α β : Type} {read : Buffer → Nat → Decoded β} {slots : Slots}
    {items : List α} {result : α → Decoded β} {cost : α → Budget}
    (vector : Builder.VectorOf (fun item => Serves read slots (result item) (cost item)) items
      buffer position) :
    ∃ targets, buffer.IsVector targets position ∧
      targets.mapM (read buffer) = items.mapM result ∧
      List.Forall₂ (fun target cost => Costs (buffer.visitTable slots target) cost) targets
        (items.map cost) := by
  obtain ⟨targets, isVector, each⟩ := vector
  refine ⟨targets, isVector, ?_, ?_⟩
  · clear isVector
    induction each with
    | nil => rfl
    | cons head _ ih => rw [List.mapM_cons, List.mapM_cons, head.reads, ih]
  · rw [List.forall₂_map_right_iff]
    exact each.flip.imp fun target item serves => serves.costs

/-- The tables of a vector that make values are read one by one. -/
theorem vectorOf_serves {α β : Type} {read : Buffer → Nat → Decoded β} {slots : Slots}
    {items : List α} {value : α → β} {cost : α → Budget}
    (vector : Builder.VectorOf (fun item => Serves read slots (.ok (value item)) (cost item)) items
      buffer position) :
    ∃ targets, buffer.IsVector targets position ∧
      targets.mapM (read buffer) = .ok (items.map value) ∧
      List.Forall₂ (fun target cost => Costs (buffer.visitTable slots target) cost) targets
        (items.map cost) := by
  obtain ⟨targets, isVector, reads, costs⟩ := vectorOf_results vector
  exact ⟨targets, isVector, reads.trans List.mapM_pure, costs⟩

end Buffer

end FeatureFlags
