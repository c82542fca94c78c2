import FeatureFlags.Flatbuffer.Buffer
import FeatureFlags.Flatbuffer.Builder
import FeatureFlags.Proofs.Text.Octets

/-!
**What the readers find in a buffer, from what lies where.**

The parts of a buffer are described by what lies at their positions: `Buffer.IsText`,
`Buffer.IsVector` and `Buffer.IsTable`. A table is described by the fields that a builder was given
for it, in which an offset is the distance of its target from the end of the buffer. Each reader is
then known by what it gives for a part that is described so.

* `Buffer.Has`: octets at a position.
* `Buffer.IsText.textAt`, `Buffer.IsVector.targets`: texts and vectors.
* `Buffer.IsTable.fieldPosition_some`, `Buffer.IsTable.fieldPosition_none`: the fields of a table.
* `Buffer.IsTable.number?`, `Buffer.IsTable.text?`, `Buffer.IsTable.table?`, `Buffer.IsTable.tables`:
  what they hold.
-/

namespace FeatureFlags.Buffer

variable {buffer : Buffer} {position : Nat}

/-! ### Octets -/

/-- The buffer has given octets from a position on. -/
def Has (buffer : Buffer) (position : Nat) (content : Octets) : Prop :=
  ∃ before after, buffer.octets.toList = before ++ (content ++ after) ∧ before.length = position

theorem has_of_suffix {content rest : Octets}
    (suffix : content ++ rest <:+ buffer.octets.toList) :
    buffer.Has (buffer.size - (content.length + rest.length)) content := by
  obtain ⟨before, whole⟩ := suffix
  refine ⟨before, rest, whole.symm, ?_⟩
  have lengths := congrArg List.length whole
  rw [List.length_append, List.length_append] at lengths
  rw [size, ← Array.length_toList, ← lengths, Nat.add_sub_cancel]

namespace Has

variable {content first second : Octets}

theorem left (has : buffer.Has position (first ++ second)) : buffer.Has position first := by
  obtain ⟨before, after, whole, isBefore⟩ := has
  refine ⟨before, second ++ after, ?_, isBefore⟩
  rw [whole, List.append_assoc]

theorem right (has : buffer.Has position (first ++ second)) :
    buffer.Has (position + first.length) second := by
  obtain ⟨before, after, whole, isBefore⟩ := has
  refine ⟨before ++ first, after, ?_, ?_⟩
  · rw [whole, List.append_assoc, List.append_assoc]
  · rw [List.length_append, isBefore]

theorem inside (has : buffer.Has position content) : position + content.length ≤ buffer.size := by
  obtain ⟨before, after, whole, isBefore⟩ := has
  have lengths := congrArg List.length whole
  rw [List.length_append, List.length_append] at lengths
  rw [size, ← Array.length_toList, lengths, isBefore, ← Nat.add_assoc]
  exact Nat.le_add_right _ _

theorem slice (has : buffer.Has position content) :
    buffer.slice position content.length = .ok content := by
  have fits := has.inside
  obtain ⟨before, after, whole, isBefore⟩ := has
  have cut : (buffer.octets.extract position (position + content.length)).toList = content := by
    rw [Array.toList_extract, List.extract_eq_take_drop, whole, ← isBefore, List.drop_left,
      Nat.add_sub_cancel_left, List.take_left]
  rw [Buffer.slice, if_pos fits, cut]

theorem word {count value : Nat} (has : buffer.Has position (littleEndian count value))
    (fits : value < 256 ^ count) : buffer.word count position = .ok value := by
  have content := has.slice
  rw [length_littleEndian] at content
  rw [Buffer.word, content]
  show Except.ok (ofLittleEndian (littleEndian count value)) = _
  rw [ofLittleEndian_littleEndian fits]

/-- Pieces of one length lie at multiples of the length. -/
theorem flatMap {α : Type} {items : List α} {piece : α → Octets} {width : Nat}
    (uniform : ∀ item ∈ items, (piece item).length = width)
    (has : buffer.Has position (items.flatMap piece)) (index : Nat) (bound : index < items.length) :
    buffer.Has (position + width * index) (piece items[index]) := by
  induction items generalizing position index with
  | nil => exact absurd bound (Nat.not_lt_zero index)
  | cons head rest ih =>
    rw [List.flatMap_cons] at has
    cases index with
    | zero => exact has.left
    | succ index =>
      have later := ih (fun item member => uniform item (List.mem_cons_of_mem head member)) has.right
        index (Nat.lt_of_succ_lt_succ bound)
      rw [uniform head List.mem_cons_self] at later
      rw [Nat.mul_succ, Nat.add_comm (width * index), ← Nat.add_assoc]
      exact later

theorem getElem? {octet : UInt8} (has : buffer.Has position [octet]) :
    buffer.octets[position]? = some octet := by
  obtain ⟨before, after, whole, isBefore⟩ := has
  rw [← Array.getElem?_toList, whole, ← isBefore, List.getElem?_append_right (Nat.le_refl _),
    Nat.sub_self]
  rfl

end Has

theorem inside_of_slice {count : Nat} {content : Octets}
    (found : buffer.slice position count = .ok content) : position + count ≤ buffer.size := by
  by_cases inside : position + count ≤ buffer.size
  · exact inside
  · rw [slice, if_neg inside] at found
    cases found

theorem inside_of_word {count value : Nat} (found : buffer.word count position = .ok value) :
    position + count ≤ buffer.size := by
  unfold word at found
  cases taken : buffer.slice position count with
  | error reason =>
    rw [taken] at found
    cases found
  | ok content => exact inside_of_slice taken

/-! ### Texts and vectors -/

/-- A text lies at a position: its length, its octets and an end mark. -/
structure IsText (buffer : Buffer) (text : String) (position : Nat) : Prop where
  aligned : position % 4 = 0
  length : buffer.word 4 position = .ok (octetsOf text).length
  content : buffer.Has (position + 4) (octetsOf text ++ [0])

theorem IsText.textAt {text : String} (isText : buffer.IsText text position) :
    buffer.textAt position = .ok text := by
  simp only [Buffer.textAt, isText.length, bind, Except.bind, isText.content.left.slice,
    text?_octetsOf]

/-- A vector of offsets to given positions lies at a position. -/
structure IsVector (buffer : Buffer) (targets : List Nat) (position : Nat) : Prop where
  aligned : position % 4 = 0
  length : buffer.word 4 position = .ok targets.length
  inside : position + 4 + 4 * targets.length ≤ buffer.size
  element : ∀ index (bound : index < targets.length),
    buffer.follow (position + 4 + 4 * index) = .ok targets[index]

theorem IsVector.targets {targets : List Nat} (isVector : buffer.IsVector targets position) :
    buffer.targets position = .ok targets := by
  have elements : (List.range targets.length).mapM
      (fun index => buffer.follow (position + 4 + 4 * index)) =
        .ok ((List.range targets.length).map fun index => targets[index]?.getD 0) := by
    refine List.mapM_eq_pure fun index member => ?_
    have bound := List.mem_range.1 member
    rw [isVector.element index bound, List.getElem?_eq_getElem bound]
    rfl
  have listed : ((List.range targets.length).map fun index => targets[index]?.getD 0) =
      targets := by
    refine List.ext_getElem (by simp) fun index small bound => ?_
    rw [List.getElem_map, List.getElem_range, List.getElem?_eq_getElem bound, Option.getD_some]
  rw [Buffer.targets, isVector.length]
  show (if position + 4 + 4 * targets.length ≤ buffer.size then _ else outside) = _
  rw [if_pos isVector.inside, elements, listed]

/-! ### Tables -/

/-- A field lies at a position; an offset leads to a distance from the end of the buffer. -/
def Contains (buffer : Buffer) : SlotContent → Nat → Prop
  | .number count value, position =>
    position % count = 0 ∧ buffer.word count position = .ok value
  | .offset place, position =>
    position % 4 = 0 ∧ buffer.follow position = .ok (buffer.size - place)

/-- How long the layout of a table with given fields is. -/
def layoutLength (slots : List Nat) : Nat :=
  4 + 2 * (slots.map fun slot => (slot - 2) / 2).foldr max 0

theorem layoutLength_even (slots : List Nat) : layoutLength slots % 2 = 0 := by
  unfold layoutLength
  omega

/-- A slot as schemas have it. -/
def IsSlot (slot : Nat) : Prop := 4 ≤ slot ∧ slot % 2 = 0

instance (slot : Nat) : Decidable (IsSlot slot) := inferInstanceAs (Decidable (_ ∧ _))

/-- A table with given fields lies at a position, and its layout at another. -/
structure IsTableAt (buffer : Buffer) (fields : List (Nat × SlotContent)) (layout table : Nat) :
    Prop where
  aligned : table % 4 = 0
  back : ∃ distance, buffer.word 4 table = .ok distance ∧ backward table distance = some layout
  layoutAligned : layout % 2 = 0
  length : buffer.word 2 layout = .ok (layoutLength (fields.map Prod.fst))
  inside : layout + layoutLength (fields.map Prod.fst) ≤ buffer.size
  absent : ∀ slot, IsSlot slot → slot < layoutLength (fields.map Prod.fst) →
    fields.lookup slot = none → buffer.word 2 (layout + slot) = .ok 0
  present : ∀ slot content, IsSlot slot → fields.lookup slot = some content →
    slot < layoutLength (fields.map Prod.fst) ∧
      ∃ offset, offset ≠ 0 ∧ buffer.word 2 (layout + slot) = .ok offset ∧
        buffer.Contains content (table + offset)

theorem IsTableAt.layout {fields : List (Nat × SlotContent)} {layout table : Nat}
    (isTable : buffer.IsTableAt fields layout table) : buffer.layout table = .ok layout := by
  obtain ⟨distance, isDistance, isLayout⟩ := isTable.back
  simp only [Buffer.layout, isDistance, bind, Except.bind, isLayout]

/-- A table with given fields lies at a position. -/
def IsTable (buffer : Buffer) (fields : List (Nat × SlotContent)) (table : Nat) : Prop :=
  ∃ layout, buffer.IsTableAt fields layout table

namespace IsTable

variable {fields : List (Nat × SlotContent)} {table slot : Nat}

theorem fieldPosition_none (isTable : buffer.IsTable fields table) (isSlot : IsSlot slot)
    (absent : fields.lookup slot = none) : buffer.fieldPosition table slot = .ok none := by
  obtain ⟨layout, isTableAt⟩ := isTable
  rw [fieldPosition, isTableAt.layout]
  show (buffer.word 2 layout).bind _ = _
  rw [isTableAt.length]
  by_cases reached : slot < layoutLength (fields.map Prod.fst)
  · show (if _ then (buffer.word 2 (layout + slot)).bind _ else _) = _
    rw [if_pos reached, isTableAt.absent slot isSlot reached absent]
    rfl
  · show (if _ then _ else _) = _
    rw [if_neg reached]
    rfl

theorem fieldPosition_some {content : SlotContent} (isTable : buffer.IsTable fields table)
    (isSlot : IsSlot slot) (present : fields.lookup slot = some content) :
    ∃ position, buffer.fieldPosition table slot = .ok (some position) ∧
      buffer.Contains content position := by
  obtain ⟨layout, isTableAt⟩ := isTable
  obtain ⟨reached, offset, nonzero, isOffset, contains⟩ :=
    isTableAt.present slot content isSlot present
  refine ⟨table + offset, ?_, contains⟩
  rw [fieldPosition, isTableAt.layout]
  show (buffer.word 2 layout).bind _ = _
  rw [isTableAt.length]
  show (if _ then (buffer.word 2 (layout + slot)).bind _ else _) = _
  rw [if_pos reached, isOffset]
  show Except.ok (if offset = 0 then none else some (table + offset)) = _
  rw [if_neg nonzero]

/-- An absent field gives nothing, whatever would be read. -/
theorem field?_none {α : Type} {read : Nat → Decoded α} (isTable : buffer.IsTable fields table)
    (isSlot : IsSlot slot) (absent : fields.lookup slot = none) :
    buffer.field? table slot read = .ok none := by
  rw [field?, isTable.fieldPosition_none isSlot absent]
  rfl

/-- A present field gives what is read where it lies. -/
theorem field?_some {α : Type} {read : Nat → Decoded α} {value : α} {content : SlotContent}
    (isTable : buffer.IsTable fields table) (isSlot : IsSlot slot)
    (present : fields.lookup slot = some content)
    (reads : ∀ position, buffer.Contains content position → read position = .ok value) :
    buffer.field? table slot read = .ok (some value) := by
  obtain ⟨position, isPosition, contains⟩ := isTable.fieldPosition_some isSlot present
  rw [field?, isPosition]
  show (read position).map some = _
  rw [reads position contains]
  rfl

theorem number? {count : Nat} {value : Option Nat} (isTable : buffer.IsTable fields table)
    (isSlot : IsSlot slot) (here : fields.lookup slot = value.map (.number count)) :
    buffer.number? count table slot = .ok value := by
  cases value with
  | none => exact isTable.field?_none isSlot here
  | some value => exact isTable.field?_some isSlot here fun _ contains => contains.2

theorem table? {place : Nat} (isTable : buffer.IsTable fields table) (isSlot : IsSlot slot)
    (here : fields.lookup slot = some (.offset place)) :
    buffer.table? table slot = .ok (some (buffer.size - place)) :=
  isTable.field?_some isSlot here fun _ contains => contains.2

theorem text? {place : Nat} {text : String} (isTable : buffer.IsTable fields table)
    (isSlot : IsSlot slot) (here : fields.lookup slot = some (.offset place))
    (isText : buffer.IsText text (buffer.size - place)) :
    buffer.text? table slot = .ok (some text) := by
  refine isTable.field?_some isSlot here fun position contains => ?_
  rw [contains.2]
  exact isText.textAt

theorem tables {place : Nat} {targets : List Nat} (isTable : buffer.IsTable fields table)
    (isSlot : IsSlot slot) (here : fields.lookup slot = some (.offset place))
    (isVector : buffer.IsVector targets (buffer.size - place)) :
    buffer.tables table slot = .ok targets := by
  have found : buffer.field? table slot (fun position => do
      let vector ← buffer.follow position
      buffer.targets vector) = .ok (some targets) := by
    refine isTable.field?_some isSlot here fun position contains => ?_
    rw [contains.2]
    exact isVector.targets
  rw [Buffer.tables, found]
  rfl

theorem texts? {place : Nat} {targets : List Nat} {texts : List String}
    (isTable : buffer.IsTable fields table) (isSlot : IsSlot slot)
    (here : fields.lookup slot = some (.offset place))
    (isVector : buffer.IsVector targets (buffer.size - place))
    (areTexts : targets.mapM buffer.textAt = .ok texts) :
    buffer.texts? table slot = .ok (some texts) := by
  refine isTable.field?_some isSlot here fun position contains => ?_
  rw [contains.2]
  show (buffer.targets (buffer.size - place)).bind _ = _
  rw [isVector.targets]
  exact areTexts

end IsTable

end FeatureFlags.Buffer
