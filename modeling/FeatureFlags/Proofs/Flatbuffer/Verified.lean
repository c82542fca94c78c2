import FeatureFlags.Proofs.Flatbuffer.Visit

/-!
**What a buffer that keeps to a schema holds.**

A visit that succeeds has seen all that can be reached from where it began: every number and every
offset lies inside of the buffer, so does every layout, every vector and every text, the texts are
UTF-8, and no required field is absent. Of budgets and alignment nothing is left to say, since no
reader asks for them. A reader that goes by the schema then finds what the schema says, and never
leaves the buffer, whatever octets it is made of.

* `Decoded.Ends`: how a computation may fail, and what it gives otherwise.
* `Buffer.Holds`, `Buffer.HoldsTable`: what lies in a buffer by a schema.
* `Buffer.holds_of_visitShape`: what was visited lies in the buffer.
* `Buffer.HoldsTable.number?`, `Buffer.HoldsTable.text?`, `Buffer.HoldsTable.tables`: the readers.
-/

namespace FeatureFlags

/-! ### How readers end -/

namespace Decoded

variable {α β : Type} {causes : DecodeError → Prop} {post : α → Prop} {next : β → Prop}
  {result : Decoded α}

/-- A result is a value with a property, or an error for one of some causes. -/
def Ends (causes : DecodeError → Prop) (post : α → Prop) : Decoded α → Prop
  | .ok value => post value
  | .error cause => causes cause

theorem Ends.weaken {weaker : α → Prop} (ends : Ends causes post result)
    (weaken : ∀ value, post value → weaker value) : Ends causes weaker result := by
  cases result with
  | ok value => exact weaken value ends
  | error cause => exact ends

theorem Ends.bind {further : α → Decoded β} (ends : Ends causes post result)
    (then_ends : ∀ value, post value → Ends causes next (further value)) :
    Ends causes next (result >>= further) := by
  cases result with
  | ok value => exact then_ends value ends
  | error cause => exact ends

theorem Ends.map {f : α → β} (ends : Ends causes (fun value => next (f value)) result) :
    Ends causes next (Except.map f result) := by
  cases result with
  | ok value => exact ends
  | error cause => exact ends

/-- Results that end one by one end together, each with its property. -/
theorem Ends.mapM {read : α → Decoded β} {each : α → β → Prop} {items : List α}
    (ends : ∀ item ∈ items, Ends causes (each item) (read item)) :
    Ends causes (List.Forall₂ each items) (items.mapM read) := by
  induction items with
  | nil => exact .nil
  | cons head tail ih =>
    rw [List.mapM_cons]
    refine (ends head List.mem_cons_self).bind fun first isFirst => ?_
    refine (ih fun item member => ends item (List.mem_cons_of_mem _ member)).bind
      fun rest areRest => ?_
    exact .cons isFirst areRest

theorem forall_of_forall₂ {items : List α} {results : List β}
    (each : List.Forall₂ (fun _ => next) items results) : ∀ result ∈ results, next result := by
  induction each with
  | nil => simp
  | cons first _ ih => exact List.forall_mem_cons.mpr ⟨first, ih⟩

/-- A result that cannot be an error is a value. -/
theorem Ends.exists_ok (ends : Ends (fun _ => False) post result) :
    ∃ value, result = .ok value ∧ post value := by
  cases result with
  | ok value => exact ⟨value, rfl, ends⟩
  | error cause => exact ends.elim

end Decoded

/-- What a schema says of a slot: whether it is required, and what lies there. -/
def Slots.at? : Slots → Nat → Option (Bool × Shape)
  | .none, _ => .none
  | .also rest slot required shape, wanted =>
    if slot = wanted then some (required, shape) else rest.at? wanted

namespace Buffer

variable {buffer : Buffer}

/-! ### What lies where -/

/-- A text lies in the buffer: its length, and octets that make a text. -/
def HoldsText (buffer : Buffer) (position : Nat) : Prop :=
  ∃ length, buffer.word 4 position = .ok length ∧ position + 4 + length ≤ buffer.size ∧
    ∃ content text, buffer.slice (position + 4) length = .ok content ∧ content.text? = some text

/-- An offset lies in the buffer, and something where it points to. -/
def HoldsOffset (buffer : Buffer) (there : Nat → Prop) (position : Nat) : Prop :=
  position + 4 ≤ buffer.size ∧
    ∃ distance, buffer.word 4 position = .ok distance ∧ there (position + distance)

/-- A vector of offsets lies in the buffer, and something where each points to. -/
def HoldsVector (buffer : Buffer) (there : Nat → Prop) (position : Nat) : Prop :=
  ∃ length, buffer.word 4 position = .ok length ∧ position + 4 + 4 * length ≤ buffer.size ∧
    ∀ index < length, buffer.HoldsOffset there (position + 4 + 4 * index)

/-- The layout of a table lies in the buffer, and fields by where it lies and how long it is. -/
def HoldsLayout (buffer : Buffer) (fields : Nat → Nat → Nat → Prop) (table : Nat) : Prop :=
  ∃ layout length, buffer.layout table = .ok layout ∧ buffer.word 2 layout = .ok length ∧
    layout + length ≤ buffer.size ∧ fields table layout length

mutual

/-- A field lies in the buffer, and all that it leads to. -/
def Holds (buffer : Buffer) : Shape → Nat → Prop
  | .number count => fun position => position + count ≤ buffer.size
  | .text => buffer.HoldsOffset buffer.HoldsText
  | .texts => buffer.HoldsOffset (buffer.HoldsVector buffer.HoldsText)
  | .table slots => buffer.HoldsOffset (buffer.HoldsLayout (buffer.HoldsFields slots))
  | .tables slots =>
    buffer.HoldsOffset (buffer.HoldsVector (buffer.HoldsLayout (buffer.HoldsFields slots)))

/-- The fields of a table lie in the buffer, and all that they lead to; none that is required is
absent. -/
def HoldsFields (buffer : Buffer) : Slots → Nat → Nat → Nat → Prop
  | .none, _, _, _ => True
  | .also rest slot required shape, table, layout, length =>
    buffer.HoldsFields rest table layout length ∧
      if slot < length then
        ∃ offset, buffer.word 2 (layout + slot) = .ok offset ∧
          if offset = 0 then required = false else buffer.Holds shape (table + offset)
      else required = false

end

/-- **A text lies in the buffer exactly if it can be read.** -/
theorem holdsText_iff {position : Nat} :
    buffer.HoldsText position ↔ ∃ text, buffer.textAt position = .ok text := by
  unfold HoldsText textAt
  constructor
  · rintro ⟨length, isLength, _, content, text, isContent, isText⟩
    refine ⟨text, ?_⟩
    simp only [isLength, bind, Except.bind, isContent, isText]
  · rintro ⟨text, read⟩
    cases isLength : buffer.word 4 position with
    | error reason => simp [isLength, bind, Except.bind] at read
    | ok length =>
      cases isContent : buffer.slice (position + 4) length with
      | error reason => simp [isLength, isContent, bind, Except.bind] at read
      | ok content =>
        cases isText : content.text? with
        | none => simp [isLength, isContent, isText, bind, Except.bind, outside] at read
        | some found =>
          exact ⟨length, rfl, inside_of_slice isContent, content, found, isContent, isText⟩

/-! ### What a visit has seen -/

section Visits

variable {position count value table layout length slot : Nat} {budget rest : Budget}
  {visit : Nat → Budget → Option Budget} {there : Nat → Prop}

theorem inside_of_visitOctets (visited : buffer.visitOctets position count budget = some rest) :
    position + count ≤ buffer.size := by
  unfold visitOctets at visited
  split at visited
  case isTrue within => exact within.1
  case isFalse => cases visited

theorem word_of_visitNumber
    (visited : buffer.visitNumber count position budget = some (value, rest)) :
    buffer.word count position = .ok value := by
  unfold visitNumber at visited
  by_cases aligned : position % count = 0
  · cases found : buffer.word count position <;>
      simp_all [Option.bind_eq_some_iff, Except.toOption]
  · simp [aligned] at visited

theorem holdsOffset_of_visitThrough
    (visited : buffer.visitThrough visit position budget = some rest)
    (each : ∀ target before after, visit target before = some after → there target) :
    buffer.HoldsOffset there position := by
  unfold visitThrough visitOffset at visited
  simp only [Option.bind_eq_bind, Option.bind_eq_some_iff] at visited
  obtain ⟨⟨target, left⟩, ⟨⟨distance, budget⟩, found, same⟩, visited⟩ := visited
  cases same
  have isDistance := word_of_visitNumber found
  exact ⟨inside_of_word isDistance, distance, isDistance, each _ _ _ visited⟩

theorem of_visitAll {positions : List Nat}
    (visited : visitAll visit positions budget = some rest)
    (each : ∀ target before after, visit target before = some after → there target) :
    ∀ target ∈ positions, there target := by
  induction positions generalizing budget with
  | nil => simp
  | cons head tail ih =>
    simp only [visitAll, Option.bind_eq_bind, Option.bind_eq_some_iff] at visited
    obtain ⟨left, first, visited⟩ := visited
    exact List.forall_mem_cons.mpr ⟨each _ _ _ first, ih visited⟩

theorem holdsText_of_visitText (visited : buffer.visitText position budget = some rest) :
    buffer.HoldsText position := by
  unfold visitText at visited
  simp only [Option.bind_eq_bind, Option.bind_eq_some_iff] at visited
  obtain ⟨⟨length, _⟩, _, _, _, text, read, _⟩ := visited
  rw [holdsText_iff]
  cases found : buffer.textAt position with
  | error reason => simp [found, Except.toOption] at read
  | ok text => exact ⟨text, rfl⟩

theorem holdsVector_of_visits {elements : List Nat} {left : Budget}
    (listed : buffer.visitVector position budget = some (elements, left))
    (visited : visitAll (buffer.visitThrough visit) elements left = some rest)
    (each : ∀ target before after, visit target before = some after → there target) :
    buffer.HoldsVector there position := by
  unfold visitVector at listed
  simp only [Option.bind_eq_bind, Option.bind_eq_some_iff] at listed
  obtain ⟨⟨length, _⟩, found, _, inside, same⟩ := listed
  cases same
  refine ⟨length, word_of_visitNumber found, inside_of_visitOctets inside, fun index small => ?_⟩
  refine of_visitAll visited (fun _ _ _ seen => holdsOffset_of_visitThrough seen each) _ ?_
  exact List.mem_map.mpr ⟨index, List.mem_range.mpr small, rfl⟩

theorem layout_of_visitLayout
    (visited : buffer.visitLayout table budget = some ((layout, length), rest)) :
    buffer.layout table = .ok layout ∧ buffer.word 2 layout = .ok length ∧
      layout + length ≤ buffer.size := by
  unfold visitLayout at visited
  simp only [Option.bind_eq_bind, Option.bind_eq_some_iff] at visited
  obtain ⟨⟨distance, _⟩, back, place, isPlace, visited⟩ := visited
  split at visited
  case isTrue => cases visited
  simp only [Option.bind_eq_some_iff] at visited
  obtain ⟨⟨extent, _⟩, isLength, visited⟩ := visited
  split at visited
  case isTrue => cases visited
  simp only [Option.bind_eq_some_iff] at visited
  obtain ⟨left, inside, visited⟩ := visited
  split at visited
  case isTrue => cases visited
  cases visited
  refine ⟨?_, word_of_visitNumber isLength, inside_of_visitOctets inside⟩
  simp only [Buffer.layout, word_of_visitNumber back, bind, Except.bind, isPlace]

/-- A slot that was visited can be read, and what was found there is where its field lies. -/
theorem slot_of_visitSlot {field : Option Nat}
    (visited : buffer.visitSlot table layout length slot budget = some (field, rest)) :
    if slot < length then
      ∃ offset, buffer.word 2 (layout + slot) = .ok offset ∧
        field = if offset = 0 then none else some (table + offset)
    else field = none := by
  unfold visitSlot at visited
  split at visited
  case isTrue reached =>
    simp only [Option.bind_eq_bind, Option.bind_eq_some_iff] at visited
    obtain ⟨⟨offset, _⟩, found, same⟩ := visited
    cases same
    rw [if_pos reached]
    exact ⟨offset, word_of_visitNumber found, rfl⟩
  case isFalse beyond =>
    cases visited
    rw [if_neg beyond]

/-- A table that was visited lies in the buffer if its fields do where they were visited. -/
theorem holdsLayout_of_visits {fields : Nat → Nat → Nat → Prop}
    {visits : Nat → Nat → Nat → Budget → Option Budget}
    (visited : (do
      let ((layout, length), budget) ← buffer.visitLayout table budget
      visits table layout length budget) = some rest)
    (each : ∀ layout length before after,
      visits table layout length before = some after → fields table layout length) :
    buffer.HoldsLayout fields table := by
  simp only [Option.bind_eq_bind, Option.bind_eq_some_iff] at visited
  obtain ⟨⟨⟨layout, length⟩, left⟩, laid, visited⟩ := visited
  obtain ⟨isLayout, isLength, inside⟩ := layout_of_visitLayout laid
  exact ⟨layout, length, isLayout, isLength, inside, each _ _ _ _ visited⟩

end Visits

mutual

-- The induction is on the schema. What is left of the budget does not matter, only that the visit
-- went on to the end.

/-- **A field that was visited lies in the buffer, and all that it leads to.** -/
theorem holds_of_visitShape {position : Nat} {budget rest : Budget} : (shape : Shape) →
    buffer.visitShape shape position budget = some rest → buffer.Holds shape position
  | .number count, visited => by
    simp only [visitShape, Option.map_eq_some_iff] at visited
    obtain ⟨⟨value, left⟩, found, rfl⟩ := visited
    exact inside_of_word (word_of_visitNumber found)
  | .text, visited =>
    holdsOffset_of_visitThrough visited fun _ _ _ => holdsText_of_visitText
  | .texts, visited => by
    rw [visitShape] at visited
    refine holdsOffset_of_visitThrough visited fun vector before after seen => ?_
    simp only [Option.bind_eq_bind, Option.bind_eq_some_iff] at seen
    obtain ⟨⟨elements, left⟩, listed, seen⟩ := seen
    exact holdsVector_of_visits listed seen fun _ _ _ => holdsText_of_visitText
  | .table slots, visited => by
    rw [visitShape] at visited
    refine holdsOffset_of_visitThrough visited fun table before after seen => ?_
    exact holdsLayout_of_visits seen fun _ _ _ _ => holdsFields_of_visitSlots slots
  | .tables slots, visited => by
    rw [visitShape] at visited
    refine holdsOffset_of_visitThrough visited fun vector before after seen => ?_
    simp only [Option.bind_eq_bind, Option.bind_eq_some_iff] at seen
    obtain ⟨⟨elements, left⟩, listed, seen⟩ := seen
    refine holdsVector_of_visits listed seen fun table before after seen => ?_
    exact holdsLayout_of_visits seen fun _ _ _ _ => holdsFields_of_visitSlots slots

/-- **Fields that were visited lie in the buffer, and all that they lead to.** -/
theorem holdsFields_of_visitSlots {table layout length : Nat} {budget rest : Budget} :
    (slots : Slots) → buffer.visitSlots slots table layout length budget = some rest →
      buffer.HoldsFields slots table layout length
  | .none, _ => trivial
  | .also before slot required shape, visited => by
    simp only [visitSlots, Option.bind_eq_bind, Option.bind_eq_some_iff] at visited
    obtain ⟨left, earlier, ⟨field, budget⟩, found, visited⟩ := visited
    refine ⟨holdsFields_of_visitSlots before earlier, ?_⟩
    have read := slot_of_visitSlot found
    by_cases reached : slot < length
    · rw [if_pos reached] at read ⊢
      obtain ⟨offset, isOffset, rfl⟩ := read
      refine ⟨offset, isOffset, ?_⟩
      by_cases absent : offset = 0
      · rw [if_pos absent]
        by_cases needed : required = true
        · simp [absent, needed] at visited
        · simpa using needed
      · rw [if_neg absent]
        simp only [if_neg absent] at visited
        exact holds_of_visitShape shape visited
    · rw [if_neg reached] at read ⊢
      subst read
      by_cases needed : required = true
      · simp [needed] at visited
      · simpa using needed

end

/-- A table lies in the buffer, and all that it leads to. -/
def HoldsTable (buffer : Buffer) (slots : Slots) (table : Nat) : Prop :=
  buffer.HoldsLayout (buffer.HoldsFields slots) table

/-! ### What readers find -/

/-- What is found in a slot has a property, and it is there if it is required. -/
structure Found {α : Type} (required : Bool) (post : α → Prop) (found : Option α) : Prop where
  each : ∀ value ∈ found, post value
  present : required = true → found.isSome

section Readers

open Decoded

variable {slots inner : Slots} {table slot position : Nat} {required : Bool} {shape : Shape}
  {causes : DecodeError → Prop} {there : Nat → Prop}

theorem HoldsFields.field {layout length : Nat} : {slots : Slots} →
    buffer.HoldsFields slots table layout length → slots.at? slot = some (required, shape) →
      if slot < length then
        ∃ offset, buffer.word 2 (layout + slot) = .ok offset ∧
          if offset = 0 then required = false else buffer.Holds shape (table + offset)
      else required = false
  | .none, _, has => by cases has
  | .also rest other _ _, ⟨before, here⟩, has => by
    rw [Slots.at?] at has
    split at has
    case isTrue same =>
      cases has
      subst same
      exact here
    case isFalse => exact before.field has

/-- Where the field of a slot lies is known, and it lies in the buffer. -/
theorem HoldsTable.fieldPosition (holds : buffer.HoldsTable slots table)
    (has : slots.at? slot = some (required, shape)) :
    Ends causes (Found required (buffer.Holds shape)) (buffer.fieldPosition table slot) := by
  obtain ⟨layout, length, isLayout, isLength, _, fields⟩ := holds
  have field := fields.field has
  simp only [Buffer.fieldPosition, isLayout, isLength, bind, Except.bind]
  by_cases reached : slot < length
  · rw [if_pos reached] at field ⊢
    obtain ⟨offset, isOffset, field⟩ := field
    rw [isOffset]
    by_cases absent : offset = 0
    · rw [if_pos absent] at field
      exact ⟨by simp [absent], by simp [field]⟩
    · rw [if_neg absent] at field
      exact ⟨by simpa [absent] using field, by simp [absent]⟩
  · rw [if_neg reached] at field ⊢
    exact ⟨by simp, by simp [field]⟩

theorem HoldsTable.field? {α : Type} {post : α → Prop} {read : Nat → Decoded α}
    (holds : buffer.HoldsTable slots table) (has : slots.at? slot = some (required, shape))
    (reads : ∀ position, buffer.Holds shape position → Ends causes post (read position)) :
    Ends causes (Found required post) (buffer.field? table slot read) := by
  refine (holds.fieldPosition has).bind fun field isField => ?_
  cases field with
  | none => exact ⟨by simp, isField.present⟩
  | some position =>
    refine Ends.map ((reads position (isField.each position rfl)).weaken fun value isValue => ?_)
    exact ⟨by simpa using isValue, fun _ => rfl⟩

/-! #### Numbers -/

theorem HoldsTable.number? {count : Nat} (holds : buffer.HoldsTable slots table)
    (has : slots.at? slot = some (required, .number count)) :
    Ends causes (Found required fun _ => True) (buffer.number? count table slot) := by
  refine holds.field? has fun position inside => ?_
  rw [Holds] at inside
  rw [word, slice, if_pos inside]
  trivial

theorem HoldsTable.number {count default : Nat} (holds : buffer.HoldsTable slots table)
    (has : slots.at? slot = some (required, .number count)) :
    Ends causes (fun _ => True) (buffer.number count default table slot) :=
  Ends.map ((holds.number? has).weaken fun _ _ => trivial)

theorem HoldsTable.bool {default : Bool} (holds : buffer.HoldsTable slots table)
    (has : slots.at? slot = some (required, .number 1)) :
    Ends causes (fun _ => True) (buffer.bool default table slot) :=
  Ends.map ((holds.number? has).weaken fun _ _ => trivial)

/-! #### Texts, tables and vectors -/

theorem HoldsOffset.follow (holds : buffer.HoldsOffset there position) :
    Ends causes there (buffer.follow position) := by
  obtain ⟨_, distance, found, target⟩ := holds
  rw [Buffer.follow, found]
  exact target

theorem HoldsText.textAt (holds : buffer.HoldsText position) :
    Ends causes (fun _ => True) (buffer.textAt position) := by
  obtain ⟨text, read⟩ := holdsText_iff.mp holds
  rw [read]
  trivial

theorem HoldsVector.targets (holds : buffer.HoldsVector there position) :
    Ends causes (fun targets => ∀ target ∈ targets, there target) (buffer.targets position) := by
  obtain ⟨length, isLength, inside, elements⟩ := holds
  have each : Ends causes (List.Forall₂ (fun _ => there) (List.range length))
      ((List.range length).mapM fun index => buffer.follow (position + 4 + 4 * index)) :=
    Ends.mapM fun index small => (elements index (List.mem_range.mp small)).follow
  rw [Buffer.targets, isLength]
  show Ends causes _ (if position + 4 + 4 * length ≤ buffer.size then _ else outside)
  rw [if_pos inside]
  exact each.weaken fun targets each => forall_of_forall₂ each

theorem HoldsTable.text? (holds : buffer.HoldsTable slots table)
    (has : slots.at? slot = some (required, .text)) :
    Ends causes (Found required fun _ => True) (buffer.text? table slot) := by
  refine holds.field? has fun position field => ?_
  rw [Holds] at field
  exact field.follow.bind fun target isText => isText.textAt

theorem HoldsTable.table? (holds : buffer.HoldsTable slots table)
    (has : slots.at? slot = some (required, .table inner)) :
    Ends causes (Found required (buffer.HoldsTable inner)) (buffer.table? table slot) := by
  refine holds.field? has fun position field => ?_
  rw [Holds] at field
  exact field.follow

theorem HoldsTable.tables (holds : buffer.HoldsTable slots table)
    (has : slots.at? slot = some (required, .tables inner)) :
    Ends causes (fun targets => ∀ target ∈ targets, buffer.HoldsTable inner target)
      (buffer.tables table slot) := by
  have ends : Ends causes
      (Found required fun targets => ∀ target ∈ targets, buffer.HoldsTable inner target)
      (buffer.field? table slot fun position => do
        let vector ← buffer.follow position
        buffer.targets vector) := by
    refine holds.field? has fun position field => ?_
    rw [Holds] at field
    exact field.follow.bind fun vector isVector => isVector.targets
  refine ends.bind fun found isFound => ?_
  cases found with
  | none => exact fun target member => absurd member List.not_mem_nil
  | some targets => exact isFound.each targets rfl

theorem HoldsTable.texts? (holds : buffer.HoldsTable slots table)
    (has : slots.at? slot = some (required, .texts)) :
    Ends causes (Found required fun _ => True) (buffer.texts? table slot) := by
  refine holds.field? has fun position field => ?_
  rw [Holds] at field
  refine field.follow.bind fun vector isVector => isVector.targets.bind fun targets areTexts => ?_
  have each : Ends causes (List.Forall₂ (fun _ _ => True) targets) (targets.mapM buffer.textAt) :=
    Ends.mapM fun target member => (areTexts target member).textAt
  exact each.weaken fun _ _ => trivial

end Readers

end Buffer

end FeatureFlags
