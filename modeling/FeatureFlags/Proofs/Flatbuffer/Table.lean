import FeatureFlags.Proofs.Flatbuffer.Builder
import Mathlib.Data.List.Forall2

/-!
**A table stands where a builder has put it, with the fields that were given.**

The fields of a table are put in front one by one, so each has a place. The layout says how far each
place lies from the place of the table, and is shared by all tables with the same layout; a shared
layout lies behind the table, a new one before it.

* `Builder.Fits`, `Builder.FieldsFit`: fields that a table can have.
* `Builder.putFields_related`: each field stands at its place.
* `Buffer.isTableAt_of_layout`: a table is known from its layout.
* `Builder.putTable_stands`: the table stands at its place.
-/

namespace FeatureFlags

/-! ### Lists of pairs -/

/-- Pairs with the same number and related contents. -/
def Paired {α β : Type} (related : α → β → Prop) (left : Nat × α) (right : Nat × β) : Prop :=
  left.1 = right.1 ∧ related left.2 right.2

theorem lookup_of_paired {α β : Type} {related : α → β → Prop} {first : List (Nat × α)}
    {second : List (Nat × β)} (each : List.Forall₂ (Paired related) first second) (key : Nat) :
    Option.Rel related (first.lookup key) (second.lookup key) := by
  induction each with
  | nil => exact .none
  | @cons left right _ _ head _ ih =>
    obtain ⟨left, content⟩ := left
    obtain ⟨right, other⟩ := right
    obtain ⟨same, here⟩ := head
    cases same
    rw [List.lookup_cons, List.lookup_cons]
    by_cases found : key = left
    · rw [beq_iff_eq.2 found]
      exact .some here
    · rw [beq_eq_false_iff_ne.2 found]
      exact ih

theorem mem_of_lookup {α β : Type} [BEq α] [LawfulBEq α] {entries : List (α × β)} {key : α}
    {value : β} (found : entries.lookup key = some value) : (key, value) ∈ entries := by
  obtain ⟨before, after, whole, _⟩ := List.lookup_eq_some_iff.1 found
  rw [whole]
  exact List.mem_append_right before List.mem_cons_self

/-! ### Layouts -/

theorem le_foldr_max {values : List Nat} {value : Nat} (member : value ∈ values) :
    value ≤ values.foldr max 0 := by
  induction values with
  | nil => cases member
  | cons head rest ih =>
    rcases List.mem_cons.1 member with rfl | inRest
    · exact Nat.le_max_left _ _
    · exact Nat.le_trans (ih inRest) (Nat.le_max_right _ _)

theorem foldr_max_lt {values : List Nat} {bound : Nat} (positive : 0 < bound)
    (each : ∀ value ∈ values, value < bound) : values.foldr max 0 < bound := by
  induction values with
  | nil => exact positive
  | cons head rest ih =>
    exact Nat.max_lt.2 ⟨each head List.mem_cons_self,
      ih fun value member => each value (List.mem_cons_of_mem head member)⟩

namespace Buffer

theorem lt_layoutLength {slots : List Nat} {slot : Nat} (member : slot ∈ slots)
    (isSlot : IsSlot slot) : slot < layoutLength slots := by
  have below := le_foldr_max (List.mem_map_of_mem (f := fun slot => (slot - 2) / 2) member)
  obtain ⟨four, even⟩ := isSlot
  unfold layoutLength
  omega

theorem layoutLength_lt {slots : List Nat} (small : ∀ slot ∈ slots, slot < 64) :
    layoutLength slots < 128 := by
  have below : (slots.map fun slot => (slot - 2) / 2).foldr max 0 < 32 := by
    refine foldr_max_lt (by decide) fun value member => ?_
    obtain ⟨slot, inside, rfl⟩ := List.mem_map.1 member
    have bound := small slot inside
    omega
  unfold layoutLength
  omega

theorem length_flatMap_littleEndian {α : Type} (items : List α) (value : α → Nat) :
    (items.flatMap fun item => littleEndian 2 (value item)).length = 2 * items.length := by
  induction items with
  | nil => rfl
  | cons head rest ih =>
    rw [List.flatMap_cons, List.length_append, length_littleEndian, ih, List.length_cons]
    omega

theorem length_layoutOctets (slots : List Nat) (tableLength : Nat)
    (offsets : List (Nat × Nat)) :
    (Builder.layoutOctets (layoutLength slots) tableLength offsets).length =
      layoutLength slots := by
  have even : layoutLength slots = 4 + 2 * ((layoutLength slots - 4) / 2) := by
    unfold layoutLength
    omega
  rw [Builder.layoutOctets, List.length_append, List.length_append, length_littleEndian,
    length_littleEndian, length_flatMap_littleEndian, List.length_range]
  exact even.symm

/-- The entry of a slot lies at the slot itself, counted from the layout. -/
theorem word_of_layoutOctets {buffer : Buffer} {layout tableLength slot : Nat} {slots : List Nat}
    {offsets : List (Nat × Nat)}
    (has : buffer.Has layout (Builder.layoutOctets (layoutLength slots) tableLength offsets))
    (isSlot : IsSlot slot) (reached : slot < layoutLength slots)
    (fits : (offsets.lookup slot).getD 0 < 256 ^ 2) :
    buffer.word 2 (layout + slot) = .ok ((offsets.lookup slot).getD 0) := by
  have even := layoutLength_even slots
  obtain ⟨four, slotEven⟩ := isSlot
  have bound : (slot - 4) / 2 < (List.range ((layoutLength slots - 4) / 2)).length := by
    rw [List.length_range]
    omega
  have here := Has.flatMap (fun _ _ => length_littleEndian 2 _) has.right ((slot - 4) / 2) bound
  have isSlot : 4 + 2 * ((slot - 4) / 2) = slot := by omega
  rw [List.getElem_range, List.length_append, length_littleEndian, length_littleEndian, isSlot,
    Nat.add_assoc, isSlot] at here
  exact here.word fits

/-- A field lies at an offset into a table, which a layout can list. -/
def FieldAt (buffer : Buffer) (table : Nat) (content : SlotContent) (offset : Nat) : Prop :=
  0 < offset ∧ offset < 256 ^ 2 ∧ buffer.Contains content (table + offset)

/-- **A table is known from its layout**: where the layout lists an offset, a field lies that far
into the table. -/
theorem isTableAt_of_layout {buffer : Buffer} {fields : List (Nat × SlotContent)}
    {offsets : List (Nat × Nat)} {layout table tableLength : Nat}
    (aligned : table % 4 = 0)
    (back : ∃ distance, buffer.word 4 table = .ok distance ∧ backward table distance = some layout)
    (layoutAligned : layout % 2 = 0)
    (has : buffer.Has layout
      (Builder.layoutOctets (layoutLength (fields.map Prod.fst)) tableLength offsets))
    (slots : ∀ field ∈ fields, IsSlot field.1 ∧ field.1 < 64)
    (related : List.Forall₂ (Paired (buffer.FieldAt table)) fields offsets) :
    buffer.IsTableAt fields layout table := by
  have small : layoutLength (fields.map Prod.fst) < 256 ^ 2 := by
    refine Nat.lt_trans (layoutLength_lt fun slot member => ?_) (by decide)
    obtain ⟨field, inside, rfl⟩ := List.mem_map.1 member
    exact (slots field inside).2
  have whole := has.inside
  rw [length_layoutOctets] at whole
  refine ⟨aligned, back, layoutAligned, has.left.left.word small, whole, ?_, ?_⟩
  · intro slot isSlot reached absent
    have entry := word_of_layoutOctets has isSlot reached
    have lookups := lookup_of_paired related slot
    rw [absent] at lookups
    generalize offsets.lookup slot = listed at lookups entry
    cases lookups
    exact entry (by decide)
  · intro slot content isSlot present
    have reached : slot < layoutLength (fields.map Prod.fst) :=
      lt_layoutLength (List.mem_map_of_mem (f := Prod.fst) (mem_of_lookup present)) isSlot
    have entry := word_of_layoutOctets has isSlot reached
    have lookups := lookup_of_paired related slot
    rw [present] at lookups
    generalize offsets.lookup slot = listed at lookups entry
    cases lookups with
    | @some _ offset here =>
      obtain ⟨positive, fits, contains⟩ := here
      exact ⟨reached, offset, Nat.ne_of_gt positive, entry fits, contains⟩

end Buffer

namespace Builder

variable {builder : Builder}

/-! ### Fields -/

/-- A field that can be put in front: a number that fits, or an offset to what is there. -/
def Fits (used : Nat) : SlotContent → Prop
  | .number count value => (count = 1 ∨ count = 4 ∨ count = 8) ∧ value < 256 ^ count
  | .offset place => place ≤ used

theorem Fits.mono {used more : Nat} {content : SlotContent} (fits : Fits used content)
    (le : used ≤ more) : Fits more content := by
  cases content with
  | number count value => exact fits
  | offset place => exact Nat.le_trans fits le

theorem dvd_eight {count : Nat} (isCount : count = 1 ∨ count = 4 ∨ count = 8) :
    0 < count ∧ count ∣ 8 ∧ count ≤ 8 := by
  rcases isCount with rfl | rfl | rfl <;> decide

section Field

variable {content : SlotContent}

theorem putField_extends (sound : builder.Sound) (fits : Fits builder.used content) :
    (builder.putField content).Extends builder := by
  cases content with
  | number count value => exact putNumber_extends sound (dvd_eight fits.1).2.1
  | offset place => exact putOffset_extends sound

theorem Sound.putField (sound : builder.Sound) (fits : Fits builder.used content) :
    (builder.putField content).Sound := by
  cases content with
  | number count value => exact sound.putNumber (dvd_eight fits.1).2.1
  | offset place => exact sound.putOffset

theorem putField_stands (sound : builder.Sound) (fits : Fits builder.used content) :
    (builder.putField content).Stands (fun buffer position => buffer.Contains content position)
      (builder.putField content).used := by
  cases content with
  | number count value =>
    obtain ⟨positive, divides, _⟩ := dvd_eight fits.1
    exact putNumber_stands sound positive divides fits.2
  | offset place => exact putOffset_stands sound fits

/-- A field takes an octet at least, and with its padding no more than fifteen. -/
theorem used_putField (sound : builder.Sound) (fits : Fits builder.used content) :
    builder.used < (builder.putField content).used ∧
      (builder.putField content).used ≤ builder.used + 15 := by
  cases content with
  | number count value =>
    obtain ⟨positive, divides, small⟩ := dvd_eight fits.1
    have grown := (align_extends count sound divides).used_le
    have bound := used_align_lt builder count positive
    have used := used_putNumber count value builder
    show _ < (builder.putNumber count value).used ∧ (builder.putNumber count value).used ≤ _
    omega
  | offset place =>
    have grown := (align_extends 4 sound (by decide : 4 ∣ 8)).used_le
    have bound := used_align_lt builder 4 (by decide : 0 < 4)
    have used := used_putOffset place builder
    show _ < (builder.putOffset place).used ∧ (builder.putOffset place).used ≤ _
    omega

end Field

section Fields

variable {fields : List (Nat × SlotContent)}

theorem putFields_extends (sound : builder.Sound)
    (fits : ∀ field ∈ fields, Fits builder.used field.2) :
    (builder.putFields fields).2.Sound ∧ (builder.putFields fields).2.Extends builder := by
  induction fields generalizing builder with
  | nil => exact ⟨sound, Extends.refl builder⟩
  | cons field rest ih =>
    have here := fits field List.mem_cons_self
    have grown := putField_extends sound here
    have others := ih (sound.putField here) fun other member =>
      (fits other (List.mem_cons_of_mem field member)).mono grown.used_le
    exact ⟨others.1, others.2.trans grown⟩

theorem used_putFields_le (sound : builder.Sound)
    (fits : ∀ field ∈ fields, Fits builder.used field.2) :
    (builder.putFields fields).2.used ≤ builder.used + 15 * fields.length := by
  induction fields generalizing builder with
  | nil => exact Nat.le_refl _
  | cons field rest ih =>
    have here := fits field List.mem_cons_self
    have grown := putField_extends sound here
    have bound := (used_putField sound here).2
    have others := ih (sound.putField here) fun other member =>
      (fits other (List.mem_cons_of_mem field member)).mono grown.used_le
    rw [List.length_cons]
    show ((builder.putField field.2).putFields rest).2.used ≤ _
    omega

/-- **Each field stands at its place**, which lies behind what was there before. -/
theorem putFields_related (sound : builder.Sound)
    (fits : ∀ field ∈ fields, Fits builder.used field.2) :
    List.Forall₂ (Paired fun content place => builder.used < place ∧
        (builder.putFields fields).2.Stands (fun buffer position => buffer.Contains content position)
          place)
      fields (builder.putFields fields).1 := by
  induction fields generalizing builder with
  | nil => exact .nil
  | cons field rest ih =>
    have here := fits field List.mem_cons_self
    have grown := putField_extends sound here
    have bound := (used_putField sound here).1
    have restFits : ∀ other ∈ rest, Fits (builder.putField field.2).used other.2 :=
      fun other member => (fits other (List.mem_cons_of_mem field member)).mono grown.used_le
    have others := ih (sound.putField here) restFits
    have growth := (putFields_extends (sound.putField here) restFits).2
    refine .cons ⟨rfl, bound, (putField_stands sound here).extend growth⟩ ?_
    exact others.imp fun other place related =>
      ⟨related.1, Nat.lt_trans bound related.2.1, related.2.2⟩

theorem map_fst_putFields (fields : List (Nat × SlotContent)) (builder : Builder) :
    (builder.putFields fields).1.map Prod.fst = fields.map Prod.fst := by
  induction fields generalizing builder with
  | nil => rfl
  | cons field rest ih => exact congrArg (field.1 :: ·) (ih (builder.putField field.2))

end Fields

/-! ### Tables -/

/-- Fields that a table can have. -/
structure FieldsFit (used : Nat) (fields : List (Nat × SlotContent)) : Prop where
  fits : ∀ field ∈ fields, Fits used field.2
  slots : ∀ field ∈ fields, Buffer.IsSlot field.1 ∧ field.1 < 64
  few : fields.length ≤ 16

section Table

/-- What lies behind a table and the distance to its layout. -/
def beforeTable (fields : List (Nat × SlotContent)) (builder : Builder) : Builder :=
  (builder.putFields fields).2.align 4 4

/-- The place of a table. -/
def tablePlace (fields : List (Nat × SlotContent)) (builder : Builder) : Nat :=
  (builder.beforeTable fields).used + 4

/-- How far into a table its fields lie. -/
def tableOffsets (fields : List (Nat × SlotContent)) (builder : Builder) : List (Nat × Nat) :=
  (builder.putFields fields).1.map fun field => (field.1, builder.tablePlace fields - field.2)

/-- The layout of a table. -/
def tableLayout (fields : List (Nat × SlotContent)) (builder : Builder) : Octets :=
  layoutOctets (Buffer.layoutLength (fields.map Prod.fst))
    (builder.tablePlace fields - builder.used) (builder.tableOffsets fields)

/-- A table that shares a layout which stands at a place. -/
def sharingLayout (fields : List (Nat × SlotContent)) (shared : Nat) (builder : Builder) :
    Builder :=
  (builder.beforeTable fields).prepend
    (littleEndian 4 (2 ^ 32 - (builder.tablePlace fields - shared)))

/-- A table with its layout before it. -/
def withLayout (fields : List (Nat × SlotContent)) (builder : Builder) : Builder :=
  ((builder.beforeTable fields).prepend
    (littleEndian 4 (Buffer.layoutLength (fields.map Prod.fst)))).prepend
      (builder.tableLayout fields)

/-- A table with its layout before it, which is noted. -/
def notingLayout (fields : List (Nat × SlotContent)) (builder : Builder) : Builder :=
  { builder.withLayout fields with
    layouts := (builder.tableLayout fields,
      builder.tablePlace fields + Buffer.layoutLength (fields.map Prod.fst)) ::
        (builder.withLayout fields).layouts }

theorem putTable_eq (fields : List (Nat × SlotContent)) (builder : Builder) :
    builder.putTable fields =
      match (builder.beforeTable fields).layouts.lookup (builder.tableLayout fields) with
      | some shared => (builder.sharingLayout fields shared, builder.tablePlace fields)
      | none => (builder.notingLayout fields, builder.tablePlace fields) := by
  have length : 4 + 2 * (((builder.putFields fields).1.map fun field =>
      (field.1 - 2) / 2).foldr max 0) = Buffer.layoutLength (fields.map Prod.fst) := by
    rw [Buffer.layoutLength, ← map_fst_putFields fields builder, List.map_map]
    rfl
  unfold putTable
  simp only [length]
  rfl

variable {fields : List (Nat × SlotContent)}

theorem beforeTable_extends (sound : builder.Sound) (fit : FieldsFit builder.used fields) :
    (builder.beforeTable fields).Sound ∧ (builder.beforeTable fields).Extends builder := by
  have filled := putFields_extends sound fit.fits
  exact ⟨filled.1.align (by decide), (align_extends 4 filled.1 (by decide)).trans filled.2⟩

theorem withLayout_extends : (builder.withLayout fields).Extends (builder.beforeTable fields) :=
  (prepend_extends _ _).trans (prepend_extends _ _)

theorem used_withLayout (fields : List (Nat × SlotContent)) (builder : Builder) :
    (builder.withLayout fields).used =
      builder.tablePlace fields + Buffer.layoutLength (fields.map Prod.fst) := by
  rw [withLayout, used_prepend, used_prepend, tableLayout, Buffer.length_layoutOctets,
    length_littleEndian, tablePlace]
  omega

theorem tablePlace_aligned (fields : List (Nat × SlotContent)) (builder : Builder) :
    builder.tablePlace fields % 4 = 0 := used_align_add _ _ (by decide)

/-- In a buffer that completes the builder the fields lie at their offsets into the table. -/
theorem fields_related {buffer : Buffer} (sound : builder.Sound)
    (fit : FieldsFit builder.used fields)
    (completed : (builder.beforeTable fields).CompletedBy buffer)
    (inside : builder.tablePlace fields ≤ buffer.size) :
    List.Forall₂ (Paired (buffer.FieldAt (buffer.size - builder.tablePlace fields))) fields
      (builder.tableOffsets fields) := by
  have filled := putFields_extends sound fit.fits
  have bound := used_putFields_le sound fit.fits
  have few := fit.few
  have grown := (align_extends 4 filled.1 (by decide : 4 ∣ 8)).used_le
  have padded := used_align_lt (builder.putFields fields).2 4 (by decide : 0 < 4)
  have place : builder.tablePlace fields = ((builder.putFields fields).2.align 4 4).used + 4 := rfl
  rw [tableOffsets, List.forall₂_map_right_iff]
  refine (putFields_related sound fit.fits).imp fun field position related => ?_
  obtain ⟨same, behind, stands⟩ := related
  have here := stands.1
  have contains := stands.2 buffer (completed.before (align_extends 4 filled.1 (by decide)))
  have offset : buffer.size - builder.tablePlace fields + (builder.tablePlace fields - position.2) =
      buffer.size - position.2 := by omega
  refine ⟨same, ?_, ?_, ?_⟩
  · show 0 < builder.tablePlace fields - position.2
    omega
  · show builder.tablePlace fields - position.2 < 65536
    omega
  · rw [offset]
    exact contains

/-- The layout stands behind the table already, so the distance to it is negative. -/
theorem sharingLayout_stands (sound : builder.Sound) (fit : FieldsFit builder.used fields)
    {shared : Nat} (noted : (builder.beforeTable fields).Stands
      (LayoutAt (builder.tableLayout fields)) shared) :
    (builder.sharingLayout fields shared).Stands
      (fun buffer position => buffer.IsTable fields position) (builder.tablePlace fields) := by
  have filled := (putFields_extends sound fit.fits).1
  have fourDivides : 4 ∣ (builder.beforeTable fields).alignment :=
    dvd_alignment_align 4 filled (by decide)
  have used : (builder.sharingLayout fields shared).used = builder.tablePlace fields := by
    rw [sharingLayout, used_prepend, length_littleEndian, Nat.add_comm]
    rfl
  have behind : shared < builder.tablePlace fields :=
    Nat.lt_of_le_of_lt noted.1 (Nat.lt_add_of_pos_right (by decide))
  refine ⟨Nat.le_of_eq used.symm, fun buffer completed => ?_⟩
  have before := completed.before (prepend_extends _ _)
  have inside := completed.used_le
  have small := completed.small
  rw [used] at inside
  have layoutAt := noted.2 buffer before
  have distance : buffer.word 4 (buffer.size - builder.tablePlace fields) =
      .ok (2 ^ 32 - (builder.tablePlace fields - shared)) := by
    have here := has_prepend completed
    rw [← sharingLayout, used] at here
    refine here.word ?_
    show _ < 4294967296
    omega
  have back : Buffer.backward (buffer.size - builder.tablePlace fields)
      (2 ^ 32 - (builder.tablePlace fields - shared)) = some (buffer.size - shared) := by
    have negative : ¬ 2 ^ 32 - (builder.tablePlace fields - shared) < Nat.pow 2 31 := by
      show ¬ _ < 2147483648
      omega
    rw [Buffer.backward, if_neg negative]
    show some (_ + (4294967296 - _)) = _
    congr 1
    omega
  exact ⟨_, Buffer.isTableAt_of_layout (before.aligned fourDivides (tablePlace_aligned _ _))
    ⟨_, distance, back⟩ layoutAt.1 layoutAt.2 fit.slots (fields_related sound fit before inside)⟩

theorem withLayout_layoutAt (sound : builder.Sound) (fit : FieldsFit builder.used fields) :
    (builder.withLayout fields).Stands (LayoutAt (builder.tableLayout fields))
      (builder.tablePlace fields + Buffer.layoutLength (fields.map Prod.fst)) := by
  have filled := (putFields_extends sound fit.fits).1
  have fourDivides : 4 ∣ (builder.beforeTable fields).alignment :=
    dvd_alignment_align 4 filled (by decide)
  have twoDivides : 2 ∣ (builder.withLayout fields).alignment :=
    Nat.dvd_trans (by decide : 2 ∣ 4) (Nat.dvd_trans fourDivides withLayout_extends.alignment)
  have placeAligned := tablePlace_aligned fields builder
  have even := Buffer.layoutLength_even (fields.map Prod.fst)
  have used := used_withLayout fields builder
  refine ⟨Nat.le_of_eq used.symm, fun buffer completed =>
    ⟨completed.aligned twoDivides (by omega), ?_⟩⟩
  rw [← used]
  exact has_prepend completed

/-- The layout stands right before the table. -/
theorem withLayout_stands (sound : builder.Sound) (fit : FieldsFit builder.used fields) :
    (builder.withLayout fields).Stands
      (fun buffer position => buffer.IsTable fields position) (builder.tablePlace fields) := by
  have filled := (putFields_extends sound fit.fits).1
  have fourDivides : 4 ∣ (builder.beforeTable fields).alignment :=
    dvd_alignment_align 4 filled (by decide)
  have layoutStands := withLayout_layoutAt sound fit
  have used := used_withLayout fields builder
  have short : Buffer.layoutLength (fields.map Prod.fst) < 128 := by
    refine Buffer.layoutLength_lt fun slot member => ?_
    obtain ⟨field, here, rfl⟩ := List.mem_map.1 member
    exact (fit.slots field here).2
  refine ⟨Nat.le_trans (Nat.le_add_right _ _) layoutStands.1, fun buffer completed => ?_⟩
  have before := completed.before withLayout_extends
  have inside := completed.used_le
  rw [used] at inside
  have layoutAt := layoutStands.2 buffer completed
  have distance : buffer.word 4 (buffer.size - builder.tablePlace fields) =
      .ok (Buffer.layoutLength (fields.map Prod.fst)) := by
    have here := has_prepend (completed.before (prepend_extends _ _))
    rw [used_prepend, length_littleEndian, Nat.add_comm 4] at here
    refine here.word ?_
    show _ < 4294967296
    omega
  have back : Buffer.backward (buffer.size - builder.tablePlace fields)
      (Buffer.layoutLength (fields.map Prod.fst)) =
        some (buffer.size - (builder.tablePlace fields +
          Buffer.layoutLength (fields.map Prod.fst))) := by
    have positive : Buffer.layoutLength (fields.map Prod.fst) < Nat.pow 2 31 := by
      show _ < 2147483648
      omega
    rw [Buffer.backward, if_pos positive, if_pos (by omega), Nat.sub_sub]
  exact ⟨_, Buffer.isTableAt_of_layout (before.aligned fourDivides (tablePlace_aligned _ _))
    ⟨_, distance, back⟩ layoutAt.1 layoutAt.2 fit.slots
    (fields_related sound fit before (by omega))⟩

theorem notingLayout_extends : (builder.notingLayout fields).Extends (builder.withLayout fields) :=
  ⟨List.suffix_refl _, Nat.dvd_refl _⟩

theorem Sound.notingLayout (sound : builder.Sound) (fit : FieldsFit builder.used fields) :
    (builder.notingLayout fields).Sound := by
  have soundBefore := (beforeTable_extends sound fit).1
  refine ⟨soundBefore.alignment, fun entry member => ?_⟩
  rcases List.mem_cons.1 member with rfl | noted
  · exact (withLayout_layoutAt sound fit).extend notingLayout_extends
  · exact ((soundBefore.layouts entry noted).extend withLayout_extends).extend notingLayout_extends

/-- **The table stands at its place**, with a layout of its own or with one that stood there
before. -/
theorem putTable_stands (sound : builder.Sound) (fit : FieldsFit builder.used fields) :
    (builder.putTable fields).1.Sound ∧ (builder.putTable fields).1.Extends builder ∧
      (builder.putTable fields).1.Stands (fun buffer position => buffer.IsTable fields position)
        (builder.putTable fields).2 := by
  obtain ⟨soundBefore, grownBefore⟩ := beforeTable_extends sound fit
  rw [putTable_eq]
  cases found : (builder.beforeTable fields).layouts.lookup (builder.tableLayout fields) with
  | some shared =>
    have noted := soundBefore.layouts _ (mem_of_lookup found)
    exact ⟨soundBefore.prepend _, (prepend_extends _ _).trans grownBefore,
      sharingLayout_stands sound fit noted⟩
  | none =>
    exact ⟨sound.notingLayout fit,
      notingLayout_extends.trans (withLayout_extends.trans grownBefore),
      (withLayout_stands sound fit).extend notingLayout_extends⟩

end Table

end Builder

end FeatureFlags
