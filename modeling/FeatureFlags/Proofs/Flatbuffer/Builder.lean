import FeatureFlags.Proofs.Flatbuffer.Buffer

/-!
**What a builder has put in front stays where it is.**

A builder only grows at its front, and a part is known by its distance from the end. So whatever
stands at a place of a builder stands there in every later builder, and in every buffer that a later
builder completes. A number is aligned in the buffer because its place is aligned and the size of
the buffer is.

* `Builder.Extends`: a later builder.
* `Builder.CompletedBy`: the buffer in the end.
* `Builder.Stands`: a part stands at a place; `Builder.Stands.extend`: it keeps standing.
* `Builder.Sound`: the layouts that are noted stand where they are noted.
* `Builder.putNumber_stands`, `Builder.putOffset_stands`, `Builder.putText_stands`,
  `Builder.putVector_stands`: what the steps put in front.
-/

namespace FeatureFlags.Builder

variable {builder earlier later : Builder} {buffer : Buffer} {place : Nat}

/-! ### Growth -/

/-- A builder has all that an earlier one had, at the same places, and is aligned for it. -/
structure Extends (later earlier : Builder) : Prop where
  suffix : earlier.octets <:+ later.octets
  alignment : earlier.alignment ∣ later.alignment

namespace Extends

theorem refl (builder : Builder) : builder.Extends builder :=
  ⟨List.suffix_refl _, Nat.dvd_refl _⟩

theorem trans {first second third : Builder} (upper : third.Extends second)
    (lower : second.Extends first) : third.Extends first :=
  ⟨lower.suffix.trans upper.suffix, Nat.dvd_trans lower.alignment upper.alignment⟩

theorem used_le (grown : later.Extends earlier) : earlier.used ≤ later.used :=
  grown.suffix.length_le

end Extends

/-- A buffer ends with all that a builder has. Its size keeps the builder's alignment and the limit
of a builder. -/
structure CompletedBy (builder : Builder) (buffer : Buffer) : Prop where
  suffix : builder.octets <:+ buffer.octets.toList
  alignment : builder.alignment ∣ buffer.size
  small : buffer.size ≤ 2 ^ 31

namespace CompletedBy

theorem before (completed : later.CompletedBy buffer) (grown : later.Extends earlier) :
    earlier.CompletedBy buffer :=
  ⟨grown.suffix.trans completed.suffix, Nat.dvd_trans grown.alignment completed.alignment,
    completed.small⟩

theorem used_le (completed : builder.CompletedBy buffer) : builder.used ≤ buffer.size := by
  have lengths := completed.suffix.length_le
  rwa [Array.length_toList] at lengths

/-- An aligned place is an aligned position. -/
theorem aligned {alignment : Nat} (completed : builder.CompletedBy buffer)
    (divides : alignment ∣ builder.alignment) (atPlace : place % alignment = 0) :
    (buffer.size - place) % alignment = 0 :=
  Nat.mod_eq_zero_of_dvd
    (Nat.dvd_sub (Nat.dvd_trans divides completed.alignment) (Nat.dvd_of_mod_eq_zero atPlace))

end CompletedBy

/-- A part stands at a place of a builder, and so in every buffer that completes it. -/
def Stands (part : Buffer → Nat → Prop) (builder : Builder) (place : Nat) : Prop :=
  place ≤ builder.used ∧
    ∀ buffer, builder.CompletedBy buffer → part buffer (buffer.size - place)

/-- **A part keeps standing where it stands.** -/
theorem Stands.extend {part : Buffer → Nat → Prop} (stands : earlier.Stands part place)
    (grown : later.Extends earlier) : later.Stands part place :=
  ⟨Nat.le_trans stands.1 grown.used_le,
    fun buffer completed => stands.2 buffer (completed.before grown)⟩

/-- A layout stands at a position. -/
def LayoutAt (layout : Octets) (buffer : Buffer) (position : Nat) : Prop :=
  position % 2 = 0 ∧ buffer.Has position layout

/-- The alignment is one of those that numbers have, and noted layouts stand where they are
noted. -/
structure Sound (builder : Builder) : Prop where
  alignment : builder.alignment ∣ 8
  layouts : ∀ entry ∈ builder.layouts, builder.Stands (LayoutAt entry.1) entry.2

theorem sound_empty : empty.Sound :=
  ⟨Nat.one_dvd 8, fun _ impossible => by cases impossible⟩

/-! ### Octets in front -/

@[simp] theorem used_prepend (octets : Octets) (builder : Builder) :
    (builder.prepend octets).used = octets.length + builder.used := List.length_append

theorem prepend_extends (octets : Octets) (builder : Builder) :
    (builder.prepend octets).Extends builder :=
  ⟨List.suffix_append octets builder.octets, Nat.dvd_refl _⟩

theorem Sound.prepend (sound : builder.Sound) (octets : Octets) :
    (builder.prepend octets).Sound :=
  ⟨sound.alignment, fun entry member =>
    (sound.layouts entry member).extend (prepend_extends octets builder)⟩

theorem has_prepend {octets : Octets} (completed : (builder.prepend octets).CompletedBy buffer) :
    buffer.Has (buffer.size - (builder.prepend octets).used) octets := by
  rw [used_prepend]
  exact Buffer.has_of_suffix completed.suffix

/-! ### Padding -/

theorem missing_lt (count : Nat) {multiple : Nat} (positive : 0 < multiple) :
    missing count multiple < multiple := Nat.mod_lt _ positive

theorem add_missing (count : Nat) {multiple : Nat} (positive : 0 < multiple) :
    (count + missing count multiple) % multiple = 0 := by
  have below := Nat.mod_lt count positive
  have rest : (multiple - count % multiple + count % multiple) % multiple = 0 := by
    rw [Nat.sub_add_cancel (Nat.le_of_lt below), Nat.mod_self]
  rw [missing, Nat.add_mod, Nat.mod_mod, Nat.add_comm, ← Nat.mod_mod count, ← Nat.add_mod,
    Nat.mod_mod, rest]

theorem missing_of_mod_eq_zero {count multiple : Nat} (whole : count % multiple = 0) :
    missing count multiple = 0 := by
  rw [missing, whole, Nat.sub_zero, Nat.mod_self]

/-- Of two alignments the larger serves for both. -/
theorem dvd_max_of_dvd_eight {first second : Nat} (left : first ∣ 8) (right : second ∣ 8) :
    first ∣ max first second ∧ second ∣ max first second ∧ max first second ∣ 8 := by
  have all : ∀ first < 9, ∀ second < 9, first ∣ 8 → second ∣ 8 →
      first ∣ max first second ∧ second ∣ max first second ∧ max first second ∣ 8 := by decide
  exact all first (Nat.lt_succ_of_le (Nat.le_of_dvd (by decide) left)) second
    (Nat.lt_succ_of_le (Nat.le_of_dvd (by decide) right)) left right

section Align

variable {count alignment : Nat}

theorem used_align (count alignment : Nat) (builder : Builder) :
    (builder.align count alignment).used =
      missing (builder.used + count) alignment + builder.used := by
  show (List.replicate _ 0 ++ builder.octets).length = _
  rw [List.length_append, List.length_replicate]
  rfl

theorem align_extends (count : Nat) (sound : builder.Sound) (divides : alignment ∣ 8) :
    (builder.align count alignment).Extends builder :=
  ⟨List.suffix_append _ builder.octets, (dvd_max_of_dvd_eight sound.alignment divides).1⟩

theorem Sound.align (sound : builder.Sound) (divides : alignment ∣ 8) :
    (builder.align count alignment).Sound :=
  ⟨(dvd_max_of_dvd_eight sound.alignment divides).2.2, fun entry member =>
    (sound.layouts entry member).extend (align_extends _ sound divides)⟩

theorem dvd_alignment_align (count : Nat) (sound : builder.Sound) (divides : alignment ∣ 8) :
    alignment ∣ (builder.align count alignment).alignment :=
  (dvd_max_of_dvd_eight sound.alignment divides).2.1

theorem used_align_add (builder : Builder) (count : Nat) (positive : 0 < alignment) :
    ((builder.align count alignment).used + count) % alignment = 0 := by
  have whole := add_missing (builder.used + count) positive
  rw [used_align]
  rw [show missing (builder.used + count) alignment + builder.used + count =
    builder.used + count + missing (builder.used + count) alignment by omega]
  exact whole

theorem used_align_lt (builder : Builder) (count : Nat) (positive : 0 < alignment) :
    (builder.align count alignment).used < builder.used + alignment := by
  have below := missing_lt (builder.used + count) positive
  rw [used_align]
  omega

/-- What is aligned already is not padded. -/
theorem octets_align (whole : (builder.used + count) % alignment = 0) :
    (builder.align count alignment).octets = builder.octets := by
  show List.replicate (missing (builder.used + count) alignment) 0 ++ builder.octets = _
  rw [missing_of_mod_eq_zero whole]
  rfl

end Align

/-! ### Numbers and offsets -/

section Number

variable {count value : Nat}

theorem used_putNumber (count value : Nat) (builder : Builder) :
    (builder.putNumber count value).used = (builder.align count count).used + count := by
  rw [putNumber, used_prepend, length_littleEndian, Nat.add_comm]

theorem putNumber_extends (sound : builder.Sound) (divides : count ∣ 8) :
    (builder.putNumber count value).Extends builder :=
  (prepend_extends _ _).trans (align_extends _ sound divides)

theorem Sound.putNumber (sound : builder.Sound) (divides : count ∣ 8) :
    (builder.putNumber count value).Sound := (sound.align divides).prepend _

theorem octets_putNumber (whole : (builder.used + count) % count = 0) :
    (builder.putNumber count value).octets = littleEndian count value ++ builder.octets := by
  show littleEndian count value ++ (builder.align count count).octets = _
  rw [octets_align whole]

theorem putNumber_stands (sound : builder.Sound) (positive : 0 < count) (divides : count ∣ 8)
    (fits : value < 256 ^ count) :
    (builder.putNumber count value).Stands
      (fun buffer position => buffer.Contains (.number count value) position)
      (builder.putNumber count value).used := by
  refine ⟨Nat.le_refl _, fun buffer completed => ⟨?_, ?_⟩⟩
  · refine completed.aligned (dvd_alignment_align count sound divides) ?_
    rw [used_putNumber]
    exact used_align_add _ _ positive
  · exact (has_prepend completed).word fits

end Number

theorem used_putOffset (place : Nat) (builder : Builder) :
    (builder.putOffset place).used = (builder.align 4 4).used + 4 := by
  rw [putOffset, used_prepend, length_littleEndian, Nat.add_comm]

theorem putOffset_extends (sound : builder.Sound) : (builder.putOffset place).Extends builder :=
  (prepend_extends _ _).trans (align_extends _ sound (by decide))

theorem Sound.putOffset (sound : builder.Sound) : (builder.putOffset place).Sound :=
  (sound.align (by decide)).prepend _

/-- The offset is the difference of two places, so it leads from one to the other. -/
theorem putOffset_stands (sound : builder.Sound) (inside : place ≤ builder.used) :
    (builder.putOffset place).Stands
      (fun buffer position => buffer.Contains (.offset place) position)
      (builder.putOffset place).used := by
  refine ⟨Nat.le_refl _, fun buffer completed => ⟨?_, ?_⟩⟩
  · refine completed.aligned (dvd_alignment_align 4 sound (by decide)) ?_
    rw [used_putOffset]
    exact used_align_add _ _ (by decide)
  · have used := completed.used_le
    have small := completed.small
    have grown := (align_extends 4 sound (by decide : 4 ∣ 8)).used_le
    have distance : buffer.word 4 (buffer.size - (builder.putOffset place).used) =
        .ok ((builder.align 4 4).used + 4 - place) := by
      rw [used_putOffset] at used
      refine (has_prepend completed).word ?_
      show _ < 256 ^ 4
      omega
    rw [Buffer.follow, distance]
    rw [used_putOffset] at used ⊢
    show Except.ok (buffer.size - _ + _) = Except.ok (buffer.size - place)
    congr 1
    omega

/-! ### Texts -/

/-- A text takes its length, its octets and an end mark, without padding between them. -/
theorem octets_putText (text : String) (builder : Builder) :
    (builder.putText text).octets = (littleEndian 4 (octetsOf text).length ++
      (octetsOf text ++ [0])) ++ (builder.align ((octetsOf text).length + 1) 4).octets := by
  rw [putText, octets_putNumber]
  · exact (List.append_assoc ..).symm
  · have whole := used_align_add builder ((octetsOf text).length + 1) (by decide : 0 < 4)
    rw [used_prepend, List.length_append, List.length_singleton]
    omega

theorem putText_extends (sound : builder.Sound) (text : String) :
    (builder.putText text).Extends builder :=
  (putNumber_extends ((sound.align (by decide)).prepend _) (by decide)).trans
    ((prepend_extends _ _).trans (align_extends _ sound (by decide)))

theorem Sound.putText (sound : builder.Sound) (text : String) : (builder.putText text).Sound :=
  ((sound.align (by decide)).prepend _).putNumber (by decide)

theorem putText_stands (sound : builder.Sound) (text : String) :
    (builder.putText text).Stands (fun buffer position => buffer.IsText text position)
      (builder.putText text).used := by
  have written := octets_putText text builder
  have aligned : (builder.align ((octetsOf text).length + 1) 4).Sound := sound.align (by decide)
  refine ⟨Nat.le_refl _, fun buffer completed => ?_⟩
  have used : (builder.putText text).used =
      (littleEndian 4 (octetsOf text).length ++ (octetsOf text ++ [0])).length +
        (builder.align ((octetsOf text).length + 1) 4).used := by
    rw [Builder.used, written, List.length_append]
    rfl
  have suffix := completed.suffix
  rw [written] at suffix
  have has := Buffer.has_of_suffix suffix
  have isLength := has.left
  have content := has.right
  have here : buffer.size - (builder.putText text).used = buffer.size -
      ((littleEndian 4 (octetsOf text).length ++ (octetsOf text ++ [0])).length +
        (builder.align ((octetsOf text).length + 1) 4).octets.length) := by
    rw [used]
    rfl
  rw [length_littleEndian, ← here] at content
  rw [← here] at isLength
  refine ⟨?_, isLength.word ?_, content⟩
  · refine completed.aligned (dvd_alignment_align 4 (aligned.prepend _) (by decide)) ?_
    rw [Builder.putText, used_putNumber]
    exact used_align_add _ _ (by decide)
  · have inside := content.left.inside
    have small := completed.small
    show _ < 256 ^ 4
    omega

/-! ### Vectors -/

/-- Put the offsets of places in front, the last one first. -/
def putOffsets (places : List Nat) (builder : Builder) : Builder :=
  places.foldr (fun place builder => builder.putOffset place) builder

theorem putVector_eq (places : List Nat) (builder : Builder) :
    builder.putVector places =
      ((builder.align (4 * places.length) 4).putOffsets places).putNumber 4 places.length := by
  rw [putVector, List.foldl_reverse]
  rfl

section Offsets

variable {places : List Nat}

theorem Sound.putOffsets (sound : builder.Sound) (places : List Nat) :
    (builder.putOffsets places).Sound := by
  induction places with
  | nil => exact sound
  | cons place rest ih => exact ih.putOffset

theorem putOffsets_extends (sound : builder.Sound) (places : List Nat) :
    (builder.putOffsets places).Extends builder := by
  induction places with
  | nil => exact Extends.refl builder
  | cons place rest ih => exact (putOffset_extends (sound.putOffsets rest)).trans ih

theorem used_putOffsets (whole : builder.used % 4 = 0) (places : List Nat) :
    (builder.putOffsets places).used = builder.used + 4 * places.length := by
  induction places with
  | nil => rfl
  | cons place rest ih =>
    have unpadded :
        ((builder.putOffsets rest).align 4 4).octets = (builder.putOffsets rest).octets :=
      octets_align (by rw [ih]; omega)
    show ((builder.putOffsets rest).putOffset place).used = _
    rw [used_putOffset, Builder.used, unpadded, List.length_cons]
    show (builder.putOffsets rest).used + 4 = _
    rw [ih]
    omega

/-- The induction is on the offsets; each further one lies right before the others. -/
theorem putOffsets_stands (sound : builder.Sound) (whole : builder.used % 4 = 0)
    (inside : ∀ place ∈ places, place ≤ builder.used) :
    (builder.putOffsets places).Stands
      (fun buffer position => ∀ index (bound : index < places.length),
        buffer.follow (position + 4 * index) = .ok (buffer.size - places[index]))
      (builder.putOffsets places).used := by
  induction places with
  | nil => exact ⟨Nat.le_refl _, fun _ _ index bound => absurd bound (Nat.not_lt_zero index)⟩
  | cons place rest ih =>
    have soundRest := sound.putOffsets rest
    have grown := (putOffsets_extends sound rest).used_le
    have others := ih fun other member => inside other (List.mem_cons_of_mem place member)
    have here := putOffset_stands soundRest
      (Nat.le_trans (inside place List.mem_cons_self) grown)
    have used := used_putOffsets whole rest
    have usedHere := used_putOffsets whole (place :: rest)
    refine ⟨Nat.le_refl _, fun buffer completed index bound => ?_⟩
    have fits := completed.used_le
    cases index with
    | zero => exact (here.2 buffer completed).2
    | succ index =>
      have later := others.2 buffer (completed.before (putOffset_extends soundRest)) index
        (Nat.lt_of_succ_lt_succ bound)
      have position : buffer.size - (builder.putOffsets (place :: rest)).used + 4 * (index + 1) =
          buffer.size - (builder.putOffsets rest).used + 4 * index := by
        rw [List.length_cons] at usedHere
        omega
      rw [position]
      exact later

end Offsets

theorem putVector_extends (sound : builder.Sound) (places : List Nat) :
    (builder.putVector places).Extends builder := by
  have aligned : (builder.align (4 * places.length) 4).Sound := sound.align (by decide)
  rw [putVector_eq]
  exact (putNumber_extends (aligned.putOffsets places) (by decide)).trans
    ((putOffsets_extends aligned places).trans (align_extends _ sound (by decide)))

theorem Sound.putVector (sound : builder.Sound) (places : List Nat) :
    (builder.putVector places).Sound := by
  have aligned : (builder.align (4 * places.length) 4).Sound := sound.align (by decide)
  rw [putVector_eq]
  exact (aligned.putOffsets places).putNumber (by decide)

theorem putVector_stands (sound : builder.Sound) {places : List Nat}
    (inside : ∀ place ∈ places, place ≤ builder.used) :
    (builder.putVector places).Stands
      (fun buffer position =>
        buffer.IsVector (places.map fun place => buffer.size - place) position)
      (builder.putVector places).used := by
  have aligned : (builder.align (4 * places.length) 4).Sound := sound.align (by decide)
  have grown := (align_extends (4 * places.length) sound (by decide : 4 ∣ 8)).used_le
  have whole : (builder.align (4 * places.length) 4).used % 4 = 0 := by
    have sum := used_align_add builder (4 * places.length) (by decide : 0 < 4)
    omega
  have offsets := putOffsets_stands aligned whole fun place member =>
    Nat.le_trans (inside place member) grown
  have used := used_putOffsets whole places
  rw [putVector_eq]
  have unpadded : (((builder.align (4 * places.length) 4).putOffsets places).putNumber 4
      places.length).octets = littleEndian 4 places.length ++
        ((builder.align (4 * places.length) 4).putOffsets places).octets :=
    octets_putNumber (by omega)
  have usedWhole : (((builder.align (4 * places.length) 4).putOffsets places).putNumber 4
      places.length).used = ((builder.align (4 * places.length) 4).putOffsets places).used + 4 := by
    rw [Builder.used, unpadded, List.length_append, length_littleEndian, Nat.add_comm]
    rfl
  refine ⟨Nat.le_refl _, fun buffer completed => ?_⟩
  have fits := completed.used_le
  have small := completed.small
  have soundOffsets := aligned.putOffsets places
  have few : places.length < 256 ^ 4 := by
    show _ < 4294967296
    omega
  have isLength := (putNumber_stands soundOffsets (by decide) (by decide : 4 ∣ 8) few).2 buffer
    completed
  have elements := offsets.2 buffer
    (completed.before (putNumber_extends soundOffsets (by decide)))
  have position : buffer.size - (((builder.align (4 * places.length) 4).putOffsets
      places).putNumber 4 places.length).used + 4 =
        buffer.size - ((builder.align (4 * places.length) 4).putOffsets places).used := by omega
  refine ⟨isLength.1, ?_, ?_, fun index bound => ?_⟩
  · rw [List.length_map]
    exact isLength.2
  · rw [List.length_map]
    omega
  · rw [List.length_map] at bound
    rw [position, elements index bound, List.getElem_map]

end FeatureFlags.Builder
