import FeatureFlags.Flatbuffer.Encoding
import FeatureFlags.Proofs.Flatbuffer.Table
import FeatureFlags.Proofs.Flatbuffer.Visit

/-!
**Constructions step by step, and the buffer in the end.**

A step of a construction keeps the builder sound, only extends it, and gives the place of a part
that stands there. Steps are put together by what they give, and what stood before a step is taken
along by `Builder.Stands.extend`.

* `Builder.Outcome`: what a step comes to; `Builder.Outcome.bind`: two steps.
* `Builder.text_outcome`, `Builder.vector_outcome`, `Builder.table_outcome`: single steps.
* `Builder.mapM_outcome`: a step for each element of a list.
* `Builder.finish_follow`: the buffer begins with an offset to the outermost table.
-/

namespace FeatureFlags.Builder

variable {builder : Builder} {α β : Type}

/-! ### Steps -/

/-- A construction keeps a builder sound, extends it, and gives what it should. -/
structure Outcome (builder : Builder) (construction : Construction α)
    (given : Builder → α → Prop) : Prop where
  sound : (construction builder).2.Sound
  grown : (construction builder).2.Extends builder
  given : given (construction builder).2 (construction builder).1

/-- **Two steps, one after the other.** -/
theorem Outcome.bind {first : Construction α} {next : α → Construction β}
    {given : Builder → α → Prop} {result : Builder → β → Prop}
    (outcome : Outcome builder first given)
    (rest : ∀ (after : Builder) (value : α), after.Sound → after.Extends builder →
      given after value → Outcome after (next value) result) :
    Outcome builder (first >>= next) result := by
  have later := rest (first builder).2 (first builder).1 outcome.sound outcome.grown outcome.given
  exact ⟨later.sound, later.grown.trans outcome.grown, later.given⟩

theorem text_outcome (sound : builder.Sound) (text : String) :
    Outcome builder (Builder.text text)
      (Stands fun buffer position => buffer.IsText text position) :=
  ⟨sound.putText text, putText_extends sound text, putText_stands sound text⟩

/-- A vector of parts lies at a position. -/
def VectorOf (part : α → Buffer → Nat → Prop) (items : List α) (buffer : Buffer)
    (position : Nat) : Prop :=
  ∃ targets, buffer.IsVector targets position ∧
    List.Forall₂ (fun item target => part item buffer target) items targets

theorem vector_outcome {part : α → Buffer → Nat → Prop} {items : List α} {places : List Nat}
    (sound : builder.Sound)
    (each : List.Forall₂ (fun item place => builder.Stands (part item) place) items places) :
    Outcome builder (Builder.vector places) (Stands (VectorOf part items)) := by
  have inside : ∀ place ∈ places, place ≤ builder.used := by
    intro place member
    obtain ⟨index, bound, rfl⟩ := List.getElem_of_mem member
    have itemBound : index < items.length := by rwa [each.length_eq]
    exact ((List.forall₂_iff_get.1 each).2 index itemBound bound).1
  have vector := putVector_stands sound inside
  refine ⟨sound.putVector places, putVector_extends sound places, vector.1,
    fun buffer completed => ⟨_, vector.2 buffer completed, ?_⟩⟩
  rw [List.forall₂_map_right_iff]
  exact each.imp fun item place stands =>
    stands.2 buffer (completed.before (putVector_extends sound places))

/-- A table can be described by what the parts before it are, as these are completed with it. -/
theorem table_outcome {fields : List (Nat × SlotContent)} {part : Buffer → Nat → Prop}
    (sound : builder.Sound) (fit : FieldsFit builder.used fields)
    (makes : ∀ buffer, builder.CompletedBy buffer → ∀ position, buffer.IsTable fields position →
      part buffer position) :
    Outcome builder (Builder.table fields) (Stands part) := by
  obtain ⟨soundAfter, grown, stands⟩ := putTable_stands sound fit
  exact ⟨soundAfter, grown, stands.1, fun buffer completed =>
    makes buffer (completed.before grown) _ (stands.2 buffer completed)⟩

/-- The induction is on the elements; the parts of the first ones keep standing. -/
theorem mapM_outcome {step : α → Construction Nat} {part : α → Buffer → Nat → Prop}
    {items : List α}
    (each : ∀ item ∈ items, ∀ builder : Builder, builder.Sound →
      Outcome builder (step item) (Stands (part item)))
    (sound : builder.Sound) :
    Outcome builder (items.mapM step) (fun after places =>
      List.Forall₂ (fun item place => after.Stands (part item) place) items places) := by
  induction items generalizing builder with
  | nil =>
    rw [List.mapM_nil]
    exact ⟨sound, Extends.refl builder, .nil⟩
  | cons item rest ih =>
    rw [List.mapM_cons]
    refine (each item List.mem_cons_self builder sound).bind
      fun middle place soundMiddle _ stands => ?_
    refine (ih (fun other member => each other (List.mem_cons_of_mem item member))
      soundMiddle).bind fun after places soundAfter grown others => ?_
    exact ⟨soundAfter, Extends.refl after, .cons (stands.extend grown) others⟩

/-- The parts of a list, the vector of them, and what comes after it. -/
theorem vectorOf_bind {step : α → Construction Nat} {part : α → Buffer → Nat → Prop}
    {items : List α} {next : Nat → Construction β} {result : Builder → β → Prop}
    (sound : builder.Sound)
    (each : ∀ item ∈ items, ∀ builder : Builder, builder.Sound →
      Outcome builder (step item) (Stands (part item)))
    (rest : ∀ (after : Builder) (vector : Nat), after.Sound → after.Extends builder →
      after.Stands (VectorOf part items) vector → Outcome after (next vector) result) :
    Outcome builder (items.mapM step >>= fun places => Builder.vector places >>= next) result := by
  refine (mapM_outcome each sound).bind fun middle places soundMiddle grownMiddle stand => ?_
  refine (vector_outcome soundMiddle stand).bind fun after vector soundAfter grown stands => ?_
  exact rest after vector soundAfter (grown.trans grownMiddle) stands

/-! ### The whole buffer -/

/-- A builder as it is finished, with an offset to a place in front. -/
def finished (root : Nat) (builder : Builder) : Builder :=
  (builder.align 4 builder.alignment).putOffset root

theorem finished_extends (sound : builder.Sound) (root : Nat) :
    (builder.finished root).Extends (builder.align 4 builder.alignment) :=
  putOffset_extends (sound.align sound.alignment)

/-- The size of a finished builder keeps to its alignment. An alignment of eight leaves no padding
before the last offset, and any other one is kept with it. -/
theorem alignment_finished (sound : builder.Sound) (root : Nat) :
    (builder.finished root).alignment ∣ (builder.finished root).used := by
  have divides := sound.alignment
  have isAlignment : (builder.finished root).alignment =
      max (max builder.alignment builder.alignment) 4 := rfl
  rw [isAlignment, Nat.max_self, finished, used_putOffset]
  refine Nat.dvd_of_mod_eq_zero ?_
  have cases : builder.alignment ≤ 4 ∨ builder.alignment = 8 := by
    have all : ∀ alignment < 9, alignment ∣ 8 → alignment ≤ 4 ∨ alignment = 8 := by decide
    exact all _ (Nat.lt_succ_of_le (Nat.le_of_dvd (by decide) divides)) divides
  rcases cases with small | eight
  · rw [Nat.max_eq_right small]
    exact used_align_add _ _ (by decide)
  · have whole : ((builder.align 4 builder.alignment).used + 4) % builder.alignment = 0 :=
      used_align_add _ _ (by omega)
    rw [eight] at whole ⊢
    have unpadded : ((builder.align 4 8).align 4 4).octets = (builder.align 4 8).octets :=
      octets_align (by omega)
    rw [Builder.used, unpadded]
    exact whole

/-- **The buffer in the end** begins with an offset to the part that its construction gives. -/
theorem finish_follow {construction : Construction Nat} {part : Buffer → Nat → Prop}
    (outcome : Outcome empty construction (Stands part))
    (small : (finish construction).length ≤ 2 ^ 31) :
    ∃ position, (Buffer.ofOctets (finish construction)).follow 0 = .ok position ∧
      part (Buffer.ofOctets (finish construction)) position := by
  obtain ⟨sound, _, inside, stands⟩ := outcome
  have padded := align_extends 4 sound sound.alignment
  have grown := finished_extends sound (construction empty).1
  have size : (Buffer.ofOctets (finish construction)).size =
      ((construction empty).2.finished (construction empty).1).used := List.size_toArray
  have completed : ((construction empty).2.finished (construction empty).1).CompletedBy
      (Buffer.ofOctets (finish construction)) := by
    refine ⟨List.suffix_refl _, ?_, ?_⟩
    · rw [size]
      exact alignment_finished sound (construction empty).1
    · rw [size]
      exact small
  have root := (putOffset_stands (sound.align sound.alignment)
    (Nat.le_trans inside padded.used_le)).2 _ completed
  refine ⟨_, ?_, stands _ (completed.before (grown.trans padded))⟩
  have front : (Buffer.ofOctets (finish construction)).size -
      ((construction empty).2.finished (construction empty).1).used = 0 := by
    rw [size, Nat.sub_self]
  have follow := root.2
  rw [← finished, front] at follow
  exact follow

end FeatureFlags.Builder
