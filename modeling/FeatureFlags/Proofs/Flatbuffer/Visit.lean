import FeatureFlags.Flatbuffer.Schema
import FeatureFlags.Proofs.Flatbuffer.Buffer
import Mathlib.Data.List.Forall2

/-!
**What it costs to visit a part of a buffer.**

A visit of a part that is as it should be succeeds exactly when the budget covers what the part
costs, and leaves the rest. Costs are budgets themselves and add up, in whatever order the parts are
visited.

* `Budget.spend`, `Budget.spend_bind`: spending of a budget, and spending twice.
* `Buffer.Costs`: a visit that spends a fixed cost.
* `Buffer.IsText.costs`, `Buffer.IsVector.costs`, `Buffer.IsTable.costs`: the parts of a buffer.
* `Buffer.IsTableAt.costs_number`, `Buffer.IsTableAt.costs_text`, `Buffer.IsTableAt.costs_tables`:
  the slots of a table, one by one.
-/

namespace FeatureFlags

/-! ### Budgets -/

namespace Budget

instance : Zero Budget := ⟨⟨0, 0⟩⟩

instance : Add Budget := ⟨fun first second =>
  ⟨first.tables + second.tables, first.octets + second.octets⟩⟩

@[simp] theorem zero_tables : (0 : Budget).tables = 0 := rfl

@[simp] theorem zero_octets : (0 : Budget).octets = 0 := rfl

@[simp] theorem add_tables (first second : Budget) :
    (first + second).tables = first.tables + second.tables := rfl

@[simp] theorem add_octets (first second : Budget) :
    (first + second).octets = first.octets + second.octets := rfl

theorem ext {first second : Budget} (tables : first.tables = second.tables)
    (octets : first.octets = second.octets) : first = second := by
  cases first
  cases second
  cases tables
  cases octets
  rfl

/-- A cost is covered by a budget. -/
def Within (cost budget : Budget) : Prop :=
  cost.tables ≤ budget.tables ∧ cost.octets ≤ budget.octets

instance (cost budget : Budget) : Decidable (cost.Within budget) :=
  inferInstanceAs (Decidable (_ ∧ _))

/-- What a budget leaves of itself after a cost that it covers. -/
def spend (cost budget : Budget) : Option Budget :=
  if cost.Within budget then some ⟨budget.tables - cost.tables, budget.octets - cost.octets⟩
  else none

@[simp] theorem zero_spend (budget : Budget) : (0 : Budget).spend budget = some budget := by
  rw [spend, if_pos ⟨Nat.zero_le _, Nat.zero_le _⟩]
  rfl

theorem add_within {first second budget : Budget} : (first + second).Within budget ↔
    first.Within budget ∧
      second.Within ⟨budget.tables - first.tables, budget.octets - first.octets⟩ := by
  unfold Within
  rw [add_tables, add_octets]
  show _ ↔ _ ∧ second.tables ≤ budget.tables - first.tables ∧
    second.octets ≤ budget.octets - first.octets
  omega

/-- **Spending twice is spending the sum.** -/
theorem spend_bind (first second budget : Budget) :
    (first.spend budget).bind second.spend = (first + second).spend budget := by
  by_cases covered : first.Within budget
  · rw [spend, if_pos covered, Option.bind_some, spend, spend]
    simp only [add_within, covered, true_and, add_tables, add_octets, Nat.sub_sub]
  · have short : ¬ (first + second).Within budget := fun both => covered (add_within.1 both).1
    rw [spend, if_neg covered, spend, if_neg short, Option.bind_none]

theorem isSome_spend (cost budget : Budget) : (cost.spend budget).isSome ↔ cost.Within budget := by
  unfold spend
  split <;> simp_all

end Budget

namespace Buffer

variable {buffer : Buffer} {position : Nat}

/-- A visit spends a fixed cost. -/
def Costs (visit : Budget → Option Budget) (cost : Budget) : Prop :=
  ∀ budget, visit budget = cost.spend budget

/-! ### Numbers and offsets -/

theorem visitOctets_eq {count : Nat} (inside : position + count ≤ buffer.size) (budget : Budget) :
    buffer.visitOctets position count budget = Budget.spend ⟨0, count⟩ budget := by
  unfold visitOctets Budget.spend Budget.Within
  simp [inside]

theorem visitNumber_eq {count value : Nat} (aligned : position % count = 0)
    (found : buffer.word count position = .ok value) (budget : Budget) :
    buffer.visitNumber count position budget =
      (Budget.spend ⟨0, count⟩ budget).map fun rest => (value, rest) := by
  unfold visitNumber
  rw [visitOctets_eq (inside_of_word found), found]
  simp only [aligned, ne_eq, not_true_eq_false, if_false, Except.toOption]
  cases Budget.spend ⟨0, count⟩ budget <;> rfl

theorem word_of_follow {target : Nat} (found : buffer.follow position = .ok target) :
    ∃ distance, buffer.word 4 position = .ok distance ∧ position + distance = target := by
  unfold follow at found
  cases isDistance : buffer.word 4 position with
  | error reason =>
    rw [isDistance] at found
    cases found
  | ok distance =>
    rw [isDistance] at found
    cases found
    exact ⟨distance, rfl, rfl⟩

theorem visitOffset_eq {target : Nat} (aligned : position % 4 = 0)
    (found : buffer.follow position = .ok target) (budget : Budget) :
    buffer.visitOffset position budget =
      (Budget.spend ⟨0, 4⟩ budget).map fun rest => (target, rest) := by
  obtain ⟨distance, isDistance, isTarget⟩ := word_of_follow found
  unfold visitOffset
  rw [visitNumber_eq aligned isDistance, ← isTarget]
  cases Budget.spend ⟨0, 4⟩ budget <;> rfl

/-- Going through an offset costs the offset and what it leads to. -/
theorem costs_through {visit : Nat → Budget → Option Budget} {target : Nat} {cost : Budget}
    (aligned : position % 4 = 0) (found : buffer.follow position = .ok target)
    (costs : Costs (visit target) cost) :
    Costs (buffer.visitThrough visit position) (⟨0, 4⟩ + cost) := by
  intro budget
  rw [visitThrough, visitOffset_eq aligned found, ← Budget.spend_bind]
  cases Budget.spend ⟨0, 4⟩ budget with
  | none => rfl
  | some rest => exact costs rest

/-- Visiting positions one after another costs the sum of what they cost. -/
theorem costs_all {visit : Nat → Budget → Option Budget} {positions : List Nat}
    {costs : List Budget}
    (each : List.Forall₂ (fun position cost => Costs (visit position) cost) positions costs) :
    Costs (visitAll visit positions) costs.sum := by
  induction each with
  | nil => exact fun budget => (Budget.zero_spend budget).symm
  | cons head _ ih =>
    intro budget
    rw [visitAll, head budget, List.sum_cons, ← Budget.spend_bind]
    cases Budget.spend _ budget with
    | none => rfl
    | some rest => exact ih rest

/-! ### Texts and vectors -/

theorem IsText.costs {text : String} (isText : buffer.IsText text position) :
    Costs (buffer.visitText position) ⟨0, 4 + (octetsOf text).length⟩ := by
  intro budget
  have content := isText.content.left.inside
  have final := isText.content.right.getElem?
  have read := isText.textAt
  rw [show (⟨0, 4 + (octetsOf text).length⟩ : Budget) = ⟨0, 4⟩ + ⟨0, (octetsOf text).length⟩ from rfl,
    ← Budget.spend_bind, visitText, visitNumber_eq isText.aligned isText.length]
  cases Budget.spend ⟨0, 4⟩ budget with
  | none => rfl
  | some rest =>
    show (buffer.visitOctets (position + 4) (octetsOf text).length rest).bind _ = _
    rw [visitOctets_eq content, read]
    simp only [Except.toOption, Option.bind_eq_bind, Option.bind_some, final, if_true]
    cases Budget.spend ⟨0, (octetsOf text).length⟩ rest <;> rfl

theorem IsVector.costs {targets : List Nat} {costs : List Budget}
    {visit : Nat → Budget → Option Budget} (isVector : buffer.IsVector targets position)
    (each : List.Forall₂ (fun target cost => Costs (visit target) cost) targets costs) :
    Costs (fun budget => do
        let (elements, budget) ← buffer.visitVector position budget
        visitAll (buffer.visitThrough visit) elements budget)
      (⟨0, 4 + 4 * targets.length⟩ + (costs.map fun cost => ⟨0, 4⟩ + cost).sum) := by
  have elements : List.Forall₂ (fun position cost => Costs (buffer.visitThrough visit position) cost)
      ((List.range targets.length).map fun index => position + 4 + 4 * index)
      (costs.map fun cost => ⟨0, 4⟩ + cost) := by
    refine List.forall₂_iff_get.2 ⟨?_, fun index first second => ?_⟩
    · rw [List.length_map, List.length_range, List.length_map, each.length_eq]
    · have bound : index < targets.length := by simpa using first
      have offsetAligned : (position + 4 + 4 * index) % 4 = 0 := by
        have aligned := isVector.aligned
        omega
      have costsBound : index < costs.length := by simpa using second
      have here : Costs (visit targets[index]) costs[index] :=
        (List.forall₂_iff_get.1 each).2 index bound costsBound
      have through := costs_through offsetAligned (isVector.element index bound) here
      simpa using through
  intro budget
  show (buffer.visitVector position budget).bind _ = _
  rw [show (⟨0, 4 + 4 * targets.length⟩ : Budget) = ⟨0, 4⟩ + ⟨0, 4 * targets.length⟩ from rfl,
    ← Budget.spend_bind, ← Budget.spend_bind, visitVector,
    visitNumber_eq isVector.aligned isVector.length]
  cases Budget.spend ⟨0, 4⟩ budget with
  | none => rfl
  | some rest =>
    show ((buffer.visitOctets (position + 4) (4 * targets.length) rest).bind _).bind _ = _
    rw [visitOctets_eq isVector.inside, Option.bind_some]
    cases Budget.spend ⟨0, 4 * targets.length⟩ rest with
    | none => rfl
    | some rest => exact costs_all elements rest

/-! ### Tables -/

/-- Visit a table that keeps to given slots. -/
def visitTable (buffer : Buffer) (slots : Slots) (table : Nat) (budget : Budget) :
    Option Budget := do
  let ((layout, length), budget) ← buffer.visitLayout table budget
  buffer.visitSlots slots table layout length budget

section Table

variable {fields : List (Nat × SlotContent)} {layout table slot : Nat}

theorem IsTableAt.visitLayout_eq (isTable : buffer.IsTableAt fields layout table)
    (budget : Budget) :
    buffer.visitLayout table budget =
      (Budget.spend ⟨1, 6 + layoutLength (fields.map Prod.fst)⟩ budget).map fun rest =>
        ((layout, layoutLength (fields.map Prod.fst)), rest) := by
  obtain ⟨distance, isDistance, isLayout⟩ := isTable.back
  have inside := isTable.inside
  have before : ¬ buffer.size ≤ layout := by
    have positive : 4 ≤ layoutLength (fields.map Prod.fst) := Nat.le_add_right 4 _
    omega
  have even : (layout + layoutLength (fields.map Prod.fst)) % 2 = 0 := by
    have aligned := isTable.layoutAligned
    have length := layoutLength_even (fields.map Prod.fst)
    omega
  have parts : (⟨1, 6 + layoutLength (fields.map Prod.fst)⟩ : Budget) =
      ⟨0, 4⟩ + (⟨0, 2⟩ + (⟨0, layoutLength (fields.map Prod.fst)⟩ + ⟨1, 0⟩)) :=
    Budget.ext rfl (by simp; omega)
  rw [parts, ← Budget.spend_bind, visitLayout, visitNumber_eq isTable.aligned isDistance]
  cases Budget.spend ⟨0, 4⟩ budget with
  | none => rfl
  | some rest =>
    rw [Option.bind_some, ← Budget.spend_bind, Option.map_some, Option.bind_eq_bind,
      Option.bind_some]
    simp only [isLayout, before, if_false, Option.bind_eq_bind, Option.bind_some,
      visitNumber_eq isTable.layoutAligned isTable.length]
    cases Budget.spend ⟨0, 2⟩ rest with
    | none => rfl
    | some rest =>
      simp only [Option.map_some, Option.bind_some, even, ne_eq, not_true_eq_false, if_false,
        visitOctets_eq inside, ← Budget.spend_bind]
      cases Budget.spend ⟨0, layoutLength (fields.map Prod.fst)⟩ rest with
      | none => rfl
      | some rest =>
        by_cases exhausted : rest.tables = 0
        · simp [exhausted, Budget.spend, Budget.Within]
        · have left : 1 ≤ rest.tables := Nat.one_le_iff_ne_zero.2 exhausted
          simp [exhausted, left, Budget.spend, Budget.Within]

/-- What it costs to look a slot up in a layout of a given length. -/
def slotCost (length slot : Nat) : Budget := if slot < length then ⟨0, 2⟩ else 0

theorem IsTableAt.visitSlot_none (isTable : buffer.IsTableAt fields layout table)
    (isSlot : IsSlot slot) (absent : fields.lookup slot = none) (budget : Budget) :
    buffer.visitSlot table layout (layoutLength (fields.map Prod.fst)) slot budget =
      ((slotCost (layoutLength (fields.map Prod.fst)) slot).spend budget).map fun rest =>
        (none, rest) := by
  unfold visitSlot slotCost
  by_cases reached : slot < layoutLength (fields.map Prod.fst)
  · have aligned : (layout + slot) % 2 = 0 := by
      have even := isTable.layoutAligned
      have slotEven := isSlot.2
      omega
    rw [if_pos reached, if_pos reached,
      visitNumber_eq aligned (isTable.absent slot isSlot reached absent)]
    cases Budget.spend ⟨0, 2⟩ budget <;> rfl
  · rw [if_neg reached, if_neg reached, Budget.zero_spend]
    rfl

theorem IsTableAt.visitSlot_some {content : SlotContent}
    (isTable : buffer.IsTableAt fields layout table) (isSlot : IsSlot slot)
    (present : fields.lookup slot = some content) :
    ∃ position, buffer.Contains content position ∧ ∀ budget,
      buffer.visitSlot table layout (layoutLength (fields.map Prod.fst)) slot budget =
        ((slotCost (layoutLength (fields.map Prod.fst)) slot).spend budget).map fun rest =>
          (some position, rest) := by
  obtain ⟨reached, offset, nonzero, isOffset, contains⟩ :=
    isTable.present slot content isSlot present
  have aligned : (layout + slot) % 2 = 0 := by
    have even := isTable.layoutAligned
    have slotEven := isSlot.2
    omega
  refine ⟨table + offset, contains, fun budget => ?_⟩
  rw [visitSlot, if_pos reached, visitNumber_eq aligned isOffset, slotCost, if_pos reached]
  cases Budget.spend ⟨0, 2⟩ budget with
  | none => rfl
  | some rest =>
    show some (if offset = 0 then none else some (table + offset), rest) = _
    rw [if_neg nonzero]
    rfl

theorem costs_none (length : Nat) : Costs (buffer.visitSlots .none table layout length) 0 := by
  intro budget
  rw [visitSlots, Budget.zero_spend]

theorem IsTableAt.costs_absent {slots : Slots} {shape : Shape} {cost : Budget}
    (isTable : buffer.IsTableAt fields layout table) (isSlot : IsSlot slot)
    (absent : fields.lookup slot = none)
    (before : Costs (buffer.visitSlots slots table layout (layoutLength (fields.map Prod.fst)))
      cost) :
    Costs (buffer.visitSlots (slots.also slot false shape) table layout
        (layoutLength (fields.map Prod.fst)))
      (cost + slotCost (layoutLength (fields.map Prod.fst)) slot) := by
  intro budget
  rw [visitSlots, before budget, ← Budget.spend_bind]
  cases cost.spend budget with
  | none => rfl
  | some rest =>
    show (buffer.visitSlot table layout (layoutLength (fields.map Prod.fst)) slot rest).bind _ = _
    rw [isTable.visitSlot_none isSlot absent, Option.bind_some]
    cases (slotCost (layoutLength (fields.map Prod.fst)) slot).spend rest <;> rfl

theorem IsTableAt.costs_present {slots : Slots} {shape : Shape} {required : Bool}
    {content : SlotContent} {cost fieldCost : Budget}
    (isTable : buffer.IsTableAt fields layout table) (isSlot : IsSlot slot)
    (present : fields.lookup slot = some content)
    (here : ∀ position, buffer.Contains content position →
      Costs (buffer.visitShape shape position) fieldCost)
    (before : Costs (buffer.visitSlots slots table layout (layoutLength (fields.map Prod.fst)))
      cost) :
    Costs (buffer.visitSlots (slots.also slot required shape) table layout
        (layoutLength (fields.map Prod.fst)))
      (cost + (slotCost (layoutLength (fields.map Prod.fst)) slot + fieldCost)) := by
  obtain ⟨position, contains, found⟩ := isTable.visitSlot_some isSlot present
  intro budget
  rw [visitSlots, before budget, ← Budget.spend_bind]
  cases cost.spend budget with
  | none => rfl
  | some rest =>
    show (buffer.visitSlot table layout (layoutLength (fields.map Prod.fst)) slot rest).bind _ = _
    rw [found rest, Option.bind_some, ← Budget.spend_bind]
    cases (slotCost (layoutLength (fields.map Prod.fst)) slot).spend rest with
    | none => rfl
    | some rest => exact here position contains rest

/-- A table costs itself, its layout and its fields. -/
theorem IsTable.costs {slots : Slots} {cost : Budget} (isTable : buffer.IsTable fields table)
    (inner : ∀ layout, buffer.IsTableAt fields layout table →
      Costs (buffer.visitSlots slots table layout (layoutLength (fields.map Prod.fst))) cost) :
    Costs (buffer.visitTable slots table)
      (⟨1, 6 + layoutLength (fields.map Prod.fst)⟩ + cost) := by
  obtain ⟨layout, isTableAt⟩ := isTable
  intro budget
  rw [visitTable, isTableAt.visitLayout_eq, ← Budget.spend_bind]
  cases Budget.spend _ budget with
  | none => rfl
  | some rest => exact inner layout isTableAt rest

end Table

/-! ### Fields -/

/-- What it costs to visit a text through an offset: the offset, the length and the octets. -/
def textVisits (text : String) : Budget := ⟨0, 8 + (octetsOf text).length⟩

/-- What it costs to visit a vector through an offset: the offset, the length, and for each element
its offset, twice, and what the element costs. -/
def vectorVisits (costs : List Budget) : Budget := ⟨0, 8 + 8 * costs.length⟩ + costs.sum

/-- What it costs to visit a table and a number of slots of its layout, without what they hold. -/
def tableVisits (slots : Nat) : Budget := ⟨1, 10 + 4 * slots⟩

/-- What it costs to visit a number of some octets, if there is one. -/
def numberVisits (count : Nat) (value : Option Nat) : Budget :=
  if value.isSome then ⟨0, count⟩ else 0

theorem sum_offsets (costs : List Budget) :
    (costs.map fun cost => (⟨0, 4⟩ + cost : Budget)).sum =
      ⟨0, 4 * costs.length⟩ + costs.sum := by
  induction costs with
  | nil => rfl
  | cons cost rest ih =>
    rw [List.map_cons, List.sum_cons, ih, List.sum_cons, List.length_cons]
    exact Budget.ext (by simp) (by simp; omega)

theorem Costs.of_eq {visit : Budget → Option Budget} {cost other : Budget}
    (costs : Costs visit cost) (tables : cost.tables = other.tables)
    (octets : cost.octets = other.octets) : Costs visit other :=
  Budget.ext tables octets ▸ costs

theorem IsVector.costs_through {targets : List Nat} {costs : List Budget}
    {visit : Nat → Budget → Option Budget} {vector : Nat}
    (isVector : buffer.IsVector targets vector) (aligned : position % 4 = 0)
    (found : buffer.follow position = .ok vector)
    (each : List.Forall₂ (fun target cost => Costs (visit target) cost) targets costs) :
    Costs (buffer.visitThrough (fun vector budget => do
        let (elements, budget) ← buffer.visitVector vector budget
        visitAll (buffer.visitThrough visit) elements budget) position) (vectorVisits costs) := by
  have length := each.length_eq
  refine (Buffer.costs_through aligned found (isVector.costs each)).of_eq ?_ ?_
  · rw [sum_offsets, vectorVisits]
    simp
  · rw [sum_offsets, vectorVisits]
    simp
    omega

section Slots

variable {fields : List (Nat × SlotContent)} {slots : Slots} {layout table slot place : Nat}
  {cost : Budget}

/-- A slot with a number, or without one. -/
theorem IsTableAt.costs_number {count : Nat} (value : Option Nat)
    (isTable : buffer.IsTableAt fields layout table) (isSlot : IsSlot slot)
    (here : fields.lookup slot = value.map (.number count))
    (before : Costs (buffer.visitSlots slots table layout (layoutLength (fields.map Prod.fst)))
      cost) :
    Costs (buffer.visitSlots (slots.also slot false (.number count)) table layout
        (layoutLength (fields.map Prod.fst)))
      (cost + (slotCost (layoutLength (fields.map Prod.fst)) slot + numberVisits count value)) := by
  cases value with
  | none =>
    have absent : fields.lookup slot = none := here
    have costs : Costs (buffer.visitSlots (slots.also slot false (.number count)) table layout
        (layoutLength (fields.map Prod.fst)))
        (cost + slotCost (layoutLength (fields.map Prod.fst)) slot) :=
      isTable.costs_absent isSlot absent before
    exact costs.of_eq (by simp [numberVisits]) (by simp [numberVisits])
  | some value =>
    refine isTable.costs_present isSlot here (fun position contains budget => ?_) before
    rw [visitShape, visitNumber_eq contains.1 contains.2, Option.map_map]
    exact Option.map_id_fun' ▸ rfl

theorem IsTableAt.costs_text {text : String} {required : Bool}
    (isTable : buffer.IsTableAt fields layout table) (isSlot : IsSlot slot)
    (here : fields.lookup slot = some (.offset place))
    (isText : buffer.IsText text (buffer.size - place))
    (before : Costs (buffer.visitSlots slots table layout (layoutLength (fields.map Prod.fst)))
      cost) :
    Costs (buffer.visitSlots (slots.also slot required .text) table layout
        (layoutLength (fields.map Prod.fst)))
      (cost + (slotCost (layoutLength (fields.map Prod.fst)) slot + textVisits text)) := by
  refine isTable.costs_present isSlot here (fun position contains budget => ?_) before
  have costs := costs_through contains.1 contains.2 isText.costs
  have same : (⟨0, 4⟩ + ⟨0, 4 + (octetsOf text).length⟩ : Budget) = textVisits text :=
    Budget.ext rfl (by simp [textVisits]; omega)
  rw [visitShape, ← same]
  exact costs budget

theorem IsTableAt.costs_texts {targets : List Nat} {costs : List Budget}
    (isTable : buffer.IsTableAt fields layout table) (isSlot : IsSlot slot)
    (here : fields.lookup slot = some (.offset place))
    (isVector : buffer.IsVector targets (buffer.size - place))
    (each : List.Forall₂ (fun target cost => Costs (buffer.visitText target) cost) targets costs)
    (before : Costs (buffer.visitSlots slots table layout (layoutLength (fields.map Prod.fst)))
      cost) :
    Costs (buffer.visitSlots (slots.also slot false .texts) table layout
        (layoutLength (fields.map Prod.fst)))
      (cost + (slotCost (layoutLength (fields.map Prod.fst)) slot + vectorVisits costs)) := by
  refine isTable.costs_present isSlot here (fun position contains budget => ?_) before
  rw [visitShape]
  exact isVector.costs_through contains.1 contains.2 each budget

theorem IsTableAt.costs_table {inner : Slots} {innerCost : Budget}
    (isTable : buffer.IsTableAt fields layout table) (isSlot : IsSlot slot)
    (here : fields.lookup slot = some (.offset place))
    (costs : Costs (buffer.visitTable inner (buffer.size - place)) innerCost)
    (before : Costs (buffer.visitSlots slots table layout (layoutLength (fields.map Prod.fst)))
      cost) :
    Costs (buffer.visitSlots (slots.also slot false (.table inner)) table layout
        (layoutLength (fields.map Prod.fst)))
      (cost + (slotCost (layoutLength (fields.map Prod.fst)) slot + (⟨0, 4⟩ + innerCost))) := by
  refine isTable.costs_present isSlot here (fun position contains budget => ?_) before
  rw [visitShape]
  exact Buffer.costs_through contains.1 contains.2 costs budget

theorem IsTableAt.costs_tables {inner : Slots} {targets : List Nat} {costs : List Budget}
    (isTable : buffer.IsTableAt fields layout table) (isSlot : IsSlot slot)
    (here : fields.lookup slot = some (.offset place))
    (isVector : buffer.IsVector targets (buffer.size - place))
    (each : List.Forall₂ (fun target cost => Costs (buffer.visitTable inner target) cost)
      targets costs)
    (before : Costs (buffer.visitSlots slots table layout (layoutLength (fields.map Prod.fst)))
      cost) :
    Costs (buffer.visitSlots (slots.also slot false (.tables inner)) table layout
        (layoutLength (fields.map Prod.fst)))
      (cost + (slotCost (layoutLength (fields.map Prod.fst)) slot + vectorVisits costs)) := by
  refine isTable.costs_present isSlot here (fun position contains budget => ?_) before
  rw [visitShape]
  exact isVector.costs_through contains.1 contains.2 each budget

end Slots

end Buffer

end FeatureFlags
