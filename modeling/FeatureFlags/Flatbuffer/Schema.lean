import FeatureFlags.Flatbuffer.Buffer

/-!
**Whether a buffer keeps to a schema.**

A schema says which slots the tables of a kind have and what lies in them. A buffer keeps to it when
every field of every table that can be reached lies inside of the buffer, numbers and offsets are
aligned, texts are texts with an end mark, and no required slot is absent. Tables may share parts,
so what is visited is counted, and a buffer whose parts would have to be visited too often is
refused.

* `Shape`, `Slots`: schemas.
* `Buffer.keepsTo`: whether the table that a buffer begins with keeps to a schema.
-/

namespace FeatureFlags

/-! ### Schemas -/

mutual

/-- What lies in a slot. -/
inductive Shape where
  | number (octets : Nat)
  | text
  | texts
  | table (slots : Slots)
  | tables (slots : Slots)

/-- The slots of a table, each with whether it is required and what lies in it. -/
inductive Slots where
  | none
  | also (rest : Slots) (slot : Nat) (required : Bool) (shape : Shape)

end

/-! ### Visits -/

/-- How many more tables and octets may be visited. -/
structure Budget where
  tables : Nat
  octets : Nat
deriving DecidableEq, Repr

/-- What may be visited of one buffer. -/
def Budget.full : Budget := ⟨1000000, Nat.pow 2 31⟩

namespace Buffer

variable (buffer : Buffer)

/-- Visit octets, which must lie in the buffer. -/
def visitOctets (position count : Nat) (budget : Budget) : Option Budget :=
  if position + count ≤ buffer.size ∧ count ≤ budget.octets then
    some { budget with octets := budget.octets - count }
  else none

/-- Visit a number, which must be aligned to its size. -/
def visitNumber (count position : Nat) (budget : Budget) : Option (Nat × Budget) := do
  if position % count ≠ 0 then none
  let budget ← buffer.visitOctets position count budget
  let value ← (buffer.word count position).toOption
  return (value, budget)

/-- Visit an offset, and give where it points to. -/
def visitOffset (position : Nat) (budget : Budget) : Option (Nat × Budget) := do
  let (distance, budget) ← buffer.visitNumber 4 position budget
  return (position + distance, budget)

/-- Visit a text, which ends with a zero. -/
def visitText (position : Nat) (budget : Budget) : Option Budget := do
  let (length, budget) ← buffer.visitNumber 4 position budget
  let budget ← buffer.visitOctets (position + 4) length budget
  let _ ← (buffer.textAt position).toOption
  if buffer.octets[position + 4 + length]? = some 0 then some budget else none

/-- Visit the offsets of a vector, and give the position of each. -/
def visitVector (position : Nat) (budget : Budget) : Option (List Nat × Budget) := do
  let (length, budget) ← buffer.visitNumber 4 position budget
  let budget ← buffer.visitOctets (position + 4) (4 * length) budget
  return ((List.range length).map fun index => position + 4 + 4 * index, budget)

/-- Visit what several positions hold, one after another. -/
def visitAll (visit : Nat → Budget → Option Budget) : List Nat → Budget → Option Budget
  | [], budget => some budget
  | position :: rest, budget => do
    let budget ← visit position budget
    visitAll visit rest budget

/-- Visit what an offset points to. -/
def visitThrough (visit : Nat → Budget → Option Budget) (position : Nat) (budget : Budget) :
    Option Budget := do
  let (target, budget) ← buffer.visitOffset position budget
  visit target budget

/-- Visit the layout of a table, which must have an even length, and give where it lies and how long
it is. -/
def visitLayout (table : Nat) (budget : Budget) : Option ((Nat × Nat) × Budget) := do
  let (distance, budget) ← buffer.visitNumber 4 table budget
  let layout ← backward table distance
  if buffer.size ≤ layout then none
  let (length, budget) ← buffer.visitNumber 2 layout budget
  if (layout + length) % 2 ≠ 0 then none
  let budget ← buffer.visitOctets layout length budget
  if budget.tables = 0 then none
  return ((layout, length), { budget with tables := budget.tables - 1 })

/-- Visit a slot of a layout, and give where its field lies, if the table has it. -/
def visitSlot (table layout length slot : Nat) (budget : Budget) :
    Option (Option Nat × Budget) :=
  if slot < length then do
    let (offset, budget) ← buffer.visitNumber 2 (layout + slot) budget
    return (if offset = 0 then none else some (table + offset), budget)
  else some (none, budget)

mutual

/-- Visit what lies in a slot. -/
def visitShape (shape : Shape) (position : Nat) (budget : Budget) : Option Budget :=
  match shape with
  | .number count => (buffer.visitNumber count position budget).map (·.2)
  | .text => buffer.visitThrough buffer.visitText position budget
  | .texts =>
    buffer.visitThrough
      (fun vector budget => do
        let (elements, budget) ← buffer.visitVector vector budget
        visitAll (buffer.visitThrough buffer.visitText) elements budget)
      position budget
  | .table slots =>
    buffer.visitThrough
      (fun table budget => do
        let ((layout, length), budget) ← buffer.visitLayout table budget
        visitSlots slots table layout length budget)
      position budget
  | .tables slots =>
    buffer.visitThrough
      (fun vector budget => do
        let (elements, budget) ← buffer.visitVector vector budget
        visitAll
          (buffer.visitThrough fun table budget => do
            let ((layout, length), budget) ← buffer.visitLayout table budget
            visitSlots slots table layout length budget)
          elements budget)
      position budget

/-- Visit the fields of a table, slot by slot. -/
def visitSlots (slots : Slots) (table layout length : Nat) (budget : Budget) : Option Budget :=
  match slots with
  | .none => some budget
  | .also before slot required shape => do
    let budget ← visitSlots before table layout length budget
    let (field, budget) ← buffer.visitSlot table layout length slot budget
    match field with
    | some position => visitShape shape position budget
    | none => if required then none else some budget

end

/-- Whether the table that the buffer begins with keeps to a schema. -/
def keepsTo (slots : Slots) : Bool :=
  (buffer.visitShape (.table slots) 0 Budget.full).isSome

end Buffer

end FeatureFlags
