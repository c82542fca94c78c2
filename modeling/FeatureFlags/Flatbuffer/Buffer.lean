import FeatureFlags.DecodeError
import FeatureFlags.Text.Octets

/-!
**Reading a buffer of tables.**

A buffer holds tables, vectors and texts that refer to each other by offsets. A table begins with
the distance back to its layout, which lists for each slot how far into the table its field lies; a
slot that is zero or that the layout does not reach is absent.

No reader assumes anything about the buffer: one that would leave it, or that meets a text that is
none, fails with `DecodeError.invalidFlatbuffer`.

* `Buffer.fieldPosition`: where the field of a slot lies.
* `Buffer.number`, `Buffer.text?`, `Buffer.table?`, `Buffer.tables`, `Buffer.texts?`: fields.
-/

namespace FeatureFlags

/-- A buffer of tables. -/
structure Buffer where
  octets : Array UInt8
deriving DecidableEq, Repr

namespace Buffer

/-- The buffer that holds given octets. -/
def ofOctets (octets : Octets) : Buffer := ⟨octets.toArray⟩

/-- How many octets a buffer holds. -/
def size (buffer : Buffer) : Nat := buffer.octets.size

/-- A reader that left the buffer. -/
def outside {α : Type} : Decoded α := .error .invalidFlatbuffer

/-! ### Octets and numbers -/

/-- The octets from a position on, if that many are there. -/
def slice (buffer : Buffer) (position count : Nat) : Decoded Octets :=
  if position + count ≤ buffer.size then
    .ok (buffer.octets.extract position (position + count)).toList
  else outside

/-- A number of some octets, the lowest first. -/
def word (buffer : Buffer) (count position : Nat) : Decoded Nat :=
  (buffer.slice position count).map ofLittleEndian

/-- The position that an offset points to from its own position. -/
def follow (buffer : Buffer) (position : Nat) : Decoded Nat :=
  (buffer.word 4 position).map (position + ·)

/-- The position that lies a signed distance before another; there is none before the first. -/
def backward (position : Nat) (distance : Nat) : Option Nat :=
  if distance < Nat.pow 2 31 then
    if distance ≤ position then some (position - distance) else none
  else some (position + (Nat.pow 2 32 - distance))

/-! ### Tables -/

/-- Where the layout of a table lies. -/
def layout (buffer : Buffer) (table : Nat) : Decoded Nat := do
  let distance ← buffer.word 4 table
  match backward table distance with
  | some position => .ok position
  | none => outside

/-- Where the field of a slot lies, if the table has it. -/
def fieldPosition (buffer : Buffer) (table slot : Nat) : Decoded (Option Nat) := do
  let layout ← buffer.layout table
  let length ← buffer.word 2 layout
  if slot < length then do
    let offset ← buffer.word 2 (layout + slot)
    return if offset = 0 then none else some (table + offset)
  else return none

/-- What a reader finds in the field of a slot, if the table has it. -/
def field? {α : Type} (buffer : Buffer) (table slot : Nat) (read : Nat → Decoded α) :
    Decoded (Option α) := do
  match ← buffer.fieldPosition table slot with
  | none => return none
  | some position => (read position).map some

/-- The number of some octets in a slot, if the table has it. -/
def number? (buffer : Buffer) (count table slot : Nat) : Decoded (Option Nat) :=
  buffer.field? table slot (buffer.word count)

/-- The number of some octets in a slot, or a default. -/
def number (buffer : Buffer) (count default table slot : Nat) : Decoded Nat :=
  (buffer.number? count table slot).map fun found => found.getD default

/-- The truth value in a slot, or a default. -/
def bool (buffer : Buffer) (default : Bool) (table slot : Nat) : Decoded Bool :=
  (buffer.number? 1 table slot).map fun found => (found.map (· != 0)).getD default

/-- A text after its length. -/
def textAt (buffer : Buffer) (position : Nat) : Decoded String := do
  let length ← buffer.word 4 position
  let content ← buffer.slice (position + 4) length
  match content.text? with
  | some text => .ok text
  | none => outside

/-- The text in a slot, if the table has it. -/
def text? (buffer : Buffer) (table slot : Nat) : Decoded (Option String) :=
  buffer.field? table slot fun position => do
    let target ← buffer.follow position
    buffer.textAt target

/-- The position of the table in a slot, if the table has it. -/
def table? (buffer : Buffer) (table slot : Nat) : Decoded (Option Nat) :=
  buffer.field? table slot buffer.follow

/-- The positions that the offsets of a vector point to. -/
def targets (buffer : Buffer) (vector : Nat) : Decoded (List Nat) := do
  let length ← buffer.word 4 vector
  if vector + 4 + 4 * length ≤ buffer.size then
    (List.range length).mapM fun index => buffer.follow (vector + 4 + 4 * index)
  else outside

/-- The positions of the tables of a vector in a slot; none if the table has it not. -/
def tables (buffer : Buffer) (table slot : Nat) : Decoded (List Nat) := do
  let found ← buffer.field? table slot fun position => do
    let vector ← buffer.follow position
    buffer.targets vector
  return found.getD []

/-- The texts of a vector in a slot, if the table has it. -/
def texts? (buffer : Buffer) (table slot : Nat) : Decoded (Option (List String)) :=
  buffer.field? table slot fun position => do
    let vector ← buffer.follow position
    let targets ← buffer.targets vector
    targets.mapM buffer.textAt

end Buffer

end FeatureFlags
