import FeatureFlags.Text.Octets

/-!
**Building a buffer of tables from its end to its beginning.**

Octets are only ever put in front of those that are there, so a place is known by its distance from
the end, which no later step changes. Numbers are aligned by that distance, and the whole is padded
in the end so that the distance from the beginning is aligned as well. Tables with the same layout
share it.

* `Builder.text`, `Builder.vector`, `Builder.table`: put a part in front, and give its place.
* `Builder.finish`: the octets, with the offset of the outermost table in front.
-/

namespace FeatureFlags

/-- A buffer under construction: its octets, the layouts in it with their places, and the largest
alignment so far. -/
structure Builder where
  octets : Octets
  layouts : List (Octets × Nat)
  alignment : Nat

/-- What lies in a slot: a number of some octets, or the place of another part. -/
inductive SlotContent where
  | number (octets value : Nat)
  | offset (place : Nat)

/-- A step of a construction, which gives a value. -/
abbrev Construction := StateM Builder

namespace Builder

/-- The empty buffer. -/
def empty : Builder := ⟨[], [], 1⟩

/-- How many octets there are. -/
def used (builder : Builder) : Nat := builder.octets.length

/-- The octets with more in front. -/
def prepend (octets : Octets) (builder : Builder) : Builder :=
  { builder with octets := octets ++ builder.octets }

/-- How many octets are missing to a multiple. -/
def missing (count multiple : Nat) : Nat := (multiple - count % multiple) % multiple

/-- Pad so that the place of a part of some octets is aligned. -/
def align (count alignment : Nat) (builder : Builder) : Builder :=
  { builder.prepend (List.replicate (missing (builder.used + count) alignment) 0) with
    alignment := max builder.alignment alignment }

/-- Put a number in front. -/
def putNumber (count value : Nat) (builder : Builder) : Builder :=
  (builder.align count count).prepend (littleEndian count value)

/-- Put the offset of a place in front. -/
def putOffset (place : Nat) (builder : Builder) : Builder :=
  let aligned := builder.align 4 4
  aligned.prepend (littleEndian 4 (aligned.used + 4 - place))

/-- Put a field in front. -/
def putField (builder : Builder) : SlotContent → Builder
  | .number count value => builder.putNumber count value
  | .offset place => builder.putOffset place

/-- Put a text in front, with its length before it and a zero after it. -/
def putText (text : String) (builder : Builder) : Builder :=
  let content := octetsOf text
  ((builder.align (content.length + 1) 4).prepend (content ++ [0])).putNumber 4 content.length

/-- Put a vector of offsets in front, with its length before it. -/
def putVector (places : List Nat) (builder : Builder) : Builder :=
  let aligned := builder.align (4 * places.length) 4
  (places.reverse.foldl (fun builder place => builder.putOffset place) aligned).putNumber 4
    places.length

/-- The octets of a layout: its own length, the length of the table, and for each slot how far into
the table its field lies. -/
def layoutOctets (length tableLength : Nat) (fields : List (Nat × Nat)) : Octets :=
  littleEndian 2 length ++ littleEndian 2 tableLength ++
    ((List.range ((length - 4) / 2)).flatMap fun index =>
      littleEndian 2 ((fields.lookup (4 + 2 * index)).getD 0))

/-- Put the fields of a table in front, the first one first, and note the place of each. -/
def putFields : List (Nat × SlotContent) → Builder → List (Nat × Nat) × Builder
  | [], builder => ([], builder)
  | (slot, field) :: rest, builder =>
    let after := builder.putField field
    let (places, last) := putFields rest after
    ((slot, after.used) :: places, last)

/-- Put a table in front, with the distance back to its layout before it, and with the layout unless
there is one like it. -/
def putTable (fields : List (Nat × SlotContent)) (builder : Builder) : Builder × Nat :=
  let (places, filled) := builder.putFields fields
  let aligned := filled.align 4 4
  let place := aligned.used + 4
  let length := 4 + 2 * ((places.map fun field => (field.1 - 2) / 2).foldr max 0)
  let layout :=
    layoutOctets length (place - builder.used)
      (places.map fun field => (field.1, place - field.2))
  match aligned.layouts.lookup layout with
  | some shared => (aligned.prepend (littleEndian 4 (Nat.pow 2 32 - (place - shared))), place)
  | none =>
    let whole := (aligned.prepend (littleEndian 4 length)).prepend layout
    ({ whole with layouts := (layout, place + length) :: whole.layouts }, place)

/-! ### Steps -/

/-- Put a text in front. -/
def text (text : String) : Construction Nat := fun builder =>
  let after := builder.putText text
  (after.used, after)

/-- Put a vector of offsets in front. -/
def vector (places : List Nat) : Construction Nat := fun builder =>
  let after := builder.putVector places
  (after.used, after)

/-- Put a table in front. -/
def table (fields : List (Nat × SlotContent)) : Construction Nat := fun builder =>
  let (after, place) := builder.putTable fields
  (place, after)

/-- The octets of a construction that gives the place of the outermost table. -/
def finish (construction : Construction Nat) : Octets :=
  let (root, builder) := construction empty
  ((builder.align 4 builder.alignment).putOffset root).octets

end Builder

end FeatureFlags
