import FeatureFlags.Text.Octets

/-!
**Protobuf messages as lists of numbered fields.**

A message is a sequence of fields. Each has a number and a payload of one of five shapes, and the
shape is written together with the number. A reader keeps the payloads and passes over groups, which
must be closed and may not be nested too deep.

* `Wire.writeFields`, `Wire.readFields?`: the octets of fields, and the fields in octets.
* `Wire.writeVarint`, `Wire.takeVarint`: whole numbers of 64 bits, seven bits to an octet.
-/

namespace FeatureFlags.Wire

/-- What a field holds. -/
inductive Payload where
  | varint (value : Nat)
  | fixed64 (value : Nat)
  | delimited (content : Octets)
  | group
  | fixed32 (value : Nat)
deriving DecidableEq, Repr

/-- A field of a message. -/
structure MessageField where
  number : Nat
  payload : Payload
deriving DecidableEq, Repr

/-! ### Whole numbers -/

/-- A whole number, seven bits to an octet, the lowest first; all octets but the last are marked. -/
def writeVarint (value : Nat) : Octets :=
  if value < 128 then [UInt8.ofNat value]
  else UInt8.ofNat (128 + value % 128) :: writeVarint (value / 128)
termination_by value

/-- A whole number of at most `room` octets, of which the last must fit into 64 bits. -/
def takeVarintWithin : Nat → Octets → Option (Nat × Octets)
  | 0, _ => none
  | _, [] => none
  | room + 1, octet :: rest =>
    if octet < 128 then
      if room = 0 ∧ 2 ≤ octet then none else some (octet.toNat, rest)
    else do
      let (high, rest) ← takeVarintWithin room rest
      return (octet.toNat - 128 + 128 * high, rest)

/-- A whole number of 64 bits, in at most ten octets. -/
def takeVarint (input : Octets) : Option (Nat × Octets) := takeVarintWithin 10 input

/-- A number of octets. -/
def takeOctets (count : Nat) (input : Octets) : Option (Octets × Octets) :=
  if count ≤ input.length then some (input.take count, input.drop count) else none

/-- Octets after their number. -/
def takeDelimited (input : Octets) : Option (Octets × Octets) := do
  let (length, rest) ← takeVarint input
  takeOctets length rest

/-! ### Fields -/

/-- The shape of a payload, as a number. -/
def Payload.shape : Payload → Nat
  | varint _ => 0
  | fixed64 _ => 1
  | delimited _ => 2
  | group => 3
  | fixed32 _ => 5

/-- The octets of a payload. -/
def Payload.write : Payload → Octets
  | varint value => writeVarint value
  | fixed64 value => littleEndian 8 value
  | delimited content => writeVarint content.length ++ content
  | group => []
  | fixed32 value => littleEndian 4 value

/-- The octets of a field. -/
def MessageField.write (field : MessageField) : Octets :=
  writeVarint (field.number * 8 + field.payload.shape) ++ field.payload.write

/-- The octets of fields, in their order. -/
def writeFields (fields : List MessageField) : Octets := fields.flatMap MessageField.write

/-- The number of a field and the shape of its payload. -/
def takeKey (input : Octets) : Option ((Nat × Nat) × Octets) := do
  let (key, rest) ← takeVarint input
  if Nat.pow 2 32 ≤ key ∨ key / 8 = 0 then none else return ((key / 8, key % 8), rest)

/-- What follows a group, given the number that its end bears and how deep it may be nested. -/
def skipGroup : Nat → Nat → Nat → Octets → Option Octets
  | 0, _, _, _ => none
  | fuel + 1, room, number, input => do
    let ((inner, shape), rest) ← takeKey input
    if shape = 4 then if inner = number then some rest else none
    else if room = 0 then none
    else
      let rest ←
        match shape with
        | 0 => (takeVarint rest).map (·.2)
        | 1 => (takeOctets 8 rest).map (·.2)
        | 2 => (takeDelimited rest).map (·.2)
        | 3 => skipGroup fuel (room - 1) inner rest
        | 5 => (takeOctets 4 rest).map (·.2)
        | _ => none
      skipGroup fuel room number rest

/-- The payload of a given shape. -/
def takePayload (room number shape : Nat) (input : Octets) : Option (Payload × Octets) :=
  match shape with
  | 0 => (takeVarint input).map fun part => (.varint part.1, part.2)
  | 1 => (takeOctets 8 input).map fun part => (.fixed64 (ofLittleEndian part.1), part.2)
  | 2 => (takeDelimited input).map fun part => (.delimited part.1, part.2)
  | 3 => (skipGroup (input.length + 1) (room - 1) number input).map (.group, ·)
  | 5 => (takeOctets 4 input).map fun part => (.fixed32 (ofLittleEndian part.1), part.2)
  | _ => none

/-- The fields in octets. Fields with certain numbers are delimited whatever shape is written. -/
def takeFields (isDelimited : Nat → Bool) (room : Nat) : Nat → Octets → Option (List MessageField)
  | _, [] => some []
  | 0, _ => none
  | fuel + 1, input => do
    let ((number, shape), rest) ← takeKey input
    let (payload, rest) ←
      takePayload room number (if isDelimited number ∧ shape < 6 then 2 else shape) rest
    let fields ← takeFields isDelimited room fuel rest
    return ⟨number, payload⟩ :: fields

/-- The fields of a message that lies inside of `depth` messages. -/
def readFields? (isDelimited : Nat → Bool) (depth : Nat) (input : Octets) :
    Option (List MessageField) :=
  takeFields isDelimited (100 - depth) input.length input

/-! ### Readers of payloads -/

namespace Payload

/-- A truth value. -/
def bool? : Payload → Option Bool
  | varint value => some (value != 0)
  | _ => none

/-- A whole number of 64 signed bits. -/
def int64? : Payload → Option Int64
  | varint value => some (UInt64.ofNat value).toInt64
  | _ => none

/-- A whole number of 32 signed bits; higher bits are dropped. -/
def int32? : Payload → Option Int32
  | varint value => some (UInt32.ofNat value).toInt32
  | _ => none

/-- A whole number of 32 bits; higher bits are dropped. -/
def word? : Payload → Option UInt32
  | varint value => some (UInt32.ofNat value)
  | _ => none

/-- Eight octets as a number. -/
def fixed64? : Payload → Option Nat
  | fixed64 value => some value
  | _ => none

/-- Octets. -/
def octets? : Payload → Option Octets
  | delimited content => some content
  | _ => none

/-- A text. -/
def text? (payload : Payload) : Option String := do
  let content ← payload.octets?
  content.text?

end Payload

/-- What the fields with a number hold, in their order. Each must be of the right shape. -/
def occurrences {α : Type} (fields : List MessageField) (number : Nat) (read : Payload → Option α) :
    Option (List α) :=
  (fields.filter fun field => field.number == number).mapM fun field => read field.payload

/-- What the last field with a number holds, if there is one. -/
def last? {α : Type} (fields : List MessageField) (number : Nat) (read : Payload → Option α) :
    Option (Option α) :=
  (occurrences fields number read).map List.getLast?

/-- What the last field with a number holds, or a default. -/
def lastOr {α : Type} (default : α) (fields : List MessageField) (number : Nat)
    (read : Payload → Option α) : Option α :=
  (last? fields number read).map fun found => found.getD default

end FeatureFlags.Wire
