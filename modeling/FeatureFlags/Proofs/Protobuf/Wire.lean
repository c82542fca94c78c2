import FeatureFlags.Protobuf.Wire
import FeatureFlags.Proofs.Text.Octets

/-!
**Fields are read back from the octets they are written to.**

* `Wire.takeVarint_writeVarint`: whole numbers of 64 bits, whatever follows them.
* `Wire.MessageField.Sound`: fields with a number and a payload that can be written.
* `Wire.readFields?_writeFields`: sound fields, if they take fewer than `2 ^ 64` octets.
-/

namespace FeatureFlags.Wire

/-! ### Whole numbers -/

theorem writeVarint_of_lt {value : Nat} (small : value < 128) :
    writeVarint value = [UInt8.ofNat value] := by
  rw [writeVarint, if_pos small]

theorem writeVarint_of_le {value : Nat} (large : 128 ≤ value) :
    writeVarint value = UInt8.ofNat (128 + value % 128) :: writeVarint (value / 128) := by
  rw [writeVarint, if_neg (Nat.not_lt.2 large)]

theorem length_writeVarint_pos (value : Nat) : 0 < (writeVarint value).length := by
  by_cases small : value < 128
  · rw [writeVarint_of_lt small]
    exact Nat.one_pos
  · rw [writeVarint_of_le (Nat.not_lt.1 small)]
    exact Nat.succ_pos _

/-- The invariant of the reader: with room for `room` further octets it reads back whatever is
below `2 * 128 ^ room`, which is `2 ^ 64` for ten octets. -/
theorem takeVarintWithin_writeVarint {room value : Nat} (fits : value < 2 * 128 ^ room)
    (rest : Octets) :
    takeVarintWithin (room + 1) (writeVarint value ++ rest) = some (value, rest) := by
  induction room generalizing value with
  | zero =>
    have bit : value < 2 := by simpa using fits
    have below : value < 128 := by omega
    have octet : (UInt8.ofNat value).toNat = value := by
      rw [UInt8.toNat_ofNat']
      exact Nat.mod_eq_of_lt (by omega)
    have marked : UInt8.ofNat value < 128 := by
      rw [UInt8.lt_iff_toNat_lt, octet]
      exact below
    have low : ¬ 2 ≤ UInt8.ofNat value := by
      rw [UInt8.le_iff_toNat_le, octet]
      exact Nat.not_le.2 bit
    rw [writeVarint_of_lt below, List.singleton_append, takeVarintWithin, if_pos marked,
      if_neg fun both => low both.2, octet]
  | succ room ih =>
    by_cases small : value < 128
    · have octet : (UInt8.ofNat value).toNat = value := by
        rw [UInt8.toNat_ofNat']
        exact Nat.mod_eq_of_lt (by omega)
      have marked : UInt8.ofNat value < 128 := by
        rw [UInt8.lt_iff_toNat_lt, octet]
        exact small
      rw [writeVarint_of_lt small, List.singleton_append, takeVarintWithin, if_pos marked,
        if_neg fun both => Nat.succ_ne_zero room both.1, octet]
    · have octet : (UInt8.ofNat (128 + value % 128)).toNat = 128 + value % 128 := by
        rw [UInt8.toNat_ofNat']
        exact Nat.mod_eq_of_lt (by omega)
      have unmarked : ¬ UInt8.ofNat (128 + value % 128) < 128 := by
        rw [UInt8.lt_iff_toNat_lt, octet]
        show ¬ 128 + value % 128 < 128
        omega
      have high : value / 128 < 2 * 128 ^ room := by
        rw [Nat.pow_succ, ← Nat.mul_assoc] at fits
        exact Nat.div_lt_of_lt_mul (Nat.mul_comm .. ▸ fits)
      have whole : 128 + value % 128 - 128 + 128 * (value / 128) = value := by omega
      rw [writeVarint_of_le (Nat.not_lt.1 small), List.cons_append, takeVarintWithin,
        if_neg unmarked, ih high, octet]
      show some (128 + value % 128 - 128 + 128 * (value / 128), rest) = some (value, rest)
      rw [whole]

/-- **A number of 64 bits is read back, whatever follows it.** -/
theorem takeVarint_writeVarint {value : Nat} (fits : value < 2 ^ 64) (rest : Octets) :
    takeVarint (writeVarint value ++ rest) = some (value, rest) :=
  takeVarintWithin_writeVarint (show value < 2 * 128 ^ 9 from fits) rest

theorem takeOctets_append (content rest : Octets) :
    takeOctets content.length (content ++ rest) = some (content, rest) := by
  rw [takeOctets, if_pos (by simp), List.take_left, List.drop_left]

theorem takeDelimited_write {content : Octets} (fits : content.length < 2 ^ 64) (rest : Octets) :
    takeDelimited (writeVarint content.length ++ content ++ rest) = some (content, rest) := by
  rw [List.append_assoc, takeDelimited, takeVarint_writeVarint fits]
  exact takeOctets_append content rest

/-! ### Fields -/

/-- A payload that can be written: no group, and no number that is too large for its shape. -/
def Payload.Sound : Payload → Prop
  | .varint value => value < 2 ^ 64
  | .fixed64 value => value < 2 ^ 64
  | .delimited _ => True
  | .group => False
  | .fixed32 value => value < 2 ^ 32

/-- A field with a number of at most 29 bits and a payload that can be written. -/
structure MessageField.Sound (field : MessageField) : Prop where
  positive : 0 < field.number
  small : field.number < 2 ^ 29
  payload : field.payload.Sound

theorem Payload.shape_lt (payload : Payload) : payload.shape < 8 := by
  cases payload <;> simp [shape]

theorem takeKey_write {field : MessageField} (sound : field.Sound) (rest : Octets) :
    takeKey (writeVarint (field.number * 8 + field.payload.shape) ++ rest) =
      some ((field.number, field.payload.shape), rest) := by
  have shape := field.payload.shape_lt
  have small := sound.small
  have positive := sound.positive
  have number : (field.number * 8 + field.payload.shape) / 8 = field.number := by omega
  have remainder : (field.number * 8 + field.payload.shape) % 8 = field.payload.shape := by omega
  have acceptable : ¬ (Nat.pow 2 32 ≤ field.number * 8 + field.payload.shape ∨
      (field.number * 8 + field.payload.shape) / 8 = 0) := by
    show ¬ (4294967296 ≤ _ ∨ _)
    omega
  rw [takeKey, takeVarint_writeVarint (by omega)]
  show (if _ then none else some _) = _
  rw [if_neg acceptable, number, remainder]

theorem takePayload_write (room number : Nat) {payload : Payload} (sound : payload.Sound)
    (short : payload.write.length < 2 ^ 64) (rest : Octets) :
    takePayload room number payload.shape (payload.write ++ rest) = some (payload, rest) := by
  cases payload with
  | varint value =>
    rw [Payload.write, Payload.shape, takePayload, takeVarint_writeVarint sound]
    rfl
  | fixed64 value =>
    have octets := takeOctets_append (littleEndian 8 value) rest
    rw [length_littleEndian] at octets
    rw [Payload.write, Payload.shape, takePayload, octets, Option.map_some,
      ofLittleEndian_littleEndian sound]
  | delimited content =>
    rw [Payload.write, List.length_append] at short
    rw [Payload.write, Payload.shape, takePayload, takeDelimited_write (by omega)]
    rfl
  | group => exact sound.elim
  | fixed32 value =>
    have octets := takeOctets_append (littleEndian 4 value) rest
    rw [length_littleEndian] at octets
    rw [Payload.write, Payload.shape, takePayload, octets, Option.map_some,
      ofLittleEndian_littleEndian sound]

theorem length_writeFields_cons (field : MessageField) (fields : List MessageField) :
    (writeFields (field :: fields)).length =
      (writeVarint (field.number * 8 + field.payload.shape)).length +
        (field.payload.write.length + (writeFields fields).length) := by
  rw [writeFields, List.flatMap_cons, List.length_append, MessageField.write, List.length_append,
    Nat.add_assoc]
  rfl

/-- The induction is on the fields; each takes at least one octet, so there is fuel enough. -/
theorem takeFields_writeFields {isDelimited : Nat → Bool} (room : Nat) {fields : List MessageField}
    (sound : ∀ field ∈ fields, field.Sound)
    (delimited : ∀ field ∈ fields, isDelimited field.number → field.payload.shape = 2)
    (short : (writeFields fields).length < 2 ^ 64) {fuel : Nat}
    (enough : (writeFields fields).length ≤ fuel) :
    takeFields isDelimited room fuel (writeFields fields) = some fields := by
  induction fields generalizing fuel with
  | nil => cases fuel <;> rfl
  | cons field rest ih =>
    have key := length_writeVarint_pos (field.number * 8 + field.payload.shape)
    have parts := length_writeFields_cons field rest
    have here := sound field List.mem_cons_self
    have shape : (if isDelimited field.number = true ∧ field.payload.shape < 6 then 2
        else field.payload.shape) = field.payload.shape := by
      split
      · rename_i forced
        exact (delimited field List.mem_cons_self forced.1).symm
      · rfl
    have others : takeFields isDelimited room (fuel - 1) (writeFields rest) = some rest :=
      ih (fun other member => sound other (List.mem_cons_of_mem field member))
        (fun other member => delimited other (List.mem_cons_of_mem field member))
        (by omega) (by omega)
    obtain ⟨fuel, rfl⟩ : ∃ less, fuel = less + 1 := ⟨fuel - 1, by omega⟩
    have written : writeFields (field :: rest) =
        writeVarint (field.number * 8 + field.payload.shape) ++
          (field.payload.write ++ writeFields rest) := by
      rw [writeFields, List.flatMap_cons, MessageField.write, List.append_assoc]
      rfl
    obtain ⟨octet, octets, isCons⟩ := List.exists_cons_of_length_pos
      (show 0 < (writeFields (field :: rest)).length by omega)
    rw [isCons, takeFields, ← isCons, written, takeKey_write here]
    · show (takePayload room field.number (if _ then 2 else field.payload.shape) _).bind _ = _
      rw [shape, takePayload_write room field.number here.payload (by omega)]
      show (takeFields isDelimited room fuel (writeFields rest)).bind _ = _
      rw [show fuel = fuel + 1 - 1 from rfl, others]
      rfl
    · exact fun impossible => by cases impossible

/-- **Fields are read back from their octets.** -/
theorem readFields?_writeFields {isDelimited : Nat → Bool} (depth : Nat)
    {fields : List MessageField}
    (sound : ∀ field ∈ fields, field.Sound)
    (delimited : ∀ field ∈ fields, isDelimited field.number → field.payload.shape = 2)
    (short : (writeFields fields).length < 2 ^ 64) :
    readFields? isDelimited depth (writeFields fields) = some fields :=
  takeFields_writeFields (100 - depth) sound delimited short (Nat.le_refl _)

/-- What a field holds is shorter than all fields together. -/
theorem length_content_le {fields : List MessageField} {number : Nat} {content : Octets}
    (member : ⟨number, .delimited content⟩ ∈ fields) :
    content.length ≤ (writeFields fields).length := by
  induction fields with
  | nil => cases member
  | cons field rest ih =>
    rw [length_writeFields_cons]
    rcases List.mem_cons.1 member with same | inRest
    · rw [← same, Payload.write, List.length_append]
      omega
    · exact Nat.le_trans (ih inRest) (by omega)

end FeatureFlags.Wire
