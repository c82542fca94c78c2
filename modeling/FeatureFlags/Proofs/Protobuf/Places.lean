import FeatureFlags.Proofs.Protobuf.Wire
import FeatureFlags.Protobuf.Record
import Mathlib.Data.List.Forall2

/-!
**A field of a message can be replaced by any other field.**

Every reader of a part of a message takes octets from the front and looks at nothing that follows
them, groups included, so a message is put together of its fields, however each of them is written.
Another field may then stand in the place of one, with the same octets before and after it.

* `Wire.Takes`: octets from which a reader takes a value, whatever follows them.
* `Wire.Writes`: octets that are one field to a reader of fields.
* `Wire.exists_parts`, `Wire.takeFields_flatten`: a message is put together of its fields.
* `Wire.exists_field_place`, `ConfigRecord.exists_flag_place`: the place of a field, and of a flag.
-/

namespace FeatureFlags

open Wire

namespace Wire

/-! ### What readers take -/

/-- A reader takes a value from octets and leaves what follows them, whatever it is. -/
def Takes {α : Type} (take : Octets → Option (α × Octets)) (value : α) (used : Octets) : Prop :=
  ∀ rest, take (used ++ rest) = some (value, rest)

variable {room number shape fuel : Nat} {input rest : Octets}

/-- What is taken from the front is taken whatever follows. -/
theorem exists_takes_varintWithin {value : Nat}
    (taken : takeVarintWithin room input = some (value, rest)) :
    ∃ used, input = used ++ rest ∧ used ≠ [] ∧ Takes (takeVarintWithin room) value used := by
  induction room generalizing input value with
  | zero => cases taken
  | succ room ih =>
    cases input with
    | nil => cases taken
    | cons octet input =>
      rw [takeVarintWithin] at taken
      by_cases final : octet < 128
      · rw [if_pos final] at taken
        obtain ⟨fits, same⟩ := Option.ite_none_left_eq_some.mp taken
        cases same
        refine ⟨[octet], rfl, by simp, fun rest => ?_⟩
        rw [List.singleton_append, takeVarintWithin, if_pos final, if_neg fits]
      · rw [if_neg final] at taken
        obtain ⟨⟨high, left⟩, more, same⟩ := Option.bind_eq_some_iff.mp taken
        cases same
        obtain ⟨used, rfl, _, takes⟩ := ih more
        refine ⟨octet :: used, rfl, by simp, fun rest => ?_⟩
        rw [List.cons_append, takeVarintWithin, if_neg final, takes]
        rfl

theorem exists_takes_varint {value : Nat} (taken : takeVarint input = some (value, rest)) :
    ∃ used, input = used ++ rest ∧ Takes takeVarint value used := by
  obtain ⟨used, same, _, takes⟩ := exists_takes_varintWithin taken
  exact ⟨used, same, takes⟩

theorem exists_takes_octets {count : Nat} {content : Octets}
    (taken : takeOctets count input = some (content, rest)) :
    ∃ used, input = used ++ rest ∧ Takes (takeOctets count) content used := by
  obtain ⟨enough, same⟩ := Option.ite_none_right_eq_some.mp taken
  cases same
  refine ⟨input.take count, (List.take_append_drop _ _).symm, fun rest => ?_⟩
  have whole := takeOctets_append (input.take count) rest
  rwa [List.length_take_of_le enough] at whole

theorem exists_takes_delimited {content : Octets}
    (taken : takeDelimited input = some (content, rest)) :
    ∃ used, input = used ++ rest ∧ Takes takeDelimited content used := by
  obtain ⟨⟨length, left⟩, isLength, isContent⟩ := Option.bind_eq_some_iff.mp taken
  obtain ⟨first, rfl, _, takesLength⟩ := exists_takes_varintWithin isLength
  obtain ⟨second, rfl, takesContent⟩ := exists_takes_octets isContent
  refine ⟨first ++ second, by simp, fun rest => ?_⟩
  rw [List.append_assoc, takeDelimited, takeVarint, takesLength]
  exact takesContent rest

theorem exists_takes_key {key : Nat × Nat} (taken : takeKey input = some (key, rest)) :
    ∃ used, input = used ++ rest ∧ used ≠ [] ∧ Takes takeKey key used := by
  obtain ⟨⟨value, left⟩, isValue, isKey⟩ := Option.bind_eq_some_iff.mp taken
  obtain ⟨used, rfl, some_used, takes⟩ := exists_takes_varintWithin isValue
  obtain ⟨known, same⟩ := Option.ite_none_left_eq_some.mp isKey
  cases same
  refine ⟨used, rfl, some_used, fun rest => ?_⟩
  rw [takeKey, takeVarint, takes]
  exact if_neg known

/-! ### Groups -/

/-- What follows the content of a field that lies in a group. -/
def skipContent (fuel room inner shape : Nat) (input : Octets) : Option Octets :=
  match shape with
  | 0 => (takeVarint input).map (·.2)
  | 1 => (takeOctets 8 input).map (·.2)
  | 2 => (takeDelimited input).map (·.2)
  | 3 => skipGroup fuel (room - 1) inner input
  | 5 => (takeOctets 4 input).map (·.2)
  | _ => none

theorem skipGroup_succ (fuel room number : Nat) (input : Octets) :
    skipGroup (fuel + 1) room number input = (takeKey input).bind fun taken =>
      if taken.1.2 = 4 then if taken.1.1 = number then some taken.2 else none
      else if room = 0 then none
      else (skipContent fuel room taken.1.1 taken.1.2 taken.2).bind
        (skipGroup fuel room number) := by
  rw [skipGroup]
  cases takeKey input with
  | none => rfl
  | some taken =>
    obtain ⟨⟨inner, shape⟩, rest⟩ := taken
    simp only [Option.bind_eq_bind, Option.bind_some]
    refine ite_congr rfl (fun _ => rfl) fun _ => ite_congr rfl (fun _ => rfl) fun _ => ?_
    split <;> simp [skipContent]

/-- A reader passes over octets and leaves what follows them, if it has fuel for each of them. -/
def Skips (skip : Nat → Octets → Option Octets) (used : Octets) : Prop :=
  ∀ fuel rest, used.length ≤ fuel → skip fuel (used ++ rest) = some rest

theorem exists_skips {α : Type} {take : Octets → Option (α × Octets)}
    (exists_takes : ∀ {value rest}, take input = some (value, rest) →
      ∃ used, input = used ++ rest ∧ Takes take value used)
    (skipped : (take input).map (·.2) = some rest) :
    ∃ used, input = used ++ rest ∧ Skips (fun _ input => (take input).map (·.2)) used := by
  obtain ⟨⟨value, left⟩, taken, rfl⟩ := Option.map_eq_some_iff.mp skipped
  obtain ⟨used, same, takes⟩ := exists_takes taken
  refine ⟨used, same, fun fuel rest _ => ?_⟩
  show (take (used ++ rest)).map _ = some rest
  rw [takes rest]
  rfl

/-- The content of a field is passed over if groups are. -/
theorem exists_skips_content {inner : Nat}
    (groups : ∀ {input rest}, skipGroup fuel (room - 1) inner input = some rest →
      ∃ used, input = used ++ rest ∧ Skips (fun fuel => skipGroup fuel (room - 1) inner) used)
    (skipped : skipContent fuel room inner shape input = some rest) :
    ∃ used, input = used ++ rest ∧
      Skips (fun fuel => skipContent fuel room inner shape) used := by
  unfold skipContent at skipped ⊢
  split at skipped
  case h_1 => exact exists_skips exists_takes_varint skipped
  case h_2 | h_5 => exact exists_skips exists_takes_octets skipped
  case h_3 => exact exists_skips exists_takes_delimited skipped
  case h_4 => exact groups skipped
  case h_6 => cases skipped

/-- **A group is passed over whatever follows it.** The induction is on the fuel; each field of the
group takes at least one octet, so that fuel for each octet is enough. -/
theorem exists_skips_group (skipped : skipGroup fuel room number input = some rest) :
    ∃ used, input = used ++ rest ∧ Skips (fun fuel => skipGroup fuel room number) used := by
  induction fuel generalizing room number input rest with
  | zero => cases skipped
  | succ fuel ih =>
    rw [skipGroup_succ] at skipped
    obtain ⟨⟨⟨inner, shape⟩, left⟩, isKey, further⟩ := Option.bind_eq_some_iff.mp skipped
    obtain ⟨key, rfl, some_key, takesKey⟩ := exists_takes_key isKey
    have positive : 0 < key.length := List.length_pos_iff.mpr some_key
    by_cases stop : shape = 4
    · obtain ⟨ends, same⟩ := Option.ite_none_right_eq_some.mp ((if_pos stop).symm.trans further)
      cases same
      refine ⟨key, rfl, fun fuel rest enough => ?_⟩
      obtain ⟨fuel, rfl⟩ : ∃ less, fuel = less + 1 := ⟨fuel - 1, by omega⟩
      show skipGroup (fuel + 1) room number (key ++ rest) = some rest
      rw [skipGroup_succ, takesKey]
      exact (if_pos stop).trans (if_pos ends)
    · obtain ⟨deep, inside⟩ := Option.ite_none_left_eq_some.mp ((if_neg stop).symm.trans further)
      obtain ⟨middle, isMiddle, isRest⟩ := Option.bind_eq_some_iff.mp inside
      obtain ⟨content, rfl, skipsContent⟩ := exists_skips_content ih isMiddle
      obtain ⟨others, rfl, skipsOthers⟩ := ih isRest
      refine ⟨key ++ (content ++ others), by simp, fun fuel rest enough => ?_⟩
      simp only [List.length_append] at enough
      obtain ⟨fuel, rfl⟩ : ∃ less, fuel = less + 1 := ⟨fuel - 1, by omega⟩
      show skipGroup (fuel + 1) room number _ = some rest
      rw [skipGroup_succ, List.append_assoc, takesKey]
      have first : skipContent fuel room inner shape (content ++ (others ++ rest)) =
          some (others ++ rest) := skipsContent fuel (others ++ rest) (by omega)
      rw [List.append_assoc]
      refine (if_neg stop).trans ((if_neg deep).trans ?_)
      exact Option.bind_eq_some_iff.mpr ⟨_, first, skipsOthers fuel rest (by omega)⟩

/-! ### Fields -/

theorem exists_takes_map {α β : Type} {take : Octets → Option (α × Octets)} (f : α → β)
    {result : β}
    (exists_takes : ∀ {value rest}, take input = some (value, rest) →
      ∃ used, input = used ++ rest ∧ Takes take value used)
    (taken : (take input).map (fun part => (f part.1, part.2)) = some (result, rest)) :
    ∃ used, input = used ++ rest ∧
      Takes (fun input => (take input).map fun part => (f part.1, part.2)) result used := by
  obtain ⟨⟨value, left⟩, isValue, same⟩ := Option.map_eq_some_iff.mp taken
  cases same
  obtain ⟨used, same, takes⟩ := exists_takes isValue
  refine ⟨used, same, fun rest => ?_⟩
  show (take (used ++ rest)).map _ = _
  rw [takes rest]
  rfl

theorem exists_takes_payload {payload : Payload}
    (taken : takePayload room number shape input = some (payload, rest)) :
    ∃ used, input = used ++ rest ∧ Takes (takePayload room number shape) payload used := by
  unfold takePayload at taken ⊢
  split at taken
  case h_1 => exact exists_takes_map Payload.varint exists_takes_varint taken
  case h_2 =>
    exact exists_takes_map (Payload.fixed64 ∘ ofLittleEndian) exists_takes_octets taken
  case h_3 => exact exists_takes_map Payload.delimited exists_takes_delimited taken
  case h_5 =>
    exact exists_takes_map (Payload.fixed32 ∘ ofLittleEndian) exists_takes_octets taken
  case h_4 =>
    obtain ⟨left, skipped, same⟩ := Option.map_eq_some_iff.mp taken
    cases same
    obtain ⟨used, same, skips⟩ := exists_skips_group skipped
    refine ⟨used, same, fun rest => ?_⟩
    have skipped : skipGroup ((used ++ rest).length + 1) (room - 1) number (used ++ rest) =
        some rest := skips _ rest (by rw [List.length_append]; omega)
    show (skipGroup _ _ _ _).map _ = _
    rw [skipped]
    rfl
  case h_6 => cases taken

/-- Octets that are one field to a reader of fields. -/
def Writes (isDelimited : Nat → Bool) (room : Nat) (field : MessageField) (octets : Octets) :
    Prop :=
  octets ≠ [] ∧ ∀ fuel rest, takeFields isDelimited room (fuel + 1) (octets ++ rest) =
    (takeFields isDelimited room fuel rest).map (field :: ·)

variable {isDelimited : Nat → Bool}

/-- The octets of a key and of a payload are those of a field. -/
theorem writes_of_takes {payload : Payload} {key content : Octets} (some_key : key ≠ [])
    (takesKey : Takes takeKey (number, shape) key)
    (takesPayload : Takes
      (takePayload room number (if isDelimited number ∧ shape < 6 then 2 else shape))
      payload content) :
    Writes isDelimited room ⟨number, payload⟩ (key ++ content) := by
  refine ⟨by simp [some_key], fun fuel rest => ?_⟩
  obtain ⟨octet, octets, isCons⟩ := List.exists_cons_of_ne_nil
    (show key ++ content ++ rest ≠ [] by simp [some_key])
  rw [isCons, takeFields, ← isCons, List.append_assoc, takesKey]
  · show Option.bind (takePayload room number _ _) _ = _
    rw [takesPayload]
    simp only [Option.bind_some]
    cases takeFields isDelimited room fuel rest <;> rfl
  · exact fun impossible => by cases impossible

/-- **A field that can be written is one field.** -/
theorem MessageField.Sound.writes {field : MessageField} (sound : field.Sound)
    (delimited : isDelimited field.number → field.payload.shape = 2)
    (short : field.payload.write.length < 2 ^ 64) :
    Writes isDelimited room field field.write := by
  refine writes_of_takes ?_ (takeKey_write sound) ?_
  · exact List.length_pos_iff.mp (length_writeVarint_pos _)
  · have shape : (if isDelimited field.number = true ∧ field.payload.shape < 6 then 2
        else field.payload.shape) = field.payload.shape := by
      split
      · rename_i forced
        exact (delimited forced.1).symm
      · rfl
    rw [shape]
    exact takePayload_write room field.number sound.payload short

/-- **A message is put together of its fields.** -/
theorem exists_parts {fields : List MessageField}
    (taken : takeFields isDelimited room fuel input = some fields) :
    ∃ parts, List.Forall₂ (Writes isDelimited room) fields parts ∧ input = parts.flatten := by
  induction fuel generalizing input fields with
  | zero =>
    cases input with
    | nil =>
      cases taken
      exact ⟨[], .nil, rfl⟩
    | cons octet input => cases taken
  | succ fuel ih =>
    cases input with
    | nil =>
      cases taken
      exact ⟨[], .nil, rfl⟩
    | cons octet input =>
      rw [takeFields] at taken
      · obtain ⟨⟨⟨number, shape⟩, left⟩, isKey, taken⟩ := Option.bind_eq_some_iff.mp taken
        obtain ⟨⟨payload, middle⟩, isPayload, taken⟩ := Option.bind_eq_some_iff.mp taken
        obtain ⟨others, areOthers, same⟩ := Option.bind_eq_some_iff.mp taken
        cases same
        obtain ⟨key, isInput, some_key, takesKey⟩ := exists_takes_key isKey
        obtain ⟨content, rfl, takesPayload⟩ := exists_takes_payload isPayload
        obtain ⟨parts, areParts, rfl⟩ := ih areOthers
        refine ⟨(key ++ content) :: parts,
          .cons (writes_of_takes some_key takesKey takesPayload) areParts, ?_⟩
        rw [isInput, List.flatten_cons, List.append_assoc]
      · exact fun impossible => by cases impossible

/-- What is put together of fields is a message of these fields. -/
theorem takeFields_flatten {fields : List MessageField} {parts : List Octets}
    (areParts : List.Forall₂ (Writes isDelimited room) fields parts)
    (enough : parts.flatten.length ≤ fuel) :
    takeFields isDelimited room fuel parts.flatten = some fields := by
  induction areParts generalizing fuel with
  | nil => cases fuel <;> rfl
  | @cons field part fields parts writes _ ih =>
    rw [List.flatten_cons, List.length_append] at enough
    have positive := List.length_pos_iff.mpr writes.1
    obtain ⟨fuel, rfl⟩ : ∃ less, fuel = less + 1 := ⟨fuel - 1, by omega⟩
    rw [List.flatten_cons, writes.2, ih (by omega)]
    rfl

theorem exists_append_of_forall₂ {α β : Type} {each : α → β → Prop} {front back : List α}
    {items : List β} (related : List.Forall₂ each (front ++ back) items) :
    ∃ first rest, List.Forall₂ each front first ∧ List.Forall₂ each back rest ∧
      items = first ++ rest := by
  refine ⟨items.take front.length, items.drop front.length, ?_, ?_,
    (List.take_append_drop _ _).symm⟩
  · have first := List.forall₂_take front.length related
    rwa [List.take_left] at first
  · have rest := List.forall₂_drop front.length related
    rwa [List.drop_left] at rest

/-- **A field of a message has its place**, where any other field may stand. -/
theorem exists_field_place {depth : Nat} {octets : Octets} {front back : List MessageField}
    {field : MessageField}
    (read : readFields? isDelimited depth octets = some (front ++ field :: back)) :
    ∃ before written after, octets = before ++ (written ++ after) ∧
      Writes isDelimited (100 - depth) field written ∧
      ∀ {other part}, Writes isDelimited (100 - depth) other part →
        readFields? isDelimited depth (before ++ (part ++ after)) =
          some (front ++ other :: back) := by
  obtain ⟨parts, areParts, rfl⟩ := exists_parts read
  obtain ⟨first, rest, isFirst, isRest, rfl⟩ := exists_append_of_forall₂ areParts
  obtain ⟨written, last, writes, isLast, rfl⟩ := List.forall₂_cons_left_iff.mp isRest
  refine ⟨first.flatten, written, last.flatten, by simp, writes, fun {other part} another => ?_⟩
  have areOthers : List.Forall₂ (Writes isDelimited (100 - depth)) (front ++ other :: back)
      (first ++ part :: last) := List.rel_append isFirst (.cons another isLast)
  have whole := takeFields_flatten areOthers (Nat.le_refl _)
  rwa [List.flatten_append, List.flatten_cons] at whole

/-! ### Occurrences -/

section Occurrences

variable {α : Type} {read : Payload → Option α} {fields before after : List MessageField}

theorem occurrences_cons_self (number : Nat) (payload : Payload) :
    occurrences (⟨number, payload⟩ :: fields) number read =
      (read payload).bind fun value => (occurrences fields number read).map (value :: ·) := by
  rw [occurrences, List.filter_cons_of_pos (by simp), List.mapM_cons]
  cases read payload with
  | none => rfl
  | some value =>
    show Option.bind _ _ = Option.map _ _
    rw [← occurrences]
    cases occurrences fields number read <;> rfl

theorem occurrences_cons_other {number : Nat} {field : MessageField}
    (other : field.number ≠ number) :
    occurrences (field :: fields) number read = occurrences fields number read := by
  rw [occurrences, List.filter_cons_of_neg (by simpa using other), ← occurrences]

/-- What fields with other numbers hold does not matter. -/
theorem occurrences_replace_other {number wanted : Nat} (apart : number ≠ wanted)
    (first second : Payload) :
    occurrences (before ++ ⟨number, first⟩ :: after) wanted read =
      occurrences (before ++ ⟨number, second⟩ :: after) wanted read := by
  simp [occurrences, apart]

theorem last?_replace_other {number wanted : Nat} (apart : number ≠ wanted)
    (first second : Payload) :
    last? (before ++ ⟨number, first⟩ :: after) wanted read =
      last? (before ++ ⟨number, second⟩ :: after) wanted read := by
  rw [last?, last?, occurrences_replace_other apart first second]

/-- **One of the values with a number stands in one field**, and another value there is read in its
place. -/
theorem exists_occurrence {number : Nat} {front back : List α} {value : α}
    (found : occurrences fields number read = some (front ++ value :: back)) :
    ∃ before payload after, fields = before ++ ⟨number, payload⟩ :: after ∧
      read payload = some value ∧ ∀ {other new}, read other = some new →
        occurrences (before ++ ⟨number, other⟩ :: after) number read =
          some (front ++ new :: back) := by
  induction fields generalizing front with
  | nil => simp [occurrences] at found
  | cons field fields ih =>
    by_cases here : field.number = number
    · obtain ⟨_, payload⟩ := field
      cases here
      rw [occurrences_cons_self] at found
      obtain ⟨first, isFirst, found⟩ := Option.bind_eq_some_iff.mp found
      obtain ⟨others, areOthers, same⟩ := Option.map_eq_some_iff.mp found
      cases front with
      | nil =>
        cases same
        refine ⟨[], payload, fields, rfl, isFirst, fun {other new} isNew => ?_⟩
        rw [List.nil_append, occurrences_cons_self, isNew, areOthers]
        rfl
      | cons head front =>
        cases same
        obtain ⟨before, place, after, rfl, isValue, replace⟩ := ih areOthers
        refine ⟨_ :: before, place, after, rfl, isValue, fun {other new} isNew => ?_⟩
        rw [List.cons_append, occurrences_cons_self, isFirst, replace isNew]
        rfl
    · rw [occurrences_cons_other here] at found
      obtain ⟨before, place, after, rfl, isValue, replace⟩ := ih found
      refine ⟨field :: before, place, after, rfl, isValue, fun {other new} isNew => ?_⟩
      rw [List.cons_append, occurrences_cons_other here, replace isNew]

end Occurrences

end Wire

/-- **A flag of a configuration has its place**, where any other flag may stand. -/
theorem ConfigRecord.exists_flag_place {octets : Octets} {record : ConfigRecord}
    {front back : List FlagRecord} {flag : FlagRecord}
    (read : ConfigRecord.ofOctets? octets = some record)
    (listed : record.flags = front ++ flag :: back) :
    ∃ before written after payload, octets = before ++ (written ++ after) ∧
      Writes (fun _ => false) 100 ⟨3, payload⟩ written ∧ FlagRecord.read? 1 payload = some flag ∧
      ∀ {other new part}, FlagRecord.read? 1 other = some new →
        Writes (fun _ => false) 100 ⟨3, other⟩ part →
          ConfigRecord.ofOctets? (before ++ (part ++ after)) =
            some { record with flags := front ++ new :: back } := by
  obtain ⟨fields, areFields, read⟩ := Option.bind_eq_some_iff.mp read
  obtain ⟨created, isCreated, read⟩ := Option.bind_eq_some_iff.mp read
  obtain ⟨environment, isEnvironment, read⟩ := Option.bind_eq_some_iff.mp read
  obtain ⟨flags, areFlags, same⟩ := Option.bind_eq_some_iff.mp read
  cases same
  cases listed
  obtain ⟨first, payload, last, rfl, isFlag, replace⟩ := exists_occurrence areFlags
  obtain ⟨before, written, after, rfl, writes, further⟩ := exists_field_place areFields
  refine ⟨before, written, after, payload, rfl, writes, isFlag,
    fun {other new part} isNew isPart => ?_⟩
  rw [last?_replace_other (by decide) payload other] at isCreated isEnvironment
  rw [ofOctets?, further isPart]
  show (last? _ 1 _).bind _ = _
  rw [isCreated]
  show (last? _ 2 _).bind _ = _
  rw [isEnvironment]
  show (occurrences _ 3 _).bind _ = _
  rw [replace isNew]
  rfl

end FeatureFlags
