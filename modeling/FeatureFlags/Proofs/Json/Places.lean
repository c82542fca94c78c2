import FeatureFlags.Json.Reading
import FeatureFlags.Proofs.Dict
import FeatureFlags.Proofs.Json.Grammar
import FeatureFlags.Proofs.Text.Octets

/-!
**A value in a text can be replaced by any other value.**

Since the grammar puts values together without looking into them, another value may stand where a
member of an object or an item of an array stands, with the same octets before and after it. The
text then spells the document in which that value stands in the place of the other.

* `Document.HasPart`: a part of a document, and the documents with other parts in its place.
* `Document.hasPart_member`, `Document.hasPart_item`: the members of objects, the items of arrays.
* `Document.isText_of_spells`: what a text spells is text throughout.
* `Document.exists_field_part`, `Document.exists_entry_part`: the fields of records, the entries of
  maps.
* `Document.exists_keyed_part`: the entries of a map in a field of a record.
-/

namespace FeatureFlags

namespace Document

/-! ### Lists with commas between -/

/-- What stands for the entries of a list, with commas between them; blanks without an entry. -/
def Separated {α : Type} (each : α → Octets → Prop) : List α → Octets → Prop
  | [], octets => AreBlanks octets
  | [entry], octets => each entry octets
  | entry :: next :: rest, octets =>
    ∃ first others, each entry first ∧ Separated each (next :: rest) others ∧
      octets = first ++ 44 :: others

theorem spellsItems_iff : ∀ (items : List Document) {inside : Octets},
    SpellsItems items inside ↔ Separated SpellsPadded items inside
  | [], _ => Iff.rfl
  | [_], _ => Iff.rfl
  | _ :: next :: rest, _ =>
    exists_congr fun _ => exists_congr fun _ =>
      and_congr_right' (and_congr_left' (spellsItems_iff (next :: rest)))

theorem spellsMembers_iff : ∀ (members : List (Octets × Document)) {inside : Octets},
    SpellsMembers members inside ↔
      Separated (fun member => SpellsMember member.1 member.2.Spells) members inside
  | [], _ => Iff.rfl
  | [_], _ => Iff.rfl
  | _ :: next :: rest, _ =>
    exists_congr fun _ => exists_congr fun _ =>
      and_congr_right' (and_congr_left' (spellsMembers_iff (next :: rest)))

theorem separated_cons {α : Type} {each : α → Octets → Prop} {entry : α} {entries : List α}
    (some_entry : entries ≠ []) {octets : Octets} :
    Separated each (entry :: entries) octets ↔
      ∃ first others, each entry first ∧ Separated each entries others ∧
        octets = first ++ 44 :: others := by
  cases entries with
  | nil => exact absurd rfl some_entry
  | cons next rest => exact Iff.rfl

/-- **An entry of a list can be replaced** where it stands. -/
theorem Separated.exists_place {α : Type} {each : α → Octets → Prop} {front back : List α}
    {entry : α} {inside : Octets} (spelled : Separated each (front ++ entry :: back) inside) :
    ∃ before written after, inside = before ++ (written ++ after) ∧ each entry written ∧
      ∀ {other octets}, each other octets →
        Separated each (front ++ other :: back) (before ++ (octets ++ after)) := by
  induction front generalizing inside with
  | nil =>
    cases back with
    | nil =>
      refine ⟨[], inside, [], by simp, spelled, fun {other octets} isOther => ?_⟩
      show each other (octets ++ [])
      rwa [List.append_nil]
    | cons next rest =>
      obtain ⟨first, others, isFirst, areOthers, rfl⟩ := spelled
      exact ⟨[], first, 44 :: others, rfl, isFirst,
        fun {_ octets} other => ⟨octets, others, other, areOthers, rfl⟩⟩
  | cons head front ih =>
    obtain ⟨first, others, isFirst, areOthers, rfl⟩ :=
      (separated_cons (by simp)).mp spelled
    obtain ⟨before, written, after, rfl, isEntry, replace⟩ := ih areOthers
    refine ⟨first ++ 44 :: before, written, after, by simp, isEntry, fun other => ?_⟩
    exact (separated_cons (by simp)).mpr ⟨first, _, isFirst, replace other, by simp⟩

/-! ### Places -/

/-- Octets before and after a value that make a document of any value between them. -/
def Surrounds (fill : Document → Document) (before after : Octets) : Prop :=
  ∀ ⦃document octets⦄, document.SpellsPadded octets →
    (fill document).SpellsPadded (before ++ (octets ++ after))

/-- A part of a document, which stands somewhere wherever the document is spelled, and the documents
with other parts in its place. -/
def HasPart (document part : Document) (fill : Document → Document) : Prop :=
  ∀ ⦃octets⦄, document.SpellsPadded octets → ∃ before written after,
    octets = before ++ (written ++ after) ∧ part.SpellsPadded written ∧ Surrounds fill before after

/-- A part of a part is a part. -/
theorem HasPart.trans {document middle part : Document} {outer inner : Document → Document}
    (outside : document.HasPart middle outer) (inside : middle.HasPart part inner) :
    document.HasPart part (outer ∘ inner) := by
  intro octets spelled
  obtain ⟨before, written, after, rfl, isMiddle, outside⟩ := outside spelled
  obtain ⟨lead, value, tail, rfl, isPart, surrounds⟩ := inside isMiddle
  refine ⟨before ++ lead, value, tail ++ after, by simp, isPart, fun other octets spelled => ?_⟩
  have whole := outside (surrounds spelled)
  show (outer (inner other)).SpellsPadded _
  simpa only [List.append_assoc] using whole

theorem Padded.pad {inner : Octets → Prop} {before octets after : Octets}
    (padded : Padded inner octets) (blank : AreBlanks before) (last : AreBlanks after) :
    Padded inner (before ++ (octets ++ after)) := by
  obtain ⟨lead, value, tail, first, spelled, final, rfl⟩ := padded
  exact ⟨before ++ lead, value, tail ++ after, blank.append first, spelled, final.append last,
    by simp⟩

/-- **A part of a document begins and ends somewhere**, the blanks around it aside. -/
theorem HasPart.exists_place {document part : Document} {fill : Document → Document}
    {octets : Octets} (isPart : document.HasPart part fill)
    (spelled : document.SpellsPadded octets) :
    ∃ before raw after, octets = before ++ (raw ++ after) ∧ part.Spells raw ∧
      Surrounds fill before after := by
  obtain ⟨before, written, after, rfl, ⟨lead, raw, tail, blank, isRaw, last, rfl⟩, surrounds⟩ :=
    isPart spelled
  refine ⟨before ++ lead, raw, tail ++ after, by simp, isRaw, fun _ _ padded => ?_⟩
  have whole := surrounds (padded.pad blank last)
  simpa only [List.append_assoc] using whole

/-- **The value of a member is a part of an object.** -/
theorem hasPart_member (front back : List (Octets × Document)) (key : Octets) (value : Document) :
    (object (front ++ (key, value) :: back)).HasPart value
      fun other => object (front ++ (key, other) :: back) := by
  rintro _ ⟨start, _, stop, blank, ⟨inside, members, rfl⟩, last, rfl⟩
  obtain ⟨before, _, after, rfl, isMember, replace⟩ :=
    ((spellsMembers_iff _).mp members).exists_place
  obtain ⟨lead, between, written, blank_lead, body, blank_between, padded, rfl⟩ := isMember
  refine ⟨start ++ 123 :: (before ++ (lead ++ 34 :: (key ++ 34 :: (between ++ [58])))), written,
    after ++ 125 :: stop, by simp, padded, fun other octets spelled => ?_⟩
  have member : SpellsMember key other.Spells
      (lead ++ 34 :: (key ++ 34 :: (between ++ 58 :: octets))) :=
    ⟨lead, between, octets, blank_lead, body, blank_between, spelled, rfl⟩
  have all := (spellsMembers_iff (front ++ (key, other) :: back)).mpr (replace member)
  exact ⟨start, _, stop, blank, ⟨_, all, rfl⟩, last, by simp⟩

/-- **An item is a part of an array.** -/
theorem hasPart_item (front back : List Document) (item : Document) :
    (array (front ++ item :: back)).HasPart item fun other => array (front ++ other :: back) := by
  rintro _ ⟨start, _, stop, blank, ⟨inside, items, rfl⟩, last, rfl⟩
  obtain ⟨before, written, after, rfl, isItem, replace⟩ :=
    ((spellsItems_iff _).mp items).exists_place
  refine ⟨start ++ 91 :: before, written, after ++ 93 :: stop, by simp, isItem,
    fun _ _ spelled => ?_⟩
  exact ⟨start, _, stop, blank, ⟨_, (spellsItems_iff _).mpr (replace spelled), rfl⟩, last, by simp⟩

/-! ### Texts -/

theorem lt_of_isBlank {octet : UInt8} (blank : isBlank octet = true) : octet.toNat < 128 := by
  simp only [isBlank, Bool.or_eq_true, beq_iff_eq] at blank
  rcases blank with ((rfl | rfl) | rfl) | rfl <;> decide

/-- What stands between blanks in a text is a text. -/
theorem Padded.isUtf8 {inner : Octets → Prop} {octets : Octets} (padded : Padded inner octets)
    (utf8 : IsUtf8 octets) : ∃ value, inner value ∧ IsUtf8 value := by
  obtain ⟨before, value, after, blank, spelled, last, rfl⟩ := padded
  have rest : IsUtf8 (value ++ after) := by
    clear last spelled
    induction before with
    | nil => exact utf8
    | cons octet before ih =>
      obtain ⟨first, others⟩ := List.forall_mem_cons.mp blank
      have split : IsUtf8 ([] ++ octet :: (before ++ (value ++ after))) := utf8
      exact ih others (split.split (lt_of_isBlank first)).2
  cases after with
  | nil => exact ⟨value, spelled, by rwa [List.append_nil] at rest⟩
  | cons octet after =>
    exact ⟨value, spelled, (rest.split (lt_of_isBlank (List.forall_mem_cons.mp last).1)).1⟩

/-- What stands between two octets of one character each in a text is a text. -/
theorem isUtf8_between {first last : UInt8} {inside : Octets}
    (utf8 : IsUtf8 (first :: (inside ++ [last]))) (low : first.toNat < 128)
    (low_last : last.toNat < 128) : IsUtf8 inside :=
  have rest : IsUtf8 ([] ++ first :: (inside ++ [last])) := utf8
  ((rest.split low).2.split low_last).1

mutual

/-- **What a text spells is text throughout.** -/
theorem isText_of_spells : ∀ (document : Document) {octets : Octets}, document.Spells octets →
    IsUtf8 octets → document.isText = true
  | .null, _, _, _ => rfl
  | .bool _, _, _, _ => rfl
  | .number _, _, _, _ => rfl
  | .string _, _, ⟨_, rfl⟩, utf8 => (isUtf8_between utf8 (by decide) (by decide)).isSome_text?
  | .array items, _, ⟨_, spelled, rfl⟩, utf8 =>
    areText_of_spells items spelled (isUtf8_between utf8 (by decide) (by decide))
  | .object members, _, ⟨_, spelled, rfl⟩, utf8 =>
    membersAreText_of_spells members spelled (isUtf8_between utf8 (by decide) (by decide))

theorem areText_of_spells : ∀ (items : List Document) {inside : Octets},
    SpellsItems items inside → IsUtf8 inside → areText items = true
  | [], _, _, _ => rfl
  | [item], _, padded, utf8 => by
    obtain ⟨_, spelled, inner⟩ := padded.isUtf8 utf8
    exact Bool.and_eq_true_iff.mpr ⟨isText_of_spells item spelled inner, rfl⟩
  | item :: next :: rest, _, ⟨_, _, padded, others, rfl⟩, utf8 => by
    obtain ⟨first, more⟩ := utf8.split (by decide)
    obtain ⟨_, spelled, inner⟩ := padded.isUtf8 first
    exact Bool.and_eq_true_iff.mpr
      ⟨isText_of_spells item spelled inner, areText_of_spells (next :: rest) others more⟩

theorem memberIsText_of_spells : ∀ (key : Octets) (value : Document) {octets : Octets},
    SpellsMember key value.Spells octets → IsUtf8 octets →
      (key.text?.isSome && value.isText) = true
  | key, value, _, ⟨_, _, _, _, _, _, padded, rfl⟩, utf8 => by
    obtain ⟨_, rest⟩ := utf8.split (by decide)
    obtain ⟨isKey, rest⟩ := rest.split (by decide)
    obtain ⟨_, rest⟩ := rest.split (by decide)
    obtain ⟨_, spelled, inner⟩ := padded.isUtf8 rest
    exact Bool.and_eq_true_iff.mpr ⟨isKey.isSome_text?, isText_of_spells value spelled inner⟩

theorem membersAreText_of_spells : ∀ (members : List (Octets × Document)) {inside : Octets},
    SpellsMembers members inside → IsUtf8 inside → membersAreText members = true
  | [], _, _, _ => rfl
  | [(key, value)], _, spelled, utf8 =>
    Bool.and_eq_true_iff.mpr ⟨memberIsText_of_spells key value spelled utf8, rfl⟩
  | (key, value) :: next :: rest, _, ⟨_, _, spelled, others, rfl⟩, utf8 =>
    have ⟨first, more⟩ := utf8.split (by decide)
    Bool.and_eq_true_iff.mpr ⟨memberIsText_of_spells key value spelled first,
      membersAreText_of_spells (next :: rest) others more⟩

end

/-- What a text spells with blanks around it is text throughout. -/
theorem SpellsPadded.isText {document : Document} {octets : Octets}
    (padded : document.SpellsPadded octets) (utf8 : IsUtf8 octets) : document.isText = true := by
  obtain ⟨_, spelled, inner⟩ := padded.isUtf8 utf8
  exact document.isText_of_spells spelled inner

/-! #### A text around a value -/

theorem narrow_digitOctets {digits : List Nat} (are : AreDigits digits) :
    ∀ octet ∈ digitOctets digits, octet.toNat < 128 := by
  intro octet member
  obtain ⟨digit, inside, rfl⟩ := List.mem_map.mp member
  have small := are digit inside
  rw [UInt8.toNat_ofNat', Nat.mod_eq_of_lt] <;> omega

/-- A number is written with characters of one octet each. -/
theorem narrow_of_spelledBy {text : NumberText} {octets : Octets}
    (spelled : text.SpelledBy octets) :
    octets ≠ [] ∧ ∀ octet ∈ octets, octet.toNat < 128 := by
  obtain ⟨wellFormed, exponent, isExponent, rfl⟩ := spelled
  have whole := narrow_digitOctets wellFormed.whole
  have fraction : ∀ octet ∈ NumberText.fractionOctets text.fraction, octet.toNat < 128 := by
    cases isFraction : text.fraction with
    | none => exact List.forall_mem_nil _
    | some digits =>
      exact List.forall_mem_cons.mpr
        ⟨by decide, narrow_digitOctets (wellFormed.fraction digits isFraction).2⟩
  have power : ∀ octet ∈ exponent, octet.toNat < 128 := by
    cases isPower : text.exponent with
    | none =>
      rw [isPower] at isExponent
      cases isExponent
      exact List.forall_mem_nil _
    | some parts =>
      obtain ⟨negative, digits⟩ := parts
      rw [isPower] at isExponent
      obtain ⟨mark, sign, marked, signed, rfl⟩ := isExponent
      have signs : ∀ octet ∈ sign, octet.toNat < 128 := by
        cases negative with
        | true =>
          cases signed
          exact List.forall_mem_singleton.mpr (by decide)
        | false =>
          obtain rfl | rfl := signed
          · exact List.forall_mem_nil _
          · exact List.forall_mem_singleton.mpr (by decide)
      refine List.forall_mem_cons.mpr ⟨?_, List.forall_mem_append.mpr
        ⟨signs, narrow_digitOctets (wellFormed.exponent negative digits isPower).2⟩⟩
      rcases marked with rfl | rfl <;> decide
  have minus : ∀ octet ∈ (if text.negative then [45] else [] : Octets), octet.toNat < 128 := by
    cases text.negative with
    | true => exact List.forall_mem_singleton.mpr (by decide)
    | false => exact List.forall_mem_nil _
  refine ⟨fun none_left => ?_, List.forall_mem_append.mpr
    ⟨minus, List.forall_mem_append.mpr ⟨whole, List.forall_mem_append.mpr ⟨fraction, power⟩⟩⟩⟩
  have no_digit : text.whole = [] := by
    have empty := (List.append_eq_nil_iff.mp (List.append_eq_nil_iff.mp none_left).2).1
    exact List.map_eq_nil_iff.mp empty
  rcases wellFormed.leads with lone | ⟨some_digit, _⟩
  · rw [lone] at no_digit
    cases no_digit
  · exact some_digit no_digit

/-- A value begins and ends with characters of one octet each. -/
theorem exists_ends {document : Document} {raw : Octets} (spelled : document.Spells raw) :
    ∃ first rest front last, raw = first :: rest ∧ raw = front ++ [last] ∧
      first.toNat < 128 ∧ last.toNat < 128 := by
  cases document with
  | null =>
    cases spelled
    exact ⟨110, [117, 108, 108], [110, 117, 108], 108, rfl, rfl, by decide, by decide⟩
  | bool value =>
    cases value with
    | true =>
      cases spelled
      exact ⟨116, [114, 117, 101], [116, 114, 117], 101, rfl, rfl, by decide, by decide⟩
    | false =>
      cases spelled
      exact ⟨102, [97, 108, 115, 101], [102, 97, 108, 115], 101, rfl, rfl, by decide, by decide⟩
  | number text =>
    obtain ⟨some_octet, narrow⟩ := narrow_of_spelledBy spelled
    obtain ⟨first, rest, same⟩ := List.exists_cons_of_ne_nil some_octet
    refine ⟨first, rest, raw.dropLast, raw.getLast some_octet, same,
      (List.dropLast_concat_getLast some_octet).symm, narrow first ?_,
      narrow _ (List.getLast_mem some_octet)⟩
    rw [same]
    exact List.mem_cons_self
  | string content =>
    obtain ⟨_, rfl⟩ := spelled
    exact ⟨34, content ++ [34], 34 :: content, 34, rfl, rfl, by decide, by decide⟩
  | array items =>
    obtain ⟨inside, _, rfl⟩ := spelled
    exact ⟨91, inside ++ [93], 91 :: inside, 93, rfl, rfl, by decide, by decide⟩
  | object members =>
    obtain ⟨inside, _, rfl⟩ := spelled
    exact ⟨123, inside ++ [125], 123 :: inside, 125, rfl, rfl, by decide, by decide⟩

/-- **A text in which a text stands in the place of a value is a text.** -/
theorem isUtf8_replace {document : Document} {before raw after value : Octets}
    (utf8 : IsUtf8 (before ++ (raw ++ after))) (spelled : document.Spells raw)
    (other : IsUtf8 value) : IsUtf8 (before ++ (value ++ after)) := by
  obtain ⟨first, rest, front, last, isCons, isConcat, low, low_last⟩ := exists_ends spelled
  have isBefore : IsUtf8 before := by
    rw [isCons] at utf8
    exact (utf8.split low).1
  have isAfter : IsUtf8 after := by
    rw [isConcat, List.append_assoc, ← List.append_assoc] at utf8
    exact (utf8.split low_last).2
  exact isBefore.append (other.append isAfter)

/-! ### Records -/

theorem lookup_cons_ite {α : Type} (key name : String) (value : α) (rest : List (String × α)) :
    ((name, value) :: rest).lookup key = if key = name then some value else rest.lookup key := by
  rw [List.lookup_cons]
  by_cases same : key = name
  · rw [if_pos same, beq_iff_eq.mpr same]
  · rw [if_neg same, beq_eq_false_iff_ne.mpr same]

/-- Another value of a known member of an object is the value of its field. -/
theorem exists_knownMembers?_place {fieldOf : String → Option String}
    {members : List (Octets × Document)} {known : List (String × Document)} {name : String}
    {field : Document} (areKnown : knownMembers? fieldOf members = some known)
    (found : known.lookup name = some field) :
    ∃ front raw back, members = front ++ (raw, field) :: back ∧
      ∀ other, ∃ changed, knownMembers? fieldOf (front ++ (raw, other) :: back) = some changed ∧
        ∀ key, changed.lookup key = if key = name then some other else known.lookup key := by
  induction members generalizing known with
  | nil =>
    cases areKnown
    cases found
  | cons member rest ih =>
    obtain ⟨raw, value⟩ := member
    obtain ⟨key, isKey, areKnown⟩ := Option.bind_eq_some_iff.mp areKnown
    obtain ⟨others, areOthers, areKnown⟩ := Option.bind_eq_some_iff.mp areKnown
    cases isField : fieldOf key with
    | none =>
      rw [isField] at areKnown
      cases areKnown
      obtain ⟨front, place, back, rfl, replace⟩ := ih areOthers found
      refine ⟨(raw, value) :: front, place, back, rfl, fun other => ?_⟩
      obtain ⟨changed, isChanged, lookups⟩ := replace other
      refine ⟨changed, ?_, lookups⟩
      simp [knownMembers?, isKey, isField, isChanged]
    | some first =>
      rw [isField] at areKnown
      obtain ⟨new, same⟩ := Option.ite_none_left_eq_some.mp areKnown
      cases same
      by_cases here : name = first
      · subst here
        rw [lookup_cons_ite, if_pos rfl] at found
        cases found
        refine ⟨[], raw, rest, rfl, fun other => ⟨(name, other) :: others, ?_, fun key => ?_⟩⟩
        · simp only [List.nil_append, knownMembers?, isKey, areOthers, isField,
            Option.bind_eq_bind, Option.bind_some]
          exact if_neg new
        · rw [lookup_cons_ite, lookup_cons_ite]
          split <;> rfl
      · rw [lookup_cons_ite, if_neg here] at found
        obtain ⟨front, place, back, rfl, replace⟩ := ih areOthers found
        refine ⟨(raw, value) :: front, place, back, rfl, fun other => ?_⟩
        obtain ⟨changed, isChanged, lookups⟩ := replace other
        have still_new : ¬(changed.lookup first).isSome = true := by
          rwa [lookups, if_neg (Ne.symm here)]
        refine ⟨(first, value) :: changed, ?_, fun key => ?_⟩
        · simp only [List.cons_append, knownMembers?, isKey, isChanged, isField,
            Option.bind_eq_bind, Option.bind_some]
          exact if_neg still_new
        · rw [lookup_cons_ite, lookup_cons_ite, lookups]
          by_cases first_key : key = first
          · rw [if_pos first_key, if_pos first_key, if_neg (first_key ▸ Ne.symm here)]
          · rw [if_neg first_key, if_neg first_key]

/-- Another item of an array is the value of its field. -/
theorem exists_zip_place {names : List String} {items : List Document} {name : String}
    {field : Document} (found : (names.zip items).lookup name = some field) :
    ∃ front back, items = front ++ field :: back ∧
      ∀ other key, (names.zip (front ++ other :: back)).lookup key =
        if key = name then some other else (names.zip items).lookup key := by
  induction names generalizing items with
  | nil => simp at found
  | cons first names ih =>
    cases items with
    | nil => simp at found
    | cons item items =>
      rw [List.zip_cons_cons, lookup_cons_ite] at found
      by_cases here : name = first
      · subst here
        rw [if_pos rfl] at found
        cases found
        refine ⟨[], items, rfl, fun other key => ?_⟩
        rw [List.nil_append, List.zip_cons_cons, List.zip_cons_cons, lookup_cons_ite,
          lookup_cons_ite]
        split <;> rfl
      · rw [if_neg here] at found
        obtain ⟨front, back, rfl, replace⟩ := ih found
        refine ⟨item :: front, back, rfl, fun other key => ?_⟩
        rw [List.cons_append, List.zip_cons_cons, List.zip_cons_cons, lookup_cons_ite,
          lookup_cons_ite, replace]
        by_cases first_key : key = first
        · rw [if_pos first_key, if_pos first_key, if_neg (first_key ▸ Ne.symm here)]
        · rw [if_neg first_key, if_neg first_key]

/-- **The value of a field is a part of a record**, and another value there leaves all other
fields. -/
theorem exists_field_part {names : List String} {level : Nat} {document field : Document}
    {record : Record} {name : String} (isRecord : document.readRecord? names level = some record)
    (found : record.fields.lookup name = some field) :
    ∃ fill, document.HasPart field fill ∧
      ∀ other, ∃ changed, (fill other).readRecord? names level = some changed ∧
        changed.level = record.level ∧
        ∀ key, changed.fields.lookup key =
          if key = name then some other else record.fields.lookup key := by
  obtain ⟨inside, isRecord⟩ := Option.ite_none_right_eq_some.mp isRecord
  cases document with
  | object members =>
    obtain ⟨known, areKnown, rfl⟩ := Option.map_eq_some_iff.mp isRecord
    obtain ⟨front, raw, back, rfl, replace⟩ := exists_knownMembers?_place areKnown found
    refine ⟨_, hasPart_member front back raw field, fun other => ?_⟩
    obtain ⟨changed, isChanged, lookups⟩ := replace other
    refine ⟨⟨level + 1, changed⟩, ?_, rfl, lookups⟩
    rw [readRecord?, readRecordWith?, if_pos inside]
    show Option.map _ (knownMembers? _ _) = _
    rw [isChanged]
    rfl
  | array items =>
    obtain ⟨fits, same⟩ := Option.ite_none_right_eq_some.mp isRecord
    cases same
    obtain ⟨front, back, rfl, replace⟩ := exists_zip_place found
    refine ⟨_, hasPart_item front back field, fun other =>
      ⟨⟨level + 1, names.zip (front ++ other :: back)⟩, ?_, rfl, replace other⟩⟩
    rw [readRecord?, readRecordWith?, if_pos inside]
    refine if_pos ?_
    simpa using fits
  | null | bool | number | string => cases isRecord

/-! ### Maps -/

/-- The last member with a key. -/
theorem exists_last_member {α : Type} {each : Octets × Document → Option (String × α)}
    {members : List (Octets × Document)} {entries : List (String × α)} {key : String}
    (areEntries : members.mapM each = some entries) (present : ∃ entry ∈ entries, entry.1 = key) :
    ∃ front member back before value after, members = front ++ member :: back ∧
      front.mapM each = some before ∧ each member = some (key, value) ∧
      back.mapM each = some after ∧ entries = before ++ (key, value) :: after ∧
      ∀ entry ∈ after, entry.1 ≠ key := by
  induction members generalizing entries with
  | nil =>
    cases areEntries
    simp at present
  | cons member rest ih =>
    rw [List.mapM_cons] at areEntries
    obtain ⟨entry, isEntry, areEntries⟩ := Option.bind_eq_some_iff.mp areEntries
    obtain ⟨others, areOthers, same⟩ := Option.bind_eq_some_iff.mp areEntries
    cases same
    by_cases later : ∃ entry ∈ others, entry.1 = key
    · obtain ⟨front, last, back, before, value, after, rfl, isBefore, isLast, isAfter, rfl,
        final⟩ := ih areOthers later
      refine ⟨member :: front, last, back, entry :: before, value, after, rfl, ?_, isLast, isAfter,
        rfl, final⟩
      simp [List.mapM_cons, isEntry, isBefore]
    · obtain ⟨other, inside, rfl⟩ := present
      rcases List.mem_cons.mp inside with rfl | inside
      · exact ⟨[], member, rest, [], other.2, others, rfl, rfl, isEntry, areOthers, rfl,
          fun entry inside same => later ⟨entry, inside, same⟩⟩
      · exact absurd ⟨other, inside, rfl⟩ later

/-- **The value that counts for a key is a part of a map**, and another value there is what is read
under this key, if it is read. -/
theorem exists_entry_part {α : Type} {level : Nat} {read : Nat → Document → Option α}
    {document : Document} {dict : Dict α} {key : String}
    (isDict : document.readDict? level read = some dict) (present : key ∈ dict.keys) :
    ∃ fill stored, document.HasPart stored fill ∧ dict.get? key = read (level + 1) stored ∧
      ∀ other, (fill other).readDict? level read =
        (read (level + 1) other).map fun value => dict.insert key value := by
  cases document with
  | object members =>
    obtain ⟨inside, isDict⟩ := Option.ite_none_right_eq_some.mp isDict
    obtain ⟨entries, areEntries, same⟩ := Option.bind_eq_some_iff.mp isDict
    cases same
    obtain ⟨front, ⟨raw, stored⟩, back, before, value, after, rfl, isBefore, isEntry, isAfter, rfl,
      last⟩ := exists_last_member areEntries (Dict.mem_keys_ofList.mp present)
    obtain ⟨_, isKey, isEntry⟩ := Option.bind_eq_some_iff.mp isEntry
    obtain ⟨_, isValue, same⟩ := Option.bind_eq_some_iff.mp isEntry
    cases same
    refine ⟨_, stored, hasPart_member front back raw stored, ?_, fun other => ?_⟩
    · rw [isValue, Dict.ofList_replace_last last value value, Dict.get?_insert, if_pos rfl]
    · rw [readDict?, if_pos inside, List.mapM_append, List.mapM_cons]
      simp only [Option.bind_eq_bind, Option.pure_def] at isBefore isAfter ⊢
      rw [isBefore, isAfter, isKey]
      cases read (level + 1) other with
      | none => rfl
      | some new => exact congrArg some (Dict.ofList_replace_last last value new)
  | null | bool | number | string | array => cases isDict

/-- **The value that counts for a key in a field of a record is a part of the document**, and
another value there leaves all other fields. -/
theorem exists_keyed_part {α : Type} {names : List String} {level : Nat}
    {read : Nat → Document → Option α} {document : Document} {record : Record} {name key : String}
    {dict : Dict α} (isRecord : document.readRecord? names level = some record)
    (isDict : record.require name (fun level => readDict? level read) = some dict)
    (present : key ∈ dict.keys) :
    ∃ fill stored, document.HasPart stored fill ∧
      dict.get? key = read (record.level + 1) stored ∧
      ∀ other, ∃ changed, (fill other).readRecord? names level = some changed ∧
        changed.level = record.level ∧
        changed.require name (fun level => readDict? level read) =
          (read (record.level + 1) other).map (dict.insert key) ∧
        ∀ field, field ≠ name → changed.fields.lookup field = record.fields.lookup field := by
  obtain ⟨field, isField, isDict⟩ := Option.bind_eq_some_iff.mp isDict
  obtain ⟨outer, isPart, replaceField⟩ := exists_field_part isRecord isField
  obtain ⟨inner, stored, isStored, isEntry, replaceEntry⟩ := exists_entry_part isDict present
  refine ⟨_, stored, isPart.trans isStored, isEntry, fun other => ?_⟩
  obtain ⟨changed, isChanged, sameLevel, lookups⟩ := replaceField (inner other)
  refine ⟨changed, isChanged, sameLevel, ?_, fun field apart => by rw [lookups, if_neg apart]⟩
  rw [Record.require, lookups, if_pos rfl, sameLevel]
  exact replaceEntry other

end Document

/-! ### Fields that are the same -/

namespace Record

theorem require_of_lookup {α : Type} {record : Record} {name : String} {document : Document}
    (found : record.fields.lookup name = some document) (read : Nat → Document → Option α) :
    record.require name read = read record.level document := by
  rw [require, found]
  rfl

variable {α : Type} {first second : Record} {name : String}
  (level : second.level = first.level)
  (same : second.fields.lookup name = first.fields.lookup name)

include level same

theorem require_congr (read : Nat → Document → Option α) :
    second.require name read = first.require name read := by
  rw [require, require, same, level]

theorem optional_congr (default : α) (read : Nat → Document → Option α) :
    second.optional name default read = first.optional name default read := by
  rw [optional, optional, same, level]

theorem nullable_congr (read : Nat → Document → Option α) :
    second.nullable name read = first.nullable name read := by
  rw [nullable, nullable, optional_congr level same]

end Record

end FeatureFlags
