import FeatureFlags.Proofs.Json.Grammar

/-!
**What is written is read as the document that was meant.**

The text of a value holds no blanks, and is put together as the grammar of documents says.

* `Json.document`: the document of a value.
* `Json.spells_document`: the text of a value spells its document.
* `Document.read?_toOctets`: so that it is read as its document.
-/

namespace FeatureFlags

namespace Json

mutual

/-- The document that the text of a value spells. -/
def document : Json → Document
  | .null => .null
  | .bool value => .bool value
  | .number value =>
    match value.text?.bind fun text => Document.takeNumber (octetsOf text) with
    | some (text, _) => .number text
    | none => .null
  | .string value => .string (escaped value)
  | .array items => .array (itemDocuments items)
  | .object members => .object (memberDocuments members)

/-- The documents of the items of an array. -/
def itemDocuments : List Json → List Document
  | [] => []
  | item :: rest => item.document :: itemDocuments rest

/-- The documents of the members of an object, with the octets of their keys. -/
def memberDocuments : List (String × Json) → List (Octets × Document)
  | [] => []
  | (key, value) :: rest => (escaped key, value.document) :: memberDocuments rest

end

/-! ### The octets of a value -/

/-- The octets of items with commas between them. -/
def itemOctets (items : List Json) : Octets := octetsOf (renderItems items)

/-- The octets of members with commas between them. -/
def memberOctets (members : List (String × Json)) : Octets := octetsOf (renderMembers members)

theorem toOctets_array (items : List Json) :
    (Json.array items).toOctets = 91 :: (itemOctets items ++ [93]) := by
  have opening : octetsOf "[" = [91] := by decide
  have closing : octetsOf "]" = [93] := by decide
  simp [toOctets, render, itemOctets, opening, closing]

theorem toOctets_object (members : List (String × Json)) :
    (Json.object members).toOctets = 123 :: (memberOctets members ++ [125]) := by
  have opening : octetsOf "\x7b" = [123] := by decide
  have closing : octetsOf "\x7d" = [125] := by decide
  simp [toOctets, render, memberOctets, opening, closing]

theorem toOctets_string (text : String) :
    (Json.string text).toOctets = 34 :: (escaped text ++ [34]) := by
  rw [toOctets, render, octetsOf_quote]

theorem itemOctets_cons_cons (first second : Json) (rest : List Json) :
    itemOctets (first :: second :: rest) =
      first.toOctets ++ 44 :: itemOctets (second :: rest) := by
  have comma : octetsOf "," = [44] := by decide
  simp [itemOctets, toOctets, renderItems, comma]

theorem memberOctets_singleton (key : String) (value : Json) :
    memberOctets [(key, value)] = 34 :: (escaped key ++ 34 :: 58 :: value.toOctets) := by
  have colon : octetsOf ":" = [58] := by decide
  simp [memberOctets, toOctets, renderMembers, octetsOf_quote, colon]

theorem memberOctets_cons_cons (key : String) (value : Json) (second : String × Json)
    (rest : List (String × Json)) :
    memberOctets ((key, value) :: second :: rest) =
      34 :: (escaped key ++ 34 :: 58 :: (value.toOctets ++ 44 :: memberOctets (second :: rest))) := by
  have colon : octetsOf ":" = [58] := by decide
  have comma : octetsOf "," = [44] := by decide
  simp [memberOctets, toOctets, renderMembers, octetsOf_quote, colon, comma]

/-- The text of a number spells its document, whatever follows. -/
theorem number_cases (value : Number) :
    ((Json.number value).toOctets = octetsOf "null" ∧ (Json.number value).document = .null) ∨
      ∃ text : NumberText, text.WellFormed ∧ (Json.number value).toOctets = text.spell ∧
        (Json.number value).document = .number text := by
  cases written : value.text? with
  | none => exact .inl ⟨by simp [toOctets, render, written], by simp [document, written]⟩
  | some text =>
    obtain ⟨number, formed, spelled⟩ := Number.exists_spell written
    have taken := NumberText.takeNumber_spell formed Document.stops_nil
    rw [List.append_nil] at taken
    exact .inr ⟨number, formed, by simp [toOctets, render, written, spelled],
      by simp [document, written, spelled, taken]⟩

/-! ### The text of a value spells its document -/

theorem padded_of_spells {document : Document} {octets : Octets}
    (spelled : document.Spells octets) : document.SpellsPadded octets :=
  ⟨[], octets, [], areBlanks_nil, spelled, areBlanks_nil, (List.append_nil octets).symm⟩

theorem spellsMember_quoted (key : String) {value : Document} {octets : Octets}
    (spelled : value.Spells octets) :
    Document.SpellsMember (escaped key) value.Spells
      (34 :: (escaped key ++ 34 :: 58 :: octets)) :=
  ⟨[], [], octets, areBlanks_nil, Document.body_escaped key, areBlanks_nil,
    padded_of_spells spelled, rfl⟩

mutual

/-- **The text of a value spells its document.** -/
theorem spells_document : ∀ value : Json, value.document.Spells value.toOctets
  | .null => show octetsOf "null" = _ by decide
  | .bool true => show octetsOf "true" = _ by decide
  | .bool false => show octetsOf "false" = _ by decide
  | .number value => by
    rcases number_cases value with ⟨octets, document⟩ | ⟨text, formed, octets, document⟩
    · rw [octets, document]
      show octetsOf "null" = _
      decide
    · rw [octets, document]
      exact NumberText.spelledBy_spell formed
  | .string text => by
    rw [toOctets_string, document]
    exact ⟨Document.body_escaped text, rfl⟩
  | .array items => by
    rw [toOctets_array, document]
    exact ⟨_, spells_itemDocuments items, rfl⟩
  | .object members => by
    rw [toOctets_object, document]
    exact ⟨_, spells_memberDocuments members, rfl⟩

/-- `spells_document` for the items of an array. -/
theorem spells_itemDocuments : ∀ items : List Json,
    Document.SpellsItems (itemDocuments items) (itemOctets items)
  | [] => areBlanks_nil
  | [item] => padded_of_spells (spells_document item)
  | item :: second :: rest =>
    ⟨item.toOctets, itemOctets (second :: rest), padded_of_spells (spells_document item),
      spells_itemDocuments (second :: rest), itemOctets_cons_cons item second rest⟩

/-- `spells_document` for the members of an object. -/
theorem spells_memberDocuments : ∀ members : List (String × Json),
    Document.SpellsMembers (memberDocuments members) (memberOctets members)
  | [] => areBlanks_nil
  | [(key, value)] => by
    rw [memberOctets_singleton]
    exact spellsMember_quoted key (spells_document value)
  | (key, value) :: second :: rest => by
    refine ⟨_, memberOctets (second :: rest), spellsMember_quoted key (spells_document value),
      spells_memberDocuments (second :: rest), ?_⟩
    rw [memberOctets_cons_cons]
    simp

end

end Json

/-- **The text of a value is its document.** -/
theorem Document.read?_toOctets (value : Json) : read? value.toOctets = some value.document :=
  read?_eq_some_iff.mpr (Json.padded_of_spells value.spells_document)

end FeatureFlags
