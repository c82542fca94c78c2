import FeatureFlags.Proofs.Json.Places

/-!
**A member can be put into an object wherever the object stands in a text.**

Between any two members of an object, before the first and after the last there is a place in the
text where one more member may stand, with a comma to part it from a neighbour. The text is then
spelled by the same octets before and after the place. A reader of records passes over the member if
its name is none of the names that it knows.

* `Document.joinedText`: a member with the comma that it needs.
* `Document.Separated.exists_gap`: a place between entries of a list.
* `Document.HasPart.exists_gap`: a place between the members of an object in a text.
* `Document.readRecord?_insert`: a member with an unknown name is passed over.
-/

namespace FeatureFlags

namespace Document

/-! ### Places between entries -/

/-- The octets of an entry that comes between others, with the comma that parts it from one. -/
def joining {α : Type} : List α → List α → Octets → Octets
  | _, _ :: _, written => written ++ [44]
  | _ :: _, [], written => 44 :: written
  | [], [], written => written

/-- The text of an entry that comes between others, with the comma that parts it from one. -/
def joinedText {α : Type} : List α → List α → String → String
  | _, _ :: _, written => written ++ ","
  | _ :: _, [], written => "," ++ written
  | [], [], written => written

theorem octetsOf_joinedText {α : Type} (front back : List α) (written : String) :
    octetsOf (joinedText front back written) = joining front back (octetsOf written) := by
  have comma : octetsOf "," = [44] := by decide
  cases back with
  | cons next rest => rw [joinedText, joining, octetsOf_append, comma]
  | nil =>
    cases front with
    | nil => rfl
    | cons first rest =>
      rw [joinedText, joining, octetsOf_append, comma]
      rfl

/-- The comma depends on whether there are entries before and after, and not on which. -/
theorem joining_cons {α : Type} (head : α) {front back : List α} (others : front ++ back ≠ [])
    (written : Octets) : joining (head :: front) back written = joining front back written := by
  cases back with
  | cons next rest => rfl
  | nil =>
    cases front with
    | nil => exact absurd rfl others
    | cons first rest => rfl

/-- **Between the entries of a list one more may stand.** Before the place stands nothing or a comma,
or nothing comes after it. -/
theorem Separated.exists_gap {α : Type} {each : α → Octets → Prop}
    (pad : ∀ {entry blanks octets}, AreBlanks blanks → each entry octets →
      each entry (blanks ++ octets))
    {front back : List α} {inside : Octets} (spelled : Separated each (front ++ back) inside) :
    ∃ before after, inside = before ++ after ∧
      (before = [] ∨ (∃ lead, before = lead ++ [44]) ∨ after = []) ∧
      ∀ {entry written}, each entry written →
        Separated each (front ++ entry :: back) (before ++ (joining front back written ++ after)) := by
  induction front generalizing inside with
  | nil =>
    cases back with
    | nil =>
      refine ⟨inside, [], by simp, .inr (.inr rfl), fun {entry written} isEntry => ?_⟩
      rw [joining, List.append_nil]
      exact pad spelled isEntry
    | cons next rest =>
      refine ⟨[], inside, rfl, .inl rfl, fun {entry written} isEntry => ?_⟩
      exact ⟨written, inside, isEntry, spelled, by simp [joining]⟩
  | cons head front ih =>
    by_cases others : front ++ back = []
    · obtain ⟨rfl, rfl⟩ := List.append_eq_nil_iff.mp others
      refine ⟨inside, [], by simp, .inr (.inr rfl), fun {entry written} isEntry => ?_⟩
      exact ⟨inside, written, spelled, isEntry, by simp [joining]⟩
    · obtain ⟨first, later, isFirst, areLater, rfl⟩ := (separated_cons others).mp spelled
      obtain ⟨before, after, rfl, edge, insert⟩ := ih areLater
      refine ⟨first ++ 44 :: before, after, by simp, ?_, fun isEntry => ?_⟩
      · obtain rfl | ⟨lead, rfl⟩ | rfl := edge
        · exact .inr (.inl ⟨first, rfl⟩)
        · exact .inr (.inl ⟨first ++ 44 :: lead, by simp⟩)
        · exact .inr (.inr rfl)
      · rw [joining_cons head others]
        exact (separated_cons (by simp)).mpr ⟨first, _, isFirst, insert isEntry, by simp⟩

/-! ### Places in a text -/

/-- Octets that part where one of them is a character of its own. -/
def PartsAtMark (before after : Octets) : Prop :=
  (∃ lead mark, before = lead ++ [mark] ∧ mark.toNat < 128) ∨
    ∃ mark tail, after = mark :: tail ∧ mark.toNat < 128

/-- An octet below 128 is a character of its own. -/
theorem isUtf8_mark {mark : UInt8} (low : mark.toNat < 128) : IsUtf8 [mark] := by
  have same : (Char.ofNat mark.toNat).toNat = mark.toNat := by
    rw [Char.ofNat, dif_pos (Or.inl (by omega))]
    rfl
  have narrow : (Char.ofNat mark.toNat).toNat < 128 := by rwa [same]
  refine isUtf8_iff.mpr ⟨[Char.ofNat mark.toNat], ?_⟩
  rw [List.flatMap_singleton, utf8EncodeChar_of_lt narrow, same, UInt8.ofNat_toNat]

/-- **A text parts into texts** where one of the octets is a character of its own. -/
theorem PartsAtMark.isUtf8 {before after : Octets} (parts : PartsAtMark before after)
    (utf8 : IsUtf8 (before ++ after)) : IsUtf8 before ∧ IsUtf8 after := by
  obtain ⟨lead, mark, rfl, low⟩ | ⟨mark, tail, rfl, low⟩ := parts
  · rw [List.append_assoc, List.singleton_append] at utf8
    obtain ⟨isLead, isAfter⟩ := utf8.split low
    exact ⟨isLead.append (isUtf8_mark low), isAfter⟩
  · obtain ⟨isBefore, isTail⟩ := utf8.split low
    exact ⟨isBefore, (isUtf8_mark low).append isTail⟩

theorem PartsAtMark.around {before after : Octets} (parts : PartsAtMark before after)
    (lead tail : Octets) : PartsAtMark (lead ++ before) (after ++ tail) := by
  obtain ⟨start, mark, rfl, low⟩ | ⟨mark, stop, rfl, low⟩ := parts
  · exact .inl ⟨lead ++ start, mark, by simp, low⟩
  · exact .inr ⟨mark, stop ++ tail, rfl, low⟩

/-- Octets between the members of an object, where one more makes a document. -/
def TakesMember (fill : Document → Document) (front back : List (Octets × Document))
    (before after : Octets) : Prop :=
  ∀ ⦃key value written⦄, SpellsMember key value.Spells written →
    (fill (.object (front ++ (key, value) :: back))).SpellsPadded
      (before ++ (joining front back written ++ after))

/-- **Between the members of an object there is a place for one more.** -/
theorem exists_gap_object {front back : List (Octets × Document)} {octets : Octets}
    (spelled : (object (front ++ back)).SpellsPadded octets) :
    ∃ before after, octets = before ++ after ∧ PartsAtMark before after ∧
      TakesMember id front back before after := by
  obtain ⟨start, _, stop, blank, ⟨inside, members, rfl⟩, last, rfl⟩ := spelled
  obtain ⟨before, after, rfl, edge, insert⟩ :=
    ((spellsMembers_iff _).mp members).exists_gap fun blank isMember =>
      SpellsMember.blanks_append blank isMember
  refine ⟨start ++ 123 :: before, after ++ 125 :: stop, by simp, ?_,
    fun key value written isMember => ?_⟩
  · obtain rfl | ⟨lead, rfl⟩ | rfl := edge
    · exact .inl ⟨start, 123, rfl, by decide⟩
    · exact .inl ⟨start ++ 123 :: lead, 44, by simp, by decide⟩
    · exact .inr ⟨125, stop, rfl, by decide⟩
  · have all := (spellsMembers_iff (front ++ (key, value) :: back)).mpr (insert isMember)
    exact ⟨start, _, stop, blank, ⟨_, all, rfl⟩, last, by simp⟩

/-- **Between the members of an object in a text there is a place for one more.** -/
theorem HasPart.exists_gap {document : Document} {fill : Document → Document}
    {front back : List (Octets × Document)} {octets : Octets}
    (isPart : document.HasPart (.object (front ++ back)) fill)
    (spelled : document.SpellsPadded octets) :
    ∃ before after, octets = before ++ after ∧ PartsAtMark before after ∧
      TakesMember fill front back before after := by
  obtain ⟨lead, _, tail, rfl, isObject, surrounds⟩ := isPart spelled
  obtain ⟨before, after, rfl, parts, takes⟩ := exists_gap_object isObject
  refine ⟨lead ++ before, after ++ tail, by simp, parts.around lead tail,
    fun key value written isMember => ?_⟩
  have whole := surrounds (takes isMember)
  simpa only [id, List.append_assoc] using whole

/-- **Between the members of an object in a text a text can be put.** -/
theorem HasPart.exists_text_gap {document : Document} {fill : Document → Document}
    {front back : List (Octets × Document)} {text : String}
    (isPart : document.HasPart (.object (front ++ back)) fill)
    (isDocument : read? (octetsOf text) = some document) :
    ∃ before after : String, text = before ++ after ∧
      ∀ {key : Octets} {value : Document} {written : String},
        SpellsMember key value.Spells (octetsOf written) →
        read? (octetsOf (before ++ joinedText front back written ++ after)) =
          some (fill (.object (front ++ (key, value) :: back))) := by
  obtain ⟨before, after, same, parts, takes⟩ :=
    isPart.exists_gap (read?_eq_some_iff.mp isDocument)
  obtain ⟨⟨before, rfl⟩, after, rfl⟩ := parts.isUtf8 ⟨text, same.symm⟩
  refine ⟨before, after, ?_, fun {key value written} isMember => ?_⟩
  · rw [← octetsOf_append] at same
    exact eq_of_octetsOf same
  · rw [read?_eq_some_iff, octetsOf_append, octetsOf_append, octetsOf_joinedText,
      List.append_assoc]
    exact takes isMember

/-! ### Members with unknown names -/

/-- **A member with an unknown name is passed over**, wherever it stands. -/
theorem knownMembers?_insert {fieldOf : String → Option String} {key : Octets} {name : String}
    (isName : stringText? key = some name) (unknown : fieldOf name = none) (value : Document)
    (front back : List (Octets × Document)) :
    knownMembers? fieldOf (front ++ (key, value) :: back) = knownMembers? fieldOf (front ++ back) := by
  induction front with
  | nil =>
    simp only [List.nil_append, knownMembers?, isName, unknown, Option.bind_eq_bind,
      Option.bind_some]
    exact Option.bind_fun_some _
  | cons member front ih => simp only [List.cons_append, knownMembers?, ih]

theorem readRecord?_insert {names : List String} {key : Octets} {name : String}
    (isName : stringText? key = some name) (unknown : name ∉ names) (value : Document)
    (front back : List (Octets × Document)) (level : Nat) :
    (object (front ++ (key, value) :: back)).readRecord? names level =
      (object (front ++ back)).readRecord? names level := by
  simp only [readRecord?, readRecordWith?]
  rw [knownMembers?_insert isName (by simpa using unknown)]

end Document

end FeatureFlags
