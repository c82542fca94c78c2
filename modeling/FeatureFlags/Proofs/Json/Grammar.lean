import FeatureFlags.Proofs.Json.Numbers
import FeatureFlags.Proofs.Json.Strings

/-!
**The grammar of documents, and its reader.**

The grammar is stated over octets, without a reader in mind: how values are put together of other
values, of strings and of numbers, with blanks around every value and every key. The reader accepts
exactly what the grammar allows, of any size and any depth, and finds the document that the grammar
names.

* `Document.Spells`, `Document.SpellsPadded`: a value, alone and with blanks around it.
* `Document.takeValue_of_spells`, `Document.exists_spelled`: the reader takes a value that is
  spelled, whatever follows, and whatever it takes is spelled.
* `Document.read?_eq_some_iff`: octets are read as a document exactly if they spell it.
-/

namespace FeatureFlags

open Document

/-! ### Blanks -/

/-- Only blanks. -/
def AreBlanks (octets : Octets) : Prop := ∀ octet ∈ octets, isBlank octet = true

theorem AreBlanks.append {blanks more : Octets} (first : AreBlanks blanks)
    (second : AreBlanks more) : AreBlanks (blanks ++ more) := by
  intro octet member
  exact (List.mem_append.mp member).elim (first octet) (second octet)

theorem areBlanks_nil : AreBlanks [] := fun _ member => by cases member

namespace Document

variable {blanks rest : Octets}

theorem skipBlanks_append (blank : AreBlanks blanks) :
    skipBlanks (blanks ++ rest) = skipBlanks rest := by
  rw [skipBlanks, skipBlanks, List.dropWhile_append_of_pos blank]

/-- What is skipped are blanks. -/
theorem exists_blanks (input : Octets) :
    ∃ blanks, AreBlanks blanks ∧ input = blanks ++ skipBlanks input :=
  ⟨input.takeWhile isBlank, fun _ => List.mem_takeWhile_imp, List.takeWhile_append_dropWhile.symm⟩

theorem stops_of_blanks (blank : AreBlanks blanks) (stops : Stops rest) :
    Stops (blanks ++ rest) := by
  cases blanks with
  | nil => exact stops
  | cons octet blanks =>
    refine stops_cons ?_
    have isBlank := blank octet List.mem_cons_self
    simp only [Document.isBlank, Bool.or_eq_true, beq_iff_eq] at isBlank
    rcases isBlank with ((rfl | rfl) | rfl) | rfl <;> decide

/-! ### Values -/

/-- Octets with blanks around what is between them. -/
def Padded (inner : Octets → Prop) (octets : Octets) : Prop :=
  ∃ before value after, AreBlanks before ∧ inner value ∧ AreBlanks after ∧
    octets = before ++ (value ++ after)

/-- A member of an object: the key in quotes, a colon and the value, with blanks in between. -/
def SpellsMember (key : Octets) (value : Octets → Prop) (octets : Octets) : Prop :=
  ∃ before between written, AreBlanks before ∧ IsStringBody key ∧ AreBlanks between ∧
    Padded value written ∧ octets = before ++ 34 :: (key ++ 34 :: (between ++ 58 :: written))

mutual

/-- **A document is spelled by octets.** -/
def Spells : Document → Octets → Prop
  | .null, octets => octets = [110, 117, 108, 108]
  | .bool true, octets => octets = [116, 114, 117, 101]
  | .bool false, octets => octets = [102, 97, 108, 115, 101]
  | .number text, octets => text.SpelledBy octets
  | .string raw, octets => IsStringBody raw ∧ octets = 34 :: (raw ++ [34])
  | .array items, octets => ∃ inside, SpellsItems items inside ∧ octets = 91 :: (inside ++ [93])
  | .object members, octets =>
    ∃ inside, SpellsMembers members inside ∧ octets = 123 :: (inside ++ [125])

/-- What stands between the brackets of an array: blanks, or the items with commas between them. -/
def SpellsItems : List Document → Octets → Prop
  | [], octets => AreBlanks octets
  | [item], octets => Padded item.Spells octets
  | item :: next :: rest, octets =>
    ∃ first others, Padded item.Spells first ∧ SpellsItems (next :: rest) others ∧
      octets = first ++ 44 :: others

/-- What stands between the braces of an object: blanks, or the members with commas between
them. -/
def SpellsMembers : List (Octets × Document) → Octets → Prop
  | [], octets => AreBlanks octets
  | [(key, value)], octets => SpellsMember key value.Spells octets
  | (key, value) :: next :: rest, octets =>
    ∃ first others, SpellsMember key value.Spells first ∧ SpellsMembers (next :: rest) others ∧
      octets = first ++ 44 :: others

end

/-- A document is spelled by octets with blanks around it. -/
abbrev SpellsPadded (document : Document) (octets : Octets) : Prop := Padded document.Spells octets

/-! ### What a reader takes is spelled -/

theorem word_of_takeWord {word input rest : Octets} (taken : takeWord word input = some rest) :
    input = word ++ rest := by
  obtain ⟨starts, same⟩ := Option.ite_none_right_eq_some.mp taken
  cases same
  exact (List.prefix_iff_eq_append.mp (List.isPrefixOf_iff_prefix.mp starts)).symm

theorem exists_spelled_word {letter : UInt8} {word input rest : Octets} {document value : Document}
    (taken : (takeWord word input).map (fun after => (value, after)) = some (document, rest))
    (spelled : value.Spells (letter :: word)) :
    ∃ octets, document.Spells octets ∧ letter :: input = octets ++ rest := by
  obtain ⟨_, isTaken, same⟩ := Option.map_eq_some_iff.mp taken
  cases same
  exact ⟨_, spelled, congrArg (letter :: ·) (word_of_takeWord isTaken)⟩

/-- Blanks before what is spelled with blanks around it. -/
theorem Padded.blanks_append {inner : Octets → Prop} {blanks octets : Octets}
    (blank : AreBlanks blanks) (padded : Padded inner octets) :
    Padded inner (blanks ++ octets) := by
  obtain ⟨before, value, after, first, spelled, last, rfl⟩ := padded
  exact ⟨blanks ++ before, value, after, blank.append first, spelled, last,
    (List.append_assoc _ _ _).symm⟩

/-- What follows blanks that are skipped. -/
theorem eq_blanks_append {input rest : Octets} (skipped : skipBlanks input = rest) :
    ∃ blanks, AreBlanks blanks ∧ input = blanks ++ rest := by
  obtain ⟨blanks, blank, same⟩ := exists_blanks input
  exact ⟨blanks, blank, skipped ▸ same⟩

/-- Blanks before the items of an array. -/
theorem SpellsItems.blanks_append {items : List Document} {blanks octets : Octets}
    (blank : AreBlanks blanks) (spelled : SpellsItems items octets) :
    SpellsItems items (blanks ++ octets) := by
  match items, spelled with
  | [], spelled => exact blank.append spelled
  | [item], spelled => exact Padded.blanks_append blank spelled
  | item :: next :: rest, ⟨first, others, isFirst, areOthers, same⟩ =>
    exact ⟨blanks ++ first, others, isFirst.blanks_append blank, areOthers, by simp [same]⟩

theorem SpellsMember.blanks_append {key blanks octets : Octets} {value : Octets → Prop}
    (blank : AreBlanks blanks) (spelled : SpellsMember key value octets) :
    SpellsMember key value (blanks ++ octets) := by
  obtain ⟨before, between, written, first, body, second, padded, rfl⟩ := spelled
  exact ⟨blanks ++ before, between, written, blank.append first, body, second, padded, by simp⟩

/-- Blanks before the members of an object. -/
theorem SpellsMembers.blanks_append {members : List (Octets × Document)} {blanks octets : Octets}
    (blank : AreBlanks blanks) (spelled : SpellsMembers members octets) :
    SpellsMembers members (blanks ++ octets) := by
  match members, spelled with
  | [], spelled => exact blank.append spelled
  | [(key, value)], spelled => exact SpellsMember.blanks_append blank spelled
  | (key, value) :: next :: rest, ⟨first, others, isFirst, areOthers, same⟩ =>
    exact ⟨blanks ++ first, others, isFirst.blanks_append blank, areOthers, by simp [same]⟩

mutual

/-- **Whatever a reader takes is spelled.** -/
theorem exists_spelled : ∀ (fuel : Nat) {input rest : Octets} {document : Document},
    takeValue fuel input = some (document, rest) →
      ∃ octets, document.Spells octets ∧ input = octets ++ rest
  | 0, _, _, _, taken => by cases taken
  | fuel + 1, [], rest, document, taken => by cases taken
  | fuel + 1, octet :: input, rest, document, taken => by
    rw [takeValue] at taken
    split at taken
    · rename_i quote
      obtain ⟨⟨raw, _⟩, isTaken, same⟩ := Option.map_eq_some_iff.mp taken
      cases same
      obtain ⟨body, rfl⟩ := body_of_takeString isTaken
      exact ⟨_, ⟨body, rfl⟩, by simp [quote]⟩
    split at taken
    · rename_i bracket
      split at taken
      · rename_i closed
        cases taken
        obtain ⟨blanks, blank, rfl⟩ := eq_blanks_append closed
        exact ⟨_, ⟨blanks, blank, rfl⟩, by simp [bracket]⟩
      · obtain ⟨⟨items, _⟩, isTaken, same⟩ := Option.map_eq_some_iff.mp taken
        cases same
        obtain ⟨_, inside, spelled, skipped⟩ := exists_spelled_items fuel isTaken
        obtain ⟨blanks, blank, rfl⟩ := eq_blanks_append skipped
        exact ⟨_, ⟨_, spelled.blanks_append blank, rfl⟩, by simp [bracket]⟩
    split at taken
    · rename_i brace
      split at taken
      · rename_i closed
        cases taken
        obtain ⟨blanks, blank, rfl⟩ := eq_blanks_append closed
        exact ⟨_, ⟨blanks, blank, rfl⟩, by simp [brace]⟩
      · obtain ⟨⟨members, _⟩, isTaken, same⟩ := Option.map_eq_some_iff.mp taken
        cases same
        obtain ⟨_, inside, spelled, skipped⟩ := exists_spelled_members fuel isTaken
        obtain ⟨blanks, blank, rfl⟩ := eq_blanks_append skipped
        exact ⟨_, ⟨_, spelled.blanks_append blank, rfl⟩, by simp [brace]⟩
    split at taken
    · rename_i letter
      exact letter ▸ exists_spelled_word taken rfl
    split at taken
    · rename_i letter
      exact letter ▸ exists_spelled_word taken rfl
    split at taken
    · rename_i letter
      exact letter ▸ exists_spelled_word taken rfl
    · obtain ⟨⟨text, _⟩, isTaken, same⟩ := Option.map_eq_some_iff.mp taken
      cases same
      exact NumberText.spelled_of_takeNumber isTaken

theorem exists_spelled_items : ∀ (fuel : Nat) {input rest : Octets} {items : List Document},
    takeItems fuel input = some (items, rest) →
      items ≠ [] ∧ ∃ inside, SpellsItems items inside ∧ input = inside ++ 93 :: rest
  | 0, _, _, _, taken => by cases taken
  | fuel + 1, input, rest, items, taken => by
    rw [takeItems] at taken
    obtain ⟨⟨item, after⟩, isItem, goes_on⟩ := Option.bind_eq_some_iff.mp taken
    obtain ⟨octets, spelled, rfl⟩ := exists_spelled fuel isItem
    dsimp only at goes_on
    split at goes_on
    · rename_i skipped
      obtain ⟨blanks, blank, rfl⟩ := eq_blanks_append skipped
      obtain ⟨⟨others, _⟩, areOthers, same⟩ := Option.bind_eq_some_iff.mp goes_on
      cases same
      obtain ⟨more, inside, spelled_others, again⟩ := exists_spelled_items fuel areOthers
      obtain ⟨lead, leads, rfl⟩ := eq_blanks_append again
      obtain ⟨next, others, rfl⟩ := List.exists_cons_of_ne_nil more
      exact ⟨by simp, _, ⟨octets ++ blanks, _,
        ⟨[], octets, blanks, areBlanks_nil, spelled, blank, rfl⟩,
        spelled_others.blanks_append leads, rfl⟩, by simp⟩
    · rename_i skipped
      cases goes_on
      obtain ⟨blanks, blank, rfl⟩ := eq_blanks_append skipped
      exact ⟨by simp, octets ++ blanks,
        ⟨[], octets, blanks, areBlanks_nil, spelled, blank, rfl⟩, by simp⟩
    · cases goes_on

theorem exists_spelled_members : ∀ (fuel : Nat) {input rest : Octets}
    {members : List (Octets × Document)}, takeMembers fuel input = some (members, rest) →
      members ≠ [] ∧ ∃ inside, SpellsMembers members inside ∧ input = inside ++ 125 :: rest
  | 0, _, _, _, taken => by cases taken
  | fuel + 1, input, rest, members, taken => by
    unfold takeMembers at taken
    split at taken
    · obtain ⟨⟨key, after⟩, isKey, goes_on⟩ := Option.bind_eq_some_iff.mp taken
      obtain ⟨body, rfl⟩ := body_of_takeString isKey
      dsimp only at goes_on
      split at goes_on
      · rename_i colon
        obtain ⟨between, blank_between, rfl⟩ := eq_blanks_append colon
        obtain ⟨⟨value, after⟩, isValue, ends⟩ := Option.bind_eq_some_iff.mp goes_on
        obtain ⟨octets, spelled, skipped⟩ := exists_spelled fuel isValue
        obtain ⟨lead, blank_lead, rfl⟩ := eq_blanks_append skipped
        dsimp only at ends
        split at ends
        · rename_i comma
          obtain ⟨blanks, blank, rfl⟩ := eq_blanks_append comma
          obtain ⟨⟨others, _⟩, areOthers, same⟩ := Option.bind_eq_some_iff.mp ends
          cases same
          obtain ⟨more, inside, spelled_others, again⟩ := exists_spelled_members fuel areOthers
          obtain ⟨start, starts, rfl⟩ := eq_blanks_append again
          obtain ⟨next, others, rfl⟩ := List.exists_cons_of_ne_nil more
          exact ⟨by simp, _, ⟨_, _, ⟨[], between, _, areBlanks_nil, body, blank_between,
            ⟨lead, octets, blanks, blank_lead, spelled, blank, rfl⟩, rfl⟩,
            spelled_others.blanks_append starts, rfl⟩, by simp⟩
        · rename_i brace
          cases ends
          obtain ⟨blanks, blank, rfl⟩ := eq_blanks_append brace
          exact ⟨by simp, _, ⟨[], between, _, areBlanks_nil, body, blank_between,
            ⟨lead, octets, blanks, blank_lead, spelled, blank, rfl⟩, rfl⟩, by simp⟩
        · cases ends
      · cases goes_on
    · cases taken

end

/-! ### What is spelled is taken -/

/-- The first octet of a value is no blank, and no bracket that closes an array. -/
def Begins (input : Octets) : Prop :=
  ∃ octet rest, input = octet :: rest ∧ isBlank octet = false ∧ octet ≠ 93

theorem Begins.append {input : Octets} (begins : Begins input) (rest : Octets) :
    Begins (input ++ rest) := by
  obtain ⟨octet, others, rfl, ink, opens⟩ := begins
  exact ⟨octet, others ++ rest, rfl, ink, opens⟩

theorem Begins.skipBlanks {input : Octets} (begins : Begins input) : skipBlanks input = input := by
  obtain ⟨octet, others, rfl, ink, _⟩ := begins
  simp [Document.skipBlanks, ink]

theorem skipBlanks_cons {octet : UInt8} {rest : Octets} (ink : isBlank octet = false) :
    skipBlanks (octet :: rest) = octet :: rest := by
  simp [skipBlanks, ink]

/-- A number begins with a sign or a digit, whatever follows its whole part. -/
theorem parts_eq_cons {text : NumberText} (formed : text.WellFormed) (tail : Octets) :
    ∃ octet rest, (if text.negative then [45] else []) ++ (digitOctets text.whole ++ tail) =
      octet :: rest ∧ (octet = 45 ∨ isDigit octet = true) := by
  obtain ⟨negative, whole, fraction, exponent⟩ := text
  cases negative with
  | true => exact ⟨45, _, rfl, .inl rfl⟩
  | false =>
    cases whole with
    | nil => rcases formed.leads with lone | ⟨some_digit, _⟩ <;> contradiction
    | cons digit digits =>
      exact ⟨_, _, rfl, .inr (isDigit_digitOctet (formed.whole digit List.mem_cons_self))⟩

theorem begins_of_lead {octet : UInt8} {rest : Octets} (leads : octet = 45 ∨ isDigit octet = true) :
    Begins (octet :: rest) := by
  refine ⟨octet, rest, rfl, ?_⟩
  rcases leads with rfl | digit
  · decide
  · refine ⟨?_, ?_⟩
    · by_contra blank
      simp only [isBlank, Bool.not_eq_false, Bool.or_eq_true, beq_iff_eq] at blank
      rcases blank with ((rfl | rfl) | rfl) | rfl <;> simp [isDigit] at digit
    · rintro rfl
      simp [isDigit] at digit

theorem takeValue_of_lead {octet : UInt8} {others rest : Octets} {text : NumberText}
    (leads : octet = 45 ∨ isDigit octet = true)
    (taken : takeNumber (octet :: others) = some (text, rest)) (fuel : Nat) :
    takeValue (fuel + 1) (octet :: others) = some (.number text, rest) := by
  have other (mark : UInt8) (no_sign : mark ≠ 45) (no_digit : isDigit mark = false) :
      octet ≠ mark := by
    rintro rfl
    rcases leads with sign | digit
    · exact no_sign sign
    · rw [digit] at no_digit
      cases no_digit
  rw [takeValue, if_neg (other 34 (by decide) (by decide)),
    if_neg (other 91 (by decide) (by decide)), if_neg (other 123 (by decide) (by decide)),
    if_neg (other 110 (by decide) (by decide)), if_neg (other 116 (by decide) (by decide)),
    if_neg (other 102 (by decide) (by decide)), taken]
  rfl

theorem stops_mark {mark : UInt8} (mark_or : mark = 44 ∨ mark = 93 ∨ mark = 125) (rest : Octets) :
    Stops (mark :: rest) := by
  apply stops_cons
  rcases mark_or with rfl | rfl | rfl <;> decide

/-- A value begins with no blank, and with no bracket that closes an array. -/
theorem begins_of_spells {document : Document} {octets : Octets}
    (spelled : document.Spells octets) : Begins octets := by
  cases document with
  | null => exact ⟨110, _, spelled, by decide, by decide⟩
  | bool value =>
    cases value with
    | true => exact ⟨116, _, spelled, by decide, by decide⟩
    | false => exact ⟨102, _, spelled, by decide, by decide⟩
  | number text =>
    obtain ⟨formed, exponent, _, rfl⟩ := spelled
    obtain ⟨octet, rest, same, leads⟩ :=
      parts_eq_cons formed (NumberText.fractionOctets text.fraction ++ exponent)
    exact same ▸ begins_of_lead leads
  | string raw => exact ⟨34, _, spelled.2, by decide, by decide⟩
  | array items =>
    obtain ⟨_, _, same⟩ := spelled
    exact ⟨91, _, same, by decide, by decide⟩
  | object members =>
    obtain ⟨_, _, same⟩ := spelled
    exact ⟨123, _, same, by decide, by decide⟩

theorem skipBlanks_padded {document : Document} {octets : Octets}
    (padded : document.SpellsPadded octets) (more : Octets) :
    Begins (skipBlanks (octets ++ more)) := by
  obtain ⟨before, value, after, blank, spelled, _, rfl⟩ := padded
  have begins := (begins_of_spells spelled).append (after ++ more)
  rw [List.append_assoc, List.append_assoc, skipBlanks_append blank, begins.skipBlanks]
  exact begins

theorem skipBlanks_items {item : Document} {items : List Document} {inside : Octets}
    (spelled : SpellsItems (item :: items) inside) (more : Octets) :
    Begins (skipBlanks (inside ++ more)) := by
  cases items with
  | nil => exact skipBlanks_padded spelled more
  | cons next items =>
    obtain ⟨first, others, isFirst, _, rfl⟩ := spelled
    rw [List.append_assoc]
    exact skipBlanks_padded isFirst _

theorem skipBlanks_member {key octets : Octets} {value : Octets → Prop}
    (spelled : SpellsMember key value octets) (more : Octets) :
    ∃ rest, skipBlanks (octets ++ more) = 34 :: rest := by
  obtain ⟨before, between, written, blank, _, _, _, rfl⟩ := spelled
  rw [List.append_assoc, skipBlanks_append blank, List.cons_append, skipBlanks_cons (by decide)]
  exact ⟨_, rfl⟩

theorem skipBlanks_members {member : Octets × Document} {members : List (Octets × Document)}
    {inside : Octets} (spelled : SpellsMembers (member :: members) inside) (more : Octets) :
    ∃ rest, skipBlanks (inside ++ more) = 34 :: rest := by
  cases members with
  | nil => exact skipBlanks_member spelled more
  | cons next members =>
    obtain ⟨first, others, isFirst, _, rfl⟩ := spelled
    rw [List.append_assoc]
    exact skipBlanks_member isFirst _

/-- A reader that takes a value takes it with blanks around it, and leaves blanks at most. -/
theorem takeValue_padded (fuel : Nat) {document : Document} {octets more : Octets}
    (padded : document.SpellsPadded octets) (stops : Stops more)
    (takes : ∀ {value rest}, document.Spells value → value.length ≤ octets.length → Stops rest →
      takeValue fuel (value ++ rest) = some (document, rest)) :
    ∃ rest, takeValue fuel (skipBlanks (octets ++ more)) = some (document, rest) ∧
      skipBlanks rest = skipBlanks more := by
  obtain ⟨before, value, after, blank, spelled, last, rfl⟩ := padded
  refine ⟨after ++ more, ?_, skipBlanks_append last⟩
  have begins := (begins_of_spells spelled).append (after ++ more)
  rw [List.append_assoc, List.append_assoc, skipBlanks_append blank, begins.skipBlanks]
  refine takes spelled ?_ (stops_of_blanks last stops)
  simp only [List.length_append]
  omega

theorem takeValue_array {inside : Octets} (begins : Begins (skipBlanks inside)) (fuel : Nat) :
    takeValue (fuel + 1) (91 :: inside) =
      (takeItems fuel (skipBlanks inside)).map fun (items, after) => (.array items, after) := by
  obtain ⟨octet, others, same, _, opens⟩ := begins
  rw [takeValue, if_neg (by decide), if_pos rfl]
  split
  · rename_i closed
    rw [same] at closed
    exact absurd (List.cons.inj closed).1 opens
  · rfl

theorem takeValue_object {inside : Octets} (quoted : ∃ rest, skipBlanks inside = 34 :: rest)
    (fuel : Nat) :
    takeValue (fuel + 1) (123 :: inside) =
      (takeMembers fuel (skipBlanks inside)).map fun (members, after) =>
        (.object members, after) := by
  obtain ⟨others, same⟩ := quoted
  rw [takeValue, if_neg (by decide), if_neg (by decide), if_pos rfl, same]
  rfl

/-- A reader that takes the value of a member takes the member, and goes on with what follows. -/
theorem takeMembers_member (fuel : Nat) {key octets more : Octets} {value : Document}
    (spelled : SpellsMember key value.Spells octets) (stops : Stops more)
    (takes : ∀ {octets' rest}, value.Spells octets' → octets'.length ≤ octets.length → Stops rest →
      takeValue fuel (octets' ++ rest) = some (value, rest)) :
    takeMembers (fuel + 1) (skipBlanks (octets ++ more)) =
      match skipBlanks more with
      | 44 :: rest => do
        let (members, after) ← takeMembers fuel (skipBlanks rest)
        return ((key, value) :: members, after)
      | 125 :: after => some ([(key, value)], after)
      | _ => none := by
  obtain ⟨before, between, written, blank, body, blank_between, padded, rfl⟩ := spelled
  obtain ⟨rest, taken, ends⟩ := takeValue_padded fuel padded stops fun spelled shorter stops =>
    takes spelled (by simp only [List.length_append, List.length_cons]; omega) stops
  have colon : skipBlanks (between ++ 58 :: (written ++ more)) = 58 :: (written ++ more) := by
    rw [skipBlanks_append blank_between, skipBlanks_cons (by decide)]
  simp only [List.append_assoc, List.cons_append]
  rw [skipBlanks_append blank, skipBlanks_cons (by decide), takeMembers, takeString_of_body body]
  simp only [Option.bind_eq_bind, Option.bind_some, colon, taken, ends]
  rfl

mutual

/-- **A reader takes a value that is spelled**, whatever follows. -/
theorem takeValue_of_spells : ∀ (document : Document) (fuel : Nat) {octets rest : Octets},
    document.Spells octets → 2 * octets.length ≤ fuel → Stops rest →
      takeValue fuel (octets ++ rest) = some (document, rest)
  | document, 0, octets, rest, spelled, enough, stops => by
    obtain ⟨octet, others, rfl, _⟩ := begins_of_spells spelled
    rw [List.length_cons] at enough
    omega
  | .null, fuel + 1, _, rest, rfl, enough, stops => by simp [takeValue, takeWord]
  | .bool true, fuel + 1, _, rest, rfl, enough, stops => by simp [takeValue, takeWord]
  | .bool false, fuel + 1, _, rest, rfl, enough, stops => by simp [takeValue, takeWord]
  | .number text, fuel + 1, octets, rest, spelled, enough, stops => by
    have taken := NumberText.takeNumber_of_spelled spelled stops
    obtain ⟨formed, exponent, _, rfl⟩ := spelled
    obtain ⟨octet, others, same, leads⟩ :=
      parts_eq_cons formed (NumberText.fractionOctets text.fraction ++ exponent)
    rw [same, List.cons_append] at taken ⊢
    exact takeValue_of_lead leads taken fuel
  | .string raw, fuel + 1, _, rest, ⟨body, rfl⟩, enough, stops => by
    rw [List.cons_append, List.append_assoc, List.singleton_append, takeValue, if_pos rfl,
      takeString_of_body body]
    rfl
  | .array [], fuel + 1, _, rest, ⟨inside, blank, rfl⟩, enough, stops => by
    have closed : skipBlanks (inside ++ 93 :: rest) = 93 :: rest := by
      rw [skipBlanks_append blank, skipBlanks_cons (by decide)]
    rw [List.cons_append, List.append_assoc, List.singleton_append, takeValue]
    simp [closed]
  | .array (item :: items), fuel + 1, _, rest, ⟨inside, spelled, rfl⟩, enough, stops => by
    simp only [List.length_cons, List.length_append, List.length_nil] at enough
    have taken := takeItems_of_spells (item :: items) (by simp) fuel rest spelled (by omega)
    rw [List.cons_append, List.append_assoc, List.singleton_append,
      takeValue_array (skipBlanks_items spelled _), taken]
    rfl
  | .object [], fuel + 1, _, rest, ⟨inside, blank, rfl⟩, enough, stops => by
    have closed : skipBlanks (inside ++ 125 :: rest) = 125 :: rest := by
      rw [skipBlanks_append blank, skipBlanks_cons (by decide)]
    rw [List.cons_append, List.append_assoc, List.singleton_append, takeValue]
    simp [closed]
  | .object (member :: members), fuel + 1, _, rest, ⟨inside, spelled, rfl⟩, enough, stops => by
    simp only [List.length_cons, List.length_append, List.length_nil] at enough
    have taken := takeMembers_of_spells (member :: members) (by simp) fuel rest spelled (by omega)
    rw [List.cons_append, List.append_assoc, List.singleton_append,
      takeValue_object (skipBlanks_members spelled _), taken]
    rfl

/-- `takeValue_of_spells` for the items of an array. -/
theorem takeItems_of_spells : ∀ items : List Document, items ≠ [] →
    ∀ (fuel : Nat) {inside : Octets} (rest : Octets), SpellsItems items inside →
      2 * inside.length + 1 ≤ fuel →
        takeItems fuel (skipBlanks (inside ++ 93 :: rest)) = some (items, rest)
  | [], some_item => absurd rfl some_item
  | [item], _ => by
    intro fuel inside rest spelled enough
    obtain ⟨fuel, rfl⟩ : ∃ less, fuel = less + 1 := ⟨fuel - 1, by omega⟩
    obtain ⟨after, taken, ends⟩ := takeValue_padded fuel spelled
      (stops_mark (.inr (.inl rfl)) rest)
      fun spelled shorter stops => takeValue_of_spells item fuel spelled (by omega) stops
    rw [skipBlanks_cons (by decide)] at ends
    rw [takeItems, taken]
    simp [ends]
  | item :: next :: items, _ => by
    intro fuel inside rest spelled enough
    obtain ⟨first, others, isFirst, areOthers, rfl⟩ := spelled
    simp only [List.length_append, List.length_cons] at enough
    obtain ⟨fuel, rfl⟩ : ∃ less, fuel = less + 1 := ⟨fuel - 1, by omega⟩
    have more := takeItems_of_spells (next :: items) (by simp) fuel rest areOthers (by omega)
    obtain ⟨after, taken, ends⟩ := takeValue_padded fuel isFirst
      (stops_mark (.inl rfl) (others ++ 93 :: rest))
      fun spelled shorter stops => takeValue_of_spells item fuel spelled (by omega) stops
    rw [skipBlanks_cons (by decide)] at ends
    rw [List.append_assoc, List.cons_append, takeItems, taken]
    simp [ends, more]

/-- `takeValue_of_spells` for the members of an object. -/
theorem takeMembers_of_spells : ∀ members : List (Octets × Document), members ≠ [] →
    ∀ (fuel : Nat) {inside : Octets} (rest : Octets), SpellsMembers members inside →
      2 * inside.length + 1 ≤ fuel →
        takeMembers fuel (skipBlanks (inside ++ 125 :: rest)) = some (members, rest)
  | [], some_member => absurd rfl some_member
  | [(key, value)], _ => by
    intro fuel inside rest spelled enough
    obtain ⟨fuel, rfl⟩ : ∃ less, fuel = less + 1 := ⟨fuel - 1, by omega⟩
    rw [takeMembers_member fuel spelled (stops_mark (.inr (.inr rfl)) rest)
      fun spelled shorter stops => takeValue_of_spells value fuel spelled (by omega) stops,
      skipBlanks_cons (by decide)]
    rfl
  | (key, value) :: next :: members, _ => by
    intro fuel inside rest spelled enough
    obtain ⟨first, others, isFirst, areOthers, rfl⟩ := spelled
    simp only [List.length_append, List.length_cons] at enough
    obtain ⟨fuel, rfl⟩ : ∃ less, fuel = less + 1 := ⟨fuel - 1, by omega⟩
    have more := takeMembers_of_spells (next :: members) (by simp) fuel rest areOthers (by omega)
    rw [List.append_assoc, List.cons_append, takeMembers_member fuel isFirst
      (stops_mark (.inl rfl) (others ++ 125 :: rest))
      fun spelled shorter stops => takeValue_of_spells value fuel spelled (by omega) stops,
      skipBlanks_cons (by decide)]
    simp [more]

end

/-- **The reader accepts exactly what the grammar allows.** -/
theorem read?_eq_some_iff {octets : Octets} {document : Document} :
    read? octets = some document ↔ document.SpellsPadded octets := by
  constructor
  · intro found
    unfold read? at found
    split at found
    · rename_i other rest taken
      obtain ⟨ended, same⟩ := Option.ite_none_right_eq_some.mp found
      cases same
      obtain ⟨value, spelled, skipped⟩ := exists_spelled _ taken
      obtain ⟨before, blank, rfl⟩ := eq_blanks_append skipped
      obtain ⟨after, last, ends⟩ := exists_blanks rest
      rw [List.isEmpty_iff.mp ended, List.append_nil] at ends
      exact ⟨before, value, rest, blank, spelled, ends ▸ last, rfl⟩
    · cases found
  · intro padded
    obtain ⟨rest, taken, ends⟩ := takeValue_padded (2 * octets.length + 2) padded stops_nil
      fun spelled shorter stops => takeValue_of_spells document _ spelled (by omega) stops
    rw [List.append_nil] at taken
    have ended : skipBlanks rest = [] := ends
    unfold read?
    rw [taken]
    simp [ended]

end Document

end FeatureFlags
