import FeatureFlags.Proofs.Json.Places
import FeatureFlags.Proofs.Json.Records

/-!
**Objects by the names of their members.**

A reader of records finds a field under its name, wherever the member stands and whatever other
members stand around it, unless two members bear the name of one field.

* `Document.under`: the values of an object that stand under a name.
* `Document.exists_readRecord?_of_under`: the fields that a record has.
* `Json.objectText`: the text of an object, given the texts of its values.
* `Document.spells_objectText`: it spells the object of what its values spell.
-/

namespace FeatureFlags

namespace Document

/-! ### Reading -/

/-- Every key of an object is a text. -/
def AreNamed (members : List (Octets × Document)) : Prop :=
  ∀ member ∈ members, (stringText? member.1).isSome

/-- The values of an object that stand under a name. -/
def under (members : List (Octets × Document)) (name : String) : List Document :=
  (members.filter fun member => stringText? member.1 = some name).map Prod.snd

/-- One value stands under a name, and it is read as a value. -/
def Reads {α : Type} (members : List (Octets × Document)) (name : String)
    (read : Document → Option α) (value : α) : Prop :=
  ∃ document, under members name = [document] ∧ read document = some value

theorem under_cons {key : Octets} {text name : String} (isText : stringText? key = some text)
    (value : Document) (rest : List (Octets × Document)) :
    under ((key, value) :: rest) name =
      if text = name then value :: under rest name else under rest name := by
  unfold under
  by_cases same : text = name
  · simp [isText, same]
  · simp [isText, same]

/-- **What stands under the name of a field is its value**, if nothing else does. -/
theorem exists_knownMembers?_of_under {names : List String} {members : List (Octets × Document)}
    (named : AreNamed members) (once : ∀ name ∈ names, (under members name).length ≤ 1) :
    ∃ known, knownMembers? (fun key => if names.contains key then some key else none) members =
        some known ∧
      ∀ name ∈ names, known.lookup name = (under members name).head? := by
  induction members with
  | nil => exact ⟨[], rfl, fun name _ => rfl⟩
  | cons member rest ih =>
    obtain ⟨key, value⟩ := member
    obtain ⟨hasText, restNamed⟩ := List.forall_mem_cons.mp named
    obtain ⟨text, isText⟩ := Option.isSome_iff_exists.mp hasText
    have fewer : ∀ name ∈ names, (under rest name).length ≤ 1 := fun name isName => by
      have few := once name isName
      rw [under_cons isText] at few
      split at few
      · exact Nat.le_of_succ_le few
      · exact few
    obtain ⟨known, areKnown, lookups⟩ := ih restNamed fewer
    by_cases isField : text ∈ names
    · have alone : under rest text = [] := by
        have few := once text isField
        rw [under_cons isText, if_pos rfl] at few
        exact List.length_eq_zero_iff.mp (Nat.le_zero.mp (Nat.le_of_succ_le_succ few))
      have new : known.lookup text = none := by rw [lookups text isField, alone]; rfl
      refine ⟨(text, value) :: known, ?_, fun name isName => ?_⟩
      · simp only [knownMembers?, isText, areKnown, Option.bind_eq_bind, Option.bind_some]
        simp [isField, new]
      rw [lookup_cons_ite, under_cons isText]
      by_cases same : name = text
      · rw [if_pos same, if_pos same.symm]
        rfl
      · rw [if_neg same, if_neg (Ne.symm same), lookups name isName]
    · refine ⟨known, ?_, fun name isName => ?_⟩
      · simp only [knownMembers?, isText, areKnown, Option.bind_eq_bind, Option.bind_some]
        simp [isField]
      have other : text ≠ name := fun same => isField (same ▸ isName)
      rw [under_cons isText, if_neg other, lookups name isName]

/-- **The fields of a record are what stands under their names.** -/
theorem exists_readRecord?_of_under {names : List String} {level : Nat}
    {members : List (Octets × Document)} (inside : level < nestingLimit) (named : AreNamed members)
    (once : ∀ name ∈ names, (under members name).length ≤ 1) :
    ∃ record, (Document.object members).readRecord? names level = some record ∧
      record.level = level + 1 ∧
      ∀ name ∈ names, record.fields.lookup name = (under members name).head? := by
  obtain ⟨known, areKnown, lookups⟩ := exists_knownMembers?_of_under named once
  refine ⟨⟨level + 1, known⟩, ?_, rfl, lookups⟩
  rw [readRecord?, readRecordWith?, if_pos inside]
  show Option.map _ (knownMembers? _ _) = _
  rw [areKnown]
  rfl

section Fields

variable {α : Type} {members : List (Octets × Document)} {record : Record} {name : String}
  {read : Nat → Document → Option α} {value : α}

theorem Reads.length_under {read : Document → Option α} (reads : Reads members name read value) :
    (under members name).length ≤ 1 := by
  obtain ⟨document, alone, _⟩ := reads
  rw [alone]
  rfl

theorem Reads.require (found : record.fields.lookup name = (under members name).head?)
    (reads : Reads members name (read record.level) value) :
    record.require name read = some value := by
  obtain ⟨document, alone, isRead⟩ := reads
  rw [alone] at found
  rw [Record.require_of_lookup found, isRead]

theorem Reads.optional (found : record.fields.lookup name = (under members name).head?)
    (default : α) (reads : Reads members name (read record.level) value) :
    record.optional name default read = some value := by
  obtain ⟨document, alone, isRead⟩ := reads
  rw [alone] at found
  rw [Record.optional, found]
  exact isRead

theorem optional_of_missing (found : record.fields.lookup name = (under members name).head?)
    (default : α) (missing : under members name = []) :
    record.optional name default read = some default := by
  rw [missing] at found
  rw [Record.optional, found]
  rfl

end Fields

end Document

/-! ### Writing -/

namespace Json

/-- The texts of members with commas between them, given the texts of the values. -/
def membersText : List (String × String) → String
  | [] => ""
  | [(key, value)] => quote key ++ ":" ++ value
  | (key, value) :: rest => quote key ++ ":" ++ value ++ "," ++ membersText rest

/-- The text of an object, given the texts of its values. -/
def objectText (members : List (String × String)) : String :=
  "\x7b" ++ membersText members ++ "\x7d"

end Json

namespace Document

/-- A member of an object that is put together from texts: its name, the text of its value, and the
document that this text spells. -/
structure WrittenMember where
  name : String
  text : String
  value : Document
  spelled : value.SpellsPadded (octetsOf text)

namespace WrittenMember

/-- A member whose value is written as JSON values are. -/
def ofJson (name : String) (value : Json) : WrittenMember :=
  ⟨name, value.render, value.document, Json.padded_of_spells value.spells_document⟩

/-- The member of the object that is spelled. -/
def member (written : WrittenMember) : Octets × Document := (escaped written.name, written.value)

/-- The name of the member and the text of its value. -/
def texts (written : WrittenMember) : String × String := (written.name, written.text)

end WrittenMember

theorem areNamed_written (members : List WrittenMember) :
    AreNamed (members.map WrittenMember.member) := by
  intro member inside
  obtain ⟨written, _, rfl⟩ := List.mem_map.mp inside
  simp [WrittenMember.member, stringText?_escaped]

theorem under_written (members : List WrittenMember) (name : String) :
    under (members.map WrittenMember.member) name =
      (members.filter fun written => written.name = name).map WrittenMember.value := by
  induction members with
  | nil => rfl
  | cons written rest ih =>
    rw [List.map_cons, WrittenMember.member, under_cons (stringText?_escaped written.name), ih]
    by_cases same : written.name = name <;> simp [same]

theorem spells_member (written : WrittenMember) :
    SpellsMember written.member.1 written.member.2.Spells
      (octetsOf (Json.quote written.name ++ ":" ++ written.text)) := by
  have colon : octetsOf ":" = [58] := by decide
  refine ⟨[], [], _, areBlanks_nil, body_escaped _, areBlanks_nil, written.spelled, ?_⟩
  simp [octetsOf_quote, colon, WrittenMember.member]

theorem spells_membersText : ∀ members : List WrittenMember,
    SpellsMembers (members.map WrittenMember.member)
      (octetsOf (Json.membersText (members.map WrittenMember.texts)))
  | [] => areBlanks_nil
  | [written] => spells_member written
  | written :: second :: rest => by
    have comma : octetsOf "," = [44] := by decide
    refine ⟨_, _, spells_member written, spells_membersText (second :: rest), ?_⟩
    simp [Json.membersText, WrittenMember.texts, comma]

/-- **An object is spelled by the texts of its values.** -/
theorem spells_objectText (members : List WrittenMember) :
    (Document.object (members.map WrittenMember.member)).SpellsPadded
      (octetsOf (Json.objectText (members.map WrittenMember.texts))) := by
  have opening : octetsOf "\x7b" = [123] := by decide
  have closing : octetsOf "\x7d" = [125] := by decide
  refine Json.padded_of_spells ⟨_, spells_membersText members, ?_⟩
  simp [Json.objectText, opening, closing]

end Document

end FeatureFlags
