import FeatureFlags.Precomputed.Json
import FeatureFlags.Proofs.Json.Records
import FeatureFlags.Proofs.Text.Base64

/-!
**Decoded assignments are read back from their JSON form, unless a value is not kept.**

Whatever a response holds, its decoded form is a record whose texts, truth values, whole numbers and
instants are read back. A double is read back if its digits are, and a document if it does not lie
too deep and no object in it begins with the key that is kept for texts; the decoded form puts a
document four containers deep, and a configuration around it one more. So decoded assignments are
read back exactly if each double and each document in them is.

* `Precomputed.IsKept`: each double and each document is read back.
* `Precomputed.IsNormal`: the documents and the instants are ones that can be read.
* `Precomputed.read?_document`: what is normal is read back exactly if it is kept.
* `Precomputed.isNormal_decode`: what a response is decoded to is normal.
-/

namespace FeatureFlags

open Document

/-! ### Values -/

namespace Value

/-- Whether a value is read back with `level` containers around its content. -/
def isKept (level : Nat) : Value → Bool
  | numeric value => value.isKept
  | json value => value.isKept level
  | _ => true

/-- Whether a value is one that can be read. -/
def IsNormal : Value → Prop
  | json value => value.IsNormal
  | _ => True

end Value

@[simp] theorem VariationType.ofName?_name (type : VariationType) :
    ofName? type.name = some type := by
  cases type <;> rfl

@[simp] theorem VariationType.read?_document (level : Nat) (type : VariationType) :
    VariationType.read? level (Json.string type.name).document = some type := by
  simp [read?]

theorem Document.readInteger?_document (value : Int64) :
    (Json.int value.toInt).document.readInteger? = some value := by
  have least := value.le_toInt
  have most := value.toInt_lt
  have found : (Json.int value.toInt).document.readNumber? = some (.whole value.toInt) :=
    readNumber?_whole (by omega) (by omega)
  rw [readInteger?, found]
  have fits : value.toInt ≤ Double.maxInteger := Int.lt_add_one_iff.mp most
  simp [Number.integer?, fits]

namespace Value

theorem readContent?_document {value : Value} (normal : value.IsNormal) (level : Nat) :
    readContent? value.type level value.content.document = some value ↔ value.isKept level := by
  cases value with
  | string text => simp [readContent?, type, content, isKept]
  | integer value => simp [readContent?, type, content, isKept, Document.readInteger?_document]
  | numeric value => 
    simp [readContent?, type, content, isKept, ← Document.readDouble?_document]
  | boolean value => simp [readContent?, type, content, isKept]
  | json value => 
    have found := Document.toJson?_document normal level
    simp [readContent?, type, content, isKept, ← found]

theorem read?_document {value : Value} (normal : value.IsNormal) {level : Nat}
    (inside : level < nestingLimit) :
    read? level value.toJson.document = some value ↔ value.isKept (level + 1) := by
  rw [← readContent?_document normal]
  rw [read?, toJson, readRecord?_document inside (by simp) (by simp)]
  simp [Record.require, List.lookup_cons]

end Value

/-! ### Subjects -/

namespace AttributeValue

/-- Whether an attribute is read back. -/
def isKept : AttributeValue → Bool
  | number value => value.isKept
  | _ => true

theorem read?_document (value : AttributeValue) :
    read? value.toJson.document = some value ↔ value.isKept := by
  cases value with
  | string text => simp [read?, toJson, isKept, Json.document, stringText?_escaped]
  | number value =>
    rw [toJson, isKept, ← readDouble?_document]
    rcases document_double value with null | ⟨text, number, _⟩
    · rw [null]
      simp [read?, readDouble?, readNumber?]
    · rw [number]
      simp [read?, readDouble?, readNumber?]
  | boolean value => simp [read?, toJson, isKept, Json.document]
  | null => simp [read?, toJson, isKept, Json.document]

end AttributeValue

namespace Subject

/-- Whether the attributes of a subject are read back. -/
def IsKept (subject : Subject) : Prop :=
  ∀ entry ∈ subject.attributes.entries, entry.2.isKept

variable {level : Nat} {subject : Subject}

theorem read?_document (inside : level + 1 < nestingLimit) :
    read? level subject.toJson.document = some subject ↔ subject.IsKept := by
  have whole : Attributes.read? (level + 1) subject.attributes.toJson.document =
      some subject.attributes ↔ subject.IsKept :=
    (readDict?_document inside subject.attributes).trans
      (forall₂_congr fun entry _ => entry.2.read?_document)
  rw [← whole, read?, toJson, readRecord?_document (by omega) (by simp) (by simp)]
  obtain ⟨key, attributes⟩ := subject
  simp [Record.require, List.lookup_cons, Option.bind_eq_some_iff]

end Subject

/-! ### Assignments -/

theorem readBase64?_document (octets : Octets) :
    readBase64? (Json.string (Base64.encode octets)).document = some octets := by
  simp [readBase64?]

namespace PrecomputedFlag

variable {level : Nat} {flag : PrecomputedFlag}

theorem read?_document (normal : flag.value.IsNormal) (inside : level + 1 < nestingLimit) :
    read? level flag.toJson.document = some flag ↔ flag.value.isKept (level + 2) := by
  have value := Value.read?_document normal inside
  have extraLogging : (flag.extraLogging.toJson .string).document.readDict? (level + 1)
      (fun _ => readString?) = some flag.extraLogging :=
    (readDict?_document inside flag.extraLogging).mpr fun entry _ => readString?_document entry.2
  rw [← value, read?, toJson, readRecord?_document (by omega) (by simp) (by simp)]
  simp [Record.require, Record.nullable, Record.optional, List.lookup_cons, extraLogging,
    Option.bind_eq_some_iff]
  cases flag
  simp

end PrecomputedFlag

namespace Precomputed

/-- Whether each double and each document is read back, with `level` containers around all. -/
structure IsKept (level : Nat) (precomputed : Precomputed) : Prop where
  values : ∀ entry ∈ precomputed.flags.entries, entry.2.value.isKept (level + 4)
  subject : precomputed.subject.IsKept

/-- Whether the documents and the instants are ones that can be read. -/
structure IsNormal (precomputed : Precomputed) : Prop where
  values : ∀ entry ∈ precomputed.flags.entries, entry.2.value.IsNormal
  fetched : precomputed.fetchedAt.IsValid
  published : ∀ instant ∈ precomputed.publishedAt, instant.IsValid

variable {level : Nat} {precomputed : Precomputed}

/-- **Decoded assignments are read back exactly if each double and each document in them is.** -/
theorem read?_document (normal : precomputed.IsNormal) (inside : level + 3 < nestingLimit) :
    read? level precomputed.toJson.document = some precomputed ↔ precomputed.IsKept level := by
  have flags : (precomputed.flags.toJson PrecomputedFlag.toJson).document.readDict? (level + 1)
      PrecomputedFlag.read? = some precomputed.flags ↔
        ∀ entry ∈ precomputed.flags.entries, entry.2.value.isKept (level + 4) :=
    (readDict?_document (by omega) precomputed.flags).trans
      (forall₂_congr fun entry member =>
        PrecomputedFlag.read?_document (normal.values entry member) (by omega))
  have subject : Subject.read? (level + 1) precomputed.subject.toJson.document =
      some precomputed.subject ↔ precomputed.subject.IsKept := Subject.read?_document (by omega)
  have fetched := read?_instant normal.fetched
  have published : (nullOr Instant.toJson precomputed.publishedAt).document.readNullable?
      Instant.read? = some precomputed.publishedAt :=
    readNullable?_nullOr (fun item _ => ⟨item.text, rfl⟩) fun item member =>
      read?_instant (normal.published item member)
  have parts : precomputed.IsKept level ↔ _ ∧ _ :=
    ⟨fun kept => ⟨flags.mpr kept.values, subject.mpr kept.subject⟩,
      fun ⟨values, attributes⟩ => ⟨flags.mp values, subject.mp attributes⟩⟩
  rw [parts, read?, toJson, readRecord?_document (by omega) (by simp) (by simp)]
  simp [Record.require, Record.nullable, Record.optional, List.lookup_cons, fetched, published,
    readBase64?_document, Option.bind_eq_some_iff]
  cases precomputed
  simp

/-- **Decoded assignments survive on their own exactly if each double and each document does.** -/
theorem ofOctets?_toOctets (normal : precomputed.IsNormal) :
    ofOctets? precomputed.toJson.toOctets = some precomputed ↔ precomputed.IsKept 0 := by
  have inside : 0 + 3 < nestingLimit := by decide
  rw [ofOctets?, read?_toOctets]
  exact read?_document normal inside

end Precomputed

/-! ### What a response is decoded to -/

/-- The fields of a record are the parts of a value. -/
theorem WrittenPrecomputedFlag.isNormal_fieldsOf? {names : List String} {value : Json}
    {fields : List (String × Json)} (found : fieldsOf? names value = some fields)
    (normal : value.IsNormal) : ∀ field ∈ fields, field.2.IsNormal := by
  unfold fieldsOf? at found
  split at found
  · cases found
    exact Json.membersAreNormal_iff.mp normal.2
  · obtain ⟨_, same⟩ := Option.ite_none_right_eq_some.mp found
    cases same
    intro field member
    exact Json.itemsAreNormal_iff.mp normal field.2 (List.of_mem_zip member).2
  · cases found

/-- The value of a written flag is a part of the value that stands for the flag. -/
theorem WrittenPrecomputedFlag.isNormal_ofJson? {value : Json} {written : WrittenPrecomputedFlag}
    (found : ofJson? value = some written) (normal : value.IsNormal) :
    written.variationValue.IsNormal := by
  obtain ⟨fields, areFields, found⟩ := Option.bind_eq_some_iff.mp found
  obtain ⟨_, _, found⟩ := Option.bind_eq_some_iff.mp found
  obtain ⟨_, _, found⟩ := Option.bind_eq_some_iff.mp found
  obtain ⟨_, _, found⟩ := Option.bind_eq_some_iff.mp found
  obtain ⟨content, isContent, found⟩ := Option.bind_eq_some_iff.mp found
  obtain ⟨_, _, found⟩ := Option.bind_eq_some_iff.mp found
  obtain ⟨_, _, found⟩ := Option.bind_eq_some_iff.mp found
  cases found
  have isContent := (Option.filter_eq_some_iff.mp isContent).1
  obtain ⟨before, after, rfl, _⟩ := List.lookup_eq_some_iff.mp isContent
  exact isNormal_fieldsOf? areFields normal ("variationValue", content) (by simp)

/-- **A decoded value is normal**: a document is one that was read, or that a text spells. -/
theorem Codec.isNormal_decodeValue? {codec : Codec} {type : VariationType} {written : Json}
    {value : Value} (found : codec.decodeValue? type written = some value)
    (normal : written.IsNormal) : value.IsNormal := by
  unfold decodeValue? at found
  cases type with
  | json =>
    obtain ⟨document, isDocument, rfl⟩ := Option.map_eq_some_iff.mp found
    unfold readDocument? at isDocument
    split at isDocument
    · obtain ⟨_, _, isRead⟩ := Option.bind_eq_some_iff.mp isDocument
      exact Json.isNormal_of_readText? isRead
    · split at isDocument
      · cases isDocument
      · cases isDocument
        exact normal
  | string =>
    dsimp only at found
    split at found
    · obtain ⟨_, _, rfl⟩ := Option.map_eq_some_iff.mp found
      trivial
    · cases found
  | boolean | integer | numeric =>
    obtain ⟨_, _, rfl⟩ := Option.map_eq_some_iff.mp found
    trivial

namespace PrecomputedResponse

variable {octets : Octets} {response : PrecomputedResponse}

/-- The record that a response was read from. -/
theorem exists_record (isResponse : ofOctets? octets = some response) :
    ∃ record : Record,
      (record.require "flags" fun level =>
        readDict? level fun level => Document.toJson? level) = some response.flags ∧
      (record.nullable "createdAt" fun _ => Instant.read?) = some response.createdAt := by
  obtain ⟨document, _, isRead⟩ := Option.bind_eq_some_iff.mp isResponse
  obtain ⟨record, _, isRead⟩ := Option.bind_eq_some_iff.mp isRead
  obtain ⟨flags, areFlags, isRead⟩ := Option.bind_eq_some_iff.mp isRead
  obtain ⟨salt, _, isRead⟩ := Option.bind_eq_some_iff.mp isRead
  obtain ⟨format, _, isRead⟩ := Option.bind_eq_some_iff.mp isRead
  obtain ⟨obfuscated, _, isRead⟩ := Option.bind_eq_some_iff.mp isRead
  obtain ⟨createdAt, isCreated, isRead⟩ := Option.bind_eq_some_iff.mp isRead
  obtain ⟨environment, _, isRead⟩ := Option.bind_eq_some_iff.mp isRead
  cases isRead
  exact ⟨record, areFlags, isCreated⟩

theorem isNormal_flags (isResponse : ofOctets? octets = some response) :
    ∀ entry ∈ response.flags.entries, entry.2.IsNormal := by
  intro entry member
  obtain ⟨record, areFlags, _⟩ := exists_record isResponse
  obtain ⟨_, areFlags⟩ := Record.exists_of_require areFlags
  obtain ⟨_, isFlag⟩ := exists_of_readDict? areFlags member
  exact isNormal_of_toJson? isFlag

theorem isValid_createdAt (isResponse : ofOctets? octets = some response) :
    ∀ instant ∈ response.createdAt, instant.IsValid := by
  intro instant present
  obtain ⟨record, _, isCreated⟩ := exists_record isResponse
  obtain ⟨_, isInstant⟩ := Record.exists_of_nullable isCreated present
  obtain ⟨text, _, isInstant⟩ := Option.bind_eq_some_iff.mp isInstant
  exact Instant.isValid_of_ofText? isInstant

/-- **What a response is decoded to is normal.** -/
theorem isNormal_decode (isResponse : ofOctets? octets = some response) (subject : Subject)
    {fetchedAt : Instant} (valid : fetchedAt.IsValid) :
    (response.decode subject fetchedAt).IsNormal where
  values := by
    intro entry member
    obtain ⟨source, listed, found⟩ := List.mem_filterMap.mp (Dict.mem_of_mem_ofList member)
    obtain ⟨flag, isFlag, rfl⟩ := Option.map_eq_some_iff.mp found
    obtain ⟨written, isWritten, isDecoded⟩ := Option.bind_eq_some_iff.mp isFlag
    obtain ⟨value, isValue, same⟩ := Option.bind_eq_some_iff.mp isDecoded
    cases same
    exact Codec.isNormal_decodeValue? isValue (WrittenPrecomputedFlag.isNormal_ofJson? isWritten
      (isNormal_flags isResponse source listed))
  fetched := valid
  published := isValid_createdAt isResponse

end PrecomputedResponse

end FeatureFlags
