import FeatureFlags.Client
import FeatureFlags.Proofs.Json.Members

/-!
**What an envelope carries is what the server would have sent.**

An envelope carries a response as a text in quotes, together with the subject and perhaps the time
of the fetch. However the envelope is written, the text comes out as it was put in, so that it is
read exactly if it would be read as the body of a response, and gives the same configuration.

* `PrecomputedEnvelope.Fields`, `PrecomputedEnvelope.IsWritten`: the texts of an envelope.
* `PrecomputedEnvelope.written`: the plain text of an envelope.
* `PrecomputedEnvelope.ofText_of_isWritten`: every text of an envelope is read as the envelope.
* `PrecomputedEnvelope.bootstraps_what_would_be_fetched`: what comes of the response in it.
-/

namespace FeatureFlags

open Document

/-- Attributes are read alike wherever they lie, unless they lie too deep. -/
theorem Attributes.read?_eq {level : Nat} (inside : level < nestingLimit) (document : Document) :
    read? level document = read? 0 document := by
  have first : 0 < nestingLimit := by decide
  cases document with
  | object members =>
    simp only [read?, readDict?, if_pos inside, if_pos first]
  | null | bool | number | string | array => rfl

namespace PrecomputedEnvelope

/-! ### The texts of an envelope -/

/-- The members of two objects, the second of which stands under `precomputed` in the first, are the
fields of an envelope. Other members may stand anywhere. The attributes may be missing when there
are none, and so may the time, or it may be null. -/
structure Fields (envelope : PrecomputedEnvelope) (outer inner : List (Octets × Document)) :
    Prop where
  outerNamed : AreNamed outer
  innerNamed : AreNamed inner
  version : Reads outer "version" readWord? envelope.version
  precomputed : under outer "precomputed" = [.object inner]
  subjectKey : Reads inner "subjectKey" readString? envelope.subjectKey
  subjectAttributes :
    under inner "subjectAttributes" = [] ∧ envelope.subjectAttributes = Dict.empty ∨
      Reads inner "subjectAttributes" (Attributes.read? 0) envelope.subjectAttributes
  fetchedAt :
    (under inner "fetchedAt" = [] ∨ under inner "fetchedAt" = [.null]) ∧
        envelope.fetchedAt = none ∨
      ∃ instant, Reads inner "fetchedAt" Instant.read? instant ∧
        envelope.fetchedAt = some instant
  response : Reads inner "response" readString? envelope.response

/-- A text writes an envelope as an object. -/
def IsWritten (envelope : PrecomputedEnvelope) (whole : String) : Prop :=
  ∃ outer inner, (Document.object outer).SpellsPadded (octetsOf whole) ∧
    envelope.Fields outer inner

/-! ### Reading -/

namespace Fields

variable {envelope : PrecomputedEnvelope} {outer inner : List (Octets × Document)}

theorem length_outer (fields : envelope.Fields outer inner) :
    ∀ name ∈ ["version", "precomputed"], (under outer name).length ≤ 1 := by
  have version := fields.version.length_under
  have precomputed : (under outer "precomputed").length ≤ 1 := by
    rw [fields.precomputed]
    rfl
  simp [version, precomputed]

theorem length_inner (fields : envelope.Fields outer inner) :
    ∀ name ∈ ["subjectKey", "subjectAttributes", "fetchedAt", "response"],
      (under inner name).length ≤ 1 := by
  have subjectKey := fields.subjectKey.length_under
  have response := fields.response.length_under
  have subjectAttributes : (under inner "subjectAttributes").length ≤ 1 := by
    rcases fields.subjectAttributes with ⟨missing, _⟩ | reads
    · rw [missing]
      exact Nat.zero_le 1
    · exact reads.length_under
  have fetchedAt : (under inner "fetchedAt").length ≤ 1 := by
    rcases fields.fetchedAt with ⟨missing | null, _⟩ | ⟨instant, reads, _⟩
    · rw [missing]
      exact Nat.zero_le 1
    · rw [null]
      rfl
    · exact reads.length_under
  simp [subjectKey, subjectAttributes, fetchedAt, response]

variable {record : Record}

theorem optional_attributes (fields : envelope.Fields outer inner)
    (level : record.level < nestingLimit)
    (found : record.fields.lookup "subjectAttributes" = (under inner "subjectAttributes").head?) :
    record.optional "subjectAttributes" Dict.empty Attributes.read? =
      some envelope.subjectAttributes := by
  rcases fields.subjectAttributes with ⟨missing, empty⟩ | ⟨document, alone, isRead⟩
  · rw [empty]
    exact optional_of_missing found _ missing
  · have isReadHere := (Attributes.read?_eq level document).trans isRead
    exact Reads.optional found _ ⟨document, alone, isReadHere⟩

theorem nullable_fetchedAt (fields : envelope.Fields outer inner)
    (found : record.fields.lookup "fetchedAt" = (under inner "fetchedAt").head?) :
    (record.nullable "fetchedAt" fun _ => Instant.read?) = some envelope.fetchedAt := by
  rcases fields.fetchedAt with ⟨missing | null, untold⟩ | ⟨instant, ⟨document, alone, isRead⟩, told⟩
  · rw [untold]
    exact optional_of_missing found _ missing
  · rw [untold]
    exact Reads.optional found _ ⟨.null, null, rfl⟩
  · rw [told]
    refine Reads.optional found _ ⟨document, alone, ?_⟩
    cases document with
    | null => cases isRead
    | bool | number | string | array | object => simp [readNullable?, isRead]

/-- The fields of an envelope are read as the envelope. -/
theorem read?_eq (fields : envelope.Fields outer inner) :
    read? 0 (.object outer) = some envelope := by
  have inside : 0 < nestingLimit := by decide
  obtain ⟨record, isRecord, level, lookups⟩ :=
    exists_readRecord?_of_under inside fields.outerNamed fields.length_outer
  have insideToo : record.level < nestingLimit := by
    rw [level]
    decide
  obtain ⟨wire, isWire, wireLevel, wireLookups⟩ :=
    exists_readRecord?_of_under insideToo fields.innerNamed fields.length_inner
  have version : (record.require "version" fun _ => readWord?) = some envelope.version :=
    fields.version.require (lookups _ (by simp))
  have precomputed : record.fields.lookup "precomputed" = some (.object inner) := by
    rw [lookups _ (by simp), fields.precomputed]
    rfl
  have subjectKey : (wire.require "subjectKey" fun _ => readString?) = some envelope.subjectKey :=
    fields.subjectKey.require (wireLookups _ (by simp))
  have subjectAttributes :
      wire.optional "subjectAttributes" Dict.empty Attributes.read? =
        some envelope.subjectAttributes :=
    fields.optional_attributes (by rw [wireLevel, level]; decide) (wireLookups _ (by simp))
  have fetchedAt :
      (wire.nullable "fetchedAt" fun _ => Instant.read?) = some envelope.fetchedAt :=
    fields.nullable_fetchedAt (wireLookups _ (by simp))
  have response : (wire.require "response" fun _ => readString?) = some envelope.response :=
    fields.response.require (wireLookups _ (by simp))
  rw [PrecomputedEnvelope.read?]
  simp only [isRecord, Option.bind_eq_bind, Option.bind_some, version,
    Record.require_of_lookup precomputed, isWire, subjectKey, subjectAttributes, fetchedAt,
    response, Option.pure_def]

end Fields

/-- **Every text of an envelope is read as the envelope.** -/
theorem ofText_of_isWritten {envelope : PrecomputedEnvelope} {whole : String}
    (isWritten : envelope.IsWritten whole) : ofText whole = .ok envelope := by
  obtain ⟨outer, inner, padded, fields⟩ := isWritten
  rw [ofText, read?_eq_some_iff.mpr padded, Option.bind_some, fields.read?_eq]

/-! ### Writing -/

/-- The plain text of an envelope, given the text of the attributes. -/
def written (version : UInt32) (subjectKey attributes : String) (fetchedAt : Option Instant)
    (response : String) : String :=
  Json.objectText
    [("version", (Json.int version.toNat).render),
      ("precomputed", Json.objectText
        ([("subjectKey", Json.quote subjectKey), ("subjectAttributes", attributes)] ++
          (fetchedAt.map fun instant => ("fetchedAt", Json.quote instant.text)).toList ++
          [("response", Json.quote response)]))]

theorem readWord?_of_readNumber? {document : Document} {value : Int}
    (found : document.readNumber? = some (.whole value)) (least : 0 ≤ value)
    (most : value < 4294967296) : document.readWord? = some (UInt32.ofNat value.toNat) := by
  unfold readWord?
  rw [found]
  simp only [Option.bind_eq_bind, Option.bind_some]
  rw [if_pos ⟨least, most⟩]

theorem readWord?_document (word : UInt32) :
    (Json.int word.toNat).document.readWord? = some word := by
  have small := word.toNat_lt
  have found : (Json.int word.toNat).document.readNumber? = some (.whole word.toNat) :=
    readNumber?_whole (by omega) (by omega)
  rw [readWord?_of_readNumber? found (by omega) (by omega), Int.toNat_natCast, UInt32.ofNat_toNat]

/-- **The plain text of an envelope is one of its texts.** -/
theorem isWritten_written (version : UInt32) (subjectKey : String) {literal : String}
    {attributes : Attributes}
    (areAttributes : (Document.read? (octetsOf literal)).bind (Attributes.read? 0) =
      some attributes)
    {fetchedAt : Option Instant} (valid : ∀ instant ∈ fetchedAt, instant.IsValid)
    (response : String) :
    IsWritten ⟨version, subjectKey, attributes, fetchedAt, response⟩
      (written version subjectKey literal fetchedAt response) := by
  obtain ⟨document, isDocument, areRead⟩ := Option.bind_eq_some_iff.mp areAttributes
  have spelled := read?_eq_some_iff.mp isDocument
  let time : List WrittenMember :=
    (fetchedAt.map fun instant => .ofJson "fetchedAt" (.string instant.text)).toList
  let inner : List WrittenMember :=
    [.ofJson "subjectKey" (.string subjectKey),
        ⟨"subjectAttributes", literal, document, spelled⟩] ++
      time ++ [.ofJson "response" (.string response)]
  let outer : List WrittenMember :=
    [.ofJson "version" (.int version.toNat), ⟨"precomputed", _, _, spells_objectText inner⟩]
  have whole : written version subjectKey literal fetchedAt response =
      Json.objectText (outer.map WrittenMember.texts) := by
    cases fetchedAt <;> rfl
  refine ⟨outer.map WrittenMember.member, inner.map WrittenMember.member,
    whole ▸ spells_objectText outer, ?_⟩
  exact {
    outerNamed := areNamed_written outer
    innerNamed := areNamed_written inner
    version := ⟨_, by rw [under_written]; rfl, readWord?_document version⟩
    precomputed := by rw [under_written]; rfl
    subjectKey := by
      refine ⟨_, ?_, readString?_document subjectKey⟩
      rw [under_written]
      cases fetchedAt <;> rfl
    subjectAttributes := by
      refine .inr ⟨document, ?_, areRead⟩
      rw [under_written]
      cases fetchedAt <;> rfl
    fetchedAt := by
      cases fetchedAt with
      | none => exact .inl ⟨.inl (by rw [under_written]; rfl), rfl⟩
      | some instant =>
        refine .inr ⟨instant, ⟨_, ?_, read?_instant (valid instant rfl)⟩, rfl⟩
        rw [under_written]
        rfl
    response := by
      refine ⟨_, ?_, readString?_document response⟩
      rw [under_written]
      cases fetchedAt <;> rfl }

/-! ### What comes of the response -/

variable {envelope : PrecomputedEnvelope} {whole : String}

/-- A response is read from an envelope exactly if it is read on its own. -/
theorem decode_eq (envelope : PrecomputedEnvelope) (now : Instant) :
    envelope.decode now =
      match PrecomputedResponse.ofOctets? (octetsOf envelope.response) with
      | some response => .ok (response.decode envelope.subject (envelope.fetchedAt.getD now))
      | none => .error .invalidJson := by
  rw [decode, open?]
  cases PrecomputedResponse.ofOctets? (octetsOf envelope.response) <;> rfl

theorem configurationOf_of_isWritten (isWritten : envelope.IsWritten whole) (now : Instant) :
    Client.configurationOf whole now =
      match PrecomputedResponse.ofOctets? (octetsOf envelope.response) with
      | some response => .ok (Configuration.ofPrecomputed
          (response.decode envelope.subject (envelope.fetchedAt.getD now)))
      | none => .error (.decode .invalidJson) := by
  have decoded := decode_eq envelope now
  unfold Client.configurationOf
  rw [ofText_of_isWritten isWritten]
  show (match envelope.decode now with | .ok _ => _ | .error _ => _) = _
  rw [decoded]
  cases PrecomputedResponse.ofOctets? (octetsOf envelope.response) <;> rfl

/-- What a server sends is read as a response. -/
theorem receive_of_success (fetcher : Fetcher) (subject : Subject) {status : Nat} (body : Octets)
    (now : Instant) (success : 200 ≤ status ∧ status < 300) :
    (fetcher.receive (.assignments subject) ⟨status, body⟩ now).1 =
      match PrecomputedResponse.ofOctets? body with
      | some response => .ok (Configuration.ofPrecomputed (response.decode subject now))
      | none => .error .unreadableBody := by
  have admitted : status ≠ 401 := by omega
  have good : ¬(status < 200 ∨ 300 ≤ status) := by omega
  unfold Fetcher.receive Fetcher.read
  simp only [admitted, good, if_false]
  cases PrecomputedResponse.ofOctets? body <;> rfl

/-- **A client that is given an envelope serves from what it would have fetched.** Any text can be
put into an envelope for any subject and time, and however the envelope is written, it opens exactly
if the text is a response; it then gives what the text would give as the body of a response that
came at the time of the envelope, or now if it tells none. -/
theorem bootstraps_what_would_be_fetched (response : String) (subject : Subject)
    (fetchedAt : Option Instant) :
    (∀ (version : UInt32) (literal : String),
      (Document.read? (octetsOf literal)).bind (Attributes.read? 0) = some subject.attributes →
      (∀ instant ∈ fetchedAt, instant.IsValid) →
        IsWritten ⟨version, subject.key, subject.attributes, fetchedAt, response⟩
          (written version subject.key literal fetchedAt response)) ∧
    ∀ (version : UInt32) (whole : String),
      IsWritten ⟨version, subject.key, subject.attributes, fetchedAt, response⟩ whole →
      ∃ envelope, ofText whole = .ok envelope ∧ ∀ now,
        ((∃ precomputed, envelope.decode now = .ok precomputed) ↔
          (PrecomputedResponse.ofOctets? (octetsOf response)).isSome) ∧
        (∀ read ∈ PrecomputedResponse.ofOctets? (octetsOf response),
          envelope.decode now = .ok (read.decode subject (fetchedAt.getD now))) ∧
        ∀ (fetcher : Fetcher) (status : Nat), 200 ≤ status ∧ status < 300 →
          (Client.configurationOf whole now).toOption =
            (fetcher.receive (.assignments subject) ⟨status, octetsOf response⟩
              (fetchedAt.getD now)).1.toOption := by
  refine ⟨fun version literal areAttributes valid =>
    isWritten_written version subject.key areAttributes valid response,
    fun version whole isWritten => ⟨_, ofText_of_isWritten isWritten, fun now => ?_⟩⟩
  rw [decode_eq, configurationOf_of_isWritten isWritten]
  refine ⟨?_, fun read isRead => ?_, fun fetcher status success => ?_⟩
  · cases PrecomputedResponse.ofOctets? (octetsOf response) <;> simp
  · rw [Option.mem_def.mp isRead]
    rfl
  · rw [receive_of_success fetcher subject _ _ success]
    cases PrecomputedResponse.ofOctets? (octetsOf response) <;> rfl

/-- A response with a quote in the value of its flag. -/
def greetingResponse : String :=
  "\x7b\"flags\":\x7b\"greeting\":\x7b\"variationType\":\"STRING\"," ++
    "\"variationValue\":\"\\\"hello\\\"\"\x7d\x7d," ++
    "\"format\":\"PRECOMPUTED\",\"obfuscated\":false\x7d"

/-- The text of the attributes of a visitor. -/
def visitorAttributes : String := "\x7b\"plan\":\"gold\"\x7d"

/-- The response comes out of an envelope for the visitor, fetched at any time. -/
theorem bootstraps_what_would_be_fetched_visitor :
    ∃ (attributes : Attributes) (response : PrecomputedResponse) (envelope : PrecomputedEnvelope),
      (Document.read? (octetsOf visitorAttributes)).bind (Attributes.read? 0) =
        some attributes ∧
      attributes.get? "plan" = some (.string "gold") ∧
      PrecomputedResponse.ofOctets? (octetsOf greetingResponse) = some response ∧
      ofText (written 1 "visitor" visitorAttributes none greetingResponse) = .ok envelope ∧
      ∀ now, envelope.decode now = .ok (response.decode ⟨"visitor", attributes⟩ now) := by
  obtain ⟨attributes, areAttributes, plan⟩ : ∃ attributes,
      (Document.read? (octetsOf visitorAttributes)).bind (Attributes.read? 0) =
        some attributes ∧ attributes.get? "plan" = some (.string "gold") := by
    decide +kernel
  obtain ⟨response, isResponse⟩ : ∃ response,
      PrecomputedResponse.ofOctets? (octetsOf greetingResponse) = some response :=
    Option.isSome_iff_exists.mp (by decide +kernel)
  obtain ⟨writes, reads⟩ :=
    bootstraps_what_would_be_fetched greetingResponse ⟨"visitor", attributes⟩ none
  obtain ⟨envelope, isEnvelope, decodes⟩ :=
    reads 1 _ (writes 1 _ areAttributes fun _ absent => by cases absent)
  exact ⟨attributes, response, envelope, areAttributes, plan, isResponse, isEnvelope,
    fun now => (decodes now).2.1 response isResponse⟩

end PrecomputedEnvelope

end FeatureFlags
