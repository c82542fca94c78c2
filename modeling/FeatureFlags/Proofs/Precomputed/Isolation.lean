import FeatureFlags.Assignment
import FeatureFlags.Proofs.Json.Places
import FeatureFlags.Proofs.Json.Strings

/-!
**A malformed flag of a response is dropped on its own, if it can be read as a value.**

The flags of a response are read as JSON values before they are decoded one by one. What is no flag
but is a JSON value is dropped on its own, alone or inside of an envelope. What the grammar of JSON
allows and no JSON value stands for, such as a number out of range or an escape for half a
character, makes the whole response unreadable.

* `Precomputed.DiffersAt`: what two decoded responses that differ at one key have in common.
* `PrecomputedResponse.exists_flag_place`: the place of a flag in a response.
* `PrecomputedEnvelope.exists_response_place`: the place of the response in an envelope.
* `PrecomputedResponse.replaced_flag_spares_others_iff`: what comes of another value for a flag.
* `PrecomputedResponse.replaced_flag_loses_others`: values that lose all flags.
-/

namespace FeatureFlags

open Document

/-! ### Responses that differ at one key -/

/-- Two decoded responses say the same about themselves, have the same at every key but one, and
find the same for every flag that does not stand under this key. -/
structure Precomputed.DiffersAt (key : String) (first second : Precomputed) : Prop where
  obfuscated : second.obfuscated = first.obfuscated
  salt : second.salt = first.salt
  format : second.format = first.format
  fetchedAt : second.fetchedAt = first.fetchedAt
  publishedAt : second.publishedAt = first.publishedAt
  environment : second.environment = first.environment
  subject : second.subject = first.subject
  flags : ∀ other, other ≠ key → second.flags.get? other = first.flags.get? other
  flag? : ∀ flagKey, (if first.obfuscated then hashKey first.salt flagKey else flagKey) ≠ key →
    second.flag? flagKey = first.flag? flagKey

namespace PrecomputedResponse

variable {response : PrecomputedResponse} {key : String}

/-- The response with another value for a flag. -/
def withFlag (response : PrecomputedResponse) (key : String) (value : Json) : PrecomputedResponse :=
  { response with flags := response.flags.insert key value }

theorem get?_decode_flags (response : PrecomputedResponse) (subject : Subject)
    (fetchedAt : Instant) (key : String) :
    (response.decode subject fetchedAt).flags.get? key =
      (response.flags.get? key).bind (PrecomputedFlag.ofJson? response.codec) := by
  rw [decode, Dict.get?_ofList_filterMap]

/-- Flags are decoded each on its own. -/
theorem differsAt_withFlag (response : PrecomputedResponse) (key : String) (value : Json)
    (subject : Subject) (fetchedAt : Instant) :
    Precomputed.DiffersAt key (response.decode subject fetchedAt)
      ((response.withFlag key value).decode subject fetchedAt) := by
  have flags : ∀ other, other ≠ key →
      ((response.withFlag key value).decode subject fetchedAt).flags.get? other =
        (response.decode subject fetchedAt).flags.get? other := fun other apart => by
    rw [get?_decode_flags, get?_decode_flags, withFlag, Dict.get?_insert, if_neg apart]
    rfl
  exact ⟨rfl, rfl, rfl, rfl, rfl, rfl, rfl, flags, fun _ apart => flags _ apart⟩

/-! ### The place of a flag -/

theorem level_of_readRecord? {names : List String} {level : Nat} {document : Document}
    {record : Record} (isRecord : document.readRecord? names level = some record) :
    record.level = level + 1 := by
  obtain ⟨_, isRecord⟩ := Option.ite_none_right_eq_some.mp isRecord
  cases document with
  | object members =>
    obtain ⟨_, _, rfl⟩ := Option.map_eq_some_iff.mp isRecord
    rfl
  | array items =>
    obtain ⟨_, same⟩ := Option.ite_none_right_eq_some.mp isRecord
    cases same
    rfl
  | null | bool | number | string => cases isRecord

/-- **A flag of a response has its place.** With another value there the response is read exactly if
this value is. -/
theorem exists_flag_place {octets : Octets} (isResponse : ofOctets? octets = some response)
    (present : key ∈ response.flags.keys) :
    ∃ before raw after, ∃ stored : Document, octets = before ++ (raw ++ after) ∧
      stored.Spells raw ∧ response.flags.get? key = stored.toJson? 2 ∧
      ∀ {value} {document : Document}, document.SpellsPadded value →
        ofOctets? (before ++ (value ++ after)) =
          (document.toJson? 2).map (response.withFlag key) := by
  obtain ⟨document, isDocument, found⟩ := Option.bind_eq_some_iff.mp isResponse
  obtain ⟨record, isRecord, found⟩ := Option.bind_eq_some_iff.mp found
  obtain ⟨flags, areFlags, found⟩ := Option.bind_eq_some_iff.mp found
  obtain ⟨salt, isSalt, found⟩ := Option.bind_eq_some_iff.mp found
  obtain ⟨format, isFormat, found⟩ := Option.bind_eq_some_iff.mp found
  obtain ⟨obfuscated, isObfuscated, found⟩ := Option.bind_eq_some_iff.mp found
  obtain ⟨createdAt, isCreatedAt, found⟩ := Option.bind_eq_some_iff.mp found
  obtain ⟨environment, isEnvironment, same⟩ := Option.bind_eq_some_iff.mp found
  cases same
  obtain ⟨fill, stored, isPart, isFlag, replaceFlag⟩ := exists_keyed_part isRecord areFlags present
  obtain ⟨before, raw, after, rfl, spelled, surrounds⟩ :=
    isPart.exists_place (read?_eq_some_iff.mp isDocument)
  rw [level_of_readRecord? isRecord] at isFlag replaceFlag
  refine ⟨before, raw, after, stored, rfl, spelled, isFlag, fun {value other} padded => ?_⟩
  obtain ⟨changed, isChanged, sameLevel, newFlags, others⟩ := replaceFlag other
  have level := sameLevel.trans (level_of_readRecord? isRecord).symm
  rw [← Record.nullable_congr level (others "salt" (by decide))] at isSalt
  rw [← Record.require_congr level (others "format" (by decide))] at isFormat
  rw [← Record.optional_congr level (others "obfuscated" (by decide))] at isObfuscated
  rw [← Record.nullable_congr level (others "createdAt" (by decide))] at isCreatedAt
  rw [← Record.nullable_congr level (others "environment" (by decide))] at isEnvironment
  rw [ofOctets?, read?_eq_some_iff.mpr (surrounds padded)]
  show ((fill other).readRecord? _ 0).bind _ = _
  rw [isChanged, Option.bind_some, newFlags]
  cases other.toJson? 2 with
  | none => rfl
  | some value =>
    simp only [Option.map_some, Option.bind_eq_bind, Option.bind_some, isSalt, isFormat,
      isObfuscated, isCreatedAt, isEnvironment, Option.pure_def]
    rfl

end PrecomputedResponse

/-! ### Envelopes -/

/-- Octets write a text in quotes. -/
def IsQuoted (text : String) (literal : Octets) : Prop :=
  ∃ content, (Document.string content).SpellsPadded literal ∧ stringText? content = some text

theorem isQuoted_of_spells {content raw : Octets} {text : String}
    (spelled : (Document.string content).Spells raw) (isText : stringText? content = some text) :
    IsQuoted text raw :=
  ⟨content, ⟨[], raw, [], areBlanks_nil, spelled, areBlanks_nil, by simp⟩, isText⟩

/-- **The response has its place in an envelope**, where another text may stand in quotes. -/
theorem PrecomputedEnvelope.exists_response_place {text : String} {envelope : PrecomputedEnvelope}
    (isEnvelope : ofText text = .ok envelope) :
    ∃ before raw after, octetsOf text = before ++ (raw ++ after) ∧
      IsQuoted envelope.response raw ∧
      ∀ {literal response}, IsQuoted response literal → IsUtf8 literal →
        ∃ replaced, octetsOf replaced = before ++ (literal ++ after) ∧
          ofText replaced = .ok { envelope with response } := by
  rw [ofText] at isEnvelope
  split at isEnvelope
  case h_2 => cases isEnvelope
  case h_1 made found =>
  cases isEnvelope
  obtain ⟨document, isDocument, found⟩ := Option.bind_eq_some_iff.mp found
  obtain ⟨record, isRecord, found⟩ := Option.bind_eq_some_iff.mp found
  obtain ⟨version, isVersion, found⟩ := Option.bind_eq_some_iff.mp found
  obtain ⟨field, isField, found⟩ := Option.bind_eq_some_iff.mp found
  obtain ⟨wire, isWire, found⟩ := Option.bind_eq_some_iff.mp found
  obtain ⟨subjectKey, isSubjectKey, found⟩ := Option.bind_eq_some_iff.mp found
  obtain ⟨attributes, areAttributes, found⟩ := Option.bind_eq_some_iff.mp found
  obtain ⟨fetchedAt, isFetchedAt, found⟩ := Option.bind_eq_some_iff.mp found
  obtain ⟨response, isResponse, same⟩ := Option.bind_eq_some_iff.mp found
  cases same
  obtain ⟨node, isNode, isText⟩ := Option.bind_eq_some_iff.mp isResponse
  obtain ⟨outer, isPart, replaceField⟩ := exists_field_part isRecord isField
  obtain ⟨inner, isInner, replaceResponse⟩ := exists_field_part isWire isNode
  obtain ⟨before, raw, after, same, spelled, surrounds⟩ :=
    (isPart.trans isInner).exists_place (read?_eq_some_iff.mp isDocument)
  cases node with
  | null | bool | number | array | object => cases isText
  | string body =>
    refine ⟨before, raw, after, same, isQuoted_of_spells spelled isText, ?_⟩
    rintro literal response ⟨content, padded, isContent⟩ utf8
    have whole : IsUtf8 (before ++ (raw ++ after)) := ⟨text, same.symm⟩
    obtain ⟨replaced, isReplaced⟩ := isUtf8_replace whole spelled utf8
    obtain ⟨changed, isChanged, level, lookups⟩ := replaceField (inner (.string content))
    obtain ⟨again, isAgain, sameLevel, others⟩ := replaceResponse (.string content)
    rw [← Record.require_congr level (lookups "version")] at isVersion
    rw [← Record.require_congr sameLevel (others "subjectKey")] at isSubjectKey
    rw [← Record.optional_congr sameLevel (others "subjectAttributes")] at areAttributes
    rw [← Record.nullable_congr sameLevel (others "fetchedAt")] at isFetchedAt
    have isField : changed.fields.lookup "precomputed" = some (inner (.string content)) := by
      rw [lookups, if_pos rfl]
    have isNew : again.fields.lookup "response" = some (.string content) := by
      rw [others, if_pos rfl]
    refine ⟨replaced, isReplaced.symm, ?_⟩
    rw [ofText, ← isReplaced, read?_eq_some_iff.mpr (surrounds padded), Option.bind_some, read?]
    simp only [Function.comp_apply, isChanged, Option.bind_eq_bind, Option.bind_some, isVersion,
      Record.require_of_lookup isField, level, isAgain, isSubjectKey, areAttributes, isFetchedAt,
      Record.require_of_lookup isNew, readString?, isContent, Option.pure_def]

/-- A text is in quotes as it is written. -/
theorem isQuoted_quote (text : String) : IsQuoted text (octetsOf (Json.quote text)) :=
  isQuoted_of_spells ⟨body_escaped text, octetsOf_quote text⟩ (stringText?_escaped text)

/-! ### Another value for a flag -/

namespace PrecomputedResponse

/-- Octets around the value of a flag in the text of a response. -/
def Around (response : PrecomputedResponse) (key text : String) (before after : Octets) : Prop :=
  ∃ raw, ∃ stored : Document, octetsOf text = before ++ (raw ++ after) ∧ stored.Spells raw ∧
    response.flags.get? key = stored.toJson? 2

/-- In the text of a response any text that spells a value may stand in the place of a flag. -/
theorem exists_around {text : String} {response : PrecomputedResponse} {key : String}
    (isResponse : ofOctets? (octetsOf text) = some response)
    (present : key ∈ response.flags.keys) :
    ∃ before after, response.Around key text before after ∧
      ∀ {value : String} {document : Document}, document.SpellsPadded (octetsOf value) →
        ∃ replaced, octetsOf replaced = before ++ (octetsOf value ++ after) ∧
          ofOctets? (octetsOf replaced) = (document.toJson? 2).map (response.withFlag key) := by
  obtain ⟨before, raw, after, stored, same, spelled, isFlag, replace⟩ :=
    exists_flag_place isResponse present
  refine ⟨before, after, ⟨raw, stored, same, spelled, isFlag⟩, fun {value document} padded => ?_⟩
  have whole : IsUtf8 (before ++ (raw ++ after)) := ⟨text, same.symm⟩
  obtain ⟨replaced, isReplaced⟩ := isUtf8_replace whole spelled ⟨value, rfl⟩
  exact ⟨replaced, isReplaced.symm, isReplaced ▸ replace padded⟩

/-- **A value that is no flag is dropped on its own if a JSON value can be read from it**, and makes
the response unreadable otherwise.

For every text of a response and every value that the grammar allows, the text with this value in
the place of a flag is read exactly if the value is: if its numbers are in range, its strings are
text, and it is not nested too deep. Then every other key decodes to the same, and so does all that
the response says about itself. The same holds for the response in an envelope, however it is
quoted. -/
theorem replaced_flag_spares_others_iff {text : String} {response : PrecomputedResponse}
    {key : String} (isResponse : ofOctets? (octetsOf text) = some response)
    (present : key ∈ response.flags.keys) :
    ∃ before after, response.Around key text before after ∧
      (∀ (value : String) (document : Document), document.SpellsPadded (octetsOf value) →
        ∃ replaced : String, octetsOf replaced = before ++ (octetsOf value ++ after) ∧
          ((ofOctets? (octetsOf replaced)).isSome ↔ (document.toJson? 2).isSome) ∧
          ∀ changed ∈ ofOctets? (octetsOf replaced),
            changed.flags.get? key = document.toJson? 2 ∧ ∀ subject fetchedAt,
              Precomputed.DiffersAt key (response.decode subject fetchedAt)
                (changed.decode subject fetchedAt)) ∧
      ∀ (whole : String) (envelope : PrecomputedEnvelope),
        PrecomputedEnvelope.ofText whole = .ok envelope → envelope.response = text →
        ∃ front back, (∃ raw, octetsOf whole = front ++ (raw ++ back) ∧ IsQuoted text raw) ∧
          ∀ (value : String) (document : Document), document.SpellsPadded (octetsOf value) →
            ∃ inner : String, octetsOf inner = before ++ (octetsOf value ++ after) ∧
              ∀ literal, IsQuoted inner literal → IsUtf8 literal →
                ∃ (replaced : String) (changed : PrecomputedEnvelope),
                  octetsOf replaced = front ++ (literal ++ back) ∧
                  PrecomputedEnvelope.ofText replaced = .ok changed ∧
                  ∀ now, ((∃ second, changed.decode now = .ok second) ↔
                      (document.toJson? 2).isSome) ∧
                    ∀ first second, envelope.decode now = .ok first →
                      changed.decode now = .ok second →
                        Precomputed.DiffersAt key first second := by
  obtain ⟨before, after, around, replace⟩ := exists_around isResponse present
  refine ⟨before, after, around, fun value document padded => ?_, ?_⟩
  · obtain ⟨replaced, same, isReplaced⟩ := replace padded
    refine ⟨replaced, same, by rw [isReplaced, Option.isSome_map], fun changed isChanged => ?_⟩
    rw [isReplaced] at isChanged
    obtain ⟨json, isJson, rfl⟩ := Option.map_eq_some_iff.mp isChanged
    refine ⟨?_, differsAt_withFlag response key json⟩
    rw [withFlag, Dict.get?_insert, if_pos rfl, isJson]
  · rintro whole envelope isEnvelope rfl
    obtain ⟨front, raw, back, isText, quoted, requote⟩ :=
      PrecomputedEnvelope.exists_response_place isEnvelope
    refine ⟨front, back, ⟨raw, isText, quoted⟩, fun value document padded => ?_⟩
    obtain ⟨inner, isInner, isReplaced⟩ := replace padded
    refine ⟨inner, isInner, fun literal isQuoted utf8 => ?_⟩
    obtain ⟨replaced, same, isChanged⟩ := requote isQuoted utf8
    refine ⟨replaced, _, same, isChanged, fun now => ?_⟩
    rw [PrecomputedEnvelope.decode, PrecomputedEnvelope.decode, PrecomputedEnvelope.open?,
      PrecomputedEnvelope.open?, isResponse, isReplaced]
    cases document.toJson? 2 with
    | none => exact ⟨by simp [Except.map], fun first second _ made => by cases made⟩
    | some json =>
      refine ⟨by simp [Except.map], fun first second isFirst isSecond => ?_⟩
      cases isFirst
      cases isSecond
      exact differsAt_withFlag response key json _ _

/-- A response with some value next to a flag. -/
def besideFlag (value : String) : String :=
  "\x7b\"flags\":\x7b\"broken\":" ++ value ++
    ",\"flag\":\x7b\"variationType\":\"STRING\",\"variationValue\":\"on\"\x7d\x7d," ++
    "\"format\":\"PRECOMPUTED\",\"obfuscated\":false\x7d"

/-- A response in an envelope. -/
def enveloped (response : String) : String :=
  "\x7b\"version\":1,\"precomputed\":\x7b\"subjectKey\":\"visitor\",\"response\":" ++
    Json.quote response ++ "\x7d\x7d"

/-- An array in the place of a number next to a flag, alone and in an envelope. -/
theorem replaced_flag_spares_others_beside :
    ∃ response, ofOctets? (octetsOf (besideFlag "0")) = some response ∧
      "broken" ∈ response.flags.keys ∧
      (∃ (replaced : String) (changed : PrecomputedResponse),
        ofOctets? (octetsOf replaced) = some changed ∧
        changed.flags.get? "broken" = some (.array []) ∧
        Precomputed.DiffersAt "broken" (response.decode ⟨"visitor", Dict.empty⟩ ⟨0, 0⟩)
          (changed.decode ⟨"visitor", Dict.empty⟩ ⟨0, 0⟩)) ∧
      ∃ (envelope : PrecomputedEnvelope) (replaced : String) (changed : PrecomputedEnvelope),
        PrecomputedEnvelope.ofText (enveloped (besideFlag "0")) = .ok envelope ∧
        PrecomputedEnvelope.ofText replaced = .ok changed ∧
        ∃ first second, envelope.decode ⟨0, 0⟩ = .ok first ∧ changed.decode ⟨0, 0⟩ = .ok second ∧
          Precomputed.DiffersAt "broken" first second := by
  obtain ⟨response, isResponse, present⟩ : ∃ response,
      ofOctets? (octetsOf (besideFlag "0")) = some response ∧ "broken" ∈ response.flags.keys := by
    decide +kernel
  obtain ⟨envelope, isRead, same⟩ : ∃ envelope,
      (Document.read? (octetsOf (enveloped (besideFlag "0")))).bind (PrecomputedEnvelope.read? 0) =
        some envelope ∧ envelope.response = besideFlag "0" := by
    decide +kernel
  have isEnvelope : PrecomputedEnvelope.ofText (enveloped (besideFlag "0")) = .ok envelope := by
    rw [PrecomputedEnvelope.ofText, isRead]
  have padded : (Document.array []).SpellsPadded (octetsOf "[]") :=
    ⟨[], _, [], areBlanks_nil, ⟨[], areBlanks_nil, rfl⟩, areBlanks_nil, rfl⟩
  have isJson : (Document.array []).toJson? 2 = some (.array []) := by decide +kernel
  obtain ⟨before, after, _, alone, inEnvelope⟩ :=
    replaced_flag_spares_others_iff isResponse present
  refine ⟨response, isResponse, present, ?_, ?_⟩
  · obtain ⟨replaced, _, readable, spares⟩ := alone "[]" (.array []) padded
    obtain ⟨changed, isChanged⟩ := Option.isSome_iff_exists.mp (readable.mpr (by rw [isJson]; rfl))
    obtain ⟨stored, differs⟩ := spares changed isChanged
    exact ⟨replaced, changed, isChanged, stored.trans isJson, differs _ _⟩
  · obtain ⟨_, _, _, replace⟩ := inEnvelope _ envelope isEnvelope same
    obtain ⟨inner, _, requote⟩ := replace "[]" (.array []) padded
    obtain ⟨replaced, changed, _, isChanged, decodes⟩ :=
      requote _ (isQuoted_quote inner) ⟨_, rfl⟩
    obtain ⟨readable, differs⟩ := decodes ⟨0, 0⟩
    obtain ⟨second, isSecond⟩ := readable.mpr (by rw [isJson]; rfl)
    have isFirst : envelope.decode ⟨0, 0⟩ =
        .ok (response.decode envelope.subject (envelope.fetchedAt.getD ⟨0, 0⟩)) := by
      rw [PrecomputedEnvelope.decode, PrecomputedEnvelope.open?, same, isResponse]
      rfl
    exact ⟨envelope, replaced, changed, isEnvelope, isChanged, _, second, isFirst, isSecond,
      differs _ second isFirst isSecond⟩

/-- Values that no JSON value stands for: a number out of range, an escape for half a character,
arrays that are nested too deep and an object with the key that is kept for texts. -/
def unreadable : List String :=
  ["1e999", "\"\\ud800\"", String.ofList (List.replicate 126 '[' ++ List.replicate 126 ']'),
    "\x7b\"$serde_json::private::RawValue\":0\x7d"]

/-- **Values that lose all flags.** The response is read with zero in the place of a flag, and its
other flag is found; with a value that cannot be read there is no response. -/
theorem replaced_flag_loses_others :
    (∃ response, ofOctets? (octetsOf (besideFlag "0")) = some response ∧
      "broken" ∈ response.flags.keys ∧
      ((response.decode ⟨"visitor", Dict.empty⟩ ⟨0, 0⟩).flag? "flag").isSome) ∧
    ∀ value ∈ unreadable, (∃ document : Document, document.SpellsPadded (octetsOf value)) ∧
      ofOctets? (octetsOf (besideFlag value)) = none := by
  constructor
  · have found : (ofOctets? (octetsOf (besideFlag "0"))).any (fun response =>
        decide ("broken" ∈ response.flags.keys) &&
          ((response.decode ⟨"visitor", Dict.empty⟩ ⟨0, 0⟩).flag? "flag").isSome) = true := by
      decide +kernel
    cases isResponse : ofOctets? (octetsOf (besideFlag "0")) with
    | none =>
      rw [isResponse] at found
      cases found
    | some response =>
      rw [isResponse, Option.any_some, Bool.and_eq_true, decide_eq_true_iff] at found
      exact ⟨response, rfl, found⟩
  · have spelled : ∀ value ∈ unreadable, (Document.read? (octetsOf value)).isSome = true := by
      decide +kernel
    have refused : ∀ value ∈ unreadable, ofOctets? (octetsOf (besideFlag value)) = none := by
      decide +kernel
    intro value listed
    obtain ⟨document, isDocument⟩ := Option.isSome_iff_exists.mp (spelled value listed)
    exact ⟨⟨document, read?_eq_some_iff.mp isDocument⟩, refused value listed⟩

end PrecomputedResponse

end FeatureFlags
