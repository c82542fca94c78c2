import FeatureFlags.Assignment
import FeatureFlags.Proofs.Dict
import FeatureFlags.Proofs.Text.Base64

/-!
**Hidden and plain assignments are the same.**

A response hides the flags of another one if it lists them under the salted digests of their keys,
with base64 in the place of every text. Each field takes a way of its own through the codec, but all
of them lead back to the plain field, so the two responses drop the same flags and decode the others
alike, and an assignment does not tell which of the two it came from, apart from the mark in its
event.

* `WrittenPrecomputedFlag.hidden`: the hidden form of a written flag.
* `PrecomputedResponse.Hides`: a response that hides another.
* `WrittenPrecomputedFlag.decode?_hidden`: the hidden form decodes to what the plain form does.
* `PrecomputedResponse.get?_hiddenEntries`: the hidden form stands under the digest of the key.
* `hidden_and_plain_agree`: the flags and the assignments are the same.
-/

namespace FeatureFlags

/-! ### Hiding -/

/-- Both sides of an entry in base64. -/
def hidePair (entry : String × String) : String × String :=
  (Base64.encodeText entry.1, Base64.encodeText entry.2)

/-- A map with both sides of every entry in base64. -/
def hideTexts (texts : Dict String) : Dict String := Dict.ofList (texts.entries.map hidePair)

/-- A written value in hidden form: the text of a text or of a document in base64. -/
def hideValue : VariationType → Json → Json
  | .string, .string text => .string (Base64.encodeText text)
  | .json, .string text => .string (Base64.encodeText text)
  | _, written => written

/-- A written flag in hidden form. -/
def WrittenPrecomputedFlag.hidden (written : WrittenPrecomputedFlag) : WrittenPrecomputedFlag where
  allocationKey := written.allocationKey.map Base64.encodeText
  variationKey := written.variationKey.map Base64.encodeText
  variationType := written.variationType
  variationValue := hideValue written.variationType written.variationValue
  extraLogging := written.extraLogging.map hideTexts
  doLog := written.doLog

namespace PrecomputedResponse

/-- The entries of a response that are flags, as they are written. -/
def entries (response : PrecomputedResponse) : Dict WrittenPrecomputedFlag :=
  Dict.ofList (response.flags.entries.filterMap fun entry =>
    (WrittenPrecomputedFlag.ofJson? entry.2).map fun written => (entry.1, written))

/-- The hidden forms of entries, under the digests of their keys. -/
def hiddenEntries (salt : Octets) (entries : Dict WrittenPrecomputedFlag) :
    Dict WrittenPrecomputedFlag :=
  Dict.ofList (entries.entries.map fun entry => (hashKey salt entry.1, entry.2.hidden))

/-- A response hides the entries of a plain one under a salt, which it carries in base64. -/
structure Hides (plain : PrecomputedResponse) (salt : Octets) (hidden : PrecomputedResponse) :
    Prop where
  isPlain : plain.obfuscated = false
  isHidden : hidden.obfuscated = true
  carried : hidden.salt = some (Base64.encode salt)
  listed : hidden.entries = hiddenEntries salt plain.entries

/-- Every document among the values is given by its text. -/
def SpellsDocuments (response : PrecomputedResponse) : Prop :=
  ∀ key written, response.entries.get? key = some written → written.variationType = .json →
    ∃ text, written.variationValue = .string text

/-- Whether a value is a text is found by a look at it. -/
instance (written : Json) : Decidable (∃ text, written = .string text) :=
  match written with
  | .string text => isTrue ⟨text, rfl⟩
  | .null | .bool _ | .number _ | .array _ | .object _ =>
    isFalse fun ⟨_, impossible⟩ => by cases impossible

instance (response : PrecomputedResponse) : Decidable response.SpellsDocuments :=
  inferInstanceAs (Decidable (∀ key written, response.entries.get? key = some written →
    written.variationType = .json → ∃ text, written.variationValue = .string text))

end PrecomputedResponse

/-! ### What the codec makes of hidden texts -/

namespace Codec

variable {salt : Octets}

/-- A text in base64 decodes to itself. -/
theorem decodeText?_encodeText (salt : Octets) (text : String) :
    (obfuscated salt).decodeText? (Base64.encodeText text) = plain.decodeText? text := by
  simp [decodeText?]

theorem decodePair?_hidePair (entry : String × String) :
    (obfuscated salt).decodePair? (hidePair entry) = some entry := by
  simp [decodePair?, hidePair, decodeText?]

/-- Without hiding a map of texts stays as it is. -/
theorem decodeExtraLogging_plain (texts : Dict String) :
    plain.decodeExtraLogging texts = texts := by
  have each : texts.entries.filterMap plain.decodePair? = texts.entries := by
    have same : plain.decodePair? = some := by
      funext entry
      simp [decodePair?, decodeText?]
    rw [same, List.filterMap_some]
  rw [decodeExtraLogging, each, Dict.ofList_entries]

/-- **A hidden map of texts decodes to the map**, though it lists the entries in another order. -/
theorem decodeExtraLogging_hideTexts (texts : Dict String) :
    (obfuscated salt).decodeExtraLogging (hideTexts texts) = texts := by
  have distinct : ((texts.entries.map hidePair).map Prod.fst).Nodup := by
    rw [List.map_map]
    have names : (texts.entries.map (Prod.fst ∘ hidePair)) =
        texts.keys.map Base64.encodeText := by
      rw [Dict.keys, List.map_map]
      rfl
    rw [names]
    exact texts.keys_nodup.map fun _ _ same => Base64.encodeText_injective same
  have listed : ((hideTexts texts).entries.filterMap (obfuscated salt).decodePair?).Perm
      texts.entries := by
    have shuffled := (Dict.entries_ofList_perm distinct).filterMap (obfuscated salt).decodePair?
    have back : (texts.entries.map hidePair).filterMap (obfuscated salt).decodePair? =
        texts.entries := by
      rw [List.filterMap_map]
      have same : (obfuscated salt).decodePair? ∘ hidePair = some := by
        funext entry
        exact decodePair?_hidePair entry
      rw [same, List.filterMap_some]
    rwa [back] at shuffled
  exact Dict.ofList_eq_of_perm listed

/-- **A hidden value decodes to what the plain value decodes to**, if documents are given by their
texts. -/
theorem decodeValue?_hideValue (type : VariationType) (written : Json)
    (spelled : type = .json → ∃ text, written = .string text) :
    (obfuscated salt).decodeValue? type (hideValue type written) =
      plain.decodeValue? type written := by
  cases type with
  | string =>
    cases written with
    | string text =>
      show ((obfuscated salt).decodeText? (Base64.encodeText text)).map Value.string = _
      rw [decodeText?_encodeText]
      rfl
    | _ => rfl
  | json =>
    obtain ⟨text, rfl⟩ := spelled rfl
    show (((obfuscated salt).decodeText? (Base64.encodeText text)).bind Json.readText?).map
      Value.json = _
    rw [decodeText?_encodeText]
    rfl
  | boolean => rfl
  | integer => rfl
  | numeric => rfl

end Codec

/-- **The hidden form of a flag decodes to what the plain form does.** -/
theorem WrittenPrecomputedFlag.decode?_hidden (salt : Octets) (written : WrittenPrecomputedFlag)
    (spelled : written.variationType = .json → ∃ text, written.variationValue = .string text) :
    written.hidden.decode? (.obfuscated salt) = written.decode? .plain := by
  have key : ∀ text : Option String,
      (text.map Base64.encodeText).bind (Codec.obfuscated salt).decodeText? =
        text.bind Codec.plain.decodeText? := by
    intro text
    cases text with
    | none => rfl
    | some text => exact Codec.decodeText?_encodeText salt text
  have logging : ∀ texts : Option (Dict String),
      (texts.map hideTexts).map (Codec.obfuscated salt).decodeExtraLogging =
        texts.map Codec.plain.decodeExtraLogging := by
    intro texts
    cases texts with
    | none => rfl
    | some texts =>
      simp [Codec.decodeExtraLogging_hideTexts, Codec.decodeExtraLogging_plain]
  unfold decode? hidden
  simp only [Codec.decodeValue?_hideValue _ _ spelled, key, logging]

/-! ### What the responses decode to -/

namespace PrecomputedResponse

variable {salt : Octets} {plain hidden : PrecomputedResponse}

theorem Hides.codec (hides : plain.Hides salt hidden) :
    plain.codec = .plain ∧ hidden.codec = .obfuscated salt := by
  unfold PrecomputedResponse.codec Codec.ofSalt
  simp [hides.isPlain, hides.isHidden, hides.carried]

/-- **A decoded response has at each key what its entry there decodes to.** -/
theorem get?_decode (response : PrecomputedResponse) (subject : Subject) (fetchedAt : Instant)
    (key : String) :
    (response.decode subject fetchedAt).flags.get? key =
      (response.entries.get? key).bind (·.decode? response.codec) := by
  rw [entries, Dict.get?_ofList_filterMap]
  show (Dict.ofList _).get? key = _
  rw [Dict.get?_ofList_filterMap, Option.bind_assoc]
  rfl

/-- **The hidden form of an entry stands under the digest of its key**, and nothing stands under the
digest of a key without an entry. -/
theorem get?_hiddenEntries {entries : Dict WrittenPrecomputedFlag}
    (distinct : ∀ first ∈ entries.keys, ∀ second ∈ entries.keys,
      hashKey salt first = hashKey salt second → first = second) {key : String}
    (apart : ∀ other ∈ entries.keys, hashKey salt other = hashKey salt key → other = key) :
    (hiddenEntries salt entries).get? (hashKey salt key) =
      (entries.get? key).map WrittenPrecomputedFlag.hidden := by
  have names : ((entries.entries.map fun entry => (hashKey salt entry.1, entry.2.hidden)).map
      Prod.fst).Nodup := by
    have listed : (entries.entries.map fun entry => (hashKey salt entry.1, entry.2.hidden)).map
        Prod.fst = entries.keys.map (hashKey salt) := by
      rw [Dict.keys, List.map_map, List.map_map]
      rfl
    rw [listed]
    exact List.Nodup.map_on (fun first isFirst second isSecond same =>
      distinct first isFirst second isSecond same) entries.keys_nodup
  refine Option.ext fun found => ?_
  rw [hiddenEntries, Dict.get?_ofList_eq_some_iff names, List.mem_map, Option.map_eq_some_iff]
  constructor
  · rintro ⟨entry, inside, same⟩
    obtain ⟨sameDigest, rfl⟩ := Prod.mk.inj same
    have isKey := apart entry.1 (List.mem_map.2 ⟨entry, inside, rfl⟩) sameDigest
    exact ⟨entry.2, Dict.get?_eq_some_iff.2 (isKey ▸ inside), rfl⟩
  · rintro ⟨written, found, rfl⟩
    exact ⟨(key, written), Dict.get?_eq_some_iff.1 found, rfl⟩

/-- **The decoded responses have the same flag at a key.** -/
theorem Hides.flag?_eq (hides : plain.Hides salt hidden)
    (distinct : ∀ first ∈ plain.entries.keys, ∀ second ∈ plain.entries.keys,
      hashKey salt first = hashKey salt second → first = second)
    (spelled : plain.SpellsDocuments) {key : String}
    (apart : ∀ other ∈ plain.entries.keys, hashKey salt other = hashKey salt key → other = key)
    (subject : Subject) (fetchedAt : Instant) :
    (hidden.decode subject fetchedAt).flag? key = (plain.decode subject fetchedAt).flag? key := by
  obtain ⟨isPlain, isHidden⟩ := hides.codec
  have plainFlag : (plain.decode subject fetchedAt).flag? key =
      (plain.entries.get? key).bind (·.decode? .plain) := by
    unfold Precomputed.flag?
    rw [show (plain.decode subject fetchedAt).obfuscated = false from hides.isPlain,
      if_neg Bool.false_ne_true, get?_decode, isPlain]
  have hiddenFlag : (hidden.decode subject fetchedAt).flag? key =
      (hidden.entries.get? (hashKey salt key)).bind (·.decode? (.obfuscated salt)) := by
    have sameSalt : (hidden.decode subject fetchedAt).salt = salt := by
      show hidden.codec.salt?.getD [] = salt
      rw [isHidden]
      rfl
    unfold Precomputed.flag?
    rw [show (hidden.decode subject fetchedAt).obfuscated = true from hides.isHidden, if_pos rfl,
      sameSalt, get?_decode, isHidden]
  rw [plainFlag, hiddenFlag, hides.listed, get?_hiddenEntries distinct apart]
  cases found : plain.entries.get? key with
  | none => rfl
  | some written => exact written.decode?_hidden salt (spelled key written found)

end PrecomputedResponse

/-- An assignment whose event says that it came from a hidden response. -/
def Assignment.fromHidden (assignment : Assignment) : Assignment :=
  { assignment with event := assignment.event.map fun event => { event with obfuscated := true } }

/-- **Hidden and plain responses make the same assignments.** If the digests of the keys of the
entries differ from each other and from that of the key that is asked for, both responses have the
same flag there, and give the same value, event or error; only the mark in the event differs. -/
theorem hidden_and_plain_agree {salt : Octets} {plain hidden : PrecomputedResponse}
    (hides : plain.Hides salt hidden)
    (distinct : ∀ first ∈ plain.entries.keys, ∀ second ∈ plain.entries.keys,
      hashKey salt first = hashKey salt second → first = second)
    (spelled : plain.SpellsDocuments) (query : Query)
    (apart : ∀ other ∈ plain.entries.keys,
      hashKey salt other = hashKey salt query.flagKey → other = query.flagKey)
    (subject : Subject) (fetchedAt : Instant) (configuration : Configuration) :
    (hidden.decode subject fetchedAt).flag? query.flagKey =
        (plain.decode subject fetchedAt).flag? query.flagKey ∧
      Configuration.assignPrecomputed (some { configuration with
          precomputed := some (hidden.decode subject fetchedAt) }) query =
        (Configuration.assignPrecomputed (some { configuration with
          precomputed := some (plain.decode subject fetchedAt) }) query).map
            (Option.map Assignment.fromHidden) := by
  have sameFlag := hides.flag?_eq distinct spelled apart subject fetchedAt
  refine ⟨sameFlag, ?_⟩
  unfold Configuration.assignPrecomputed Configuration.evaluatePrecomputed
  simp only [Option.bind_some, sameFlag]
  cases (plain.decode subject fetchedAt).flag? query.flagKey with
  | none => rfl
  | some flag =>
    have event : Configuration.precomputedEventOf query (hidden.decode subject fetchedAt) flag =
        { Configuration.precomputedEventOf query (plain.decode subject fetchedAt) flag with
          obfuscated := true } := by
      unfold Configuration.precomputedEventOf
      rw [show (hidden.decode subject fetchedAt).obfuscated = true from hides.isHidden]
      rfl
    simp only [event]
    split
    · rfl
    · cases flag.doLog <;> rfl

/-- A response with a text and a document, each assigned with extra logging. -/
def PrecomputedResponse.sample : PrecomputedResponse where
  flags := Dict.ofList [
    ("greeting", .object [("allocationKey", .string "everyone"), ("variationKey", .string "warm"),
      ("variationType", .string "STRING"), ("variationValue", .string "hello"),
      ("extraLogging", .object [("a", .string "1"), ("b", .string "2")])]),
    ("limits", .object [("variationType", .string "JSON"), ("variationValue", .string "[1]")])]
  salt := none
  format := "PRECOMPUTED"
  obfuscated := false
  createdAt := none
  environment := none

/-- The same flags under the salt `salt`. -/
def PrecomputedResponse.hiddenSample : PrecomputedResponse where
  flags := Dict.ofList [
    (hashKey (octetsOf "salt") "greeting", .object [("allocationKey", .string "ZXZlcnlvbmU="),
      ("variationKey", .string "d2FybQ=="), ("variationType", .string "STRING"),
      ("variationValue", .string "aGVsbG8="),
      ("extraLogging", .object [("YQ==", .string "MQ=="), ("Yg==", .string "Mg==")])]),
    (hashKey (octetsOf "salt") "limits",
      .object [("variationType", .string "JSON"), ("variationValue", .string "WzFd")])]
  salt := some "c2FsdA=="
  format := "PRECOMPUTED"
  obfuscated := true
  createdAt := none
  environment := none

open PrecomputedResponse in
theorem hidden_and_plain_agree_sample :
    sample.Hides (octetsOf "salt") hiddenSample ∧ sample.SpellsDocuments ∧
      ∃ flag, (sample.decode ⟨"visitor", Dict.empty⟩ ⟨0, 0⟩).flag? "greeting" = some flag ∧
        flag.value = .string "hello" ∧
        (hiddenSample.decode ⟨"visitor", Dict.empty⟩ ⟨0, 0⟩).flag? "greeting" = some flag ∧
        Configuration.assignPrecomputed (some ⟨⟨0, 0⟩, none,
            some (hiddenSample.decode ⟨"visitor", Dict.empty⟩ ⟨0, 0⟩)⟩)
            ⟨"greeting", some .string, ⟨1700000000, 0⟩, .own⟩ =
          (Configuration.assignPrecomputed (some ⟨⟨0, 0⟩, none,
            some (sample.decode ⟨"visitor", Dict.empty⟩ ⟨0, 0⟩)⟩)
            ⟨"greeting", some .string, ⟨1700000000, 0⟩, .own⟩).map
              (Option.map Assignment.fromHidden) := by
  have hides : sample.Hides (octetsOf "salt") hiddenSample :=
    ⟨rfl, rfl, by decide +kernel, by decide +kernel⟩
  have spelled : sample.SpellsDocuments := by decide +kernel
  have agree := hidden_and_plain_agree hides (by decide +kernel) spelled
    ⟨"greeting", some .string, ⟨1700000000, 0⟩, .own⟩ (by decide +kernel)
    ⟨"visitor", Dict.empty⟩ ⟨0, 0⟩ ⟨⟨0, 0⟩, none, none⟩
  have found : (sample.decode ⟨"visitor", Dict.empty⟩ ⟨0, 0⟩).flag? "greeting" =
      some ⟨some "everyone", some "warm", .string, .string "hello",
        Dict.ofList [("a", "1"), ("b", "2")], true⟩ := by decide +kernel
  exact ⟨hides, spelled, _, found, rfl, agree.1.trans found, agree.2⟩

end FeatureFlags
