import FeatureFlags.Attributes
import FeatureFlags.DecodeError
import FeatureFlags.Precomputed.Codec

/-!
**Assignments that were made elsewhere for one subject.**

A response lists flags, each with the value that the subject is served. Its texts may be hidden by a
codec. A flag that has the wrong shape, or whose value cannot be decoded, is dropped on its own; a
key or an entry of extra logging that cannot be decoded is left out.

* `PrecomputedResponse.decode`: the decoded configuration for a subject.
* `Precomputed.flag?`: the flag at a key.
* `PrecomputedEnvelope`: a response together with its subject.
-/

namespace FeatureFlags

/-! ### What is written -/

/-- A response before its flags are decoded. -/
structure PrecomputedResponse where
  flags : Dict Json
  salt : Option String
  format : String
  obfuscated : Bool
  createdAt : Option Instant
  environment : Option Environment
deriving DecidableEq, Repr

/-- A flag of a response, as it is written. -/
structure WrittenPrecomputedFlag where
  allocationKey : Option String
  variationKey : Option String
  variationType : VariationType
  variationValue : Json
  extraLogging : Option (Dict String)
  doLog : Bool
deriving DecidableEq, Repr

/-- A response with the subject that it was made for. -/
structure PrecomputedEnvelope where
  version : UInt32
  subjectKey : String
  subjectAttributes : Attributes
  fetchedAt : Option Instant
  response : String
deriving DecidableEq, Repr

/-! ### What is decoded -/

/-- The subject that assignments were made for. -/
structure Subject where
  key : String
  attributes : Attributes
deriving DecidableEq, Repr

/-- A decoded flag. -/
structure PrecomputedFlag where
  allocationKey : Option String
  variationKey : Option String
  variationType : VariationType
  value : Value
  extraLogging : Dict String
  doLog : Bool
deriving DecidableEq, Repr

/-- The decoded flags for a subject, by the keys that the response gave them. -/
structure Precomputed where
  flags : Dict PrecomputedFlag
  obfuscated : Bool
  salt : Octets
  format : String
  fetchedAt : Instant
  publishedAt : Option Instant
  environment : Option String
  subject : Subject
deriving DecidableEq, Repr

/-! ### Reading what is written -/

namespace PrecomputedResponse

/-- A response by its JSON form. -/
def read? (level : Nat) (document : Document) : Option PrecomputedResponse := do
  let record ←
    document.readRecord? ["flags", "salt", "format", "obfuscated", "createdAt", "environment"] level
  let flags ← record.require "flags" fun level =>
    Document.readDict? level fun level => Document.toJson? level
  let salt ← record.nullable "salt" fun _ => Document.readString?
  let format ← record.require "format" fun _ => Document.readString?
  let obfuscated ← record.optional "obfuscated" true fun _ => Document.readBool?
  let createdAt ← record.nullable "createdAt" fun _ => Instant.read?
  let environment ← record.nullable "environment" Environment.read?
  return ⟨flags, salt, format, obfuscated, createdAt, environment⟩

/-- The response that octets spell. -/
def ofOctets? (octets : Octets) : Option PrecomputedResponse := do
  let document ← Document.read? octets
  read? 0 document

end PrecomputedResponse

namespace PrecomputedEnvelope

/-- An envelope by its JSON form. -/
def read? (level : Nat) (document : Document) : Option PrecomputedEnvelope := do
  let record ← document.readRecord? ["version", "precomputed"] level
  let version ← record.require "version" fun _ => Document.readWord?
  record.require "precomputed" fun level document => do
    let record ←
      document.readRecord? ["subjectKey", "subjectAttributes", "fetchedAt", "response"] level
    let subjectKey ← record.require "subjectKey" fun _ => Document.readString?
    let subjectAttributes ← record.optional "subjectAttributes" Dict.empty Attributes.read?
    let fetchedAt ← record.nullable "fetchedAt" fun _ => Instant.read?
    let response ← record.require "response" fun _ => Document.readString?
    return ⟨version, subjectKey, subjectAttributes, fetchedAt, response⟩

/-- The envelope that a text spells, or why it spells none. -/
def ofText (text : String) : Decoded PrecomputedEnvelope :=
  match (Document.read? (octetsOf text)).bind (read? 0) with
  | some envelope => .ok envelope
  | none => .error .invalidJson

end PrecomputedEnvelope

namespace WrittenPrecomputedFlag

/-- The fields of a record that is a value: the members of an object, or the items of an array under
the names of the fields, which may not be more than the names. -/
def fieldsOf? (names : List String) : Json → Option (List (String × Json))
  | .object members => some members
  | .array items => if items.length ≤ names.length then some (names.zip items) else none
  | _ => none

/-- A text that may be missing or null. -/
def optionalText? : Option Json → Option (Option String)
  | none | some .null => some none
  | some (.string text) => some (some text)
  | _ => none

/-- The type that a name stands for, plain or as the only key of an object that maps it to null. -/
def type? : Option Json → Option VariationType
  | some (.string name) | some (.object [(name, .null)]) => VariationType.ofName? name
  | _ => none

/-- A map of texts that may be missing or null. -/
def optionalTexts? : Option Json → Option (Option (Dict String))
  | none | some .null => some none
  | some (.object members) => do
    let entries ← members.mapM fun member =>
      match member.2 with
      | .string text => some (member.1, text)
      | _ => none
    return some (Dict.ofList entries)
  | _ => none

/-- A truth value that may be missing, and is true then. -/
def boolOrTrue? : Option Json → Option Bool
  | none => some true
  | some (.bool value) => some value
  | _ => none

/-- A written flag by its JSON form. Its value has no object that begins with the key that is kept
for texts. -/
def ofJson? (value : Json) : Option WrittenPrecomputedFlag := do
  let fields ← fieldsOf?
    ["allocationKey", "variationKey", "variationType", "variationValue", "extraLogging", "doLog"]
    value
  let allocationKey ← optionalText? (fields.lookup "allocationKey")
  let variationKey ← optionalText? (fields.lookup "variationKey")
  let variationType ← type? (fields.lookup "variationType")
  let variationValue ← (fields.lookup "variationValue").filter Json.isLiteral
  let extraLogging ← optionalTexts? (fields.lookup "extraLogging")
  let doLog ← boolOrTrue? (fields.lookup "doLog")
  return ⟨allocationKey, variationKey, variationType, variationValue, extraLogging, doLog⟩

end WrittenPrecomputedFlag

/-! ### Decoding -/

namespace WrittenPrecomputedFlag

/-- The flag that a written flag stands for; none if its value cannot be decoded. -/
def decode? (codec : Codec) (written : WrittenPrecomputedFlag) : Option PrecomputedFlag := do
  let value ← codec.decodeValue? written.variationType written.variationValue
  return {
    allocationKey := written.allocationKey.bind codec.decodeText?
    variationKey := written.variationKey.bind codec.decodeText?
    variationType := written.variationType
    value
    extraLogging := (written.extraLogging.map codec.decodeExtraLogging).getD Dict.empty
    doLog := written.doLog }

/-- What is noted about a key that cannot be decoded. -/
def keyNotices (codec : Codec) (flagKey field : String) (key : Option String) : List Notice :=
  match key with
  | none => []
  | some key =>
    if (codec.decodeText? key).isNone then [.precomputedFieldDropped flagKey field] else []

/-- What is noted while a written flag is decoded. -/
def notices (codec : Codec) (flagKey : String) (written : WrittenPrecomputedFlag) : List Notice :=
  if (codec.decodeValue? written.variationType written.variationValue).isNone then
    [.precomputedValueDropped flagKey]
  else
    keyNotices codec flagKey "allocationKey" written.allocationKey ++
      keyNotices codec flagKey "variationKey" written.variationKey ++
      (written.extraLogging.map codec.extraLoggingNotices).getD []

end WrittenPrecomputedFlag

namespace PrecomputedFlag

/-- The flag that a value of a response stands for. -/
def ofJson? (codec : Codec) (value : Json) : Option PrecomputedFlag :=
  (WrittenPrecomputedFlag.ofJson? value).bind (·.decode? codec)

/-- What is noted while a value of a response is decoded. -/
def noticesOf (codec : Codec) (flagKey : String) (value : Json) : List Notice :=
  match WrittenPrecomputedFlag.ofJson? value with
  | none => [.precomputedFlagMalformed flagKey]
  | some written => written.notices codec flagKey

end PrecomputedFlag

namespace PrecomputedResponse

/-- How the texts of a response are written; without a salt it is empty. -/
def codec (response : PrecomputedResponse) : Codec :=
  if response.obfuscated then .ofSalt (response.salt.getD "") else .plain

/-- The decoded configuration for a subject. -/
def decode (response : PrecomputedResponse) (subject : Subject) (fetchedAt : Instant) :
    Precomputed where
  flags := Dict.ofList (response.flags.entries.filterMap fun entry =>
    (PrecomputedFlag.ofJson? response.codec entry.2).map fun flag => (entry.1, flag))
  obfuscated := response.obfuscated
  salt := response.codec.salt?.getD []
  format := response.format
  fetchedAt
  publishedAt := response.createdAt
  environment := response.environment.map Environment.name
  subject

/-- What is noted while a response is decoded. -/
def notices (response : PrecomputedResponse) : List Notice :=
  (if response.obfuscated then
    (if response.salt.isNone then [.saltMissing] else []) ++
      Codec.saltNotices (response.salt.getD "")
  else []) ++
    response.flags.entries.flatMap fun entry =>
      PrecomputedFlag.noticesOf response.codec entry.1 entry.2

end PrecomputedResponse

namespace PrecomputedEnvelope

/-- The subject of an envelope. -/
def subject (envelope : PrecomputedEnvelope) : Subject :=
  ⟨envelope.subjectKey, envelope.subjectAttributes⟩

/-- The response in an envelope, or why there is none. -/
def open? (envelope : PrecomputedEnvelope) : Decoded PrecomputedResponse :=
  match PrecomputedResponse.ofOctets? (octetsOf envelope.response) with
  | some response => .ok response
  | none => .error .invalidJson

/-- The decoded configuration of an envelope, fetched at a given time unless it tells another. -/
def decode (envelope : PrecomputedEnvelope) (now : Instant) : Decoded Precomputed :=
  envelope.open?.map fun response =>
    response.decode envelope.subject (envelope.fetchedAt.getD now)

end PrecomputedEnvelope

/-! ### Looking up -/

/-- The flag at a key. -/
def Precomputed.flag? (precomputed : Precomputed) (key : String) : Option PrecomputedFlag :=
  precomputed.flags.get?
    (if precomputed.obfuscated then hashKey precomputed.salt key else key)

end FeatureFlags
