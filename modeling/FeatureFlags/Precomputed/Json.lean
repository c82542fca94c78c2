import FeatureFlags.Precomputed.Basic

/-!
**The JSON form of decoded assignments.**

Values carry their types here, and the salt is base64.

* `Precomputed.toJson`, `Precomputed.read?`: writing and reading.
-/

namespace FeatureFlags

namespace Subject

/-- A subject by its JSON form. -/
def read? (level : Nat) (document : Document) : Option Subject := do
  let record ← document.readRecord? ["subjectKey", "subjectAttributes"] level
  let key ← record.require "subjectKey" fun _ => Document.readString?
  let attributes ← record.require "subjectAttributes" Attributes.read?
  return ⟨key, attributes⟩

/-- The JSON form of a subject. -/
def toJson (subject : Subject) : Json :=
  .object
    [("subjectKey", .string subject.key), ("subjectAttributes", subject.attributes.toJson)]

end Subject

namespace PrecomputedFlag

/-- A decoded flag by its JSON form. -/
def read? (level : Nat) (document : Document) : Option PrecomputedFlag := do
  let record ← document.readRecord?
    ["allocationKey", "variationKey", "variationType", "variationValue", "extraLogging", "doLog"]
    level
  let allocationKey ← record.nullable "allocationKey" fun _ => Document.readString?
  let variationKey ← record.nullable "variationKey" fun _ => Document.readString?
  let variationType ← record.require "variationType" VariationType.read?
  let value ← record.require "variationValue" Value.read?
  let extraLogging ← record.require "extraLogging" fun level =>
    Document.readDict? level fun _ => Document.readString?
  let doLog ← record.require "doLog" fun _ => Document.readBool?
  return ⟨allocationKey, variationKey, variationType, value, extraLogging, doLog⟩

/-- The JSON form of a decoded flag. -/
def toJson (flag : PrecomputedFlag) : Json :=
  .object
    [("allocationKey", Json.text? flag.allocationKey),
      ("variationKey", Json.text? flag.variationKey),
      ("variationType", .string flag.variationType.name), ("variationValue", flag.value.toJson),
      ("extraLogging", flag.extraLogging.toJson .string), ("doLog", .bool flag.doLog)]

end PrecomputedFlag

/-- Octets by their base64 form. -/
def readBase64? (document : Document) : Option Octets := do
  let text ← document.readString?
  Base64.decode? text

namespace Precomputed

/-- Decoded assignments by their JSON form. -/
def read? (level : Nat) (document : Document) : Option Precomputed := do
  let record ← document.readRecord?
    ["flags", "obfuscated", "salt", "format", "configFetchedAt", "configPublishedAt",
      "environment", "subject"]
    level
  let flags ← record.require "flags" fun level => Document.readDict? level PrecomputedFlag.read?
  let obfuscated ← record.require "obfuscated" fun _ => Document.readBool?
  let salt ← record.require "salt" fun _ => readBase64?
  let format ← record.require "format" fun _ => Document.readString?
  let fetchedAt ← record.require "configFetchedAt" fun _ => Instant.read?
  let publishedAt ← record.nullable "configPublishedAt" fun _ => Instant.read?
  let environment ← record.nullable "environment" fun _ => Document.readString?
  let subject ← record.require "subject" Subject.read?
  return ⟨flags, obfuscated, salt, format, fetchedAt, publishedAt, environment, subject⟩

/-- The JSON form of decoded assignments. -/
def toJson (precomputed : Precomputed) : Json :=
  .object
    [("flags", precomputed.flags.toJson PrecomputedFlag.toJson),
      ("obfuscated", .bool precomputed.obfuscated),
      ("salt", .string (Base64.encode precomputed.salt)), ("format", .string precomputed.format),
      ("configFetchedAt", precomputed.fetchedAt.toJson),
      ("configPublishedAt", nullOr Instant.toJson precomputed.publishedAt),
      ("environment", Json.text? precomputed.environment),
      ("subject", precomputed.subject.toJson)]

/-- The decoded assignments that octets spell. -/
def ofOctets? (octets : Octets) : Option Precomputed := do
  let document ← Document.read? octets
  read? 0 document

end Precomputed

end FeatureFlags
