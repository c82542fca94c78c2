import FeatureFlags.Catalog.Decoder
import FeatureFlags.Precomputed.Json

/-!
**What is served from, at one time, and its form on disk.**

A configuration holds a catalog of flags, assignments for one subject, or both, and when they were
fetched. Its form on disk keeps the octets of the catalog as they came, so that what is restored
decodes the same, and the assignments in decoded form.

* `Configuration.toOctets`: the form on disk.
* `Configuration.ofOctets`: the configuration that a form on disk restores, or why it restores none.
-/

namespace FeatureFlags

/-- What is served from. -/
structure Configuration where
  fetchedAt : Instant
  flags : Option Decoder
  precomputed : Option Precomputed

namespace Configuration

/-- The configuration of a catalog that was fetched at a time. -/
def ofFlags (flags : Decoder) (now : Instant) : Configuration := ⟨now, some flags, none⟩

/-- The configuration of assignments, fetched when they were. -/
def ofPrecomputed (precomputed : Precomputed) : Configuration :=
  ⟨precomputed.fetchedAt, none, some precomputed⟩

/-- The keys of the flags in the catalog. -/
def flagKeys (configuration : Configuration) : List String :=
  (configuration.flags.map fun decoder => decoder.catalog.keys).getD []

/-! ### The form on disk -/

/-- The JSON form of a catalog. -/
def flagsJson (decoder : Decoder) : Json :=
  .object
    [("format", .string decoder.catalog.format.name),
      ("data", .string (Base64.encode decoder.catalog.octets))]

/-- The JSON form of a configuration; what it does not have is left out. -/
def toJson (configuration : Configuration) : Json :=
  .object
    ([("fetchedAt", configuration.fetchedAt.toJson)] ++
      (configuration.flags.map fun decoder => ("flags", flagsJson decoder)).toList ++
      (configuration.precomputed.map fun precomputed =>
        ("precomputed", precomputed.toJson)).toList)

/-- The form on disk. -/
def toOctets (configuration : Configuration) : Octets := configuration.toJson.toOctets

/-- The format and the octets of a catalog. -/
def readFlags? (level : Nat) (document : Document) : Option (WireFormat × Octets) := do
  let record ← document.readRecord? ["format", "data"] level
  let format ← record.require "format" fun level document => do
    let name ← document.readName? level
    WireFormat.ofName? name
  let data ← record.require "data" fun _ => readBase64?
  return (format, data)

/-- What a form on disk says, before the catalog is taken apart. -/
def readParts? (document : Document) :
    Option (Instant × Option (WireFormat × Octets) × Option Precomputed) := do
  let record ← document.readRecord? ["fetchedAt", "flags", "precomputed"] 0
  let fetchedAt ← record.require "fetchedAt" fun _ => Instant.read?
  let flags ← record.nullable "flags" readFlags?
  let precomputed ← record.nullable "precomputed" Precomputed.read?
  return (fetchedAt, flags, precomputed)

/-- The configuration that a form on disk restores, with what is noted, or why it restores none. -/
def ofOctets (octets : Octets) (materialization : Materialization) :
    Decoded (Configuration × List Notice) := do
  match (Document.read? octets).bind readParts? with
  | none => .error .invalidJson
  | some (fetchedAt, flags, precomputed) =>
    match flags with
    | none => return (⟨fetchedAt, none, precomputed⟩, [])
    | some (format, data) =>
      let (decoder, notices) ← Decoder.ofOctets format data materialization
      return (⟨fetchedAt, some decoder, precomputed⟩, notices)

end Configuration

end FeatureFlags
