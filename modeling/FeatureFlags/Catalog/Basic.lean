import FeatureFlags.Flag.Json
import FeatureFlags.Flatbuffer.Flag
import FeatureFlags.Protobuf.Flag

/-!
**Configurations of flags in three wire formats.**

A catalog is what octets say about flags, taken apart as far as to tell the flags from each other.
One flag is decoded by its key, apart from all others, so that a flag that cannot be decoded harms
none of them. Of several flags with one key the last one counts.

* `Catalog.ofOctets`: the catalog that octets hold, or why they hold none.
* `Catalog.flag?`: the flag at a key, or why it cannot be decoded.
-/

namespace FeatureFlags

/-- A way to write configurations. -/
inductive WireFormat where
  | json
  | protobuf
  | flatbuffer
deriving DecidableEq, Repr

namespace WireFormat

/-- All formats. -/
def all : List WireFormat := [json, protobuf, flatbuffer]

/-- The name of a format in documents. -/
def name : WireFormat → String
  | json => "json"
  | protobuf => "protobuf"
  | flatbuffer => "flatbuffer"

/-- The name of a format in messages. -/
def word : WireFormat → String
  | json => "Json"
  | protobuf => "Protobuf"
  | flatbuffer => "Flatbuffer"

/-- The format with a name. -/
def ofName? (name : String) : Option WireFormat := all.find? fun format => format.name == name

end WireFormat

/-- A flag that is told from the others but not decoded yet. -/
inductive RawFlag where
  | document (source : Document)
  | record (source : FlagRecord)
  | table (buffer : Buffer) (position : Nat)

/-- The flag that a raw flag stands for, or why it stands for none. -/
def RawFlag.decode : RawFlag → Decoded Flag
  | document source =>
    match Flag.read? 0 source with
    | some flag => .ok flag
    | none => .error .invalidJson
  | record source => source.toFlag
  | table buffer position => buffer.flag position

/-- A configuration of flags. -/
structure Catalog where
  format : WireFormat
  octets : Octets
  createdAt : Option Instant
  environment : Option String
  flags : Dict RawFlag

namespace Catalog

/-! ### Reading -/

/-- A raw flag in a document; it must be UTF-8 throughout. -/
def rawDocument? (document : Document) : Option RawFlag :=
  if document.isText then some (.document document) else none

/-- The catalog that a document holds. -/
def readDocument? (octets : Octets) : Option Catalog := do
  let document ← Document.read? octets
  let record ← document.readRecord? ["createdAt", "environment", "flags"] 0
  let createdAt ← record.nullable "createdAt" fun _ => Instant.read?
  let environment ← record.nullable "environment" Environment.read?
  let flags ← record.require "flags" fun level =>
    Document.readDict? level fun _ => rawDocument?
  return ⟨.json, octets, createdAt, environment.map Environment.name, flags⟩

/-- The catalog that a document holds, or why it holds none. -/
def ofJson (octets : Octets) : Decoded Catalog :=
  match readDocument? octets with
  | some catalog => .ok catalog
  | none => .error .invalidJson

/-- The catalog that a message holds, or why it holds none. -/
def ofProtobuf (octets : Octets) : Decoded Catalog := do
  match ConfigRecord.ofOctets? octets with
  | none => .error .invalidProtobuf
  | some record =>
    let createdAt ← optionalInstant record.createdMillis
    return ⟨.protobuf, octets, createdAt, record.environment,
      Dict.ofList (record.flags.map fun flag => (flag.key, .record flag))⟩

/-- The catalog that a buffer of tables holds, or why it holds none. -/
def ofFlatbuffer (octets : Octets) : Decoded Catalog := do
  let buffer := Buffer.ofOctets octets
  if buffer.keepsTo .config then
    let createdAt ← buffer.createdAt
    let environment ← buffer.environment
    let index ← buffer.flagIndex
    return ⟨.flatbuffer, octets, createdAt, environment,
      Dict.ofList (index.map fun entry => (entry.1, .table buffer entry.2))⟩
  else .error .invalidFlatbuffer

/-- The catalog that octets hold, or why they hold none. -/
def ofOctets (format : WireFormat) (octets : Octets) : Decoded Catalog :=
  match format with
  | .json => ofJson octets
  | .protobuf => ofProtobuf octets
  | .flatbuffer => ofFlatbuffer octets

/-! ### Views -/

/-- The keys of the flags. -/
def keys (catalog : Catalog) : List String := catalog.flags.keys

/-- How many flags there are. -/
def size (catalog : Catalog) : Nat := catalog.flags.size

/-- The flag at a key, or why it cannot be decoded; nothing without such a key. -/
def flag? (catalog : Catalog) (key : String) : Option (Decoded Flag) :=
  (catalog.flags.get? key).map RawFlag.decode

/-- The flags that can be decoded, in the order of their keys. -/
def decodedFlags (catalog : Catalog) : List Flag :=
  catalog.flags.values.filterMap fun raw => raw.decode.toOption

end Catalog

end FeatureFlags
