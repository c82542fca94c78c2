import FeatureFlags.Catalog.Basic
import FeatureFlags.Notice

/-!
**Catalogs that decode each flag once.**

A decoder keeps what it has decoded, the failures too. It either decodes all flags at the start or
each when it is first asked for. A lookup goes in two steps, so that several callers may ask at
once: it peeks at what is kept, and where nothing is kept it looks again, decodes and keeps the
result. Every step says which flags it decoded and what is noted of them.

* `Decoder.ofOctets`: a decoder for octets.
* `Decoder.find`: the flag at a key, and the decoder that keeps it.
* `Decoder.answer?`: the same answer, without the decoder.
-/

namespace FeatureFlags

/-- When flags are decoded: all at the start, or each when it is first asked for. -/
inductive Materialization where
  | prewarmed
  | lazy
deriving DecidableEq, Repr

/-- A catalog with the flags that are decoded already. -/
structure Decoder where
  catalog : Catalog
  kept : Dict (Decoded Flag)

namespace Decoder

/-- What is noted about a flag that was decoded. -/
def noticesOf (key : String) (result : Decoded Flag) : List Notice :=
  match result with
  | .ok _ => []
  | .error _ => [.flagUndecodable key]

/-! ### Lookups -/

/-- What is kept for a key. -/
def peek? (decoder : Decoder) (key : String) : Option (Decoded Flag) := decoder.kept.get? key

/-- The flag at a key, decoded and kept unless it is kept already, with the keys of the flags that
are decoded now and what is noted. -/
def settle (decoder : Decoder) (key : String) :
    Option (Decoded Flag) × Decoder × List String × List Notice :=
  match decoder.peek? key with
  | some result => (some result, decoder, [], [])
  | none =>
    match decoder.catalog.flag? key with
    | none => (none, decoder, [], [])
    | some result =>
      (some result, { decoder with kept := decoder.kept.insert key result }, [key],
        noticesOf key result)

/-- The flag at a key, with the keys of the flags that are decoded now and what is noted. -/
def find (decoder : Decoder) (key : String) :
    Option (Decoded Flag) × Decoder × List String × List Notice :=
  match decoder.peek? key with
  | some result => (some result, decoder, [], [])
  | none => decoder.settle key

/-- The answer of a lookup. -/
def answer? (decoder : Decoder) (key : String) : Option (Decoded Flag) :=
  (decoder.peek? key).or (decoder.catalog.flag? key)

/-- Look up keys one after another. -/
def findAll (decoder : Decoder) :
    List String → List (String × Option (Decoded Flag)) × Decoder × List String × List Notice
  | [] => ([], decoder, [], [])
  | key :: rest =>
    let (found, after, converted, notices) := decoder.find key
    let (others, last, moreConverted, moreNotices) := findAll after rest
    ((key, found) :: others, last, converted ++ moreConverted, notices ++ moreNotices)

/-- Every key with its flag, or with nothing if the flag cannot be decoded. -/
def visit (decoder : Decoder) :
    List (String × Option Flag) × Decoder × List String × List Notice :=
  let (found, after) := decoder.findAll decoder.catalog.keys
  (found.map fun entry => (entry.1, entry.2.bind Except.toOption), after)

/-! ### Construction -/

/-- A decoder that has decoded nothing. -/
def idle (catalog : Catalog) : Decoder := ⟨catalog, Dict.empty⟩

/-- A decoder for a catalog, with the keys of the flags that are decoded at the start and what is
noted meanwhile. -/
def opening (catalog : Catalog) : Materialization → Decoder × List String × List Notice
  | .lazy => (idle catalog, [], [])
  | .prewarmed => ((idle catalog).findAll catalog.keys).2

/-- A decoder for a catalog, with what is noted while flags are decoded at the start. -/
def ofCatalog (catalog : Catalog) (materialization : Materialization) : Decoder × List Notice :=
  let (decoder, _, notices) := opening catalog materialization
  (decoder, notices)

/-- A decoder for octets, with what is noted, or why the octets hold no catalog. -/
def ofOctets (format : WireFormat) (octets : Octets) (materialization : Materialization) :
    Decoded (Decoder × List Notice) :=
  (Catalog.ofOctets format octets).map fun catalog => ofCatalog catalog materialization

/-- How a decoder describes itself. -/
def description (decoder : Decoder) : String :=
  "ConfigDecoder \x7b format: " ++ decoder.catalog.format.word ++ ", flag_count: " ++
    toString decoder.catalog.size ++ ", .. \x7d"

end Decoder

end FeatureFlags
