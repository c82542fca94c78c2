import FeatureFlags.Digest
import FeatureFlags.Flag.Value
import FeatureFlags.Notice
import FeatureFlags.Dict
import FeatureFlags.Text.Base64

/-!
**How the texts of a configuration are hidden from its readers.**

A hidden configuration keeps digests of its flag keys, salted, in the place of the keys, and base64
in the place of texts. What cannot be decoded gives nothing, so that only the field it belongs to is
lost.

* `Codec.decodeText?`, `Codec.decodeValue?`, `Codec.decodeExtraLogging`: texts, values and maps.
* `hashKey`: the digest of a flag key.
-/

namespace FeatureFlags

/-- How texts are written: openly, or hidden under a salt. -/
inductive Codec where
  | plain
  | obfuscated (salt : Octets)
deriving DecidableEq, Repr

/-- The digest of a key after a salt, in hexadecimal notation. -/
def hashKey (salt : Octets) (key : String) : String := hexOf (Digest.md5 (salt ++ octetsOf key))

/-- A text without the quotes around it; what is not in quotes stays as it is. -/
def unquote (text : String) : String :=
  match text.toList with
  | '"' :: rest =>
    match rest.reverse with
    | '"' :: inside => String.ofList inside.reverse
    | _ => text
  | _ => text

/-- The whole number of 64 bits that a double stands for. -/
def Double.whole? (value : Double) : Option Int64 := value.integer?.map Int64.ofInt

namespace Codec

/-- The codec for a salt as documents carry it: base64, or else the text itself. -/
def ofSalt (salt : String) : Codec := obfuscated ((Base64.decode? salt).getD (octetsOf salt))

/-- What is noted about a salt. -/
def saltNotices (salt : String) : List Notice :=
  if (Base64.decode? salt).isNone then [.saltVerbatim] else []

/-- Whether texts are hidden. -/
def isObfuscated : Codec → Bool
  | plain => false
  | obfuscated _ => true

/-- The salt, if texts are hidden. -/
def salt? : Codec → Option Octets
  | plain => none
  | obfuscated salt => some salt

/-- The text that a written text stands for. -/
def decodeText? : Codec → String → Option String
  | plain, text => some text
  | obfuscated _, text => Base64.decodeText? text

/-! ### Values -/

/-- A truth value, which may be spelled by a text. -/
def readBoolean? : Json → Option Bool
  | .bool value => some value
  | .string text =>
    match unquote text with
    | "true" => some true
    | "false" => some false
    | _ => none
  | _ => none

/-- The whole number that a text spells, in digits or as a double that is whole. -/
def wholeOfText? (text : String) : Option Int64 :=
  match integerOfText? text with
  | some value => some (Int64.ofInt value)
  | none => (Double.ofText? text).bind Double.whole?

/-- A whole number, which may be spelled by a text. -/
def readInteger? : Json → Option Int64
  | .number value =>
    match value.integer? with
    | some whole => some (Int64.ofInt whole)
    | none => value.toDouble.whole?
  | .string text => wholeOfText? (unquote text)
  | _ => none

/-- A finite double, which may be spelled by a text. -/
def readNumeric? : Json → Option Double
  | .number value => some value.toDouble
  | .string text => (Double.ofText? (unquote text)).filter Double.isFinite
  | _ => none

/-- A document: the text of one, or the document itself where nothing is hidden. -/
def readDocument? (codec : Codec) : Json → Option Json
  | .string text => (codec.decodeText? text).bind Json.readText?
  | value => if codec.isObfuscated then none else some value

/-- The value of a type that a written value stands for. -/
def decodeValue? (codec : Codec) (type : VariationType) (written : Json) : Option Value :=
  match type with
  | .string =>
    match written with
    | .string text => (codec.decodeText? text).map .string
    | _ => none
  | .json => (codec.readDocument? written).map .json
  | .boolean => (readBoolean? written).map .boolean
  | .integer => (readInteger? written).map .integer
  | .numeric => (readNumeric? written).map .numeric

/-! ### Maps -/

/-- The entry that a written entry stands for. -/
def decodePair? (codec : Codec) (entry : String × String) : Option (String × String) := do
  let key ← codec.decodeText? entry.1
  let value ← codec.decodeText? entry.2
  return (key, value)

/-- The map that a written map stands for, without the entries that cannot be decoded. -/
def decodeExtraLogging (codec : Codec) (written : Dict String) : Dict String :=
  Dict.ofList (written.entries.filterMap codec.decodePair?)

/-- What is noted about the entries that cannot be decoded. -/
def extraLoggingNotices (codec : Codec) (written : Dict String) : List Notice :=
  (written.entries.filter fun entry => (codec.decodePair? entry).isNone).map fun entry =>
    .extraLoggingDropped entry.1

end Codec

end FeatureFlags
