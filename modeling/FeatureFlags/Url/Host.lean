import FeatureFlags.Text.Percent
import FeatureFlags.Url.Domain

/-!
**The hosts of addresses.**

A host is a domain, an address of four octets, an address of eight pieces in brackets, or, where the
scheme has no hosts of its own, any other name. A domain whose last label is a number must be an
address of four octets, which may be written in fewer parts and in octal or hexadecimal digits.

* `Host.ofText?`: the host that a text spells.
* `fourOctets?`, `eightPieces?`: the two kinds of addresses.
-/

namespace FeatureFlags

/-- Where an address leads. -/
inductive Host where
  | domain (name : String)
  | fourOctets (value : Nat)
  | eightPieces (pieces : List Nat)
  | other (name : String)
deriving DecidableEq, Repr

namespace Host

/-! ### Addresses of four octets -/

/-- The number that digits spell in a base. -/
def numberOf? (base : Nat) (digits : List Char) : Option Nat :=
  digits.foldl
    (fun sum? c => do
      let sum ← sum?
      let digit ← Percent.digit? c
      if digit < base then some (sum * base + digit) else none)
    (some 0)

/-- The number that a part of an address spells: in hexadecimal digits after `0x`, in octal digits
after `0`, and else in decimal digits. -/
def partOf? (part : List Char) : Option Nat :=
  match part with
  | [] => none
  | '0' :: 'x' :: digits | '0' :: 'X' :: digits => numberOf? 16 digits
  | '0' :: first :: digits => numberOf? 8 (first :: digits)
  | digits => numberOf? 10 digits

/-- The labels of a domain, without an empty one at its end. -/
def labels (domain : List Char) : List (List Char) :=
  let parts := splitAt (· == '.') domain
  if parts.length > 1 ∧ parts.getLast? = some [] then parts.dropLast else parts

/-- Whether a domain is to be an address of four octets. -/
def endsInNumber (domain : List Char) : Bool :=
  match (labels domain).getLast? with
  | none | some [] => false
  | some label => label.all Char.isDigit || (partOf? label).isSome

/-- The address that parts spell; the last part stands for all octets that are left. -/
def fourOctets? (domain : List Char) : Option Nat := do
  let parts := labels domain
  if parts.length > 4 then none
  else
    let values ← parts.mapM partOf?
    let last ← values.getLast?
    if values.dropLast.all (· < 256) ∧ last < Nat.pow 256 (5 - values.length) then
      let front := values.dropLast.mapIdx fun index value => value * Nat.pow 256 (3 - index)
      some (front.foldl (· + ·) last)
    else none

/-! ### Addresses of eight pieces -/

/-- A piece of up to four hexadecimal digits. -/
def pieceOf? (piece : List Char) : Option Nat :=
  if piece.isEmpty ∨ piece.length > 4 then none else numberOf? 16 piece

/-- An octet in decimal digits without leading zeros. -/
def octetOf? (part : List Char) : Option Nat :=
  match part with
  | [] | '0' :: _ :: _ => none
  | digits => (numberOf? 10 digits).filter (· < 256)

/-- The two pieces that four octets fill. -/
def piecesOfOctets? (text : List Char) : Option (List Nat) :=
  match (splitAt (· == '.') text).mapM octetOf? with
  | some [a, b, c, d] => some [a * 256 + b, c * 256 + d]
  | _ => none

/-- The pieces of a text between colons; the last of them may be four octets. -/
def piecesOf? (octetsAtEnd : Bool) (text : List Char) : Option (List Nat) :=
  if text.isEmpty then some []
  else do
    let parts := splitAt (· == ':') text
    let last ← parts.getLast?
    let front ← parts.dropLast.mapM pieceOf?
    if octetsAtEnd ∧ last.contains '.' then
      let back ← piecesOfOctets? last
      return front ++ back
    else
      let back ← pieceOf? last
      return front ++ [back]

/-- What stands before and after the first two colons in a row. -/
def splitGap? : List Char → Option (List Char × List Char)
  | ':' :: ':' :: rest => some ([], rest)
  | c :: rest => (splitGap? rest).map fun sides => (c :: sides.1, sides.2)
  | [] => none

/-- The eight pieces of an address; two colons stand for all pieces that are left out. -/
def eightPieces? (text : List Char) : Option (List Nat) :=
  match splitGap? text with
  | none => (piecesOf? true text).filter fun pieces => pieces.length = 8
  | some (before, after) => do
    let front ← piecesOf? false before
    let back ← piecesOf? true after
    if front.length + back.length ≤ 7 then
      some (front ++ List.replicate (8 - front.length - back.length) 0 ++ back)
    else none

/-! ### Hosts -/

/-- Whether no host may hold a character. -/
def isForbidden (c : Char) : Bool := "\x00\t\n\r #/:<>?@[\\]^|".toList.contains c

/-- Whether no domain may hold a character. -/
def isForbiddenInDomain (c : Char) : Bool :=
  isForbidden c || c.toNat < 32 || c == '%' || c.toNat == 127

/-- The host that a text spells in a scheme that has hosts of its own. -/
def ofDomain? (chars : List Char) : Option Host := do
  let decoded ← (Percent.decode chars).text?
  let domain ← Domain.ofText? decoded.toList
  if domain.isEmpty ∨ domain.any isForbiddenInDomain then none
  else if endsInNumber domain then (fourOctets? domain).map fourOctets
  else some (.domain (String.ofList domain))

/-- The host that a text spells; only some schemes have hosts of their own. -/
def ofText? (isSpecial : Bool) (chars : List Char) : Option Host :=
  match chars with
  | '[' :: rest =>
    match rest.reverse with
    | ']' :: inside => (eightPieces? inside.reverse).map eightPieces
    | _ => none
  | chars =>
    if isSpecial then ofDomain? chars
    else if chars.any isForbidden then none
    else
      let isPlain := fun c : Char => decide (32 ≤ c.toNat ∧ c.toNat < 127)
      some (.other (String.ofList (Percent.encode isPlain chars)))

end Host

end FeatureFlags
