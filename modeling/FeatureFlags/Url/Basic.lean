import FeatureFlags.Url.Host

/-!
**Addresses of the web.**

An address has a scheme, mostly a host and a port, a path, and a query. Schemes with hosts of their
own need a host, and take a backslash for a slash. The path has no dots that stand for its own
directory or the one above.

* `Url.ofText?`: the address that a text spells.
* `Url.withFields`: the address with more fields in its query.
* `Url.target`: what a request asks a host for.
-/

namespace FeatureFlags

/-- An address. -/
structure Url where
  scheme : String
  host : Option Host
  port : Option Nat
  path : String
  query : Option String
deriving DecidableEq, Repr

namespace Url

/-! ### Schemes -/

/-- The schemes that have hosts of their own. -/
def specialSchemes : List String := ["http", "https", "ws", "wss", "ftp", "file"]

/-- Whether the address leads to a server that takes requests. -/
def isWeb (url : Url) : Bool := url.scheme == "http" || url.scheme == "https"

/-- Whether a scheme may hold a character. -/
def isSchemeCharacter (c : Char) : Bool := c.isAlphanum || c == '+' || c == '-' || c == '.'

/-- The scheme at the front of an address, and what follows its colon. -/
def scheme? (chars : List Char) : Option (String × List Char) :=
  match chars.span isSchemeCharacter with
  | (first :: others, ':' :: rest) =>
    if first.isAlpha then some (String.ofList ((first :: others).map Char.toLower), rest) else none
  | _ => none

/-! ### Paths and queries -/

/-- Whether a path may hold a character as it is. -/
def isPathCharacter (c : Char) : Bool :=
  decide (32 < c.toNat ∧ c.toNat < 127) && !"\"<>`#?\x7b\x7d".toList.contains c

/-- Whether a query may hold a character as it is. -/
def isQueryCharacter (isSpecial : Bool) (c : Char) : Bool :=
  decide (32 < c.toNat ∧ c.toNat < 127) && !"\"<>#".toList.contains c && !(isSpecial && c == '\'')

/-- Whether a character separates the segments of a path. -/
def isSlash (isSpecial : Bool) (c : Char) : Bool := c == '/' || isSpecial && c == '\\'

/-- A segment with the spelled dots written out, in lowercase letters. -/
def plainDots : List Char → List Char
  | '%' :: '2' :: c :: rest =>
    if c.toLower = 'e' then '.' :: plainDots rest else '%' :: '2' :: plainDots (c :: rest)
  | c :: rest => c :: plainDots rest
  | [] => []

/-- Whether a segment stands for its own directory. -/
def isHere (segment : List Char) : Bool := plainDots segment == ['.']

/-- Whether a segment stands for the directory above. -/
def isAbove (segment : List Char) : Bool := plainDots segment == ['.', '.']

/-- The segments of a path without dots that stand for directories, given those before them. -/
def resolve (before : List (List Char)) : List (List Char) → List (List Char)
  | [] => before
  | [last] =>
    if isAbove last then before.dropLast ++ [[]]
    else if isHere last then before ++ [[]]
    else before ++ [last]
  | segment :: rest =>
    if isAbove segment then resolve before.dropLast rest
    else if isHere segment then resolve before rest
    else resolve (before ++ [segment]) rest

/-- The path that characters spell. -/
def pathOf (isSpecial : Bool) (chars : List Char) : String :=
  let inside := match chars with
    | c :: rest => if isSlash isSpecial c then rest else chars
    | [] => []
  if chars.isEmpty ∧ !isSpecial then ""
  else
    let segments := resolve [] (splitAt (isSlash isSpecial) inside)
    String.ofList (segments.flatMap fun segment => '/' :: Percent.encode isPathCharacter segment)

/-! ### Authorities -/

/-- The part of an authority after the user, and whether there is a user; a lone colon is none. -/
def withoutUser (authority : List Char) : List Char × Bool :=
  match (splitAt (· == '@') authority).reverse with
  | last :: before => (last, !before.isEmpty && before != [[':']])
  | [] => (authority, false)

/-- A host and what follows it: a colon within brackets belongs to the host. -/
def splitHost (insideBrackets : Bool) : List Char → List Char × List Char
  | [] => ([], [])
  | c :: rest =>
    if c = ':' ∧ !insideBrackets then ([], c :: rest)
    else
      let (host, after) :=
        splitHost (if c = '[' then true else if c = ']' then false else insideBrackets) rest
      (c :: host, after)

/-- The port that characters after a host spell. -/
def port? (chars : List Char) : Option (Option Nat) :=
  match chars with
  | [] | [':'] => some none
  | ':' :: digits => ((Host.numberOf? 10 digits).filter (· < 65536)).map some
  | _ => none

/-- The host and the port of an authority. -/
def authority? (isSpecial : Bool) (authority : List Char) :
    Option (Option Host × Option Nat) := do
  let (place, hasUser) := withoutUser authority
  let (host, after) := splitHost false place
  let port ← port? after
  if host.isEmpty then
    if isSpecial ∨ hasUser ∨ !after.isEmpty then none else some (none, none)
  else
    let host ← Host.ofText? isSpecial host
    return (some host, port)

/-- Whether characters name a drive, which is no host. -/
def isDrive : List Char → Bool
  | [letter, mark] => letter.isAlpha && (mark == ':' || mark == '|')
  | _ => false

/-! ### Addresses -/

/-- The host, the port and the path of an address of a file. -/
def fileBody? (body : List Char) : Option (Option Host × Option Nat × String) :=
  match body with
  | a :: b :: rest =>
    if isSlash true a ∧ isSlash true b then
      let (host, path) := rest.span fun c => !isSlash true c
      if host.isEmpty ∨ isDrive host then some (none, none, pathOf true rest)
      else
        (Host.ofText? true host).map fun host =>
          (if host = .domain "localhost" then none else some host, none, pathOf true path)
    else some (none, none, pathOf true body)
  | body => some (none, none, pathOf true body)

/-- The host, the port and the path of an address, by what stands between its scheme and its
query. -/
def body? (scheme : String) (body : List Char) : Option (Option Host × Option Nat × String) :=
  let isSpecial := specialSchemes.contains scheme
  if scheme = "file" then fileBody? body
  else
    let afterSlashes := if isSpecial then some (body.dropWhile (isSlash true))
      else match body with
        | '/' :: '/' :: rest => some rest
        | _ => none
    match afterSlashes with
    | some rest => do
      let (authority, path) := rest.span fun c => !isSlash isSpecial c
      let (host, port) ← authority? isSpecial authority
      return (host, port, pathOf isSpecial path)
    | none =>
      match body with
      | '/' :: _ => some (none, none, pathOf false body)
      | _ =>
        let isPlain := fun c : Char => decide (32 ≤ c.toNat ∧ c.toNat < 127)
        some (none, none, String.ofList (Percent.encode isPlain body))

/-- The characters of a text that count in an address: no blanks at its ends, and no breaks. -/
def significant (text : String) : List Char :=
  let isBlank := fun c : Char => decide (c.toNat ≤ 32)
  let trimmed := ((text.toList.dropWhile isBlank).reverse.dropWhile isBlank).reverse
  trimmed.filter fun c => c != '\t' && c != '\n' && c != '\r'

/-- The address that a text spells; what follows a number sign is dropped. -/
def ofText? (text : String) : Option Url := do
  let (scheme, rest) ← scheme? (significant text)
  let whole := rest.takeWhile (· != '#')
  let (body, asked) := whole.span (· != '?')
  let (host, port, path) ← body? scheme body
  let query := match asked with
    | _ :: query =>
      some (String.ofList
        (Percent.encode (isQueryCharacter (specialSchemes.contains scheme)) query))
    | [] => none
  return ⟨scheme, host, port, path, query⟩

/-- A field of a query. -/
def field (entry : String × String) : String :=
  Percent.encodeField entry.1 ++ "=" ++ Percent.encodeField entry.2

/-- The address with more fields in its query. -/
def withFields (url : Url) (fields : List (String × String)) : Url :=
  let more := "&".intercalate (fields.map field)
  { url with
    query := match url.query with
      | none | some "" => some more
      | some query => some (query ++ "&" ++ more) }

/-- What a request asks a host for: the path, with the query. -/
def target (url : Url) : String :=
  url.path ++ (url.query.map ("?" ++ ·)).getD ""

end Url

end FeatureFlags
