/-!
**Semantic versions and their order.**

A version has three numbers, identifiers of a pre-release after a hyphen, and identifiers of a build
after a plus sign. Versions are ordered by their numbers, then a pre-release comes before its
release, then the identifiers decide one after another, and the identifiers of the build decide
last.

* `Version.ofText?`: the version that a text spells.
* `Version.compare`: the order.
-/

namespace FeatureFlags

/-- A semantic version. -/
structure Version where
  major : Nat
  minor : Nat
  patch : Nat
  preRelease : List (List Char)
  build : List (List Char)
deriving DecidableEq, Repr

namespace Version

/-! ### Reading -/

/-- Whether a character may stand in an identifier. -/
def isIdentifierChar (c : Char) : Bool := c.isAlphanum || c == '-'

/-- Whether an identifier is a number. -/
def isNumeric (identifier : List Char) : Bool := identifier.all Char.isDigit

/-- The value of decimal digits. -/
def digitsValue (digits : List Char) : Nat :=
  digits.foldl (fun value c => value * 10 + (c.toNat - '0'.toNat)) 0

/-- Whether digits begin with a zero that could be left out. -/
def hasLeadingZero : List Char → Bool
  | '0' :: _ :: _ => true
  | _ => false

/-- A number of 64 bits without leading zeros. -/
def takeNumber (input : List Char) : Option (Nat × List Char) :=
  let digits := input.takeWhile Char.isDigit
  let value := digitsValue digits
  if digits.isEmpty ∨ hasLeadingZero digits ∨ Nat.pow 2 64 ≤ value then none
  else some (value, input.dropWhile Char.isDigit)

/-- What follows a mark that must be there. -/
def takeMark (mark : Char) : List Char → Option (List Char)
  | c :: rest => if c = mark then some rest else none
  | [] => none

/-- The parts of a text between dots. -/
def splitDots : List Char → List (List Char)
  | [] => [[]]
  | '.' :: rest => [] :: splitDots rest
  | c :: rest =>
    match splitDots rest with
    | [] => [[c]]
    | part :: parts => (c :: part) :: parts

/-- Identifiers with dots between them, as far as they go. -/
def takeIdentifiers (input : List Char) : Option (List (List Char) × List Char) :=
  let isPart := fun c => isIdentifierChar c || c == '.'
  let identifiers := splitDots (input.takeWhile isPart)
  if identifiers.any List.isEmpty then none else some (identifiers, input.dropWhile isPart)

/-- The identifiers of a pre-release, if a hyphen announces them. A number among them has no leading
zeros. -/
def takePreRelease (input : List Char) : Option (List (List Char) × List Char) := do
  match input with
  | '-' :: rest =>
    let (identifiers, rest) ← takeIdentifiers rest
    if identifiers.any fun identifier => isNumeric identifier && hasLeadingZero identifier then none
    else return (identifiers, rest)
  | rest => return ([], rest)

/-- The identifiers of a build, if a plus sign announces them. -/
def takeBuild (input : List Char) : Option (List (List Char) × List Char) :=
  match input with
  | '+' :: rest => takeIdentifiers rest
  | rest => some ([], rest)

/-- The version that a text spells. -/
def ofText? (text : String) : Option Version := do
  let (major, rest) ← takeNumber text.toList
  let rest ← takeMark '.' rest
  let (minor, rest) ← takeNumber rest
  let rest ← takeMark '.' rest
  let (patch, rest) ← takeNumber rest
  let (preRelease, rest) ← takePreRelease rest
  let (build, rest) ← takeBuild rest
  if rest.isEmpty then return ⟨major, minor, patch, preRelease, build⟩ else none

/-! ### Order -/

/-- The order of two texts, character by character. -/
def compareText (a b : List Char) : Ordering := compareOn (·.map Char.toNat) a b

/-- The order of two identifiers of a pre-release: numbers come first, and the longer of two numbers
is the greater. -/
def comparePreIdentifier (a b : List Char) : Ordering :=
  match isNumeric a, isNumeric b with
  | true, true => (compare a.length b.length).then (compareText a b)
  | true, false => .lt
  | false, true => .gt
  | false, false => compareText a b

/-- The digits of a number without its leading zeros. -/
def significantDigits (digits : List Char) : List Char := digits.dropWhile (· == '0')

/-- The order of two identifiers of a build: numbers come first, in the order of their values, and
of two numbers with one value the one with more leading zeros is the greater. -/
def compareBuildIdentifier (a b : List Char) : Ordering :=
  match isNumeric a, isNumeric b with
  | true, true =>
    ((compare (significantDigits a).length (significantDigits b).length).then
      (compareText (significantDigits a) (significantDigits b))).then (compare a.length b.length)
  | true, false => .lt
  | false, true => .gt
  | false, false => compareText a b

/-- The order of two lists of identifiers: the first difference decides, and what goes on is
greater. -/
def compareIdentifiers (order : List Char → List Char → Ordering) :
    List (List Char) → List (List Char) → Ordering
  | [], [] => .eq
  | [], _ :: _ => .lt
  | _ :: _, [] => .gt
  | a :: as, b :: bs => (order a b).then (compareIdentifiers order as bs)

/-- The order of two pre-releases; a release, which has none, is the greater. -/
def comparePreRelease (a b : List (List Char)) : Ordering :=
  match a, b with
  | [], [] => .eq
  | [], _ :: _ => .gt
  | _ :: _, [] => .lt
  | a, b => compareIdentifiers comparePreIdentifier a b

/-- The order of two versions. -/
def compare (a b : Version) : Ordering :=
  ((((Ord.compare a.major b.major).then (Ord.compare a.minor b.minor)).then
    (Ord.compare a.patch b.patch)).then (comparePreRelease a.preRelease b.preRelease)).then
      (compareIdentifiers compareBuildIdentifier a.build b.build)

end Version

end FeatureFlags
