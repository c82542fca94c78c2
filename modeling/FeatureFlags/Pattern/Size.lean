import FeatureFlags.Pattern.Construction
import FeatureFlags.Text.Octets
import Std.Data.HashMap

/-!
**How large a pattern is.**

A pattern is followed octet by octet by two machines, one from the start of a stretch forwards and
one from its end backwards. Here the states of these machines are counted, with the room they take.
Sets beyond ASCII share states for octets that go on in the same way; what is shared is looked up in
a table of fixed size, in which a later entry may replace an earlier one.

* `octetSequences`: a range of characters as sequences of ranges of octets.
* `Pattern.build`: adds the states of a pattern.
* `Pattern.isWithinLimit`: whether neither machine of a pattern takes more room than allowed.
-/

namespace FeatureFlags

/-! ### Ranges of octets -/

/-- A range of octets. -/
abbrev OctetRange := Nat × Nat

/-- The octets of a character in UTF-8, by its code point. -/
def octetsOfCodePoint (n : Nat) : List Nat :=
  if n < 0x80 then [n]
  else if n < 0x800 then [0xC0 + n / 64, 0x80 + n % 64]
  else if n < 0x10000 then [0xE0 + n / 4096, 0x80 + n / 64 % 64, 0x80 + n % 64]
  else [0xF0 + n / 262144, 0x80 + n / 4096 % 64, 0x80 + n / 64 % 64, 0x80 + n % 64]

/-- The ranges of code points whose characters have the same number of octets each. -/
def octetCountRanges : List (Nat × Nat) :=
  [(0, 0x7F), (0x80, 0x7FF), (0x800, 0xD7FF), (0xE000, 0xFFFF), (0x10000, 0x10FFFF)]

/-- A range cut so that in each piece the octets vary independently, given the sizes of the blocks
that share their first octets. -/
def cutAtBlocks : List Nat → Nat → Nat → List (Nat × Nat)
  | [], first, last => [(first, last)]
  | size :: sizes, first, last =>
    if first / size = last / size then [(first, last)]
    else
      let start := (first + size - 1) / size * size
      let stop := (last + 1) / size * size
      let head := if first = start then [] else [(first, start - 1)]
      let tail := if last + 1 = stop then [] else [(stop, last)]
      head ++ (if start < stop then cutAtBlocks sizes start (stop - 1) else []) ++ tail

/-- The octets of the characters in a range, as sequences of ranges in ascending order. -/
def octetSequences (range : Nat × Nat) : List (List OctetRange) :=
  octetCountRanges.flatMap fun bounds =>
    let first := max range.1 bounds.1
    let last := min range.2 bounds.2
    if last < first then []
    else
      let pieces :=
        if last < 0x80 then [(first, last)] else cutAtBlocks [64, 4096, 262144] first last
      pieces.map fun piece => (octetsOfCodePoint piece.1).zip (octetsOfCodePoint piece.2)

/-! ### Adding states -/

/-- The states that were added, and the room of their edges. -/
structure Machine where
  states : Nat
  edgeRoom : Nat

/-- How much room a machine may take. -/
def sizeLimit : Nat := 10 * 1048576

/-- Adding to a machine, which fails when the machine becomes too large. -/
abbrev Building (α : Type) := Machine → Option (α × Machine)

namespace Building

variable {α β : Type}

/-- A machine unless it is too large. A state takes 32 octets besides its edges. -/
def check (value : α) (machine : Machine) : Option (α × Machine) :=
  if 32 * machine.states + machine.edgeRoom ≤ sizeLimit then some (value, machine) else none

/-- Add nothing. -/
def done (value : α) : Building α := fun machine => some (value, machine)

/-- Add one thing after another. -/
def andThen (first : Building α) (second : α → Building β) : Building β := fun machine =>
  match first machine with
  | some (value, machine) => second value machine
  | none => none

/-- Add a state, whose number is the number of states before it. -/
def state (edgeRoom : Nat) : Building Nat := fun machine =>
  check machine.states ⟨machine.states + 1, machine.edgeRoom + edgeRoom⟩

/-- Add states without edges of their own. -/
def plainStates (count : Nat) : Building Unit := fun machine =>
  check () { machine with states := machine.states + count }

/-- Add a state that branches, with its number of edges. -/
def branch (edges : Nat) : Building Unit := fun machine =>
  check () ⟨machine.states + 1, machine.edgeRoom + 4 * edges⟩

/-- Add the edge to what follows from the end of a piece, which takes room if the end branches. -/
def join (branches : Bool) : Building Unit := fun machine =>
  check () { machine with edgeRoom := machine.edgeRoom + if branches then 4 else 0 }

instance : Monad Building where
  pure := done
  bind := andThen

end Building

/-! ### Sets -/

/-- A number for looking up a list of numbers, from one to the next. -/
def lookupNumber (numbers : List Nat) : UInt64 :=
  numbers.foldl (fun value n => (value ^^^ n.toUInt64) * 1099511628211) 14695981039346656037

/-- States that may be shared, by the place in a table that their edges lead to. -/
abbrev Shared := Std.HashMap UInt64 (List Nat × Nat)

/-- The state with given edges, which is added unless it stands in the table. -/
def sharedState (places : UInt64) (edges : List Nat) (edgeRoom : Nat) (shared : Shared) :
    Building (Nat × Shared) := fun machine =>
  let place := lookupNumber edges % places
  let add := fun _ : Unit =>
    match Building.state edgeRoom machine with
    | some (number, machine) => some ((number, shared.insert place (edges, number)), machine)
    | none => none
  match shared[place]? with
  | some (known, number) => if known = edges then some ((number, shared), machine) else add ()
  | none => add ()

/-- Add the states that take sequences of octets forwards to a last state. Sequences that begin with
the same range of octets stand together; the fuel is the length of the sequences. -/
def addForwards (last : Nat) : Nat → List (List OctetRange) → Shared → Building (Nat × Shared)
  | 0, _, shared => Building.done (last, shared)
  | fuel + 1, sequences, shared =>
    let groups := sequences.splitBy fun a b => a.head? == b.head?
    let addGroup := fun (group : List (List OctetRange)) (edges : List Nat) (shared : Shared) => do
      let rests := group.map List.tail
      let (next, shared) ←
        if rests.all List.isEmpty then Building.done (last, shared)
        else addForwards last fuel rests shared
      let range := ((group.head?.bind List.head?).getD (0, 0))
      Building.done (edges ++ [range.1, range.2, next], shared)
    let rec addGroups : List (List (List OctetRange)) → List Nat → Shared →
        Building (List Nat × Shared)
      | [], edges, shared => Building.done (edges, shared)
      | group :: groups, edges, shared => do
        let (edges, shared) ← addGroup group edges shared
        addGroups groups edges shared
    do
      let (edges, shared) ← addGroups groups [] shared
      sharedState 10000 edges (8 * groups.length) shared

/-- Add the states that take one sequence of octets backwards. -/
def addBackwards : List OctetRange → Nat → Shared → Building (Nat × Shared)
  | [], next, shared => Building.done (next, shared)
  | range :: rest, next, shared => do
    let (next, shared) ← sharedState 1000 [next, range.1, range.2] 0 shared
    addBackwards rest next shared

/-- Add the states that take some sequences of octets backwards. -/
def addAllBackwards (last : Nat) : List (List OctetRange) → Shared → Building Unit
  | [], _ => Building.done ()
  | sequence :: rest, shared => do
    let (_, shared) ← addBackwards sequence last shared
    Building.join true
    addAllBackwards last rest shared

/-- Add the states that take one ASCII character of a number of ranges. -/
def addAscii (ranges : Nat) : Building Bool := do
  let _ ← Building.state 0
  let _ ← Building.state (8 * ranges)
  return false

/-- Add the states that take one of some sequences of octets. -/
def addSequences (backwards : Bool) (sequences : List (List OctetRange)) : Building Bool :=
  if backwards then do
    Building.branch 0
    let last ← Building.state 0
    addAllBackwards last sequences {}
    return false
  else do
    let last ← Building.state 0
    let _ ← addForwards last 4 sequences {}
    return false

/-- Add the states that take one character of a set. -/
def addSet (backwards : Bool) (set : CharSet) : Building Bool :=
  if set.isAscii then addAscii set.ranges.length
  else addSequences backwards (set.ranges.flatMap octetSequences)

/-! ### Texts -/

/-- The texts up to each empty one, and those after the last. -/
def splitAtEmpty : List (List UInt8) → List (List (List UInt8))
  | [] => [[]]
  | [] :: rest => [] :: splitAtEmpty rest
  | text :: rest =>
    match splitAtEmpty rest with
    | first :: others => (text :: first) :: others
    | [] => [[text]]

/-- Add the states that take one of some texts. A text that ends here parts the texts before it from
those after it. The fuel is more than the length of the longest text. -/
def addTexts : Nat → List (List UInt8) → Building Unit
  | 0, _ => Building.done ()
  | fuel + 1, texts =>
    let chunks := splitAtEmpty texts
    let chunks :=
      if (chunks.head?.getD []).isEmpty then [] :: chunks.dropWhile List.isEmpty else chunks
    let addChunk := fun chunk : List (List UInt8) =>
      let letters := (chunk.filterMap List.head?).eraseDups
      let rec addLetters : List UInt8 → Building Unit
        | [] => Building.done ()
        | letter :: letters => do
          let rests := (chunk.filter fun text => text.head? == some letter).map List.tail
          if rests.all List.isEmpty then Building.done () else addTexts fuel rests
          addLetters letters
      do
        addLetters letters
        match letters.length with
        | 0 => Building.done ()
        | 1 => Building.plainStates 1
        | count => do
          let _ ← Building.state (8 * count)
          return ()
    let rec addChunks : List (List (List UInt8)) → Building Unit
      | [] => Building.done ()
      | chunk :: chunks => do
        addChunk chunk
        addChunks chunks
    do
      addChunks chunks
      Building.branch ((chunks.filter fun chunk => !chunk.isEmpty).length + (chunks.length - 1))

/-- Add the states that take one of some texts of octets. -/
def addChoiceOfTexts (texts : List (List UInt8)) : Building Bool := do
  Building.plainStates 1
  addTexts ((texts.map List.length).foldl max 0 + 1) texts
  return false

/-! ### Patterns -/

/-- Add one of some pieces. The branch to them stands after the first two. -/
def addChoice : List (Building Bool) → Building Bool
  | [] => Building.done false
  | [piece] => piece
  | first :: second :: others => do
    let branchesFirst ← first
    let branchesSecond ← second
    Building.branch (others.length + 2)
    Building.plainStates 1
    Building.join branchesFirst
    Building.join branchesSecond
    addOthers others
where
  /-- Add the pieces after the first two. -/
  addOthers : List (Building Bool) → Building Bool
    | [] => Building.done false
    | piece :: others => do
      let branches ← piece
      Building.join branches
      addOthers others

/-- Add a piece so many times more, given whether what stands before it ends in a branch. -/
def addMore (piece : Building Bool) : Nat → Bool → Building Bool
  | 0, branches => Building.done branches
  | count + 1, branches => fun machine =>
    match piece machine with
    | none => none
    | some (next, machine) =>
      match Building.join branches machine with
      | none => none
      | some (_, machine) => addMore piece count next machine

/-- Add a piece so many times; no times take one state. -/
def addTimes (piece : Building Bool) : Nat → Building Bool
  | 0 => do
    Building.plainStates 1
    return false
  | count + 1 => do
    let branches ← piece
    addMore piece count branches

/-- Add a piece up to so many times, with a way out before each. -/
def addUpTo (piece : Building Bool) : Nat → Bool → Building Bool
  | 0, branches => Building.done branches
  | count + 1, branches => fun machine =>
    match Building.branch 2 machine with
    | none => none
    | some (_, machine) =>
      match piece machine with
      | none => none
      | some (next, machine) =>
        match Building.join branches machine with
        | none => none
        | some (_, machine) => addUpTo piece count next machine

/-- Add a repetition of a piece, given whether every stretch that the piece matches holds
characters. -/
def addRepetition (piece : Building Bool) (holdsCharacters : Bool) (least : Nat)
    (most : Option Nat) : Building Bool :=
  match least, most with
  | 0, some 1 => do
    Building.branch 2
    let branches ← piece
    Building.plainStates 1
    Building.join branches
    return false
  | 0, none =>
    if holdsCharacters then do
      Building.branch 1
      let branches ← piece
      Building.join branches
      return true
    else do
      let branches ← piece
      Building.branch 2
      Building.join branches
      Building.branch 2
      Building.plainStates 1
      return false
  | least, none => do
    let before ← if least = 1 then Building.done false else addTimes piece (least - 1)
    let branches ← piece
    Building.branch 1
    Building.join before
    Building.join branches
    return true
  | least, some most =>
    if least = most then addTimes piece least
    else do
      let branches ← addTimes piece least
      Building.plainStates 1
      let branches ← addUpTo piece (most - least) branches
      Building.join branches
      return false

namespace Pattern

/-- The octets of a text. -/
def textOctets (backwards : Bool) (characters : List Char) : List UInt8 :=
  let octets := octetsOf (String.ofList characters)
  if backwards then octets.reverse else octets

/-- The texts that a choice is made from, if it is made from texts only. -/
def choiceTexts? (pattern : Pattern) : Option (List (List Char)) :=
  match pattern with
  | choice _ _ => pattern.alternatives.mapM fun
    | text characters => some characters
    | _ => none
  | _ => none

/-- The fewest characters of a stretch that matches; none where some part matches nothing. -/
def leastCharacters : Pattern → Option Nat
  | empty => some 0
  | text characters => some characters.length
  | one set => if set.ranges.isEmpty then none else some 1
  | place _ => some 0
  | group _ body => body.leastCharacters
  | sequence first second => do
    let first ← first.leastCharacters
    let second ← second.leastCharacters
    return first + second
  | choice first second => do
    let first ← first.leastCharacters
    let second ← second.leastCharacters
    return min first second
  | repetition body least _ _ => body.leastCharacters.map (· * least)

/-- Add a pattern, given how to add the patterns that it is a choice from. -/
def build (backwards : Bool) (pattern : Pattern) (pieces : List (Building Bool)) : Building Bool :=
  match pattern.choiceTexts? with
  | some texts => addChoiceOfTexts (texts.map (textOctets backwards))
  | none => addChoice pieces

/-- How to add each of the patterns that a pattern is a choice from. What is added tells whether it
ends in a branch. -/
def pieces (backwards : Bool) : Pattern → List (Building Bool)
  | empty => [addTimes (Building.done false) 0]
  | text characters =>
    let count := (textOctets backwards characters).length
    [do
      Building.plainStates count
      return false]
  | one set => [addSet backwards set]
  | place _ => [addTimes (Building.done false) 0]
  | group _ body =>
    let inside := build backwards body (body.pieces backwards)
    if backwards then [inside]
    else
      [do
        Building.plainStates 1
        let branches ← inside
        Building.plainStates 1
        Building.join branches
        return false]
  | sequence first second =>
    let first := build backwards first (first.pieces backwards)
    let second := build backwards second (second.pieces backwards)
    let (earlier, later) := if backwards then (second, first) else (first, second)
    [do
      let branchesEarlier ← earlier
      let branchesLater ← later
      Building.join branchesEarlier
      return branchesLater]
  | choice first second =>
    build backwards first (first.pieces backwards) :: second.pieces backwards
  | repetition body least most _ =>
    let piece := build backwards body (body.pieces backwards)
    [addRepetition piece (body.leastCharacters.any (0 < ·)) least most]

/-- Whether a stretch can match only where the text begins. -/
def isAtStart : Pattern → Bool
  | place assertion => assertion = .textStart
  | group _ body => body.isAtStart
  | sequence first second => first.isAtStart || (first.isEmptyOnly && second.isAtStart)
  | choice first second => first.isAtStart && second.isAtStart
  | repetition body least _ _ => 0 < least && body.isAtStart
  | _ => false

/-- Whether a stretch can match only where the text ends. -/
def isAtEnd : Pattern → Bool
  | place assertion => assertion = .textEnd
  | group _ body => body.isAtEnd
  | sequence first second => second.isAtEnd || (second.isEmptyOnly && first.isAtEnd)
  | choice first second => first.isAtEnd && second.isAtEnd
  | repetition body least _ _ => 0 < least && body.isAtEnd
  | _ => false

/-- Add a whole machine: what passes over the octets before a stretch, unless there are none, the
pattern as a group, and the state of a match. -/
def addMachine (backwards : Bool) (pattern : Pattern) : Building Unit := do
  if (if backwards then pattern.isAtEnd else pattern.isAtStart) then Building.plainStates 1
  else
    Building.branch 2
    let _ ← addAscii 1
  let whole := group 0 pattern
  let branches ← build backwards whole (whole.pieces backwards)
  Building.plainStates 1
  Building.join branches

/-- From how many texts on a choice of texts needs no machine. -/
def plainTextCount : Nat := 3000

/-- Whether neither machine of a pattern takes more room than allowed, or none is needed. -/
def isWithinLimit (pattern : Pattern) : Bool :=
  pattern.choiceTexts?.any (plainTextCount ≤ ·.length) ||
    ([false, true].all fun backwards => (pattern.addMachine backwards ⟨0, 0⟩).isSome)

end Pattern

end FeatureFlags
