import FeatureFlags.Instant.Basic
import FeatureFlags.Text.Blank

/-!
**The written form of an instant.**

An instant is written in universal time as `2024-04-17T19:40:53.716Z`, with no fraction or with
three, six or nine digits, as few as needed; a year outside of the four-digit ones has a sign.

Reading is more generous: numbers may be shorter than two digits and follow blanks, the date may be
separated from the time by `t` or a blank, and the offset may be `Z`, `UTC` or hours and minutes
with any colons or blanks between them. The second 60 is a leap second.

* `Instant.text`, `Instant.ofText?`.
-/

namespace FeatureFlags.Instant

/-! ### Writing -/

/-- A number with leading zeros up to a width. -/
def paddedDigits (width : Nat) (n : Nat) : List Char :=
  let digits := Nat.toDigits 10 n
  List.replicate (width - digits.length) '0' ++ digits

/-- A year, with a sign unless it has at most four digits. -/
def yearText (year : Int) : List Char :=
  if 0 ≤ year ∧ year ≤ 9999 then paddedDigits 4 year.toNat
  else (if year < 0 then '-' else '+') :: paddedDigits 4 year.natAbs

/-- A fraction of a second in nanoseconds, with as few groups of three digits as needed. -/
def fractionText (nanos : Nat) : List Char :=
  if nanos = 0 then []
  else if nanos % 1000000 = 0 then '.' :: paddedDigits 3 (nanos / 1000000)
  else if nanos % 1000 = 0 then '.' :: paddedDigits 6 (nanos / 1000)
  else '.' :: paddedDigits 9 nanos

/-- The text of an instant. -/
def text (instant : Instant) : String :=
  let date := dateOfDays instant.dayNumber
  let time := instant.secondOfDay.toNat
  let leap := if nanosPerSecond ≤ instant.nanos then 1 else 0
  String.ofList
    (yearText date.year ++ '-' :: paddedDigits 2 date.month ++ '-' :: paddedDigits 2 date.day ++
      'T' :: paddedDigits 2 (time / 3600) ++ ':' :: paddedDigits 2 (time / 60 % 60) ++
      ':' :: paddedDigits 2 (time % 60 + leap) ++
      fractionText (instant.nanos - leap * nanosPerSecond) ++ ['Z'])

/-! ### Reading -/

/-- The value of decimal digits. -/
def digitsValue (digits : List Char) : Nat :=
  digits.foldl (fun value c => value * 10 + (c.toNat - '0'.toNat)) 0

/-- A number of one digit up to `width` digits. -/
def takeShortNumber (width : Nat) (input : List Char) : Option (Nat × List Char) :=
  let digits := (input.take width).takeWhile Char.isDigit
  if digits.isEmpty then none else some (digitsValue digits, input.drop digits.length)

/-- A number of two digits at most, after white space. -/
def takePair (input : List Char) : Option (Nat × List Char) := takeShortNumber 2 (skipSpaces input)

/-- A year after white space: with a sign any number of digits, without one four at most. -/
def takeYear (input : List Char) : Option (Int × List Char) :=
  match skipSpaces input with
  | '-' :: rest => (takeShortNumber rest.length rest).map fun (n, after) => (-(n : Int), after)
  | '+' :: rest => (takeShortNumber rest.length rest).map fun (n, after) => ((n : Int), after)
  | rest => (takeShortNumber 4 rest).map fun (n, after) => ((n : Int), after)

/-- What follows a character, if the input begins with it after white space. -/
def takeMark (mark : Char) (input : List Char) : Option (List Char) :=
  match skipSpaces input with
  | c :: rest => if c = mark then some rest else none
  | [] => none

/-- A fraction of a second in nanoseconds; digits beyond the ninth are passed over. -/
def takeFraction (input : List Char) : Option (Nat × List Char) :=
  match input with
  | '.' :: rest =>
    let digits := rest.takeWhile Char.isDigit
    if digits.isEmpty then none
    else
      let kept := digits.take 9
      some (digitsValue kept * Nat.pow 10 (9 - kept.length), rest.drop digits.length)
  | _ => some (0, input)

/-- Exactly two digits. -/
def takeTwoDigits (input : List Char) : Option (Nat × List Char) :=
  match input with
  | a :: b :: rest => if a.isDigit && b.isDigit then some (digitsValue [a, b], rest) else none
  | _ => none

/-- A signed offset of hours and minutes, in seconds. -/
def takeSignedOffset (input : List Char) : Option (Int × List Char) := do
  let (sign, rest) ←
    match input with
    | '+' :: rest => some ((1 : Int), rest)
    | '-' :: rest => some (-1, rest)
    | '\u2212' :: rest => some (-1, rest)
    | _ => none
  let (hours, rest) ← takeTwoDigits rest
  let (minutes, rest) ← takeTwoDigits (rest.dropWhile fun c => c == ':' || isSpace c)
  if minutes < 60 then some (sign * ((hours * 3600 + minutes * 60 : Nat) : Int), rest) else none

/-- An offset from universal time, in seconds. -/
def takeOffset (input : List Char) : Option (Int × List Char) :=
  match input with
  | 'Z' :: rest => some (0, rest)
  | 'z' :: rest => some (0, rest)
  | a :: b :: c :: rest =>
    if [a, b, c].map Char.toUpper = ['U', 'T', 'C'] then some (0, rest) else takeSignedOffset input
  | _ => takeSignedOffset input

/-- The character between the date and the time. -/
def takeSeparator (input : List Char) : Option (List Char) :=
  match input with
  | c :: rest => if c = 'T' ∨ c = 't' ∨ c = ' ' then some rest else none
  | [] => none

/-- The instant that a text stands for. -/
def ofText? (text : String) : Option Instant := do
  let (year, rest) ← takeYear text.toList
  let rest ← takeMark '-' rest
  let (month, rest) ← takePair rest
  let rest ← takeMark '-' rest
  let (day, rest) ← takePair rest
  let rest ← takeSeparator rest
  let (hour, rest) ← takePair rest
  let rest ← takeMark ':' rest
  let (minute, rest) ← takePair rest
  let rest ← takeMark ':' rest
  let (second, rest) ← takePair rest
  let (fraction, rest) ← takeFraction rest
  let (offset, rest) ← takeOffset (skipSpaces rest)
  let date : Date := ⟨year, month, day⟩
  if (skipSpaces rest).isEmpty && date.isValid && decide (hour < 24) && decide (minute < 60) &&
      decide (second ≤ 60) && decide (offset.natAbs < 86400) then
    let leap := if second = 60 then 1 else 0
    ofSeconds?
      (daysFromDate date * secondsPerDay +
        ((hour * 3600 + minute * 60 + (second - leap) : Nat) : Int) - offset)
      (fraction + leap * nanosPerSecond)
  else none

end FeatureFlags.Instant
