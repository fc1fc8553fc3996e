import Defusal.Datum.Basic
import Defusal.Text.Digit

/-!
# Timestamps

A timestamp is a date of three numbers with dashes between them, and after a `T` or blanks possibly
a time of day: hours, minutes and seconds with colons between them, parts of a second, and the
distance from universal time, for which a `Z` says that there is none. Without a time of day it
stands for a date, otherwise for a moment.
-/

namespace Defusal.Yaml

/-- The time of day in a timestamp. The distance from universal time is in minutes. -/
structure TimeOfDay where
  hour : Nat
  minute : Nat
  second : Nat
  microsecond : Nat
  ahead? : Option Int

/-- The numbers of a timestamp, which need not be those of a date that there is. -/
structure Timestamp where
  year : Nat
  month : Nat
  day : Nat
  time? : Option TimeOfDay

namespace Timestamp

/-- The value of some digits. -/
def number (ds : List Char) : Nat := ds.foldl (fun n d => n * 10 + (d.toNat - '0'.toNat)) 0

/-- Reads a number of some digits. -/
def takeNumber (least most : Nat) (cs : List Char) : Option (Nat × List Char) :=
  let ds := (cs.take most).takeWhile Text.isAsciiDigit
  if least ≤ ds.length then some (number ds, cs.drop ds.length) else none

/-- Reads one character. -/
def takeMark (mark : Char) : List Char → Option (List Char)
  | c :: cs => if c = mark then some cs else none
  | [] => none

/-- A space or a tab. -/
def isSpace (c : Char) : Bool := c == ' ' || c == '\t'

/-- The millionths of a second that some digits after a point stand for. -/
def microseconds (ds : List Char) : Nat :=
  number (ds.take 6 ++ List.replicate (6 - ds.length) '0')

/-- Reads the distance from universal time, to the end of the text. -/
def takeAhead (cs : List Char) : Option (Option Int) :=
  match cs.dropWhile isSpace with
  | [] => if cs.isEmpty then some none else none
  | ['Z'] => some (some 0)
  | sign :: rest => do
    guard (sign == '+' || sign == '-')
    let (hours, rest) ← takeNumber 1 2 rest
    let minutes ← match rest with
      | [] => some 0
      | _ => do
        let (minutes, rest) ← takeNumber 2 2 (← takeMark ':' rest)
        guard rest.isEmpty
        pure minutes
    let distance : Int := (hours * 60 + minutes : Nat)
    pure (some (if sign == '-' then -distance else distance))

/-- Reads the time of day, to the end of the text. -/
def takeTime (cs : List Char) : Option TimeOfDay := do
  let (hour, cs) ← takeNumber 1 2 cs
  let (minute, cs) ← takeNumber 2 2 (← takeMark ':' cs)
  let (second, cs) ← takeNumber 2 2 (← takeMark ':' cs)
  let (microsecond, cs) := match cs with
    | '.' :: rest =>
      (microseconds (rest.takeWhile Text.isAsciiDigit), rest.dropWhile Text.isAsciiDigit)
    | _ => (0, cs)
  pure ⟨hour, minute, second, microsecond, ← takeAhead cs⟩

/-- Reads a whole text as a timestamp. -/
def ofChars? (cs : List Char) : Option Timestamp := do
  let (year, cs) ← takeNumber 4 4 cs
  let (month, cs) ← takeNumber 1 2 (← takeMark '-' cs)
  let (day, cs) ← takeNumber 1 2 (← takeMark '-' cs)
  match cs with
  | [] => pure ⟨year, month, day, none⟩
  | 'T' :: cs | 't' :: cs => pure ⟨year, month, day, some (← takeTime cs)⟩
  | c :: cs => do
    guard (isSpace c)
    pure ⟨year, month, day, some (← takeTime (cs.dropWhile isSpace))⟩

/-- The length of a date whose month and day have two digits. -/
def dateLength : Nat := 10

/-- Whether a text is a timestamp of itself; then a date alone has two digits for month and day. -/
def isPlain (cs : List Char) : Bool :=
  match ofChars? cs with
  | some t => t.time?.isSome || cs.length == dateLength
  | none => false

/-- The date or moment of a timestamp. -/
def value (t : Timestamp) : Except Fault Datum :=
  match t.time? with
  | none => do return .date (← Date.ofNumbers t.year t.month t.day)
  | some time => do
    return .moment (← Moment.ofNumbers t.year t.month t.day time.hour time.minute time.second
      time.microsecond time.ahead?)

end Timestamp

end Defusal.Yaml
