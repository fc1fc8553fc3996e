import Defusal.Fault

/-!
# Dates and moments

Days of the calendar, and moments of a day that may say how far their clock is ahead of universal
time. Both are built from their parts and checked: the first part that is out of its range is the
fault. Written out, a moment leaves away the parts of a second that it does not have.
-/

namespace Defusal

/-- A day of a year from 1 to 9999. -/
structure Date where
  year : Nat
  month : Nat
  day : Nat
  deriving DecidableEq, Inhabited

/-- A moment of a day. `ahead?` is the distance of its clock from universal time in minutes, if the
moment tells it. -/
structure Moment where
  date : Date
  hour : Nat
  minute : Nat
  second : Nat
  microsecond : Nat
  ahead? : Option Int
  deriving DecidableEq, Inhabited

namespace Calendar

/-- A decimal numeral filled up with zeros to a width. -/
def padded (width n : Nat) : String :=
  let ds := Nat.toDigits 10 n
  String.ofList (List.replicate (width - ds.length) '0' ++ ds)

/-- Leap years are the fourth ones, but of the hundredth ones only the four hundredth. -/
def isLeap (year : Nat) : Bool := year % 4 == 0 && (year % 100 != 0 || year % 400 == 0)

/-- The days of the months of a year without a leap day. -/
def monthLengths : List Nat := [31, 28, 31, 30, 31, 30, 31, 31, 30, 31, 30, 31]

/-- The number of days of a month. -/
def daysIn (year month : Nat) : Nat :=
  if month = 2 && isLeap year then 29 else monthLengths.getD (month - 1) 0

/-- The minutes of a day. -/
def dayMinutes : Nat := 1440

/-- A distance in minutes as whole days, counted down for a negative one, and the seconds left. -/
def daysAndSeconds (minutes : Int) : Int × Nat :=
  (Int.fdiv minutes dayMinutes, (Int.fmod minutes dayMinutes).toNat * 60)

/-- A distance in minutes as it is written down: whole days and seconds, either of them only if it
is not zero. -/
def distanceLiteral (minutes : Int) : String :=
  let (days, seconds) := daysAndSeconds minutes
  let parts := (if days = 0 then [] else [s!"days={days}"])
    ++ (if seconds = 0 then [] else [s!"seconds={seconds}"])
  "datetime.timedelta(" ++ (if parts.isEmpty then "0" else ", ".intercalate parts) ++ ")"

end Calendar

open Calendar

namespace Date

/-- The date of some numbers. -/
def ofNumbers (year month day : Nat) : Except Fault Date :=
  if year < 1 || 9999 < year then .error (.yearOutOfRange year)
  else if month < 1 || 12 < month then .error .monthOutOfRange
  else if day < 1 || daysIn year month < day then .error .dayOutOfRange
  else .ok ⟨year, month, day⟩

/-- A date as it is shown: its numbers from the year on, with dashes. -/
def text (d : Date) : String := padded 4 d.year ++ "-" ++ padded 2 d.month ++ "-" ++ padded 2 d.day

/-- A date as it is written down. -/
def literal (d : Date) : String := s!"datetime.date({d.year}, {d.month}, {d.day})"

end Date

namespace Moment

/-- The moment of some numbers. A clock is less than a day away from universal time. -/
def ofNumbers (year month day hour minute second microsecond : Nat) (ahead? : Option Int) :
    Except Fault Moment := do
  if let some m := ahead? then
    if dayMinutes ≤ m.natAbs then .error (.clockOutOfRange (distanceLiteral m))
  let date ← Date.ofNumbers year month day
  if 23 < hour then .error .hourOutOfRange
  else if 59 < minute then .error .minuteOutOfRange
  else if 59 < second then .error .secondOutOfRange
  else return ⟨date, hour, minute, second, microsecond, ahead?⟩

/-- A distance from universal time as it is shown. -/
def aheadText (minutes : Int) : String :=
  (if minutes < 0 then "-" else "+") ++ padded 2 (minutes.natAbs / 60) ++ ":"
    ++ padded 2 (minutes.natAbs % 60)

/-- A moment as it is shown. -/
def text (m : Moment) : String :=
  m.date.text ++ " " ++ padded 2 m.hour ++ ":" ++ padded 2 m.minute ++ ":" ++ padded 2 m.second
    ++ (if m.microsecond = 0 then "" else "." ++ padded 6 m.microsecond)
    ++ (m.ahead?.map aheadText).getD ""

/-- The numbers of a moment from the year on; seconds and their parts only up to the last that is
not zero. -/
def numbers (m : Moment) : List Nat :=
  [m.date.year, m.date.month, m.date.day, m.hour, m.minute]
    ++ (if m.second = 0 && m.microsecond = 0 then [] else [m.second])
    ++ (if m.microsecond = 0 then [] else [m.microsecond])

/-- A distance from universal time as it is written down. -/
def aheadLiteral (minutes : Int) : String :=
  if minutes = 0 then "datetime.timezone.utc"
  else "datetime.timezone(" ++ distanceLiteral minutes ++ ")"

/-- A moment as it is written down. -/
def literal (m : Moment) : String :=
  let clock := match m.ahead? with
    | none => []
    | some minutes => ["tzinfo=" ++ aheadLiteral minutes]
  "datetime.datetime(" ++ ", ".intercalate (m.numbers.map Nat.repr ++ clock) ++ ")"

/-- The number of the day that a date is, with the same distance between days everywhere. -/
def dayNumber (d : Date) : Nat :=
  let before := d.year - 1
  before * 365 + before / 4 - before / 100 + before / 400
    + (List.range (d.month - 1)).foldl (fun days m => days + daysIn d.year (m + 1)) 0 + d.day

/-- The minutes from a fixed day on, by universal time if the moment tells the distance from it. -/
def minutesSinceStart (m : Moment) : Int :=
  (dayNumber m.date * dayMinutes + m.hour * 60 + m.minute : Nat) - m.ahead?.getD 0

/-- Whether two moments are the same: both with a known distance from universal time, or both
without. -/
def same (m n : Moment) : Bool :=
  m.ahead?.isSome == n.ahead?.isSome && m.minutesSinceStart == n.minutesSinceStart
    && m.second == n.second && m.microsecond == n.microsecond

example : (Moment.mk ⟨2001, 12, 14⟩ 21 59 43 100000 (some (-300))).text
    = "2001-12-14 21:59:43.100000-05:00" := by
  decide +kernel

end Moment

end Defusal
