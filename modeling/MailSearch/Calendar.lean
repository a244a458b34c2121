import MailSearch.Fault
import MailSearch.Numeric.Decimal
import MailSearch.Unicode.DecimalDigit

/-!
# The calendar

Dates of the proleptic Gregorian calendar, their number as signed days from 1970-01-01
and back, date literals, and instants of UTC as they are shown. Dates are those of the
years 1 to 9999.
-/

namespace MailSearch

/-- A day of the calendar. -/
structure Date where
  year : Int
  month : Nat
  day : Nat
  deriving DecidableEq, Repr, Inhabited

namespace Date

/-- Every fourth year is a leap year, but of the full centuries only every fourth. -/
def isLeapYear (year : Int) : Bool :=
  year % 4 = 0 && (year % 100 ≠ 0 || year % 400 = 0)

/-- The lengths of a year's months. -/
def monthLengths (year : Int) : List Nat :=
  [31, if isLeapYear year then 29 else 28, 31, 30, 31, 30, 31, 31, 30, 31, 30, 31]

/-- The days from 0001-01-01 to the first day of a year. -/
def daysBeforeYear (year : Int) : Int :=
  let past := year - 1
  365 * past + past / 4 - past / 100 + past / 400

/-- The days from 0001-01-01 to 1970-01-01. -/
def epoch : Int := 719162

/-- The days from a year's first day to the first day of a month. -/
def daysBeforeMonth (year : Int) (month : Nat) : Nat :=
  total ((monthLengths year).take (month - 1))

/-- The signed number of days from 1970-01-01. -/
def toDays (d : Date) : Int :=
  daysBeforeYear d.year + daysBeforeMonth d.year d.month + (d.day - 1 : Nat) - epoch

/-- Whether the calendar has the day, within the years 1 to 9999. -/
def isReal (d : Date) : Bool :=
  1 ≤ d.year && d.year ≤ 9999 && 1 ≤ d.month && 1 ≤ d.day &&
    match (monthLengths d.year)[d.month - 1]? with
    | some length => decide (d.day ≤ length)
    | none => false

/-- The month and day of a day of the year, both from 1, found by walking the months. -/
def monthAndDay (month : Nat) : List Nat → Nat → Nat × Nat
  | [], rest => (month, rest + 1)
  | length :: lengths, rest =>
      if rest < length then (month, rest + 1) else monthAndDay (month + 1) lengths (rest - length)

/-- The date that lies a signed number of days from 1970-01-01. Whole cycles of 400, 100,
4 and 1 years are taken off in turn; the last cycle of 100 years and the last year of
four may be one day longer than the others. -/
def ofDays (days : Int) : Date :=
  let n := days + epoch
  let cycle := n % 146097
  let century := min 3 (cycle / 36524)
  let inCentury := cycle - 36524 * century
  let olympiad := inCentury / 1461
  let inOlympiad := inCentury % 1461
  let single := min 3 (inOlympiad / 365)
  let year := 400 * (n / 146097) + 100 * century + 4 * olympiad + single + 1
  let found := monthAndDay 1 (monthLengths year) (inOlympiad - 365 * single).toNat
  ⟨year, found.1, found.2⟩

/-- Milliseconds in a day. -/
def millisPerDay : Int := 86400000

/-- The milliseconds from the epoch to a date's midnight. -/
def toMillis (d : Date) : Int := d.toDays * millisPerDay

/-- A number written with decimal digits of any script. -/
def readNumber? (cs : List Char) : Option Nat :=
  cs.foldlM (fun n c ↦ (Unicode.digitValue? c).map (10 * n + ·)) 0

/-- Whether a character may stand between the parts of a date literal. -/
def isSeparator (c : Char) : Bool := c = '-' || c = '/'

/-- A list without one line feed at its end. -/
def dropFinalNewline (cs : List Char) : List Char :=
  if cs.getLast? = some '\n' then cs.dropLast else cs

/-- The numbers of a text shaped like a date: four digits, two and two, with separators
between them and perhaps a line feed at the end. -/
def readShape? (cs : List Char) : Option Date :=
  match dropFinalNewline cs with
  | [y₁, y₂, y₃, y₄, s, m₁, m₂, t, d₁, d₂] =>
      if isSeparator s && isSeparator t then do
        let year ← readNumber? [y₁, y₂, y₃, y₄]
        let month ← readNumber? [m₁, m₂]
        let day ← readNumber? [d₁, d₂]
        return ⟨year, month, day⟩
      else none
  | _ => none

/-- The date that a literal names, if there is such a day. -/
def ofLiteral? (text : String) : Option Date :=
  (readShape? text.toList).filter isReal

/-- The milliseconds of the midnight that a date literal names. -/
def readMillis? (text : String) : Option Int := (ofLiteral? text).map toMillis

end Date

/-- A point of time in UTC: whole seconds from the epoch and microseconds beyond them. -/
structure Instant where
  seconds : Int
  micros : Nat
  deriving DecidableEq, Repr, Inhabited

namespace Instant

/-- The date of an instant. -/
def date (t : Instant) : Date := Date.ofDays (t.seconds / 86400)

/-- The second of the day of an instant. -/
def secondOfDay (t : Instant) : Nat := (t.seconds % 86400).toNat

/-- The clock takes counts of seconds up to this one. -/
def clockBound : Int := 0x8000000000000000

/-- The host's calendar counts years from 1900 in 32 bits. -/
def yearBound : Int := 0x80000000

/-- Refuse what the clock, the host's calendar or the years 1 to 9999 do not hold. -/
def checkRange (seconds : Int) : Except Fault Unit :=
  if seconds < -clockBound ∨ clockBound < seconds then .error .instantOutOfRange
  else
    let year := (Date.ofDays (seconds / 86400)).year
    if year - 1900 < -yearBound ∨ yearBound ≤ year - 1900 then .error .calendarOutOfRange
    else if year < 1 ∨ 9999 < year then .error (.yearOutOfRange year)
    else .ok ()

/-- The instant of a count of seconds: the fraction counts in microseconds, rounded with
a tie to the even one; a negative fraction borrows a second. -/
def ofSeconds (negative : Bool) (steps : Nat) : Instant :=
  let whole : Int := (steps / Binary64.stepsPerUnit : Nat)
  let fraction := steps % Binary64.stepsPerUnit
  let micros := roundEven (Binary64.roundSteps (fraction * 1000000) 1) Binary64.stepsPerUnit
  if negative then
    if micros = 0 then ⟨-whole, 0⟩ else ⟨-whole - 1, 1000000 - micros⟩
  else if micros < 1000000 then ⟨whole, micros⟩
  else ⟨whole + 1, micros - 1000000⟩

/-- The instant of a count of milliseconds, by way of the floating-point seconds. -/
def ofMillis (millis : Int) : Except Fault Instant :=
  match Binary64.quotient? millis 1000 with
  | some (.finite negative steps) =>
      let t := ofSeconds negative steps
      (checkRange t.seconds).map fun _ ↦ t
  | _ => .error .ratioTooLarge

/-- Hours, minutes and seconds of an instant's day. -/
def clock (t : Instant) : Nat × Nat × Nat :=
  let s := t.secondOfDay
  (s / 3600, s / 60 % 60, s % 60)

/-- The text of an instant in full: date, time, six places of seconds unless they are
zero, and `Z`. -/
def isoText (t : Instant) : String :=
  let (hour, minute, second) := t.clock
  let fraction := if t.micros = 0 then "" else "." ++ zeroPadded 6 t.micros
  zeroPadded 4 t.date.year.toNat ++ "-" ++ zeroPadded 2 t.date.month ++ "-" ++
    zeroPadded 2 t.date.day ++ "T" ++ zeroPadded 2 hour ++ ":" ++ zeroPadded 2 minute ++ ":" ++
    zeroPadded 2 second ++ fraction ++ "Z"

/-- The text of an instant to the minute; the year stands without zeros in front. -/
def minuteText (t : Instant) : String :=
  let (hour, minute, _) := t.clock
  integerText t.date.year ++ "-" ++ zeroPadded 2 t.date.month ++ "-" ++
    zeroPadded 2 t.date.day ++ " " ++ zeroPadded 2 hour ++ ":" ++ zeroPadded 2 minute

end Instant

/-- The full text of a count of milliseconds. -/
def isoOfMillis (millis : Int) : Except Fault String :=
  (Instant.ofMillis millis).map Instant.isoText

/-- The text of a count of milliseconds to the minute in the host's time zone, which is taken
to be UTC. The day before must be one of the calendar's days too. -/
def minuteOfMillis (millis : Int) : Except Fault String := do
  let t ← Instant.ofMillis millis
  Instant.checkRange (t.seconds - 86400)
  return t.minuteText

end MailSearch
