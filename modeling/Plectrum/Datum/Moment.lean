/-
  Plectrum.Datum.Moment
  ─────────────────────
  **Dates, alone or with a time of day.**

  A document may hold dates.  A moment is a day of the calendar, with or without a
  time of day, and the time may say how far it is ahead of universal time.  A moment
  has two texts: `shown` stands by itself, `written` names the kind and lists the parts.
-/
import Plectrum.Binary64.Decimal

namespace Plectrum

/-- A time of day. -/
structure TimeOfDay where
  hour : Nat
  minute : Nat
  second : Nat
  microsecond : Nat
  /-- The minutes ahead of universal time, if they are known. -/
  ahead : Option Int
  deriving Repr, DecidableEq

/-- A day of the calendar, or a time on it. -/
structure Moment where
  year : Nat
  month : Nat
  day : Nat
  time : Option TimeOfDay
  deriving Repr, DecidableEq

/-- What is wrong with the parts of a moment. -/
inductive MomentFlaw where
  | year (n : Nat)
  | month
  | day
  | hour
  | minute
  | second
  /-- A day or more ahead of universal time, or behind it. -/
  | ahead (minutes : Int)
  deriving Repr, DecidableEq

/-! ## §1. The calendar. -/

namespace Moment

/-- Every fourth year is a leap year, but of the centuries only every fourth. -/
def isLeap (year : Nat) : Bool := year % 4 == 0 && (year % 100 != 0 || year % 400 == 0)

/-- The number of days of a month. -/
def daysOf (year month : Nat) : Nat :=
  if month = 2 then (if isLeap year then 29 else 28)
  else if month ∈ [4, 6, 9, 11] then 30
  else 31

/-- The minutes of a day. -/
def dayMinutes : Nat := 24 * 60

/-- The first flaw of a moment: in its distance from universal time, its day or its time. -/
def flaw? (m : Moment) : Option MomentFlaw :=
  let ofAhead := (m.time.bind (·.ahead)).bind fun minutes =>
    if minutes.natAbs < dayMinutes then none else some (MomentFlaw.ahead minutes)
  let ofDay :=
    if m.year < 1 ∨ 9999 < m.year then some (MomentFlaw.year m.year)
    else if m.month < 1 ∨ 12 < m.month then some .month
    else if m.day < 1 ∨ daysOf m.year m.month < m.day then some .day
    else none
  let ofTime := m.time.bind fun t =>
    if 23 < t.hour then some MomentFlaw.hour
    else if 59 < t.minute then some .minute
    else if 59 < t.second then some .second
    else none
  ofAhead.or (ofDay.or ofTime)

/-- The days before a year. -/
def daysBefore (year : Nat) : Nat :=
  let past := year - 1
  365 * past + past / 4 - past / 100 + past / 400

/-- The number of a day, the first day of the year one being number one. -/
def dayNumber (m : Moment) : Nat :=
  (List.range (m.month - 1)).foldl (fun n month => n + daysOf m.year (month + 1))
    (daysBefore m.year) + m.day

/-- The microseconds of universal time up to a time, if its zone is known. -/
def instant? (m : Moment) : Option Int := do
  let t ← m.time
  let minutes : Int := dayMinutes * m.dayNumber + 60 * t.hour + t.minute - (← t.ahead)
  return (60 * minutes + t.second) * 1000000 + t.microsecond

/-- Whether moments are the same: times with zones are if they name one instant. -/
def same (m n : Moment) : Bool :=
  match m.instant?, n.instant? with
  | some a, some b => a == b
  | none, none => m == n
  | _, _ => false

/-! ## §2. Text. -/

/-- Numbers with commas between them. -/
def listed (ns : List Nat) : String := ", ".intercalate (ns.map toString)

/-- A stretch of minutes, as days and a rest of seconds that is not negative. -/
def stretchText (minutes : Int) : String :=
  let days := minutes / dayMinutes
  let seconds := minutes % dayMinutes * 60
  let parts :=
    (if days = 0 then [] else ["days=" ++ toString days])
      ++ (if seconds = 0 then [] else ["seconds=" ++ toString seconds])
  "datetime.timedelta(" ++ (if parts.isEmpty then "0" else ", ".intercalate parts) ++ ")"

/-- The zone of a time, with its kind. -/
def zoneText (minutes : Int) : String :=
  if minutes = 0 then "datetime.timezone.utc"
  else "datetime.timezone(" ++ stretchText minutes ++ ")"

/-- The numbers of a time; seconds and their fraction are left out when nothing but zeros follows. -/
def timeParts (t : TimeOfDay) : List Nat :=
  if t.microsecond ≠ 0 then [t.hour, t.minute, t.second, t.microsecond]
  else if t.second ≠ 0 then [t.hour, t.minute, t.second]
  else [t.hour, t.minute]

/-- The name of the kind of a moment. -/
def kindName (m : Moment) : String := if m.time.isNone then "date" else "datetime"

/-- The text of a moment among other data: its kind and its parts. -/
def written (m : Moment) : String :=
  let day := [m.year, m.month, m.day]
  match m.time with
  | none => "datetime.date(" ++ listed day ++ ")"
  | some t =>
    let zone :=
      match t.ahead with
      | none => ""
      | some minutes => ", tzinfo=" ++ zoneText minutes
    "datetime.datetime(" ++ listed (day ++ timeParts t) ++ zone ++ ")"

/-- A number with two digits. -/
def twoDigits (n : Nat) : String := Binary64.padded 2 n

/-- How far a time is ahead of universal time: a sign, hours and minutes. -/
def aheadText (minutes : Int) : String :=
  (if minutes < 0 then "-" else "+") ++ twoDigits (minutes.natAbs / 60) ++ ":"
    ++ twoDigits (minutes.natAbs % 60)

/-- A time by itself. -/
def timeText (t : TimeOfDay) : String :=
  twoDigits t.hour ++ ":" ++ twoDigits t.minute ++ ":" ++ twoDigits t.second
    ++ (if t.microsecond = 0 then "" else "." ++ Binary64.padded 6 t.microsecond)
    ++ ((t.ahead.map aheadText).getD "")

/-- The text of a moment by itself. -/
def shown (m : Moment) : String :=
  Binary64.padded 4 m.year ++ "-" ++ twoDigits m.month ++ "-" ++ twoDigits m.day
    ++ ((m.time.map fun t => " " ++ timeText t).getD "")

end Moment

/-- The message of a flaw. -/
def MomentFlaw.message : MomentFlaw → String
  | .year n => "year " ++ toString n ++ " is out of range"
  | .month => "month must be in 1..12"
  | .day => "day is out of range for month"
  | .hour => "hour must be in 0..23"
  | .minute => "minute must be in 0..59"
  | .second => "second must be in 0..59"
  | .ahead minutes =>
    "offset must be a timedelta strictly between -timedelta(hours=24) and timedelta(hours=24), not "
      ++ Moment.stretchText minutes ++ "."

example : (⟨2001, 12, 14, none⟩ : Moment).shown = "2001-12-14" := by decide +kernel
example : (⟨2001, 1, 1, some ⟨0, 30, 0, 0, some 60⟩⟩ : Moment).same
    ⟨2000, 12, 31, some ⟨23, 30, 0, 0, some 0⟩⟩ = true := by decide +kernel
example : (⟨1900, 2, 29, none⟩ : Moment).flaw? = some .day := by decide +kernel

end Plectrum
