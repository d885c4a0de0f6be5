import ChatDice.Text.Numeral

/-!
Dates and times of day, checked against the calendar, and their written forms.
-/

namespace ChatDice

structure Date where
  year : Nat
  month : Nat
  day : Nat
  deriving DecidableEq, Repr

/-- A date with a time of day; the offset from universal time is in minutes. -/
structure Moment where
  date : Date
  hour : Nat
  minute : Nat
  second : Nat
  microsecond : Nat
  offset : Option Int
  deriving DecidableEq, Repr

namespace Date

/-- What is wrong with the numbers of a date or a time. -/
inductive Error
  | year (given : Nat)
  | month
  | day
  | hour
  | minute
  | second
  | offset (minutes : Int)
  deriving DecidableEq, Repr

def isLeap (year : Nat) : Bool := year % 4 == 0 && (year % 100 != 0 || year % 400 == 0)

def daysInMonth (year month : Nat) : Nat :=
  if month = 2 then (if isLeap year then 29 else 28)
  else if month = 4 || month = 6 || month = 9 || month = 11 then 30 else 31

/-- Year, month and day are checked in this order. -/
def check (d : Date) : Except Error Date :=
  if d.year = 0 then .error (.year 0)
  else if d.month = 0 || 12 < d.month then .error .month
  else if d.day = 0 || daysInMonth d.year d.month < d.day then .error .day
  else .ok d

/-- The number of the days before a date since the start of year one. -/
def dayNumber (d : Date) : Nat :=
  let years := d.year - 1
  let months := (List.range (d.month - 1)).map fun month => daysInMonth d.year (month + 1)
  years * 365 + years / 4 - years / 100 + years / 400 + months.sum + (d.day - 1)

/-- Year, month and day with hyphens between them. -/
def iso (d : Date) : Text :=
  Numeral.padded 4 d.year ++ "-" ++ Numeral.padded 2 d.month ++ "-" ++ Numeral.padded 2 d.day

private def numbers (d : Date) : List Text := [d.year, d.month, d.day].map Numeral.ofNat

def quoted (d : Date) : Text := "datetime.date(" ++ Text.join ", " d.numbers ++ ")"

end Date

namespace Moment

/-- The offset is checked before the date, and the date before the time of day. -/
def check (m : Moment) : Except Date.Error Moment := do
  match m.offset with
  | some minutes => if 1440 ≤ minutes.natAbs then throw (.offset minutes)
  | none => pure ()
  let _ ← m.date.check
  if 23 < m.hour then throw .hour
  if 59 < m.minute then throw .minute
  if 59 < m.second then throw .second
  return m

/-- The microseconds since the start of year one, as the clock at the moment's place shows them. -/
def localTime (m : Moment) : Int :=
  (((m.date.dayNumber * 24 + m.hour) * 60 + m.minute) * 60 + m.second) * 1000000 + m.microsecond

/-- Moments with an offset are equal if they are so in universal time; one without an offset
equals only those without one that show the same. -/
def isSame (a b : Moment) : Bool :=
  match a.offset, b.offset with
  | none, none => a == b
  | some i, some j => a.localTime - i * 60000000 == b.localTime - j * 60000000
  | _, _ => false

/-- An offset as a sign, hours and minutes. -/
def offsetText : Option Int → Text
  | none => []
  | some minutes =>
    let sign : Text := if minutes < 0 then "-" else "+"
    sign ++ Numeral.padded 2 (minutes.natAbs / 60) ++ ":" ++ Numeral.padded 2 (minutes.natAbs % 60)

/-- Six digits of a second are written unless they are all zero. -/
def iso (separator : Text) (m : Moment) : Text :=
  let fraction : Text := if m.microsecond = 0 then "" else "." ++ Numeral.padded 6 m.microsecond
  m.date.iso ++ separator ++ Numeral.padded 2 m.hour ++ ":" ++ Numeral.padded 2 m.minute ++ ":"
    ++ Numeral.padded 2 m.second ++ fraction ++ offsetText m.offset

/-- A span of minutes in whole days and the seconds beyond them. -/
private def spanQuoted (minutes : Int) : Text :=
  let days := minutes.fdiv 1440
  let seconds := minutes.fmod 1440 * 60
  let dayPart : List Text := if days = 0 then [] else ["days=" ++ Numeral.ofInt days]
  let secondPart : List Text := if seconds = 0 then [] else ["seconds=" ++ Numeral.ofInt seconds]
  let parts := dayPart ++ secondPart
  let inside : Text := if parts.isEmpty then "0" else Text.join ", " parts
  "datetime.timedelta(" ++ inside ++ ")"

def quoted (m : Moment) : Text :=
  let time : List Nat :=
    if m.microsecond != 0 then [m.second, m.microsecond]
    else if m.second != 0 then [m.second] else []
  let numbers := m.date.numbers ++ ([m.hour, m.minute] ++ time).map Numeral.ofNat
  let zone : List Text := match m.offset with
    | none => []
    | some 0 => ["tzinfo=datetime.timezone.utc"]
    | some minutes => ["tzinfo=datetime.timezone(" ++ spanQuoted minutes ++ ")"]
  "datetime.datetime(" ++ Text.join ", " (numbers ++ zone) ++ ")"

end Moment

def Date.Error.message : Date.Error → Text
  | .year given => "year " ++ Numeral.ofNat given ++ " is out of range"
  | .month => "month must be in 1..12"
  | .day => "day is out of range for month"
  | .hour => "hour must be in 0..23"
  | .minute => "minute must be in 0..59"
  | .second => "second must be in 0..59"
  | .offset minutes =>
    "offset must be a timedelta strictly between -timedelta(hours=24) and timedelta(hours=24), not "
      ++ Moment.spanQuoted minutes ++ "."

end ChatDice
