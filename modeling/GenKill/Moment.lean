namespace GenKill

structure Day where
  year : Nat
  month : Nat
  day : Nat
  deriving DecidableEq, Repr

structure Moment where
  date : Day
  hour : Nat
  minute : Nat
  second : Nat
  micro : Nat := 0
  offset : Option Int := none
  deriving DecidableEq, Repr

inductive CalendarError where
  | year (given : Nat)
  | month
  | day
  | hour
  | minute
  | second
  | offset (seconds : Int)
  deriving DecidableEq, Repr

namespace Day

def padded (width n : Nat) : String :=
  let digits := Nat.toDigits 10 n
  String.ofList (List.replicate (width - digits.length) '0' ++ digits)

def isLeap (year : Nat) : Bool := year % 4 == 0 && (year % 100 != 0 || year % 400 == 0)

def daysIn (year month : Nat) : Nat :=
  if month == 2 then (if isLeap year then 29 else 28)
  else if [4, 6, 9, 11].contains month then 30
  else 31

def check (d : Day) : Except CalendarError Unit := do
  if d.year < 1 || d.year > 9999 then throw (.year d.year)
  if d.month < 1 || d.month > 12 then throw .month
  if d.day < 1 || d.day > daysIn d.year d.month then throw .day

def number (d : Day) : Nat :=
  let years := d.year - 1
  let months := (List.range (d.month - 1)).map fun m => daysIn d.year (m + 1)
  365 * years + years / 4 - years / 100 + years / 400 + months.foldl (· + ·) 0 + (d.day - 1)

def text (d : Day) : String := s!"{padded 4 d.year}-{padded 2 d.month}-{padded 2 d.day}"

def shown (d : Day) : String := s!"datetime.date({d.year}, {d.month}, {d.day})"

end Day

def shownSpan (seconds : Int) : String :=
  let days := seconds.fdiv 86400
  let rest := seconds.fmod 86400
  let parts := (if days = 0 then [] else [s!"days={days}"]) ++
    if rest = 0 then [] else [s!"seconds={rest}"]
  "datetime.timedelta(" ++ (if parts.isEmpty then "0" else ", ".intercalate parts) ++ ")"

namespace Moment

open Day (padded)

def check (m : Moment) : Except CalendarError Unit := do
  match m.offset with
  | some s => if s.natAbs ≥ 86400 then throw (.offset s)
  | none => pure ()
  m.date.check
  if m.hour > 23 then throw .hour
  if m.minute > 59 then throw .minute
  if m.second > 59 then throw .second

def localTime (m : Moment) : Int :=
  ((((m.date.number * 24 + m.hour) * 60 + m.minute) * 60 + m.second) * 1000000 + m.micro : Nat)

def universalTime (m : Moment) (offset : Int) : Int := m.localTime - offset * 1000000

def offsetText (seconds : Int) : String :=
  let minutes := seconds.natAbs / 60
  (if seconds < 0 then "-" else "+") ++ s!"{padded 2 (minutes / 60)}:{padded 2 (minutes % 60)}"

def text (m : Moment) : String :=
  s!"{m.date.text} {padded 2 m.hour}:{padded 2 m.minute}:{padded 2 m.second}" ++
    (if m.micro = 0 then "" else s!".{padded 6 m.micro}") ++ m.offset.elim "" offsetText

def shownOffset (seconds : Int) : String :=
  if seconds = 0 then "datetime.timezone.utc" else s!"datetime.timezone({shownSpan seconds})"

def shown (m : Moment) : String :=
  let d := m.date
  let fields := [d.year, d.month, d.day, m.hour, m.minute] ++
    (if m.second = 0 && m.micro = 0 then [] else [m.second]) ++
    if m.micro = 0 then [] else [m.micro]
  let parts := fields.map toString ++
    (m.offset.map fun s => s!"tzinfo={shownOffset s}").toList
  "datetime.datetime(" ++ ", ".intercalate parts ++ ")"

end Moment

def CalendarError.message : CalendarError → String
  | year given => s!"year {given} is out of range"
  | month => "month must be in 1..12"
  | day => "day is out of range for month"
  | hour => "hour must be in 0..23"
  | minute => "minute must be in 0..59"
  | second => "second must be in 0..59"
  | offset seconds => "offset must be a timedelta strictly between -timedelta(hours=24) and " ++
    s!"timedelta(hours=24), not {shownSpan seconds}."

end GenKill
