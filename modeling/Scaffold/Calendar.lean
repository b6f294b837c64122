/-!
# Dates and times of day

`Date.check` and `Timestamp.check` say which part of a date or time is out of range, the first
one in the order year, month, day, hour, minute, second. An offset from universal time is checked
before all of them.
-/

namespace Scaffold.Calendar

structure Date where
  year : Nat
  month : Nat
  day : Nat
deriving Repr, DecidableEq, Inhabited

/-- A time of a day, possibly at a known offset from universal time, in minutes. -/
structure Timestamp where
  date : Date
  hour : Nat
  minute : Nat
  second : Nat
  micro : Nat
  offset : Option Int
deriving Repr, DecidableEq, Inhabited

/-- A span of time in days and seconds, as it is shown; the seconds are never negative. -/
def spanText (minutes : Int) : String :=
  let days := minutes.fdiv 1440
  let seconds := (minutes - 1440 * days) * 60
  let parts := (if days == 0 then [] else [s!"days={days}"]) ++
    (if seconds == 0 then [] else [s!"seconds={seconds}"])
  "datetime.timedelta(" ++ (if parts.isEmpty then "0" else ", ".intercalate parts) ++ ")"

/-- The part that is out of range. -/
inductive Fault where
  | year (n : Nat)
  | month
  | day
  | hour
  | minute
  | second
  | offset (minutes : Int)
deriving Repr, DecidableEq, Inhabited

namespace Fault

def message : Fault → String
  | .year n => s!"year {n} is out of range"
  | .month => "month must be in 1..12"
  | .day => "day is out of range for month"
  | .hour => "hour must be in 0..23"
  | .minute => "minute must be in 0..59"
  | .second => "second must be in 0..59"
  | .offset minutes =>
    "offset must be a timedelta strictly between -timedelta(hours=24) and timedelta(hours=24), not "
      ++ spanText minutes ++ "."

end Fault

def isLeap (year : Nat) : Bool :=
  year % 4 == 0 && (year % 100 != 0 || year % 400 == 0)

def daysIn (year month : Nat) : Nat :=
  if month == 2 then if isLeap year then 29 else 28
  else if [4, 6, 9, 11].contains month then 30
  else 31

def Date.check (d : Date) : Except Fault Date :=
  if d.year < 1 || 9999 < d.year then .error (.year d.year)
  else if d.month < 1 || 12 < d.month then .error .month
  else if d.day < 1 || daysIn d.year d.month < d.day then .error .day
  else .ok d

def Timestamp.check (t : Timestamp) : Except Fault Timestamp := do
  match t.offset with
  | some m => if m ≤ -1440 || 1440 ≤ m then throw (.offset m)
  | none => pure ()
  let _ ← t.date.check
  if 23 < t.hour then throw .hour
  if 59 < t.minute then throw .minute
  if 59 < t.second then throw .second
  return t

/-- Decimal digits with zeros in front, `width` of them at least. -/
def padded (width n : Nat) : String :=
  let ds := toString n
  String.ofList (List.replicate (width - ds.length) '0') ++ ds

def Date.text (d : Date) : String :=
  padded 4 d.year ++ "-" ++ padded 2 d.month ++ "-" ++ padded 2 d.day

def offsetText (minutes : Int) : String :=
  let n := minutes.natAbs
  (if minutes < 0 then "-" else "+") ++ padded 2 (n / 60) ++ ":" ++ padded 2 (n % 60)

def Timestamp.text (t : Timestamp) : String :=
  let fraction := if t.micro == 0 then "" else "." ++ padded 6 t.micro
  let zone := match t.offset with
    | some m => offsetText m
    | none => ""
  t.date.text ++ " " ++ padded 2 t.hour ++ ":" ++ padded 2 t.minute ++ ":" ++ padded 2 t.second ++
    fraction ++ zone

/-- How a date is shown inside a collection or in a message. -/
def Date.display (d : Date) : String :=
  s!"datetime.date({d.year}, {d.month}, {d.day})"

/-- How a time is shown inside a collection or in a message. -/
def Timestamp.display (t : Timestamp) : String :=
  let fields := [t.date.year, t.date.month, t.date.day, t.hour, t.minute] ++
    (if t.micro != 0 then [t.second, t.micro] else if t.second != 0 then [t.second] else [])
  let zone := match t.offset with
    | none => []
    | some 0 => ["tzinfo=datetime.timezone.utc"]
    | some m => [s!"tzinfo=datetime.timezone({spanText m})"]
  "datetime.datetime(" ++ ", ".intercalate (fields.map toString ++ zone) ++ ")"

/-- Days since the first day of year zero. -/
def Date.ordinal (d : Date) : Nat :=
  let y := d.year - 1
  let months := (List.range (d.month - 1)).map fun m => daysIn d.year (m + 1)
  365 * y + y / 4 - y / 100 + y / 400 + months.foldl (· + ·) 0 + d.day

/-- Microseconds since the first day of year zero, at the clock the time was read from; with an
offset, in universal time. -/
def Timestamp.instant (t : Timestamp) : Int :=
  let minutes : Int := (t.date.ordinal * 24 + t.hour) * 60 + t.minute
  ((minutes - t.offset.getD 0) * 60 + t.second) * 1000000 + t.micro

end Scaffold.Calendar
