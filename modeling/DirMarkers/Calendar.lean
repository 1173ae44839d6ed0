/-!
Dates and times of day in the Gregorian calendar, and how they are shown.
-/

namespace DirMarkers.Calendar

/-- A date. -/
structure Date where
  year : Nat
  month : Nat
  day : Nat
deriving DecidableEq, Repr

/-- A time of a day, with the seconds by which its zone is ahead of universal time if it has one. -/
structure Moment where
  date : Date
  hour : Nat
  minute : Nat
  second : Nat
  microsecond : Nat
  zone : Option Int
deriving DecidableEq, Repr

/-- What is wrong with the parts of a date or time. -/
inductive Fault where
  | year (year : Nat)
  | month
  | day
  | hour
  | minute
  | second
  /-- A zone that is a day or more away. -/
  | zone (seconds : Int)
deriving DecidableEq, Repr

def isLeap (year : Nat) : Bool :=
  year % 4 = 0 && (year % 100 != 0 || year % 400 = 0)

def daysIn (year month : Nat) : Nat :=
  if month = 2 then (if isLeap year then 29 else 28)
  else if month = 4 || month = 6 || month = 9 || month = 11 then 30
  else 31

def Date.ofParts (year month day : Nat) : Except Fault Date :=
  if year = 0 || 9999 < year then .error (.year year)
  else if month = 0 || 12 < month then .error .month
  else if day = 0 || daysIn year month < day then .error .day
  else .ok ⟨year, month, day⟩

/-- The zone that is so many seconds ahead. -/
def zoneOf (seconds : Int) : Except Fault Int :=
  if seconds.natAbs < 86400 then .ok seconds else .error (.zone seconds)

def Moment.ofParts (year month day hour minute second microsecond : Nat) (zone : Option Int)
    : Except Fault Moment := do
  let zone ← zone.mapM zoneOf
  let date ← Date.ofParts year month day
  if 23 < hour then .error .hour
  else if 59 < minute then .error .minute
  else if 59 < second then .error .second
  else .ok ⟨date, hour, minute, second, microsecond, zone⟩

-----------------------------------------------------------------------------------------
-- Order
-----------------------------------------------------------------------------------------

/-- The number of days before a date, counted from the start of the first year. -/
def Date.ordinal (d : Date) : Nat :=
  let y := d.year - 1
  let months := (List.range (d.month - 1)).map fun m => daysIn d.year (m + 1)
  y * 365 + y / 4 - y / 100 + y / 400 + months.foldl (· + ·) 0 + (d.day - 1)

/-- The microseconds before a moment; in universal time if the moment has a zone. -/
def Moment.instant (m : Moment) : Int :=
  let clock := (m.hour * 60 + m.minute) * 60 + m.second
  let seconds := Int.ofNat (m.date.ordinal * 86400 + clock) - m.zone.getD 0
  seconds * 1000000 + m.microsecond

-----------------------------------------------------------------------------------------
-- Text
-----------------------------------------------------------------------------------------

def call (name : String) (arguments : List String) : String :=
  name ++ "(" ++ ", ".intercalate arguments ++ ")"

/-- A length of time as days and seconds; only the days may be negative. -/
def durationText (seconds : Int) : String :=
  let days := Int.fdiv seconds 86400
  let rest := Int.fmod seconds 86400
  let parts := (if days = 0 then [] else ["days=" ++ toString days])
    ++ (if rest = 0 then [] else ["seconds=" ++ toString rest])
  call "datetime.timedelta" (if parts = [] then ["0"] else parts)

def Date.text (d : Date) : String :=
  call "datetime.date" [toString d.year, toString d.month, toString d.day]

def zoneText (seconds : Int) : String :=
  if seconds = 0 then "datetime.timezone.utc"
  else call "datetime.timezone" [durationText seconds]

/-- A moment as diagnostics show it, without seconds and microseconds that are zero. -/
def Moment.text (m : Moment) : String :=
  let clock := [m.hour, m.minute]
    ++ (if m.second = 0 && m.microsecond = 0 then [] else [m.second])
    ++ (if m.microsecond = 0 then [] else [m.microsecond])
  let zone := match m.zone with
    | some seconds => ["tzinfo=" ++ zoneText seconds]
    | none => []
  call "datetime.datetime" (([m.date.year, m.date.month, m.date.day] ++ clock).map toString ++ zone)

def Fault.message : Fault → String
  | .year n => "year " ++ toString n ++ " is out of range"
  | .month => "month must be in 1..12"
  | .day => "day is out of range for month"
  | .hour => "hour must be in 0..23"
  | .minute => "minute must be in 0..59"
  | .second => "second must be in 0..59"
  | .zone seconds =>
    "offset must be a timedelta strictly between -timedelta(hours=24) and timedelta(hours=24), not "
      ++ durationText seconds ++ "."

end DirMarkers.Calendar
