/-!
Dates and times of day, and their texts.
-/

namespace Findings.Yaml

structure Date where
  year : Nat
  month : Nat
  day : Nat
  deriving DecidableEq, Repr

/-- A time of day, with its distance from universal time in minutes, if that is known. -/
structure Time where
  hour : Nat
  minute : Nat
  second : Nat
  micro : Nat := 0
  offset : Option Int := none
  deriving DecidableEq, Repr

/-- A number in so many digits at least. -/
def padded (width n : Nat) : String :=
  let ds := Nat.toDigits 10 n
  String.ofList (List.replicate (width - ds.length) '0' ++ ds)

namespace Date

def isLeap (year : Nat) : Bool := year % 4 = 0 && (year % 100 ≠ 0 || year % 400 = 0)

def daysIn (year month : Nat) : Nat :=
  if month = 2 then (if isLeap year then 29 else 28)
  else if [4, 6, 9, 11].contains month then 30 else 31

/-- Days since the beginning of the year 1. -/
def ordinal (d : Date) : Nat :=
  let years := d.year - 1
  let months := ((List.range d.month).drop 1).map (daysIn d.year)
  365 * years + years / 4 - years / 100 + years / 400 + months.foldl (· + ·) 0 + d.day

def iso (d : Date) : String :=
  padded 4 d.year ++ "-" ++ padded 2 d.month ++ "-" ++ padded 2 d.day

def display (d : Date) : String :=
  "datetime.date(" ++ String.intercalate ", " ([d.year, d.month, d.day].map toString) ++ ")"

end Date

namespace Time

/-- Days and seconds, the seconds not negative. -/
def durationText (minutes : Int) : String :=
  let seconds := minutes * 60
  let days := seconds / 86400
  let rest := seconds % 86400
  let parts := (if days = 0 then [] else ["days=" ++ toString days]) ++
    (if rest = 0 then [] else ["seconds=" ++ toString rest])
  "datetime.timedelta(" ++ String.intercalate ", " parts ++ ")"

def zoneText? (t : Time) : Option String :=
  t.offset.map fun m =>
    if m = 0 then "datetime.timezone.utc" else "datetime.timezone(" ++ durationText m ++ ")"

def isoOffset (m : Int) : String :=
  (if m < 0 then "-" else "+") ++ padded 2 (m.natAbs / 60) ++ ":" ++ padded 2 (m.natAbs % 60)

def iso (t : Time) : String :=
  padded 2 t.hour ++ ":" ++ padded 2 t.minute ++ ":" ++ padded 2 t.second ++
    (if t.micro = 0 then "" else "." ++ padded 6 t.micro) ++
    (match t.offset with | none => "" | some m => isoOffset m)

/-- The numbers of a time; seconds and their fractions are left out from the end while zero. -/
def numbers (t : Time) : List Nat :=
  [t.hour, t.minute] ++
    if t.micro ≠ 0 then [t.second, t.micro] else if t.second ≠ 0 then [t.second] else []

end Time

structure Moment where
  date : Date
  time : Time
  deriving DecidableEq, Repr

namespace Moment

def iso (m : Moment) : String := m.date.iso ++ " " ++ m.time.iso

def display (m : Moment) : String :=
  let d := m.date
  let numbers := ([d.year, d.month, d.day] ++ m.time.numbers).map toString
  let zone := match m.time.zoneText? with
    | none => []
    | some z => ["tzinfo=" ++ z]
  "datetime.datetime(" ++ String.intercalate ", " (numbers ++ zone) ++ ")"

/-- Millionths of a second since the beginning of the year 1, in universal time as far as that is
known. -/
def instant (m : Moment) : Int :=
  let t := m.time
  let minutes : Int := (m.date.ordinal * 24 + t.hour : Nat) * 60 + t.minute - t.offset.getD 0
  (minutes * 60 + t.second) * 1000000 + t.micro

/-- Moments are the same if their instants are; one in an unknown zone differs from any in a known
one. -/
def same (m n : Moment) : Bool :=
  m.time.offset.isSome == n.time.offset.isSome && m.instant == n.instant

end Moment

end Findings.Yaml
