import Findings.Text.Split
import Findings.Yaml.Moment
import Findings.Yaml.Tag
/-!
Reading dates, and dates with a time of day behind them.
-/

namespace Findings.Yaml

/-- A date, or a date and a time. -/
inductive Timestamp where
  | date (d : Date)
  | moment (m : Moment)
  deriving DecidableEq, Repr

namespace Timestamp

/-- Why a text is no timestamp. -/
inductive Fault where
  /-- It does not have the form. -/
  | noForm
  /-- There is a mapping in place of the text. -/
  | noText
  | year
  | month
  | day
  | hour
  | minute
  | second
  /-- A zone a day or more away from universal time. -/
  | zone (minutes : Int)
  deriving DecidableEq, Repr

def Fault.message : Fault → String
  | noForm => "\x27NoneType\x27 object has no attribute \x27groupdict\x27"
  | noText => "expected string or bytes-like object, got \x27list\x27"
  | year => "year 0 is out of range"
  | month => "month must be in 1..12"
  | day => "day is out of range for month"
  | hour => "hour must be in 0..23"
  | minute => "minute must be in 0..59"
  | second => "second must be in 0..59"
  | zone minutes =>
    "offset must be a timedelta strictly between -timedelta(hours=24) and timedelta(hours=24), " ++
      "not " ++ Time.durationText minutes ++ "."

def form : String :=
  "[0-9][0-9][0-9][0-9]-[0-9][0-9]?-[0-9][0-9]?(?:(?:[Tt]|[ \\t]+)[0-9][0-9]?" ++
    ":[0-9][0-9]:[0-9][0-9](?:\\.[0-9]*)?(?:[ \\t]*(?:Z|[-+][0-9][0-9]?(?::[0-9][0-9])?))?)?$"

/-! ## The parts of a text that has the form -/

/-- Runs of digits, with what stands between them left out. -/
def digitRuns (cs : List Char) : List (List Char) :=
  match cs with
  | [] => [[]]
  | c :: rest =>
    match digitRuns rest with
    | [] => [[c]]
    | run :: runs => if c.isDigit then (c :: run) :: runs else [] :: run :: runs

def numberOf (ds : List Char) : Nat := Nat.ofDigitChars 10 ds 0

/-- The fraction of a second, cut to millionths. -/
def micros (ds : List Char) : Nat := numberOf ((ds ++ List.replicate 6 '0').take 6)

/-- The zone behind the seconds, if there is one, in minutes. -/
def zoneOf? (cs : List Char) : Option Int :=
  match cs.dropWhile (fun c => c = ' ' || c = '\t') with
  | 'Z' :: _ => some 0
  | sign :: rest =>
    match (digitRuns rest).filter (!·.isEmpty) with
    | hours :: more =>
      let minutes : Int := (numberOf hours * 60 + numberOf (more.headD []) : Nat)
      some (if sign = '-' then -minutes else minutes)
    | [] => none
  | [] => none

/-- The time behind the date, from its first digit on. -/
def timeOf (cs : List Char) : Time :=
  let clock := cs.takeWhile fun c => c.isDigit || c = ':'
  let rest := cs.dropWhile fun c => c.isDigit || c = ':'
  let (fraction, rest) := match rest with
    | '.' :: r => (r.takeWhile Char.isDigit, r.dropWhile Char.isDigit)
    | r => ([], r)
  match (Text.splitAt ':' clock).map numberOf with
  | [hour, minute, second] =>
    { hour, minute, second, micro := micros fraction, offset := zoneOf? rest }
  | _ => { hour := 0, minute := 0, second := 0 }

/-! ## Checking -/

def checkDate (d : Date) : Except Fault Unit :=
  if d.year = 0 then .error .year
  else if d.month = 0 ∨ 12 < d.month then .error .month
  else if d.day = 0 ∨ Date.daysIn d.year d.month < d.day then .error .day
  else .ok ()

def checkZone (t : Time) : Except Fault Unit :=
  match t.offset with
  | some minutes => if 24 * 60 ≤ minutes.natAbs then .error (.zone minutes) else .ok ()
  | none => .ok ()

def checkTime (t : Time) : Except Fault Unit :=
  if 23 < t.hour then .error .hour
  else if 59 < t.minute then .error .minute
  else if 59 < t.second then .error .second
  else .ok ()

/-- The form, read as a pattern. -/
def look : Option Pattern.Compiled := (Pattern.compile form).toOption

/-- A zone is looked at first, then the date, then the time of day. -/
def read (s : String) : Except Fault Timestamp := do
  if !look.any (Tag.fits · s) then throw .noForm
  let cs := s.toList
  let dayPart := cs.takeWhile fun c => c.isDigit || c = '-'
  let rest := (cs.dropWhile fun c => c.isDigit || c = '-').dropWhile fun c => !c.isDigit
  match (digitRuns dayPart).map numberOf with
  | [year, month, day] =>
    let date : Date := ⟨year, month, day⟩
    if rest.isEmpty then
      checkDate date
      return .date date
    let time := timeOf rest
    checkZone time
    checkDate date
    checkTime time
    return .moment ⟨date, time⟩
  | _ => throw .noForm

end Timestamp

end Findings.Yaml
