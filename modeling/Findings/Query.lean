import Findings.Decimal.Integer
import Findings.Defect
import Findings.Text.Split
/-!
Queries: an outside identifier for a checker and a file. They are read from lines
`id,checker,file`; bad lines are reported, remembered, and passed over.
-/

namespace Findings

structure Query where
  id : Int
  checker : String
  file : String
  deriving DecidableEq, Repr

namespace Query

/-- Why a line is no query. -/
inductive LineFault where
  | tooFewFields
  | badIdentifier
  deriving DecidableEq, Repr

def LineFault.message : LineFault → String
  | tooFewFields => "not enough \x27,\x27 at the line"
  | badIdentifier => "failed to parse the identifier"

def isLineEnd (c : Char) : Bool := c = '\r' || c = '\n'

/-- The line without the carriage returns and line feeds at its end. -/
def withoutEnding (cs : List Char) : List Char := (cs.reverse.dropWhile isLineEnd).reverse

/-- Further fields of a line are ignored. -/
def ofLine (line : String) : Except LineFault (Except Decimal.Oversize Query) :=
  match Text.splitAt ',' (withoutEnding line.toList) with
  | id :: checker :: file :: _ =>
    if Decimal.isSigned id then
      .ok ((Decimal.signed id).map fun n =>
        { id := n, checker := String.ofList checker, file := String.ofList file })
    else .error .badIdentifier
  | _ => .error .tooFewFields

/-! ## Streams of lines -/

/-- Lines not read yet, and what the lines read so far came to. -/
structure Stream where
  lines : List String
  name : String := "-"
  /-- How many lines were read. -/
  lineno : Nat := 0
  hasError : Bool := false
  deriving DecidableEq, Repr

namespace Stream

/-- A query, none at the end, with the stream behind it. -/
structure Step where
  query : Except Decimal.Oversize (Option Query)
  stream : Stream
  notices : List Notice := []

def complaint (name : String) (lineno : Nat) (fault : LineFault) : Notice :=
  ⟨.error, name ++ ":" ++ toString lineno ++ ": error: " ++ fault.message⟩

def nextIn (name : String) (lineno : Nat) (hasError : Bool) : List String → Step
  | [] => { query := .ok none, stream := { lines := [], name, lineno, hasError } }
  | line :: rest =>
    let lineno := lineno + 1
    match ofLine line with
    | .ok (.ok q) =>
      { query := .ok (some q), stream := { lines := rest, name, lineno, hasError } }
    | .ok (.error o) =>
      { query := .error o, stream := { lines := rest, name, lineno, hasError } }
    | .error fault =>
      let step := nextIn name lineno true rest
      { step with notices := complaint name lineno fault :: step.notices }

/-- The query of the next line that has one. -/
def next (s : Stream) : Step := nextIn s.name s.lineno s.hasError s.lines

theorem lines_nextIn (name : String) (lineno : Nat) (hasError : Bool) (lines : List String)
    (q : Query) (h : (nextIn name lineno hasError lines).query = .ok (some q)) :
    (nextIn name lineno hasError lines).stream.lines.length < lines.length := by
  induction lines generalizing lineno hasError with
  | nil => simp [nextIn] at h
  | cons line rest ih =>
    simp only [nextIn] at h ⊢
    split
    · simp
    · simp
    · next fault hf =>
      simp only [hf] at h
      exact Nat.lt_succ_of_lt (ih _ _ h)

end Stream

/-- The pieces of a text that end behind each line feed. -/
def linesOf : List Char → List (List Char)
  | [] => []
  | c :: cs =>
    if c = '\n' then [c] :: linesOf cs
    else match linesOf cs with
      | [] => [[c]]
      | line :: lines => (c :: line) :: lines

def splitLines (s : String) : List String := (linesOf s.toList).map String.ofList

end Query

end Findings
