import Findings.Defect
import Findings.FilePath
import Findings.Host
/-!
A document in memory: its name, its text, and whether anything in it turned out wrong.
-/

namespace Findings

structure Document where
  name : String
  text : String
  /-- Whether faults of single records go unreported. -/
  silent : Bool := false
  hasError : Bool := false
  deriving DecidableEq, Repr

namespace Document

/-- Marks the document as faulty. -/
def mark (d : Document) : Document := { d with hasError := true }

/-- The line that reports a fault; line number zero stands for none. -/
def complaint (d : Document) (message : String) (line : Int) : List Notice :=
  if message.isEmpty then []
  else if line = 0 then [⟨.error, d.name ++ ": error: " ++ message⟩]
  else [⟨.error, d.name ++ ":" ++ toString line ++ ": error: " ++ message⟩]

/-- A fault of the whole document, reported even for a silent one. -/
def fail (d : Document) (message : String) (line : Int) : Document × List Notice :=
  (d.mark, d.complaint message line)

/-- A fault of one part of the document. -/
def failPart (d : Document) (message : String) : Document × List Notice :=
  (d.mark, if d.silent then [] else [⟨.error, d.name ++ ": error: " ++ message⟩])

/-! ## Reading -/

inductive Unreadable where
  /-- The document of this name cannot be read, or is no text. -/
  | closed (name : String)
  /-- A name with a NUL is the name of nothing. -/
  | unnameable
  deriving DecidableEq, Repr

def Unreadable.message : Unreadable → String
  | closed name => name ++ ": failed to open input file"
  | unnameable => OpenFault.message .embeddedNul

/-- The name that stands for standard input. -/
def inputName : String := "-"

/-- A document of some bytes, if there are any. -/
def ofBytes (name : String) (silent : Bool) :
    Except OpenFault (List UInt8) → Except Unreadable Document
  | .error .embeddedNul => .error .unnameable
  | .error _ => .error (.closed name)
  | .ok bytes =>
    match textOf bytes with
    | .ok text => .ok { name, text, silent }
    | .error _ => .error (.closed name)

/-- Reads the document at a path; it keeps the path as its name. -/
def fetch {m : Type → Type} [Monad m] (host : Host m) (path : String) (silent : Bool) :
    m (Except Unreadable Document) := do
  if path = inputName then return ofBytes path silent (.ok (← host.input))
  else return ofBytes path silent (← host.openFile (FilePath.ofString path).toString)

end Document

end Findings
