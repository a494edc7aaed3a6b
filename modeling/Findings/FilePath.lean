import Findings.Text.Split
/-!
Paths of files in their plain form: no repeated slash, no `.` part and no slash at the end. A part
`..` stays, since what it leads to is the file system's to say.
-/

namespace Findings

/-- How a path begins. Two slashes are a root of their own, three or more are one. -/
inductive Root where
  | none
  | single
  | double
  deriving DecidableEq, Repr

def Root.text : Root → String
  | none => ""
  | single => "/"
  | double => "//"

structure FilePath where
  root : Root
  parts : List String
  deriving DecidableEq, Repr

namespace FilePath

def rootOf (cs : List Char) : Root :=
  match (cs.takeWhile (· = '/')).length with
  | 0 => .none
  | 2 => .double
  | _ => .single

/-- The parts of a path that lead somewhere. -/
def partsOf (cs : List Char) : List String :=
  ((Text.splitAt '/' cs).filter fun part => part ≠ [] ∧ part ≠ ['.']).map String.ofList

def ofString (s : String) : FilePath := ⟨rootOf s.toList, partsOf s.toList⟩

def child (p : FilePath) (name : String) : FilePath := { p with parts := p.parts ++ [name] }

/-- A path without root and parts is the directory at hand. -/
def toString (p : FilePath) : String :=
  match p.root, p.parts with
  | .none, [] => "."
  | root, parts => root.text ++ String.intercalate "/" parts

end FilePath

end Findings
