import Findings.FilePath
import Findings.Host
/-!
A host whose files are given beforehand, below one directory at hand. Names are relative to it;
directories on the way to a name exist with it. Outside that directory there are directories, but
nothing in them.
-/

namespace Findings

/-- What a name leads to: the bytes of a file, or none for a directory. -/
abbrev FileTree := List (List String × Option (List UInt8))

namespace FileTree

def partsOf (s : String) : List String := (Text.splitAt '/' s.toList).map String.ofList

def ofFiles (files : List (String × Option (List UInt8))) : FileTree :=
  files.map fun (name, content) => ((FilePath.ofString name).parts, content)

/-- Where a walk has come to. -/
inductive Place where
  | directory (below : List String)
  | file (bytes : List UInt8)
  | outside
  deriving DecidableEq, Repr

/-- What a name below the directory at hand stands for. -/
def place? (t : FileTree) (name : List String) : Option Place :=
  match t.find? fun entry => entry.1 == name with
  | some (_, some bytes) => some (.file bytes)
  | some (_, none) => some (.directory name)
  | none => if t.any fun entry => name.isPrefixOf entry.1 then some (.directory name) else none

/-- Bytes that one part of a path may have. -/
def nameLimit : Nat := 255

/-- Bytes that a path may have. -/
def pathLimit : Nat := 4095

/-- Why a part leads nowhere. -/
def absence (part : String) : OpenFault :=
  if part.utf8ByteSize ≤ nameLimit then .missing else .nameTooLong

/-- One part of a path. -/
def step (t : FileTree) (p : Place) (part : String) : Except OpenFault Place :=
  match p with
  | .file _ => .error .notDirectory
  | .outside => if ["", ".", ".."].contains part then .ok .outside else .error (absence part)
  | .directory below =>
    if part = "" ∨ part = "." then .ok p
    else if part = ".." then
      .ok (if below.isEmpty then .outside else .directory below.dropLast)
    else match t.place? (below ++ [part]) with
      | some p => .ok p
      | none => .error (absence part)

/-- A path that begins with a slash begins outside. -/
def walk (t : FileTree) (path : String) : Except OpenFault Place :=
  let start := if path.startsWith "/" then Place.outside else .directory []
  (partsOf path).foldlM t.step start

def read (t : FileTree) (path : String) : Except OpenFault (List UInt8) :=
  if path.isEmpty then .error .missing
  else if pathLimit < path.utf8ByteSize then .error .nameTooLong
  else match t.walk path with
    | .error fault => .error fault
    | .ok (.file bytes) => .ok bytes
    | .ok _ => .error .isDirectory

def host (t : FileTree) (environment : List (String × String)) (input : List UInt8) : Host Id where
  read path := t.read path
  environment name := environment.lookup name
  input := input

end FileTree

end Findings
