import Findings.Text.Quoted
import Findings.Text.Utf8
/-!
What the program needs from the machine it runs on: bytes of files, the environment, and standard
input. Everything else is a function of these, whatever monad they are asked in.
-/

namespace Findings

/-- Why a file cannot be read. -/
inductive OpenFault where
  | missing
  | notDirectory
  | isDirectory
  | denied
  | nameTooLong
  /-- A path with a NUL is none that the machine could be asked for. -/
  | embeddedNul
  deriving DecidableEq, Repr

namespace OpenFault

/-- The number under which the machine reports the fault. -/
def number? : OpenFault → Option Nat
  | missing => some 2
  | denied => some 13
  | notDirectory => some 20
  | isDirectory => some 21
  | nameTooLong => some 36
  | embeddedNul => none

def message : OpenFault → String
  | missing => "No such file or directory"
  | denied => "Permission denied"
  | notDirectory => "Not a directory"
  | isDirectory => "Is a directory"
  | nameTooLong => "File name too long"
  | embeddedNul => "embedded null byte"

/-- Whether there is certainly no file under the path. -/
def isAbsence : OpenFault → Bool
  | missing | notDirectory | isDirectory | embeddedNul => true
  | denied | nameTooLong => false

/-- The fault with its number and the path, if the machine had part in it. -/
def report (fault : OpenFault) (path : String) : String :=
  match fault.number? with
  | some n => "[Errno " ++ toString n ++ "] " ++ fault.message ++ ": " ++ Text.quoted path
  | none => fault.message

end OpenFault

structure Host (m : Type → Type) where
  read : String → m (Except OpenFault (List UInt8))
  environment : String → m (Option String)
  input : m (List UInt8)

/-- The bytes of a file, if its path is one. -/
def Host.openFile {m : Type → Type} [Monad m] (host : Host m) (path : String) :
    m (Except OpenFault (List UInt8)) :=
  if path.toList.contains '\x00' then pure (.error .embeddedNul) else host.read path

/-- Every line end as one line feed; a carriage return ends a line, alone or before a line feed. -/
def unifyLineEnds : List Char → List Char
  | '\r' :: '\n' :: cs => '\n' :: unifyLineEnds cs
  | '\r' :: cs => '\n' :: unifyLineEnds cs
  | c :: cs => c :: unifyLineEnds cs
  | [] => []

/-- The text that some characters from outside are. -/
def textOfChars (cs : List Char) : String := String.ofList (Text.ofPlain (unifyLineEnds cs))

/-- The text of a file: strict UTF-8, with every line end as a line feed. -/
def textOf (bytes : List UInt8) : Except Text.Utf8.Fault String :=
  match Text.Utf8.decode bytes with
  | .ok cs => .ok (textOfChars cs)
  | .error fault => .error fault

end Findings
