import Findings.Command
import Findings.Command.Standard
/-!
The program on a real machine.
-/

namespace Findings.Machine

def openFault : IO.Error → OpenFault
  | .permissionDenied .. => .denied
  | .inappropriateType _ code _ =>
    if some code.toNat = OpenFault.notDirectory.number? then .notDirectory else .isDirectory
  | .invalidArgument _ code _ =>
    if some code.toNat = OpenFault.nameTooLong.number? then .nameTooLong else .missing
  | _ => .missing

/-- A text of the program from one of the machine. -/
def inward (s : String) : String := String.ofList (Text.ofPlain s.toList)

/-- A text of the machine, which has no halves of surrogate pairs but their codes. -/
def outward (s : String) : String :=
  String.ofList ((Text.plain? (Text.backslashed s.toList)).getD [])

def host : Host IO where
  read path := do
    match ← (IO.FS.readBinFile (outward path)).toBaseIO with
    | .ok bytes => return .ok bytes.toList
    | .error e => return .error (openFault e)
  environment name := do return (← IO.getEnv name).map inward
  input := do return (← (← IO.getStdin).readBinToEnd).toList

/-- Debugging notices are for verbose runs only. -/
def isTold (verbose : Bool) (n : Notice) : Bool := verbose || n.severity != .debug

end Findings.Machine

open Findings in
def main (args : List String) : IO UInt32 := do
  let args := args.map Machine.inward
  let outcome ← Command.run (.standard Machine.host) Machine.host args
  let verbose := Command.isVerbose args
  for n in outcome.notices.filter (Machine.isTold verbose) do
    IO.eprintln ("[" ++ n.severity.name ++ "] " ++ Machine.outward n.text)
  IO.print (Machine.outward outcome.stdout)
  IO.eprint (Machine.outward outcome.stderr)
  if let some escape := outcome.escape then
    IO.eprintln ("Error: " ++ Machine.outward escape.message)
  return outcome.exitCode.toUInt32
