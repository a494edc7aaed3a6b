import Findings.FilePath
import Findings.Host
/-!
Settings from the environment. The file of path rules is the one that the environment names, else
the one in the configuration directory, if it is there.
-/

namespace Findings

structure Settings where
  directory : FilePath
  ruleFile : Option FilePath := none
  silent : Bool := false
  verbose : Bool := false
  deriving DecidableEq, Repr

namespace Settings

/-- Why there are no settings. -/
inductive Fault where
  /-- There is no home directory to look into. -/
  | homeless
  /-- Nobody can tell whether the file of path rules is there. -/
  | hidden (file : FilePath) (fault : OpenFault)
  deriving DecidableEq, Repr

def Fault.message : Fault → String
  | homeless => "Could not determine home directory."
  | hidden file fault => fault.report file.toString

/-- Words that switch a setting on, in either case. -/
def isYes (word : String) : Bool :=
  ["1", "true", "yes"].contains (String.ofList (word.toList.map Char.toLower))

/-- The name of the directory below the one for all programs. -/
def directoryName : String := "defectlink"

/-- The home directory without slashes at its end; one that begins with a tilde is not known. -/
def home (value : String) : Except Fault FilePath :=
  let cs := (value.toList.reverse.dropWhile (· = '/')).reverse
  if cs.head? = some '~' then .error .homeless
  else .ok (FilePath.ofString (if cs.isEmpty then "/" else String.ofList cs))

/-- The configuration directory; an empty value counts as none. -/
def directoryOf (config userHome : Option String) : Except Fault FilePath :=
  match config with
  | none | some "" =>
    (home (userHome.getD "")).map fun h => (h.child ".config").child directoryName
  | some dir => .ok ((FilePath.ofString dir).child directoryName)

/-- The file that is read if the environment names no other. -/
def standardRuleFile (directory : FilePath) : FilePath := directory.child "path-filters.yaml"

def load {m : Type → Type} [Monad m] (host : Host m) : m (Except Fault Settings) := do
  match directoryOf (← host.environment "XDG_CONFIG_HOME") (← host.environment "HOME") with
  | .error fault => return .error fault
  | .ok directory =>
    let silent := isYes ((← host.environment "DEFECTLINK_SILENT").getD "")
    match (← host.environment "DEFECTLINK_PATH_FILTERS").getD "" with
    | "" =>
      let file := standardRuleFile directory
      match ← host.openFile file.toString with
      | .ok _ => return .ok { directory, ruleFile := some file, silent }
      | .error fault =>
        if fault.isAbsence then return .ok { directory, silent }
        else return .error (.hidden file fault)
    | path => return .ok { directory, ruleFile := some (FilePath.ofString path), silent }

end Settings

end Findings
