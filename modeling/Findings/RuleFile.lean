import Findings.PathRules
import Findings.Yaml.Display
import Findings.Yaml.Scalar
/-!
Rule files: YAML mappings whose entry `path_filters` lists path rules. The standard rules come
before those of the file.

A rule is a mapping with a `match` and perhaps a `replace`, which may be any value and stands for
its text. Other entries of a rule or of the file are ignored.
-/

namespace Findings.RuleFile

inductive Fault where
  | yaml (fault : Yaml.LoadFault)
  | notMapping
  /-- The list of rules is a single value of this kind. -/
  | notIterable (kind : String)
  /-- A rule that has no pattern. -/
  | missingPattern (shown : String)
  /-- A collection of this kind in place of a pattern. -/
  | compoundPattern (kind : String)
  /-- Some other value in place of a pattern. -/
  | notText
  /-- A pattern that nests too deep to be read. -/
  | deepPattern
  /-- A pattern that cannot be read. -/
  | badPattern (pattern : Pattern.Source) (fault : Pattern.Fault)
  /-- A value that cannot be shown. -/
  | unshown (fault : Yaml.DisplayFault)
  deriving DecidableEq, Repr

/-- What the reading of rule files rests on: what YAML texts mean, and how deep values and patterns
may nest. -/
structure Reader where
  load : String → Except Yaml.LoadFault Yaml.Loaded
  /-- The levels that a value may have to be shown. -/
  shown : Nat
  isTooDeep : Pattern.Source → Bool

/-- The entries of a mapping. -/
def entriesOf? (cs : Yaml.Collections) : Yaml.Value → Option (List (Yaml.Value × Yaml.Value))
  | .collection n =>
    match cs.collection n with
    | .mapping entries => some entries
    | _ => none
  | _ => none

/-- The fault of a value that should have been a rule and has no pattern. -/
def lack : Except Yaml.DisplayFault String → Fault
  | .ok shown => .missingPattern shown
  | .error fault => .unshown fault

section Reading

variable (reader : Reader) (cs : Yaml.Collections)

def readPattern (source : Pattern.Source) : Except Fault Pattern.Source :=
  if reader.isTooDeep source then .error .deepPattern
  else match Pattern.compile source with
    | .ok _ => .ok source
    | .error fault => .error (.badPattern source fault)

/-- A pattern that can be read. -/
def patternOf : Yaml.Value → Except Fault Pattern.Source
  | .text s => readPattern reader (.text s)
  | .bytes bs => readPattern reader (.bytes bs)
  | .collection n => .error (.compoundPattern ((Yaml.Value.collection n).kindName cs))
  | _ => .error .notText

def replacementOf (v : Option Yaml.Value) : Except Fault String :=
  match v with
  | none => .ok ""
  | some v => (v.asText reader.shown cs).mapError .unshown

def ruleOf (v : Yaml.Value) : Except Fault PathRule :=
  match entriesOf? cs v with
  | none => .error (lack (v.display reader.shown cs))
  | some entries =>
    match Yaml.Value.entry? "match" entries with
    | none => .error (lack (v.display reader.shown cs))
    | some p => do
      let pattern ← patternOf reader cs p
      let replacement ← replacementOf reader cs (Yaml.Value.entry? "replace" entries)
      return { pattern, replacement }

/-- No rule can be read from what is no list; if there is anything in it, the first of that is told.
-/
def noRules (shown : List (Except Yaml.DisplayFault String)) : Except Fault (List PathRule) :=
  match shown with
  | [] => .ok []
  | first :: _ => .error (lack first)

/-- The characters of a text, each as a text. -/
def charactersOf (s : String) : List Yaml.Value :=
  (Text.points s.toList).map fun p => .text (String.ofList p.chars)

/-- The rules that a value lists: every item of a list; of a mapping the keys would be rules, of a
text its characters. -/
def rulesOf (v : Yaml.Value) : Except Fault (List PathRule) :=
  let display := Yaml.Value.display reader.shown cs
  match v with
  | .collection n =>
    match cs.collection n with
    | .list items => items.mapM (ruleOf reader cs)
    | .pairs items => noRules (items.map fun p => Yaml.Value.displayPair cs p reader.shown)
    | .set items => noRules (items.map display)
    | .mapping entries => noRules (entries.map fun (key, _) => display key)
  | .text s => noRules ((charactersOf s).map display)
  | .bytes bs => noRules (bs.map fun b => display (.int b.toNat))
  | v => .error (.notIterable (v.kindName cs))

/-- The rules of a file, without the standard ones. -/
def rules (text : String) : Except Fault (List PathRule) :=
  match reader.load text with
  | .error fault => .error (.yaml fault)
  | .ok loaded =>
    match entriesOf? loaded.collections loaded.root with
    | none => .error .notMapping
    | some entries =>
      match Yaml.Value.entry? "path_filters" entries with
      | none => .ok []
      | some v => rulesOf reader loaded.collections v

/-- The standard rules and some more. -/
def withStandard (rules : List PathRule) : Except Fault PathRules :=
  match PathRules.ofRules (PathRule.standard ++ rules) with
  | .ok rules => .ok rules
  | .error fault => .error (.badPattern fault.source fault)

/-- The standard rules and those of the file. -/
def read (text : String) : Except Fault PathRules :=
  match rules reader text with
  | .ok rules => withStandard rules
  | .error fault => .error fault

end Reading

namespace Fault

/-- Whether the file can be blamed in so many words; other faults are nobody's to handle. -/
def isReported : Fault → Bool
  | yaml fault => fault.isBadValue
  | notMapping | missingPattern _ | unshown (.unwritable _) => true
  | badPattern _ f => f.cause != .repeatTooLarge
  | notIterable _ | compoundPattern _ | notText | deepPattern | unshown .tooDeep => false

/-- Whether the fault of a pattern is told together with the pattern. -/
def isPlain (f : Pattern.Fault) : Bool :=
  match f.cause with
  | .repeatTooLarge | .clashingFlags _ | .oversize _ => false
  | _ => true

def message : Fault → String
  | yaml fault => fault.message
  | notMapping => "Path filter YAML must be a mapping"
  | notIterable kind => Text.quoted kind ++ " object is not iterable"
  | missingPattern shown => "Path filter rule needs a \x27match\x27 key: " ++ shown
  | compoundPattern kind => "unhashable type: " ++ Text.quoted kind
  | notText => "first argument must be string or compiled pattern"
  | deepPattern => "maximum recursion depth exceeded"
  | badPattern pattern f =>
    if isPlain f then "Invalid path filter regex " ++ pattern.quoted ++ ": " ++ f.message
    else f.message
  | unshown fault => fault.message

end Fault

end Findings.RuleFile
