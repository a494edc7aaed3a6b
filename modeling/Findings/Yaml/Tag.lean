import Findings.Pattern.Grammar
import Findings.Pattern.Matching
/-!
The kinds of nodes. The kind of a scalar written without quotes and without a tag shows in the look
of its text; the kinds are tried in a fixed order, and a text of no kind is a string.
-/

namespace Findings.Yaml

inductive Tag where
  | bool
  | float
  | int
  | merge
  | null
  | timestamp
  | value
  | binary
  | string
  | sequence
  | orderedMap
  | pairs
  | set
  | mapping
  /-- A tag that has no meaning here. -/
  | other (uri : String)
  deriving DecidableEq, Repr, Inhabited

namespace Tag

def domain : String := "tag:yaml.org,2002:"

def names : List (String × Tag) :=
  [("bool", bool), ("float", float), ("int", int), ("merge", merge), ("null", null),
   ("timestamp", timestamp), ("value", value), ("binary", binary), ("str", string),
   ("seq", sequence), ("omap", orderedMap), ("pairs", pairs), ("set", set), ("map", mapping)]

def ofUri (uri : String) : Tag :=
  match names.find? fun (name, _) => domain ++ name = uri with
  | some (_, tag) => tag
  | none => other uri

/-! ## The look of a text -/

/-- Patterns for the texts of each kind. A line break at the end does not count. -/
def patterns : List (Tag × String) :=
  [(bool, "(?:yes|Yes|YES|no|No|NO|true|True|TRUE|false|False|FALSE|on|On|ON|off|Off|OFF)$"),
   (float, "(?:[-+]?(?:[0-9][0-9_]*)\\.[0-9_]*(?:[eE][-+][0-9]+)?" ++
      "|\\.[0-9][0-9_]*(?:[eE][-+][0-9]+)?" ++
      "|[-+]?[0-9][0-9_]*(?::[0-5]?[0-9])+\\.[0-9_]*" ++
      "|[-+]?\\.(?:inf|Inf|INF)|\\.(?:nan|NaN|NAN))$"),
   (int, "(?:[-+]?0b[0-1_]+|[-+]?0[0-7_]+|[-+]?(?:0|[1-9][0-9_]*)|[-+]?0x[0-9a-fA-F_]+" ++
      "|[-+]?[1-9][0-9_]*(?::[0-5]?[0-9])+)$"),
   (merge, "<<$"),
   (null, "(?:~|null|Null|NULL)$"),
   (timestamp, "(?:[0-9][0-9][0-9][0-9]-[0-9][0-9]-[0-9][0-9]" ++
      "|[0-9][0-9][0-9][0-9]-[0-9][0-9]?-[0-9][0-9]?(?:[Tt]|[ \\t]+)[0-9][0-9]?" ++
      ":[0-9][0-9]:[0-9][0-9](?:\\.[0-9]*)?(?:[ \\t]*(?:Z|[-+][0-9][0-9]?(?::[0-9][0-9])?))?)$"),
   (value, "=$")]

/-- The kinds with their patterns, read. -/
def looks : List (Tag × Pattern.Compiled) :=
  patterns.filterMap fun (tag, pattern) => (Pattern.compile pattern).toOption.map (tag, ·)

/-- Whether the text begins with a match of the pattern. -/
def fits (look : Pattern.Compiled) (text : String) : Bool :=
  (look.match? false (.start text.toList)).isSome

/-- The kind of a plain text, which is the first that fits. -/
def ofPlain (text : String) : Tag :=
  if text.isEmpty then null
  else
    match looks.find? fun (_, look) => fits look text with
    | some (tag, _) => tag
    | none => string

end Tag

end Findings.Yaml
