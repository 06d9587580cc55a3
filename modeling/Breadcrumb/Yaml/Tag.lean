import Breadcrumb.Pattern.Compile

namespace Breadcrumb.Yaml

inductive Tag where
  | null
  | bool
  | int
  | real
  | binary
  | timestamp
  | omap
  | pairs
  | set
  | str
  | seq
  | map
  | merge
  | value
  | other
  deriving DecidableEq

namespace Tag

/-- The lead of the tags that every text knows. -/
def lead : Text := "tag:yaml.org,2002:".toList

def names : List (String × Tag) :=
  [("null", .null), ("bool", .bool), ("int", .int), ("float", .real), ("binary", .binary),
    ("timestamp", .timestamp), ("omap", .omap), ("pairs", .pairs), ("set", .set), ("str", .str),
    ("seq", .seq), ("map", .map), ("merge", .merge), ("value", .value)]

def ofText (text : Text) : Tag :=
  match Text.after? lead text with
  | some name => ((names.find? (·.1.toList = name)).map (·.2)).getD .other
  | none => .other

/-- The pattern of an expression that is known to be one. -/
def form (expression : String) : Pattern :=
  (Pattern.compile expression.toList).toOption.getD (.sequence [])

/-- A form of plain scalars, with the characters that may begin it. -/
structure Form where
  tag : Tag
  starts : Text
  pattern : Pattern

def digitStarts : Text := "0123456789".toList

/-- The forms in the order in which they are tried. -/
def forms : List Form :=
  [{ tag := .bool
     starts := "yYnNtTfFoO".toList
     pattern := form
       "^(?:yes|Yes|YES|no|No|NO|true|True|TRUE|false|False|FALSE|on|On|ON|off|Off|OFF)$" },
    { tag := .real
      starts := "-+.".toList ++ digitStarts
      pattern := form
        ("^(?:[-+]?(?:[0-9][0-9_]*)\\.[0-9_]*(?:[eE][-+][0-9]+)?" ++
          "|\\.[0-9][0-9_]*(?:[eE][-+][0-9]+)?|[-+]?[0-9][0-9_]*(?::[0-5]?[0-9])+\\.[0-9_]*" ++
          "|[-+]?\\.(?:inf|Inf|INF)|\\.(?:nan|NaN|NAN))$") },
    { tag := .int
      starts := "-+".toList ++ digitStarts
      pattern := form
        ("^(?:[-+]?0b[0-1_]+|[-+]?0[0-7_]+|[-+]?(?:0|[1-9][0-9_]*)|[-+]?0x[0-9a-fA-F_]+" ++
          "|[-+]?[1-9][0-9_]*(?::[0-5]?[0-9])+)$") },
    { tag := .merge, starts := ['<'], pattern := form "^(?:<<)$" },
    { tag := .null, starts := "~nN".toList, pattern := form "^(?:~|null|Null|NULL|)$" },
    { tag := .timestamp
      starts := digitStarts
      pattern := form
        ("^(?:[0-9][0-9][0-9][0-9]-[0-9][0-9]-[0-9][0-9]" ++
          "|[0-9][0-9][0-9][0-9]-[0-9][0-9]?-[0-9][0-9]?(?:[Tt]|[ \\t]+)[0-9][0-9]?" ++
          ":[0-9][0-9]:[0-9][0-9](?:\\.[0-9]*)?(?:[ \\t]*(?:Z|[-+][0-9][0-9]?(?::[0-9][0-9])?))?)$") },
    { tag := .value, starts := ['='], pattern := form "^(?:=)$" }]

/-- The kind of a plain scalar by its text; most texts are just that. -/
def ofForm : Text → Tag
  | [] => .null
  | c :: rest =>
    ((forms.find? fun form => form.starts.contains c && form.pattern.isIn (c :: rest)).map
      (·.tag)).getD .str

end Tag

end Breadcrumb.Yaml
