import Breadcrumb.Text

namespace Breadcrumb

/-- A node with a label and the nodes below it. -/
structure Diagram where
  label : Text
  children : List Diagram

namespace Diagram

/-- The branch to a node, which may be the last below another one. -/
def branch (last : Bool) : Text := if last then "└── ".toList else "├── ".toList

/-- What stands below such a branch. -/
def trunk (last : Bool) : Text := if last then "    ".toList else "│   ".toList

mutual

def linesOfAll (indent : Text) : List Diagram → List Text
  | [] => []
  | node :: rest =>
    (indent ++ branch rest.isEmpty ++ node.label) ::
      (linesBelow (indent ++ trunk rest.isEmpty) node ++ linesOfAll indent rest)

def linesBelow (indent : Text) : Diagram → List Text
  | ⟨_, children⟩ => linesOfAll indent children

end

/-- The drawing of what is below the root, one line for each node. -/
def render (root : Diagram) : Text := (linesBelow [] root).flatMap (· ++ ['\n'])

end Diagram

end Breadcrumb
