import Breadcrumb.Crumb
import Breadcrumb.Diagram
import Breadcrumb.Heading
import Breadcrumb.Path

namespace Breadcrumb

/-- A step, or a file with what happened in it. -/
inductive Tree where
  | step (label : Text)
  | file (path : Text) (children : List Tree)

namespace Tree

mutual

/-- Adds a child to the file with the given path. -/
def addTo (path : Text) (child : Tree) : Tree → Tree
  | .step label => .step label
  | .file other children =>
    if other = path then .file other (children ++ [child])
    else .file other (addToAll path child children)

def addToAll (path : Text) (child : Tree) : List Tree → List Tree
  | [] => []
  | tree :: rest => addTo path child tree :: addToAll path child rest

end

/-- The trees so far, the paths that have a node, and the path visited last. -/
structure Visit where
  roots : List Tree := []
  seen : List Text := []
  last : Option Text := none

def stepLabel (crumb : Crumb) : Text :=
  "[#".toList ++ Text.ofInt crumb.step ++ "]  ".toList ++ Heading.titleCase crumb.title

namespace Visit

/-- Gives a path its node unless it has one. -/
def enter (visit : Visit) (path : Text) : Visit :=
  if visit.seen.contains path then visit
  else
    { visit with
      roots :=
        match visit.last with
        | none => visit.roots ++ [.file path []]
        | some last => addToAll last (.file path []) visit.roots
      seen := visit.seen ++ [path] }

def add (visit : Visit) (crumb : Crumb) : Visit :=
  let visit := visit.enter crumb.path
  { visit with
    roots := addToAll crumb.path (.step (stepLabel crumb)) visit.roots
    last := some crumb.path }

end Visit

/-- The trees of a trail; there is one unless the trail is empty. -/
def ofTrail (trail : List Crumb) : List Tree := (trail.foldl Visit.add {}).roots

def label : Tree → Text
  | .step label => label
  | .file path _ => Path.baseName path

mutual

/-- What is drawn of a tree: a step ends it, and a file is shown by its name alone. -/
def diagram : Tree → Diagram
  | .step text => ⟨label (.step text), []⟩
  | .file path children => ⟨label (.file path children), diagrams children⟩

def diagrams : List Tree → List Diagram
  | [] => []
  | tree :: rest => diagram tree :: diagrams rest

end

/-- The drawing of the trees below a common root. -/
def render (trees : List Tree) : Text := Diagram.render ⟨".".toList, diagrams trees⟩

end Tree

end Breadcrumb
