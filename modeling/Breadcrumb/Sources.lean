import Breadcrumb.FileTree.Store
import Breadcrumb.Ignore
import Breadcrumb.Registry
import Breadcrumb.Selection

namespace Breadcrumb

/-- A file to scan, with its path from the project's root. -/
structure Source where
  place : Place
  path : Text
  language : Language

namespace Sources

/-- Folders that hold no sources of a project's own. -/
def skippedFolders : List Text :=
  [".git", ".hg", ".svn", ".venv", "node_modules", "__pycache__", ".pytest_cache", ".mypy_cache",
    ".idea"].map String.toList

/-- What keeps a file or folder out. -/
structure Filter where
  rules : List Ignore.Rule := []
  selection : Selection := {}

namespace Filter

def keepsFile (filter : Filter) (path : Text) : Bool :=
  !Ignore.ignored filter.rules path false && !filter.selection.excludes path

def keepsFolder (filter : Filter) (name path : Text) : Bool :=
  !skippedFolders.contains name && !Ignore.ignored filter.rules path true &&
    !filter.selection.excludes path

end Filter

/-- The path of a name in the folder at `folder`; the project's root has the empty path. -/
def below (folder name : Text) : Text :=
  if folder.isEmpty then name else folder ++ ['/'] ++ name

/-- Whether the link with this target in the folder at `place` leads to a folder. -/
def leadsToFolder (tree : FileTree) (place : Place) (target : Text) : Bool :=
  match
    tree.locateFrom true (FileTree.maxLinks - 1) (FileTree.targetStart place target)
      (FileTree.targetNames target) with
  | .found _ (.folder _) => true
  | _ => false

mutual

/-- The paths of the files kept among the entries of the folder at `place`. -/
def walk (tree : FileTree) (filter : Filter) (place : Place) (folder : Text) :
    List (Text × Entry) → List Text
  | [] => []
  | (name, entry) :: rest =>
    walkEntry tree filter place folder name entry ++ walk tree filter place folder rest

def walkEntry (tree : FileTree) (filter : Filter) (place : Place) (folder name : Text) :
    Entry → List Text
  | .file _ => [below folder name].filter filter.keepsFile
  | .link target =>
    if leadsToFolder tree place target then [] else [below folder name].filter filter.keepsFile
  | .folder entries =>
    if filter.keepsFolder name (below folder name) then
      walk tree filter (place ++ [name]) (below folder name) entries
    else []

end

/-- The kept files under the folder at `root`, in the order of their paths. -/
def candidates (tree : FileTree) (filter : Filter) (root : Place) : List Text :=
  match tree.root.at? root with
  | some (.folder entries) => (walk tree filter root [] entries).mergeSort Text.le
  | _ => []

/-- A path that is included and has a language. -/
def source? (registry : Registry) (selection : Selection) (root : Place) (path : Text) :
    Option Source :=
  if selection.includes path then
    (registry.forPath? path).map fun language =>
      { place := root ++ path.split '/', path, language }
  else none

/-- The sources under the folder at `root`, in the order of their paths. -/
def list (tree : FileTree) (registry : Registry) (filter : Filter) (root : Place) : List Source :=
  (candidates tree filter root).filterMap (source? registry filter.selection root)

end Sources

end Breadcrumb
