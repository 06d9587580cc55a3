import Breadcrumb.FileTree.Seek
import Breadcrumb.Text.Lines

namespace Breadcrumb.FileTree

def read (tree : FileTree) (path : Path) : Except FileFault Bytes :=
  match tree.locate true path with
  | .ok (.found _ (.file bytes)) => .ok bytes
  | .ok (.found _ _) => .error (.refused .isFolder path.toText)
  | .ok (.vacant _) => .error (.refused .missing path.toText)
  | .ok (.fault errno) => .error (.refused errno path.toText)
  | .error fault => .error fault

/-- The place that a file written to a path has, and what it holds so far. -/
def openFile (tree : FileTree) (path : Path) : Except FileFault (Place × Bytes) :=
  match tree.locate true path with
  | .ok (.found place (.file bytes)) => .ok (place, bytes)
  | .ok (.found _ _) => .error (.refused .isFolder path.toText)
  | .ok (.vacant place) => .ok (place, [])
  | .ok (.fault errno) => .error (.refused errno path.toText)
  | .error fault => .error fault

def putFile (tree : FileTree) (place : Place) (bytes : Bytes) : FileTree :=
  { tree with root := tree.root.put place (.file bytes) }

def append (tree : FileTree) (place : Place) (bytes : Bytes) : FileTree :=
  match tree.root.at? place with
  | some (.file old) => tree.putFile place (old ++ bytes)
  | _ => tree.putFile place bytes

def write (tree : FileTree) (path : Path) (bytes : Bytes) : Except FileFault FileTree :=
  (tree.openFile path).map fun (place, _) => tree.putFile place bytes

/-- Makes one folder where nothing is yet. -/
def makeFolder (tree : FileTree) (path : Path) : Except FileFault FileTree :=
  match tree.locate false path with
  | .ok (.vacant place) => .ok { tree with root := tree.root.put place (.folder []) }
  | .ok (.found _ _) => .error (.refused .taken path.toText)
  | .ok (.fault errno) => .error (.refused errno path.toText)
  | .error fault => .error fault

/-- A folder that could not be made is no fault if it is there. -/
def excuse (tree : FileTree) (path : Path) (fault : FileFault) : Option FileFault :=
  match fault with
  | .refused .. =>
    match tree.isFolder? path with
    | .ok true => none
    | .ok false => some fault
    | .error fault => some fault
  | _ => some fault

/-- Makes the folder at a path if its parent is there. -/
def ensureFolder (tree : FileTree) (path : Path) : FileTree × Option FileFault :=
  match tree.makeFolder path with
  | .ok tree => (tree, none)
  | .error (.refused .missing text) => (tree, some (.refused .missing text))
  | .error fault => (tree, tree.excuse path fault)

/-- Makes the folder at a path and up to `depth` missing folders above it, which stay even if it
cannot be made. -/
def ensureFoldersFrom (tree : FileTree) : (depth : Nat) → Path → FileTree × Option FileFault
  | 0, path => tree.ensureFolder path
  | depth + 1, path =>
    match tree.ensureFolder path with
    | (_, some (.refused .missing _)) =>
      match ensureFoldersFrom tree depth path.parent with
      | (tree, none) => tree.ensureFolder path
      | failed => failed
    | done => done

/-- Makes the folder at a path with all that is missing above it. -/
def ensureFolders (tree : FileTree) (path : Path) : FileTree × Option FileFault :=
  tree.ensureFoldersFrom path.names.length path

end Breadcrumb.FileTree
