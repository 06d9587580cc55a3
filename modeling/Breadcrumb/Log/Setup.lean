import Breadcrumb.FileTree.Store
import Breadcrumb.Log

namespace Breadcrumb.Log

/-- The channels that are set up. -/
structure Setup where
  verbose : Bool := false
  file : Option Place := none

namespace Setup

/-- The least level shown on the console. -/
def threshold (setup : Setup) : Level := if setup.verbose then .debug else .info

/-- The least level that is logged at all; a log file takes every record. -/
def level (setup : Setup) : Level := if setup.file.isSome then .debug else setup.threshold

/-- What records look like on the console. -/
def console (setup : Setup) (records : List Record) : Text :=
  Log.console setup.verbose setup.threshold records

/-- The console of a program that has not been set up shows warnings and graver messages. -/
def bareConsole (records : List Record) : Text :=
  (records.filter fun record => Level.warning.rank ≤ record.level.rank).flatMap fun record =>
    record.message ++ ['\n']

/-- Sets up the channels, which replace earlier ones. The folders of the log file are made; if it
cannot be opened, the console stays. -/
def make (verbose : Bool) (file? : Option Path) (tree : FileTree) :
    FileTree × Setup × Option FileFault :=
  match file? with
  | none => (tree, { verbose }, none)
  | some path =>
    match tree.ensureFolders path.parent with
    | (tree, some fault) => (tree, { verbose }, some fault)
    | (tree, none) =>
      match tree.openFile (tree.absolute path).toPath with
      | .error fault => (tree, { verbose }, some fault)
      | .ok (place, bytes) => (tree.putFile place bytes, { verbose, file := some place }, none)

end Setup

end Breadcrumb.Log
