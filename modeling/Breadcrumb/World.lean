import Breadcrumb.Failure
import Breadcrumb.Log

namespace Breadcrumb

/-- A file whose crumbs are dropped, and why. -/
structure FileNote where
  path : Text
  reason : Text
  deriving DecidableEq

/-- `sink` is the log file, `notes` are those of the last scan, and `records` holds all that was
logged. -/
structure World where
  tree : FileTree
  mint : Nat → Text
  minted : Nat := 0
  stamp : Text := []
  sink : Option Place := none
  records : List Log.Record := []
  notes : List FileNote := []

namespace World

/-- Logs a record, also to the log file if there is one. -/
def emit (world : World) (record : Log.Record) : World :=
  { world with
    records := world.records ++ [record]
    tree :=
      match world.sink with
      | some place => world.tree.append place (Encoding.encode (record.fileLine world.stamp))
      | none => world.tree }

def emitAll (world : World) (records : List Log.Record) : World := records.foldl emit world

end World

/-- Work that may fail; what it has done to the world stays. -/
abbrev Session := ExceptT Failure (StateM World)

namespace Session

def say (level : Log.Level) (message : Text) : Session Unit :=
  modify (·.emit { level, component := "orchestrator".toList, message })

/-- Asks the files, which stay as they are. -/
def ask {α : Type} (question : FileTree → Except Failure α) : Session α := do
  match question (← get).tree with
  | .ok answer => return answer
  | .error failure => throw failure

end Session

end Breadcrumb
