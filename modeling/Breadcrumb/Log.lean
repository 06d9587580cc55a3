import Breadcrumb.Text

namespace Breadcrumb

namespace Log

inductive Level where
  | unset
  | debug
  | info
  | warning
  | error
  | critical
  deriving DecidableEq

namespace Level

def rank : Level → Nat
  | .unset => 0
  | .debug => 10
  | .info => 20
  | .warning => 30
  | .error => 40
  | .critical => 50

def name : Level → Text
  | .unset => "NOTSET".toList
  | .debug => "DEBUG".toList
  | .info => "INFO".toList
  | .warning => "WARNING".toList
  | .error => "ERROR".toList
  | .critical => "CRITICAL".toList

end Level

/-- A message from a component; the component without a name is the program itself. -/
structure Record where
  level : Level
  component : Text
  message : Text
  deriving DecidableEq

namespace Record

/-- The name under which a component logs. -/
def loggerName (component : Text) : Text :=
  if component.isEmpty then "codecrumbs".toList else "codecrumbs.".toList ++ component

/-- The line on the console; when verbose it names the component. -/
def consoleLine (verbose : Bool) (record : Record) : Text :=
  let source :=
    if verbose then
      ':' :: (if record.component.isEmpty then "main".toList else record.component)
    else []
  "[codecrumbs".toList ++ source ++ "] ".toList ++ record.level.name ++ " ".toList ++
    record.message ++ "\n".toList

/-- The line in a log file, which starts with the time. -/
def fileLine (stamp : Text) (record : Record) : Text :=
  stamp ++ " ".toList ++ record.level.name ++ " ".toList ++ loggerName record.component ++
    ": ".toList ++ record.message ++ "\n".toList

end Record

/-- The lines of the records at or above a level. -/
def console (verbose : Bool) (threshold : Level) (records : List Record) : Text :=
  (records.filter fun record => threshold.rank ≤ record.level.rank).flatMap
    (·.consoleLine verbose)

end Log

end Breadcrumb
