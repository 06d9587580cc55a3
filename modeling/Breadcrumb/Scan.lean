import Breadcrumb.Language
import Breadcrumb.LineStream
import Breadcrumb.Log
import Breadcrumb.Marker
import Breadcrumb.Sigil

namespace Breadcrumb

namespace Scan

/-- Why the crumbs of a file are dropped. -/
inductive Fault where
  | duplicate (path : Text) (line first : Int)
  | tooManyDigits (fault : TooManyDigits)
  | undecodable (fault : DecodeFault)
  deriving DecidableEq

def Fault.message : Fault → Text
  | .duplicate path line first =>
    path ++ ":".toList ++ Text.ofInt line ++
      ": cannot place a marker in the same comment block multiple times (first marker on line ".toList
      ++ Text.ofInt first ++ ")".toList
  | .tooManyDigits fault => fault.message
  | .undecodable fault => fault.message

/-- What a file is scanned for, and how the crumbs found are named. -/
structure Job where
  path : Text
  language : Language
  sigil : Sigil
  mint : Nat → Text

/-- The crumbs whose run has ended, the crumb of the current run, and what has been said and
numbered so far. -/
structure State where
  closed : List Crumb := []
  current : Option Crumb := none
  records : List Log.Record := []
  minted : Nat := 0

/-- The scan of a file: its crumbs or a fault, the records made and the number of crumbs opened. -/
structure Outcome where
  result : Except Fault (List Crumb)
  records : List Log.Record
  minted : Nat

namespace State

/-- Every crumb takes the line if it still captures. -/
def capture (state : State) (line : Text) : State :=
  { state with
    closed := state.closed.map (·.capture line)
    current := state.current.map (·.capture line) }

/-- The crumbs found, the current one last. -/
def crumbs (state : State) : List Crumb := state.closed ++ state.current.toList

def close (state : State) : State := { state with closed := state.crumbs, current := none }

/-- A comment line behind the marker of its run. -/
def describe (state : State) (comment : Text) : State :=
  { state with
    current := state.current.map fun crumb =>
      { crumb with description := crumb.description ++ [comment] } }

def fault (state : State) (fault : Fault) : Outcome :=
  { result := .error fault, records := state.records, minted := state.minted }

end State

/-- The record of a field that could not be read. -/
def record (path : Text) (line : Int) (outcome : Marker.Outcome) : Log.Record where
  level := .debug
  component := "scanner".toList
  message :=
    path ++ ":".toList ++ Text.ofInt line ++ ": marker field '".toList ++ outcome.field.name ++
      "' ".toList ++ outcome.detail

namespace Job

/-- Opens the crumb of a marker. Its name is taken even if the marker cannot be read. -/
def openCrumb (job : Job) (state : State) (line : Int) (payload : Text) : Except Outcome State :=
  let blank : Crumb :=
    { id := job.mint state.minted, path := job.path, line, language := job.language.name }
  let state := { state with minted := state.minted + 1 }
  match Marker.parse payload with
  | .error fault => .error (state.fault (.tooManyDigits fault))
  | .ok marker =>
    .ok
      { state with
        current := some (marker.apply blank)
        records := state.records ++ marker.degraded.map (record job.path line) }

/-- One line of the file, the `line`-th. -/
def step (job : Job) (state : State) (line : Int) (raw : Text) : Except Outcome State :=
  let text := raw.trimLineEnd
  match job.language.comment? text with
  | none => .ok (state.capture text).close
  | some comment =>
    match job.sigil.payload? comment with
    | none => .ok ((state.describe comment).capture text)
    | some payload =>
      match state.current with
      | some crumb => .error (state.fault (.duplicate job.path line crumb.line))
      | none => job.openCrumb (state.capture text) line payload

/-- The remaining lines, then the fault that ends the stream if there is one. -/
def scanFrom (job : Job) (fault? : Option DecodeFault) : State → Int → List Text → Outcome
  | state, _, [] =>
    match fault? with
    | some fault => state.fault (.undecodable fault)
    | none =>
      { result := .ok state.crumbs, records := state.records, minted := state.minted }
  | state, line, raw :: rest =>
    match job.step state line raw with
    | .ok state => scanFrom job fault? state (line + 1) rest
    | .error outcome => outcome

/-- Scans a stream of lines, the first of which is line one. -/
def scan (job : Job) (stream : LineStream) : Outcome :=
  job.scanFrom stream.fault? {} 1 stream.lines

def scanLines (job : Job) (lines : List Text) : Outcome := job.scan (.ofText lines)

def scanBytes (job : Job) (encoding : Encoding) (bytes : Bytes) : Outcome :=
  job.scan (.read encoding LineStream.pieceSize bytes)

end Job

end Scan

end Breadcrumb
