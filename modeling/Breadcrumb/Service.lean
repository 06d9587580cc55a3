import Breadcrumb.Json.Reader
import Breadcrumb.Run

namespace Breadcrumb.Service

structure Request where
  method : Text := "POST".toList
  path : Text := "/scan".toList
  body : Text := []

structure ScanRequest where
  path : Text
  entry : Option Text := none
  project : Option Text := none
  linkBase : Option Text := none
  marker : Option Text := none
  format : Text := "json".toList
  included : List Text := []
  excluded : List Text := []

inductive Flaw where
  | missing
  | notText
  | notList
  | notFields
  | notJson
  deriving DecidableEq

namespace Flaw

def name : Flaw → Text
  | .missing => "missing".toList
  | .notText => "string_type".toList
  | .notList => "list_type".toList
  | .notFields => "model_attributes_type".toList
  | .notJson => "json_invalid".toList

end Flaw

/-- A step on the way to a part of the request: a field, or a position. -/
inductive Step where
  | field (name : Text)
  | index (n : Nat)
  deriving DecidableEq

structure Objection where
  flaw : Flaw
  place : List Step
  deriving DecidableEq

def inBody (steps : List Step) : List Step := .field "body".toList :: steps

inductive Response where
  | healthy
  | scanned (result : Run.Result)
  | objected (objections : List Objection)
  | refused (status : Nat) (detail : Text)
  | broken

namespace Response

def status : Response → Nat
  | .healthy | .scanned _ => 200
  | .objected _ => 422
  | .refused status _ => status
  | .broken => 500

def step : Step → Json
  | .field name => .str name
  | .index n => .int n

def objection (objection : Objection) : Json :=
  .obj [("type".toList, .str objection.flaw.name), ("loc".toList, .arr (objection.place.map step))]

def stats (stats : Stats) : Json :=
  .obj
    [("main".toList, .int stats.main), ("side".toList, .int stats.side),
      ("remarks".toList, .int stats.remarks), ("total".toList, .int stats.total)]

/-- The reasons by path; of several notes on one path the last counts. -/
def skipped (notes : List FileNote) : List (Text × Json) :=
  notes.foldl (fun fields note => Named.set fields note.path (.str note.reason)) []

/-- What the response carries; when all else fails it is a plain text. -/
def body : Response → Json
  | .healthy => .obj [("status".toList, .str "ok".toList)]
  | .scanned result =>
    .obj
      [("format".toList, .str result.format), ("document".toList, .str result.document),
        ("stats".toList, stats result.grouped.stats),
        ("skipped".toList, .obj (skipped result.notes))]
  | .objected objections => .obj [("detail".toList, .arr (objections.map objection))]
  | .refused _ detail => .obj [("detail".toList, .str detail)]
  | .broken => .str "Internal Server Error".toList

end Response

/-- A value, or the objections to it. -/
abbrev Checked (α : Type) := Except (List Objection) α

def object {α : Type} (flaw : Flaw) (place : List Step) : Checked α := .error [⟨flaw, place⟩]

/-- Both values, or all objections to them. -/
def both {α β γ : Type} (f : α → β → γ) (a : Checked α) (b : Checked β) : Checked γ :=
  match a, b with
  | .ok a, .ok b => .ok (f a b)
  | .ok _, .error late => .error late
  | .error early, .ok _ => .error early
  | .error early, .error late => .error (early ++ late)

def text (place : List Step) : Json → Checked Text
  | .str text => .ok text
  | _ => object .notText place

def optionalText (fields : List (Text × Json)) (name : String) : Checked (Option Text) :=
  match Json.field? fields name.toList with
  | none | some .null => .ok none
  | some value => (text (inBody [.field name.toList]) value).map some

def textsFrom (place : List Step) (n : Nat) : List Json → Checked (List Text)
  | [] => .ok []
  | item :: items =>
    both (· :: ·) (text (place ++ [.index n]) item) (textsFrom place (n + 1) items)

def texts (fields : List (Text × Json)) (name : String) : Checked (List Text) :=
  let place := inBody [.field name.toList]
  match Json.field? fields name.toList with
  | none => .ok []
  | some (.arr items) => textsFrom place 0 items
  | some _ => object .notList place

/-- A text with a default; null is no text. -/
def textOr (fields : List (Text × Json)) (name : String) (default : Text) : Checked Text :=
  match Json.field? fields name.toList with
  | none => .ok default
  | some value => text (inBody [.field name.toList]) value

def requiredText (fields : List (Text × Json)) (name : String) : Checked Text :=
  match Json.field? fields name.toList with
  | none => object .missing (inBody [.field name.toList])
  | some value => text (inBody [.field name.toList]) value

/-- Checks the fields of a request in their order. -/
def ofFields (fields : List (Text × Json)) : Checked ScanRequest :=
  let start : Checked ScanRequest := (requiredText fields "path").map fun path => { path }
  let start := both ({ · with entry := · }) start (optionalText fields "entry")
  let start := both ({ · with project := · }) start (optionalText fields "project")
  let start := both ({ · with linkBase := · }) start (optionalText fields "source_prefix")
  let start := both ({ · with marker := · }) start (optionalText fields "marker")
  let start := both ({ · with format := · }) start (textOr fields "format" "json".toList)
  let start := both ({ · with included := · }) start (texts fields "include")
  both ({ · with excluded := · }) start (texts fields "exclude")

/-- Why a body gives no request: it is objected to, or it cannot be read at all. -/
inductive BodyFault where
  | objected (objections : List Objection)
  | unreadable

/-- The request in a body, where a mark of the byte order is passed over; an empty body and null are
none. -/
def ofBody (body : Text) : Except BodyFault ScanRequest :=
  let absent := object .missing (inBody [])
  let isEmpty := body.isEmpty
  let body := if body.head? = some '\uFEFF' then body.tail else body
  match if isEmpty then .ok .null else Json.read body with
  | .ok .null => (absent : Checked ScanRequest).mapError .objected
  | .ok (.obj fields) => (ofFields fields).mapError .objected
  | .ok _ => (object .notFields (inBody [])).mapError .objected
  | .error (.syntaxAt left) =>
    .error (.objected [⟨.notJson, inBody [.index (body.length - left)]⟩])
  | .error .excessive => .error .unreadable

/-- The settings that a request asks for; the format is always among them. -/
def overrides (request : ScanRequest) : Overrides where
  project := request.project
  entry := request.entry
  linkBase := request.linkBase
  marker := request.marker
  format := some request.format
  included := request.included
  excluded := request.excluded

def failed (failure : Failure) : Response :=
  match failure.kind with
  | .missing => .refused 404 failure.message
  | .notFolder | .settings | .value => .refused 400 failure.message
  | .files | .unexpected => .broken

def scan (body : Text) (world : World) : Response × World :=
  match ofBody body with
  | .error (.objected objections) => (.objected objections, world)
  | .error .unreadable => (.refused 400 "There was an error parsing the body".toList, world)
  | .ok request =>
    match (Run.run .standard request.path (overrides request)).run world with
    | (.ok result, world) => (.scanned result, world)
    | (.error failure, world) => (failed failure, world)

/-- The path that a request means, without its query and the slashes at its end. -/
def route (path : Text) : Text :=
  let path := path.takeWhile fun c => c ≠ '?' && c ≠ '#'
  (path.reverse.dropWhile (· = '/')).reverse

def answer (request : Request) (world : World) : Response × World :=
  let path := route request.path
  let notAllowed := Response.refused 405 "Method Not Allowed".toList
  if path = "/health".toList then
    (if request.method = "GET".toList then .healthy else notAllowed, world)
  else if path = "/scan".toList then
    if request.method = "POST".toList then scan request.body world else (notAllowed, world)
  else (.refused 404 "Not Found".toList, world)

end Breadcrumb.Service
