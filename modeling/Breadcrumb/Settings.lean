import Breadcrumb.Double.Shortest
import Breadcrumb.FileTree.Store
import Breadcrumb.Text.Case
import Breadcrumb.Yaml.Value

namespace Breadcrumb

structure Settings where
  root : Place
  project : Option Text := none
  entry : Option Text := none
  linkBase : Text := []
  marker : Option Text := none
  format : Text := "markdown".toList
  output : Option Path := none
  included : List Text := []
  excluded : List Text := []

namespace Settings

def fileName : Text := ".codecrumbs.yml".toList

def formats : List Text := ["markdown".toList, "json".toList]

def isFormat (format : Text) : Bool := formats.contains format

/-- Why the settings of a project cannot be had. -/
inductive Fault where
  | access (fault : FileFault)
  | undecodable (fault : DecodeFault)
  | malformed (name : Text)
  | value (fault : Yaml.Fault)
  | unprintable (fault : Unprintable)
  | notMapping
  | unsupportedFormat (format : Text)
  deriving DecidableEq

def Fault.message : Fault → Text
  | .access fault => fault.message
  | .undecodable fault => fault.message
  | .malformed name => "Failed to parse ".toList ++ name
  | .value fault => fault.message
  | .unprintable fault => fault.message
  | .notMapping => fileName ++ " must contain a mapping at the root".toList
  | .unsupportedFormat format =>
    "Unsupported output format '".toList ++ format ++ "' in ".toList ++ fileName

/-- The name that documents are headed by; without one it is the folder's. -/
def projectName (settings : Settings) : Text :=
  match settings.project with
  | some (c :: name) => c :: name
  | _ =>
    match settings.root.getLast? with
    | some (c :: name) => c :: name
    | _ => "Project".toList

/-- An integer in decimal, if it is not too long. -/
def intText (n : Int) : Except Unprintable Text := Integer.written [n] (Text.ofInt n)

/-- The text of a setting: text as it is, numbers written out, and nothing for all else. -/
def text? : Option Yaml.Value → Except Unprintable (Option Text)
  | some (.scalar (.str text)) => .ok (some text)
  | some (.scalar (.int n)) => (intText n).map some
  | some (.scalar (.real x)) => .ok (some x.toText)
  | _ => .ok none

/-- The text of an item in a list, where truth values count too. -/
def itemText? : Yaml.Value → Except Unprintable (Option Text)
  | .scalar (.bool true) => .ok (some "True".toList)
  | .scalar (.bool false) => .ok (some "False".toList)
  | value => text? (some value)

def itemTexts : List Yaml.Value → Except Unprintable (List Text)
  | [] => .ok []
  | item :: items => do
    let text? ← itemText? item
    let texts ← itemTexts items
    return text?.toList ++ texts

/-- The texts of a setting that is a list; a single text is a list of one, bytes are a list of
numbers. -/
def texts : Option Yaml.Value → Except Unprintable (List Text)
  | some (.scalar (.str text)) => .ok [text]
  | some (.scalar (.binary bytes)) => .ok (bytes.map fun b => Text.ofNat b.toNat)
  | some (.list items) => itemTexts items
  | _ => .ok []

/-- A missing text and an empty one count the same. -/
def orElse (text? : Option Text) (default : Text) : Text :=
  match text? with
  | some (c :: text) => c :: text
  | _ => default

def ofPairs (root : Place) (pairs : List (Yaml.Value × Yaml.Value)) : Except Fault Settings := do
  let get (name : String) := Yaml.Value.get? pairs name.toList
  let text (name : String) := (text? (get name)).mapError Fault.unprintable
  let list (name : String) := (texts (get name)).mapError Fault.unprintable
  let format := (orElse (← text "format") "markdown".toList).lower
  if !isFormat format then throw (.unsupportedFormat format)
  let output := orElse (← text "output") []
  return {
    root
    project := ← text "project"
    entry := ← text "entry"
    linkBase := orElse (← text "source_prefix") []
    marker := ← text "marker"
    format
    output := if output.isEmpty then none else some (root.toPath.join (Path.ofText output))
    included := ← list "include"
    excluded := ← list "exclude" }

def ofValue (root : Place) (value : Yaml.Value) : Except Fault Settings :=
  if value.isEmpty then .ok { root }
  else
    match value with
    | .map pairs => ofPairs root pairs
    | _ => .error .notMapping

def ofText (root : Place) (file text : Text) : Except Fault Settings :=
  if text.trim.isEmpty then .ok { root }
  else
    match Yaml.load text with
    | .ok value => ofValue root value
    | .error .malformed => .error (.malformed file)
    | .error fault => .error (.value fault)

/-- The settings file that a path means: in the folder it names, or else beside it. -/
def file (tree : FileTree) (path : Path) : Except FileFault Place := do
  let path ← tree.expandHome path
  if ← tree.isFolder? path then tree.resolve (path.join (Path.ofText fileName))
  else if path.name ≠ fileName then tree.resolve (path.parent.join (Path.ofText fileName))
  else tree.resolve path

/-- The settings for a path; without a settings file they are the defaults. -/
def load (tree : FileTree) (path : Path) : Except Fault Settings := do
  let place ← (file tree path).mapError Fault.access
  let root ← (tree.resolve (Place.toPath place.dropLast)).mapError Fault.access
  if ← (tree.exists? place.toPath).mapError Fault.access then
    let bytes ← (tree.read place.toPath).mapError Fault.access
    let text ← (Encoding.utf8.decode bytes).mapError Fault.undecodable
    ofText root place.toPath.name text.unixLines
  else return { root }

end Settings

structure Overrides where
  project : Option Text := none
  entry : Option Text := none
  linkBase : Option Text := none
  marker : Option Text := none
  format : Option Text := none
  output : Option Path := none
  included : List Text := []
  excluded : List Text := []

namespace Settings

/-- What is asked for, unless it is empty. -/
def override (asked : Option Text) (own : Option Text) : Option Text :=
  match asked with
  | some (c :: text) => some (c :: text)
  | _ => own

def overrideList (asked own : List Text) : List Text := if asked.isEmpty then own else asked

/-- Every override that is not empty takes the place of the setting. -/
def merged (settings : Settings) (overrides : Overrides) : Settings :=
  { settings with
    project := override overrides.project settings.project
    entry := override overrides.entry settings.entry
    linkBase := orElse overrides.linkBase settings.linkBase
    marker := override overrides.marker settings.marker
    format := orElse overrides.format settings.format
    output := overrides.output.orElse fun _ => settings.output
    included := overrideList overrides.included settings.included
    excluded := overrideList overrides.excluded settings.excluded }

end Settings

end Breadcrumb
