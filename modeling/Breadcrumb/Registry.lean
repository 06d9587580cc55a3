import Breadcrumb.Language
import Breadcrumb.Path
import Breadcrumb.Text.Blank
import Breadcrumb.Text.Case

namespace Breadcrumb

/-- Each extension's key has one language. -/
structure Registry where
  languages : List Language := []
  entries : List (Text × Language) := []

namespace Registry

/-- An extension that two languages, or one language twice, lay claim to. -/
structure Clash where
  key : Text
  earlier : Text
  later : Text
  deriving DecidableEq

def Clash.message (clash : Clash) : Text :=
  "Extension '".toList ++ clash.key ++ "' registered by both ".toList ++ clash.earlier ++
    " and ".toList ++ clash.later

/-- The form in which extensions are compared. -/
def key (extension : Text) : Text :=
  match extension.trim.lower with
  | [] => []
  | '.' :: rest => '.' :: rest
  | text => '.' :: text

def find? (registry : Registry) (k : Text) : Option Language :=
  (registry.entries.find? (·.1 = k)).map (·.2)

/-- The language of an extension. -/
def lookup? (registry : Registry) (extension : Text) : Option Language :=
  registry.find? (key extension)

def contains (registry : Registry) (extension : Text) : Bool := (registry.lookup? extension).isSome

def enter (language : Language) : List Text → Registry → Except Clash Registry
  | [], registry => .ok registry
  | extension :: rest, registry =>
    match registry.find? (key extension) with
    | some earlier => .error ⟨key extension, earlier.name, language.name⟩
    | none =>
      enter language rest
        { registry with entries := registry.entries ++ [(key extension, language)] }

def insert (registry : Registry) (language : Language) : Except Clash Registry :=
  (enter language language.extensions registry).map fun registry =>
    { registry with languages := registry.languages ++ [language] }

def ofListFrom : Registry → List Language → Except Clash Registry
  | registry, [] => .ok registry
  | registry, language :: rest => (registry.insert language).bind (ofListFrom · rest)

def ofList (languages : List Language) : Except Clash Registry := ofListFrom {} languages

def size (registry : Registry) : Nat := registry.languages.length

def extensions (registry : Registry) : List Text :=
  (registry.entries.map (·.1)).mergeSort Text.le

/-- The language of a file, by the suffix of its name; a name without one has none. -/
def forPath? (registry : Registry) (path : Text) : Option Language :=
  match (Path.ofText path).suffix with
  | [] => none
  | suffix => registry.lookup? suffix

/-- The registry of the languages that are known from the start. -/
def standard : Registry := (ofList Language.builtin).toOption.getD {}

/-- A registry without languages counts as none, and the standard one takes its place. -/
def orStandard (registry : Registry) : Registry := if registry.size = 0 then standard else registry

end Registry

end Breadcrumb
