import Breadcrumb.Text

namespace Breadcrumb

/-- `root` holds the leading slashes that count: none, one, or exactly two. -/
structure Path where
  root : Text := []
  names : List Text := []
  deriving DecidableEq

namespace Path

def isName (name : Text) : Bool := !name.isEmpty && name ≠ ['.']

def rootOf : Text → Text
  | '/' :: '/' :: '/' :: _ => ['/']
  | '/' :: '/' :: _ => ['/', '/']
  | '/' :: _ => ['/']
  | _ => []

def ofText (text : Text) : Path :=
  { root := rootOf text, names := (text.split '/').filter isName }

/-- The written form; a path without root and names is a dot. -/
def toText (path : Path) : Text :=
  if path.root.isEmpty && path.names.isEmpty then ['.']
  else path.root ++ Text.join ['/'] path.names

def isAbsolute (path : Path) : Bool := !path.root.isEmpty

def name (path : Path) : Text := path.names.getLast?.getD []

def parent (path : Path) : Path := { path with names := path.names.dropLast }

/-- An absolute path replaces the one it is joined to. -/
def join (path other : Path) : Path :=
  if other.isAbsolute then other else { path with names := path.names ++ other.names }

/-- The part of a name from its last dot on, if something stands on either side of the dot. -/
def suffixOf (name : Text) : Text :=
  let tail := name.reverse.takeWhile (· ≠ '.')
  if tail.isEmpty || name.length ≤ tail.length + 1 then [] else '.' :: tail.reverse

def suffix (path : Path) : Text := suffixOf path.name

/-- The text behind the last slash. -/
def baseName (path : Text) : Text := (path.reverse.takeWhile (· ≠ '/')).reverse

end Path

end Breadcrumb
