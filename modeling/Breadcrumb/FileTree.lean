import Breadcrumb.Encoding
import Breadcrumb.Named
import Breadcrumb.Path
import Breadcrumb.Text.Quoted

namespace Breadcrumb

/-- What a name in a folder stands for. -/
inductive Entry where
  | file (bytes : Bytes)
  | link (target : Text)
  | folder (entries : List (Text × Entry))

/-- The names on the way from the root folder. -/
abbrev Place := List Text

namespace Place

def toPath (place : Place) : Path := { root := ['/'], names := place }

def toText (place : Place) : Text := place.toPath.toText

end Place

namespace Entry

def at? : Entry → Place → Option Entry
  | entry, [] => some entry
  | .folder entries, name :: rest => (Named.get? entries name).bind (at? · rest)
  | _, _ :: _ => none

/-- Replaces what is at a place below; missing folders on the way are made. -/
def put (entry : Entry) (place : Place) (new : Entry) : Entry :=
  match place, entry with
  | [], _ => new
  | name :: rest, .folder entries =>
    .folder (Named.set entries name (put ((Named.get? entries name).getD (.folder [])) rest new))
  | _ :: _, entry => entry

def remove (entry : Entry) (place : Place) : Entry :=
  match place, entry with
  | [name], .folder entries => .folder (entries.filter (·.1 ≠ name))
  | name :: rest, .folder entries =>
    match Named.get? entries name with
    | some inner => .folder (Named.set entries name (remove inner rest))
    | none => .folder entries
  | _, entry => entry

mutual

/-- The files below an entry that lies at `place`. -/
def files (place : Place) : Entry → List (Place × Bytes)
  | .file bytes => [(place, bytes)]
  | .link _ => []
  | .folder entries => filesIn place entries

def filesIn (place : Place) : List (Text × Entry) → List (Place × Bytes)
  | [] => []
  | (name, entry) :: rest => files (place ++ [name]) entry ++ filesIn place rest

end

end Entry

/-- Everything from the root folder down, the folder that relative paths start from, and the home
folders of the user and of the other accounts. -/
structure FileTree where
  root : Entry := .folder []
  current : Place := []
  home : Text := []
  accounts : List (Text × Text) := []

/-- Why an entry cannot be reached or made. -/
inductive Errno where
  | missing
  | taken
  | notFolder
  | isFolder
  | nameTooLong
  | tooManyLinks
  deriving DecidableEq

namespace Errno

def code : Errno → Nat
  | .missing => 2
  | .taken => 17
  | .notFolder => 20
  | .isFolder => 21
  | .nameTooLong => 36
  | .tooManyLinks => 40

def wording : Errno → Text
  | .missing => "No such file or directory".toList
  | .taken => "File exists".toList
  | .notFolder => "Not a directory".toList
  | .isFolder => "Is a directory".toList
  | .nameTooLong => "File name too long".toList
  | .tooManyLinks => "Too many levels of symbolic links".toList

/-- Whether a mere question after the entry takes the failure for a no. -/
def meansAbsent : Errno → Bool
  | .missing | .notFolder | .tooManyLinks => true
  | _ => false

end Errno

/-- A path that is of no use. -/
inductive FileFault where
  | refused (errno : Errno) (path : Text)
  | nullInPath
  | linkLoop (path : Text)
  | homeUnknown
  deriving DecidableEq

def FileFault.message : FileFault → Text
  | .refused errno path =>
    "[Errno ".toList ++ Text.ofNat errno.code ++ "] ".toList ++ errno.wording ++ ": ".toList ++
      path.quoted
  | .nullInPath => "embedded null byte".toList
  | .linkLoop path => "Symlink loop from ".toList ++ path.quoted
  | .homeUnknown => "Could not determine home directory.".toList

end Breadcrumb
