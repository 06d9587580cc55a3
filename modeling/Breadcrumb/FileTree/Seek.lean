import Breadcrumb.FileTree

namespace Breadcrumb.FileTree

/-- Where a path leads: to an entry, to a name that is still free, or nowhere. -/
inductive Located where
  | found (place : Place) (entry : Entry)
  | vacant (place : Place)
  | fault (errno : Errno)

/-- A way down the tree ends, or meets a link before the names in `rest`. -/
inductive Descent where
  | done (located : Located)
  | link (folder : Place) (target : Text) (rest : List Text)

def maxNameSize : Nat := 255

def maxPathSize : Nat := 4095

def maxLinks : Nat := 40

def size (text : Text) : Nat := (Encoding.encode text).length

/-- The names in the target of a link; a slash at the end asks for a folder. -/
def targetNames (target : Text) : List Text :=
  ((target.split '/').filter (!·.isEmpty)) ++ (if target.getLast? = some '/' then [['.']] else [])

/-- Where the target of a link in `folder` starts from. -/
def targetStart (folder : Place) (target : Text) : Place :=
  if target.head? = some '/' then [] else folder

/-- Goes down from `place` up to the first link; the last name is left unfollowed on request. -/
def descend (tree : FileTree) (followLast : Bool) : Place → List Text → Descent
  | place, [] =>
    match tree.root.at? place with
    | some entry => .done (.found place entry)
    | none => .done (.fault .missing)
  | place, name :: rest =>
    match tree.root.at? place with
    | some (.folder entries) =>
      if name = ['.'] then descend tree followLast place rest
      else if name = ['.', '.'] then descend tree followLast place.dropLast rest
      else if maxNameSize < size name then .done (.fault .nameTooLong)
      else
        match Named.get? entries name with
        | none =>
          if rest.isEmpty then .done (.vacant (place ++ [name])) else .done (.fault .missing)
        | some (.link target) =>
          if rest.isEmpty && !followLast then .done (.found (place ++ [name]) (.link target))
          else .link place target rest
        | some _ => descend tree followLast (place ++ [name]) rest
    | some _ => .done (.fault .notFolder)
    | none => .done (.fault .missing)

/-- Goes down from `place`, following at most `links` links. -/
def locateFrom (tree : FileTree) (followLast : Bool) : (links : Nat) → Place → List Text → Located
  | 0, place, names =>
    match tree.descend followLast place names with
    | .done located => located
    | .link .. => .fault .tooManyLinks
  | links + 1, place, names =>
    match tree.descend followLast place names with
    | .done located => located
    | .link folder target rest =>
      locateFrom tree followLast links (targetStart folder target) (targetNames target ++ rest)

def start (tree : FileTree) (path : Path) : Place :=
  if path.isAbsolute then [] else tree.current

def hasNull (path : Path) : Bool := path.names.any (·.contains (Char.ofNat 0))

def locate (tree : FileTree) (followLast : Bool) (path : Path) : Except FileFault Located :=
  if hasNull path then .error .nullInPath
  else if maxPathSize < size path.toText then .ok (.fault .nameTooLong)
  else .ok (tree.locateFrom followLast maxLinks (tree.start path) path.names)

/-- The answer to a question after the entry at a path; what cannot be there is not there. -/
def ask (tree : FileTree) (question : Entry → Bool) (path : Path) : Except FileFault Bool :=
  match tree.locate true path with
  | .ok (.found _ entry) => .ok (question entry)
  | .ok (.vacant _) => .ok false
  | .ok (.fault errno) =>
    if errno.meansAbsent then .ok false else .error (.refused errno path.toText)
  | .error _ => .ok false

def exists? (tree : FileTree) (path : Path) : Except FileFault Bool := tree.ask (fun _ => true) path

def isFolder? (tree : FileTree) (path : Path) : Except FileFault Bool :=
  tree.ask (fun | .folder _ => true | _ => false) path

/-- The target of the link at a path, if a link is there. -/
def linkAt? (tree : FileTree) (path : Path) : Option Text :=
  match tree.locate false path with
  | .ok (.found _ (.link target)) => some target
  | _ => none

/-- One folder up; a relative path may climb above its start. -/
def up (path : Path) : Path :=
  if path.isAbsolute then path.parent
  else
    match path.names.getLast? with
    | none => { path with names := [['.', '.']] }
    | some name =>
      if name = ['.', '.'] then { path with names := path.names ++ [name] } else path.parent

/-- The links met so far, with the paths they stand for once these are known. -/
abbrev Met := List (Path × Option Path)

/-- A path with its links replaced, unless they go in a circle. -/
structure Resolution where
  path : Path
  met : Met
  circle : Bool := false

/-- Adds names to a resolved path, where `follow` resolves the links among them. -/
def extend (tree : FileTree) (follow : Met → Path → Text → Resolution) :
    Met → Path → List Text → Resolution
  | met, path, [] => { path, met }
  | met, path, name :: rest =>
    if !Path.isName name then extend tree follow met path rest
    else if name = ['.', '.'] then extend tree follow met (up path) rest
    else
      let next := { path with names := path.names ++ [name] }
      match tree.linkAt? next with
      | none => extend tree follow met next rest
      | some target =>
        match met.lookup next with
        | some (some resolved) => extend tree follow met resolved rest
        | some none => { path := { next with names := next.names ++ rest }, met, circle := true }
        | none =>
          let inner := follow ((next, none) :: met) path target
          if inner.circle then
            { inner with path := { inner.path with names := inner.path.names ++ rest } }
          else extend tree follow ((next, some inner.path) :: inner.met) inner.path rest

/-- Resolves a text that continues `path`, with at most `depth` links inside each other. -/
def resolveFrom (tree : FileTree) : (depth : Nat) → Met → Path → Text → Resolution
  | 0, met, path, _ => { path, met, circle := true }
  | depth + 1, met, path, text =>
    extend tree (resolveFrom tree depth) met (if text.head? = some '/' then { root := ['/'] } else path)
      (text.split '/')

def maxDepth : Nat := 1000

/-- Takes names one by one, with two dots for the way back. -/
def normalize (place : Place) (names : List Text) : Place :=
  names.foldl
    (fun place name =>
      if !Path.isName name then place
      else if name = ['.', '.'] then place.dropLast
      else place ++ [name])
    place

/-- The place a path spells, whatever lies on the way. -/
def absolute (tree : FileTree) (path : Path) : Place := normalize (tree.start path) path.names

/-- The place a path stands for once its links are replaced; nothing need be there. -/
def resolve (tree : FileTree) (path : Path) : Except FileFault Place :=
  if hasNull path then .error .nullInPath
  else
    let place := tree.absolute (tree.resolveFrom maxDepth [] {} path.toText).path
    match tree.locate true place.toPath with
    | .ok (.fault .tooManyLinks) => .error (.linkLoop place.toText)
    | _ => .ok place

/-- Replaces a leading tilde by the user's home folder, or that of the account it names. -/
def expandHome (tree : FileTree) (path : Path) : Except FileFault Path :=
  match path.isAbsolute, path.names with
  | false, ('~' :: account) :: rest =>
    let home? := if account.isEmpty then some tree.home else tree.accounts.lookup account
    match home? with
    | some home =>
      let start := Path.ofText home
      .ok { start with names := start.names ++ rest }
    | none => if account.contains (Char.ofNat 0) then .error .nullInPath else .error .homeUnknown
  | _, _ => .ok path

end Breadcrumb.FileTree
