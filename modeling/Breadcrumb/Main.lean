import Breadcrumb.Cli
import Std.Time.Format

namespace Breadcrumb.Main

/-- How deep a folder is read. -/
def maxDepth : Nat := 64

def name (place : Place) : String := String.ofList place.toText

def readFile (place : Place) : IO Entry := do
  return .file (← IO.FS.readBinFile (name place)).toList

/-- A scan reads sources, its settings and the lists of ignored files. -/
def isRead (place : Place) : Bool :=
  let last := place.getLast?.getD []
  (Registry.standard.forPath? last).isSome || last = ".gitignore".toList ||
    last = ".codecrumbs.yml".toList

/-- The entry at a place with what is below it; files for which `wanted` fails count as empty. -/
def snapshot (wanted : Place → Bool) : (depth : Nat) → Place → IO (Option Entry)
  | 0, _ => return none
  | depth + 1, place => do
    try
      let path := (← IO.currentDir) / name place
      match (← path.symlinkMetadata).type with
      | .symlink => return some (.link (← IO.FS.realPath path).toString.toList)
      | .dir =>
        let mut entries := []
        for child in ← path.readDir do
          let childName := child.fileName.toList
          if let some entry ← snapshot wanted depth (place ++ [childName]) then
            entries := (childName, entry) :: entries
        return some (.folder entries.reverse)
      | _ => if wanted place then return some (← readFile place) else return some (.file [])
    catch _ => return none

/-- A tree with an entry at a place that holds no folder yet. -/
def add (tree : FileTree) (place : Place) (entry : Entry) : FileTree :=
  match tree.root.at? place with
  | some (.folder (_ :: _)) => tree
  | _ => { tree with root := tree.root.put place entry }

/-- Adds the entry at a place, or the folder it would lie in, to a tree. -/
def adopt (wanted : Place → Bool) (depth : Nat) (tree : FileTree) (place : Place) :
    IO FileTree := do
  match ← snapshot wanted depth place with
  | some entry => return add tree place entry
  | none =>
    if ← ((← IO.currentDir) / name place.dropLast).isDir then
      return add tree place.dropLast (.folder [])
    return tree

def named (invocation : Invocation) : List Text :=
  invocation.logFile.toList ++
    match invocation.command with
    | .scan options => options.output.toList
    | .render options => [options.file, (Cli.htmlPath options).toText]
    | .serve _ => []

def scanned? (invocation : Invocation) : Option Text :=
  match invocation.command with
  | .scan options => some options.folder
  | _ => none

def place (tree : FileTree) (path : Text) : Place :=
  match tree.expandHome (Path.ofText path) with
  | .ok path => tree.absolute path
  | .error _ => tree.absolute (Path.ofText path)

def load (words : List Text) : IO FileTree := do
  let current := (Path.ofText (← IO.currentDir).toString.toList).names
  let home := ((← IO.getEnv "HOME").getD "").toList
  let mut tree : FileTree := { current, home }
  tree := { tree with root := tree.root.put current (.folder []) }
  if let .ok invocation := Invocation.read words then
    if let some folder := scanned? invocation then
      tree ← adopt isRead maxDepth tree (place tree folder)
    for path in named invocation do
      tree ← adopt (fun _ => true) 1 tree (place tree path)
  return tree

def store (before after : FileTree) : IO Unit := do
  let old := before.root.files []
  for (place, bytes) in after.root.files [] do
    unless old.lookup place = some bytes do
      IO.FS.createDirAll (name place.dropLast)
      IO.FS.writeBinFile (name place) ⟨bytes.toArray⟩

/-- Names for crumbs that no other run gives. -/
def freshMint : IO (Nat → Text) := do
  let seed := (← IO.getRandomBytes 16).toList.foldl (fun n byte => n * 256 + byte.toNat) 0
  return fun n => Text.hex 32 ((seed + n) % Nat.pow 2 128)

def unreachable (_ : Remote.Request) : Remote.Answer :=
  .unreachable "network access is not available".toList

/-- Says how the program ends, as an exit code. -/
def exitCode (ending : Cli.Ending) : IO UInt32 := do
  match ending with
  | .returned => return 0
  | .exited code => return code.toUInt32
  | .crashed crash =>
    IO.eprintln (String.ofList crash.message)
    return 1

end Breadcrumb.Main

open Breadcrumb in
def main (words : List String) : IO UInt32 := do
  let words := words.map String.toList
  let tree ← Main.load words
  let stamp := ((← Std.Time.PlainDateTime.now).format "uuuu-MM-dd HH:mm:ss,SSS").toList
  let report := Cli.run Main.unreachable { tree, mint := ← Main.freshMint, stamp } words
  Main.store tree report.world.tree
  IO.print (String.ofList report.stdout)
  IO.eprint (String.ofList report.stderr)
  unless report.served.isEmpty do
    IO.eprintln "Serving needs a network, which is not available."
    return 1
  Main.exitCode report.ending
