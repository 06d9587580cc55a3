import Breadcrumb.Document
import Breadcrumb.Document.Markdown
import Breadcrumb.Sources
import Breadcrumb.World

namespace Breadcrumb.Run

/-- The folder that a path names. -/
def projectFolder (root : Text) (tree : FileTree) : Except Failure Place := do
  let path ← (tree.expandHome (Path.ofText root)).mapError .access
  let place ← (tree.resolve path).mapError .access
  if !(← (tree.exists? place.toPath).mapError .access) then throw (.projectMissing root)
  if !(← (tree.isFolder? place.toPath).mapError .access) then throw (.projectNotFolder root)
  return place

def ignoreFile : Text := ".gitignore".toList

/-- The ignore rules of the project at a place. -/
def ignoreRules (tree : FileTree) (place : Place) : Except Failure (List Ignore.Rule) := do
  let path := Place.toPath (place ++ [ignoreFile])
  if ← (tree.exists? path).mapError .access then
    let bytes ← (tree.read path).mapError .access
    let text ← (Encoding.utf8.decode bytes).mapError .undecodable
    return Ignore.rules text.unixLines
  else return []

/-- The sources of the project that a path names. -/
def sources (registry : Registry) (root : Text) (included excluded : List Text) (tree : FileTree) :
    Except Failure (List Source) := do
  let place ← projectFolder root tree
  let rules ← ignoreRules tree place
  let selection ← (Selection.ofTexts included excluded).mapError .expression
  return Sources.list tree registry { rules, selection } place

/-- The sigil to look for; an empty one means the standard one. -/
def sigil (marker : Option Text) : Except Failure Sigil :=
  match marker with
  | some (c :: text) =>
    match Sigil.ofText? (c :: text) with
    | some sigil => .ok sigil
    | none => .error .blankSigil
  | _ => .ok .standard

/-- What the file of a source is scanned for; its crumbs are named after those found before. -/
def job (sigil : Sigil) (source : Source) (world : World) : Scan.Job where
  path := source.path
  language := source.language
  sigil := sigil
  mint n := world.mint (world.minted + n)

/-- Takes over the records and the names that the scan of a file has made. -/
def absorb (outcome : Scan.Outcome) (world : World) : World :=
  { world.emitAll outcome.records with minted := world.minted + outcome.minted }

/-- What a scan has found so far. -/
structure Harvest where
  crumbs : List (List Crumb) := []
  notes : List FileNote := []

namespace Harvest

def drop (harvest : Harvest) (source : Source) (verb reason : Text) : Session Harvest := do
  Session.say .warning (verb ++ source.path ++ ": ".toList ++ reason)
  return { harvest with notes := harvest.notes ++ [⟨source.path, reason⟩] }

def skipping : Text := "Skipping ".toList

def unreadable : Text := "Unable to read ".toList

def keep (harvest : Harvest) (source : Source) (crumbs : List Crumb) : Session Harvest := do
  if crumbs.isEmpty then return harvest
  else
    Session.say .debug
      (source.path ++ ": ".toList ++ Text.ofNat crumbs.length ++ " crumbs".toList)
    return { harvest with crumbs := harvest.crumbs ++ [crumbs] }

/-- Deals with what the scan of a file comes to. Only a marker with a numeral of excessive length
ends the whole scan. -/
def settle (harvest : Harvest) (source : Source) (result : Except Scan.Fault (List Crumb)) :
    Session Harvest :=
  match result with
  | .ok crumbs => harvest.keep source crumbs
  | .error (.duplicate path line first) =>
    harvest.drop source skipping (Scan.Fault.duplicate path line first).message
  | .error (.undecodable fault) => harvest.drop source unreadable fault.message
  | .error (.tooManyDigits fault) => throw (.tooManyDigits fault)

/-- Deals with a file that cannot be opened. A path that no file can have ends the whole scan. -/
def reject (harvest : Harvest) (source : Source) (fault : FileFault) : Session Harvest :=
  match fault with
  | .refused .. => harvest.drop source unreadable fault.message
  | _ => throw (.access fault)

def scan (sigil : Sigil) (harvest : Harvest) (source : Source) : Session Harvest := do
  let world ← get
  match world.tree.read source.place.toPath with
  | .error fault => harvest.reject source fault
  | .ok bytes =>
    let outcome := (job sigil source world).scanBytes .utf8 bytes
    modify (absorb outcome)
    harvest.settle source outcome.result

end Harvest

def scanAll (sources : List Source) (marker : Option Text) : Session Harvest := do
  let sigil ← ExceptT.mk (pure (sigil marker))
  sources.foldlM (Harvest.scan sigil) {}

structure Request where
  root : Text
  entry : Option Text := none
  included : List Text := []
  excluded : List Text := []
  marker : Option Text := none

def census (found : List Source) : Text :=
  "Walker found ".toList ++ Text.ofNat found.length ++ " candidate files".toList

def summary (stats : Stats) : Text :=
  "Collected ".toList ++ Text.ofNat stats.total ++ " crumbs: ".toList ++ Text.ofNat stats.main ++
    " main trails, ".toList ++ Text.ofNat stats.side ++ " side trails, ".toList ++
    Text.ofNat stats.remarks ++ " remarks".toList

/-- Scans every source of a project and groups the crumbs found. -/
def collect (registry : Registry) (request : Request) : Session Grouped := do
  let found ← Session.ask (sources registry request.root request.included request.excluded)
  Session.say .debug (census found)
  let harvest ← scanAll found request.marker
  modify fun world => { world with notes := harvest.notes }
  let grouped := Assembly.regroup (request.entry.getD []) harvest.crumbs
  Session.say .info (summary grouped.stats)
  return grouped

def render (settings : Settings) (grouped : Grouped) : Except Failure Text :=
  if settings.format = "json".toList then (Document.json? grouped).mapError .unprintable
  else if settings.format = "markdown".toList then
    (Document.Markdown.document?
      { project := settings.projectName, linkBase := settings.linkBase } grouped).mapError
        .unprintable
  else .error (.unsupportedFormat settings.format)

structure Result where
  grouped : Grouped
  document : Text
  format : Text
  output : Option Path
  notes : List FileNote

/-- The settings of the project at a place, under the overrides; the format is read without
regard to case. -/
def settings (place : Place) (overrides : Overrides) (tree : FileTree) : Except Failure Settings :=
  ((Settings.load tree place.toPath).mapError .settings).map fun settings =>
    settings.merged { overrides with format := overrides.format.map Text.lower }

/-- Writes the document, with the folders above it. -/
def save (path : Path) (document : Text) : Session Unit := do
  let (tree, fault?) := (← get).tree.ensureFolders path.parent
  modify ({ · with tree })
  match fault? with
  | some fault => throw (.access fault)
  | none =>
    match tree.write path (Encoding.encode document) with
    | .ok tree => modify ({ · with tree })
    | .error fault => throw (.access fault)

/-- Writes the document if the settings say where. -/
def deliver (settings : Settings) (document : Text) : Session Unit :=
  match settings.output with
  | some path => do
    save path document
    Session.say .info
      ("Wrote ".toList ++ settings.format ++ " document to ".toList ++ path.toText)
  | none => pure ()

def runAt (registry : Registry) (place : Place) (settings : Settings) : Session Result := do
  Session.say .info ("Scanning ".toList ++ place.toText)
  let grouped ← collect registry
    { root := place.toText, entry := settings.entry, included := settings.included
      excluded := settings.excluded, marker := settings.marker }
  let document ← ExceptT.mk (pure (render settings grouped))
  deliver settings document
  return { grouped, document, format := settings.format, output := settings.output
           notes := (← get).notes }

def run (registry : Registry) (root : Text) (overrides : Overrides) : Session Result := do
  let place ← Session.ask (projectFolder root)
  let settings ← Session.ask (settings place overrides)
  if !Settings.isFormat settings.format then throw (.unsupportedFormat settings.format)
  if (settings.entry.getD []).isEmpty then
    Session.say .warning
      "No entry point configured; every trail will be reported as a side trail".toList
  runAt registry place settings

end Breadcrumb.Run
