import Breadcrumb.Invocation
import Breadcrumb.Log.Setup
import Breadcrumb.Remote
import Breadcrumb.Run

namespace Breadcrumb.Cli

/-- A failure that no command expects. -/
inductive Crash where
  | run (failure : Failure)
  | access (fault : FileFault)
  | undecodable (fault : DecodeFault)
  | remote (fault : Remote.Fault)
  deriving DecidableEq

def Crash.message : Crash → Text
  | .run failure => failure.message
  | .access fault => fault.message
  | .undecodable fault => fault.message
  | .remote fault => fault.message

inductive Ending where
  | returned
  | exited (code : Nat)
  | crashed (crash : Crash)
  deriving DecidableEq

structure Report where
  ending : Ending := .returned
  stdout : Text := []
  stderr : Text := []
  requests : List Remote.Request := []
  served : List ServeOptions := []
  world : World

namespace Report

def exit (world : World) (message : Text) : Report :=
  { ending := .exited 1, stderr := message ++ ['\n'], world }

def crash (world : World) (crash : Crash) : Report := { ending := .crashed crash, world }

end Report

/-- A path as seen from the current folder, if what it stands for lies below it. -/
def relative (tree : FileTree) (path : Path) : Text :=
  match tree.resolve path with
  | .ok place =>
    if tree.current.isPrefixOf place then
      ({ names := place.drop tree.current.length } : Path).toText
    else path.toText
  | .error _ => path.toText

def formatTitle : Text → Text
  | [] => []
  | c :: rest => c.toUpper :: rest

def overrides (options : ScanOptions) : Overrides where
  project := options.project
  entry := options.entry
  linkBase := options.linkBase
  marker := options.marker
  format := options.format
  output := (Remote.nonempty options.output).map Path.ofText
  included := options.included
  excluded := options.excluded

def scanFailed (world : World) (failure : Failure) : Report :=
  let said := "codecrumbs scan failed: ".toList ++ failure.message
  match failure.kind with
  | .missing | .notFolder => .exit world failure.message
  | .settings | .value => .exit world said
  | .files => .exit world (said ++ "\nRun with --verbose for more details.".toList)
  | .unexpected => .crash world (.run failure)

def scan (world : World) (options : ScanOptions) : Report :=
  match (Run.run .standard options.folder (overrides options)).run world with
  | (.error failure, world) => scanFailed world failure
  | (.ok result, world) =>
    match result.output with
    | some path =>
      { stdout :=
          formatTitle result.format ++ " document written to ".toList ++ relative world.tree path ++
            ['\n']
        world }
    | none => { stdout := result.document ++ ['\n'], world }

def client (options : RenderOptions) : Remote.Client where
  project := options.project
  clientId := options.clientId
  clientSecret := options.clientSecret

def mode (options : RenderOptions) : Remote.Mode :=
  if options.target = "gfm".toList then .gfm else .readme

def htmlPath (options : RenderOptions) : Path :=
  Path.ofText ((Remote.nonempty options.output).getD (options.file ++ ".html".toList))

def saveHtml (world : World) (requests : List Remote.Request) (path : Path) (html : Text) : Report :=
  match world.tree.write path (Encoding.encode html) with
  | .error fault => { Report.crash world (.access fault) with requests }
  | .ok tree =>
    { stdout := "HTML written to ".toList ++ relative tree path ++ ['\n'], requests
      world := { world with tree } }

def renderText (answer : Remote.Request → Remote.Answer) (world : World) (options : RenderOptions)
    (markdown : Text) : Report :=
  match Remote.request (client options) (mode options) markdown with
  | .error fault => .crash world (.remote fault)
  | .ok request =>
    match Remote.html (answer request) with
    | .ok html => saveHtml world [request] (htmlPath options) html
    | .error fault =>
      if fault.isService then
        { Report.exit world ("codecrumbs render failed: ".toList ++ fault.message) with
          requests := [request] }
      else { Report.crash world (.remote fault) with requests := [request] }

def render (answer : Remote.Request → Remote.Answer) (world : World) (options : RenderOptions) :
    Report :=
  match world.tree.read (Path.ofText options.file) with
  | .error fault =>
    match fault with
    | .refused .. => .exit world fault.message
    | _ => .crash world (.access fault)
  | .ok bytes =>
    match Encoding.utf8.decode bytes with
    | .error fault => .crash world (.undecodable fault)
    | .ok text => renderText answer world options text.unixLines

def perform (answer : Remote.Request → Remote.Answer) (world : World) : Command → Report
  | .scan options => scan world options
  | .render options => render answer world options
  | .serve options => { served := [options], world }

/-- Why the words of a command line are refused. -/
def refusal : Arguments.Exit → Ending × Text
  | .help => (.exited 0, [])
  | .refused title message => (.exited 2, title ++ ": error: ".toList ++ message ++ ['\n'])

/-- Runs a command line in a world; requests are answered by `answer`. -/
def run (answer : Remote.Request → Remote.Answer) (world : World) (words : List Text) : Report :=
  match Invocation.read words with
  | .error exit =>
    let (ending, stderr) := refusal exit
    { ending, stderr, world }
  | .ok invocation =>
    let file? := (Remote.nonempty invocation.logFile).map Path.ofText
    let (tree, setup, fault?) := Log.Setup.make invocation.verbose file? world.tree
    let world := { world with tree, sink := setup.file, records := [] }
    match fault? with
    | some fault => .crash world (.access fault)
    | none =>
      let report := perform answer world invocation.command
      { report with stderr := setup.console report.world.records ++ report.stderr }

end Breadcrumb.Cli
