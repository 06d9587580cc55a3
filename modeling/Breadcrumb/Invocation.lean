import Breadcrumb.Arguments

namespace Breadcrumb

/-- What a scan is told. -/
structure ScanOptions where
  folder : Text := ['.']
  project : Option Text := none
  entry : Option Text := none
  included : List Text := []
  excluded : List Text := []
  linkBase : Option Text := none
  marker : Option Text := none
  format : Option Text := none
  output : Option Text := none
  deriving DecidableEq

/-- What a rendering is told. -/
structure RenderOptions where
  file : Text
  source : Text := "markdown".toList
  target : Text := "readme".toList
  output : Option Text := none
  project : Text := []
  clientId : Option Text := none
  clientSecret : Option Text := none
  deriving DecidableEq

/-- What the service is told. -/
structure ServeOptions where
  host : Text := "127.0.0.1".toList
  port : Int := 8000
  deriving DecidableEq

inductive Command where
  | scan (options : ScanOptions)
  | render (options : RenderOptions)
  | serve (options : ServeOptions)
  deriving DecidableEq

/-- A command with the settings that all commands share. -/
structure Invocation where
  verbose : Bool := false
  logFile : Option Text := none
  command : Command
  deriving DecidableEq

namespace Invocation

open Arguments

def switch (kind : Kind) (name : String) (spellings : List String) (choices : List String := []) :
    Switch :=
  { name := name.toList, spellings := spellings.map String.toList, kind
    choices := choices.map String.toList }

def helpSwitch : Switch := switch .help "help" ["-h", "--help"]

def verboseSwitch : Switch := switch .flag "verbose" ["-v", "--verbose"]

def commands : List Text := ["scan".toList, "render".toList, "serve".toList]

def program : Grammar where
  title := "codecrumbs".toList
  switches := [helpSwitch, verboseSwitch, switch .text "log_file" ["--log-file"]]
  place := .command "command".toList

def scan : Grammar where
  title := "codecrumbs scan".toList
  switches :=
    [helpSwitch, verboseSwitch, switch .text "dir" ["-d", "--dir"],
      switch .text "project" ["-p", "--project"], switch .text "entry" ["-e", "--entry"],
      switch .list "include" ["--include"], switch .list "exclude" ["--exclude"],
      switch .text "source_prefix" ["--prefix"], switch .text "marker" ["--marker"],
      switch .text "format" ["-f", "--format"] ["markdown", "json"],
      switch .text "output" ["-o", "--out"]]

def render : Grammar where
  title := "codecrumbs render".toList
  switches :=
    [helpSwitch, verboseSwitch, switch .text "source_format" ["--from"] ["markdown"],
      switch .text "target_format" ["--to"] ["gfm", "readme"],
      switch .text "output" ["-o", "--output"], switch .text "project" ["-p", "--project"],
      switch .text "client_id" ["--client-id"], switch .text "client_secret" ["--client-secret"]]
  place := .word "file".toList

def serve : Grammar where
  title := "codecrumbs serve".toList
  switches :=
    [helpSwitch, verboseSwitch, switch .text "host" ["--host"], switch .number "port" ["--port"]]

def scanOptions (reading : Reading) : ScanOptions where
  folder := (reading.text? "dir").getD ['.']
  project := reading.text? "project"
  entry := reading.text? "entry"
  included := reading.texts "include"
  excluded := reading.texts "exclude"
  linkBase := reading.text? "source_prefix"
  marker := reading.text? "marker"
  format := reading.text? "format"
  output := reading.text? "output"

def renderOptions (reading : Reading) : RenderOptions where
  file := reading.word
  source := (reading.text? "source_format").getD "markdown".toList
  target := (reading.text? "target_format").getD "readme".toList
  output := reading.text? "output"
  project := (reading.text? "project").getD []
  clientId := reading.text? "client_id"
  clientSecret := reading.text? "client_secret"

def serveOptions (reading : Reading) : ServeOptions where
  host := (reading.text? "host").getD "127.0.0.1".toList
  port := (reading.number? "port").getD 8000

/-- The command that a word names, with the grammar of what follows it. -/
def command? (name : Text) : Option (Grammar × (Reading → Command)) :=
  if name = "scan".toList then some (scan, fun reading => .scan (scanOptions reading))
  else if name = "render".toList then some (render, fun reading => .render (renderOptions reading))
  else if name = "serve".toList then some (serve, fun reading => .serve (serveOptions reading))
  else none

def read (words : List Text) : Except Exit Invocation := do
  let outer ← program.read words
  match outer.words.getD [] with
  | [] => program.refuse []
  | name :: rest =>
    match command? name with
    | none =>
      program.refuseFor "command".toList
        ("invalid choice: ".toList ++ name.quoted ++ " (choose from ".toList ++
          Text.join ", ".toList (commands.map Text.quoted) ++ ")".toList)
    | some (grammar, make) =>
      let inner ← grammar.read rest
      match outer.extras ++ inner.extras with
      | [] =>
        return {
          verbose := outer.isSet "verbose" || inner.isSet "verbose"
          logFile := outer.text? "log_file"
          command := make inner }
      | extras =>
        program.refuse ("unrecognized arguments: ".toList ++ Text.join [' '] extras)

end Invocation

end Breadcrumb
