import Breadcrumb.Proofs.Cli.Ending
import Breadcrumb.Proofs.Invocation.Leading
import Breadcrumb.Proofs.Run.Recording

namespace Breadcrumb.Cli

variable {answer : Remote.Request → Remote.Answer} {world world' : World} {words : List Text}
  {invocation : Invocation} {options : ScanOptions} {file : Text} {log : Place} {old : Bytes}

/-- A file that a log can be kept in: its folder is there, and it can be opened to be written to. -/
structure LogFile (tree : FileTree) (file : Text) (log : Place) (old : Bytes) : Prop where
  named : file ≠ []
  folder : tree.isFolder? (Path.ofText file).parent = .ok true
  opens : tree.openFile (tree.absolute (Path.ofText file)).toPath = .ok (log, old)

inductive AsksLog (file : Text) : List Text → Prop
  | apart : file.head? ≠ some '-' → AsksLog file ["--log-file".toList, file]
  | joined : AsksLog file ["--log-file=".toList ++ file]

theorem AsksLog.leads (h : AsksLog file lead) :
    Invocation.program.Leads lead (Invocation.logKept file) := by
  cases h with
  | apart hfile => exact Invocation.leads_logFile hfile
  | joined => exact Invocation.leads_logFile_joined file

/-- The second report is the first one but for a log file, in which all records of the run are. -/
structure Report.KeepsLog (log : Place) (old : Bytes) (report report' : Report) : Prop where
  same : report' = { report with world := report'.world }
  recorded : World.Recorded log old report.world report'.world

theorem relative_adds {tree tree' : FileTree} (h : FileTree.Adds log bytes tree tree')
    (path : Path) : relative tree' path = relative tree path := by
  rw [relative, relative, h.resolve, h.current]

theorem scanFailed_world (world : World) (failure : Failure) :
    (scanFailed world failure).world = world := by
  rw [scanFailed]
  split <;> rfl

theorem scanFailed_keepsLog (h : World.Recorded log old world world') (failure : Failure) :
    Report.KeepsLog log old (scanFailed world failure) (scanFailed world' failure) := by
  refine ⟨?_, ?_⟩
  · rw [scanFailed_world, scanFailed, scanFailed]
    split <;> rfl
  · rw [scanFailed_world, scanFailed_world]
    exact h

theorem scan_world (world : World) (options : ScanOptions) :
    (scan world options).world =
      ((Run.run .standard options.folder (overrides options)).run world).2 := by
  rw [scan]
  split
  · rename_i failure after hrun
    rw [scanFailed_world, hrun]
  · rename_i result after hrun
    rw [hrun]
    split <;> rfl

/-- A scan that does not come by its log file says the same as without one. -/
theorem scan_keepsLog (h : World.Recorded log old world world') (hproper : world.tree.root.Proper)
    (hproper' : world'.tree.root.Proper) (hbypass : Run.Bypasses .standard options.folder
      (overrides options) log world.tree world'.tree (scan world options).world.tree) :
    Report.KeepsLog log old (scan world options) (scan world' options) := by
  rw [scan_world] at hbypass
  obtain ⟨hsame, hrecorded⟩ := Run.run_recorded h hproper hproper' hbypass
  rw [scan, scan]
  generalize (Run.run .standard options.folder (overrides options)).run world = outcome
    at hsame hrecorded ⊢
  generalize (Run.run .standard options.folder (overrides options)).run world' = outcome'
    at hsame hrecorded ⊢
  obtain ⟨result, after⟩ := outcome
  obtain ⟨result', after'⟩ := outcome'
  cases hsame
  cases result with
  | error failure => exact scanFailed_keepsLog hrecorded failure
  | ok result =>
    dsimp only
    cases result.output with
    | none => exact ⟨rfl, hrecorded⟩
    | some path =>
      dsimp only
      rw [relative_adds hrecorded.tree]
      exact ⟨rfl, hrecorded⟩

theorem run_of_make (h : Invocation.read words = .ok invocation)
    (hmake : Log.Setup.make invocation.verbose (logPath invocation) world.tree =
      (tree, setup, none)) :
    run answer world words =
      { perform answer (prepared world tree setup) invocation.command with
        stderr :=
          setup.console
            (perform answer (prepared world tree setup) invocation.command).world.records ++
          (perform answer (prepared world tree setup) invocation.command).stderr } := by
  rw [logPath] at hmake
  rw [run, h]
  simp only [hmake]
  rfl

theorem make_logFile (h : LogFile world.tree file log old) (verbose : Bool) :
    Log.Setup.make verbose (some (Path.ofText file)) world.tree =
      (world.tree.putFile log old, { verbose, file := some log }, none) := by
  simp only [Log.Setup.make, FileTree.ensureFolders_of_isFolder? h.folder, h.opens]

theorem recorded_prepared (h : LogFile world.tree file log old) (verbose : Bool) :
    World.Recorded log old (prepared world world.tree { verbose })
      (prepared world (world.tree.putFile log old) { verbose, file := some log }) := by
  refine ⟨rfl, rfl, ?_⟩
  have hlogged : (prepared world world.tree { verbose }).logged old = old := List.append_nil old
  rw [hlogged]
  exact FileTree.adds_putFile (FileTree.writable_of_openFile h.opens) old

theorem run_keepsLog (h : Invocation.read words = .ok invocation)
    (hscan : invocation.command = .scan options) (hnone : invocation.logFile = none)
    (hlog : LogFile world.tree file log old) (hproper : world.tree.root.Proper)
    (hbypass : Run.Bypasses .standard options.folder (overrides options) log world.tree
      (world.tree.putFile log old) (run answer world words).world.tree)
    (h' : Invocation.read words' = .ok { invocation with logFile := some file }) :
    Report.KeepsLog log old (run answer world words) (run answer world words') := by
  have hpath : logPath invocation = none := by
    rw [logPath, hnone]
    rfl
  have hpath' : logPath { invocation with logFile := some file } = some (Path.ofText file) := by
    obtain ⟨c, rest, hfile⟩ := List.exists_cons_of_ne_nil hlog.named
    rw [logPath, hfile]
    rfl
  have hrun : run answer world words = _ := run_of_make h (by rw [hpath]; rfl)
  have hrun' : run answer world words' = _ :=
    run_of_make h' ((congrArg (Log.Setup.make _ · _) hpath').trans (make_logFile hlog _))
  rw [hrun] at hbypass
  rw [hrun, hrun']
  dsimp only at hbypass ⊢
  rw [hscan] at hbypass ⊢
  have hproper' := FileTree.proper_putFile_absolute hproper
    (FileTree.written_ofText file).isName hlog.folder hlog.opens old
  obtain ⟨hsame, hrecorded⟩ := scan_keepsLog (recorded_prepared hlog invocation.verbose) hproper
    hproper' hbypass
  refine ⟨?_, hrecorded⟩
  dsimp only [perform]
  rw [hsame, hrecorded.records]
  rfl

theorem make_verbose (verbose verbose' : Bool) (file? : Option Path) (tree : FileTree) :
    ∃ made file fault?, Log.Setup.make verbose file? tree = (made, { verbose, file }, fault?) ∧
      Log.Setup.make verbose' file? tree = (made, { verbose := verbose', file }, fault?) := by
  cases file? with
  | none => exact ⟨tree, none, none, rfl, rfl⟩
  | some path =>
    simp only [Log.Setup.make]
    generalize tree.ensureFolders path.parent = ensured
    obtain ⟨made, fault?⟩ := ensured
    cases fault? with
    | some fault => exact ⟨made, none, some fault, rfl, rfl⟩
    | none =>
      dsimp only
      cases made.openFile (made.absolute path).toPath with
      | error fault => exact ⟨made, none, some fault, rfl, rfl⟩
      | ok opened => exact ⟨_, some opened.1, none, rfl, rfl⟩

/-- More to be said changes the console only. -/
theorem run_verbose (h : Invocation.read words = .ok invocation)
    (h' : Invocation.read words' = .ok { invocation with verbose := true }) :
    run answer world words' =
      { run answer world words with stderr := (run answer world words').stderr } := by
  have hpath : logPath { invocation with verbose := true } = logPath invocation := rfl
  obtain ⟨made, opened, fault?, hmake, hmake'⟩ :=
    make_verbose invocation.verbose true (logPath invocation) world.tree
  cases fault? with
  | none =>
    rw [run_of_make h hmake, run_of_make h' (hpath ▸ hmake')]
    rfl
  | some fault =>
    rw [logPath] at hmake hmake'
    rw [run, run, h, h']
    simp only [hmake, hmake']

theorem run_lead (h : Invocation.read (lead ++ words) = Invocation.read words) :
    run answer world (lead ++ words) = run answer world words := by
  rw [run, run, h]

/-- Asking for a log file that the run does not come by changes nothing but the log file, which
takes every record of the run; where one is asked for already, that one stays. Asking for more to be
said changes what is said of the records, and nothing else. Words that are refused stay so. -/
theorem run_scan_channels (answer : Remote.Request → Remote.Answer) (world : World)
    (words : List Text) :
    (∀ exit, Invocation.read words = .error exit →
      (∀ file lead, AsksLog file lead →
        run answer world (lead ++ words) = run answer world words) ∧
      ∀ word ∈ Invocation.verboseSwitch.spellings,
        run answer world (word :: words) = run answer world words) ∧
    ∀ invocation options, Invocation.read words = .ok invocation →
      invocation.command = .scan options →
      (invocation.logFile ≠ none → ∀ file lead, AsksLog file lead →
        run answer world (lead ++ words) = run answer world words) ∧
      (invocation.logFile = none → world.tree.root.Proper → ∀ file log old,
        LogFile world.tree file log old →
        Run.Bypasses .standard options.folder (overrides options) log world.tree
          (world.tree.putFile log old) (run answer world words).world.tree →
        (∀ lead, AsksLog file lead →
          Invocation.read (lead ++ words) = .ok { invocation with logFile := some file }) ∧
        ∀ words', Invocation.read words' = .ok { invocation with logFile := some file } →
          Report.KeepsLog log old (run answer world words) (run answer world words')) ∧
      ∀ word ∈ Invocation.verboseSwitch.spellings,
        Invocation.read (word :: words) = .ok { invocation with verbose := true } ∧
        ∀ words', Invocation.read words' = .ok { invocation with verbose := true } →
          run answer world words' =
            { run answer world words with stderr := (run answer world words').stderr } := by
  refine ⟨?_, ?_⟩
  · intro exit h
    refine ⟨?_, ?_⟩
    · intro file lead hlead
      exact run_lead ((Invocation.read_lead_of_error hlead.leads rfl h).trans h.symm)
    · intro word hword
      have hlead := Invocation.leads_verbose hword
      exact run_lead ((Invocation.read_lead_of_error hlead rfl h).trans h.symm)
  · intro invocation options h hscan
    have hread {file lead} (hlead : AsksLog file lead) := Invocation.read_lead_logFile hlead.leads h
    refine ⟨?_, ?_, ?_⟩
    · intro hsome file lead hlead
      obtain ⟨other, hother⟩ := Option.ne_none_iff_exists'.1 hsome
      have hsame := hread hlead
      rw [hother, Option.some_or, ← hother] at hsame
      exact run_lead (hsame.trans h.symm)
    · intro hnone hproper file log old hlog hbypass
      refine ⟨?_, ?_⟩
      · intro lead hlead
        rw [hread hlead, hnone, Option.none_or]
      · intro words' h'
        exact run_keepsLog h hscan hnone hlog hproper hbypass h'
    · intro word hword
      exact ⟨Invocation.read_lead_verbose hword h, fun words' h' => run_verbose h h'⟩

def noteWorld : World where
  tree := { root := .folder [("a.go".toList, .file (Encoding.encode "// cc: A; 1\n".toList))] }
  mint := Text.ofNat

def scanWords : List Text := ["scan".toList]

def logPlace : Place := ["x.log".toList]

theorem read_scanWords : Invocation.read scanWords = .ok { command := .scan {} } := rfl

theorem logFile_noteWorld : LogFile noteWorld.tree "x.log".toList logPlace [] :=
  ⟨by decide, rfl, rfl⟩

theorem forPath?_logPlace : Registry.standard.forPath? logPlace.toText = none := by rfl

theorem not_meets_logPlace : ¬ noteWorld.tree.Meets logPlace (Place.toPath ["a.go".toList]) := by
  intro h
  cases h with
  | enter _ _ h => cases h
  | follow _ hlink => cases hlink

theorem bypasses_noteWorld (left : FileTree) :
    Run.Bypasses .standard ['.'] (overrides {}) logPlace noteWorld.tree
      (noteWorld.tree.putFile logPlace []) left := by
  have hproject : Run.projectFolder ['.'] noteWorld.tree = .ok [] := rfl
  have hplaces {place : Place} (h : Run.projectFolder ['.'] noteWorld.tree = .ok place) :
      place = [] := Except.ok.inj (h.symm.trans hproject)
  constructor
  · exact forPath?_logPlace
  · intro name path base hname hpath hbase
    have hroot : base = [] := by
      cases hname with
      | given =>
        cases hpath
        cases hbase
        rfl
      | found hplace =>
        obtain rfl := hplaces hplace
        cases hpath
        cases hbase
        rfl
    subst hroot
    intro entry hlocate
    cases hlocate
  · intro place found hplace hfound
    obtain rfl := hplaces hplace
    cases hfound
    intro entry hlocate
    cases hlocate
  · intro place base hplace hbase
    obtain rfl := hplaces hplace
    cases hbase
    intro entry hlocate
    cases hlocate
  · intro place chosen found hplace hchosen hfound source hsource
    obtain rfl := hplaces hplace
    cases hchosen
    cases hfound
    obtain ⟨path, hpath, hsource⟩ := List.mem_filterMap.1 hsource
    have hcandidates : Sources.candidates noteWorld.tree {} [] = ["a.go".toList] :=
      List.mergeSort_singleton _
    obtain rfl := List.mem_singleton.1 (hcandidates ▸ hpath)
    rw [Sources.source?] at hsource
    split at hsource
    · obtain ⟨language, -, rfl⟩ := Option.map_eq_some_iff.1 hsource
      exact not_meets_logPlace
    · cases hsource
  · intro place chosen path hplace hchosen houtput
    obtain rfl := hplaces hplace
    cases hchosen
    cases houtput

theorem run_scan_channels_noteWorld :
    Invocation.read [] = .error (.refused Invocation.program.title
      "the following arguments are required: command".toList) ∧
    run silent noteWorld (["--log-file=x.log".toList] ++ []) = run silent noteWorld [] ∧
    Invocation.read scanWords = .ok { command := .scan {} } ∧
    noteWorld.tree.root.Proper ∧ LogFile noteWorld.tree "x.log".toList logPlace [] ∧
    Report.KeepsLog logPlace [] (run silent noteWorld scanWords)
      (run silent noteWorld ("--log-file=x.log".toList :: scanWords)) ∧
    run silent noteWorld (["--log-file=y.log".toList] ++ "--log-file=x.log".toList :: scanWords) =
      run silent noteWorld ("--log-file=x.log".toList :: scanWords) ∧
    run silent noteWorld ("-v".toList :: scanWords) =
      { run silent noteWorld scanWords with
        stderr := (run silent noteWorld ("-v".toList :: scanWords)).stderr } := by
  have hasks (file : Text) : AsksLog file ["--log-file=".toList ++ file] := .joined
  have hproper : noteWorld.tree.root.Proper := .singleton (by decide) (.file _)
  obtain ⟨-, hkeeps, hverbose⟩ :=
    (run_scan_channels silent noteWorld scanWords).2 _ _ read_scanWords rfl
  obtain ⟨hreads, hkeeps⟩ := hkeeps rfl hproper "x.log".toList logPlace [] logFile_noteWorld
    (bypasses_noteWorld _)
  have hread := hreads _ (hasks _)
  obtain ⟨hreadVerbose, hverbose⟩ := hverbose "-v".toList (.head _)
  have hrefused := (run_scan_channels silent noteWorld []).1 _ rfl
  have hasked := (run_scan_channels silent noteWorld _).2 _ _ hread rfl
  refine ⟨rfl, ?_, read_scanWords, hproper, logFile_noteWorld, hkeeps _ hread, ?_, ?_⟩
  · exact hrefused.1 "x.log".toList _ (hasks _)
  · exact hasked.1 nofun "y.log".toList _ (hasks _)
  · exact hverbose _ hreadVerbose

def bareWorld : World where
  tree := {}
  mint := Text.ofNat

def namingWords : List Text := ["scan".toList, "-d".toList, "x.log".toList]

/-- Where the project's path names the log file, there is no such path without the log, and a path
that is no folder with it. -/
theorem logFile_is_project :
    Invocation.read namingWords = .ok { command := .scan { folder := "x.log".toList } } ∧
    LogFile bareWorld.tree "x.log".toList logPlace [] ∧
    Registry.standard.forPath? logPlace.toText = none ∧
    logPlace.getLast? ≠ some Run.ignoreFile ∧ logPlace.getLast? ≠ some Settings.fileName ∧
    AsksLog "x.log".toList ["--log-file".toList, "x.log".toList] ∧
    (run silent bareWorld namingWords).world.tree = bareWorld.tree ∧
    (run silent bareWorld namingWords).stderr = "Project path not found: x.log\n".toList ∧
    (run silent bareWorld (["--log-file".toList, "x.log".toList] ++ namingWords)).stderr =
      "Project path is not a directory: x.log\n".toList ∧
    (run silent bareWorld (["--log-file".toList, "x.log".toList] ++ namingWords)).stderr ≠
      (run silent bareWorld namingWords).stderr := by
  have hplain : (run silent bareWorld namingWords).stderr =
      "Project path not found: x.log\n".toList := by rfl
  have hlogged : (run silent bareWorld
      (["--log-file".toList, "x.log".toList] ++ namingWords)).stderr =
        "Project path is not a directory: x.log\n".toList := by rfl
  refine ⟨rfl, ⟨by decide, rfl, rfl⟩, forPath?_logPlace, by decide, by decide, .apart (by decide),
    rfl, hplain, hlogged, ?_⟩
  rw [hplain, hlogged]
  decide

end Breadcrumb.Cli
