import Breadcrumb.Proofs.FileTree.Storing
import Breadcrumb.Proofs.Run.Conservation
import Breadcrumb.Proofs.Run.Stages
import Breadcrumb.Proofs.World.Logging

namespace Breadcrumb.Run

open Session

theorem onlyLogs_drop (harvest : Harvest) (source : Source) (verb reason : Text) :
    OnlyLogs (harvest.drop source verb reason) := by
  apply (onlyLogs_say _ _).bind
  intro done
  exact onlyLogs_pure _

theorem onlyLogs_settle (harvest : Harvest) (source : Source)
    (result : Except Scan.Fault (List Crumb)) : OnlyLogs (harvest.settle source result) := by
  cases result with
  | ok crumbs =>
    rw [Harvest.settle, Harvest.keep]
    split
    · exact onlyLogs_pure _
    · apply (onlyLogs_say _ _).bind
      intro done
      exact onlyLogs_pure _
  | error fault =>
    cases fault with
    | duplicate path line first => exact onlyLogs_drop _ _ _ _
    | undecodable fault => exact onlyLogs_drop _ _ _ _
    | tooManyDigits fault => exact onlyLogs_throw _

theorem onlyLogs_reject (harvest : Harvest) (source : Source) (fault : FileFault) :
    OnlyLogs (harvest.reject source fault) := by
  cases fault with
  | refused errno path => exact onlyLogs_drop _ _ _ _
  | nullInPath => exact onlyLogs_throw _
  | linkLoop path => exact onlyLogs_throw _
  | homeUnknown => exact onlyLogs_throw _

theorem logs_absorb {world : World} (h : world.HasLog) (outcome : Scan.Outcome) :
    world.Logs (absorb outcome world) := by
  have hlogs := h.emitAll outcome.records
  exact ⟨hlogs.sink, hlogs.tree, hlogs.proper⟩

theorem onlyLogs_scan (sigil : Sigil) (harvest : Harvest) (source : Source) :
    OnlyLogs (Harvest.scan sigil harvest source) := by
  apply onlyLogs_get.bind
  intro world
  cases world.tree.read source.place.toPath with
  | error fault => exact onlyLogs_reject harvest source fault
  | ok bytes =>
    apply (onlyLogs_modify fun _ hlog => logs_absorb hlog _).bind
    intro done
    exact onlyLogs_settle _ _ _

theorem onlyLogs_scanAll (found : List Source) (marker : Option Text) :
    OnlyLogs (scanAll found marker) := by
  apply (onlyLogs_lift _).bind
  intro sign
  exact onlyLogs_foldlM (onlyLogs_scan sign) found {}

theorem onlyLogs_collect (registry : Registry) (request : Request) :
    OnlyLogs (collect registry request) := by
  apply (onlyLogs_ask _).bind
  intro found
  apply (onlyLogs_say _ _).bind
  intro done
  apply (onlyLogs_scanAll found _).bind
  intro harvest
  apply OnlyLogs.bind
  · apply onlyLogs_modify
    intro world _
    exact ⟨rfl, .refl _ _, id⟩
  intro noted
  apply (onlyLogs_say _ _).bind
  intro summed
  exact onlyLogs_pure _

theorem run_save (path : Path) (document : Text) (world : World) :
    (save path document).run world =
      match (world.tree.ensureFolders path.parent).2 with
      | some fault =>
        (.error (.access fault), { world with tree := (world.tree.ensureFolders path.parent).1 })
      | none =>
        match (world.tree.ensureFolders path.parent).1.write path (Encoding.encode document) with
        | .ok tree => (.ok (), { world with tree })
        | .error fault =>
          (.error (.access fault),
            { world with tree := (world.tree.ensureFolders path.parent).1 }) := by
  rw [save, run_get_bind]
  generalize world.tree.ensureFolders path.parent = made
  obtain ⟨tree, fault?⟩ := made
  cases fault? with
  | some fault => rfl
  | none =>
    simp only
    cases hwrite : tree.write path (Encoding.encode document) with
    | ok tree' => rfl
    | error fault => rfl

/-- What saving a document does: it fails, with folders made perhaps, or the document is in the file
that the path leads to. -/
inductive Saves (path : Path) (document : Text) (world : World) :
    Except Failure Unit × World → Prop
  | failed (failure : Failure) (tree : FileTree) : FileTree.Grows [] world.tree tree →
    Saves path document world (.error failure, { world with tree })
  | done (place : Place) (tree : FileTree) : FileTree.Grows [place] world.tree tree →
    tree.isFolder? path.parent = .ok true →
    tree.locate true path = .ok (.found place (.file (Encoding.encode document))) →
    Saves path document world (.ok (), { world with tree })

theorem save_saves (path : Path) (document : Text) (world : World) :
    Saves path document world ((save path document).run world) := by
  obtain ⟨hmade, hfolder⟩ := FileTree.ensureFolders_grows world.tree path.parent
  rw [run_save]
  cases hfault : (world.tree.ensureFolders path.parent).2 with
  | some fault => exact .failed _ _ hmade
  | none =>
    cases hwrite :
        (world.tree.ensureFolders path.parent).1.write path (Encoding.encode document) with
    | error fault => exact .failed _ _ hmade
    | ok tree =>
      obtain ⟨place, hgrows, hlocate⟩ := FileTree.of_write hwrite
      have hempty : [] ⊆ [place] := List.nil_subset _
      exact .done place tree ((hmade.mono hempty).trans hgrows) (hgrows.isFolder? (hfolder hfault))
        hlocate

/-- What a run does to the files. The log aside, it makes folders and writes the document to the
place that its path leads to. -/
inductive Leaves (world : World) : Except Failure Result × World → Prop
  | failed (failure : Failure) (world' : World) :
    FileTree.Grows world.sink.toList world.tree world'.tree →
    Leaves world (.error failure, world')
  | silent (result : Result) (world' : World) : result.output = none → world.Logs world' →
    Leaves world (.ok result, world')
  | wrote (result : Result) (world' : World) (path : Path) (place : Place) :
    result.output = some path → world'.sink = world.sink →
    FileTree.Grows (place :: world.sink.toList) world.tree world'.tree →
    world'.tree.isFolder? path.parent = .ok true →
    (∃ bytes, world'.tree.locate true path = .ok (.found place (.file bytes)) ∧
      (place ∉ world.sink → bytes = Encoding.encode result.document)) →
    Leaves world (.ok result, world')

theorem Leaves.of_logs {world mid : World} (hlogs : world.Logs mid) (h : Leaves mid outcome) :
    Leaves world outcome := by
  cases h with
  | failed failure world' hgrows =>
    rw [hlogs.sink] at hgrows
    exact .failed failure world' (hlogs.tree.forth.trans hgrows)
  | silent result world' houtput hmid => exact .silent result world' houtput (hlogs.trans hmid)
  | wrote result world' path place houtput hsink hgrows hfolder hfile =>
    rw [hlogs.sink] at hsink hgrows hfile
    have hfirst := hlogs.tree.forth.mono (List.subset_cons_self place _)
    exact .wrote result world' path place houtput hsink (hfirst.trans hgrows) hfolder hfile

theorem leaves_bind {α : Type} {work : Session α} {next : α → Session Result} (h : OnlyLogs work)
    {world : World} (hlog : world.HasLog)
    (hnext : ∀ a mid, mid.HasLog → Leaves mid ((next a).run mid)) :
    Leaves world ((work >>= next).run world) := by
  have hfirst := h world hlog
  rw [run_bind]
  cases hrun : work.run world with
  | mk answer mid =>
    rw [hrun] at hfirst
    cases answer with
    | ok a => exact (hnext a mid (hfirst.hasLog hlog)).of_logs hfirst
    | error failure => exact .failed failure mid hfirst.tree.forth

theorem leaves_saved {world saved world' : World} (hsaves : Saves path document world (.ok (), saved))
    (hlogs : saved.Logs world') (houtput : result.output = some path)
    (hdocument : result.document = document) : Leaves world (.ok result, world') := by
  cases hsaves with
  | done place tree hgrows hfolder hlocate =>
    have hforth := hlogs.tree.forth
    have hwritten : [place] ⊆ place :: world.sink.toList := by simp
    have hgrows := (hgrows.mono hwritten).trans (hforth.mono (List.subset_cons_self place _))
    refine .wrote result world' path place houtput hlogs.sink hgrows (hforth.isFolder? hfolder) ?_
    obtain ⟨entry, hfound, hentry⟩ := hforth.locate_found hlocate
    cases hentry with
    | file => exact ⟨_, hfound, fun _ => by rw [hdocument]⟩
    | rewritten hplace _ bytes =>
      refine ⟨bytes, hfound, fun hapart => (hapart ?_).elim⟩
      simpa using hplace

theorem leaves_conclude (chosen : Settings) (grouped : Grouped) (document : Text) {world : World}
    (hlog : world.HasLog) : Leaves world ((conclude chosen grouped document).run world) := by
  rw [conclude, deliver]
  cases chosen.output with
  | none => exact .silent _ world rfl (.refl world)
  | some path =>
    simp only [bind_assoc]
    rw [run_bind]
    have hsaves := save_saves path document world
    cases hrun : (save path document).run world with
    | mk answer saved =>
      rw [hrun] at hsaves
      cases answer with
      | error failure =>
        cases hsaves with
        | failed _ tree hgrows => exact .failed failure _ (hgrows.mono (List.nil_subset _))
      | ok done =>
        have hlog : saved.HasLog := by
          cases hsaves with
          | done place tree hgrows => exact hlog.of_grows rfl hgrows
        exact leaves_saved hsaves (onlyLogs_say _ _ saved hlog) rfl rfl

theorem leaves_runAt (registry : Registry) (place : Place) (chosen : Settings) {world : World}
    (hlog : world.HasLog) : Leaves world ((runAt registry place chosen).run world) := by
  apply leaves_bind (onlyLogs_say _ _) hlog
  intro _ mid hlog
  apply leaves_bind (onlyLogs_collect _ _) hlog
  intro grouped mid hlog
  apply leaves_bind (onlyLogs_lift _) hlog
  intro document mid hlog
  exact leaves_conclude chosen grouped document hlog

theorem leaves_run (registry : Registry) (root : Text) (overrides : Overrides) {world : World}
    (hlog : world.HasLog) : Leaves world ((run registry root overrides).run world) := by
  apply leaves_bind (onlyLogs_ask _) hlog
  intro place mid hlog
  apply leaves_bind (onlyLogs_ask _) hlog
  intro chosen mid hlog
  dsimp only
  split
  · exact .failed _ mid (.refl _ _)
  split
  · apply leaves_bind (onlyLogs_say _ _) hlog
    intro _ mid hlog
    exact leaves_runAt registry place chosen hlog
  · exact leaves_runAt registry place chosen hlog

/-- Outside some places there are the same files as before, with the same bytes. -/
def SameFiles (world world' : World) (apart : List Place) : Prop :=
  ∀ place bytes, place ∉ apart →
    (world'.tree.root.at? place = some (.file bytes) ↔ world.tree.root.at? place = some (.file bytes))

theorem sameFiles_of_grows {world world' : World}
    (h : FileTree.Grows written world.tree world'.tree) : SameFiles world world' written := by
  intro place bytes hplace
  exact (h.entry place).eq_file_iff hplace

/-- A run that fails changes no file, and one that writes no document changes nothing at all. A run
that writes its document leaves it as the whole of the file that the output path leads to, and
every other file as it was. The log file, if there is one, is set apart. -/
theorem run_touches_only_output (registry : Registry) (root : Text) (overrides : Overrides)
    (world world' : World) (answer : Except Failure Result) (hlog : world.HasLog)
    (h : (run registry root overrides).run world = (answer, world')) :
    match answer with
    | .error _ => SameFiles world world' world.sink.toList
    | .ok result =>
      match result.output with
      | none => ∀ place, place ∉ world.sink →
          world'.tree.root.outlineAt? place = world.tree.root.outlineAt? place
      | some path => ∃ place bytes,
          world'.tree.locate true path = .ok (.found place (.file bytes)) ∧
          (place ∉ world.sink → bytes = Encoding.encode result.document) ∧
          SameFiles world world' (place :: world.sink.toList) := by
  have hleaves := leaves_run registry root overrides hlog
  rw [h] at hleaves
  cases hleaves with
  | failed failure _ hgrows => exact sameFiles_of_grows hgrows
  | silent result _ houtput hlogs =>
    simp only [houtput]
    intro place hplace
    exact hlogs.tree.outlineAt?_eq (by simpa using hplace)
  | wrote result _ path place houtput _ hgrows _ hfile =>
    obtain ⟨bytes, hlocate, hbytes⟩ := hfile
    simp only [houtput]
    exact ⟨place, bytes, hlocate, hbytes, sameFiles_of_grows hgrows⟩

/-- A project with an ignore file that is no text, and a log file beside it. -/
def loggedWorld : World where
  tree :=
    { root := .folder [("p".toList, .folder [(ignoreFile, .file [0xff])]), ("l".toList, .file [])] }
  mint := Text.ofNat
  sink := some ["l".toList]

/-- A run that fails has added to its log file. -/
theorem run_writes_log : loggedWorld.HasLog ∧
    ∃ world', (run slashRegistry "/p".toList {}).run loggedWorld =
        (.error (.undecodable ⟨.invalidStart, 0xff, 0, 1⟩), world') ∧
      ¬ SameFiles loggedWorld world' [] := by
  have hrun : (run slashRegistry "/p".toList {}).run loggedWorld =
      (.error (.undecodable ⟨.invalidStart, 0xff, 0, 1⟩),
        loggedWorld.emitAll (opening ["p".toList] { root := ["p".toList] })) := rfl
  have hlog : ∃ b bytes, (loggedWorld.emitAll
      (opening ["p".toList] { root := ["p".toList] })).tree.root.at? ["l".toList] =
        some (.file (b :: bytes)) := ⟨_, _, rfl⟩
  obtain ⟨b, bytes, hbytes⟩ := hlog
  refine ⟨?_, _, hrun, ?_⟩
  · rintro place ⟨⟩
    exact ⟨_, rfl⟩
  · intro hsame
    have hempty := (hsame ["l".toList] [] List.not_mem_nil).2 rfl
    rw [hbytes] at hempty
    cases hempty
def writing (path : Path) : Overrides := { entry := some "a.go".toList, output := some path }

def writingSettings (path : Path) : Settings :=
  { root := ["p".toList], entry := some "a.go".toList, output := some path }

theorem run_writing (path : Path) :
    (run slashRegistry "/p".toList (writing path)).run repeatedWorld =
      (proceedOver ["p".toList] (writingSettings path)
        (["a.go".toList, "b.go".toList].filterMap
          (Sources.source? slashRegistry {} ["p".toList]))).run
        (repeatedWorld.emitAll (opening ["p".toList] (writingSettings path))) := by
  have hplace : projectFolder "/p".toList repeatedWorld.tree = .ok ["p".toList] := by decide
  have hchosen : settings ["p".toList] (writing path) repeatedWorld.tree =
      .ok (writingSettings path) := rfl
  exact run_eq_proceedOver slashRegistry hplace hchosen rfl rfl sources_repeated

def docsPath : Path := Path.ofText "/p/docs/crumbs.md".toList

theorem exists_run_docs : ∃ result world',
    (run slashRegistry "/p".toList (writing docsPath)).run repeatedWorld = (.ok result, world') ∧
      result.output = some docsPath := by
  have houtput : ((run slashRegistry "/p".toList (writing docsPath)).run
      repeatedWorld).1.toOption.bind (·.output) = some docsPath := by
    rw [run_writing]
    decide +kernel
  cases hrun : (run slashRegistry "/p".toList (writing docsPath)).run repeatedWorld with
  | mk answer world' =>
    rw [hrun] at houtput
    cases answer with
    | error failure => cases houtput
    | ok result => exact ⟨result, world', rfl, houtput⟩

theorem run_touches_only_output_docs :
    repeatedWorld.HasLog ∧
    ∃ result world' place,
      (run slashRegistry "/p".toList (writing docsPath)).run repeatedWorld = (.ok result, world') ∧
      world'.tree.locate true docsPath =
        .ok (.found place (.file (Encoding.encode result.document))) ∧
      SameFiles repeatedWorld world' [place] := by
  have hlog : repeatedWorld.HasLog := fun _ hmem => nomatch hmem
  obtain ⟨result, world', hrun, houtput⟩ := exists_run_docs
  have hfiles := run_touches_only_output slashRegistry "/p".toList (writing docsPath) repeatedWorld
    world' (.ok result) hlog hrun
  simp only [houtput] at hfiles
  obtain ⟨place, bytes, hlocate, hbytes, hsame⟩ := hfiles
  rw [hbytes (fun hmem => nomatch hmem)] at hlocate
  exact ⟨hlog, result, world', place, hrun, hlocate, hsame⟩

end Breadcrumb.Run
