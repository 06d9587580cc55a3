import Breadcrumb.Proofs.Run.Shadowing
import Breadcrumb.Proofs.Sources.Adding
import Breadcrumb.Proofs.World.Recording

namespace Breadcrumb.Run

open Session

/-- The project's path as it is given, and as it is written once its folder is found. -/
inductive NamesProject (root : Text) (tree : FileTree) : Text → Prop
  | given : NamesProject root tree root
  | found : projectFolder root tree = .ok place → NamesProject root tree place.toText

/-- A run does not come by the log file: neither the project's path nor its settings file nor its
ignore file leads to it, and it has no language and does not lie on the way to a source or to the
document. `tree` holds the files without the log file, `opened` those with it, and `left` those that
the run leaves if it keeps no log. -/
structure Bypasses (registry : Registry) (root : Text) (overrides : Overrides) (log : Place)
    (tree opened left : FileTree) : Prop where
  language : registry.forPath? log.toText = none
  project : ∀ name path base, NamesProject root tree name →
    tree.expandHome (Path.ofText name) = .ok path → tree.resolve path = .ok base →
    opened.Misses log base.toPath
  settings : ∀ place file, projectFolder root tree = .ok place →
    Settings.file tree place.toPath = .ok file → opened.Misses log file.toPath
  ignoreFile : ∀ place base, projectFolder root tree = .ok place →
    projectFolder place.toText tree = .ok base →
    opened.Misses log (Place.toPath (base ++ [ignoreFile]))
  source : ∀ place chosen found, projectFolder root tree = .ok place →
    Run.settings place overrides tree = .ok chosen →
    sources registry place.toText chosen.included chosen.excluded tree = .ok found →
    ∀ source ∈ found, ¬ tree.Meets log source.place.toPath
  document : ∀ place chosen path, projectFolder root tree = .ok place →
    Run.settings place overrides tree = .ok chosen → chosen.output = some path →
    ¬ left.Meets log path

variable {registry : Registry} {root : Text} {overrides : Overrides} {log place : Place}
  {tree tree' opened left : FileTree} {world world' : World} {old bytes : Bytes}
  {found : List Source} {chosen : Settings}

theorem projectFolder_adds (h : FileTree.Adds log bytes tree tree')
    (hmisses : ∀ path place, tree.expandHome (Path.ofText root) = .ok path →
      tree.resolve path = .ok place → tree'.Misses log place.toPath) :
    projectFolder root tree' = projectFolder root tree := by
  rw [projectFolder, projectFolder, h.grows.expandHome]
  cases hpath : tree.expandHome (Path.ofText root) with
  | error fault => rfl
  | ok path =>
    simp only [Except.mapError, bind, Except.bind, h.resolve]
    cases hplace : tree.resolve path with
    | error fault => rfl
    | ok place => simp only [h.exists? (hmisses path place hpath hplace), h.isFolder?]

theorem ignoreRules_adds (h : FileTree.Adds log bytes tree tree')
    (hmisses : tree'.Misses log (Place.toPath (place ++ [ignoreFile]))) :
    ignoreRules tree' place = ignoreRules tree place := by
  rw [ignoreRules, ignoreRules, h.exists? hmisses]
  cases hthere : tree.exists? (Place.toPath (place ++ [ignoreFile])) with
  | error fault => rfl
  | ok there =>
    cases there with
    | false => rfl
    | true => rw [h.read_of_exists? hmisses hthere]

theorem settings_adds (h : FileTree.Adds log bytes tree tree')
    (hmisses : ∀ found, Settings.file tree place.toPath = .ok found →
      tree'.Misses log found.toPath) (overrides : Overrides) :
    settings place overrides tree' = settings place overrides tree := by
  have hfile : Settings.file tree' place.toPath = Settings.file tree place.toPath := by
    simp only [Settings.file, h.grows.expandHome, h.isFolder?, h.resolve]
  have hload : Settings.load tree' place.toPath = Settings.load tree place.toPath := by
    rw [Settings.load, Settings.load, hfile]
    cases hfound : Settings.file tree place.toPath with
    | error fault => rfl
    | ok found =>
      have hfoundMisses := hmisses found hfound
      simp only [Except.mapError, bind, Except.bind, h.resolve, h.exists? hfoundMisses]
      cases hthere : tree.exists? found.toPath with
      | error fault => rfl
      | ok there =>
        cases there with
        | false => rfl
        | true => rw [h.read_of_exists? hfoundMisses hthere]
  rw [settings, settings, hload]

theorem sources_adds (h : FileTree.Adds log bytes tree tree') (hproper : tree.root.Proper)
    (hproper' : tree'.root.Proper) (hlanguage : registry.forPath? log.toText = none)
    (hproject : projectFolder root tree' = projectFolder root tree)
    (hignore : ∀ base, projectFolder root tree = .ok base →
      tree'.Misses log (Place.toPath (base ++ [ignoreFile]))) (included excluded : List Text) :
    sources registry root included excluded tree' =
      sources registry root included excluded tree := by
  have hlist := Sources.list_adds h hproper hproper'
    (List.forall_mem_singleton.2 hlanguage : Sources.NoSource registry [log])
  rw [sources, sources, hproject]
  cases hbase : projectFolder root tree with
  | error failure => simp only [bind, Except.bind]
  | ok base => simp only [bind, Except.bind, ignoreRules_adds h (hignore base hbase), hlist]

/-- Worlds of which the second keeps a log file, while the files are as they were at first. -/
structure InStep (tree : FileTree) (log : Place) (old : Bytes) (world world' : World) : Prop where
  tree : world.tree = tree
  proper : world'.tree.root.Proper
  recorded : World.Recorded log old world world'

theorem logged_inStep : Logged (InStep tree log old) := by
  intro world world' record h
  refine ⟨?_, (h.recorded.hasLog.emit record).proper h.proper, h.recorded.emit record⟩
  rw [← h.tree]
  simp only [World.emit, h.recorded.silent]

theorem InStep.absorb (h : InStep tree log old world world') (outcome : Scan.Outcome) :
    InStep tree log old (absorb outcome world) (absorb outcome world') := by
  obtain ⟨htree, hproper, hrecorded⟩ := logged_inStep.emitAll h outcome.records
  refine ⟨htree, hproper, ?_, hrecorded.silent, hrecorded.tree⟩
  rw [Run.absorb, Run.absorb, h.recorded.minted, hrecorded.same]

theorem settle_emits (harvest : Harvest) (source : Source)
    (result : Except Scan.Fault (List Crumb)) :
    ∃ answer records, ∀ world,
      (harvest.settle source result).run world = (answer, world.emitAll records) := by
  cases result with
  | ok crumbs =>
    simp only [Harvest.settle, Harvest.keep]
    split
    · exact ⟨_, [], fun _ => rfl⟩
    · exact ⟨_, [_], fun _ => rfl⟩
  | error fault =>
    cases fault with
    | duplicate path line first => exact ⟨_, [_], fun _ => rfl⟩
    | undecodable fault => exact ⟨_, [_], fun _ => rfl⟩
    | tooManyDigits fault => exact ⟨_, [], fun _ => rfl⟩

theorem reject_emits (harvest : Harvest) (source : Source) (fault : FileFault) :
    ∃ answer records, ∀ world,
      (harvest.reject source fault).run world = (answer, world.emitAll records) := by
  cases fault with
  | refused errno path => exact ⟨_, [_], fun _ => rfl⟩
  | nullInPath => exact ⟨_, [], fun _ => rfl⟩
  | linkLoop path => exact ⟨_, [], fun _ => rfl⟩
  | homeUnknown => exact ⟨_, [], fun _ => rfl⟩

theorem mirrors_scan (sigil : Sigil) (harvest : Harvest) {source : Source}
    (hsource : ¬ tree.Meets log source.place.toPath) :
    Mirrors (InStep tree log old) (Harvest.scan sigil harvest source) := by
  intro world world' h
  have hread : world'.tree.read source.place.toPath = world.tree.read source.place.toPath := by
    rw [← h.tree] at hsource
    exact h.recorded.tree.read hsource
  have hjob : job sigil source world' = job sigil source world := by
    rw [job, job, h.recorded.mint, h.recorded.minted]
  cases hbytes : world.tree.read source.place.toPath with
  | error fault =>
    rw [Harvest.run_scan_of_error _ _ hbytes, Harvest.run_scan_of_error _ _ (hread.trans hbytes)]
    exact mirrors_of_emits logged_inStep (reject_emits harvest source fault) _ _ h
  | ok bytes =>
    rw [Harvest.run_scan_of_ok _ _ hbytes, Harvest.run_scan_of_ok _ _ (hread.trans hbytes), hjob]
    exact mirrors_of_emits logged_inStep (settle_emits harvest source _) _ _ (h.absorb _)

theorem mirrors_gather (request : Request)
    (hfound : ∀ source ∈ found, ¬ tree.Meets log source.place.toPath) :
    Mirrors (InStep tree log old) (gather request found) := by
  apply (mirrors_say logged_inStep _ _).bind
  intro done
  have hscan : Mirrors (InStep tree log old) (scanAll found request.marker) := by
    apply (mirrors_lift _).bind
    intro sign
    exact mirrors_foldlM
      (fun source hsource harvest => mirrors_scan sign harvest (hfound source hsource)) {}
  apply hscan.bind
  intro harvest
  have hnoted : Mirrors (InStep tree log old)
      (modify fun world => { world with notes := harvest.notes } : Session Unit) := by
    apply mirrors_modify
    intro world world' h
    refine ⟨h.tree, h.proper, ?_, h.recorded.silent, h.recorded.tree⟩
    rw [h.recorded.same]
  apply hnoted.bind
  intro noted
  apply (mirrors_say logged_inStep _ _).bind
  intro summed
  exact mirrors_lift _

theorem mirrors_collect (hbypass : Bypasses registry root overrides log tree opened left)
    (hopened : FileTree.Adds log bytes tree opened) (hproper : tree.root.Proper)
    (hplace : projectFolder root tree = .ok place)
    (hchosen : settings place overrides tree = .ok chosen) :
    Mirrors (InStep tree log old) (collect registry (requestOf place chosen)) := by
  have hask : ∀ world world', InStep tree log old world world' →
      sources registry place.toText chosen.included chosen.excluded world'.tree =
        sources registry place.toText chosen.included chosen.excluded world.tree ∧
      ∀ found,
        sources registry place.toText chosen.included chosen.excluded world.tree = .ok found →
        Mirrors (InStep tree log old) (gather (requestOf place chosen) found) := by
    rintro world world' ⟨htree, hproper', hrecorded⟩
    have hadds := hrecorded.tree
    rw [htree] at hadds ⊢
    have hmatches := hopened.matches hadds
    have hproject : projectFolder place.toText world'.tree = projectFolder place.toText tree :=
      projectFolder_adds hadds fun path base hpath hbase =>
        hmatches.misses (hbypass.project _ path base (.found hplace) hpath hbase)
    refine ⟨sources_adds hadds hproper hproper' hbypass.language hproject ?_ _ _, ?_⟩
    · intro base hbase
      exact hmatches.misses (hbypass.ignoreFile place base hplace hbase)
    · intro found hfound
      exact mirrors_gather _ (hbypass.source place chosen found hplace hchosen hfound)
  exact mirrors_ask_bind hask

theorem save_recorded (h : World.Recorded log old world world') {path : Path} {document : Text}
    (hmeets : ¬ ((save path document).run world).2.tree.Meets log path) :
    ((save path document).run world').1 = ((save path document).run world).1 ∧
      World.Recorded log old ((save path document).run world).2
        ((save path document).run world').2 := by
  rw [run_save] at hmeets
  have hfolders : ¬ (world.tree.ensureFolders path.parent).1.Meets log path := by
    intro hmet
    cases hfault : (world.tree.ensureFolders path.parent).2 with
    | some fault =>
      simp only [hfault] at hmeets
      exact hmeets hmet
    | none =>
      simp only [hfault] at hmeets
      cases hwrite : (world.tree.ensureFolders path.parent).1.write path
          (Encoding.encode document) with
      | error fault =>
        simp only [hwrite] at hmeets
        exact hmeets hmet
      | ok made =>
        simp only [hwrite] at hmeets
        obtain ⟨place, hgrows, -⟩ := FileTree.of_write hwrite
        exact hmeets (hmet.grows hgrows)
  obtain ⟨hadds, hfault⟩ := h.tree.ensureFolders fun hmet => hfolders hmet.of_parent
  rw [run_save, run_save, hfault]
  cases (world.tree.ensureFolders path.parent).2 with
  | some fault => exact ⟨rfl, h.store hadds⟩
  | none =>
    have hwrite := hadds.write hfolders (Encoding.encode document)
    generalize (world.tree.ensureFolders path.parent).1.write path _ = attempt at hwrite
    generalize (world'.tree.ensureFolders path.parent).1.write path _ = attempt' at hwrite
    cases hwrite with
    | ok made made' hmade => exact ⟨rfl, h.store hmade⟩
    | error fault => exact ⟨rfl, h.store hadds⟩

theorem deliver_recorded (h : World.Recorded log old world world') {document : Text}
    (hmeets : ∀ path ∈ chosen.output,
      ¬ ((deliver chosen document).run world).2.tree.Meets log path) :
    ((deliver chosen document).run world').1 = ((deliver chosen document).run world).1 ∧
      World.Recorded log old ((deliver chosen document).run world).2
        ((deliver chosen document).run world').2 := by
  cases houtput : chosen.output with
  | none =>
    rw [deliver, houtput]
    exact ⟨rfl, h⟩
  | some path =>
    have hmeets := hmeets path houtput
    rw [deliver, houtput] at hmeets ⊢
    simp only [run_bind] at hmeets ⊢
    have hsave : ¬ ((save path document).run world).2.tree.Meets log path := by
      intro hmet
      apply hmeets
      have hsaves := save_saves path document world
      generalize (save path document).run world = outcome at hmet hsaves ⊢
      cases hsaves with
      | failed failure tree => exact hmet
      | done place tree =>
        have hsay : ({ world with tree }.emit
            { level := .info, component := "orchestrator".toList
              message := "Wrote ".toList ++ chosen.format ++ " document to ".toList ++
                path.toText }).tree = tree := by simp only [World.emit, h.silent]
        exact hsay.symm ▸ hmet
    obtain ⟨hsame, hsaved⟩ := save_recorded h hsave
    generalize (save path document).run world = outcome at hsame hsaved ⊢
    generalize (save path document).run world' = outcome' at hsame hsaved ⊢
    obtain ⟨answer, saved⟩ := outcome
    obtain ⟨answer', saved'⟩ := outcome'
    cases hsame
    cases answer with
    | error failure => exact ⟨rfl, hsaved⟩
    | ok done => exact ⟨rfl, hsaved.emit _⟩

theorem run_conclude (chosen : Settings) (grouped : Grouped) (document : Text) (world : World) :
    (conclude chosen grouped document).run world =
      match (deliver chosen document).run world with
      | (.ok _, delivered) =>
        (.ok { grouped, document, format := chosen.format, output := chosen.output
               notes := delivered.notes }, delivered)
      | (.error failure, delivered) => (.error failure, delivered) := by
  rw [conclude, run_bind]
  rcases (deliver chosen document).run world with ⟨answer, delivered⟩
  cases answer <;> rfl

theorem conclude_recorded (h : World.Recorded log old world world') {grouped : Grouped}
    {document : Text} (hmeets : ∀ path ∈ chosen.output,
      ¬ ((conclude chosen grouped document).run world).2.tree.Meets log path) :
    ((conclude chosen grouped document).run world').1 =
        ((conclude chosen grouped document).run world).1 ∧
      World.Recorded log old ((conclude chosen grouped document).run world).2
        ((conclude chosen grouped document).run world').2 := by
  simp only [run_conclude] at hmeets ⊢
  have hdeliver : ∀ path ∈ chosen.output,
      ¬ ((deliver chosen document).run world).2.tree.Meets log path := by
    intro path hpath hmet
    apply hmeets path hpath
    generalize (deliver chosen document).run world = outcome at hmet ⊢
    obtain ⟨answer, delivered⟩ := outcome
    cases answer <;> exact hmet
  obtain ⟨hsame, hdelivered⟩ := deliver_recorded h hdeliver
  generalize (deliver chosen document).run world = outcome at hsame hdelivered ⊢
  generalize (deliver chosen document).run world' = outcome' at hsame hdelivered ⊢
  obtain ⟨answer, delivered⟩ := outcome
  obtain ⟨answer', delivered'⟩ := outcome'
  cases hsame
  cases answer with
  | error failure => exact ⟨rfl, hdelivered⟩
  | ok done =>
    have hnotes : delivered'.notes = delivered.notes := hdelivered.notes
    simp only [hnotes]
    exact ⟨trivial, hdelivered⟩

theorem proceed_recorded (h : InStep tree log old world world')
    (hcollect : Mirrors (InStep tree log old) (collect registry (requestOf place chosen)))
    (hmeets : ∀ path ∈ chosen.output,
      ¬ ((proceed registry place chosen).run world).2.tree.Meets log path) :
    ((proceed registry place chosen).run world').1 =
        ((proceed registry place chosen).run world).1 ∧
      World.Recorded log old ((proceed registry place chosen).run world).2
        ((proceed registry place chosen).run world').2 := by
  obtain ⟨hsame, hcollected⟩ := hcollect world world' h
  rw [proceed] at hmeets ⊢
  rw [run_bind] at hmeets ⊢
  rw [run_bind]
  generalize (collect registry (requestOf place chosen)).run world = outcome
    at hsame hcollected hmeets ⊢
  generalize (collect registry (requestOf place chosen)).run world' = outcome' at hsame hcollected ⊢
  obtain ⟨answer, collected⟩ := outcome
  obtain ⟨answer', collected'⟩ := outcome'
  cases hsame
  cases answer with
  | error failure => exact ⟨rfl, hcollected.recorded⟩
  | ok grouped =>
    dsimp only at hmeets ⊢
    cases hrender : render chosen grouped with
    | error failure => exact ⟨rfl, hcollected.recorded⟩
    | ok document =>
      rw [hrender] at hmeets
      exact conclude_recorded hcollected.recorded hmeets

/-- A run that does not come by its log file comes to the same as without one, and leaves the same
behind but for the log. -/
theorem run_recorded (h : World.Recorded log old world world') (hproper : world.tree.root.Proper)
    (hproper' : world'.tree.root.Proper) (hbypass : Bypasses registry root overrides log world.tree
      world'.tree ((run registry root overrides).run world).2.tree) :
    ((run registry root overrides).run world').1 = ((run registry root overrides).run world).1 ∧
      World.Recorded log old ((run registry root overrides).run world).2
        ((run registry root overrides).run world').2 := by
  have hproject : projectFolder root world'.tree = projectFolder root world.tree :=
    projectFolder_adds h.tree fun path base => hbypass.project root path base .given
  cases hplace : projectFolder root world.tree with
  | error failure =>
    rw [run, run_ask_bind_of_error hplace, run_ask_bind_of_error (hproject.trans hplace)]
    exact ⟨rfl, h⟩
  | ok place =>
    have hsettings : settings place overrides world'.tree = settings place overrides world.tree :=
      settings_adds h.tree (fun file => hbypass.settings place file hplace) overrides
    cases hchosen : settings place overrides world.tree with
    | error failure =>
      rw [run, run_ask_bind hplace, run_ask_bind (hproject.trans hplace),
        run_ask_bind_of_error hchosen, run_ask_bind_of_error (hsettings.trans hchosen)]
      exact ⟨rfl, h⟩
    | ok chosen =>
      cases hformat : Settings.isFormat chosen.format with
      | false =>
        rw [run, run_ask_bind hplace, run_ask_bind (hproject.trans hplace), run_ask_bind hchosen,
          run_ask_bind (hsettings.trans hchosen), hformat]
        exact ⟨rfl, h⟩
      | true =>
        have hcollect : Mirrors (InStep world.tree log old)
            (collect registry (requestOf place chosen)) :=
          mirrors_collect hbypass h.tree hproper hplace hchosen
        have hopened : InStep world.tree log old world world' := ⟨rfl, hproper', h⟩
        have hdocument := hbypass.document place chosen
        rw [run_eq_proceed registry hplace hchosen hformat] at hdocument ⊢
        rw [run_eq_proceed registry (hproject.trans hplace) (hsettings.trans hchosen) hformat]
        exact proceed_recorded (logged_inStep.emitAll hopened _) hcollect
          fun path hpath => hdocument path hplace hchosen hpath

end Breadcrumb.Run
