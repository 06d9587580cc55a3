import Breadcrumb.Proofs.Document.Reordering
import Breadcrumb.Proofs.Run.Sparing

namespace Breadcrumb.Run

open Session

variable {world world' later : World} {tree : FileTree} {place : Place} {registry : Registry}
  {request : Request} {found : List Source} {sign : Sigil} {source : Source}

def remark? (sign : Sigil) (tree : FileTree) (source : Source) : Option FileNote :=
  match verdict sign tree source with
  | .ok _ => none
  | .error fault => some ⟨source.path, fault.message⟩

def Ends (sign : Sigil) (tree : FileTree) (source : Source) : Prop :=
  FileTree.hasNull source.place.toPath = true ∨
    ∃ fault, verdict sign tree source = .error (.unscanned (.tooManyDigits fault))

theorem note?_of_mem (hstand : Stand world.tree found) (hlogs : LogsApart world found)
    (hvisit : visit ∈ visitsFrom sign (world.emit record) found) :
    visit.note? = remark? sign world.tree visit.source := by
  rw [Visit.note?, remark?, ← unnamed_scan_of_mem hstand hlogs hvisit]
  cases visit.scan <;> rfl

theorem filterMap_note? (hstand : Stand world.tree found) (hlogs : LogsApart world found)
    (sign : Sigil) (record : Log.Record) :
    (visitsFrom sign (world.emit record) found).filterMap (·.note?) =
      found.filterMap (remark? sign world.tree) := by
  calc (visitsFrom sign (world.emit record) found).filterMap (·.note?)
    _ = (visitsFrom sign (world.emit record) found).filterMap
          (fun visit => remark? sign world.tree visit.source) :=
        List.filterMap_congr fun visit hvisit => note?_of_mem hstand hlogs hvisit
    _ = ((visitsFrom sign (world.emit record) found).map (·.source)).filterMap
          (remark? sign world.tree) := by
        rw [List.filterMap_map]
        rfl
    _ = found.filterMap (remark? sign world.tree) := by rw [visitsFrom_sources]

/-- What a collection comes to, told from the files alone. -/
structure Gathers (registry : Registry) (request : Request) (tree : FileTree) (grouped : Grouped)
    (notes : List FileNote) (found : List Source) (sign : Sigil) : Prop where
  ofSources : sources registry request.root request.included request.excluded tree = .ok found
  ofSigil : sigil request.marker = .ok sign
  goes : ∀ source ∈ found, ¬ Ends sign tree source
  groups : ∃ files, grouped = Assembly.regroup (request.entry.getD []) files ∧
    files.flatten.map Crumb.unnamed = found.flatMap (yields sign tree)
  noted : notes = found.filterMap (remark? sign tree)

theorem Gathers.unnamed_eq (h : Gathers registry request tree grouped notes found sign)
    (h' : Gathers registry request tree grouped' notes' found' sign') :
    grouped'.mapCrumbs Crumb.unnamed = grouped.mapCrumbs Crumb.unnamed ∧ notes' = notes := by
  obtain rfl := Except.ok.inj (h.ofSources.symm.trans h'.ofSources)
  obtain rfl := Except.ok.inj (h.ofSigil.symm.trans h'.ofSigil)
  obtain ⟨files, rfl, hfiles⟩ := h.groups
  obtain ⟨files', rfl, hfiles'⟩ := h'.groups
  exact ⟨Assembly.regroup_unnamed_congr _ (hfiles'.trans hfiles.symm), h'.noted.trans h.noted.symm⟩

/-- A world that has grown out of a tree, but not where a run over the project reads. -/
structure Follows (registry : Registry) (place : Place) (tree : FileTree) (world : World) : Prop where
  orderly : Orderly tree place
  folder : tree.isFolder? place.toPath = .ok true
  spares : Spares registry place tree world.tree
  hasLog : world.HasLog
  sink : ∀ log ∈ world.sink, Unread registry place log

namespace Follows

theorem start (horderly : Orderly world.tree place)
    (hfolder : world.tree.isFolder? place.toPath = .ok true) (hlog : world.HasLog)
    (hsink : ∀ log ∈ world.sink, Unread registry place log) :
    Follows registry place world.tree world :=
  ⟨horderly, hfolder, ⟨horderly.proper, ⟨[], .refl _ _, by simp [Sources.NoSource]⟩, rfl, rfl⟩, hlog,
    hsink⟩

theorem of_logs (h : Follows registry place tree world) (hlogs : world.Logs world') :
    Follows registry place tree world' := by
  obtain ⟨written, hgrows, hwritten⟩ := h.spares.grows
  have hmem : ∀ log ∈ world.sink.toList, Unread registry place log := by simpa using h.sink
  refine ⟨h.orderly, h.folder, ⟨hlogs.proper h.spares.proper, ?_, ?_, ?_⟩, hlogs.hasLog h.hasLog, ?_⟩
  · refine ⟨written ++ world.sink.toList, ?_, ?_⟩
    · exact (hgrows.mono (List.subset_append_left _ _)).trans
        (hlogs.tree.forth.mono (List.subset_append_right _ _))
    · exact List.forall_mem_append.2 ⟨hwritten, fun log hlog => (hmem log hlog).noSource⟩
  · rw [← h.spares.sameIgnoreFile]
    exact hlogs.tree.outlineAt?_eq fun hlog => (hmem _ hlog).notIgnoreFile rfl
  · rw [← h.spares.sameSettings]
    exact hlogs.tree.outlineAt?_eq fun hlog => (hmem _ hlog).notSettings rfl
  · rw [hlogs.sink]
    exact h.sink

theorem stand (h : Follows registry place tree world)
    (hfound : sources registry place.toText included excluded tree = .ok found) :
    Stand world.tree found := by
  have hlinkless : ∀ other, projectFolder place.toText tree = .ok other →
      Sources.Linkless tree other := by
    intro other hother
    obtain rfl : place = other :=
      Except.ok.inj ((h.orderly.projectFolder_toText h.folder).symm.trans hother)
    exact h.orderly.linkless
  have hstand := stand_of_sources h.orderly.proper h.orderly.dotless hlinkless hfound
  refine ⟨hstand.straight, ?_, hstand.apart⟩
  intro source hsource
  obtain ⟨bytes, -, hfile⟩ := h.spares.exists_file h.orderly h.folder hfound hsource
  exact ⟨(hstand.file source hsource).1, bytes, hfile⟩

theorem logsApart (h : Follows registry place tree world)
    (hfound : sources registry place.toText included excluded tree = .ok found) :
    LogsApart world found := by
  intro log hlog source hsource hprefix
  obtain ⟨bytes, hfile⟩ := h.hasLog log hlog
  obtain ⟨-, other, hother⟩ := (h.stand hfound).file source hsource
  -- A log above the source would be a folder, and a source has a language.
  have hsame : source.place = log := by
    obtain ⟨rest, hrest⟩ := hprefix
    rw [← hrest] at hother
    cases rest with
    | nil => rw [← hrest, List.append_nil]
    | cons name rest =>
      obtain ⟨entries, hfolder⟩ := Entry.folder_of_prefix hother (List.cons_ne_nil name rest)
      rw [hfile] at hfolder
      cases hfolder
  have hresolves := resolves_of_sources hfound source hsource
  rw [Resolves, hsame, (h.sink log hlog).noSource] at hresolves
  cases hresolves

theorem verdict_eq (h : Follows registry place tree world)
    (hfound : sources registry place.toText included excluded tree = .ok found)
    (hsource : source ∈ found) (sign : Sigil) :
    verdict sign world.tree source = verdict sign tree source := by
  obtain ⟨bytes, hfile, hfile'⟩ := h.spares.exists_file h.orderly h.folder hfound hsource
  exact verdict_of_file sign ((h.stand hfound).straight source hsource) hfile hfile'

theorem gathers (h : Follows registry place tree world) (hroot : request.root = place.toText)
    (hrun : (collect registry request).run world = (.ok grouped, world')) :
    ∃ found sign, Gathers registry request tree grouped world'.notes found sign := by
  obtain ⟨found, sign, record, hcourse⟩ := course_of_run_collect hrun
  have hfound : sources registry place.toText request.included request.excluded tree = .ok found := by
    rw [← h.spares.sources h.orderly h.folder, ← hroot]
    exact hcourse.ofSources
  have hstand := h.stand hfound
  have hlogs := h.logsApart hfound
  have hverdict : ∀ source ∈ found, verdict sign world.tree source = verdict sign tree source :=
    fun source hsource => h.verdict_eq hfound hsource sign
  refine ⟨found, sign, hroot ▸ hfound, hcourse.ofSigil, ?_, ?_, ?_⟩
  · intro source hsource
    have hvisited := hsource
    rw [← visitsFrom_sources sign (world.emit record) found] at hvisited
    obtain ⟨visit, hvisit, rfl⟩ := List.mem_map.1 hvisited
    have hgoes := hcourse.goes visit hvisit
    rw [stops_iff_of_mem hstand hlogs hvisit, hverdict _ hsource] at hgoes
    exact hgoes
  · obtain ⟨files, hgrouped, hfiles⟩ := hcourse.groups
    refine ⟨files, hgrouped, ?_⟩
    rw [hfiles, unnamed_flatMap_crumbs hstand hlogs]
    refine List.flatMap_congr ?_
    intro source hsource
    rw [yields, yields, hverdict source hsource]
  · rw [hcourse.noted, filterMap_note? hstand hlogs]
    refine List.filterMap_congr ?_
    intro source hsource
    rw [remark?, remark?, hverdict source hsource]

theorem collect_again (h : Follows registry place tree world) (hroot : request.root = place.toText)
    (hgathers : Gathers registry request tree grouped notes found sign) :
    ∃ grouped' world', (collect registry request).run world = (.ok grouped', world') ∧
      grouped'.mapCrumbs Crumb.unnamed = grouped.mapCrumbs Crumb.unnamed ∧
      world'.notes = notes := by
  have hfound := hgathers.ofSources
  rw [hroot] at hfound
  have hfound' := h.spares.sources h.orderly h.folder request.included request.excluded
  rw [hfound, ← hroot] at hfound'
  obtain ⟨grouped', world', hrun⟩ := exists_run_collect hfound' hgathers.ofSigil <| by
    intro record visit hvisit
    have hsource := source_mem_of_mem hvisit
    rw [stops_iff_of_mem (h.stand hfound) (h.logsApart hfound) hvisit, h.verdict_eq hfound hsource]
    exact hgathers.goes _ hsource
  obtain ⟨_, _, hgathers'⟩ := h.gathers hroot hrun
  exact ⟨grouped', world', hrun, hgathers.unnamed_eq hgathers'⟩

end Follows

theorem proper_of_save (hproper : world.tree.root.Proper) (hpath : FileTree.Written path)
    (h : (save path document).run world = (.ok (), world')) : world'.tree.root.Proper := by
  have hnames := hpath.isName
  have hfolders : (world.tree.ensureFolders path.parent).1.root.Proper :=
    FileTree.proper_ensureFoldersFrom hproper
      (fun name hname => hnames name ((List.dropLast_sublist _).mem hname)) _
  rw [run_save] at h
  split at h
  · cases h
  split at h
  · rename_i tree hwrite
    cases h
    exact FileTree.proper_write hfolders hnames hwrite
  · cases h

theorem proper_of_deliver (hproper : world.tree.root.Proper) (hlog : world.HasLog)
    (hpath : ∀ path ∈ chosen.output, FileTree.Written path)
    (h : (deliver chosen document).run world = (.ok (), world')) : world'.tree.root.Proper := by
  rw [deliver] at h
  cases houtput : chosen.output with
  | none =>
    rw [houtput] at h
    cases h
    exact hproper
  | some path =>
    rw [houtput] at h
    obtain ⟨_, saved, hsave, hsay⟩ := of_run_bind h
    have hsaved := proper_of_save hproper (hpath path houtput) hsave
    have hsaves := save_saves path document world
    rw [hsave] at hsaves
    cases hsaves with
    | done file tree hgrows =>
      have hlog : World.HasLog { world with tree } := hlog.of_grows rfl hgrows
      rw [of_run_say hsay]
      exact (hlog.emit _).proper hsaved

theorem written_join (hpath : FileTree.Written path) (hother : FileTree.Written other) :
    FileTree.Written (path.join other) := by
  rw [Path.join]
  split
  · exact hother
  · exact ⟨hpath.root, List.forall_mem_append.2 ⟨hpath.names, hother.names⟩⟩

theorem rootedAt_of_orderly (horderly : Orderly tree place)
    (hplace : projectFolder root tree = .ok place)
    (hload : Settings.load tree place.toPath = .ok loaded) : loaded.RootedAt tree place := by
  obtain ⟨entries, hcurrent⟩ := horderly.current
  obtain ⟨inner, hinner⟩ := horderly.folder
  exact rootedAt_of_settings horderly.proper horderly.dotless hcurrent hinner
    (horderly.linkless.at?_ne_link [Settings.fileName]) hplace hload

namespace Stages

variable {chosen : Settings} {collected : World} {result : Result}

theorem output_written (h : Stages registry root overrides world result world' place chosen collected)
    (horderly : Orderly world.tree place) (hpath : ∀ path ∈ overrides.output, FileTree.Written path) :
    ∀ path ∈ chosen.output, FileTree.Written path := by
  obtain ⟨loaded, hload, rfl⟩ := of_settings h.settings
  intro path houtput
  cases hasked : overrides.output with
  | some asked =>
    rw [Settings.merged, hasked] at houtput
    cases houtput
    exact hpath path hasked
  | none =>
    rw [Settings.merged, hasked] at houtput
    have hrooted := rootedAt_of_orderly horderly h.project hload
    obtain ⟨-, written, -, -, rfl⟩ := hrooted.output path houtput
    exact written_join horderly.toPath_written (FileTree.written_ofText written)

theorem proper (h : Stages registry root overrides world result world' place chosen collected)
    (horderly : Orderly world.tree place) (hlog : world.HasLog)
    (hpath : ∀ path ∈ overrides.output, FileTree.Written path) : world'.tree.root.Proper := by
  have hopening := hlog.emitAll (opening place chosen)
  have hcollects := onlyLogs_collect registry (requestOf place chosen) _ (hopening.hasLog hlog)
  rw [h.collects] at hcollects
  have hlogs := hopening.trans hcollects
  exact proper_of_deliver (hlogs.proper horderly.proper) (hlogs.hasLog hlog)
    (h.output_written horderly hpath) h.delivers

end Stages

/-- What a run that has succeeded leaves behind, if it meets none of the files it reads. -/
theorem Leaves.grows (h : Leaves world (.ok result, world'))
    (hsink : ∀ log ∈ world.sink, Unread registry place log)
    (houtput : ∀ path ∈ result.output, ∀ file entry,
      world'.tree.locate true path = .ok (.found file entry) → Unread registry place file) :
    world'.sink = world.sink ∧
      (∃ written, FileTree.Grows written world.tree world'.tree ∧
        ∀ file ∈ written, Unread registry place file) ∧
      ∀ path ∈ result.output, world'.tree.isFolder? path.parent = .ok true ∧
        ∃ file bytes, world'.tree.locate true path = .ok (.found file (.file bytes)) := by
  have hlogs : ∀ log ∈ world.sink.toList, Unread registry place log := by simpa using hsink
  cases h with
  | silent _ _ hnone hlog =>
    refine ⟨hlog.sink, ⟨_, hlog.tree.forth, hlogs⟩, ?_⟩
    rw [hnone]
    nofun
  | wrote _ _ path file hsome hsame hgrows hfolder hfile =>
    obtain ⟨bytes, hlocate, -⟩ := hfile
    refine ⟨hsame, ⟨_, hgrows, List.forall_mem_cons.2 ⟨?_, hlogs⟩⟩, ?_⟩
    · exact houtput path hsome file _ hlocate
    · intro other hother
      rw [hsome] at hother
      cases hother
      exact ⟨hfolder, file, bytes, hlocate⟩

theorem exists_run_conclude (chosen : Settings) (grouped : Grouped) (document : Text) (world : World)
    (hpath : ∀ path ∈ chosen.output, world.tree.isFolder? path.parent = .ok true ∧
      ∃ file bytes, world.tree.locate true path = .ok (.found file (.file bytes))) :
    ∃ world', (conclude chosen grouped document).run world =
      (.ok { grouped, document, format := chosen.format, output := chosen.output
             notes := world.notes }, world') := by
  rw [conclude, deliver]
  cases houtput : chosen.output with
  | none => exact ⟨world, rfl⟩
  | some path =>
    obtain ⟨hfolder, file, bytes, hlocate⟩ := hpath path houtput
    have hsave := run_save path document world
    rw [FileTree.ensureFolders_of_isFolder? hfolder] at hsave
    simp only [FileTree.write_of_file hlocate] at hsave
    simp only [bind_assoc]
    rw [run_bind, hsave]
    exact ⟨_, rfl⟩

/-- Two results are the same but for the names of the crumbs, which only a JSON document shows. -/
structure Result.Agrees (result result' : Result) : Prop where
  format : result'.format = result.format
  output : result'.output = result.output
  notes : result'.notes = result.notes
  stats : result'.grouped.stats = result.grouped.stats
  groups : result'.grouped.mapCrumbs Crumb.unnamed = result.grouped.mapCrumbs Crumb.unnamed
  markdown : result.format = "markdown".toList → result'.document = result.document
  json : result.format = "json".toList →
    result.document = Document.json result.grouped ∧ result'.document = Document.json result'.grouped

theorem document_of_render_json (h : chosen.format = "json".toList)
    (hrender : render chosen grouped = .ok document) : document = Document.json grouped := by
  exact ((render_json_eq_ok_iff h).1 hrender).2

theorem document_of_render_markdown (h : chosen.format = "markdown".toList)
    (hrender : render chosen grouped = .ok document) : document = Document.Markdown.document
      { project := chosen.projectName, linkBase := chosen.linkBase } grouped := by
  exact ((render_markdown_eq_ok_iff h).1 hrender).2

theorem agrees_of_stages {result result' : Result}
    (h : Stages registry root overrides world result world' place chosen collected)
    (h' : Stages registry root overrides later result' later' place chosen collected')
    (hnotes : collected'.notes = collected.notes)
    (hgroups : result'.grouped.mapCrumbs Crumb.unnamed = result.grouped.mapCrumbs Crumb.unnamed) :
    result.Agrees result' where
  format := h'.format.trans h.format.symm
  output := h'.output.trans h.output.symm
  notes := by
    rw [h'.notes, h.notes, notes_of_deliver h'.delivers, notes_of_deliver h.delivers, hnotes]
  stats := by
    rw [← Document.Markdown.stats_mapCrumbs Crumb.unnamed, hgroups,
      Document.Markdown.stats_mapCrumbs]
  groups := hgroups
  markdown := by
    intro hformat
    rw [h.format] at hformat
    rw [document_of_render_markdown hformat h'.renders,
      document_of_render_markdown hformat h.renders, ← Document.Markdown.document_unnamed, hgroups,
      Document.Markdown.document_unnamed]
  json := by
    intro hformat
    rw [h.format] at hformat
    exact ⟨document_of_render_json hformat h.renders, document_of_render_json hformat h'.renders⟩

/-- A run comes to a result if its sources are collected and its document can be rendered and
written. -/
theorem exists_run (hplace : projectFolder root world.tree = .ok place)
    (hchosen : settings place overrides world.tree = .ok chosen)
    (hformat : Settings.isFormat chosen.format = true)
    (hcollect : (collect registry (requestOf place chosen)).run
      (world.emitAll (opening place chosen)) = (.ok grouped, collected))
    (hrender : render chosen grouped = .ok document)
    (hpath : ∀ path ∈ chosen.output, collected.tree.isFolder? path.parent = .ok true ∧
      ∃ file bytes, collected.tree.locate true path = .ok (.found file (.file bytes))) :
    ∃ result world', (run registry root overrides).run world = (.ok result, world') := by
  obtain ⟨world', hconclude⟩ := exists_run_conclude chosen grouped document collected hpath
  have hlift : (ExceptT.mk (pure (render chosen grouped)) : Session Text).run collected =
      (.ok document, collected) := by
    rw [hrender]
    rfl
  have hproceed : (run registry root overrides).run world =
      (conclude chosen grouped document).run collected := by
    rw [run_eq_proceed registry hplace hchosen hformat, proceed, run_bind, hcollect]
    simp only
    rw [run_bind, hlift]
  exact ⟨_, world', hproceed.trans hconclude⟩

theorem writable_of_logs (hlogs : world.Logs world')
    (h : world.tree.isFolder? path.parent = .ok true ∧
      ∃ file bytes, world.tree.locate true path = .ok (.found file (.file bytes))) :
    world'.tree.isFolder? path.parent = .ok true ∧
      ∃ file bytes, world'.tree.locate true path = .ok (.found file (.file bytes)) := by
  obtain ⟨hfolder, file, bytes, hlocate⟩ := h
  refine ⟨hlogs.tree.forth.isFolder? hfolder, file, ?_⟩
  obtain ⟨entry, hfound, hentry⟩ := hlogs.tree.forth.locate_found hlocate
  cases hentry with
  | file => exact ⟨bytes, hfound⟩
  | rewritten _ _ bytes' => exact ⟨bytes', hfound⟩

theorem document_of_leaves (h : Leaves world (.ok result, world')) :
    ∀ path ∈ result.output, ∃ file bytes,
      world'.tree.locate true path = .ok (.found file (.file bytes)) ∧
      (file ∉ world.sink → bytes = Encoding.encode result.document) := by
  intro path hpath
  cases h with
  | silent _ _ hnone =>
    rw [hnone] at hpath
    cases hpath
  | wrote _ _ other file hsome _ _ _ hfile =>
    rw [hsome] at hpath
    cases hpath
    obtain ⟨bytes, hlocate, hbytes⟩ := hfile
    exact ⟨file, bytes, hlocate, hbytes⟩

/-- A run over a project without links that is repeated on the files it leaves succeeds again and
comes to the same result, the names of the crumbs aside, and so the output file holds that document.
The first run must not write to a file that a run reads, and where the ignore file or the settings
file is missing, none may come up by it, be it a folder that is made above the document. -/
theorem run_again_agrees (registry : Registry) (root : Text) (overrides : Overrides)
    (world world' later : World) (place : Place) (result : Result) (hlog : world.HasLog)
    (hplace : projectFolder root world.tree = .ok place) (horderly : Orderly world.tree place)
    (hwritten : ∀ path ∈ overrides.output, FileTree.Written path)
    (hrun : (run registry root overrides).run world = (.ok result, world'))
    (hsink : ∀ log ∈ world.sink, Unread registry place log)
    (houtput : ∀ path ∈ result.output, ∀ file entry,
      world'.tree.locate true path = .ok (.found file entry) → Unread registry place file)
    (hfree : ∀ name ∈ [ignoreFile, Settings.fileName],
      StaysFree world.tree world'.tree (place ++ [name]))
    (hlaterTree : later.tree = world'.tree) (hlaterSink : later.sink = world.sink) :
    ∃ result' later', (run registry root overrides).run later = (.ok result', later') ∧
      result.Agrees result' ∧
      ∀ path ∈ result.output, ∃ file bytes,
        later'.tree.locate true path = .ok (.found file (.file bytes)) ∧
        (file ∉ world.sink → bytes = Encoding.encode result'.document) := by
  obtain ⟨other, chosen, collected, hstages⟩ := stages_of_run hrun
  obtain rfl : place = other := Except.ok.inj (hplace.symm.trans hstages.project)
  obtain ⟨-, -, -, -, hfolder⟩ := projectFolder_eq_ok_iff.1 hplace
  have hleaves := leaves_run registry root overrides hlog
  rw [hrun] at hleaves
  obtain ⟨-, ⟨written, hgrows, hunread⟩, hpaths⟩ := hleaves.grows hsink houtput
  rw [← hlaterTree] at hgrows hpaths hfree
  have hproper : later.tree.root.Proper := by
    rw [hlaterTree]
    exact hstages.proper horderly hlog hwritten
  have hspares := spares_of_grows hproper hgrows hunread hfree
  -- Both runs collect what the files at the start hold.
  have hfirst := (Follows.start horderly hfolder hlog hsink).of_logs
    (hlog.emitAll (opening place chosen))
  obtain ⟨found, sign, hgathers⟩ := hfirst.gathers rfl hstages.collects
  have hlaterLog : later.HasLog := hlog.of_grows hlaterSink hgrows
  have hopening := hlaterLog.emitAll (opening place chosen)
  have hfollows : Follows registry place world.tree later :=
    ⟨horderly, hfolder, hspares, hlaterLog, hlaterSink ▸ hsink⟩
  obtain ⟨grouped', collected', hcollect, hgroups, hnotes⟩ :=
    (hfollows.of_logs hopening).collect_again rfl hgathers
  have hlogs := onlyLogs_collect registry (requestOf place chosen) _ (hopening.hasLog hlaterLog)
  rw [hcollect] at hlogs
  have hplace' := hspares.projectFolder horderly hplace
  have hchosen' := hspares.settings horderly hfolder hstages.settings
  obtain ⟨document', hrender'⟩ :=
    exists_render_of_unnamed hstages.isFormat hstages.renders hgroups
  obtain ⟨result', later', hrun'⟩ :=
    exists_run hplace' hchosen' hstages.isFormat hcollect hrender' <| by
      intro path hpath
      rw [← hstages.output] at hpath
      exact writable_of_logs (hopening.trans hlogs) (hpaths path hpath)
  obtain ⟨other', chosen', again, hstages'⟩ := stages_of_run hrun'
  obtain rfl : place = other' := Except.ok.inj (hplace'.symm.trans hstages'.project)
  obtain rfl : chosen = chosen' := Except.ok.inj (hchosen'.symm.trans hstages'.settings)
  have hsame := hcollect.symm.trans hstages'.collects
  cases hsame
  have hagrees := agrees_of_stages hstages hstages' hnotes hgroups
  have hleaves' := leaves_run registry root overrides hlaterLog
  rw [hrun'] at hleaves'
  refine ⟨result', later', hrun', hagrees, ?_⟩
  have hdocument := document_of_leaves hleaves'
  rw [hlaterSink, hagrees.output] at hdocument
  exact hdocument

theorem orderly_repeated : Orderly repeatedWorld.tree ["p".toList] := by
  refine ⟨proper_repeated, dotless_repeated, ⟨_, rfl⟩, ⟨_, rfl⟩, ?_⟩
  exact linkless_repeated (by decide)

def target? (tree : FileTree) (path : Path) : Option Place :=
  match tree.locate true path with
  | .ok (.found file _) => some file
  | _ => none

/-- The first run leaves a document in a new folder of the project, and no ignore or settings file. -/
theorem world_docs :
    let world := ((run slashRegistry "/p".toList (writing docsPath)).run repeatedWorld).2
    world.sink = none ∧
      target? world.tree docsPath = some ["p".toList, "docs".toList, "crumbs.md".toList] ∧
      (world.tree.root.at? ["p".toList, ignoreFile]).isNone = true ∧
      (world.tree.root.at? ["p".toList, Settings.fileName]).isNone = true := by
  rw [run_writing]
  decide +kernel

theorem run_again_agrees_docs :
    Orderly repeatedWorld.tree ["p".toList] ∧
    ∃ result world' result' later',
      (run slashRegistry "/p".toList (writing docsPath)).run repeatedWorld = (.ok result, world') ∧
      (run slashRegistry "/p".toList (writing docsPath)).run world' = (.ok result', later') ∧
      result.Agrees result' := by
  have hplace : projectFolder "/p".toList repeatedWorld.tree = .ok ["p".toList] := by decide
  have hlog : repeatedWorld.HasLog := nofun
  have hwritten : ∀ path ∈ (writing docsPath).output, FileTree.Written path := by
    rintro path hpath
    cases hpath
    exact FileTree.written_ofText _
  obtain ⟨result, world', hrun, houtput⟩ := exists_run_docs
  obtain ⟨hsink, htarget, hignore, hsettings⟩ := world_docs
  rw [hrun] at hsink htarget hignore hsettings
  have hunread : Unread slashRegistry ["p".toList]
      ["p".toList, "docs".toList, "crumbs.md".toList] :=
    ⟨by decide, by decide, by decide⟩
  obtain ⟨result', later', hrun', hagrees, -⟩ := run_again_agrees slashRegistry "/p".toList
    (writing docsPath) repeatedWorld world' world' ["p".toList] result hlog hplace orderly_repeated
    hwritten hrun nofun
    (by
      intro path hpath file entry hlocate
      rw [houtput] at hpath
      cases hpath
      rw [target?, hlocate] at htarget
      cases htarget
      exact hunread)
    (by
      intro name hname _
      rcases List.mem_pair.1 hname with rfl | rfl
      · exact Option.isNone_iff_eq_none.1 hignore
      · exact Option.isNone_iff_eq_none.1 hsettings)
    rfl hsink
  exact ⟨orderly_repeated, result, world', result', later', hrun, hrun', hagrees⟩

def buriedPath : Path := Path.ofText "/p/.gitignore/out.md".toList

/-- The first run makes a folder under the name of the ignore file, and the second cannot read it. -/
theorem run_again_fails_buried :
    Orderly repeatedWorld.tree ["p".toList] ∧
    ∃ result world',
      (run slashRegistry "/p".toList (writing buriedPath)).run repeatedWorld = (.ok result, world') ∧
      result.output = some buriedPath ∧ Unread slashRegistry ["p".toList] buriedPath.names ∧
      ((run slashRegistry "/p".toList (writing buriedPath)).run world').1.isOk = false := by
  let outcome := (run slashRegistry "/p".toList (writing buriedPath)).run repeatedWorld
  have hfirst : outcome.1.toOption.bind (·.output) = some buriedPath := by
    simp only [outcome, run_writing]
    decide +kernel
  have hsecond : ((run slashRegistry "/p".toList (writing buriedPath)).run outcome.2).1.isOk =
      false := by
    simp only [outcome, run_writing]
    decide +kernel
  have hunread : Unread slashRegistry ["p".toList] buriedPath.names :=
    ⟨by decide, by decide, by decide⟩
  cases hresult : outcome.1 with
  | error failure =>
    rw [hresult] at hfirst
    cases hfirst
  | ok result =>
    rw [hresult] at hfirst
    exact ⟨orderly_repeated, result, outcome.2, Prod.ext hresult rfl, hfirst, hunread, hsecond⟩

end Breadcrumb.Run
