import Breadcrumb.Proofs.Settings.Root
import Breadcrumb.Proofs.Sources.Growth

namespace Breadcrumb.Run

variable {tree tree' : FileTree} {place file : Place} {registry : Registry} {written : List Place}

/-- A project's folder without links, in a tree that is in order. -/
structure Orderly (tree : FileTree) (place : Place) : Prop where
  proper : tree.root.Proper
  dotless : tree.root.Dotless
  current : ∃ entries, tree.root.at? tree.current = some (.folder entries)
  folder : ∃ entries, tree.root.at? place = some (.folder entries)
  linkless : Sources.Linkless tree place

/-- A file that no run over the project reads: it has no language, and is neither the ignore file
nor the settings file. -/
structure Unread (registry : Registry) (place file : Place) : Prop where
  noSource : registry.forPath? file.toText = none
  notIgnoreFile : file ≠ place ++ [ignoreFile]
  notSettings : file ≠ place ++ [Settings.fileName]

/-- The tree has grown, but not where a run over the project reads. -/
structure Spares (registry : Registry) (place : Place) (tree tree' : FileTree) : Prop where
  proper : tree'.root.Proper
  grows : ∃ written, FileTree.Grows written tree tree' ∧ Sources.NoSource registry written
  sameIgnoreFile : tree'.root.outlineAt? (place ++ [ignoreFile]) =
    tree.root.outlineAt? (place ++ [ignoreFile])
  sameSettings : tree'.root.outlineAt? (place ++ [Settings.fileName]) =
    tree.root.outlineAt? (place ++ [Settings.fileName])

/-- No entry comes up under a name where there was none. -/
def StaysFree (tree tree' : FileTree) (place : Place) : Prop :=
  tree.root.at? place = none → tree'.root.at? place = none

theorem outlineAt?_of_staysFree (hgrows : FileTree.Grows written tree tree') (hfile : file ∉ written)
    (hfree : StaysFree tree tree' file) :
    tree'.root.outlineAt? file = tree.root.outlineAt? file := by
  have hentry := hgrows.entry file
  rw [Entry.outlineAt?, Entry.outlineAt?]
  rw [StaysFree] at hfree
  generalize tree.root.at? file = found at hentry hfree ⊢
  generalize tree'.root.at? file = found' at hentry hfree ⊢
  cases hentry with
  | newFolder entries => cases hfree rfl
  | newFile hmem => exact (hfile hmem).elim
  | rewritten hmem => exact (hfile hmem).elim
  | _ => rfl

theorem spares_of_grows (hproper : tree'.root.Proper) (hgrows : FileTree.Grows written tree tree')
    (hunread : ∀ file ∈ written, Unread registry place file)
    (hfree : ∀ name ∈ [ignoreFile, Settings.fileName], StaysFree tree tree' (place ++ [name])) :
    Spares registry place tree tree' := by
  refine ⟨hproper, ⟨written, hgrows, fun file hfile => (hunread file hfile).noSource⟩, ?_, ?_⟩
  · refine outlineAt?_of_staysFree hgrows ?_ (hfree _ (by simp))
    exact fun hfile => (hunread _ hfile).notIgnoreFile rfl
  · refine outlineAt?_of_staysFree hgrows ?_ (hfree _ (by simp))
    exact fun hfile => (hunread _ hfile).notSettings rfl

namespace Orderly

theorem straight (h : Orderly tree place) : place.Straight := by
  obtain ⟨entries, hfolder⟩ := h.folder
  exact h.dotless.straight hfolder

theorem toPath_written (h : Orderly tree place) : FileTree.Written place.toPath := by
  obtain ⟨entries, hfolder⟩ := h.folder
  exact FileTree.written_toPath (h.proper.isName_of_at? hfolder) h.straight

theorem sameAlong (h : Orderly tree place) (hgrows : FileTree.Grows written tree tree')
    (hname : Place.Straight [name])
    (houtline : tree'.root.outlineAt? (place ++ [name]) = tree.root.outlineAt? (place ++ [name])) :
    FileTree.SameAlong tree tree' (place ++ [name]) := by
  obtain ⟨entries, hfolder⟩ := h.folder
  obtain ⟨entries', hfolder'⟩ := hgrows.exists_folder hfolder
  refine (FileTree.sameAlong_of_found h.straight hfolder hfolder' rfl nofun).concat hname houtline ?_
  intro target
  rw [ne_eq, Entry.outlineAt?_eq_link]
  exact h.linkless.at?_ne_link [name] target

theorem resolve (h : Orderly tree place) (hfolder : tree.isFolder? place.toPath = .ok true) :
    tree.resolve place.toPath = .ok place := by
  obtain ⟨entries, hcurrent⟩ := h.current
  obtain ⟨inner, hinner⟩ := h.folder
  exact resolve_of_isFolder? h.toPath_written h.dotless hcurrent hinner hfolder

theorem projectFolder_toText (h : Orderly tree place)
    (hfolder : tree.isFolder? place.toPath = .ok true) :
    projectFolder place.toText tree = .ok place := by
  have hpath : Path.ofText place.toText = place.toPath := h.toPath_written.ofText_toText
  have hexists : tree.exists? place.toPath = .ok true := by
    obtain ⟨_, _, hlocate⟩ := FileTree.locate_of_isFolder? hfolder
    rw [FileTree.exists?, FileTree.ask, hlocate]
  refine projectFolder_eq_ok_iff.2 ⟨place.toPath, ?_, h.resolve hfolder, hexists, hfolder⟩
  rw [hpath]
  rfl

end Orderly

namespace Spares

theorem projectFolder (h : Spares registry place tree tree') (horderly : Orderly tree place)
    (hplace : Run.projectFolder root tree = .ok place) :
    Run.projectFolder root tree' = .ok place := by
  obtain ⟨written, hgrows, -⟩ := h.grows
  obtain ⟨entries, hcurrent⟩ := horderly.current
  obtain ⟨path, hpath, hresolve, -, hfolder⟩ := projectFolder_eq_ok_iff.1 hplace
  have hfolder' := hgrows.isFolder? hfolder
  obtain ⟨found, inner, hlocate⟩ := FileTree.locate_of_isFolder? hfolder'
  refine projectFolder_eq_ok_iff.2 ⟨path, ?_, ?_, ?_, hfolder'⟩
  · rw [hgrows.expandHome, hpath]
  · refine (hgrows.sameLinks hcurrent).resolve hresolve ?_
    rw [hlocate]
    nofun
  · rw [FileTree.exists?, FileTree.ask, hlocate]

theorem load (h : Spares registry place tree tree') (horderly : Orderly tree place)
    (hfolder : tree.isFolder? place.toPath = .ok true)
    (hload : Settings.load tree place.toPath = .ok loaded) :
    Settings.load tree' place.toPath = .ok loaded := by
  obtain ⟨written, hgrows, -⟩ := h.grows
  obtain ⟨entries, hcurrent⟩ := horderly.current
  have hlinks := hgrows.sameLinks hcurrent
  have hresolve := horderly.resolve hfolder
  have hway := horderly.sameAlong hgrows (List.forall_mem_singleton.2 (by decide)) h.sameSettings
  -- In both trees the settings file is the one in the project's folder.
  obtain ⟨found, root, hfile, hroot, -⟩ := Settings.of_load hload
  rw [Settings.file_of_isFolder? rfl hfolder] at hfile
  obtain rfl := FileTree.resolve_child horderly.toPath_written Settings.plain_fileName (by decide)
    hcurrent
    hresolve (horderly.linkless.at?_ne_link [Settings.fileName]) hfile
  have hfile' : tree'.resolve (place.toPath.child Settings.fileName) =
      .ok (place ++ [Settings.fileName]) := by
    refine hlinks.resolve hfile fun hloop => ?_
    rcases FileTree.locate_sameAlong hway true with hsame | ⟨_, _, _, -, hfound⟩
    · exact (FileTree.resolve_eq_ok_iff.1 hfile).2.2 (hsame.symm.trans hloop)
    · rw [hloop] at hfound
      cases hfound
  have hroot' : tree'.resolve place.toPath = .ok place := by
    obtain ⟨_, _, hlocate⟩ := FileTree.locate_of_isFolder? (hgrows.isFolder? hfolder)
    refine hlinks.resolve hresolve ?_
    rw [hlocate]
    nofun
  have hfound : Settings.file tree place.toPath = .ok (place ++ [Settings.fileName]) := by
    rw [Settings.file_of_isFolder? rfl hfolder, hfile]
  have hfound' : Settings.file tree' place.toPath = .ok (place ++ [Settings.fileName]) := by
    rw [Settings.file_of_isFolder? rfl (hgrows.isFolder? hfolder), hfile']
  rw [← hload]
  simp only [Settings.load, hfound, hfound', Except.mapError, bind, Except.bind,
    List.dropLast_concat, hresolve, hroot', FileTree.exists?_sameAlong hway,
    FileTree.read_sameAlong hway]

theorem settings (h : Spares registry place tree tree') (horderly : Orderly tree place)
    (hfolder : tree.isFolder? place.toPath = .ok true)
    (hchosen : Run.settings place overrides tree = .ok chosen) :
    Run.settings place overrides tree' = .ok chosen := by
  obtain ⟨loaded, hload, rfl⟩ := of_settings hchosen
  rw [Run.settings, h.load horderly hfolder hload]
  rfl

theorem ignoreRules (h : Spares registry place tree tree') (horderly : Orderly tree place) :
    Run.ignoreRules tree' place = Run.ignoreRules tree place := by
  obtain ⟨written, hgrows, -⟩ := h.grows
  exact ignoreRules_sameAlong
    (horderly.sameAlong hgrows (List.forall_mem_singleton.2 (by decide)) h.sameIgnoreFile)

theorem sources (h : Spares registry place tree tree') (horderly : Orderly tree place)
    (hfolder : tree.isFolder? place.toPath = .ok true) (included excluded : List Text) :
    Run.sources registry place.toText included excluded tree' =
      Run.sources registry place.toText included excluded tree := by
  obtain ⟨written, hgrows, hwritten⟩ := h.grows
  obtain ⟨entries, hinner⟩ := horderly.folder
  have hplace := horderly.projectFolder_toText hfolder
  rw [Run.sources, Run.sources, hplace, h.projectFolder horderly hplace]
  simp only [bind, Except.bind, h.ignoreRules horderly, Sources.list_grows hgrows horderly.proper
    h.proper horderly.linkless hinner hwritten]

end Spares

theorem Spares.exists_file (h : Spares registry place tree tree') (horderly : Orderly tree place)
    (hfolder : tree.isFolder? place.toPath = .ok true)
    (hfound : Run.sources registry place.toText included excluded tree = .ok found)
    (hsource : source ∈ found) :
    ∃ bytes, tree.root.at? source.place = some (.file bytes) ∧
      tree'.root.at? source.place = some (.file bytes) := by
  obtain ⟨written, hgrows, hwritten⟩ := h.grows
  obtain ⟨other, rules, selection, hplace, -, -, rfl⟩ := of_sources hfound
  obtain rfl : place = other :=
    Except.ok.inj ((horderly.projectFolder_toText hfolder).symm.trans hplace)
  obtain ⟨names, heligible⟩ := Sources.eligible_of_mem_list horderly.proper hsource
  obtain ⟨bytes, hfile⟩ := heligible.exists_file horderly.linkless
  have hapart := heligible.notMem horderly.proper hwritten
  rw [← heligible.place] at hapart
  exact ⟨bytes, hfile, ((hgrows.entry _).eq_file_iff hapart).2 hfile⟩

end Breadcrumb.Run
