import Breadcrumb.Proofs.Run.Visits
import Breadcrumb.Proofs.Sources.Removal

namespace Breadcrumb.Run

variable {tree : FileTree} {gone : List Place}

theorem projectFolder_eq_ok_iff :
    projectFolder root tree = .ok place ↔
      ∃ path, tree.expandHome (Path.ofText root) = .ok path ∧ tree.resolve path = .ok place ∧
        tree.exists? place.toPath = .ok true ∧ tree.isFolder? place.toPath = .ok true := by
  constructor
  · intro h
    rw [projectFolder] at h
    obtain ⟨path, hpath, h⟩ := exists_of_bind_eq_ok h
    obtain ⟨other, hplace, h⟩ := exists_of_bind_eq_ok h
    obtain ⟨present, hexists, h⟩ := exists_of_bind_eq_ok h
    cases present with
    | false => cases h
    | true =>
      obtain ⟨folder, hfolder, h⟩ := exists_of_bind_eq_ok h
      cases folder with
      | false => cases h
      | true =>
        cases h
        exact ⟨path, eq_ok_of_mapError hpath, eq_ok_of_mapError hplace, eq_ok_of_mapError hexists,
          eq_ok_of_mapError hfolder⟩
  · rintro ⟨path, hpath, hplace, hexists, hfolder⟩
    simp only [projectFolder, hpath, hplace, hexists, hfolder, Except.mapError, bind, Except.bind]
    rfl

theorem projectFolder_without (hfiles : tree.FilesAt gone) (h : projectFolder root tree = .ok place) :
    projectFolder root (tree.without gone) = .ok place := by
  obtain ⟨path, hpath, hplace, -, hfolder⟩ := projectFolder_eq_ok_iff.1 h
  obtain ⟨hexists', hfolder'⟩ := FileTree.isFolder?_without hfiles hfolder
  refine projectFolder_eq_ok_iff.2 ⟨path, hpath, ?_, hexists', hfolder'⟩
  rw [FileTree.resolve_without hfiles, hplace]

theorem ignoreRules_sameAlong (h : FileTree.SameAlong tree tree' (place ++ [ignoreFile])) :
    ignoreRules tree' place = ignoreRules tree place := by
  simp only [ignoreRules, FileTree.exists?_sameAlong h, FileTree.read_sameAlong h]

theorem ignoreFile_not_source (h : Sources.Eligible tree registry filter root names source) :
    source.place ≠ root ++ [ignoreFile] := by
  intro hplace
  have hnames : names = [ignoreFile] := List.append_cancel_left (h.place.symm.trans hplace)
  have hlanguage := h.language
  -- Its only dot comes first, so that it has no suffix.
  have hsuffix : (Path.ofText ignoreFile).suffix = [] := by decide
  have hpath : source.path = ignoreFile := by rw [h.path, hnames]; rfl
  rw [hpath, Registry.forPath?, hsuffix] at hlanguage
  cases hlanguage

theorem ignoreRules_without (hdotless : tree.root.Dotless) (hfiles : tree.FilesAt gone)
    (hlinkless : Sources.Linkless tree place)
    (hfolder : tree.root.at? place = some (.folder entries))
    (hkept : place ++ [ignoreFile] ∉ gone) :
    ignoreRules (tree.without gone) place = ignoreRules tree place := by
  obtain ⟨entries', hfolder'⟩ := (FileTree.exists_folder_without_iff hfiles).2 ⟨entries, hfolder⟩
  have hstraight := hdotless.straight hfolder
  have hway := FileTree.sameAlong_of_found hstraight hfolder hfolder' rfl nofun
  refine ignoreRules_sameAlong (hway.concat ?_ ?_ ?_)
  · exact List.forall_mem_singleton.2 (by decide)
  · rw [FileTree.outlineAt?_without hfiles, if_neg hkept]
  · intro target
    rw [ne_eq, Entry.outlineAt?_eq_link]
    exact hlinkless.at?_ne_link [ignoreFile] target

/-- Sources that are files of their own, each at a place that leads straight to it. -/
structure Stand (tree : FileTree) (found : List Source) : Prop where
  straight : ∀ source ∈ found, source.place.Straight
  file : ∀ source ∈ found,
    source.place ≠ [] ∧ ∃ bytes, tree.root.at? source.place = some (.file bytes)
  apart : ∀ source ∈ found, ∀ other ∈ found, source.place = other.place → source = other

theorem stand_of_sources (hproper : tree.root.Proper) (hdotless : tree.root.Dotless)
    (hlinkless : ∀ place, projectFolder root tree = .ok place → Sources.Linkless tree place)
    (h : sources registry root included excluded tree = .ok found) : Stand tree found := by
  obtain ⟨place, rules, selection, hplace, -, -, rfl⟩ := of_sources h
  have hlinkless := hlinkless place hplace
  refine ⟨?_, ?_, ?_⟩
  · intro source hsource
    obtain ⟨names, heligible⟩ := Sources.eligible_of_mem_list hproper hsource
    obtain ⟨bytes, hfile⟩ := heligible.exists_file hlinkless
    exact hdotless.straight hfile
  · intro source hsource
    obtain ⟨names, heligible⟩ := Sources.eligible_of_mem_list hproper hsource
    exact ⟨heligible.place_ne_nil, heligible.exists_file hlinkless⟩
  · intro source hsource other hother hsame
    obtain ⟨names, heligible⟩ := Sources.eligible_of_mem_list hproper hsource
    obtain ⟨names', heligible'⟩ := Sources.eligible_of_mem_list hproper hother
    exact heligible.eq_of_place heligible' hsame

theorem sources_without (hproper : tree.root.Proper) (hdotless : tree.root.Dotless)
    (hlinkless : ∀ place, projectFolder root tree = .ok place → Sources.Linkless tree place)
    (h : sources registry root included excluded tree = .ok found)
    (hgone : ∀ place ∈ gone, ∃ source ∈ found, source.place = place) :
    sources registry root included excluded (tree.without gone) =
      .ok (found.filter (·.place ∉ gone)) := by
  have hstand := stand_of_sources hproper hdotless hlinkless h
  have hfiles : tree.FilesAt gone := by
    intro place hplace
    obtain ⟨source, hsource, rfl⟩ := hgone place hplace
    exact hstand.file source hsource
  obtain ⟨place, rules, selection, hplace, hrules, hselection, rfl⟩ := of_sources h
  have hlinkless := hlinkless place hplace
  by_cases hfolder : ∃ entries, tree.root.at? place = some (.folder entries)
  · obtain ⟨entries, hfolder⟩ := hfolder
    have hkept : place ++ [ignoreFile] ∉ gone := by
      intro hmem
      obtain ⟨source, hsource, hsame⟩ := hgone _ hmem
      obtain ⟨names, heligible⟩ := Sources.eligible_of_mem_list hproper hsource
      exact ignoreFile_not_source heligible hsame
    have hrules' := (ignoreRules_without hdotless hfiles hlinkless hfolder hkept).trans hrules
    rw [sources_of_parts (projectFolder_without hfiles hplace) hrules' hselection,
      Sources.list_without hproper hfiles hlinkless]
  · -- Where the place is no folder there are no sources, and nothing to take away.
    have hnone := Sources.list_of_not_folder hfolder registry { rules, selection }
    have hempty : gone = [] := by
      rw [List.eq_nil_iff_forall_not_mem]
      intro other hother
      obtain ⟨source, hsource, -⟩ := hgone other hother
      rw [hnone] at hsource
      cases hsource
    subst hempty
    rw [hnone] at h ⊢
    exact h

end Breadcrumb.Run
