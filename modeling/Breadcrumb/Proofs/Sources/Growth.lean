import Breadcrumb.Proofs.FileTree.Growth
import Breadcrumb.Proofs.Registry.Deciding
import Breadcrumb.Proofs.Sources.Removal

namespace Breadcrumb.Sources

variable {tree tree' : FileTree} {written : List Place} {registry : Registry} {filter : Filter}
  {root : Place} {names : List Text} {source : Source}

/-- None of the places is one that a source may have. -/
def NoSource (registry : Registry) (written : List Place) : Prop :=
  ∀ place ∈ written, registry.forPath? place.toText = none

theorem Eligible.resolves (h : Eligible tree registry filter root names source)
    (hproper : tree.root.Proper) : registry.forPath? source.place.toText = some source.language := by
  obtain ⟨lead, hlead⟩ := Place.exists_toText_append_split root source.path
  have hnames : source.path.split '/' = names := by
    rw [h.path]
    exact h.kept.split_pathOf hproper
  rw [h.place, ← hnames, hlead]
  exact Registry.forPath?_append lead h.language

theorem Eligible.notMem (h : Eligible tree registry filter root names source)
    (hproper : tree.root.Proper) (hwritten : NoSource registry written) :
    root ++ names ∉ written := by
  intro hmem
  have hlanguage := h.resolves hproper
  rw [h.place, hwritten _ hmem] at hlanguage
  cases hlanguage

theorem isFileAt_iff (h : Linkless tree root) :
    IsFileAt tree (root ++ names) ↔ ∃ bytes, tree.root.at? (root ++ names) = some (.file bytes) := by
  simp only [IsFileAt, h.at?_ne_link names _, false_and, exists_false, or_false]

theorem Linkless.grows (h : Linkless tree root) (hgrows : FileTree.Grows written tree tree') :
    ∀ names target, tree'.root.at? (root ++ names) ≠ some (.link target) := by
  intro names target hlink
  exact h.at?_ne_link names target ((hgrows.entry _).eq_link_iff.1 hlink)

theorem Eligible.grows (h : Eligible tree registry filter root names source)
    (hgrows : FileTree.Grows written tree tree') (hproper : tree.root.Proper)
    (hlinkless : Linkless tree root) (hwritten : NoSource registry written) :
    Eligible tree' registry filter root names source := by
  have hapart := h.notMem hproper hwritten
  obtain ⟨⟨hdeeper, hfile, hentered, hignored, hexcluded⟩, hplace, hpath, hwanted, hlanguage⟩ := h
  obtain ⟨bytes, hfile⟩ := (isFileAt_iff hlinkless).1 hfile
  have hfile' := ((hgrows.entry _).eq_file_iff hapart).2 hfile
  refine ⟨⟨hdeeper, .inl ⟨bytes, hfile'⟩, ?_, hignored, hexcluded⟩, hplace, hpath, hwanted, hlanguage⟩
  intro k hk hk'
  obtain ⟨⟨entries, hfolder⟩, hskipped, hignored, hexcluded⟩ := hentered k hk hk'
  exact ⟨hgrows.exists_folder hfolder, hskipped, hignored, hexcluded⟩

/-- A source of the grown tree was there before, with all the folders above it. -/
theorem Eligible.of_grows (h : Eligible tree' registry filter root names source)
    (hgrows : FileTree.Grows written tree tree') (hproper' : tree'.root.Proper)
    (hlinkless : Linkless tree root) (hwritten : NoSource registry written) :
    Eligible tree registry filter root names source := by
  have hapart := h.notMem hproper' hwritten
  obtain ⟨⟨hdeeper, hfile, hentered, hignored, hexcluded⟩, hplace, hpath, hwanted, hlanguage⟩ := h
  have hfile : ∃ bytes, tree.root.at? (root ++ names) = some (.file bytes) := by
    rcases hfile with ⟨bytes, hfile⟩ | ⟨target, hlink, -⟩
    · exact ⟨bytes, ((hgrows.entry _).eq_file_iff hapart).1 hfile⟩
    · exact (hlinkless.grows hgrows names target hlink).elim
  refine ⟨⟨hdeeper, .inl hfile, ?_, hignored, hexcluded⟩, hplace, hpath, hwanted, hlanguage⟩
  intro k hk hk'
  obtain ⟨-, hskipped, hignored, hexcluded⟩ := hentered k hk hk'
  obtain ⟨bytes, hfile⟩ := hfile
  rw [← List.take_append_drop k names, ← List.append_assoc] at hfile
  have hrest : names.drop k ≠ [] := by simpa using hk'
  exact ⟨Entry.folder_of_prefix hfile hrest, hskipped, hignored, hexcluded⟩

theorem list_congr {entries' : List (Text × Entry)} {filter : Filter} (hproper : tree.root.Proper)
    (hproper' : tree'.root.Proper) (hfolder : tree.root.at? root = some (.folder entries))
    (hfolder' : tree'.root.at? root = some (.folder entries'))
    (hback : ∀ names source, Eligible tree' registry filter root names source →
      Eligible tree registry filter root names source)
    (hforth : ∀ names source, Eligible tree registry filter root names source →
      Eligible tree' registry filter root names source) :
    list tree' registry filter root = list tree registry filter root := by
  apply eq_of_mem_iff (list_paths_sorted hproper' registry root)
    (list_paths_sorted hproper registry root)
  intro source
  rw [mem_list_iff hproper' hfolder', mem_list_iff hproper hfolder]
  constructor
  · rintro ⟨names, h⟩
    exact ⟨names, hback names source h⟩
  · rintro ⟨names, h⟩
    exact ⟨names, hforth names source h⟩

theorem list_grows (hgrows : FileTree.Grows written tree tree') (hproper : tree.root.Proper)
    (hproper' : tree'.root.Proper) (hlinkless : Linkless tree root)
    (hfolder : tree.root.at? root = some (.folder entries)) (hwritten : NoSource registry written)
    (filter : Filter) : list tree' registry filter root = list tree registry filter root := by
  obtain ⟨entries', hfolder'⟩ := hgrows.exists_folder hfolder
  apply list_congr hproper hproper' hfolder hfolder'
  · intro names source h
    exact h.of_grows hgrows hproper' hlinkless hwritten
  · intro names source h
    exact h.grows hgrows hproper hlinkless hwritten

theorem leadsToFolder_iff : leadsToFolder tree place target = true ↔
    ∃ found entries, FileTree.Reaches tree true (FileTree.maxLinks - 1)
      (FileTree.targetStart place target) (FileTree.targetNames target)
      (.found found (.folder entries)) := by
  have hreaches := FileTree.reaches tree true (FileTree.maxLinks - 1)
    (FileTree.targetStart place target) (FileTree.targetNames target)
  rw [leadsToFolder]
  constructor
  · intro h
    split at h
    · rename_i found entries hlocate
      rw [hlocate] at hreaches
      exact ⟨found, entries, hreaches⟩
    · cases h
  · rintro ⟨found, entries, hfound⟩
    rw [hfound.eq]

theorem leadsToFolder_grows (h : FileTree.Grows written tree tree')
    (hleads : leadsToFolder tree place target = true) : leadsToFolder tree' place target = true := by
  obtain ⟨found, entries, hreaches⟩ := leadsToFolder_iff.1 hleads
  obtain ⟨located, hreaches', hlocated⟩ := h.reaches hreaches
  cases hlocated with
  | found _ _ entry hentry =>
    cases hentry with
    | folder _ entries' => exact leadsToFolder_iff.2 ⟨found, entries', hreaches'⟩

theorem IsFileAt.matches (h : IsFileAt tree place) (hmatches : FileTree.Matches written tree tree') :
    IsFileAt tree' place := by
  rcases h with ⟨bytes, hfile⟩ | ⟨target, hlink, hleads⟩
  · exact .inl (hmatches.forth.exists_file hfile)
  · refine .inr ⟨target, (hmatches.forth.entry place).eq_link_iff.2 hlink, ?_⟩
    rw [Bool.eq_false_iff] at hleads ⊢
    exact fun hleads' => hleads (leadsToFolder_grows hmatches.back hleads')

/-- What files hold has no part in which of them are sources. -/
theorem Eligible.matches (h : Eligible tree registry filter root names source)
    (hmatches : FileTree.Matches written tree tree') :
    Eligible tree' registry filter root names source := by
  obtain ⟨⟨hdeeper, hfile, hentered, hignored, hexcluded⟩, hplace, hpath, hwanted, hlanguage⟩ := h
  refine ⟨⟨hdeeper, hfile.matches hmatches, ?_, hignored, hexcluded⟩, hplace, hpath, hwanted,
    hlanguage⟩
  intro k hk hk'
  obtain ⟨⟨entries, hfolder⟩, hskipped, hignored, hexcluded⟩ := hentered k hk hk'
  exact ⟨hmatches.forth.exists_folder hfolder, hskipped, hignored, hexcluded⟩

theorem list_matches (hmatches : FileTree.Matches written tree tree') (hproper : tree.root.Proper)
    (hproper' : tree'.root.Proper) (registry : Registry) (filter : Filter) (root : Place) :
    list tree' registry filter root = list tree registry filter root := by
  by_cases hroot : ∃ entries, tree.root.at? root = some (.folder entries)
  · obtain ⟨entries, hfolder⟩ := hroot
    obtain ⟨entries', hfolder'⟩ := hmatches.forth.exists_folder hfolder
    apply list_congr hproper hproper' hfolder hfolder'
    · intro names source h
      exact h.matches hmatches.symm
    · intro names source h
      exact h.matches hmatches
  · rw [list_of_not_folder hroot, list_of_not_folder]
    rintro ⟨entries', hfolder'⟩
    exact hroot (hmatches.back.exists_folder hfolder')

end Breadcrumb.Sources
