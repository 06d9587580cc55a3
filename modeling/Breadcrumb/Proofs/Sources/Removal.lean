import Breadcrumb.Proofs.FileTree.Straight
import Breadcrumb.Proofs.Sources.Eligible

namespace Breadcrumb.Sources

variable {tree : FileTree} {gone : List Place} {filter : Filter} {root : Place}

/-- There is no link at a place or below it. -/
def Linkless (tree : FileTree) (root : Place) : Prop :=
  ∀ entry, tree.root.at? root = some entry → entry.Linkless

theorem Linkless.at?_ne_link (h : Linkless tree root) (names : List Text) (target : Text) :
    tree.root.at? (root ++ names) ≠ some (.link target) := by
  intro hlink
  rw [Entry.at?_append] at hlink
  obtain ⟨entry, hentry, hlink⟩ := Option.bind_eq_some_iff.1 hlink
  cases (h entry hentry).at? hlink

theorem list_of_not_folder (hroot : ¬ ∃ entries, tree.root.at? root = some (.folder entries))
    (registry : Registry) (filter : Filter) : list tree registry filter root = [] := by
  rw [list, candidates]
  split
  · rename_i entries hat
    exact (hroot ⟨entries, hat⟩).elim
  · rfl

theorem eligible_of_mem_list (hproper : tree.root.Proper)
    (h : source ∈ list tree registry filter root) :
    ∃ names, Eligible tree registry filter root names source := by
  by_cases hroot : ∃ entries, tree.root.at? root = some (.folder entries)
  · obtain ⟨entries, hroot⟩ := hroot
    exact (mem_list_iff hproper hroot registry source).1 h
  · rw [list_of_not_folder hroot] at h
    cases h

theorem Eligible.place_ne_nil (h : Eligible tree registry filter root names source) :
    source.place ≠ [] := by
  rw [h.place]
  exact List.append_ne_nil_of_right_ne_nil _ (List.length_pos_iff.1 h.kept.deeper)

theorem Eligible.exists_file (hlinkless : Linkless tree root)
    (h : Eligible tree registry filter root names source) :
    ∃ bytes, tree.root.at? source.place = some (.file bytes) := by
  rw [h.place]
  rcases h.kept.file with hfile | ⟨target, hlink, -⟩
  · exact hfile
  · exact (hlinkless.at?_ne_link names target hlink).elim

theorem Eligible.eq_of_place (h : Eligible tree registry filter root names source)
    (h' : Eligible tree registry filter root names' source') (hplace : source.place = source'.place) :
    source = source' := by
  obtain rfl : names = names' := by
    rw [h.place, h'.place] at hplace
    exact List.append_cancel_left hplace
  have hpath : source.path = source'.path := h.path.trans h'.path.symm
  have hlanguage := h.language
  rw [hpath, h'.language, Option.some.injEq] at hlanguage
  cases source
  cases source'
  cases hplace
  cases hpath
  cases hlanguage
  rfl

theorem isFileAt_without_iff (h : tree.FilesAt gone) (hlinkless : Linkless tree root) :
    IsFileAt (tree.without gone) (root ++ names) ↔
      IsFileAt tree (root ++ names) ∧ root ++ names ∉ gone := by
  simp only [IsFileAt, FileTree.at?_without_eq_file h, FileTree.at?_without_eq_link h,
    hlinkless.at?_ne_link names _, false_and, exists_false, or_false, exists_and_right]

theorem enters_without_iff (h : tree.FilesAt gone) :
    Enters (tree.without gone) filter root names ↔ Enters tree filter root names := by
  constructor
  · rintro ⟨hfolder, hskipped, hignored, hexcluded⟩
    exact ⟨(FileTree.exists_folder_without_iff h).1 hfolder, hskipped, hignored, hexcluded⟩
  · rintro ⟨hfolder, hskipped, hignored, hexcluded⟩
    exact ⟨(FileTree.exists_folder_without_iff h).2 hfolder, hskipped, hignored, hexcluded⟩

theorem eligible_without_iff (h : tree.FilesAt gone) (hlinkless : Linkless tree root) :
    Eligible (tree.without gone) registry filter root names source ↔
      Eligible tree registry filter root names source ∧ source.place ∉ gone := by
  constructor
  · rintro ⟨⟨hdeeper, hfile, hentered, hignored, hexcluded⟩, hplace, hpath, hwanted, hlanguage⟩
    obtain ⟨hfile, hgone⟩ := (isFileAt_without_iff h hlinkless).1 hfile
    refine ⟨⟨⟨hdeeper, hfile, ?_, hignored, hexcluded⟩, hplace, hpath, hwanted, hlanguage⟩, ?_⟩
    · intro k hk hk'
      exact (enters_without_iff h).1 (hentered k hk hk')
    · rwa [hplace]
  · rintro ⟨⟨⟨hdeeper, hfile, hentered, hignored, hexcluded⟩, hplace, hpath, hwanted, hlanguage⟩,
      hgone⟩
    rw [hplace] at hgone
    refine ⟨⟨hdeeper, (isFileAt_without_iff h hlinkless).2 ⟨hfile, hgone⟩, ?_, hignored, hexcluded⟩,
      hplace, hpath, hwanted, hlanguage⟩
    intro k hk hk'
    exact (enters_without_iff h).2 (hentered k hk hk')

/-- Lists in strictly ascending order of the paths are equal if they have the same members. -/
theorem eq_of_mem_iff {found found' : List Source} (h : found.Pairwise (·.path < ·.path))
    (h' : found'.Pairwise (·.path < ·.path)) (hmem : ∀ source, source ∈ found ↔ source ∈ found') :
    found = found' := by
  have hnodup {found : List Source} (h : found.Pairwise (·.path < ·.path)) : found.Nodup := by
    refine h.imp ?_
    rintro source _ hlt rfl
    exact List.lt_irrefl _ hlt
  refine List.Perm.eq_of_pairwise ?_ h h' ((List.perm_ext_iff_of_nodup (hnodup h) (hnodup h')).2 hmem)
  intro a b _ _ hab hba
  exact (List.lt_asymm hab hba).elim

/-- The sources that are left come in the order in which they came before. -/
theorem list_without (hproper : tree.root.Proper) (h : tree.FilesAt gone)
    (hlinkless : Linkless tree root) (registry : Registry) (filter : Filter) :
    list (tree.without gone) registry filter root =
      (list tree registry filter root).filter (·.place ∉ gone) := by
  by_cases hfolder : ∃ entries, tree.root.at? root = some (.folder entries)
  · obtain ⟨entries, hroot⟩ := hfolder
    obtain ⟨entries', hroot'⟩ := (FileTree.exists_folder_without_iff h).2 ⟨entries, hroot⟩
    have hproper' : (tree.without gone).root.Proper := hproper.foldl_remove gone
    refine eq_of_mem_iff (list_paths_sorted hproper' registry root)
      ((list_paths_sorted hproper registry root).filter _) ?_
    intro source
    rw [mem_list_iff hproper' hroot', List.mem_filter, mem_list_iff hproper hroot]
    simp only [eligible_without_iff h hlinkless, decide_eq_true_eq, exists_and_right]
  · rw [list_of_not_folder hfolder, List.filter_nil, list_of_not_folder]
    rwa [FileTree.exists_folder_without_iff h]

end Breadcrumb.Sources
