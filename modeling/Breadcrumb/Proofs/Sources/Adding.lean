import Breadcrumb.Proofs.FileTree.Adding
import Breadcrumb.Proofs.Sources.Growth

namespace Breadcrumb.Sources

variable {tree tree' : FileTree} {file place root : Place} {registry : Registry} {filter : Filter}
  {names : List Text} {source : Source} {bytes : Bytes}

theorem leadsToFolder_adds (h : FileTree.Adds file bytes tree tree') (place : Place)
    (target : Text) : leadsToFolder tree' place target = leadsToFolder tree place target := by
  apply Bool.eq_iff_iff.2
  constructor
  · intro hleads'
    obtain ⟨found', entries', hreaches'⟩ := leadsToFolder_iff.1 hleads'
    have hreaches := FileTree.reaches tree true (FileTree.maxLinks - 1)
      (FileTree.targetStart place target) (FileTree.targetNames target)
    obtain ⟨located', hother, hadds⟩ := h.reaches hreaches
    obtain rfl := hother.eq.symm.trans hreaches'.eq
    generalize tree.locateFrom true _ _ _ = located at hreaches hadds
    cases hadds with
    | same => exact leadsToFolder_iff.2 ⟨_, _, hreaches⟩
    | folder => exact leadsToFolder_iff.2 ⟨_, _, hreaches⟩
  · exact leadsToFolder_grows h.grows

theorem IsFileAt.adds (h : IsFileAt tree place) (hadds : FileTree.Adds file bytes tree tree') :
    IsFileAt tree' place := by
  rcases h with ⟨bytes, hfile⟩ | ⟨target, hlink, hleads⟩
  · exact .inl (hadds.grows.exists_file hfile)
  · refine .inr ⟨target, (hadds.grows.entry place).eq_link_iff.2 hlink, ?_⟩
    rw [leadsToFolder_adds hadds]
    exact hleads

theorem IsFileAt.of_adds (h : IsFileAt tree' place) (hadds : FileTree.Adds file bytes tree tree')
    (hplace : place ∉ [file]) : IsFileAt tree place := by
  rcases h with ⟨bytes, hfile⟩ | ⟨target, hlink, hleads⟩
  · exact .inl ⟨bytes, ((hadds.grows.entry place).eq_file_iff hplace).1 hfile⟩
  · refine .inr ⟨target, (hadds.grows.entry place).eq_link_iff.1 hlink, ?_⟩
    rw [← leadsToFolder_adds hadds]
    exact hleads

theorem eligible_adds_iff (h : FileTree.Adds file bytes tree tree') (hproper' : tree'.root.Proper)
    (hfile : NoSource registry [file]) :
    Eligible tree' registry filter root names source ↔
      Eligible tree registry filter root names source := by
  constructor
  · intro heligible
    have hplace := heligible.notMem hproper' hfile
    obtain ⟨⟨hdeeper, hfile, hentered, hignored, hexcluded⟩, hplace', hpath, hwanted, hlanguage⟩ :=
      heligible
    refine ⟨⟨hdeeper, hfile.of_adds h hplace, ?_, hignored, hexcluded⟩, hplace', hpath, hwanted,
      hlanguage⟩
    intro k hk hk'
    obtain ⟨hfolder, hskipped, hignored, hexcluded⟩ := hentered k hk hk'
    exact ⟨h.exists_folder_iff.1 hfolder, hskipped, hignored, hexcluded⟩
  · rintro ⟨⟨hdeeper, hfile, hentered, hignored, hexcluded⟩, hplace, hpath, hwanted, hlanguage⟩
    refine ⟨⟨hdeeper, hfile.adds h, ?_, hignored, hexcluded⟩, hplace, hpath, hwanted, hlanguage⟩
    intro k hk hk'
    obtain ⟨hfolder, hskipped, hignored, hexcluded⟩ := hentered k hk hk'
    exact ⟨h.exists_folder_iff.2 hfolder, hskipped, hignored, hexcluded⟩

theorem list_adds (h : FileTree.Adds file bytes tree tree') (hproper : tree.root.Proper)
    (hproper' : tree'.root.Proper) (hfile : NoSource registry [file]) (filter : Filter)
    (root : Place) : list tree' registry filter root = list tree registry filter root := by
  by_cases hroot : ∃ entries, tree.root.at? root = some (.folder entries)
  · obtain ⟨entries, hfolder⟩ := hroot
    obtain ⟨entries', hfolder'⟩ := h.grows.exists_folder hfolder
    refine eq_of_mem_iff (list_paths_sorted hproper' registry root)
      (list_paths_sorted hproper registry root) ?_
    intro source
    rw [mem_list_iff hproper' hfolder', mem_list_iff hproper hfolder]
    exact exists_congr fun names => eligible_adds_iff h hproper' hfile
  · have hroot' : ¬ ∃ entries, tree'.root.at? root = some (.folder entries) := by
      rwa [h.exists_folder_iff]
    rw [list_of_not_folder hroot, list_of_not_folder hroot']

end Breadcrumb.Sources
