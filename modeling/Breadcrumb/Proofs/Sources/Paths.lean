import Breadcrumb.Proofs.FileTree.Proper
import Breadcrumb.Proofs.Text.Compare
import Breadcrumb.Sources

namespace Breadcrumb.Sources

/-- The path of the entry with this name in the folder at `folder`, or of something below it. -/
def Under (folder name path : Text) : Prop :=
  ∃ rest, path = below folder name ++ rest ∧ (rest = [] ∨ rest.head? = some '/')

theorem below_eq (folder name : Text) :
    below folder name = (if folder.isEmpty then [] else folder ++ ['/']) ++ name := by
  rw [below]
  split <;> rfl

theorem below_ne_nil (folder : Text) (hname : Entry.IsName name) : below folder name ≠ [] := by
  rw [below_eq]
  exact List.append_ne_nil_of_right_ne_nil _ hname.1

theorem Under.outer (hname : Entry.IsName name) (h : Under (below folder name) child path) :
    Under folder name path := by
  obtain ⟨rest, rfl, -⟩ := h
  refine ⟨['/'] ++ child ++ rest, ?_, .inr rfl⟩
  have hfolder : (below folder name).isEmpty = false := by
    simpa using below_ne_nil folder hname
  rw [below, hfolder]
  simp

theorem takeWhile_name (hname : '/' ∉ name) (hrest : rest = [] ∨ rest.head? = some '/') :
    (name ++ rest).takeWhile (· ≠ '/') = name := by
  have hall : ∀ c ∈ name, (decide (c ≠ '/')) = true := by
    intro c hc
    exact decide_eq_true (ne_of_mem_of_not_mem hc hname)
  rw [List.takeWhile_append_of_pos hall]
  rcases hrest with rfl | hrest
  · simp
  · obtain ⟨tail, rfl⟩ := List.head?_eq_some_iff.1 hrest
    simp

theorem Under.name_eq (hname : Entry.IsName name) (hother : Entry.IsName other)
    (h : Under folder name path) (h' : Under folder other path) : name = other := by
  obtain ⟨rest, rfl, hrest⟩ := h
  obtain ⟨rest', heq, hrest'⟩ := h'
  rw [below_eq, below_eq, List.append_assoc, List.append_assoc, List.append_cancel_left_eq] at heq
  rw [← takeWhile_name hname.2 hrest, heq, takeWhile_name hother.2 hrest']

variable {tree : FileTree} {filter : Filter}

theorem mem_walk (h : path ∈ walk tree filter place folder entries) :
    ∃ e ∈ entries, path ∈ walkEntry tree filter place folder e.1 e.2 := by
  induction entries with
  | nil => cases h
  | cons first entries ih =>
    rw [walk] at h
    rcases List.mem_append.1 h with h | h
    · exact ⟨first, List.mem_cons_self, h⟩
    · obtain ⟨e, he, h⟩ := ih h
      exact ⟨e, List.mem_cons_of_mem _ he, h⟩

theorem under_of_mem_filter (h : path ∈ [below folder name].filter keeps) :
    Under folder name path := by
  rw [List.mem_singleton.1 (List.mem_filter.1 h).1]
  exact ⟨[], (List.append_nil _).symm, .inl rfl⟩

theorem under_of_mem_walkEntry (hproper : entry.Proper) (hname : Entry.IsName name)
    (h : path ∈ walkEntry tree filter place folder name entry) : Under folder name path := by
  induction hproper generalizing place folder name path with
  | file bytes =>
    rw [walkEntry] at h
    exact under_of_mem_filter h
  | link target =>
    rw [walkEntry] at h
    split at h
    · cases h
    · exact under_of_mem_filter h
  | folder nodup names inner ih =>
    rw [walkEntry] at h
    split at h
    · obtain ⟨e, he, h⟩ := mem_walk h
      exact (ih e he (names e he) h).outer hname
    · cases h

/-- Entries of different names have no path in common. -/
theorem nodup_walk (hnodup : (entries.map (·.1)).Nodup) (hnames : ∀ e ∈ entries, Entry.IsName e.1)
    (hproper : ∀ e ∈ entries, e.2.Proper)
    (heach : ∀ e ∈ entries, (walkEntry tree filter place folder e.1 e.2).Nodup) :
    (walk tree filter place folder entries).Nodup := by
  induction entries with
  | nil =>
    rw [walk]
    exact .nil
  | cons first entries ih =>
    obtain ⟨hfirst, hnodup⟩ := List.nodup_cons.1 hnodup
    obtain ⟨hname, hnames⟩ := List.forall_mem_cons.1 hnames
    obtain ⟨hentry, hproper⟩ := List.forall_mem_cons.1 hproper
    obtain ⟨hhead, heach⟩ := List.forall_mem_cons.1 heach
    rw [walk]
    refine hhead.append (ih hnodup hnames hproper heach) ?_
    intro path hpath hrest
    obtain ⟨e, he, hrest⟩ := mem_walk hrest
    have hsame := Under.name_eq hname (hnames e he) (under_of_mem_walkEntry hentry hname hpath)
      (under_of_mem_walkEntry (hproper e he) (hnames e he) hrest)
    exact hfirst (List.mem_map.2 ⟨e, he, hsame.symm⟩)

theorem nodup_walkEntry (hproper : entry.Proper) (name : Text) :
    (walkEntry tree filter place folder name entry).Nodup := by
  induction hproper generalizing place folder name with
  | file bytes =>
    rw [walkEntry]
    exact (List.nodup_singleton _).filter _
  | link target =>
    rw [walkEntry]
    split
    · exact .nil
    · exact (List.nodup_singleton _).filter _
  | folder nodup names inner ih =>
    rw [walkEntry]
    split
    · exact nodup_walk nodup names inner fun e he => ih e he e.1
    · exact .nil

theorem nodup_candidates (hproper : tree.root.Proper) (root : Place) :
    (candidates tree filter root).Nodup := by
  rw [candidates]
  split
  · rename_i entries hroot
    cases hproper.at? hroot with
    | folder nodup names inner =>
      rw [(List.mergeSort_perm _ _).nodup_iff]
      exact nodup_walk nodup names inner fun e he => nodup_walkEntry (inner e he) e.1
  · exact .nil

theorem candidates_sorted (tree : FileTree) (filter : Filter) (root : Place) :
    (candidates tree filter root).Pairwise (fun a b => a.le b = true) := by
  rw [candidates]
  split
  · exact Text.pairwise_mergeSort_le _
  · exact .nil

theorem source?_path (h : source? registry selection root path = some source) :
    source.path = path := by
  rw [source?] at h
  split at h
  · obtain ⟨language, -, rfl⟩ := Option.map_eq_some_iff.1 h
    rfl
  · cases h

/-- The sources come in the order of their paths, no two of which are equal. -/
theorem list_paths_sorted (hproper : tree.root.Proper) (registry : Registry) (root : Place) :
    (list tree registry filter root).Pairwise (·.path < ·.path) := by
  rw [list, List.pairwise_filterMap]
  refine ((candidates_sorted tree filter root).and (nodup_candidates hproper root)).imp ?_
  rintro path path' ⟨hle, hne⟩ source hsource source' hsource'
  rw [source?_path hsource, source?_path hsource']
  exact ((Text.le_iff path path').1 hle).resolve_right hne

end Breadcrumb.Sources
