import Breadcrumb.Tree
import Mathlib.Data.List.Dedup
import Mathlib.Data.List.Infix

namespace Breadcrumb.Tree

def bare : Tree → Tree
  | .step label => .step label
  | .file path _ => .file path []

mutual

/-- The nodes of a tree, each with its children but nothing below them. -/
def nodes : Tree → List Tree
  | .step label => [.step label]
  | .file path children => .file path (children.map bare) :: nodesOfAll children

def nodesOfAll : List Tree → List Tree
  | [] => []
  | tree :: rest => nodes tree ++ nodesOfAll rest

end

def path? : Tree → Option Text
  | .step _ => none
  | .file path _ => some path

/-- The paths of the file nodes. -/
def paths (nodes : List Tree) : List Text := nodes.filterMap path?

def grow (path : Text) (child : Tree) : Tree → Tree
  | .step label => .step label
  | .file other children =>
    if other = path then .file other (children ++ [child]) else .file other children

variable {path : Text} {child tree : Tree} {trees : List Tree}

theorem grow_of_path?_ne (h : tree.path? ≠ some path) : grow path child tree = tree := by
  cases tree with
  | step => rfl
  | file other children => exact if_neg fun he => h (congrArg some he)

theorem map_grow_of_notMem {nodes : List Tree} (h : path ∉ paths nodes) :
    nodes.map (grow path child) = nodes := by
  have hsame : ∀ tree ∈ nodes, grow path child tree = id tree := fun tree htree =>
    grow_of_path?_ne fun hpath => h (List.mem_filterMap.2 ⟨tree, htree, hpath⟩)
  rw [List.map_congr_left hsame, List.map_id]

theorem paths_nodes_file (path : Text) (children : List Tree) :
    paths (nodes (.file path children)) = path :: paths (nodesOfAll children) := rfl

theorem paths_nodesOfAll_cons (tree : Tree) (trees : List Tree) :
    paths (nodesOfAll (tree :: trees)) = paths (nodes tree) ++ paths (nodesOfAll trees) :=
  List.filterMap_append

theorem bare_addTo (path : Text) (child tree : Tree) : (addTo path child tree).bare = tree.bare := by
  cases tree with
  | step => rfl
  | file other children =>
    rw [addTo]
    split <;> rfl

theorem map_bare_addToAll (path : Text) (child : Tree) (trees : List Tree) :
    (addToAll path child trees).map bare = trees.map bare := by
  induction trees with
  | nil => rfl
  | cons tree trees ih => rw [addToAll, List.map_cons, List.map_cons, bare_addTo, ih]

theorem nodesOfAll_append (trees more : List Tree) :
    nodesOfAll (trees ++ more) = nodesOfAll trees ++ nodesOfAll more := by
  induction trees with
  | nil => rfl
  | cons tree trees ih => rw [List.cons_append, nodesOfAll, nodesOfAll, ih, List.append_assoc]

theorem nodes_of_bare (h : child.bare = child) : nodes child = [child] := by
  cases child with
  | step => rfl
  | file path children =>
    obtain rfl : [] = children := (Tree.file.inj h).2
    rfl

mutual

/-- A child that is added becomes a node of its own and the last child of the file it is added to,
and nothing else changes. -/
theorem nodes_addTo (hbare : child.bare = child) :
    ∀ {tree : Tree}, (paths (nodes tree)).Nodup →
      (nodes (addTo path child tree)).Perm
        ((if path ∈ paths (nodes tree) then [child] else []) ++ (nodes tree).map (grow path child))
  | .step label, _ => .refl _
  | .file other children, hnodup => by
    obtain ⟨hother, hchildren⟩ := List.nodup_cons.1 (paths_nodes_file other children ▸ hnodup)
    by_cases hpath : other = path
    · subst hpath
      have hgrown : (nodes (.file other children)).map (grow other child) =
          .file other (children.map bare ++ [child]) :: nodesOfAll children := by
        rw [nodes, List.map_cons, map_grow_of_notMem hother, grow, if_pos rfl]
      have hadded : nodes (addTo other child (.file other children)) =
          (.file other (children.map bare ++ [child]) :: nodesOfAll children) ++ [child] := by
        rw [addTo, if_pos rfl, nodes, nodesOfAll_append, List.map_append, List.map_singleton, hbare,
          nodesOfAll, nodes_of_bare hbare]
        rfl
      rw [hadded, hgrown, paths_nodes_file, if_pos List.mem_cons_self]
      exact List.perm_append_comm
    · have hmem : path ∈ paths (nodes (.file other children)) ↔ path ∈ paths (nodesOfAll children) :=
        List.mem_cons.trans (or_iff_right (Ne.symm hpath))
      simp only [hmem]
      rw [addTo, if_neg hpath, nodes, map_bare_addToAll, nodes, List.map_cons, grow, if_neg hpath]
      exact ((nodesOfAll_addToAll hbare hchildren).cons _).trans List.perm_middle.symm

theorem nodesOfAll_addToAll (hbare : child.bare = child) :
    ∀ {trees : List Tree}, (paths (nodesOfAll trees)).Nodup →
      (nodesOfAll (addToAll path child trees)).Perm
        ((if path ∈ paths (nodesOfAll trees) then [child] else []) ++
          (nodesOfAll trees).map (grow path child))
  | [], _ => .refl _
  | tree :: rest, hnodup => by
    rw [paths_nodesOfAll_cons] at hnodup ⊢
    obtain ⟨htree, hrest, hapart⟩ := List.nodup_append'.1 hnodup
    rw [addToAll, nodesOfAll, nodesOfAll, List.map_append]
    refine ((nodes_addTo hbare htree).append (nodesOfAll_addToAll hbare hrest)).trans ?_
    by_cases hmem : path ∈ paths (nodes tree)
    · rw [if_pos hmem, if_neg (hapart hmem), if_pos (List.mem_append_left _ hmem)]
      exact .of_eq (by simp only [List.append_assoc, List.nil_append])
    · have hiff : path ∈ paths (nodes tree) ++ paths (nodesOfAll rest) ↔
          path ∈ paths (nodesOfAll rest) := List.mem_append.trans (or_iff_right hmem)
      simp only [if_neg hmem, hiff, List.nil_append]
      exact List.perm_append_comm_assoc _ _ _

end

/-- What a crumb makes of the file at `path` before its step, where `before` are the crumbs before
it: its own file below, if the file is new and the crumb before it lies at `path`. -/
def opened (path : Text) (before : List Crumb) (crumb : Crumb) : List Tree :=
  if (before.map (·.path)).contains crumb.path then []
  else if before.getLast?.map (·.path) = some path then [.file crumb.path []]
  else []

def stepped (path : Text) (crumb : Crumb) : List Tree :=
  if path = crumb.path then [.step (stepLabel crumb)] else []

/-- The children that the trail makes below the file at `path`, one crumb after another. -/
def arrivals (path : Text) (trail : List Crumb) : List Tree :=
  trail.zipIdx.flatMap fun (crumb, i) => opened path (trail.take i) crumb ++ stepped path crumb

def files (seen : List Text) (children : Text → List Tree) : List Tree :=
  seen.map fun path => .file path (children path)

def steps (trail : List Crumb) : List Tree := trail.map fun crumb => .step (stepLabel crumb)

variable {seen : List Text} {children : Text → List Tree} {trail : List Crumb} {crumb : Crumb}
  {visit : Visit}

theorem arrivals_concat (path : Text) (trail : List Crumb) (crumb : Crumb) :
    arrivals path (trail ++ [crumb]) =
      arrivals path trail ++ (opened path trail crumb ++ stepped path crumb) := by
  rw [arrivals, List.zipIdx_append, List.flatMap_append]
  congr 1
  · refine List.flatMap_congr fun (other, i) hmem => ?_
    have hlt := List.snd_lt_of_mem_zipIdx hmem
    simp only [List.take_append_of_le_length (by simpa using hlt.le : i ≤ trail.length)]
  · simp

theorem paths_files_steps (seen : List Text) (children : Text → List Tree) (trail : List Crumb) :
    paths (files seen children ++ steps trail) = seen := by
  simp [paths, files, steps, Function.comp_def, path?]

theorem map_grow_files_steps (path : Text) (child : Tree) (seen : List Text)
    (children : Text → List Tree) (trail : List Crumb) :
    (files seen children ++ steps trail).map (grow path child) =
      files seen (fun other => children other ++ if other = path then [child] else []) ++
        steps trail := by
  simp only [files, steps, List.map_append, List.map_map, Function.comp_def, grow]
  congr 1
  refine List.map_congr_left fun other _ => ?_
  split
  · rfl
  · rw [List.append_nil]

theorem nodesOfAll_grown (hnodes : (nodesOfAll trees).Perm (files seen children ++ steps trail))
    (hnodup : seen.Nodup) (hbare : child.bare = child) (hpath : path ∈ seen) :
    (nodesOfAll (addToAll path child trees)).Perm
      (child :: (files seen (fun other => children other ++ if other = path then [child] else []) ++
        steps trail)) := by
  have hpaths : (paths (nodesOfAll trees)).Perm seen :=
    paths_files_steps seen children trail ▸ hnodes.filterMap path?
  have hadded : (nodesOfAll (addToAll path child trees)).Perm _ :=
    nodesOfAll_addToAll hbare (hpaths.nodup_iff.2 hnodup)
  rw [if_pos (hpaths.mem_iff.2 hpath), List.singleton_append] at hadded
  exact hadded.trans ((map_grow_files_steps path child seen children trail ▸
    hnodes.map (grow path child)).cons child)

/-- What is known of a visit behind a trail. -/
structure Visits (trail : List Crumb) (visit : Visit) : Prop where
  nodup : visit.seen.Nodup
  mem_seen : ∀ path, path ∈ visit.seen ↔ path ∈ trail.map (·.path)
  last : visit.last = trail.getLast?.map (·.path)
  roots : visit.roots.map bare = trail.head?.toList.map fun crumb => .file crumb.path []
  nodes : (nodesOfAll visit.roots).Perm (files visit.seen (arrivals · trail) ++ steps trail)

theorem opened_of_mem (path : Text) (h : crumb.path ∈ trail.map (·.path)) :
    opened path trail crumb = [] := if_pos (List.contains_iff_mem.2 h)

theorem opened_of_notMem (path : Text) (h : crumb.path ∉ trail.map (·.path)) :
    opened path trail crumb =
      if trail.getLast?.map (·.path) = some path then [.file crumb.path []] else [] :=
  if_neg fun hin => h (List.contains_iff_mem.1 hin)

theorem opened_of_last_ne (crumb : Crumb) (h : trail.getLast?.map (·.path) ≠ some path) :
    opened path trail crumb = [] := by
  rw [opened, if_neg h, ite_self]

theorem arrivals_of_notMem (h : path ∉ trail.map (·.path)) : arrivals path trail = [] := by
  induction trail using List.reverseRecOn with
  | nil => rfl
  | append_singleton trail crumb ih =>
    rw [List.map_append, List.mem_append, not_or] at h
    have hlast : trail.getLast?.map (·.path) ≠ some path := by
      intro hlast
      obtain ⟨last, hin, rfl⟩ := Option.map_eq_some_iff.1 hlast
      exact h.1 (List.mem_map.2 ⟨last, List.mem_of_getLast? hin, rfl⟩)
    have hpath : path ≠ crumb.path := fun he => h.2 (by simp [he])
    rw [arrivals_concat, ih h.1, opened_of_last_ne crumb hlast, stepped, if_neg hpath]
    rfl

theorem visits_start : Visits [] {} where
  nodup := List.nodup_nil
  mem_seen path := by simp
  last := rfl
  roots := rfl
  nodes := .refl _

theorem enter_of_mem (h : path ∈ visit.seen) : visit.enter path = visit :=
  if_pos (List.contains_iff_mem.2 h)

theorem enter_of_notMem (h : path ∉ visit.seen) : visit.enter path =
    { visit with
      roots := match visit.last with
        | none => visit.roots ++ [.file path []]
        | some last => addToAll last (.file path []) visit.roots
      seen := visit.seen ++ [path] } :=
  if_neg fun hin => h (List.contains_iff_mem.1 hin)

theorem Visits.enter_seen (h : Visits trail visit) (crumb : Crumb) :
    (visit.enter crumb.path).seen.Nodup ∧
      ∀ path, path ∈ (visit.enter crumb.path).seen ↔ path ∈ (trail ++ [crumb]).map (·.path) := by
  by_cases hseen : crumb.path ∈ visit.seen
  · rw [enter_of_mem hseen]
    refine ⟨h.nodup, fun path => ?_⟩
    rw [List.map_append, List.mem_append, ← h.mem_seen, List.map_singleton, List.mem_singleton]
    exact ⟨.inl, fun hor => hor.elim id fun he => he ▸ hseen⟩
  · rw [enter_of_notMem hseen]
    refine ⟨List.nodup_append'.2 ⟨h.nodup, List.nodup_singleton _, by simpa using hseen⟩, ?_⟩
    intro path
    simp only [List.map_append, List.mem_append, h.mem_seen, List.map_singleton]

theorem Visits.enter_roots (h : Visits trail visit) (crumb : Crumb) :
    (visit.enter crumb.path).roots.map bare =
        (trail ++ [crumb]).head?.toList.map (fun first => .file first.path []) ∧
      (nodesOfAll (visit.enter crumb.path).roots).Perm
        (files (visit.enter crumb.path).seen
          (fun path => arrivals path trail ++ opened path trail crumb) ++ steps trail) := by
  rcases List.eq_nil_or_concat' trail with rfl | ⟨before, last, rfl⟩
  · have hseen : visit.seen = [] := List.eq_nil_iff_forall_not_mem.2 fun path hin => by
      simpa using (h.mem_seen path).1 hin
    have hroots : visit.roots = [] := List.map_eq_nil_iff.1 h.roots
    have hlast : visit.last = none := h.last
    rw [enter_of_notMem (by simp [hseen])]
    simp only [hseen, hroots, hlast]
    exact ⟨rfl, .refl _⟩
  · have hhead : (before ++ [last] ++ [crumb]).head? = (before ++ [last]).head? := by
      cases before <;> rfl
    rw [hhead]
    by_cases hseen : crumb.path ∈ visit.seen
    · rw [enter_of_mem hseen]
      refine ⟨h.roots, ?_⟩
      simpa only [opened_of_mem _ ((h.mem_seen _).1 hseen), List.append_nil] using h.nodes
    · have hnew : crumb.path ∉ (before ++ [last]).map (·.path) := fun hin =>
        hseen ((h.mem_seen _).2 hin)
      have hlast : visit.last = some last.path := by simp [h.last]
      rw [enter_of_notMem hseen]
      simp only [hlast]
      refine ⟨(map_bare_addToAll _ _ _).trans h.roots, ?_⟩
      have hin : last.path ∈ visit.seen := (h.mem_seen _).2 (by simp)
      have hfiles (path : Text) : arrivals path (before ++ [last]) ++
            (if path = last.path then [.file crumb.path []] else []) =
          arrivals path (before ++ [last]) ++ opened path (before ++ [last]) crumb := by
        rw [opened_of_notMem path hnew, List.getLast?_concat, Option.map_some]
        simp only [Option.some.injEq, @eq_comm _ path]
      have hfile : arrivals crumb.path (before ++ [last]) ++
          opened crumb.path (before ++ [last]) crumb = [] := by
        rw [← hfiles, arrivals_of_notMem hnew, if_neg fun he => hnew (by simp [he])]
        rfl
      refine (nodesOfAll_grown h.nodes h.nodup rfl hin).trans ?_
      simp only [hfiles, files, List.map_append, List.map_singleton, hfile, List.append_assoc]
      exact List.perm_middle.symm

theorem Visits.add (h : Visits trail visit) (crumb : Crumb) :
    Visits (trail ++ [crumb]) (visit.add crumb) := by
  obtain ⟨hnodup, hmem⟩ := h.enter_seen crumb
  obtain ⟨hroots, hnodes⟩ := h.enter_roots crumb
  have hpath : crumb.path ∈ (visit.enter crumb.path).seen := (hmem _).2 (by simp)
  refine ⟨hnodup, hmem, by simp [Visit.add], (map_bare_addToAll _ _ _).trans hroots, ?_⟩
  have hbare : (Tree.step (stepLabel crumb)).bare = .step (stepLabel crumb) := rfl
  refine (nodesOfAll_grown hnodes hnodup hbare hpath).trans ?_
  have hsteps : steps (trail ++ [crumb]) = steps trail ++ [.step (stepLabel crumb)] :=
    List.map_append
  simp only [hsteps, arrivals_concat, stepped, List.append_assoc, Visit.add]
  rw [← List.append_assoc]
  exact (List.perm_append_singleton _ _).symm

theorem visits_foldl (trail : List Crumb) : Visits trail (trail.foldl Visit.add {}) := by
  induction trail using List.reverseRecOn with
  | nil => exact visits_start
  | append_singleton trail crumb ih =>
    rw [List.foldl_append]
    exact ih.add crumb

end Breadcrumb.Tree
