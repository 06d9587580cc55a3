import Breadcrumb.Proofs.Diagram.Lines
import Breadcrumb.Proofs.Tree.Visiting
import Breadcrumb.Text.Lines
import Mathlib.Data.List.TakeWhile

namespace Breadcrumb

/-- `name` is what stands behind the last slash of `path`. -/
def Path.IsBaseName (path name : Text) : Prop :=
  '/' ∉ name ∧ (path = name ∨ ∃ front, path = front ++ '/' :: name)

theorem Path.isBaseName_baseName (path : Text) : IsBaseName path (baseName path) := by
  have hparts : (path.reverse.dropWhile (· ≠ '/')).reverse ++ baseName path = path := by
    rw [baseName, ← List.reverse_append, List.takeWhile_append_dropWhile, List.reverse_reverse]
  constructor
  · intro hin
    simpa using List.mem_takeWhile_imp (List.mem_reverse.1 hin)
  · cases hrest : path.reverse.dropWhile (· ≠ '/') with
    | nil =>
      rw [hrest] at hparts
      exact .inl hparts.symm
    | cons c rest =>
      have hc := List.head?_dropWhile_not (· ≠ '/') path.reverse
      rw [hrest] at hc
      obtain rfl : c = '/' := by simpa using hc
      rw [hrest, List.reverse_cons, List.append_assoc] at hparts
      exact .inr ⟨rest.reverse, hparts.symm⟩

theorem Text.anyLinesFrom_line {line : Text} (h : ∀ c ∈ line, isSeparator c = false)
    (current rest : Text) :
    anyLinesFrom current (line ++ '\n' :: rest) =
      (current.reverse ++ line) :: anyLinesFrom [] rest := by
  induction line generalizing current with
  | nil => simp [anyLinesFrom, isSeparator]
  | cons c line ih =>
    obtain ⟨hc, hline⟩ := List.forall_mem_cons.1 h
    have hreturn : c ≠ '\r' := by
      intro he
      subst he
      exact absurd hc (by decide)
    rw [List.cons_append, anyLinesFrom, if_neg (by simp [hc]), ih hline, List.reverse_cons,
      List.append_assoc]
    · rfl
    · intro _ he _
      exact hreturn he

/-- Lines that hold no separator come back when the text is cut at its separators. -/
theorem Text.anyLines_flatMap {lines : List Text}
    (h : ∀ line ∈ lines, ∀ c ∈ line, isSeparator c = false) :
    anyLines (lines.flatMap (· ++ ['\n'])) = lines := by
  induction lines with
  | nil => rfl
  | cons line lines ih =>
    obtain ⟨hfirst, hlines⟩ := List.forall_mem_cons.1 h
    rw [List.flatMap_cons, List.append_assoc, anyLines, List.singleton_append,
      anyLinesFrom_line hfirst]
    exact congrArg _ (ih hlines)

theorem Text.count_flatMap {lines : List Text} (h : ∀ line ∈ lines, ∀ c ∈ line, c ≠ '\n') :
    (lines.flatMap (· ++ ['\n'])).count '\n' = lines.length := by
  induction lines with
  | nil => rfl
  | cons line lines ih =>
    obtain ⟨hfirst, hlines⟩ := List.forall_mem_cons.1 h
    have hnone : line.count '\n' = 0 := List.count_eq_zero.2 fun hin => hfirst _ hin rfl
    rw [List.flatMap_cons, List.count_append, List.count_append, hnone, ih hlines,
      List.count_singleton_self, List.length_cons, Nat.zero_add, Nat.add_comm]

namespace Tree

def step? : Tree → Option Text
  | .step label => some label
  | .file _ _ => none

variable {trail : List Crumb} {visit : Visit} {path : Text} {children trees : List Tree}
  {tree : Tree} {crumb : Crumb}

theorem filterMap_step?_arrivals (path : Text) (trail : List Crumb) :
    (arrivals path trail).filterMap step? = (trail.filter (·.path = path)).map stepLabel := by
  induction trail using List.reverseRecOn with
  | nil => rfl
  | append_singleton trail crumb ih =>
    have hopened : (opened path trail crumb).filterMap step? = [] := by
      rw [opened]
      split_ifs <;> rfl
    rw [arrivals_concat, List.filterMap_append, List.filterMap_append, ih, hopened, stepped,
      List.filter_append, List.map_append]
    by_cases hpath : path = crumb.path
    · simp [hpath, step?]
    · simp [hpath, Ne.symm hpath]

theorem file_mem_arrivals {i : Nat} {prev crumb : Crumb} (hprev : trail[i]? = some prev)
    (hcrumb : trail[i + 1]? = some crumb)
    (hnew : ∀ earlier ∈ trail.take (i + 1), earlier.path ≠ crumb.path) :
    .file crumb.path [] ∈ arrivals prev.path trail := by
  refine List.mem_flatMap.2 ⟨(crumb, i + 1), List.mem_zipIdx_iff_getElem?.2 hcrumb, ?_⟩
  have hlast : (trail.take (i + 1)).getLast? = some prev := by
    rw [List.getLast?_take, if_neg (Nat.succ_ne_zero i), Nat.add_sub_cancel, hprev, Option.some_or]
  have hseen : crumb.path ∉ (trail.take (i + 1)).map (·.path) := fun hin => by
    obtain ⟨earlier, hearlier, he⟩ := List.mem_map.1 hin
    exact hnew earlier hearlier he
  simp [opened_of_notMem _ hseen, hlast]

/-- How a forest shows the course of a trail. The nodes are given without what is below their
children. -/
structure Shows (trail : List Crumb) (roots : List Tree) : Prop where
  root : roots.map bare = trail.head?.toList.map fun crumb => .file crumb.path []
  nodup : (paths (nodesOfAll roots)).Nodup
  mem_paths : ∀ path, path ∈ paths (nodesOfAll roots) ↔ ∃ crumb ∈ trail, crumb.path = path
  baseName : ∀ path children, .file path children ∈ nodesOfAll roots →
    Path.IsBaseName path (label (.file path children))
  below : ∀ i prev crumb, trail[i]? = some prev → trail[i + 1]? = some crumb →
    (∀ earlier ∈ trail.take (i + 1), earlier.path ≠ crumb.path) →
    ∃ children, .file prev.path children ∈ nodesOfAll roots ∧ .file crumb.path [] ∈ children
  steps : ∀ path children, .file path children ∈ nodesOfAll roots →
    children.filterMap step? = (trail.filter (·.path = path)).map stepLabel
  inOrder : ∀ path children, .file path children ∈ nodesOfAll roots →
    children = arrivals path trail

theorem Visits.paths_perm (h : Visits trail visit) :
    (paths (nodesOfAll visit.roots)).Perm visit.seen :=
  paths_files_steps visit.seen (arrivals · trail) trail ▸ h.nodes.filterMap path?

theorem Visits.file_mem (h : Visits trail visit) :
    .file path children ∈ nodesOfAll visit.roots ↔
      path ∈ visit.seen ∧ arrivals path trail = children := by
  rw [h.nodes.mem_iff, List.mem_append, files, Tree.steps]
  simp only [List.mem_map, Tree.file.injEq, reduceCtorEq, and_false, exists_false, or_false]
  constructor
  · rintro ⟨other, hin, rfl, hchildren⟩
    exact ⟨hin, hchildren⟩
  · rintro ⟨hin, hchildren⟩
    exact ⟨path, hin, rfl, hchildren⟩

theorem Visits.shows (h : Visits trail visit) : Shows trail visit.roots where
  root := h.roots
  nodup := h.paths_perm.nodup_iff.2 h.nodup
  mem_paths path := (h.paths_perm.mem_iff.trans (h.mem_seen path)).trans List.mem_map
  baseName path _ _ := Path.isBaseName_baseName path
  below i prev crumb hprev hcrumb hnew := by
    have hin : prev.path ∈ visit.seen :=
      (h.mem_seen _).2 (List.mem_map_of_mem (List.mem_of_getElem? hprev))
    exact ⟨_, h.file_mem.2 ⟨hin, rfl⟩, file_mem_arrivals hprev hcrumb hnew⟩
  steps path _ hin := (h.file_mem.1 hin).2 ▸ filterMap_step?_arrivals path trail
  inOrder _ _ hin := (h.file_mem.1 hin).2.symm

/-- The file visited last has its node, so the next new file finds what to hang below. -/
theorem Visits.last_mem (h : Visits trail visit) (hlast : visit.last = some path) :
    path ∈ paths (nodesOfAll visit.roots) := by
  obtain ⟨crumb, hcrumb, rfl⟩ := Option.map_eq_some_iff.1 (h.last.symm.trans hlast)
  exact (h.shows.mem_paths _).2 ⟨crumb, List.mem_of_getLast? hcrumb, rfl⟩

mutual

/-- The drawing shows the label of every node. -/
theorem labelsOfAll_diagrams : ∀ trees : List Tree,
    Diagram.labelsOfAll (diagrams trees) = (nodesOfAll trees).map label
  | [] => rfl
  | tree :: rest => by
    rw [diagrams, Diagram.labelsOfAll, nodesOfAll, List.map_append, ← labels_diagram tree,
      labelsOfAll_diagrams rest, List.cons_append]

theorem labels_diagram : ∀ tree : Tree,
    (diagram tree).label :: (diagram tree).labelsBelow = (nodes tree).map label
  | .step _ => rfl
  | .file _ children => by
    rw [nodes, List.map_cons, ← labelsOfAll_diagrams children]
    rfl

end

theorem isSeparator_stroke : ∀ c ∈ Diagram.strokes, Text.isSeparator c = false := by
  have hall : Diagram.strokes.all (!Text.isSeparator ·) = true := by decide
  simpa only [List.all_eq_true, Bool.not_eq_true'] using hall

/-- Every node shows a crumb of the trail or the file of one. -/
theorem Visits.label_of_mem (h : Visits trail visit) (hin : tree ∈ nodesOfAll visit.roots) :
    ∃ crumb ∈ trail, tree.label = stepLabel crumb ∨ tree.label = Path.baseName crumb.path := by
  rcases List.mem_append.1 (h.nodes.mem_iff.1 hin) with hfile | hstep
  · obtain ⟨path, hpath, rfl⟩ := List.mem_map.1 hfile
    obtain ⟨crumb, hcrumb, rfl⟩ := List.mem_map.1 ((h.mem_seen path).1 hpath)
    exact ⟨crumb, hcrumb, .inr rfl⟩
  · obtain ⟨crumb, hcrumb, rfl⟩ := List.mem_map.1 hstep
    exact ⟨crumb, hcrumb, .inl rfl⟩

theorem Visits.length_nodes (h : Visits trail visit) :
    (nodesOfAll visit.roots).length = trail.length + (trail.map (·.path)).dedup.length := by
  have hseen : visit.seen.Perm (trail.map (·.path)).dedup :=
    (List.perm_ext_iff_of_nodup h.nodup (List.nodup_dedup _)).2 fun path => by
      rw [h.mem_seen, List.mem_dedup]
  rw [h.nodes.length_eq, List.length_append, files, Tree.steps, List.length_map, List.length_map,
    hseen.length_eq, Nat.add_comm]

/-- What holds of the strokes and of all labels holds of the whole drawing. -/
theorem Visits.forall_mem_lines {holds : Char → Prop} (h : Visits trail visit)
    (hstrokes : ∀ c ∈ Diagram.strokes, holds c)
    (hlabels : ∀ crumb ∈ trail, ∀ c ∈ stepLabel crumb ++ Path.baseName crumb.path, holds c) :
    ∀ line ∈ Diagram.linesOfAll [] (diagrams visit.roots), ∀ c ∈ line, holds c := by
  apply Diagram.forall_mem_linesOfAll hstrokes (List.forall_mem_nil _)
  intro text htext
  rw [labelsOfAll_diagrams] at htext
  obtain ⟨node, hnode, rfl⟩ := List.mem_map.1 htext
  obtain ⟨crumb, hcrumb, hlabel⟩ := h.label_of_mem hnode
  obtain ⟨hstep, hfile⟩ := List.forall_mem_append.1 (hlabels crumb hcrumb)
  rcases hlabel with he | he
  · exact he ▸ hstep
  · exact he ▸ hfile

theorem Visits.length_lines (h : Visits trail visit) :
    (Diagram.linesOfAll [] (diagrams visit.roots)).length =
      trail.length + (trail.map (·.path)).dedup.length := by
  rw [Diagram.length_linesOfAll, labelsOfAll_diagrams, List.length_map, h.length_nodes]

theorem Visits.count_newline (h : Visits trail visit)
    (hlabels : ∀ crumb ∈ trail, ∀ c ∈ stepLabel crumb ++ Path.baseName crumb.path, c ≠ '\n') :
    (render visit.roots).count '\n' = trail.length + (trail.map (·.path)).dedup.length := by
  have hlines := Text.count_flatMap (h.forall_mem_lines Diagram.stroke_ne_newline hlabels)
  exact hlines.trans h.length_lines

theorem Visits.length_anyLines (h : Visits trail visit)
    (hlabels : ∀ crumb ∈ trail, ∀ c ∈ stepLabel crumb ++ Path.baseName crumb.path,
      Text.isSeparator c = false) :
    (render visit.roots).anyLines.length = trail.length + (trail.map (·.path)).dedup.length := by
  have hlines := Text.anyLines_flatMap (h.forall_mem_lines isSeparator_stroke hlabels)
  exact (congrArg List.length hlines).trans h.length_lines

/-- The tree of a trail shows its course, whatever files the trail comes back to; the file that a
new one is to hang below always has its node; and the drawing has a line for every crumb and every
file unless a label is broken, whether lines end at line feeds only or at any separator. -/
theorem shows_ofTrail (trail : List Crumb) :
    Shows trail (ofTrail trail) ∧ (ofTrail trail).length ≤ 1 ∧
      (∀ before, before <+: trail → ∀ path, (before.foldl Visit.add {}).last = some path →
        path ∈ paths (nodesOfAll (ofTrail before))) ∧
      ((∀ crumb ∈ trail, ∀ c ∈ stepLabel crumb ++ Path.baseName crumb.path, c ≠ '\n') →
        (render (ofTrail trail)).count '\n' =
          trail.length + (trail.map (·.path)).dedup.length) ∧
      ((∀ crumb ∈ trail, ∀ c ∈ stepLabel crumb ++ Path.baseName crumb.path,
          Text.isSeparator c = false) →
        (render (ofTrail trail)).anyLines.length =
          trail.length + (trail.map (·.path)).dedup.length) := by
  have h := visits_foldl trail
  have hroots := congrArg List.length h.roots
  rw [List.length_map, List.length_map, Option.length_toList] at hroots
  refine ⟨h.shows, ?_, fun before _ path => (visits_foldl before).last_mem, h.count_newline,
    h.length_anyLines⟩
  rw [ofTrail, hroots]
  split <;> decide

def returning : List Crumb :=
  [{ path := "cmd/main.go".toList, title := "go".toList, step := 1 },
   { path := "lib/db.go".toList, title := "open".toList, step := 2 },
   { path := "cmd/main.go".toList, title := "ask".toList, step := 3 },
   { path := "app/db.go".toList, title := "end".toList, step := 4 }]

theorem shows_ofTrail_returning :
    (∃ children, .file "cmd/main.go".toList children ∈ nodesOfAll (ofTrail returning) ∧
        .file "app/db.go".toList [] ∈ children) ∧
      (render (ofTrail returning)).anyLines.length = 7 := by
  obtain ⟨hshows, -, -, -, hlines⟩ := shows_ofTrail returning
  have hlabels : (returning.all fun crumb =>
      (stepLabel crumb ++ Path.baseName crumb.path).all (!Text.isSeparator ·)) = true := by
    decide
  simp only [List.all_eq_true, Bool.not_eq_true'] at hlabels
  exact ⟨hshows.below 2 _ _ rfl rfl (by decide), (hlines hlabels).trans (by decide)⟩

end Tree

end Breadcrumb
