import Breadcrumb.Proofs.Trail.Order
import Mathlib.Data.List.Induction

namespace Breadcrumb

section Names

variable {α : Type} [BEq α] [LawfulBEq α]

theorem eraseDups_concat (list : List α) (a : α) :
    (list ++ [a]).eraseDups = list.eraseDups ++ if a ∈ list then [] else [a] := by
  rw [List.eraseDups_append]
  congr 1
  by_cases h : a ∈ list <;> simp [List.removeAll, h, List.eraseDups_cons]

theorem nodup_eraseDups (list : List α) : list.eraseDups.Nodup := by
  induction list using List.reverseRecOn with
  | nil => simp
  | append_singleton list a ih =>
    rw [eraseDups_concat]
    split
    · simpa using ih
    · rename_i h
      refine List.nodup_append.2 ⟨ih, List.pairwise_singleton _ a, fun b hb c hc => ?_⟩
      rw [List.mem_singleton.1 hc]
      rintro rfl
      exact h (List.mem_eraseDups.1 hb)

end Names

namespace Trails

variable {names : List Text} {name : Text} {trail : Text → List Crumb}

def ofNames (names : List Text) (trail : Text → List Crumb) : Trails :=
  names.map fun name => (name, trail name)

theorem ofNames_append (names more : List Text) (trail : Text → List Crumb) :
    ofNames (names ++ more) trail = ofNames names trail ++ ofNames more trail :=
  List.map_append

theorem ofNames_singleton (name : Text) (trail : Text → List Crumb) :
    ofNames [name] trail = [(name, trail name)] := rfl

theorem find?_ofNames : (ofNames names trail).find? name =
    if name ∈ names then some (trail name) else none := by
  induction names with
  | nil => rfl
  | cons other names ih =>
    by_cases h : other = name
    · simp [ofNames, find?, h]
    · simpa [ofNames, find?, h, Ne.symm h] using ih

theorem erase_ofNames : (ofNames names trail).erase name =
    ofNames (names.filter (· ≠ name)) trail := by
  simp only [erase, ofNames, List.filter_map]
  rfl

theorem push_ofNames_of_notMem (crumb : Crumb) (h : name ∉ names) :
    (ofNames names trail).push name crumb = ofNames names trail ++ [(name, [crumb])] := by
  induction names with
  | nil => rfl
  | cons other names ih =>
    obtain ⟨hne, h⟩ := List.ne_and_not_mem_of_not_mem_cons h
    simp only [ofNames, List.map_cons, push, if_neg (Ne.symm hne), List.cons_append]
    exact congrArg _ (ih h)

theorem push_ofNames_of_mem (crumb : Crumb) (hnodup : names.Nodup) (h : name ∈ names) :
    (ofNames names trail).push name crumb =
      ofNames names fun other => if other = name then trail other ++ [crumb] else trail other := by
  induction names with
  | nil => cases h
  | cons other names ih =>
    obtain ⟨hother, hnodup⟩ := List.nodup_cons.1 hnodup
    simp only [ofNames, List.map_cons, push]
    split
    · rename_i heq
      refine congrArg _ (List.map_congr_left fun n hn => ?_)
      rw [if_neg]
      rintro rfl
      exact hother (heq ▸ hn)
    · rename_i hne
      exact congrArg _ (ih hnodup ((List.mem_cons.1 h).resolve_left (Ne.symm hne)))

end Trails

namespace Assembly

/-- The crumb lies in the entry file, if there is an entry at all. -/
def Touches (entry : Text) (crumb : Crumb) : Prop := entry ≠ [] ∧ entry <:+ crumb.path

instance (entry : Text) (crumb : Crumb) : Decidable (Touches entry crumb) :=
  inferInstanceAs (Decidable (entry ≠ [] ∧ entry <:+ crumb.path))

/-- The names of the trails, in the order of their first crumbs. -/
def trailNames (crumbs : List Crumb) : List Text :=
  ((crumbs.filter (·.trail ≠ [])).map (·.trail)).eraseDups

/-- The names of the trails with a crumb in the entry file, in the order of the first such crumbs. -/
def mainNames (entry : Text) (crumbs : List Crumb) : List Text :=
  trailNames (crumbs.filter (Touches entry ·))

def sideNames (entry : Text) (crumbs : List Crumb) : List Text :=
  (trailNames crumbs).filter (· ∉ mainNames entry crumbs)

/-- The crumbs of a trail, in the order in which they were found. -/
def crumbsOf (crumbs : List Crumb) (name : Text) : List Crumb := crumbs.filter (·.trail = name)

def ofCrumbs (entry : Text) (crumbs : List Crumb) : Assembly where
  entry := entry
  main := .ofNames (mainNames entry crumbs) (crumbsOf crumbs)
  side := .ofNames (sideNames entry crumbs) (crumbsOf crumbs)
  remarks := crumbsOf crumbs []

variable {entry : Text} {crumbs : List Crumb} {crumb : Crumb} {name : Text}

theorem isEntry_iff (assembly : Assembly) (crumb : Crumb) :
    assembly.isEntry crumb.path = true ↔ Touches assembly.entry crumb := by
  simp [isEntry, Touches, Text.endsWith_iff]

theorem mem_trailNames : name ∈ trailNames crumbs ↔ name ≠ [] ∧ ∃ c ∈ crumbs, c.trail = name := by
  simp only [trailNames, List.mem_eraseDups, List.mem_map, List.mem_filter, decide_eq_true_eq]
  constructor
  · rintro ⟨c, ⟨hc, hne⟩, rfl⟩
    exact ⟨hne, c, hc, rfl⟩
  · rintro ⟨hne, c, hc, rfl⟩
    exact ⟨c, ⟨hc, hne⟩, rfl⟩

theorem mem_mainNames : name ∈ mainNames entry crumbs ↔
    name ≠ [] ∧ ∃ c ∈ crumbs, c.trail = name ∧ Touches entry c := by
  simp only [mainNames, mem_trailNames, List.mem_filter, decide_eq_true_eq, and_assoc]
  exact and_congr_right fun _ => exists_congr fun c => and_congr_right fun _ => and_comm

theorem nodup_mainNames (entry : Text) (crumbs : List Crumb) : (mainNames entry crumbs).Nodup :=
  nodup_eraseDups _

theorem nodup_sideNames (entry : Text) (crumbs : List Crumb) : (sideNames entry crumbs).Nodup :=
  (nodup_eraseDups _).filter _

theorem trailNames_concat (crumbs : List Crumb) (crumb : Crumb) :
    trailNames (crumbs ++ [crumb]) = trailNames crumbs ++
      if crumb.trail = [] ∨ crumb.trail ∈ trailNames crumbs then [] else [crumb.trail] := by
  have hmem : crumb.trail ∈ trailNames crumbs ↔
      crumb.trail ∈ (crumbs.filter (·.trail ≠ [])).map (·.trail) := List.mem_eraseDups
  by_cases hr : crumb.trail = []
  · simp [trailNames, hr]
  · simp only [hmem, hr, false_or]
    rw [trailNames, List.filter_append, List.filter_cons_of_pos (by simpa using hr), List.filter_nil,
      List.map_append, List.map_singleton, eraseDups_concat]
    rfl

theorem mainNames_concat (entry : Text) (crumbs : List Crumb) (crumb : Crumb) :
    mainNames entry (crumbs ++ [crumb]) = mainNames entry crumbs ++
      if Touches entry crumb ∧ crumb.trail ≠ [] ∧ crumb.trail ∉ mainNames entry crumbs then
        [crumb.trail] else [] := by
  by_cases ht : Touches entry crumb
  · have hfilter : (crumbs ++ [crumb]).filter (Touches entry ·) =
        crumbs.filter (Touches entry ·) ++ [crumb] := by simp [ht]
    rw [mainNames, hfilter, trailNames_concat]
    change mainNames entry crumbs ++ _ = _
    simp only [ht, true_and, ← not_or, ite_not]
    rfl
  · simp [mainNames, ht]

theorem mem_sideNames : name ∈ sideNames entry crumbs ↔
    name ∈ trailNames crumbs ∧ name ∉ mainNames entry crumbs := by
  simp only [sideNames, List.mem_filter, decide_eq_true_eq]

theorem mainNames_subset (h : name ∈ mainNames entry crumbs) : name ∈ trailNames crumbs := by
  obtain ⟨hne, c, hc, hname, -⟩ := mem_mainNames.1 h
  exact mem_trailNames.2 ⟨hne, c, hc, hname⟩

theorem crumbsOf_concat_self (crumbs : List Crumb) (crumb : Crumb) :
    crumbsOf (crumbs ++ [crumb]) crumb.trail = crumbsOf crumbs crumb.trail ++ [crumb] := by
  simp [crumbsOf]

theorem crumbsOf_concat_of_ne (h : crumb.trail ≠ name) :
    crumbsOf (crumbs ++ [crumb]) name = crumbsOf crumbs name := by
  simp [crumbsOf, h]

theorem crumbsOf_eq_nil (hne : name ≠ []) (h : name ∉ trailNames crumbs) :
    crumbsOf crumbs name = [] := by
  refine List.filter_eq_nil_iff.2 fun c hc htrail => h (mem_trailNames.2 ⟨hne, c, hc, ?_⟩)
  simpa using htrail

theorem ofNames_concat_of_notMem {names : List Text} (h : crumb.trail ∉ names) :
    Trails.ofNames names (crumbsOf (crumbs ++ [crumb])) = .ofNames names (crumbsOf crumbs) := by
  refine List.map_congr_left fun name hname => ?_
  rw [crumbsOf_concat_of_ne]
  rintro rfl
  exact h hname

theorem push_ofNames {names : List Text} (hnodup : names.Nodup) (h : crumb.trail ∈ names) :
    (Trails.ofNames names (crumbsOf crumbs)).push crumb.trail crumb =
      .ofNames names (crumbsOf (crumbs ++ [crumb])) := by
  rw [Trails.push_ofNames_of_mem crumb hnodup h]
  refine List.map_congr_left fun name _ => ?_
  by_cases hname : name = crumb.trail
  · simp only [hname, ↓reduceIte, crumbsOf_concat_self]
  · simp only [hname, ↓reduceIte, crumbsOf_concat_of_ne (Ne.symm hname)]

theorem add_ofCrumbs_of_remark (hr : crumb.trail = []) :
    (ofCrumbs entry crumbs).add crumb = ofCrumbs entry (crumbs ++ [crumb]) := by
  have hmain : mainNames entry (crumbs ++ [crumb]) = mainNames entry crumbs := by
    simp [mainNames_concat, hr]
  have hside : sideNames entry (crumbs ++ [crumb]) = sideNames entry crumbs := by
    simp [sideNames, hmain, trailNames_concat, hr]
  have hnil (names : List Text) (h : [] ∉ names) :
      Trails.ofNames names (crumbsOf (crumbs ++ [crumb])) = .ofNames names (crumbsOf crumbs) :=
    ofNames_concat_of_notMem (hr ▸ h)
  rw [add, if_pos (by simp [Crumb.isRemark, hr]), ofCrumbs, ofCrumbs, hmain, hside,
    hnil _ (by simp [mem_mainNames]), hnil _ (by simp [mem_sideNames, mem_trailNames])]
  simp only [mk.injEq, true_and]
  rw [← hr, crumbsOf_concat_self]

theorem add_ofCrumbs_of_main (hr : crumb.trail ≠ []) (hm : crumb.trail ∈ mainNames entry crumbs) :
    (ofCrumbs entry crumbs).add crumb = ofCrumbs entry (crumbs ++ [crumb]) := by
  have hmain : mainNames entry (crumbs ++ [crumb]) = mainNames entry crumbs := by
    simp [mainNames_concat, hm]
  have hside : sideNames entry (crumbs ++ [crumb]) = sideNames entry crumbs := by
    simp [sideNames, hmain, trailNames_concat, mainNames_subset hm]
  rw [add, if_neg (by simpa [Crumb.isRemark] using hr),
    if_pos (by simp [ofCrumbs, Trails.find?_ofNames, hm])]
  simp only [ofCrumbs, hmain, hside, crumbsOf_concat_of_ne hr,
    push_ofNames (nodup_mainNames entry crumbs) hm]
  rw [ofNames_concat_of_notMem fun h => (mem_sideNames.1 h).2 hm]

theorem add_ofCrumbs_of_touches (hr : crumb.trail ≠ [])
    (hm : crumb.trail ∉ mainNames entry crumbs) (ht : Touches entry crumb) :
    (ofCrumbs entry crumbs).add crumb = ofCrumbs entry (crumbs ++ [crumb]) := by
  have hmain : mainNames entry (crumbs ++ [crumb]) =
      mainNames entry crumbs ++ [crumb.trail] := by
    simp [mainNames_concat, ht, hr, hm]
  have hside : sideNames entry (crumbs ++ [crumb]) =
      (sideNames entry crumbs).filter (· ≠ crumb.trail) := by
    rw [sideNames, hmain, trailNames_concat, List.filter_append, sideNames, List.filter_filter]
    have hlast : (if crumb.trail = [] ∨ crumb.trail ∈ trailNames crumbs then []
        else [crumb.trail]).filter (· ∉ mainNames entry crumbs ++ [crumb.trail]) = [] := by
      split <;> simp
    rw [hlast, List.append_nil]
    refine List.filter_congr fun name _ => ?_
    simp [and_comm]
  have hfound : ((Trails.ofNames (sideNames entry crumbs) (crumbsOf crumbs)).find?
      crumb.trail).getD [] = crumbsOf crumbs crumb.trail := by
    rw [Trails.find?_ofNames]
    split
    · rfl
    · rename_i hs
      exact (crumbsOf_eq_nil hr fun h => hs (mem_sideNames.2 ⟨h, hm⟩)).symm
  rw [add, if_neg (by simpa [Crumb.isRemark] using hr),
    if_neg (by simp [ofCrumbs, Trails.find?_ofNames, hm]), if_pos ((isEntry_iff _ crumb).2 ht)]
  simp only [ofCrumbs, hmain, hside, hfound, crumbsOf_concat_of_ne hr, Trails.erase_ofNames]
  rw [Trails.ofNames_append, ofNames_concat_of_notMem hm, Trails.ofNames_singleton,
    crumbsOf_concat_self, ofNames_concat_of_notMem (by simp)]

theorem add_ofCrumbs_of_side (hr : crumb.trail ≠ [])
    (hm : crumb.trail ∉ mainNames entry crumbs) (ht : ¬ Touches entry crumb) :
    (ofCrumbs entry crumbs).add crumb = ofCrumbs entry (crumbs ++ [crumb]) := by
  have hmain : mainNames entry (crumbs ++ [crumb]) = mainNames entry crumbs := by
    simp [mainNames_concat, ht]
  rw [add, if_neg (by simpa [Crumb.isRemark] using hr),
    if_neg (by simp [ofCrumbs, Trails.find?_ofNames, hm]),
    if_neg (mt (isEntry_iff _ crumb).1 ht)]
  by_cases hs : crumb.trail ∈ trailNames crumbs
  · have hside : sideNames entry (crumbs ++ [crumb]) = sideNames entry crumbs := by
      simp [sideNames, hmain, trailNames_concat, hs]
    simp only [ofCrumbs, hmain, hside, crumbsOf_concat_of_ne hr,
      push_ofNames (nodup_sideNames entry crumbs) (mem_sideNames.2 ⟨hs, hm⟩)]
    rw [ofNames_concat_of_notMem hm]
  · have hside : sideNames entry (crumbs ++ [crumb]) =
        sideNames entry crumbs ++ [crumb.trail] := by
      simp [sideNames, hmain, trailNames_concat, hs, hr, hm]
    have hnew : crumb.trail ∉ sideNames entry crumbs := fun h => hs (mem_sideNames.1 h).1
    simp only [ofCrumbs, hmain, hside, crumbsOf_concat_of_ne hr,
      Trails.push_ofNames_of_notMem crumb hnew]
    rw [ofNames_concat_of_notMem hm, Trails.ofNames_append, ofNames_concat_of_notMem hnew,
      Trails.ofNames_singleton, crumbsOf_concat_self, crumbsOf_eq_nil hr hs, List.nil_append]

theorem add_ofCrumbs (entry : Text) (crumbs : List Crumb) (crumb : Crumb) :
    (ofCrumbs entry crumbs).add crumb = ofCrumbs entry (crumbs ++ [crumb]) := by
  by_cases hr : crumb.trail = []
  · exact add_ofCrumbs_of_remark hr
  · by_cases hm : crumb.trail ∈ mainNames entry crumbs
    · exact add_ofCrumbs_of_main hr hm
    · by_cases ht : Touches entry crumb
      · exact add_ofCrumbs_of_touches hr hm ht
      · exact add_ofCrumbs_of_side hr hm ht

theorem addAll_ofCrumbs (entry : Text) (crumbs more : List Crumb) :
    (ofCrumbs entry crumbs).addAll more = ofCrumbs entry (crumbs ++ more) := by
  induction more generalizing crumbs with
  | nil => rw [List.append_nil]; rfl
  | cons crumb more ih =>
    rw [addAll, List.foldl_cons, add_ofCrumbs, ← addAll, ih, List.append_assoc]
    rfl

/-- What is shown of all crumbs at once. -/
theorem build_ofCrumbs (entry : Text) (crumbs : List Crumb) :
    (ofCrumbs entry crumbs).build =
      { main := .ofNames (mainNames entry crumbs) fun name => byStep (crumbsOf crumbs name)
        side := .ofNames (sideNames entry crumbs) fun name => byStep (crumbsOf crumbs name)
        remarks := (crumbsOf crumbs []).mergeSort placeLe } := by
  simp only [build, ofCrumbs, Trails.ofNames, List.map_map, Function.comp_def]

/-- How the crumbs are spread over files makes no difference. -/
theorem regroup_eq_build (entry : Text) (files : List (List Crumb)) :
    regroup entry files = (ofCrumbs entry files.flatten).build := by
  have hstart : ({ entry } : Assembly) = ofCrumbs entry [] := rfl
  rw [regroup, hstart, addAll_ofCrumbs, List.nil_append]

end Assembly

end Breadcrumb
