import Breadcrumb.Proofs.Trail.Assembly
import Mathlib.Data.List.Perm.Basic
import Mathlib.Data.List.Nodup

namespace Breadcrumb.Assembly

variable {crumbs : List Crumb} {names : List Text}

/-- The trails of some names hold the crumbs with one of these names. -/
theorem flatMap_crumbsOf_perm (hnodup : names.Nodup) :
    (names.flatMap (crumbsOf crumbs)).Perm (crumbs.filter (·.trail ∈ names)) := by
  induction names with
  | nil => simp
  | cons name names ih =>
    obtain ⟨hname, hnodup⟩ := List.nodup_cons.1 hnodup
    let mine := crumbs.filter (·.trail ∈ name :: names)
    have hsplit := List.filter_append_perm (fun c : Crumb => decide (c.trail = name)) mine
    have hfirst : mine.filter (·.trail = name) = crumbsOf crumbs name := by
      rw [List.filter_filter, crumbsOf]
      refine List.filter_congr fun c _ => ?_
      simp +contextual
    have hrest : mine.filter (fun c => !decide (c.trail = name)) =
        crumbs.filter (·.trail ∈ names) := by
      rw [List.filter_filter]
      refine List.filter_congr fun c _ => ?_
      by_cases hc : c.trail = name
      · simp [hc, hname]
      · simp [hc]
    rw [hfirst, hrest] at hsplit
    rw [List.flatMap_cons]
    exact ((ih hnodup).append_left _).trans hsplit

theorem flatMap_byStep_perm (names : List Text) (crumbs : List Crumb) :
    (((Trails.ofNames names (crumbsOf crumbs)).map fun (name, trail) => (name, byStep trail)).flatMap
      (·.2)).Perm (names.flatMap (crumbsOf crumbs)) := by
  induction names with
  | nil => rfl
  | cons name names ih =>
    rw [List.flatMap_cons]
    exact (List.mergeSort_perm _ _).append ih

/-- No trail is both main and side, and remarks are in none. -/
theorem nodup_allNames (entry : Text) (crumbs : List Crumb) :
    (mainNames entry crumbs ++ sideNames entry crumbs ++ [[]]).Nodup := by
  have htrails : (mainNames entry crumbs ++ sideNames entry crumbs).Nodup := by
    refine (nodup_mainNames entry crumbs).append (nodup_sideNames entry crumbs) ?_
    intro name hmain hside
    exact (mem_sideNames.1 hside).2 hmain
  refine htrails.append (List.nodup_singleton _) ?_
  intro name hname hnil
  obtain rfl := List.mem_singleton.1 hnil
  rcases List.mem_append.1 hname with hname | hname
  · exact (mem_mainNames.1 hname).1 rfl
  · exact (mem_trailNames.1 (mem_sideNames.1 hname).1).1 rfl

theorem mem_allNames (entry : Text) (h : crumb ∈ crumbs) :
    crumb.trail ∈ mainNames entry crumbs ++ sideNames entry crumbs ++ [[]] := by
  by_cases hr : crumb.trail = []
  · simp [hr]
  · by_cases hm : crumb.trail ∈ mainNames entry crumbs
    · simp [hm]
    · have hs := mem_sideNames.2 ⟨mem_trailNames.2 ⟨hr, crumb, h, rfl⟩, hm⟩
      simp [hs]

theorem build_crumbs_perm (entry : Text) (crumbs : List Crumb) :
    (ofCrumbs entry crumbs).build.crumbs.Perm crumbs := by
  have hall : crumbs.filter
      (·.trail ∈ mainNames entry crumbs ++ sideNames entry crumbs ++ [[]]) = crumbs :=
    List.filter_eq_self.2 fun c hc => decide_eq_true (mem_allNames entry hc)
  have hgrouped := @flatMap_crumbsOf_perm crumbs _ (nodup_allNames entry crumbs)
  rw [hall, List.flatMap_append, List.flatMap_append, List.flatMap_singleton] at hgrouped
  refine List.Perm.trans ?_ hgrouped
  exact ((flatMap_byStep_perm _ _).append (flatMap_byStep_perm _ _)).append
    (List.mergeSort_perm _ _)

/-- The grouping of several files holds their crumbs, each as often as they do. -/
theorem regroup_crumbs_perm (entry : Text) (files : List (List Crumb)) :
    (regroup entry files).crumbs.Perm files.flatten := by
  rw [regroup_eq_build]
  exact build_crumbs_perm entry files.flatten

end Breadcrumb.Assembly
