import Breadcrumb.Proofs.Trail.Mapping
import Mathlib.Data.List.Perm.Basic
import Mathlib.Data.List.Nodup

namespace Breadcrumb

/-- Where no two elements rank alike, there is one way to sort them. -/
theorem IsStableSort.eq_of_perm {α : Type} {le : α → α → Prop} [DecidableRel le]
    {list list' sorted sorted' : List α} (h : IsStableSort le list sorted)
    (h' : IsStableSort le list' sorted') (hperm : list.Perm list')
    (hanti : ∀ a ∈ list, ∀ b ∈ list, le a b → le b a → a = b) : sorted = sorted' := by
  refine List.Perm.eq_of_pairwise ?_ h.ordered h'.ordered ((h.perm.trans hperm).trans h'.perm.symm)
  intro a b ha hb
  exact hanti a (h.perm.mem_iff.1 ha) b (hperm.mem_iff.2 (h'.perm.mem_iff.1 hb))

/-- Crumbs of one trail differ in their steps, and remarks in their places. -/
def TellsApart (crumbs : List Crumb) : Prop :=
  crumbs.Pairwise fun a b => a.trail = b.trail →
    if a.trail = [] then (a.path, a.line) ≠ (b.path, b.line) else a.step ≠ b.step

instance (crumbs : List Crumb) : Decidable (TellsApart crumbs) :=
  inferInstanceAs (Decidable (crumbs.Pairwise fun a b => a.trail = b.trail →
    if a.trail = [] then (a.path, a.line) ≠ (b.path, b.line) else a.step ≠ b.step))

namespace Assembly

variable {crumbs crumbs' trail trail' : List Crumb} {name : Text}

theorem pairwise_crumbsOf (h : TellsApart crumbs) (name : Text) :
    (crumbsOf crumbs name).Pairwise fun a b =>
      if name = [] then (a.path, a.line) ≠ (b.path, b.line) else a.step ≠ b.step := by
  refine List.pairwise_filter.2 (h.imp ?_)
  intro a b hab ha hb
  simp only [decide_eq_true_eq] at ha hb
  rw [← ha]
  exact hab (ha.trans hb.symm)

theorem mainNames_perm (entry : Text) (h : crumbs.Perm crumbs') :
    (mainNames entry crumbs).Perm (mainNames entry crumbs') := by
  refine (List.perm_ext_iff_of_nodup (nodup_mainNames _ _) (nodup_mainNames _ _)).2 ?_
  intro name
  simp only [mem_mainNames, h.mem_iff]

theorem sideNames_perm (entry : Text) (h : crumbs.Perm crumbs') :
    (sideNames entry crumbs).Perm (sideNames entry crumbs') := by
  refine (List.perm_ext_iff_of_nodup (nodup_sideNames _ _) (nodup_sideNames _ _)).2 ?_
  intro name
  simp only [mem_sideNames, mem_trailNames, mem_mainNames, h.mem_iff]

theorem crumbsOf_perm (h : crumbs.Perm crumbs') (name : Text) :
    (crumbsOf crumbs name).Perm (crumbsOf crumbs' name) := h.filter _

/-- The steps of a trail do not depend on the order in which its crumbs came. -/
theorem steps_byStep_eq (h : trail.Perm trail') :
    (byStep trail).map (·.step) = (byStep trail').map (·.step) := by
  have hsort := isStableSort_byStep trail
  have hsort' := isStableSort_byStep trail'
  refine List.Perm.eq_of_pairwise (fun a b _ _ => Int.le_antisymm)
    (List.pairwise_map.2 hsort.ordered) (List.pairwise_map.2 hsort'.ordered) ?_
  exact ((hsort.perm.trans h).trans hsort'.perm.symm).map _

theorem byStep_eq_of_perm (h : trail.Perm trail')
    (hsteps : trail.Pairwise fun a b => a.step ≠ b.step) : byStep trail = byStep trail' := by
  apply (isStableSort_byStep trail).eq_of_perm (isStableSort_byStep trail') h
  intro a ha b hb hab hba
  have hinj := List.inj_on_of_nodup_map (List.pairwise_map.2 hsteps)
  exact hinj ha hb (Int.le_antisymm hab hba)

theorem place_eq_of_placeOrder {a b : Crumb} (hab : PlaceOrder a b) (hba : PlaceOrder b a) :
    (a.path, a.line) = (b.path, b.line) := by
  rcases hab with hlt | ⟨hpath, hline⟩
  · rcases hba with hgt | ⟨hpath, -⟩
    · exact (List.lt_irrefl _ (List.lt_trans hlt hgt)).elim
    · exact (List.lt_irrefl _ (hpath ▸ hlt)).elim
  · rcases hba with hgt | ⟨-, hline'⟩
    · exact (List.lt_irrefl _ (hpath ▸ hgt)).elim
    · exact Prod.ext hpath (Int.le_antisymm hline hline')

theorem mergeSort_placeLe_eq_of_perm (h : trail.Perm trail')
    (hplaces : trail.Pairwise fun a b => (a.path, a.line) ≠ (b.path, b.line)) :
    trail.mergeSort placeLe = trail'.mergeSort placeLe := by
  apply (isStableSort_placeLe trail).eq_of_perm (isStableSort_placeLe trail') h
  intro a ha b hb hab hba
  have hinj := List.inj_on_of_nodup_map
    (f := fun crumb : Crumb => (crumb.path, crumb.line)) (List.pairwise_map.2 hplaces)
  exact hinj ha hb (place_eq_of_placeOrder hab hba)

theorem ofNames_byStep_perm {names names' : List Text} (h : crumbs.Perm crumbs')
    (hapart : TellsApart crumbs) (hnames : names.Perm names') (hnil : [] ∉ names) :
    (Trails.ofNames names fun name => byStep (crumbsOf crumbs name)).Perm
      (Trails.ofNames names' fun name => byStep (crumbsOf crumbs' name)) := by
  have hsame : ∀ name ∈ names, (name, byStep (crumbsOf crumbs name)) =
      (name, byStep (crumbsOf crumbs' name)) := by
    intro name hname
    have hsteps := pairwise_crumbsOf hapart name
    simp only [if_neg (ne_of_mem_of_not_mem hname hnil)] at hsteps
    rw [byStep_eq_of_perm (crumbsOf_perm h name) hsteps]
  rw [Trails.ofNames, List.map_congr_left hsame]
  exact hnames.map _

/-- Crumbs that can be told apart are grouped alike in any order, but for the order of the trails. -/
theorem build_perm (entry : Text) (h : crumbs.Perm crumbs') (hapart : TellsApart crumbs) :
    (ofCrumbs entry crumbs).build.main.Perm (ofCrumbs entry crumbs').build.main ∧
    (ofCrumbs entry crumbs).build.side.Perm (ofCrumbs entry crumbs').build.side ∧
    (ofCrumbs entry crumbs).build.remarks = (ofCrumbs entry crumbs').build.remarks := by
  rw [build_ofCrumbs, build_ofCrumbs]
  refine ⟨?_, ?_, ?_⟩
  · exact ofNames_byStep_perm h hapart (mainNames_perm entry h) (by simp [mem_mainNames])
  · exact ofNames_byStep_perm h hapart (sideNames_perm entry h)
      (by simp [mem_sideNames, mem_trailNames])
  · exact mergeSort_placeLe_eq_of_perm (crumbsOf_perm h []) (pairwise_crumbsOf hapart [])

end Assembly

end Breadcrumb
