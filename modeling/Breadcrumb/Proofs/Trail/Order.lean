import Breadcrumb.Proofs.Text.Compare
import Breadcrumb.Trail

namespace Breadcrumb

/-- The elements of a list in the order of `le`, with those that rank alike as they were. -/
structure IsStableSort {α : Type} (le : α → α → Prop) [DecidableRel le] (list sorted : List α) :
    Prop where
  perm : sorted.Perm list
  ordered : sorted.Pairwise le
  stable : ∀ a, (sorted.filter fun b => le a b ∧ le b a) = list.filter fun b => le a b ∧ le b a

theorem isStableSort_mergeSort {α : Type} (le : α → α → Prop) [DecidableRel le]
    (htrans : ∀ a b c, le a b → le b c → le a c) (htotal : ∀ a b, le a b ∨ le b a)
    (list : List α) : IsStableSort le list (list.mergeSort fun a b => le a b) := by
  have htrans' : ∀ a b c, decide (le a b) = true → decide (le b c) = true →
      decide (le a c) = true := by
    simpa only [decide_eq_true_eq] using htrans
  have htotal' : ∀ a b, (decide (le a b) || decide (le b a)) = true := by
    simpa only [Bool.or_eq_true, decide_eq_true_eq] using htotal
  have hperm := list.mergeSort_perm fun a b => le a b
  refine ⟨hperm, ?_, fun a => ?_⟩
  · simpa only [decide_eq_true_eq] using List.pairwise_mergeSort htrans' htotal' list
  · -- The elements that rank with `a` are in order as they stand, so sorting keeps them in place.
    have hties : (list.filter fun b => le a b ∧ le b a).Pairwise fun b c => decide (le b c) := by
      rw [List.pairwise_filter]
      refine List.pairwise_of_forall_mem_list ?_
      simp only [decide_eq_true_eq]
      exact fun b _ c _ hb hc => htrans b a c hb.2 hc.1
    have hsub := (List.sublist_mergeSort htrans' htotal' hties List.filter_sublist).filter
      fun b => le a b ∧ le b a
    rw [List.filter_filter] at hsub
    simp only [Bool.and_self] at hsub
    exact (hsub.eq_of_length (hperm.filter _).length_eq.symm).symm

/-- Order by path, then by line. -/
def PlaceOrder (a b : Crumb) : Prop := a.path < b.path ∨ a.path = b.path ∧ a.line ≤ b.line

instance : DecidableRel PlaceOrder := fun a b =>
  inferInstanceAs (Decidable (a.path < b.path ∨ a.path = b.path ∧ a.line ≤ b.line))

theorem Assembly.placeLe_iff (a b : Crumb) : Assembly.placeLe a b = true ↔ PlaceOrder a b := by
  rw [Assembly.placeLe, PlaceOrder]
  split
  · rename_i h
    simp only [h, List.lt_irrefl, decide_eq_true_eq, false_or, true_and]
  · rename_i h
    simp [h, Text.le_iff]

theorem PlaceOrder.trans {a b c : Crumb} (hab : PlaceOrder a b) (hbc : PlaceOrder b c) :
    PlaceOrder a c := by
  rcases hab with hab | ⟨hab, hab'⟩
  · rcases hbc with hbc | ⟨hbc, -⟩
    · exact .inl (List.lt_trans hab hbc)
    · exact .inl (hbc ▸ hab)
  · rcases hbc with hbc | ⟨hbc, hbc'⟩
    · exact .inl (hab ▸ hbc)
    · exact .inr ⟨hab.trans hbc, Int.le_trans hab' hbc'⟩

theorem PlaceOrder.total (a b : Crumb) : PlaceOrder a b ∨ PlaceOrder b a := by
  by_cases heq : a.path = b.path
  · rcases Int.le_total a.line b.line with hl | hl
    · exact .inl (.inr ⟨heq, hl⟩)
    · exact .inr (.inr ⟨heq.symm, hl⟩)
  · rcases Text.le_total a.path b.path with hl | hl
    · exact .inl (.inl (((Text.le_iff _ _).1 hl).resolve_right heq))
    · exact .inr (.inl (((Text.le_iff _ _).1 hl).resolve_right (Ne.symm heq)))

namespace Assembly

theorem isStableSort_byStep (trail : List Crumb) :
    IsStableSort (fun a b : Crumb => a.step ≤ b.step) trail (byStep trail) :=
  isStableSort_mergeSort (fun a b : Crumb => a.step ≤ b.step) (fun _ _ _ => Int.le_trans)
    (fun a b => Int.le_total a.step b.step) trail

theorem isStableSort_placeLe (remarks : List Crumb) :
    IsStableSort PlaceOrder remarks (remarks.mergeSort placeLe) := by
  have heq : placeLe = fun a b => decide (PlaceOrder a b) := by
    funext a b
    rw [Bool.eq_iff_iff, placeLe_iff, decide_eq_true_eq]
  rw [heq]
  exact isStableSort_mergeSort PlaceOrder (fun _ _ _ => PlaceOrder.trans) PlaceOrder.total remarks

end Assembly

end Breadcrumb
