import Breadcrumb.Text

namespace Breadcrumb.Text

theorem le_iff (a b : Text) : a.le b = true ↔ a < b ∨ a = b := by
  induction a generalizing b with
  | nil => cases b <;> simp [Text.le]
  | cons x a ih =>
    cases b with
    | nil => simp [Text.le]
    | cons y b =>
      rw [List.cons_lt_cons_iff, Text.le]
      have hlt : x.val < y.val ↔ x < y := Iff.rfl
      have hgt : y.val < x.val ↔ y < x := Iff.rfl
      split
      · simp_all
      · split
        · rename_i hxy hyx
          have hne : ¬ x = y := by rintro rfl; exact hxy hyx
          simp_all
        · rename_i hxy hyx
          have heq : x = y := Char.le_antisymm (Char.not_lt.1 hyx) (Char.not_lt.1 hxy)
          simp_all

theorem le_total (a b : Text) : a.le b = true ∨ b.le a = true := by
  induction a generalizing b with
  | nil => simp [Text.le]
  | cons x a ih =>
    cases b with
    | nil => simp [Text.le]
    | cons y b =>
      simp only [Text.le]
      split
      · simp
      · split <;> simp_all

theorem le_trans {a b c : Text} (hab : a.le b = true) (hbc : b.le c = true) : a.le c = true := by
  rw [le_iff] at *
  rcases hab with hab | rfl
  · rcases hbc with hbc | rfl
    · exact .inl (List.lt_trans hab hbc)
    · exact .inl hab
  · exact hbc

theorem pairwise_mergeSort_le (texts : List Text) :
    (texts.mergeSort le).Pairwise fun a b => a.le b = true := by
  apply List.pairwise_mergeSort
  · intro a b c
    exact le_trans
  · intro a b
    exact (Bool.or_eq_true _ _).mpr (le_total a b)

/-- Texts that are all different are in strict order once they are sorted. -/
theorem pairwise_mergeSort_lt {texts : List Text} (h : texts.Nodup) :
    (texts.mergeSort le).Pairwise (· < ·) := by
  have hnodup : (texts.mergeSort le).Nodup := (List.mergeSort_perm texts le).nodup_iff.2 h
  refine (pairwise_mergeSort_le texts).imp₂ ?_ hnodup
  intro a b hle hne
  exact ((le_iff a b).1 hle).resolve_right hne

theorem after?_eq_some (lead text rest : Text) :
    after? lead text = some rest ↔ text = lead ++ rest := by
  induction lead generalizing text with
  | nil => simp [after?]
  | cons c lead ih =>
    cases text with
    | nil => simp [after?]
    | cons d text =>
      rw [after?]
      split
      · rename_i h
        simp [ih, h]
      · rename_i h
        simp only [reduceCtorEq, List.cons_append, List.cons.injEq, false_iff, not_and]
        exact fun he => (h he.symm).elim

theorem startsWith_iff (text lead : Text) : text.startsWith lead = true ↔ lead <+: text := by
  rw [startsWith, Option.isSome_iff_exists]
  exact exists_congr fun rest => (after?_eq_some lead text rest).trans eq_comm

theorem endsWith_iff (text tail : Text) : text.endsWith tail = true ↔ tail <:+ text := by
  rw [endsWith, startsWith_iff, List.reverse_prefix]

end Breadcrumb.Text
