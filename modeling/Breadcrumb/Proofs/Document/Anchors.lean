import Breadcrumb.Document.Markdown
import Breadcrumb.Proofs.Text.Joining
import Breadcrumb.Proofs.Text.Numerals
import Mathlib.Data.List.Nodup

namespace Breadcrumb

namespace Text

/-- The number behind the last hyphen of a text is known from the text. -/
theorem append_hyphen_inj (h : a ++ '-' :: ofNat m = b ++ '-' :: ofNat n) : a = b ∧ m = n := by
  have hreverse : (ofNat m).reverse ++ '-' :: a.reverse = (ofNat n).reverse ++ '-' :: b.reverse := by
    simpa using congrArg List.reverse h
  have hcut := congrArg (cut? '-') hreverse
  have hhyphen (n : Nat) : '-' ∉ ofNat n := notMem_ofNat (by decide) n
  rw [cut?_append (by simpa using hhyphen m), cut?_append (by simpa using hhyphen n)] at hcut
  obtain ⟨hnumber, hfront⟩ := Prod.mk.inj (Option.some.inj hcut)
  exact ⟨List.reverse_inj.1 hfront, ofNat_injective (List.reverse_inj.1 hnumber)⟩

end Text

namespace Document.Markdown

variable {seen rest : List Text} {base : Text} {rank : Nat}

def baseAnchor (crumb : Crumb) : Text := Heading.anchor (remarkHeading crumb)

/-- The texts, each with the number of times that it came up before. -/
def ranksFrom (seen : List Text) : List Text → List (Text × Nat)
  | [] => []
  | base :: rest => (base, seen.count base) :: ranksFrom (base :: seen) rest

theorem anchors_remarksFrom (seen : List Text) (crumbs : List Crumb) :
    (remarksFrom seen crumbs).map (·.anchor) =
      (ranksFrom seen (crumbs.map baseAnchor)).map fun (base, rank) => numbered base rank := by
  induction crumbs generalizing seen with
  | nil => rfl
  | cons crumb crumbs ih => exact congrArg _ (ih _)

/-- The ranks of a text go up one by one from the number of times that it had been seen. -/
theorem mem_ranksFrom : (base, rank) ∈ ranksFrom seen rest ↔
    seen.count base ≤ rank ∧ rank < seen.count base + rest.count base := by
  induction rest generalizing seen with
  | nil =>
    simp only [ranksFrom, List.not_mem_nil, List.count_nil, false_iff]
    omega
  | cons other rest ih =>
    rw [ranksFrom, List.mem_cons, ih, Prod.mk.injEq]
    by_cases hbase : base = other
    · subst hbase
      simp only [List.count_cons_self, true_and]
      omega
    · simp only [hbase, List.count_cons_of_ne (Ne.symm hbase), false_and, false_or]

theorem nodup_ranksFrom (seen rest : List Text) : (ranksFrom seen rest).Nodup := by
  induction rest generalizing seen with
  | nil => exact List.nodup_nil
  | cons base rest ih =>
    refine List.nodup_cons.2 ⟨?_, ih _⟩
    rw [mem_ranksFrom, List.count_cons_self]
    omega

theorem numbered_of_pos (base : Text) (hrank : 0 < rank) :
    numbered base rank = base ++ '-' :: Text.ofNat rank := by
  rw [numbered, if_neg (Nat.ne_of_gt hrank), List.append_assoc]
  rfl

/-- Numbered texts are the same if text and number are, or if one is not numbered and by itself
what the other has become. -/
theorem eq_or_of_numbered_eq {other : Text} {rank' : Nat}
    (h : numbered base rank = numbered other rank') :
    (base, rank) = (other, rank') ∨ (0 < rank' ∧ base = numbered other rank') ∨
      (0 < rank ∧ other = numbered base rank) := by
  rcases Nat.eq_zero_or_pos rank with rfl | hrank
  · rcases Nat.eq_zero_or_pos rank' with rfl | hrank'
    · exact .inl (congrArg (·, 0) h)
    · exact .inr (.inl ⟨hrank', h⟩)
  · rcases Nat.eq_zero_or_pos rank' with rfl | hrank'
    · exact .inr (.inr ⟨hrank, h.symm⟩)
    · rw [numbered_of_pos base hrank, numbered_of_pos other hrank'] at h
      obtain ⟨rfl, rfl⟩ := Text.append_hyphen_inj h
      exact .inl rfl

theorem numbered_ne (hrank : 0 < rank) : numbered base rank ≠ base := by
  intro h
  have hlength := congrArg List.length h
  rw [numbered_of_pos base hrank, List.length_append, List.length_cons] at hlength
  omega

/-- The anchors of the remarks are pairwise distinct unless a heading has by itself the anchor of
another with the number of an earlier occurrence behind it. -/
theorem nodup_anchors_iff (crumbs : List Crumb) :
    ((remarks crumbs).map (·.anchor)).Nodup ↔
      ∀ base rank, 0 < rank → rank < (crumbs.map baseAnchor).count base →
        numbered base rank ∉ crumbs.map baseAnchor := by
  have hmem (base : Text) (rank : Nat) : (base, rank) ∈ ranksFrom [] (crumbs.map baseAnchor) ↔
      rank < (crumbs.map baseAnchor).count base := by
    simp [mem_ranksFrom]
  rw [remarks, anchors_remarksFrom, List.nodup_map_iff_inj_on (nodup_ranksFrom [] _)]
  constructor
  · intro hinj base rank hpos hrank hbase
    have hfirst : (numbered base rank, 0) ∈ ranksFrom [] (crumbs.map baseAnchor) :=
      (hmem _ 0).2 (List.count_pos_iff.2 hbase)
    have heq := hinj _ ((hmem base rank).2 hrank) _ hfirst rfl
    exact numbered_ne hpos (Prod.mk.inj heq).1.symm
  · rintro hclear ⟨base, rank⟩ hin ⟨other, rank'⟩ hin' heq
    have hcount := (hmem base rank).1 hin
    have hcount' := (hmem other rank').1 hin'
    rcases eq_or_of_numbered_eq heq with hsame | ⟨hpos, rfl⟩ | ⟨hpos, rfl⟩
    · exact hsame
    · exact (hclear other rank' hpos hcount' (List.count_pos_iff.1 (by omega))).elim
    · exact (hclear base rank hpos hcount (List.count_pos_iff.1 (by omega))).elim

def numberedTitles : List Crumb :=
  [{ path := "a.go".toList, title := "A".toList }, { path := "b.go".toList, title := "A".toList },
    { path := "c.go".toList, title := "A 1".toList }]

theorem not_nodup_anchors_numberedTitles :
    ¬ ((remarks numberedTitles).map (·.anchor)).Nodup := by
  decide

end Document.Markdown

end Breadcrumb
