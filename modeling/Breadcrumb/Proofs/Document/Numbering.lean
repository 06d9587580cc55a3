import Breadcrumb.Proofs.Document.Anchors

namespace Breadcrumb.Document.Markdown

variable {crumbs earlier : List Crumb} {crumb : Crumb} {i : Nat}

def repeats (earlier : List Crumb) (crumb : Crumb) : Nat :=
  (earlier.map baseAnchor).count (baseAnchor crumb)

/-- A remark is made of a crumb that comes behind these: its anchor is that of its heading as long as
none of them has the same one. -/
structure Labels (earlier : List Crumb) (crumb : Crumb) (remark : Remark) : Prop where
  made : remark.crumb = crumb
  heading : remark.heading = remarkHeading crumb
  first : (∀ other ∈ earlier, baseAnchor other ≠ baseAnchor crumb) →
    remark.anchor = baseAnchor crumb
  repeated : (∃ other ∈ earlier, baseAnchor other = baseAnchor crumb) →
    remark.anchor = baseAnchor crumb ++ '-' :: Text.ofNat (repeats earlier crumb)

def remarkBehind (earlier : List Crumb) (crumb : Crumb) : Remark where
  crumb := crumb
  heading := remarkHeading crumb
  anchor := numbered (baseAnchor crumb) (repeats earlier crumb)

theorem repeats_pos_iff :
    0 < repeats earlier crumb ↔ ∃ other ∈ earlier, baseAnchor other = baseAnchor crumb := by
  rw [repeats, List.count_pos_iff, List.mem_map]

theorem labels_remarkBehind (earlier : List Crumb) (crumb : Crumb) :
    Labels earlier crumb (remarkBehind earlier crumb) := by
  constructor
  · rfl
  · rfl
  · intro hnew
    have hzero : repeats earlier crumb = 0 := by
      apply Nat.eq_zero_of_not_pos
      intro hpos
      obtain ⟨other, hother, hsame⟩ := repeats_pos_iff.1 hpos
      exact hnew other hother hsame
    exact if_pos hzero
  · intro hsame
    exact numbered_of_pos _ (repeats_pos_iff.2 hsame)

theorem remarksFrom_append (seen : List Text) (earlier later : List Crumb) :
    remarksFrom seen (earlier ++ later) =
      remarksFrom seen earlier ++ remarksFrom ((earlier.map baseAnchor).reverse ++ seen) later := by
  induction earlier generalizing seen with
  | nil => rfl
  | cons crumb earlier ih =>
    rw [List.cons_append, remarksFrom, remarksFrom, ih, List.map_cons, List.reverse_cons,
      List.append_assoc]
    rfl

theorem length_remarksFrom (seen : List Text) (crumbs : List Crumb) :
    (remarksFrom seen crumbs).length = crumbs.length := by
  induction crumbs generalizing seen with
  | nil => rfl
  | cons crumb crumbs ih => exact congrArg _ (ih _)

theorem getElem?_remarks_append (earlier later : List Crumb) (crumb : Crumb) :
    (remarks (earlier ++ crumb :: later))[earlier.length]? = some (remarkBehind earlier crumb) := by
  have hlength := length_remarksFrom [] earlier
  rw [remarks, remarksFrom_append, List.getElem?_append_right (Nat.le_of_eq hlength), hlength,
    Nat.sub_self, List.append_nil]
  simp only [remarksFrom, List.getElem?_cons_zero, List.count_reverse]
  rfl

theorem getElem?_remarks (h : crumbs[i]? = some crumb) :
    (remarks crumbs)[i]? = some (remarkBehind (crumbs.take i) crumb) := by
  obtain ⟨hi, rfl⟩ := List.getElem?_eq_some_iff.1 h
  have hremark := getElem?_remarks_append (crumbs.take i) (crumbs.drop (i + 1)) crumbs[i]
  rw [← List.drop_eq_getElem_cons hi, List.take_append_drop, List.length_take_of_le (by omega)]
    at hremark
  exact hremark

theorem numbered_injective (base : Text) : Function.Injective (numbered base) := by
  intro rank rank' h
  rcases eq_or_of_numbered_eq h with hsame | ⟨hpos, hbase⟩ | ⟨hpos, hbase⟩
  · exact (Prod.mk.inj hsame).2
  · exact (numbered_ne hpos hbase.symm).elim
  · exact (numbered_ne hpos hbase.symm).elim

theorem exists_rank_of_mem (h : remark ∈ remarksFrom seen crumbs) :
    ∃ rank, seen.count (baseAnchor remark.crumb) ≤ rank ∧
      remark.anchor = numbered (baseAnchor remark.crumb) rank := by
  induction crumbs generalizing seen with
  | nil => cases h
  | cons crumb crumbs ih =>
    rw [remarksFrom, List.mem_cons] at h
    rcases h with rfl | h
    · exact ⟨_, Nat.le_refl _, rfl⟩
    · obtain ⟨rank, hrank, hanchor⟩ := ih h
      exact ⟨rank, Nat.le_trans List.count_le_count_cons hrank, hanchor⟩

theorem pairwise_remarksFrom (seen : List Text) (crumbs : List Crumb) :
    (remarksFrom seen crumbs).Pairwise fun remark other =>
      baseAnchor remark.crumb = baseAnchor other.crumb → remark.anchor ≠ other.anchor := by
  induction crumbs generalizing seen with
  | nil => exact .nil
  | cons crumb crumbs ih =>
    refine .cons ?_ (ih _)
    intro other hother hbase hanchor
    obtain ⟨rank, hrank, hnumbered⟩ := exists_rank_of_mem hother
    rw [hnumbered, ← hbase] at hanchor
    rw [← hbase] at hrank
    -- The first of the two is not seen yet when it is numbered, but is when the other one is.
    have hmore : seen.count (baseAnchor crumb) + 1 ≤ rank := by
      rw [← List.count_cons_self]
      exact hrank
    have hsame : seen.count (baseAnchor crumb) = rank := numbered_injective _ hanchor
    omega

/-- There is one remark for each crumb, in the same order, and it is numbered by how many of those
before it have the anchor of its heading. So remarks whose headings have one anchor get different
ones. -/
theorem remarks_numbered (crumbs : List Crumb) :
    (remarks crumbs).length = crumbs.length ∧
    (∀ i crumb, crumbs[i]? = some crumb → ∃ remark, (remarks crumbs)[i]? = some remark ∧
      Labels (crumbs.take i) crumb remark) ∧
    (remarks crumbs).Pairwise fun remark other =>
      baseAnchor remark.crumb = baseAnchor other.crumb → remark.anchor ≠ other.anchor := by
  refine ⟨length_remarksFrom [] crumbs, ?_, pairwise_remarksFrom [] crumbs⟩
  intro i crumb hcrumb
  exact ⟨_, getElem?_remarks hcrumb, labels_remarkBehind _ _⟩

def repeatedTitles : List Crumb :=
  [{ path := "a.go".toList, title := "step A".toList }, { path := "b.go".toList },
    { path := "c.go".toList, title := "Step a".toList },
    { path := "d.go".toList, title := "step, a".toList }]

theorem remarks_numbered_repeatedTitles : ∃ crumb remark, repeatedTitles[3]? = some crumb ∧
    (remarks repeatedTitles)[3]? = some remark ∧ remark.anchor = "#l1-step-a-2".toList := by
  obtain ⟨-, hlabels, -⟩ := remarks_numbered repeatedTitles
  obtain ⟨remark, hremark, hlabel⟩ := hlabels 3 _ rfl
  refine ⟨_, remark, rfl, hremark, ?_⟩
  rw [hlabel.repeated ⟨_, List.mem_cons_self, by decide⟩]
  decide

end Breadcrumb.Document.Markdown
