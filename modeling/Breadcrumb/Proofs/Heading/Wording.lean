import Breadcrumb.Heading
import Breadcrumb.Proofs.Text.Casing
import Breadcrumb.Proofs.Text.Joining

namespace Breadcrumb.Heading

open Text

variable {sign : Char} {text current base path : Text}

theorem notMem_raiseBehindGaps (hsign : Uncased sign) (h : sign ∉ text) :
    sign ∉ raiseBehindGaps text := by
  induction text using raiseBehindGaps.induct with
  | case1 gap c rest hraised ih =>
    rw [raiseBehindGaps, if_pos hraised]
    obtain ⟨hgap, hrest⟩ := List.ne_and_not_mem_of_not_mem_cons h
    obtain ⟨hc, hrest⟩ := List.ne_and_not_mem_of_not_mem_cons hrest
    apply List.not_mem_cons_of_ne_of_not_mem hgap
    exact List.not_mem_append (notMem_upperChar hsign hc.symm) (ih hrest)
  | case2 gap c rest hkept ih =>
    rw [raiseBehindGaps, if_neg hkept]
    obtain ⟨hgap, hrest⟩ := List.ne_and_not_mem_of_not_mem_cons h
    exact List.not_mem_cons_of_ne_of_not_mem hgap (ih hrest)
  | case3 text hshort =>
    rw [raiseBehindGaps]
    · exact h
    · exact hshort

theorem notMem_titleCase (hsign : Uncased sign) (h : sign ∉ text) : sign ∉ titleCase text := by
  cases text with
  | nil => exact h
  | cons c rest =>
    rw [titleCase]
    split
    · obtain ⟨hc, hrest⟩ := List.ne_and_not_mem_of_not_mem_cons h
      exact List.not_mem_append (notMem_upperChar hsign hc.symm)
        (notMem_raiseBehindGaps hsign hrest)
    · exact notMem_raiseBehindGaps hsign h

theorem notMem_of_mem_wordsFrom (hcurrent : sign ∉ current) (h : sign ∉ text) :
    ∀ word ∈ wordsFrom current text, sign ∉ word := by
  induction text generalizing current with
  | nil =>
    rw [wordsFrom]
    split
    · exact nofun
    · simpa using hcurrent
  | cons c rest ih =>
    obtain ⟨hc, hrest⟩ := List.ne_and_not_mem_of_not_mem_cons h
    rw [wordsFrom]
    split
    · exact ih (List.not_mem_cons_of_ne_of_not_mem hc hcurrent) hrest
    · split
      · exact ih List.not_mem_nil hrest
      · rw [List.forall_mem_cons]
        exact ⟨by simpa using hcurrent, ih List.not_mem_nil hrest⟩

theorem notMem_anchor (hsign : Uncased sign) (hmarks : sign ∉ ['#', '-']) (h : sign ∉ text) :
    sign ∉ anchor text := by
  obtain ⟨hhash, hhyphen⟩ := List.ne_and_not_mem_of_not_mem_cons hmarks
  apply List.not_mem_cons_of_ne_of_not_mem hhash
  apply notMem_lower hsign
  exact notMem_join hhyphen (notMem_of_mem_wordsFrom List.not_mem_nil h)

theorem notMem_cut?_getD (h : sign ∉ path) :
    sign ∉ ((path.cut? '/').getD (path, [])).1 ∧ sign ∉ ((path.cut? '/').getD (path, [])).2 := by
  cases hcut : path.cut? '/' with
  | none => exact ⟨h, List.not_mem_nil⟩
  | some parts =>
    obtain ⟨-, rfl⟩ := of_cut?_eq_some hcut
    rw [List.mem_append, List.mem_cons, not_or, not_or] at h
    exact ⟨h.1, h.2.2⟩

theorem notMem_link (hscheme : sign ∉ "https://".toList) (hmiddle : sign ∉ "/blob/master/".toList)
    (hbase : sign ∉ base) (hpath : sign ∉ path) : sign ∉ link base path := by
  have hwithin : "/".toList ⊆ "/blob/master/".toList := by decide
  have hslash : sign ∉ "/".toList := fun h => hmiddle (hwithin h)
  rw [link]
  dsimp only
  split
  · have htrimmed : sign ∉ ((base.drop 8).reverse.dropWhile (· = '/')).reverse := by
      intro h
      have hdropped := (List.dropWhile_sublist _).subset (List.mem_reverse.1 h)
      exact hbase (List.mem_of_mem_drop (List.mem_reverse.1 hdropped))
    have hhost := List.not_mem_append hscheme htrimmed
    split
    · obtain ⟨hrepository, hrest⟩ := notMem_cut?_getD hpath
      apply List.not_mem_append _ hrest
      apply List.not_mem_append _ hmiddle
      exact List.not_mem_append (List.not_mem_append hhost hslash) hrepository
    · exact List.not_mem_append (List.not_mem_append hhost hmiddle) hpath
  · exact List.not_mem_append hbase hpath

end Breadcrumb.Heading
