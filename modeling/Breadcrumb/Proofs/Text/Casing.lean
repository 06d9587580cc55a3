import Breadcrumb.Proofs.Text.Folding

namespace Breadcrumb.Text

open CaseRun

variable {sign c : Char} {before text behind : Text} {runs : List CaseRun} {n : Nat}

/-- The sign is neither the upper nor the lower case of another character. -/
structure Uncased (sign : Char) : Prop where
  run : ∀ run ∈ lowerRuns ++ upperRuns, run.image.covers sign.toNat = false
  long : ∀ entry ∈ longUpper, sign.toNat ∉ entry.2
  special : sign ∉ ['ς', 'σ', 'i', Char.ofNat 0x307]
  nonzero : sign ≠ Char.ofNat 0

theorem nonneg_of_mem_runs :
    ∀ run ∈ lowerRuns ++ upperRuns, 0 ≤ (run.first : Int) + run.shift := by
  decide +kernel

theorem ofNat_ne (hsign : Uncased sign) (h : n ≠ sign.toNat) : Char.ofNat n ≠ sign := by
  intro he
  by_cases hvalid : n.isValidChar
  · exact h (he ▸ toNat_ofNat hvalid).symm
  · have hzero : Char.ofNat n = Char.ofNat 0 := dif_neg hvalid
    exact hsign.nonzero (he ▸ hzero)

theorem apply_eq_or (runs : List CaseRun) (n : Nat) :
    apply runs n = n ∨
      ∃ run ∈ runs, run.covers n = true ∧ apply runs n = (n + run.shift).toNat := by
  rw [apply]
  cases hfind : runs.find? (·.covers n) with
  | none => exact .inl rfl
  | some run =>
    have hcovers := List.find?_some hfind
    exact .inr ⟨run, List.mem_of_find?_eq_some hfind, hcovers, rfl⟩

theorem apply_ne (hsign : Uncased sign) (hruns : runs ⊆ lowerRuns ++ upperRuns)
    (h : n ≠ sign.toNat) : apply runs n ≠ sign.toNat := by
  rcases apply_eq_or runs n with hsame | ⟨run, hrun, hcovers, hmoved⟩
  · rwa [hsame]
  · intro he
    have himage := covers_image (nonneg_of_mem_runs run (hruns hrun)) hcovers
    rw [← hmoved, he, hsign.run run (hruns hrun)] at himage
    cases himage

theorem notMem_upperChar (hsign : Uncased sign) (h : c ≠ sign) : sign ∉ upperChar c := by
  rw [upperChar]
  split
  · rename_i image hfind
    intro hmem
    obtain ⟨n, hn, he⟩ := List.mem_map.1 hmem
    have hlong := hsign.long _ (List.mem_of_find?_eq_some hfind)
    exact ofNat_ne hsign (fun heq => hlong (heq ▸ hn)) he
  · have hmoved := apply_ne hsign (List.subset_append_right _ _) (mt Char.toNat_inj.1 h)
    exact mt List.mem_singleton.1 (ofNat_ne hsign hmoved).symm

theorem notMem_lowerAt (hsign : Uncased sign) (h : c ≠ sign) :
    sign ∉ lowerAt before c behind := by
  have hspecial {image : Text} (himage : image ⊆ ['ς', 'σ', 'i', Char.ofNat 0x307]) :
      sign ∉ image := fun hmem => hsign.special (himage hmem)
  rw [lowerAt]
  split
  · split
    · exact hspecial (by decide)
    · exact hspecial (by decide)
  · split
    · exact hspecial (by decide)
    · have hmoved := apply_ne hsign (List.subset_append_left _ _) (mt Char.toNat_inj.1 h)
      exact mt List.mem_singleton.1 (ofNat_ne hsign hmoved).symm

theorem notMem_lowerFrom (hsign : Uncased sign) (h : sign ∉ text) :
    sign ∉ lowerFrom before text := by
  induction text generalizing before with
  | nil => exact List.not_mem_nil
  | cons c text ih =>
    obtain ⟨hc, htext⟩ := List.ne_and_not_mem_of_not_mem_cons h
    exact List.not_mem_append (notMem_lowerAt hsign hc.symm) (ih htext)

theorem notMem_lower (hsign : Uncased sign) (h : sign ∉ text) : sign ∉ text.lower :=
  notMem_lowerFrom hsign h

end Breadcrumb.Text
