import Breadcrumb.Proofs.Text.Spelling
import Breadcrumb.Proofs.Text.Trimming

namespace Breadcrumb.Text

variable {text text' field field' : Text} {c : Char}

def IsAscii (text : Text) : Prop := ∀ c ∈ text, c.toNat < 0x80

instance (text : Text) : Decidable (IsAscii text) := List.decidableBAll _ text

theorem IsAscii.append (h : IsAscii text) (h' : IsAscii text') : IsAscii (text ++ text') :=
  List.forall_mem_append.2 ⟨h, h'⟩

theorem toNat_digitChar_lt : ∀ d < 16, d.digitChar.toNat < 0x80 := by decide

theorem isAscii_toDigits (hbase : 1 < base) (hhex : base ≤ 16) (n : Nat) :
    IsAscii (Nat.toDigits base n) := by
  induction n using Nat.strongRecOn with
  | ind n ih =>
    rw [Nat.toDigits_eq_if hbase]
    split
    · exact List.forall_mem_singleton.2 (toNat_digitChar_lt n (by omega))
    · have hdigit : n % base < base := Nat.mod_lt n (by omega)
      refine (ih (n / base) (Nat.div_lt_self (by omega) hbase)).append ?_
      exact List.forall_mem_singleton.2 (toNat_digitChar_lt _ (by omega))

theorem isAscii_hex (width n : Nat) : IsAscii (hex width n) := by
  refine IsAscii.append ?_ (isAscii_toDigits (by decide) (by decide) n)
  intro c hc
  rw [List.eq_of_mem_replicate hc]
  decide

theorem isAscii_ofInt (n : Int) : IsAscii (ofInt n) := by
  cases n with
  | ofNat n => exact isAscii_toDigits (by decide) (by decide) n
  | negSucc n =>
    exact List.forall_mem_cons.2 ⟨by decide, isAscii_toDigits (by decide) (by decide) (n + 1)⟩

def capitals : CaseRun := ⟨0x41, 0x5A, 1, 32⟩

/-- The runs behind that of the capitals cover no ASCII character. -/
theorem ble_first_tail_lowerRuns : lowerRuns.tail.all (Nat.ble 0x80 ·.first) = true := by decide

theorem apply_lowerRuns_of_lt {n : Nat} (hn : n < 0x80) :
    CaseRun.apply lowerRuns n = CaseRun.apply [capitals] n := by
  refine CaseRun.apply_cons_of_forall fun run hrun => Bool.eq_false_iff.2 fun hcovers => ?_
  have hfirst :=
    Nat.le_of_ble_eq_true (List.all_eq_true.1 ble_first_tail_lowerRuns run hrun)
  have hle := (CaseRun.covers_iff.1 hcovers).1
  omega

theorem apply_capitals_ascii : ∀ n < 0x80,
    Char.ofNat (CaseRun.apply [capitals] n) = (Char.ofNat n).toLower := by
  decide

theorem lowerAt_of_ascii (hc : c.toNat < 0x80) (before behind : Text) :
    lowerAt before c behind = [c.toLower] := by
  have hrun := apply_capitals_ascii c.toNat hc
  rw [Char.ofNat_toNat] at hrun
  rw [lowerAt, if_neg (by omega), if_neg (by omega), apply_lowerRuns_of_lt hc, hrun]

theorem lowerFrom_of_isAscii (h : IsAscii text) (before : Text) :
    lowerFrom before text = text.map Char.toLower := by
  induction text generalizing before with
  | nil => rfl
  | cons c text ih =>
    obtain ⟨hc, htext⟩ := List.forall_mem_cons.1 h
    rw [lowerFrom, lowerAt_of_ascii hc, ih htext]
    rfl

theorem lower_of_isAscii (h : IsAscii text) : text.lower = text.map Char.toLower :=
  lowerFrom_of_isAscii h []

theorem isBlank_toLower (c : Char) : isBlank c.toLower = isBlank c :=
  (isBlank_eq_of_sameLetter (sameLetter_toLower c)).symm

theorem trimStart_map_toLower (text : Text) :
    trimStart (text.map Char.toLower) = (trimStart text).map Char.toLower := by
  rw [trimStart, List.dropWhile_map]
  congr 2
  exact funext isBlank_toLower

theorem trim_map_toLower (text : Text) :
    trim (text.map Char.toLower) = (trim text).map Char.toLower := by
  simp only [trim, trimEnd, trimStart_map_toLower, ← List.map_reverse]

theorem toNat_toLower_capitals : ∀ k < 26,
    (Char.ofNat (0x41 + k)).toLower.toNat = 0x41 + k + 0x20 := by
  decide

theorem toLower_cases (c : Char) :
    c.toLower = c ∨ 0x41 ≤ c.toNat ∧ c.toNat ≤ 0x5A ∧ c.toLower.toNat = c.toNat + 0x20 := by
  by_cases hupper : c.val ≥ 'A'.val ∧ c.val ≤ 'Z'.val
  · have hlo : 0x41 ≤ c.toNat := UInt32.le_iff_toNat_le.1 hupper.1
    have hhi : c.toNat ≤ 0x5A := UInt32.le_iff_toNat_le.1 hupper.2
    have hmoved := toNat_toLower_capitals (c.toNat - 0x41) (by omega)
    rw [Nat.add_sub_cancel' hlo, Char.ofNat_toNat] at hmoved
    exact .inr ⟨hlo, hhi, hmoved⟩
  · exact .inl (dif_neg hupper)

theorem toNat_toLower_lt_iff : c.toLower.toNat < 0x80 ↔ c.toNat < 0x80 := by
  rcases toLower_cases c with hsame | ⟨hlo, hhi, hmoved⟩
  · rw [hsame]
  · omega

/-- A character below the capitals is the lower case of itself only. -/
theorem toLower_eq_iff {sign : Char} (h : sign.toNat < 0x41) : c.toLower = sign ↔ c = sign := by
  rcases toLower_cases c with hsame | ⟨hlo, hhi, hmoved⟩
  · rw [hsame]
  · constructor
    · rintro rfl
      omega
    · rintro rfl
      omega

theorem recased_iff : Recased text text' ↔ text.map Char.toLower = text'.map Char.toLower := by
  rw [Recased, ← List.forall₂_eq_eq_eq, List.forall₂_map_left_iff, List.forall₂_map_right_iff]

theorem IsAscii.recased (h : IsAscii text) (hcase : Recased text text') : IsAscii text' := by
  intro c hc
  have hlower : c.toLower ∈ text.map Char.toLower :=
    recased_iff.1 hcase ▸ List.mem_map_of_mem hc
  obtain ⟨d, hd, he⟩ := List.mem_map.1 hlower
  rw [← toNat_toLower_lt_iff, ← he, toNat_toLower_lt_iff]
  exact h d hd

/-- An ASCII text is trimmed and lowered in any order. -/
theorem lower_trim_of_isAscii (h : IsAscii text) :
    text.trim.lower = trim (text.map Char.toLower) := by
  have htrim : IsAscii text.trim := fun c hc => h c (trim_subset text hc)
  rw [lower_of_isAscii htrim, trim_map_toLower]

/-- The case of the letters does not matter to the lower case of what is trimmed. -/
theorem lower_trim_recased (h : IsAscii text) (hcase : Recased text text') :
    text'.trim.lower = text.trim.lower := by
  rw [lower_trim_of_isAscii h, lower_trim_of_isAscii (h.recased hcase), recased_iff.1 hcase]

end Breadcrumb.Text
