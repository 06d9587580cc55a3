import Breadcrumb.Encoding
import Mathlib.Data.List.Basic

namespace Breadcrumb

def OpenChar.units (code : Nat) : List Nat :=
  if code < 0x80 then [code]
  else if code < 0x800 then [0xC0 + code / 64, 0x80 + code % 64]
  else if code < 0x10000 then [0xE0 + code / 4096, 0x80 + code / 64 % 64, 0x80 + code % 64]
  else
    [0xF0 + code / 262144, 0x80 + code / 4096 % 64, 0x80 + code / 64 % 64, 0x80 + code % 64]

theorem OpenChar.map_toNat_utf8EncodeChar (c : Char) :
    (String.utf8EncodeChar c).map UInt8.toNat = units c.toNat := by
  have hmax : c.val.toNat < 0x110000 := by
    have := c.valid
    simp only [UInt32.isValidChar, Nat.isValidChar] at this
    omega
  simp only [String.utf8EncodeChar, units, Char.toNat]
  split
  · simp only [List.map_cons, List.map_nil, UInt8.toNat_ofNat']
    rw [if_pos (by omega), Nat.mod_eq_of_lt (by omega)]
  · split
    · rw [if_neg (by omega), if_pos (by omega)]
      simp only [List.map_cons, List.map_nil, UInt8.toNat_ofNat', List.cons.injEq, and_true]
      omega
    · split
      · rw [if_neg (by omega), if_neg (by omega), if_pos (by omega)]
        simp only [List.map_cons, List.map_nil, UInt8.toNat_ofNat', List.cons.injEq, and_true]
        omega
      · rw [if_neg (by omega), if_neg (by omega), if_neg (by omega)]
        simp only [List.map_cons, List.map_nil, UInt8.toNat_ofNat', List.cons.injEq, and_true]
        omega

namespace OpenChar

theorem utf8EncodeChar_eq_iff {c : Char} {bytes : Bytes} :
    String.utf8EncodeChar c = bytes ↔ units c.toNat = bytes.map UInt8.toNat := by
  have hinj : Function.Injective (List.map UInt8.toNat) :=
    List.map_injective_iff.2 fun _ _ => UInt8.toNat_inj.1
  rw [← map_toNat_utf8EncodeChar, hinj.eq_iff]

/-- The bytes read so far of a character of two, three or four bytes; `value` holds their bits, and
the bounds for the next byte leave out what is too long a form, a surrogate or beyond the last
code. -/
inductive Spells (part : OpenChar) (bytes : Bytes) : Prop
  | oneOfTwo (units : bytes.map UInt8.toNat = [0xC0 + part.value]) (missing : part.missing = 1)
      (value : 2 ≤ part.value ∧ part.value < 0x20) (lo : part.lo = 0x80) (hi : part.hi = 0xBF)
  | oneOfThree (units : bytes.map UInt8.toNat = [0xE0 + part.value]) (missing : part.missing = 2)
      (value : part.value < 0x10) (lo : part.lo = if part.value = 0 then 0xA0 else 0x80)
      (hi : part.hi = if part.value = 0xD then 0x9F else 0xBF)
  | twoOfThree (units : bytes.map UInt8.toNat = [0xE0 + part.value / 64, 0x80 + part.value % 64])
      (missing : part.missing = 1)
      (value : 0x20 ≤ part.value ∧ part.value < 0x400 ∧ ¬ (0x360 ≤ part.value ∧ part.value < 0x380))
      (lo : part.lo = 0x80) (hi : part.hi = 0xBF)
  | oneOfFour (units : bytes.map UInt8.toNat = [0xF0 + part.value]) (missing : part.missing = 3)
      (value : part.value ≤ 4) (lo : part.lo = if part.value = 0 then 0x90 else 0x80)
      (hi : part.hi = if part.value = 4 then 0x8F else 0xBF)
  | twoOfFour (units : bytes.map UInt8.toNat = [0xF0 + part.value / 64, 0x80 + part.value % 64])
      (missing : part.missing = 2) (value : 0x10 ≤ part.value ∧ part.value < 0x110)
      (lo : part.lo = 0x80) (hi : part.hi = 0xBF)
  | threeOfFour
      (units : bytes.map UInt8.toNat =
        [0xF0 + part.value / 4096, 0x80 + part.value / 64 % 64, 0x80 + part.value % 64])
      (missing : part.missing = 1) (value : 0x400 ≤ part.value ∧ part.value < 0x4400)
      (lo : part.lo = 0x80) (hi : part.hi = 0xBF)

variable {part : OpenChar} {bytes : Bytes} {b : UInt8} {c : Char}

theorem spells_begin? (h : begin? b = some part) : Spells part [b] := by
  simp only [begin?, UInt8.le_iff_toNat_le, ← UInt8.toNat_inj, UInt8.toNat_ofNat] at h
  have hunits (n : Nat) : [b].map UInt8.toNat = [n] ↔ b.toNat = n := by simp
  split at h
  · cases h
    refine .oneOfTwo ((hunits _).2 ?_) rfl ?_ rfl rfl <;> simp only [sequence] <;> omega
  · split at h
    · cases h
      exact .oneOfThree ((hunits _).2 (by assumption)) rfl (show 0 < 0x10 by decide) rfl rfl
    · split at h
      · cases h
        exact .oneOfThree ((hunits _).2 (by assumption)) rfl (show 0xD < 0x10 by decide) rfl rfl
      · split at h
        · cases h
          refine .oneOfThree ((hunits _).2 ?_) rfl ?_ (if_neg ?_).symm (if_neg ?_).symm <;>
            simp only [sequence] <;> omega
        · split at h
          · cases h
            exact .oneOfFour ((hunits _).2 (by assumption)) rfl (show 0 ≤ 4 by decide) rfl rfl
          · split at h
            · cases h
              refine .oneOfFour ((hunits _).2 ?_) rfl ?_ (if_neg ?_).symm (if_neg ?_).symm <;>
                simp only [sequence] <;> omega
            · split at h
              · cases h
                exact .oneOfFour ((hunits _).2 (by assumption)) rfl (show 4 ≤ 4 by decide) rfl rfl
              · cases h

theorem Spells.extend (h : Spells part bytes) (hlo : part.lo ≤ b) (hhi : b ≤ part.hi)
    (hmore : (part.extend b).missing ≠ 0) : Spells (part.extend b) (bytes ++ [b]) := by
  rw [UInt8.le_iff_toNat_le] at hlo hhi
  simp only [OpenChar.extend] at hmore
  cases h with
  | oneOfTwo units missing value lo hi => omega
  | twoOfThree units missing value lo hi => omega
  | threeOfFour units missing value lo hi => omega
  | oneOfThree units missing value lo hi =>
    have hlo' : 0x80 ≤ b.toNat ∧ (part.value = 0 → 0xA0 ≤ b.toNat) := by
      rw [lo] at hlo
      split at hlo <;> simp only [UInt8.toNat_ofNat] at hlo <;> omega
    have hhi' : b.toNat < 0xC0 ∧ (part.value = 0xD → b.toNat < 0xA0) := by
      rw [hi] at hhi
      split at hhi <;> simp only [UInt8.toNat_ofNat] at hhi <;> omega
    refine .twoOfThree ?_ ?_ ?_ rfl rfl
    · simp only [OpenChar.extend, List.map_append, units, List.map_cons, List.map_nil,
        List.cons_append, List.nil_append, List.cons.injEq, and_true]
      omega
    · simp only [OpenChar.extend]
      omega
    · simp only [OpenChar.extend]
      omega
  | oneOfFour units missing value lo hi =>
    have hlo' : 0x80 ≤ b.toNat ∧ (part.value = 0 → 0x90 ≤ b.toNat) := by
      rw [lo] at hlo
      split at hlo <;> simp only [UInt8.toNat_ofNat] at hlo <;> omega
    have hhi' : b.toNat < 0xC0 ∧ (part.value = 4 → b.toNat < 0x90) := by
      rw [hi] at hhi
      split at hhi <;> simp only [UInt8.toNat_ofNat] at hhi <;> omega
    refine .twoOfFour ?_ ?_ ?_ rfl rfl
    · simp only [OpenChar.extend, List.map_append, units, List.map_cons, List.map_nil,
        List.cons_append, List.nil_append, List.cons.injEq, and_true]
      omega
    · simp only [OpenChar.extend]
      omega
    · simp only [OpenChar.extend]
      omega
  | twoOfFour units missing value lo hi =>
    simp only [lo, hi, UInt8.toNat_ofNat] at hlo hhi
    refine .threeOfFour ?_ ?_ ?_ rfl rfl
    · simp only [OpenChar.extend, List.map_append, units, List.map_cons, List.map_nil,
        List.cons_append, List.nil_append, List.cons.injEq, and_true]
      omega
    · simp only [OpenChar.extend]
      omega
    · simp only [OpenChar.extend]
      omega

theorem toNat_ofNat_of_isValidChar (h : code.isValidChar) : (Char.ofNat code).toNat = code := by
  rw [Char.ofNat, dif_pos h]
  rfl

theorem Spells.finish (h : Spells part bytes) (hlo : part.lo ≤ b) (hhi : b ≤ part.hi)
    (hdone : (part.extend b).missing = 0) :
    String.utf8EncodeChar (Char.ofNat (part.extend b).value) = bytes ++ [b] := by
  rw [UInt8.le_iff_toNat_le] at hlo hhi
  rw [utf8EncodeChar_eq_iff, List.map_append, List.map_singleton]
  simp only [OpenChar.extend] at hdone ⊢
  cases h with
  | oneOfThree units missing value lo hi => omega
  | oneOfFour units missing value lo hi => omega
  | twoOfFour units missing value lo hi => omega
  | oneOfTwo units missing value lo hi =>
    simp only [lo, hi, UInt8.toNat_ofNat] at hlo hhi
    rw [toNat_ofNat_of_isValidChar (.inl (by omega)), units, OpenChar.units, if_neg (by omega),
      if_pos (by omega)]
    simp only [List.cons_append, List.nil_append, List.cons.injEq, and_true]
    omega
  | twoOfThree units missing value lo hi =>
    simp only [lo, hi, UInt8.toNat_ofNat] at hlo hhi
    have hvalid : (part.value * 64 + (b.toNat - 128)).isValidChar := by
      simp only [Nat.isValidChar]
      omega
    rw [toNat_ofNat_of_isValidChar hvalid, units, OpenChar.units, if_neg (by omega),
      if_neg (by omega), if_pos (by omega)]
    simp only [List.cons_append, List.nil_append, List.cons.injEq, and_true]
    omega
  | threeOfFour units missing value lo hi =>
    simp only [lo, hi, UInt8.toNat_ofNat] at hlo hhi
    rw [toNat_ofNat_of_isValidChar (.inr (by omega)), units, OpenChar.units, if_neg (by omega),
      if_neg (by omega), if_neg (by omega)]
    simp only [List.cons_append, List.nil_append, List.cons.injEq, and_true]
    omega

theorem units_of_lead_two (h : units code = unit :: rest) (hlo : 0xC0 ≤ unit) (hhi : unit < 0xE0)
    (hcode : code < 0x110000) :
    unit = 0xC0 + code / 64 ∧ rest = [0x80 + code % 64] ∧ 0x80 ≤ code ∧ code < 0x800 := by
  rw [units] at h
  split at h
  · simp only [List.cons.injEq] at h
    omega
  · split at h
    · simp only [List.cons.injEq] at h
      obtain ⟨rfl, rfl⟩ := h
      exact ⟨rfl, rfl, by omega, by omega⟩
    · split at h <;> simp only [List.cons.injEq] at h <;> omega

theorem units_of_lead_three (h : units code = unit :: rest) (hlo : 0xE0 ≤ unit) (hhi : unit < 0xF0)
    (hcode : code < 0x110000) :
    unit = 0xE0 + code / 4096 ∧ rest = [0x80 + code / 64 % 64, 0x80 + code % 64] ∧
      0x800 ≤ code ∧ code < 0x10000 := by
  rw [units] at h
  split at h
  · simp only [List.cons.injEq] at h
    omega
  · split at h
    · simp only [List.cons.injEq] at h
      omega
    · split at h
      · simp only [List.cons.injEq] at h
        obtain ⟨rfl, rfl⟩ := h
        exact ⟨rfl, rfl, by omega, by omega⟩
      · simp only [List.cons.injEq] at h
        omega

theorem units_of_lead_four (h : units code = unit :: rest) (hlo : 0xF0 ≤ unit) :
    unit = 0xF0 + code / 262144 ∧
      rest = [0x80 + code / 4096 % 64, 0x80 + code / 64 % 64, 0x80 + code % 64] ∧
      0x10000 ≤ code := by
  rw [units] at h
  split at h
  · simp only [List.cons.injEq] at h
    omega
  · split at h
    · simp only [List.cons.injEq] at h
      omega
    · split at h
      · simp only [List.cons.injEq] at h
        omega
      · simp only [List.cons.injEq] at h
        obtain ⟨rfl, rfl⟩ := h
        exact ⟨rfl, rfl, by omega⟩

theorem Spells.of_append (h : Spells part bytes)
    (hc : String.utf8EncodeChar c = bytes ++ b :: rest) :
    part.lo ≤ b ∧ b ≤ part.hi ∧ part.missing = rest.length + 1 ∧
      (rest = [] → (part.extend b).value = c.toNat) := by
  have hvalid : c.toNat < 0xD800 ∨ 0xDFFF < c.toNat ∧ c.toNat < 0x110000 := c.valid
  have hcode : c.toNat < 0x110000 := by omega
  rw [utf8EncodeChar_eq_iff, List.map_append, List.map_cons] at hc
  simp only [UInt8.le_iff_toNat_le, OpenChar.extend, ← List.length_map UInt8.toNat,
    ← List.map_eq_nil_iff (f := UInt8.toNat)]
  generalize rest.map UInt8.toNat = rest at hc
  cases h with
  | oneOfTwo units missing value lo hi =>
    rw [units] at hc
    obtain ⟨hlead, hrest, hsize⟩ := units_of_lead_two hc (by omega) (by omega) hcode
    obtain ⟨hb, rfl⟩ := List.cons.inj hrest
    refine ⟨?_, ?_, missing, fun _ => ?_⟩
    · simp only [lo, UInt8.toNat_ofNat]
      omega
    · simp only [hi, UInt8.toNat_ofNat]
      omega
    · omega
  | oneOfThree units missing value lo hi =>
    rw [units] at hc
    obtain ⟨hlead, hrest, hsize⟩ := units_of_lead_three hc (by omega) (by omega) hcode
    obtain ⟨hb, rfl⟩ := List.cons.inj hrest
    refine ⟨?_, ?_, missing, by simp⟩
    · rw [lo]
      split <;> simp only [UInt8.toNat_ofNat] <;> omega
    · rw [hi]
      split <;> simp only [UInt8.toNat_ofNat] <;> omega
  | twoOfThree units missing value lo hi =>
    rw [units] at hc
    obtain ⟨hlead, hrest, hsize⟩ := units_of_lead_three hc (by omega) (by omega) hcode
    obtain ⟨hsecond, hrest⟩ := List.cons.inj hrest
    obtain ⟨hb, rfl⟩ := List.cons.inj hrest
    refine ⟨?_, ?_, missing, fun _ => ?_⟩
    · simp only [lo, UInt8.toNat_ofNat]
      omega
    · simp only [hi, UInt8.toNat_ofNat]
      omega
    · omega
  | oneOfFour units missing value lo hi =>
    rw [units] at hc
    obtain ⟨hlead, hrest, hsize⟩ := units_of_lead_four hc (by omega)
    obtain ⟨hb, rfl⟩ := List.cons.inj hrest
    refine ⟨?_, ?_, missing, by simp⟩
    · rw [lo]
      split <;> simp only [UInt8.toNat_ofNat] <;> omega
    · rw [hi]
      split <;> simp only [UInt8.toNat_ofNat] <;> omega
  | twoOfFour units missing value lo hi =>
    rw [units] at hc
    obtain ⟨hlead, hrest, hsize⟩ := units_of_lead_four hc (by omega)
    obtain ⟨hsecond, hrest⟩ := List.cons.inj hrest
    obtain ⟨hb, rfl⟩ := List.cons.inj hrest
    refine ⟨?_, ?_, missing, by simp⟩
    · simp only [lo, UInt8.toNat_ofNat]
      omega
    · simp only [hi, UInt8.toNat_ofNat]
      omega
  | threeOfFour units missing value lo hi =>
    rw [units] at hc
    obtain ⟨hlead, hrest, hsize⟩ := units_of_lead_four hc (by omega)
    obtain ⟨hsecond, hrest⟩ := List.cons.inj hrest
    obtain ⟨hthird, hrest⟩ := List.cons.inj hrest
    obtain ⟨hb, rfl⟩ := List.cons.inj hrest
    refine ⟨?_, ?_, missing, fun _ => ?_⟩
    · simp only [lo, UInt8.toNat_ofNat]
      omega
    · simp only [hi, UInt8.toNat_ofNat]
      omega
    · omega

end OpenChar

end Breadcrumb
