import Breadcrumb.Text.Blank

namespace Breadcrumb.Text

theorem isAsciiDigit_iff : isAsciiDigit c = true ↔ 48 ≤ c.toNat ∧ c.toNat ≤ 57 := by
  simp only [isAsciiDigit, Bool.and_eq_true, decide_eq_true_eq]
  exact Iff.rfl

theorem ne_of_isAsciiDigit (hc : isAsciiDigit c = true) (hd : isAsciiDigit d = false) : c ≠ d := by
  rintro rfl
  rw [hc] at hd
  cases hd

theorem hexValue?_of_isAsciiDigit (h : isAsciiDigit c = true) :
    hexValue? c = some (c.toNat - '0'.toNat) := by
  have hrange : '0' ≤ c ∧ c ≤ '9' := by
    simpa only [isAsciiDigit, Bool.and_eq_true, decide_eq_true_eq] using h
  rw [hexValue?, if_pos hrange]

theorem number?_of_digits (h : ∀ c ∈ digits, isAsciiDigit c = true) :
    number? 10 digits = some (Nat.ofDigitChars 10 digits 0) := by
  rw [number?]
  generalize 0 = n
  induction digits generalizing n with
  | nil => rfl
  | cons c digits ih =>
    obtain ⟨hc, hdigits⟩ := List.forall_mem_cons.1 h
    have hlt : c.toNat - '0'.toNat < 10 := by
      have hrange := isAsciiDigit_iff.1 hc
      simp only [Char.reduceToNat]
      omega
    rw [List.foldl_cons, Nat.ofDigitChars_cons, Nat.mul_comm 10 n, ← ih hdigits]
    simp only [Option.bind_some, hexValue?_of_isAsciiDigit hc, hlt, if_true]

theorem isAsciiDigit_of_mem_ofNat (h : c ∈ ofNat n) : isAsciiDigit c = true := by
  have hdigit := Nat.isDigit_of_mem_toDigits (by decide) (by decide) h
  rw [isAsciiDigit_iff]
  simp only [Char.isDigit, Bool.and_eq_true, decide_eq_true_eq, ge_iff_le] at hdigit
  exact hdigit

theorem notMem_ofNat (hc : isAsciiDigit c = false) (n : Nat) : c ∉ ofNat n := by
  intro h
  rw [isAsciiDigit_of_mem_ofNat h] at hc
  cases hc

theorem notMem_ofInt (hc : isAsciiDigit c = false) (hminus : c ≠ '-') (n : Int) : c ∉ ofInt n := by
  cases n with
  | ofNat n => exact notMem_ofNat hc n
  | negSucc n => exact List.not_mem_cons_of_ne_of_not_mem hminus (notMem_ofNat hc (n + 1))

theorem hexValue?_digitChar : ∀ d < 16, hexValue? d.digitChar = some d := by decide

theorem number?_concat (base : Nat) (digits : Text) (c : Char) :
    number? base (digits ++ [c]) = (number? base digits).bind fun n =>
      (hexValue? c).bind fun d => if d < base then some (n * base + d) else none := by
  rw [number?, List.foldl_append]
  rfl

/-- What is written in a base is read in it again. -/
theorem number?_toDigits (hbase : 1 < base) (hhex : base ≤ 16) (n : Nat) :
    number? base (Nat.toDigits base n) = some n := by
  induction n using Nat.strongRecOn with
  | ind n ih =>
    rw [Nat.toDigits_eq_if hbase]
    split
    · rename_i hlt
      rw [← List.nil_append [n.digitChar], number?_concat, hexValue?_digitChar n (by omega)]
      simp [number?, hlt]
    · have hdigit : n % base < base := Nat.mod_lt n (by omega)
      have hfront := ih (n / base) (Nat.div_lt_self (by omega) hbase)
      rw [number?_concat, hfront, hexValue?_digitChar _ (by omega)]
      simp only [Option.bind_some, if_pos hdigit, Nat.div_add_mod']

theorem number?_ofNat (n : Nat) : number? 10 (ofNat n) = some n :=
  number?_toDigits (by decide) (by decide) n

theorem number?_hex (width n : Nat) : number? 16 (hex width n) = some n := by
  have hzeros (count : Nat) (digits : Text) :
      number? 16 (List.replicate count '0' ++ digits) = number? 16 digits := by
    induction count with
    | zero => rfl
    | succ count ih => exact ih
  rw [hex, hzeros, number?_toDigits (by decide) (by decide)]

theorem length_hex_four (hn : n < 0x10000) : (hex 4 n).length = 4 := by
  have hlength : (Nat.toDigits 16 n).length ≤ 4 :=
    (Nat.length_toDigits_le_iff (by decide) (by decide)).2 hn
  rw [hex, List.length_append, List.length_replicate, Nat.sub_add_cancel hlength]

theorem lt_length_ofNat_pow (k : Nat) (hk : 0 < k) : k < (ofNat (Nat.pow 10 k)).length := by
  rw [← Nat.not_le, ofNat, Nat.length_toDigits_le_iff (by decide) hk]
  exact Nat.lt_irrefl _

/-- Only zero is written with a zero in front. -/
theorem ofNat_ne_zero_cons (h : 0 < n) (tail : Text) : ofNat n ≠ '0' :: tail := by
  induction n using Nat.strongRecOn generalizing tail with
  | ind n ih =>
    intro hzero
    rw [ofNat, Nat.toDigits_eq_if (by decide)] at hzero
    split at hzero
    · have hhead := (List.cons.inj hzero).1
      rw [Nat.digitChar_eq_zero] at hhead
      omega
    · cases hfront : ofNat (n / 10) with
      | nil => exact Nat.toDigits_ne_nil hfront
      | cons c front =>
        have hsame : Nat.toDigits 10 (n / 10) = c :: front := hfront
        rw [hsame] at hzero
        have hc : c = '0' := (List.cons.inj hzero).1
        exact ih (n / 10) (by omega) (by omega) front (hc ▸ hfront)

theorem ofNat_injective : Function.Injective ofNat := by
  intro m n h
  have hread := number?_ofNat m
  rw [h, number?_ofNat] at hread
  exact (Option.some.inj hread).symm

theorem isBlank_of_isAsciiDigit (h : isAsciiDigit c = true) : isBlank c = false := by
  have hrange : 48 ≤ c.toNat ∧ c.toNat ≤ 57 := by
    simpa [isAsciiDigit, Char.le_def, UInt32.le_iff_toNat_le] using h
  rw [isBlank, blanks]
  simp only [Ranges.contains]
  grind

end Breadcrumb.Text
