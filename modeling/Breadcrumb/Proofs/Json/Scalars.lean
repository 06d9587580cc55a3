import Breadcrumb.Json.Reader
import Breadcrumb.Proofs.Text.Numerals

namespace Breadcrumb

namespace Text

theorem toNat_valid (c : Char) :
    c.toNat < 0xD800 ∨ 0xDFFF < c.toNat ∧ c.toNat < 0x110000 :=
  c.valid

theorem ofCode_toNat (c : Char) : ofCode c.toNat = c := by
  have hvalid : c.toNat.isValidChar := c.valid
  rw [ofCode, if_pos hvalid, Char.ofNat_toNat]

/-- Characters are no halves of pairs. -/
theorem ofUnits_cons (c : Char) (codes : List Nat) :
    ofUnits (c.toNat :: codes) = c :: ofUnits codes := by
  cases codes with
  | nil => exact congrArg (· :: []) (ofCode_toNat c)
  | cons b codes =>
    have hhigh : isHighHalf c.toNat = false := by
      have hvalid := toNat_valid c
      simp only [isHighHalf, Bool.and_eq_false_iff, decide_eq_false_iff_not]
      omega
    rw [ofUnits, hhigh, ofCode_toNat]
    rfl

/-- The codes of a character: itself, or the halves of its pair if it lies too far out for one. -/
def halves (c : Char) : List Nat :=
  if c.toNat < 0x10000 then [c.toNat]
  else [0xD800 + (c.toNat - 0x10000) / 0x400, 0xDC00 + (c.toNat - 0x10000) % 0x400]

theorem ofUnits_halves (c : Char) (codes : List Nat) :
    ofUnits (halves c ++ codes) = c :: ofUnits codes := by
  by_cases hshort : c.toNat < 0x10000
  · rw [halves, if_pos hshort]
    exact ofUnits_cons c codes
  · have hvalid := toNat_valid c
    have hhigh : isHighHalf (0xD800 + (c.toNat - 0x10000) / 0x400) = true := by
      simp only [isHighHalf, Bool.and_eq_true, decide_eq_true_eq]
      omega
    have hlow : isLowHalf (0xDC00 + (c.toNat - 0x10000) % 0x400) = true := by
      simp only [isLowHalf, Bool.and_eq_true, decide_eq_true_eq]
      omega
    have hjoined : 0x10000 + (0xD800 + (c.toNat - 0x10000) / 0x400 - 0xD800) * 0x400 +
        (0xDC00 + (c.toNat - 0x10000) % 0x400 - 0xDC00) = c.toNat := by
      omega
    rw [halves, if_neg hshort, List.cons_append, List.cons_append, List.nil_append, ofUnits, hhigh,
      hlow, hjoined, ofCode_toNat]
    rfl

end Text

namespace Json

/-- The text does not go on with a number that ends here. -/
def Clear (rest : Text) : Prop :=
  ∀ c ∈ rest.head?, Text.isAsciiDigit c = false ∧ c ≠ '.' ∧ c ≠ 'e' ∧ c ≠ 'E'

theorem Clear.cases (h : Clear rest) : rest = [] ∨ ∃ c tail, rest = c :: tail ∧
    Text.isAsciiDigit c = false ∧ c ≠ '.' ∧ c ≠ 'e' ∧ c ≠ 'E' := by
  cases rest with
  | nil => exact .inl rfl
  | cons c tail => exact .inr ⟨c, tail, rfl, h c rfl⟩

theorem fraction_of_clear (h : Clear rest) : fraction rest = ([], rest) := by
  rcases h.cases with rfl | ⟨c, tail, rfl, -, hpoint, -⟩
  · rfl
  · rw [fraction]
    exact fun _ _ hcons => hpoint (List.cons.inj hcons).1

theorem exponent_of_clear (h : Clear rest) : exponent rest = ([], rest) := by
  rcases h.cases with rfl | ⟨c, tail, rfl, -, -, hsmall, hcapital⟩
  · rfl
  · simp [exponent, hsmall, hcapital]

theorem takeWhile_isAsciiDigit_of_clear (h : Clear rest) :
    rest.takeWhile Text.isAsciiDigit = [] ∧ rest.dropWhile Text.isAsciiDigit = rest := by
  rcases h.cases with rfl | ⟨c, tail, rfl, hdigit, -⟩
  · exact ⟨rfl, rfl⟩
  · exact ⟨List.takeWhile_cons_of_neg (by simp [hdigit]), List.dropWhile_cons_of_neg (by simp [hdigit])⟩

theorem whole_ofNat (n : Nat) (h : Clear rest) : whole (Text.ofNat n ++ rest) = (Text.ofNat n, rest) := by
  rcases Nat.eq_zero_or_pos n with rfl | hpos
  · rfl
  · have hdigits : ∀ c ∈ Text.ofNat n, Text.isAsciiDigit c = true :=
      fun _ => Text.isAsciiDigit_of_mem_ofNat
    obtain ⟨htake, hdrop⟩ := takeWhile_isAsciiDigit_of_clear h
    rw [whole]
    · rw [List.takeWhile_append_of_pos hdigits, List.dropWhile_append_of_pos hdigits, htake, hdrop,
        List.append_nil]
    · intro tail htail
      cases hn : Text.ofNat n with
      | nil => exact Nat.toDigits_ne_nil hn
      | cons c front =>
        rw [hn] at htail
        have hc : c = '0' := (List.cons.inj htail).1
        exact Text.ofNat_ne_zero_cons hpos front (hc ▸ hn)

theorem number_of_minus (hfits : Integer.isPrintable n = true) (hrest : Clear rest)
    (hminus : minus text = (negative, Text.ofNat n.natAbs ++ rest))
    (hn : Integer.signed negative n.natAbs = n) : number text = .ok (.int n, rest) := by
  have hshort : ¬ Integer.maxDigits < (Text.ofNat n.natAbs).length :=
    Nat.not_lt.2 (of_decide_eq_true hfits)
  simp only [number, hminus, whole_ofNat _ hrest]
  cases hdigits : Text.ofNat n.natAbs with
  | nil => exact (Nat.toDigits_ne_nil hdigits).elim
  | cons c digits =>
    simp only [fraction_of_clear hrest, exponent_of_clear hrest, List.isEmpty_nil, Bool.and_self,
      if_true, ← hdigits, hshort, if_false, Text.number?_ofNat,
      Option.getD_some, hn]

theorem ofInt_cases (n : Int) :
    (∃ c tail, Text.isAsciiDigit c = true ∧ Text.ofInt n = c :: tail ∧
      Text.ofInt n = Text.ofNat n.natAbs ∧ Integer.signed false n.natAbs = n) ∨
    ∃ c tail, Text.isAsciiDigit c = true ∧ Text.ofInt n = '-' :: c :: tail ∧
      Text.ofNat n.natAbs = c :: tail ∧ Integer.signed true n.natAbs = n := by
  have hcons (m : Nat) : ∃ c tail, Text.isAsciiDigit c = true ∧ Text.ofNat m = c :: tail := by
    cases hm : Text.ofNat m with
    | nil => exact (Nat.toDigits_ne_nil hm).elim
    | cons c tail =>
      exact ⟨c, tail, Text.isAsciiDigit_of_mem_ofNat (hm ▸ List.mem_cons_self), rfl⟩
  cases n with
  | ofNat m =>
    obtain ⟨c, tail, hc, hm⟩ := hcons m
    exact .inl ⟨c, tail, hc, hm, rfl, rfl⟩
  | negSucc m =>
    obtain ⟨c, tail, hc, hm⟩ := hcons (m + 1)
    exact .inr ⟨c, tail, hc, congrArg ('-' :: ·) hm, hm, rfl⟩

theorem number_ofInt (hfits : Integer.isPrintable n = true) (hrest : Clear rest) :
    number (Text.ofInt n ++ rest) = .ok (.int n, rest) := by
  rcases ofInt_cases n with ⟨c, tail, hc, htext, hdigits, hn⟩ | ⟨c, tail, hc, htext, hdigits, hn⟩
  · refine number_of_minus hfits hrest ?_ hn
    rw [← hdigits, htext, List.cons_append, minus]
    intro rest' hcons
    exact Text.ne_of_isAsciiDigit hc (by decide) (List.cons.inj hcons).1
  · refine number_of_minus hfits hrest ?_ hn
    rw [htext, hdigits]
    rfl

theorem plain_ofInt (n : Int) (rest : Text) :
    plain (Text.ofInt n ++ rest) = number (Text.ofInt n ++ rest) := by
  have hne {c d : Char} (hc : Text.isAsciiDigit c = true) (hd : Text.isAsciiDigit d = false) :
      d ≠ c := (Text.ne_of_isAsciiDigit hc hd).symm
  rcases ofInt_cases n with ⟨c, tail, hc, htext, -⟩ | ⟨c, tail, hc, htext, -⟩
  · simp [plain, words, htext, Text.after?, hne hc (d := 'n') rfl, hne hc (d := 't') rfl,
      hne hc (d := 'f') rfl, hne hc (d := 'N') rfl, hne hc (d := 'I') rfl, hne hc (d := '-') rfl]
  · simp [plain, words, htext, Text.after?, hne hc (d := 'I') rfl]

theorem value_ofInt (fuel : Nat) (hfits : Integer.isPrintable n = true) (hrest : Clear rest) :
    value (fuel + 1) (Text.ofInt n ++ rest) = .ok (.int n, rest) := by
  have hplain := (plain_ofInt n rest).trans (number_ofInt hfits hrest)
  rcases ofInt_cases n with ⟨c, tail, hc, htext, -⟩ | ⟨c, tail, -, htext, -⟩
  · have hquote : c ≠ '"' := Text.ne_of_isAsciiDigit hc (by decide)
    have hbracket : c ≠ '[' := Text.ne_of_isAsciiDigit hc (by decide)
    have hbrace : c ≠ '\x7b' := Text.ne_of_isAsciiDigit hc (by decide)
    rw [htext, List.cons_append] at hplain ⊢
    rw [value, hplain]
    all_goals simp [hquote, hbracket, hbrace]
  · rw [htext] at hplain ⊢
    exact hplain

theorem codes_unit (opened : Nat) (hn : n < 0x10000) (hrest : rest ≠ []) :
    codes opened (unit n ++ rest) =
      (codes opened rest).map fun (more, rest) => (n :: more, rest) := by
  obtain ⟨a, b, c, d, hhex⟩ : ∃ a b c d, Text.hex 4 n = [a, b, c, d] := by
    have hlength : (Text.hex 4 n).length = 4 := Text.length_hex_four hn
    match Text.hex 4 n, hlength with
    | [a, b, c, d], _ => exact ⟨a, b, c, d, rfl⟩
  have hnumber : Text.number? 16 [a, b, c, d] = some n := hhex ▸ Text.number?_hex 4 n
  have hempty : rest.isEmpty = false := by simpa using hrest
  simp only [unit, hhex, List.cons_append, List.nil_append, codes, hnumber, hempty,
    Bool.false_eq_true, if_false]

theorem codes_pair (opened : Nat) (hhigh : high < 0x10000) (hlow : low < 0x10000)
    (hrest : rest ≠ []) :
    codes opened (unit high ++ unit low ++ rest) =
      (codes opened rest).map fun (more, rest) => ([high, low] ++ more, rest) := by
  rw [List.append_assoc, codes_unit opened hhigh (by simp [unit]), codes_unit opened hlow hrest]
  cases codes opened rest with
  | error fault => rfl
  | ok read => rfl

theorem codes_units (opened : Nat) (c : Char) (hrest : rest ≠ []) :
    codes opened (units c ++ rest) =
      (codes opened rest).map fun (more, rest) => (Text.halves c ++ more, rest) := by
  by_cases hshort : c.toNat < 0x10000
  · have hhalves : Text.halves c = [c.toNat] := if_pos hshort
    rw [units, if_pos hshort, hhalves, codes_unit opened hshort hrest]
    rfl
  · have hvalid := Text.toNat_valid c
    rw [units, if_neg hshort, Text.halves, if_neg hshort]
    exact codes_pair opened (by omega) (by omega) hrest

theorem codes_plain (opened : Nat) (hquote : c ≠ '"') (hslash : c ≠ '\\') (hc : ¬ c.toNat < 0x20)
    (rest : Text) :
    codes opened (c :: rest) =
      (codes opened rest).map fun (more, rest) => (c.toNat :: more, rest) := by
  rw [codes, if_neg hc]
  all_goals simp [hquote, hslash]

def codesOf (ascii : Bool) (c : Char) : List Nat := if ascii then Text.halves c else [c.toNat]

theorem codesOf_true (c : Char) : codesOf true c = Text.halves c := if_pos rfl

theorem codesOf_of_lt (ascii : Bool) (hc : c.toNat < 0x10000) : codesOf ascii c = [c.toNat] := by
  rw [codesOf, Text.halves, if_pos hc, ite_self]

theorem codes_escape (ascii : Bool) (opened : Nat) (c : Char) (hrest : rest ≠ []) :
    codes opened (escape ascii c ++ rest) =
      (codes opened rest).map fun (more, rest) => (codesOf ascii c ++ more, rest) := by
  have hletter {letter : Char} (h : escapes.lookup letter = some c.toNat) (hu : letter ≠ 'u')
      (hc : c.toNat < 0x10000) : codes opened ('\\' :: letter :: rest) =
        (codes opened rest).map fun (more, rest) => (codesOf ascii c ++ more, rest) := by
    rw [codesOf_of_lt ascii hc, codes]
    · rw [h]
      rfl
    all_goals simp [hu]
  unfold escape
  split
  · subst_vars; exact hletter rfl (by decide) (by decide)
  split
  · subst_vars; exact hletter rfl (by decide) (by decide)
  split
  · subst_vars; exact hletter rfl (by decide) (by decide)
  split
  · subst_vars; exact hletter rfl (by decide) (by decide)
  split
  · subst_vars; exact hletter rfl (by decide) (by decide)
  split
  · rename_i h; exact hletter (by rw [h]; rfl) (by decide) (by omega)
  split
  · rename_i h; exact hletter (by rw [h]; rfl) (by decide) (by omega)
  split
  · rename_i h
    have hhalves : codesOf ascii c = Text.halves c := by
      cases ascii with
      | true => exact codesOf_true c
      | false =>
        have hc : c.toNat < 0x20 := by simpa using h
        rw [codesOf_of_lt false (by omega), Text.halves, if_pos (by omega)]
    rw [hhalves]
    exact codes_units opened c hrest
  · rename_i hquote hslash _ _ _ _ _ h
    simp only [Bool.or_eq_true, decide_eq_true_eq, Bool.and_eq_true, not_or, not_and] at h
    have hself : codesOf ascii c = [c.toNat] := by
      cases ascii with
      | true => exact codesOf_of_lt true (by have := h.2 rfl; omega)
      | false => rfl
    rw [hself]
    exact codes_plain opened hquote hslash h.1 rest

theorem codes_quoted (ascii : Bool) (opened : Nat) (text rest : Text) :
    codes opened (text.flatMap (escape ascii) ++ '"' :: rest) =
      .ok (text.flatMap (codesOf ascii), rest) := by
  induction text with
  | nil => rfl
  | cons c text ih =>
    rw [List.flatMap_cons, List.append_assoc, codes_escape ascii opened c (by simp), ih]
    rfl

theorem ofUnits_codesOf (ascii : Bool) (text : Text) :
    Text.ofUnits (text.flatMap (codesOf ascii)) = text := by
  induction text with
  | nil => rfl
  | cons c text ih =>
    rw [List.flatMap_cons]
    cases ascii with
    | true => rw [codesOf_true, Text.ofUnits_halves, ih]
    | false => exact (Text.ofUnits_cons c _).trans (congrArg (c :: ·) ih)

/-- A text in quotes is read as it was, whether or not it was written in ASCII. -/
theorem string_quoted (ascii : Bool) (text rest : Text) :
    string (text.flatMap (escape ascii) ++ '"' :: rest) = .ok (text, rest) := by
  rw [string, codes_quoted]
  simp only [Except.map, ofUnits_codesOf]

end Json

end Breadcrumb
