import Breadcrumb.Marker
import Breadcrumb.Proofs.Text.Joining
import Breadcrumb.Proofs.Text.Numerals
import Breadcrumb.Proofs.Text.Trimming

namespace Breadcrumb

/-- If the text is a numeral at all, it has no more digits than are converted. -/
def Integer.Fits (text : Text) : Prop :=
  Integer.isNumeral text = true → (Integer.sign text.trim).2.length ≤ Integer.maxDigits

instance (text : Text) : Decidable (Integer.Fits text) :=
  inferInstanceAs (Decidable (_ → _))

theorem Integer.read?_isOk (text : Text) :
    (Integer.read? text).isOk = true ↔ Integer.Fits text := by
  simp only [Integer.read?, Integer.Fits, Integer.isNumeral]
  split
  · rename_i hnum
    split
    · rename_i hlong
      simp only [Except.isOk, Except.toBool, hnum, Bool.false_eq_true, forall_const, false_iff]
      omega
    · rename_i hshort
      simp only [Except.isOk, Except.toBool, hnum, forall_const, true_iff]
      omega
  · rename_i hnum
    simp only [Except.isOk, Except.toBool, hnum, Bool.false_eq_true, false_imp_iff]

theorem Integer.not_fits_of_digits (hdigits : ∀ c ∈ digits, Text.isAsciiDigit c = true)
    (h : maxDigits < digits.length) : ¬ Fits digits := by
  have htrim : Text.trim digits = digits :=
    Text.trim_of_forall fun c hc => Text.isBlank_of_isAsciiDigit (hdigits c hc)
  have hsign : sign digits = (false, digits) := by
    unfold sign
    split
    · exact absurd (hdigits '-' List.mem_cons_self) (by decide)
    · exact absurd (hdigits '+' List.mem_cons_self) (by decide)
    · rfl
  have hnumeral : isNumeral digits = true := by
    rw [isNumeral, htrim, hsign]
    cases digits with
    | nil => cases h
    | cons c rest => exact List.all_eq_true.2 hdigits
  intro hfits
  have hlength := hfits hnumeral
  rw [htrim, hsign] at hlength
  exact Nat.not_le_of_lt h hlength

namespace Marker

/-- The fields of a payload in which an integer is looked for: the step behind a trail, and the
field behind the title. -/
def integerFields (payload : Text) : List Text :=
  match payload.split ';' with
  | [] => []
  | first :: rest =>
    match first.cut? '#' with
    | some (_, step) => step :: (rest.drop 1).take 1
    | none => rest.take 1

/-- No integer field of the payload has too many digits. -/
def Readable (payload : Text) : Prop := ∀ field ∈ integerFields payload, Integer.Fits field

instance (payload : Text) : Decidable (Readable payload) :=
  inferInstanceAs (Decidable (∀ field ∈ integerFields payload, Integer.Fits field))

theorem withPeek_isOk (marker : Marker) (fields : List Text) :
    (marker.withPeek fields).isOk = true ↔ ∀ field ∈ fields.take 1, Integer.Fits field := by
  cases fields with
  | nil => simp [withPeek, Except.isOk, Except.toBool]
  | cons field rest =>
    simp only [withPeek, List.take_succ_cons, List.take_zero, List.mem_singleton, forall_eq,
      ← Integer.read?_isOk]
    cases Integer.read? field <;> rfl

theorem withTitle_isOk (marker : Marker) (fields : List Text) :
    (marker.withTitle fields).isOk = true ↔
      ∀ field ∈ (fields.drop 1).take 1, Integer.Fits field := by
  cases fields with
  | nil => exact withPeek_isOk _ []
  | cons field rest => exact withPeek_isOk _ rest

theorem ofTrail_isOk (trail step : Text) :
    (ofTrail trail step).isOk = true ↔ Integer.Fits step := by
  rw [← Integer.read?_isOk, ofTrail]
  cases Integer.read? step <;> rfl

theorem parse_isOk (payload : Text) : (parse payload).isOk = true ↔ Readable payload := by
  rw [parse, Readable, integerFields]
  cases payload.split ';' with
  | nil => simpa [ofFields] using withTitle_isOk remark []
  | cons first rest =>
    simp only [ofFields]
    cases first.cut? '#' with
    | none => exact withTitle_isOk remark (first :: rest)
    | some pair =>
      obtain ⟨trail, step⟩ := pair
      simp only [List.mem_cons, forall_eq_or_imp, ← ofTrail_isOk trail step]
      cases ofTrail trail step with
      | error fault => simp [Except.bind, Except.isOk, Except.toBool]
      | ok marker =>
        simpa [Except.bind, Except.isOk, Except.toBool] using withTitle_isOk marker rest

theorem not_readable_of_step {trail digits : Text} (hsep : ';' ∉ trail) (hmark : '#' ∉ trail)
    (hdigits : ∀ c ∈ digits, Text.isAsciiDigit c = true)
    (h : Integer.maxDigits < digits.length) : ¬ Readable (trail ++ '#' :: digits) := by
  have hwhole : ';' ∉ trail ++ '#' :: digits := by
    intro hmem
    rcases List.mem_append.1 hmem with htrail | hrest
    · exact hsep htrail
    · cases hrest with
      | tail _ hdigit => exact absurd (hdigits ';' hdigit) (by decide)
  have hfields : integerFields (trail ++ '#' :: digits) = [digits] := by
    simp only [integerFields, Text.split_of_notMem hwhole, Text.cut?_append hmark, List.drop_nil,
      List.take_nil]
  intro hread
  exact Integer.not_fits_of_digits hdigits h (hread digits (by simp [hfields]))

end Marker

end Breadcrumb
