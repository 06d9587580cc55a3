import Breadcrumb.Proofs.Encoding.Utf8

namespace Breadcrumb

namespace OpenChar

theorem exists_begin? (hlo : 0xC2 ≤ b.toNat) (hhi : b.toNat ≤ 0xF4) :
    ∃ part, begin? b = some part := by
  rw [← Option.isSome_iff_exists, Option.isSome_iff_ne_none]
  intro hnone
  simp only [begin?, UInt8.le_iff_toNat_le, ← UInt8.toNat_inj, UInt8.toNat_ofNat] at hnone
  repeat' split at hnone
  all_goals simp only [reduceCtorEq] at hnone
  omega

/-- A character is a byte of its own or begins with a byte that asks for more. -/
theorem utf8EncodeChar_cases (c : Char) :
    (∃ b : UInt8, String.utf8EncodeChar c = [b] ∧ b < 0x80 ∧ Char.ofNat b.toNat = c) ∨
      ∃ (b : UInt8) (part : OpenChar) (tail : Bytes),
        String.utf8EncodeChar c = b :: tail ∧ tail ≠ [] ∧ ¬ b < 0x80 ∧ begin? b = some part := by
  have hcode : c.toNat < 0x110000 := by
    have hvalid : c.toNat < 0xD800 ∨ 0xDFFF < c.toNat ∧ c.toNat < 0x110000 := c.valid
    omega
  have hunits := map_toNat_utf8EncodeChar c
  cases hbytes : String.utf8EncodeChar c with
  | nil => exact (String.utf8EncodeChar_ne_nil hbytes).elim
  | cons b tail =>
    have hmany (htail : tail ≠ []) (hlo : 0xC2 ≤ b.toNat) (hhi : b.toNat ≤ 0xF4) :
        ∃ (b' : UInt8) (part : OpenChar) (tail' : Bytes),
          b :: tail = b' :: tail' ∧ tail' ≠ [] ∧ ¬ b' < 0x80 ∧ begin? b' = some part := by
      obtain ⟨part, hpart⟩ := exists_begin? hlo hhi
      refine ⟨b, part, tail, rfl, htail, ?_, hpart⟩
      simp only [UInt8.lt_iff_toNat_lt, UInt8.toNat_ofNat]
      omega
    rw [hbytes, List.map_cons, units] at hunits
    split at hunits
    · obtain ⟨hb, htail⟩ := List.cons.inj hunits
      refine .inl ⟨b, by rw [List.map_eq_nil_iff.1 htail], ?_, ?_⟩
      · simp only [UInt8.lt_iff_toNat_lt, UInt8.toNat_ofNat]
        omega
      · rw [hb, Char.ofNat_toNat]
    · right
      split at hunits
      · obtain ⟨hb, htail⟩ := List.cons.inj hunits
        refine hmany (fun hnil => ?_) (by omega) (by omega)
        simp [hnil] at htail
      · split at hunits
        · obtain ⟨hb, htail⟩ := List.cons.inj hunits
          refine hmany (fun hnil => ?_) (by omega) (by omega)
          simp [hnil] at htail
        · obtain ⟨hb, htail⟩ := List.cons.inj hunits
          refine hmany (fun hnil => ?_) (by omega) (by omega)
          simp [hnil] at htail

theorem utf8EncodeChar_of_lt (h : b < 0x80) :
    String.utf8EncodeChar (Char.ofNat b.toNat) = [b] := by
  simp only [UInt8.lt_iff_toNat_lt, UInt8.toNat_ofNat] at h
  rw [utf8EncodeChar_eq_iff, toNat_ofNat_of_isValidChar (.inl (by omega)), units, if_pos (by omega)]
  rfl

end OpenChar

namespace Encoding

theorem encode_append (text more : Text) : encode (text ++ more) = encode text ++ encode more :=
  List.flatMap_append

theorem encode_singleton (c : Char) : encode [c] = String.utf8EncodeChar c :=
  List.flatMap_singleton _ _

end Encoding

namespace Decoder

/-- The bytes read are those of the text and of the character being read. -/
def HasRead (d : Decoder) (bytes : Bytes) : Prop :=
  ∃ tail, bytes = Encoding.encode d.out.reverse ++ tail ∧
    match d.part? with
    | none => tail = []
    | some part => part.Spells tail

variable {d d' : Decoder} {bytes rest : Bytes} {b : UInt8} {c : Char}

theorem HasRead.emit (h : bytes = Encoding.encode d.out.reverse ++ String.utf8EncodeChar c) :
    (d.emit c).HasRead bytes := by
  refine ⟨[], ?_, rfl⟩
  rw [Decoder.emit, List.reverse_cons, Encoding.encode_append, Encoding.encode_singleton,
    List.append_nil, h]

theorem HasRead.step (h : d.HasRead bytes) (hstep : d.step .utf8 b = .ok d') :
    d'.HasRead (bytes ++ [b]) := by
  obtain ⟨tail, rfl, htail⟩ := h
  cases hpart : d.part? with
  | none =>
    rw [hpart] at htail
    simp only [Decoder.step, hpart, start, reduceCtorEq, or_false, if_false] at hstep
    cases htail
    rw [List.append_nil]
    split at hstep
    · rename_i hb
      cases hstep
      exact .emit (by rw [OpenChar.utf8EncodeChar_of_lt hb])
    · split at hstep
      · rename_i hbegin
        cases hstep
        exact ⟨[b], rfl, OpenChar.spells_begin? hbegin⟩
      · cases hstep
  | some part =>
    rw [hpart] at htail
    simp only [Decoder.step, hpart] at hstep
    rw [List.append_assoc]
    split at hstep
    · rename_i hb
      split at hstep
      · rename_i hdone
        cases hstep
        exact .emit (by rw [htail.finish hb.1 hb.2 hdone])
      · rename_i hmore
        cases hstep
        exact ⟨tail ++ [b], rfl, htail.extend hb.1 hb.2 hmore⟩
    · cases hstep

theorem HasRead.feed (h : d.HasRead bytes) (hfeed : d.feed .utf8 rest = .ok d') :
    d'.HasRead (bytes ++ rest) := by
  induction rest generalizing d bytes with
  | nil =>
    cases hfeed
    rw [List.append_nil]
    exact h
  | cons b rest ih =>
    rw [Decoder.feed] at hfeed
    split at hfeed
    · rename_i next hstep
      have hrest := ih (h.step hstep) hfeed
      rw [List.append_assoc] at hrest
      exact hrest
    · cases hfeed

theorem feed_of_spells {tail : Bytes} (h : part.Spells bytes) (hpart : d.part? = some part)
    (hc : String.utf8EncodeChar c = bytes ++ tail) (htail : tail ≠ []) (rest : Bytes) :
    ∃ offset, d.feed .utf8 (tail ++ rest) =
      Decoder.feed .utf8 { out := c :: d.out, offset } rest := by
  induction tail generalizing d part bytes with
  | nil => exact (htail rfl).elim
  | cons b tail ih =>
    obtain ⟨hlo, hhi, hmissing, hvalue⟩ := h.of_append hc
    rw [List.cons_append, Decoder.feed]
    simp only [Decoder.step, hpart, hlo, hhi, and_self, if_true]
    by_cases hlast : tail = []
    · subst hlast
      have hdone : (part.extend b).missing = 0 := by simp [OpenChar.extend, hmissing]
      rw [if_pos hdone, hvalue rfl, Char.ofNat_toNat]
      exact ⟨d.offset + 1, rfl⟩
    · have hmore : (part.extend b).missing ≠ 0 := by
        simpa [OpenChar.extend, hmissing] using hlast
      rw [if_neg hmore]
      exact ih (h.extend hlo hhi hmore) rfl (by rw [hc, List.append_assoc]; rfl) hlast

theorem feed_utf8EncodeChar (hpart : d.part? = none) (c : Char) (rest : Bytes) :
    ∃ offset, d.feed .utf8 (String.utf8EncodeChar c ++ rest) =
      Decoder.feed .utf8 { out := c :: d.out, offset } rest := by
  rcases OpenChar.utf8EncodeChar_cases c with
    ⟨b, hbytes, hb, hc⟩ | ⟨b, part, tail, hbytes, htail, hb, hbegin⟩
  · rw [hbytes, List.singleton_append, Decoder.feed]
    simp only [Decoder.step, hpart, start, hb, true_or, if_true, hc]
    exact ⟨d.offset + 1, rfl⟩
  · rw [hbytes, List.cons_append, Decoder.feed]
    simp only [Decoder.step, hpart, start, hb, reduceCtorEq, or_self, if_false, hbegin]
    exact feed_of_spells (OpenChar.spells_begin? hbegin) rfl hbytes htail rest

theorem feed_encode (hpart : d.part? = none) (text : Text) :
    ∃ offset, d.feed .utf8 (Encoding.encode text) = .ok { out := text.reverse ++ d.out, offset } := by
  induction text generalizing d with
  | nil =>
    refine ⟨d.offset, ?_⟩
    rw [show d = { out := d.out, offset := d.offset } by cases d; simp_all]
    rfl
  | cons c text ih =>
    obtain ⟨offset, hfirst⟩ := feed_utf8EncodeChar hpart c (Encoding.encode text)
    obtain ⟨last, hrest⟩ := @ih { out := c :: d.out, offset } rfl
    refine ⟨last, ?_⟩
    rw [show Encoding.encode (c :: text) = String.utf8EncodeChar c ++ Encoding.encode text from rfl,
      hfirst, hrest, List.reverse_cons, List.append_assoc]
    rfl

end Decoder

/-- Bytes are decoded to a text exactly if they encode it. -/
theorem Encoding.decode_eq_ok_iff {bytes : Bytes} {text : Text} :
    Encoding.utf8.decode bytes = .ok text ↔ Encoding.encode text = bytes := by
  constructor
  · intro h
    rw [decode] at h
    cases hfeed : Decoder.feed .utf8 {} bytes with
    | error fault =>
      rw [hfeed] at h
      cases h
    | ok d =>
      have hstart : Decoder.HasRead {} [] := ⟨[], rfl, rfl⟩
      obtain ⟨tail, hbytes, htail⟩ := hstart.feed hfeed
      rw [hfeed] at h
      simp only [Except.bind, Decoder.finish] at h
      cases hpart : d.part? with
      | some part =>
        rw [hpart] at h
        cases h
      | none =>
        rw [hpart] at h htail
        cases h
        cases htail
        rw [List.nil_append, List.append_nil] at hbytes
        exact hbytes.symm
  · rintro rfl
    obtain ⟨offset, hfeed⟩ := @Decoder.feed_encode {} rfl text
    rw [decode, hfeed]
    simp only [Except.bind, Decoder.finish, List.append_nil, List.reverse_reverse]

end Breadcrumb
