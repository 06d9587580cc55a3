import Breadcrumb.Base64
import Mathlib.Data.List.GetD
import Mathlib.Data.List.Nodup

namespace Breadcrumb.Base64

theorem length_letters : letters.length = 64 := by decide

theorem nodup_letters : letters.Nodup := by decide

theorem letter_eq_getElem (hn : n < 64) : ∃ h : n < letters.length, letter n = letters[n] :=
  ⟨length_letters ▸ hn, List.getD_eq_getElem _ _ _⟩

theorem letter_ne_mark (hn : n < 64) : letter n ≠ '=' := by
  obtain ⟨hlt, hletter⟩ := letter_eq_getElem hn
  have hmark : '=' ∉ letters := by decide
  exact hletter ▸ ne_of_mem_of_not_mem (List.getElem_mem hlt) hmark

theorem value?_letter (hn : n < 64) : value? (letter n) = some n := by
  obtain ⟨hlt, hletter⟩ := letter_eq_getElem hn
  rw [value?, hletter, List.findIdx?_eq_some_iff_getElem]
  refine ⟨hlt, decide_eq_true rfl, ?_⟩
  intro k hk hsame
  have heq : k = n := nodup_letters.getElem_inj_iff.1 (of_decide_eq_true hsame)
  omega

theorem decodeFrom_letter (group : Group) (hn : n < 64) (text : Text) :
    decodeFrom group (letter n :: text) =
      (decodeFrom (group.push n).1 text).map ((group.push n).2 ++ ·) := by
  rw [decodeFrom, if_neg (letter_ne_mark hn), value?_letter hn]

theorem decodeFrom_pair (ha : a < 64) (hb : b < 64) (text : Text) :
    decodeFrom {} (letter a :: letter b :: text) =
      (decodeFrom { count := 2, held := b % 16 } text).map
        ([Nat.toUInt8 (a * 4 + b / 16)] ++ ·) := by
  rw [decodeFrom_letter _ ha, decodeFrom_letter _ hb, Option.map_map]
  rfl

theorem decodeFrom_third (held : Nat) (hc : c < 64) (text : Text) :
    decodeFrom { count := 2, held } (letter c :: text) =
      (decodeFrom { count := 3, held := c % 4 } text).map ([Nat.toUInt8 (held * 16 + c / 4)] ++ ·) :=
  decodeFrom_letter _ hc text

theorem decodeFrom_fourth (held : Nat) (hd : d < 64) (text : Text) :
    decodeFrom { count := 3, held } (letter d :: text) =
      (decodeFrom {} text).map ([Nat.toUInt8 (held * 64 + d)] ++ ·) :=
  decodeFrom_letter _ hd text

theorem toUInt8_of_eq (byte : UInt8) (h : n = byte.toNat) : Nat.toUInt8 n = byte := by
  rw [h]
  exact UInt8.ofNat_toNat

/-- A group of three bytes at a time; the last one may be short. -/
theorem decode?_encode (bytes : Bytes) : decode? (encode bytes) = some bytes := by
  rw [decode?]
  induction bytes using encode.induct with
  | case1 => rfl
  | case2 a =>
    have ha := a.toNat_lt
    rw [encode, decodeFrom_pair (by omega) (by omega), toUInt8_of_eq a (by omega)]
    rfl
  | case3 a b =>
    have ha := a.toNat_lt
    have hb := b.toNat_lt
    rw [encode, decodeFrom_pair (by omega) (by omega), decodeFrom_third _ (by omega),
      toUInt8_of_eq a (by omega), toUInt8_of_eq b (by omega)]
    rfl
  | case4 a b c rest ih =>
    have ha := a.toNat_lt
    have hb := b.toNat_lt
    have hc := c.toNat_lt
    rw [encode, decodeFrom_pair (by omega) (by omega), decodeFrom_third _ (by omega),
      decodeFrom_fourth _ (by omega), ih, toUInt8_of_eq a (by omega),
      toUInt8_of_eq b (by omega), toUInt8_of_eq c (by omega)]
    rfl

end Breadcrumb.Base64
