import Breadcrumb.Proofs.Text.Folding
import Mathlib.Data.List.Forall2
import Mathlib.Data.Nat.Find

namespace Breadcrumb.Text

/-- `found` is the word in some case. -/
def Spells (word found : Text) : Prop :=
  List.Forall₂ (fun c d => sameLetter c d = true) word found

/-- The texts differ at most in the case of ASCII letters. -/
def Recased (found found' : Text) : Prop :=
  List.Forall₂ (fun c d => c.toLower = d.toLower) found found'

def dropBlank : Text → Text
  | [] => []
  | c :: rest => if isBlank c then rest else c :: rest

/-- The text is `before`, then the word in some case, then `after`. -/
structure SpelledAt (word text before found after : Text) : Prop where
  text_eq : text = before ++ (found ++ after)
  spells : Spells word found

/-- No spelling of the word starts before this one. -/
structure FirstSpelled (word text before found after : Text) : Prop extends
    SpelledAt word text before found after where
  first : ∀ before' found' after', SpelledAt word text before' found' after' →
    before.length ≤ before'.length

variable {word text before found after : Text}

theorem Spells.refl (text : Text) : Spells text text :=
  List.forall₂_same.2 fun c _ => sameLetter_refl c

theorem Spells.symm {text text' : Text} (h : Spells text text') : Spells text' text :=
  h.flip.imp fun c d hletter => (sameLetter_comm c d).trans hletter

theorem Spells.trans {text text' text'' : Text} (h : Spells text text') (h' : Spells text' text'') :
    Spells text text'' := by
  induction h generalizing text'' with
  | nil => exact h'
  | cons hletter _ ih =>
    cases h' with
    | cons hletter' h' => exact .cons (sameLetter_trans hletter hletter') (ih h')

theorem Recased.spells {text text' : Text} (h : Recased text text') : Spells text text' :=
  h.imp fun _ _ => sameLetter_of_toLower

theorem FirstSpelled.exists (h : SpelledAt word text before found after) :
    ∃ before found after, FirstSpelled word text before found after := by
  classical
  have hex : ∃ n before found after, SpelledAt word text before found after ∧ before.length = n :=
    ⟨_, before, found, after, h, rfl⟩
  obtain ⟨before, found, after, hspelled, hlength⟩ := Nat.find_spec hex
  refine ⟨before, found, after, hspelled, fun before' found' after' h' => ?_⟩
  rw [hlength]
  exact Nat.find_min' hex ⟨before', found', after', h', rfl⟩

theorem SpelledAt.cons (c : Char) (h : SpelledAt word text before found after) :
    SpelledAt word (c :: text) (c :: before) found after :=
  ⟨congrArg (c :: ·) h.text_eq, h.spells⟩

theorem FirstSpelled.of_cons {c : Char}
    (h : FirstSpelled word (c :: text) (c :: before) found after) :
    FirstSpelled word text before found after where
  text_eq := (List.cons.inj h.text_eq).2
  spells := h.spells
  first _ _ _ h' := Nat.le_of_succ_le_succ (h.first _ _ _ (h'.cons c))

theorem SpelledAt.head {c : Char} (h : SpelledAt (c :: word) text before found after) :
    ∃ d, text[before.length]? = some d ∧ sameLetter c d = true := by
  obtain ⟨rfl, hspells⟩ := h
  cases hspells with
  | @cons _ d _ _ hletter _ => exact ⟨d, by simp, hletter⟩

/-- A word that is spelled in one of two texts that are equal but for case is spelled at the same
place in the other. -/
theorem SpelledAt.of_spells {text' : Text} (htexts : Spells text text')
    (h : SpelledAt word text' before found after) :
    ∃ before' found' after', SpelledAt word text before' found' after' ∧
      before'.length = before.length := by
  obtain ⟨rfl, hspells⟩ := h
  have hbefore := List.forall₂_take_append _ _ _ htexts
  have hfound := List.forall₂_take_append _ _ _ (List.forall₂_drop_append _ _ _ htexts)
  refine ⟨text.take before.length, (text.drop before.length).take found.length,
    (text.drop before.length).drop found.length, ⟨?_, ?_⟩, hbefore.length_eq⟩
  · rw [List.take_append_drop, List.take_append_drop]
  · exact hspells.trans (Spells.symm hfound)

theorem FirstSpelled.recased {found' : Text} (h : FirstSpelled word text before found after)
    (hcase : Recased found found') :
    FirstSpelled word (before ++ (found' ++ after)) before found' after where
  text_eq := rfl
  spells := h.spells.trans hcase.spells
  first before₁ found₁ after₁ h₁ := by
    have htexts : Spells text (before ++ (found' ++ after)) :=
      h.text_eq ▸ List.rel_append (Spells.refl before)
        (List.rel_append hcase.spells (Spells.refl after))
    obtain ⟨before₂, found₂, after₂, h₂, hlength⟩ := h₁.of_spells htexts
    exact hlength ▸ h.first before₂ found₂ after₂ h₂

end Breadcrumb.Text
