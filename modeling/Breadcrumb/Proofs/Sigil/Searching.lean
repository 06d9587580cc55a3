import Breadcrumb.Proofs.Sigil.Expression
import Breadcrumb.Proofs.Text.Spelling
import Breadcrumb.Proofs.Text.Trimming

namespace Breadcrumb

open Text Pattern

variable {word text before found after : Text} {cursor : Cursor} {k : Continuation}

namespace Pattern

theorem setHolds_letter (c d : Char) :
    setHolds { ignoreCase := true } false [.code c.toNat] d = sameLetter c d := by
  rw [sameLetter_comm, ← contains_variants]
  simp only [setHolds, List.any_cons, List.any_nil, Item.holds, Mode.codes, Bool.not_true,
    Bool.not_false, Bool.false_eq_true, if_false, if_true, Bool.or_false, Bool.bne_false]

end Pattern

namespace Sigil

theorem run_blank (cursor : Cursor) (k : Continuation) :
    blank.run cursor k =
      match cursor.after with
      | [] => k cursor
      | c :: rest => if isBlank c then (k (cursor.advance c rest)).or (k cursor) else k cursor := by
  exact run_optional_blank rfl cursor k

theorem run_letters_cons (c : Char) (word : Text) (cursor : Cursor) (k : Continuation) :
    (letters (c :: word)).run cursor k =
      match cursor.after with
      | [] => none
      | d :: rest =>
        if sameLetter c d then (letters word).run (cursor.advance d rest) k else none := by
  rw [letters, List.map_cons, run_sequence_cons, literal, run]
  simp only [setHolds_letter]
  rfl

theorem run_letters (h : SpelledAt word cursor.after [] found after) :
    (letters word).run cursor k = k (cursor.pass found after) := by
  obtain ⟨hafter, hspells⟩ := h
  induction hspells generalizing cursor with
  | nil =>
    obtain rfl : cursor.after = after := hafter
    rfl
  | @cons c d word found hletter _ ih =>
    obtain ⟨back, rest, position, groups⟩ := cursor
    obtain rfl : rest = d :: (found ++ after) := hafter
    rw [run_letters_cons]
    simp only [hletter, if_true]
    rw [ih rfl]
    simp only [Cursor.pass, Cursor.advance, List.reverse_cons, List.append_assoc,
      List.singleton_append, List.length_cons, Nat.add_assoc, Nat.add_comm 1]

theorem run_letters_eq_none (h : ∀ found after, ¬SpelledAt word cursor.after [] found after) :
    (letters word).run cursor k = none := by
  induction word generalizing cursor with
  | nil => exact absurd ⟨rfl, .nil⟩ (h [] cursor.after)
  | cons c word ih =>
    rw [run_letters_cons]
    cases hafter : cursor.after with
    | nil => rfl
    | cons d rest =>
      by_cases hletter : sameLetter c d = true
      · simp only [hletter, if_true]
        refine ih fun found after ⟨hrest, hspells⟩ => h (d :: found) after ?_
        exact ⟨hafter.trans (congrArg (d :: ·) hrest), .cons hletter hspells⟩
      · exact if_neg hletter

def body (word : Text) : Pattern := .seq (letters word) blank

theorem run_body (cursor : Cursor) (h : SpelledAt word cursor.after [] found after) :
    ∃ stop, (body word).run cursor some = some stop ∧ stop.after = dropBlank after := by
  rw [body, run, run_letters h, run_blank]
  cases after with
  | nil => exact ⟨_, rfl, rfl⟩
  | cons c rest =>
    simp only [Cursor.pass, dropBlank]
    split
    · exact ⟨_, rfl, rfl⟩
    · exact ⟨_, rfl, rfl⟩

theorem run_body_eq_none (h : ∀ found after, ¬SpelledAt word cursor.after [] found after) :
    (body word).run cursor some = none := by
  rw [body, run, run_letters_eq_none h]

variable (sigil : Sigil) {back : Text} {position : Nat}

theorem run_pattern (cursor : Cursor) : sigil.pattern.run cursor some =
    match cursor.after with
    | [] => (body sigil.text.trim).run cursor some
    | c :: rest =>
      if isBlank c then
        ((body sigil.text.trim).run (cursor.advance c rest) some).or
          ((body sigil.text.trim).run cursor some)
      else (body sigil.text.trim).run cursor some := by
  rw [pattern, run, run_blank]
  rfl

/-- Where the sigil stands neither here nor behind a blank here, the pattern does not match. -/
theorem run_pattern_eq_none
    (hhere : ∀ found after, ¬SpelledAt sigil.text.trim cursor.after [] found after)
    (hnext : ∀ c found after, isBlank c = true →
      ¬SpelledAt sigil.text.trim cursor.after [c] found after) :
    sigil.pattern.run cursor some = none := by
  rw [run_pattern, run_body_eq_none hhere]
  cases hafter : cursor.after with
  | nil => rfl
  | cons c rest =>
    by_cases hblank : isBlank c = true
    · have hrest : (body sigil.text.trim).run (cursor.advance c rest) some = none :=
        run_body_eq_none fun found after h => hnext c found after hblank (hafter ▸ h.cons c)
      simp only [hblank, if_true, hrest]
      rfl
    · exact if_neg hblank

theorem head_ne_blank (h : SpelledAt sigil.text.trim text [] found after) :
    ∃ d rest, text = d :: rest ∧ isBlank d = false := by
  cases hword : sigil.text.trim with
  | nil => exact absurd hword sigil.notBlank
  | cons c word =>
    obtain ⟨d, hd, hletter⟩ := (hword ▸ h).head
    obtain ⟨rest, rfl⟩ := List.head?_eq_some_iff.1 (List.head?_eq_getElem? ▸ hd)
    refine ⟨d, rest, rfl, ?_⟩
    rw [← isBlank_eq_of_sameLetter hletter]
    exact (isTrimmed_trim sigil.text).1 c (hword ▸ rfl)

theorem run_pattern_of_spelled (cursor : Cursor)
    (h : SpelledAt sigil.text.trim cursor.after [] found after) :
    ∃ stop, sigil.pattern.run cursor some = some stop ∧ stop.after = dropBlank after := by
  obtain ⟨c, rest, hafter, hblank⟩ := head_ne_blank sigil h
  rw [run_pattern]
  simp only [hafter, hblank]
  exact run_body cursor h

theorem run_pattern_of_blank (cursor : Cursor) {c : Char} (hblank : isBlank c = true)
    (h : SpelledAt sigil.text.trim cursor.after [c] found after) :
    ∃ stop, sigil.pattern.run cursor some = some stop ∧ stop.after = dropBlank after := by
  obtain ⟨hafter, hspells⟩ := h
  obtain ⟨stop, hrun, hstop⟩ := run_body (cursor.advance c (found ++ after)) ⟨rfl, hspells⟩
  rw [run_pattern]
  simp only [hafter, List.singleton_append, hblank, if_true, hrun]
  exact ⟨stop, rfl, hstop⟩

theorem findFrom_eq_none
    (h : ∀ before found after, ¬SpelledAt sigil.text.trim text before found after) :
    sigil.pattern.findFrom false back position text = none := by
  induction text generalizing back position with
  | nil =>
    apply findFrom_nil_of_none
    exact run_pattern_eq_none sigil (h []) fun c found after _ => h [c] found after
  | cons c rest ih =>
    rw [findFrom_cons_of_none]
    · apply ih
      intro before found after hspelled
      exact h (c :: before) found after (hspelled.cons c)
    · exact run_pattern_eq_none sigil (h []) fun d found after _ => h [d] found after

/-- The search stops behind the first sigil and the blank behind it. -/
theorem findFrom_of_first (h : FirstSpelled sigil.text.trim text before found after) :
    ∃ start stop, sigil.pattern.findFrom false back position text = some (start, stop) ∧
      stop.after = dropBlank after := by
  induction before generalizing text back position with
  | nil =>
    obtain ⟨stop, hrun, hstop⟩ := run_pattern_of_spelled sigil
      { before := back, after := text, position } h.toSpelledAt
    exact ⟨_, stop, findFrom_of_run hrun, hstop⟩
  | cons c before ih =>
    by_cases hblank : isBlank c = true ∧ before = []
    · obtain ⟨hblank, rfl⟩ := hblank
      obtain ⟨stop, hrun, hstop⟩ := run_pattern_of_blank sigil
        { before := back, after := text, position } hblank h.toSpelledAt
      exact ⟨_, stop, findFrom_of_run hrun, hstop⟩
    · have hnone : sigil.pattern.run { before := back, after := text, position } some = none := by
        apply run_pattern_eq_none
        · intro found after hspelled
          exact absurd (h.first _ _ _ hspelled) (by simp)
        · -- A sigil behind a blank here would be the first one, with nothing else before it.
          intro d found after hd hspelled
          have hbefore : before = [] := by simpa using h.first _ _ _ hspelled
          subst hbefore
          obtain ⟨rfl, -⟩ := List.cons.inj (h.text_eq.symm.trans hspelled.text_eq)
          exact hblank ⟨hd, rfl⟩
      obtain rfl : text = c :: (before ++ (found ++ after)) := h.text_eq
      rw [findFrom_cons_of_none hnone]
      exact ih h.of_cons

theorem isSome_find?_iff (comment : Text) : (sigil.pattern.find? comment).isSome = true ↔
    ∃ before found after, SpelledAt sigil.text.trim comment before found after := by
  constructor
  · intro hsome
    by_contra hnone
    simp only [not_exists] at hnone
    rw [find?, findFrom_eq_none sigil hnone] at hsome
    exact Bool.false_ne_true hsome
  · rintro ⟨before, found, after, h⟩
    obtain ⟨before, found, after, hfirst⟩ := FirstSpelled.exists h
    obtain ⟨start, stop, hfind, -⟩ := findFrom_of_first sigil hfirst
    rw [find?, hfind]
    rfl

theorem payload?_of_first {comment : Text}
    (h : FirstSpelled sigil.text.trim comment before found after) :
    sigil.payload? comment = some (dropBlank after) := by
  obtain ⟨start, stop, hfind, hstop⟩ := findFrom_of_first sigil h
  rw [payload?, find?, hfind]
  exact congrArg some hstop

/-- The payload is what follows the first sigil in any case, less one blank. There is none if the
sigil does not occur, and the case of the ASCII letters in that first sigil does not matter. All this
holds of the pattern that the sigil's expression is compiled to. -/
theorem payload?_first (sigil : Sigil) (comment : Text) :
    (∃ p, compile sigil.expression = .ok p ∧ p.find? comment = sigil.pattern.find? comment) ∧
    ((sigil.pattern.find? comment).isSome = true ↔
      ∃ before found after, SpelledAt sigil.text.trim comment before found after) ∧
    (∀ payload, sigil.payload? comment = some payload ↔ ∃ before found after,
      FirstSpelled sigil.text.trim comment before found after ∧ payload = dropBlank after) ∧
    ∀ before found after found', FirstSpelled sigil.text.trim comment before found after →
      Recased found found' →
      sigil.payload? (before ++ (found' ++ after)) = sigil.payload? comment := by
  refine ⟨⟨_, compile_expression sigil, findFrom_congr (run_parts sigil) _ _ _ _⟩,
    isSome_find?_iff sigil comment, fun payload => ⟨fun hpayload => ?_, ?_⟩, ?_⟩
  · have hsome : (sigil.pattern.find? comment).isSome = true := by
      rw [payload?] at hpayload
      obtain ⟨_, hfind, -⟩ := Option.map_eq_some_iff.1 hpayload
      exact hfind ▸ rfl
    obtain ⟨before, found, after, h⟩ := (isSome_find?_iff sigil comment).1 hsome
    obtain ⟨before, found, after, hfirst⟩ := FirstSpelled.exists h
    rw [payload?_of_first sigil hfirst] at hpayload
    exact ⟨before, found, after, hfirst, (Option.some.inj hpayload).symm⟩
  · rintro ⟨before, found, after, hfirst, rfl⟩
    exact payload?_of_first sigil hfirst
  · intro before found after found' hfirst hcase
    rw [payload?_of_first sigil hfirst, payload?_of_first sigil (hfirst.recased hcase)]

def plusA : Sigil := ⟨" +a+ ".toList, by decide⟩

theorem firstSpelled_plusA : FirstSpelled plusA.text.trim "x +A+a+ y".toList "x ".toList "+A+".toList
    "a+ y".toList where
  text_eq := by decide
  spells := .cons (by decide) (.cons (by decide) (.cons (by decide) .nil))
  first before found after h := by
    have hword : plusA.text.trim = '+' :: "a+".toList := by decide
    rw [hword] at h
    obtain ⟨d, hd, hletter⟩ := h.head
    rcases before with _ | ⟨_, _ | _⟩
    · obtain rfl : 'x' = d := Option.some.inj hd
      exact absurd hletter (by decide)
    · obtain rfl : ' ' = d := Option.some.inj hd
      exact absurd hletter (by decide)
    · exact Nat.le_add_left 2 _

theorem payload?_first_plusA :
    plusA.payload? "x +A+a+ y".toList = some "a+ y".toList ∧
      plusA.payload? "x +a+a+ y".toList = plusA.payload? "x +A+a+ y".toList := by
  obtain ⟨-, -, hpayload, hcase⟩ := payload?_first plusA "x +A+a+ y".toList
  refine ⟨(hpayload _).2 ⟨_, _, _, firstSpelled_plusA, by decide⟩, ?_⟩
  exact hcase _ _ _ "+a+".toList firstSpelled_plusA (.cons rfl (.cons rfl (.cons rfl .nil)))

end Sigil

end Breadcrumb
