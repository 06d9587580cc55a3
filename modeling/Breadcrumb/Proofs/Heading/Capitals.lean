import Breadcrumb.Heading
import Breadcrumb.Pattern.Compile
import Breadcrumb.Proofs.Pattern.Replacing

namespace Breadcrumb.Heading

open Text

/-- A word starts at place `j`: a word character stands there, at the start of the text or behind a
character that is neither a word character nor an apostrophe. -/
def IsWordStart (text : Text) (j : Nat) : Prop :=
  (∃ c ∈ text[j]?, isWordChar c = true) ∧
    (j = 0 ∨ ∃ c ∈ text[j - 1]?, isWordChar c = false ∧ c ≠ '\'')

instance (text : Text) (j : Nat) : Decidable (IsWordStart text j) :=
  inferInstanceAs (Decidable (_ ∧ _))

def raiseFrom (before? : Option Char) : Text → Text
  | [] => []
  | c :: rest =>
    (if before?.all isGap && isWordChar c then upperChar c else [c]) ++ raiseFrom (some c) rest

variable {before? : Option Char} {before text : Text} {c gap : Char} {position : Nat}

theorem not_isGap_of_isWordChar (h : isWordChar c = true) : isGap c = false := by
  rw [isGap, h, Bool.not_true, Bool.false_and]

theorem isGap_iff : isGap c = true ↔ isWordChar c = false ∧ c ≠ '\'' := by
  rw [isGap, Bool.and_eq_true, Bool.not_eq_true', decide_eq_true_eq]

theorem raiseFrom_kept (h : (before?.all isGap && isWordChar c) = false) (rest : Text) :
    raiseFrom before? (c :: rest) = c :: raiseFrom (some c) rest := by
  rw [raiseFrom, h]
  rfl

/-- Behind a character that is no gap the next one is kept, whether or not a match has used up what
stands before it. -/
theorem raiseBehindGaps_eq (h : isGap c = false) (text : Text) :
    raiseBehindGaps text = raiseFrom (some c) text := by
  have hkept {c : Char} (h : isGap c = false) (d : Char) (rest : Text) :
      raiseFrom (some c) (d :: rest) = d :: raiseFrom (some d) rest := by
    apply raiseFrom_kept
    rw [Option.all_some, h, Bool.false_and]
  induction text using raiseBehindGaps.induct generalizing c with
  | case1 gap d rest hraised ih =>
    have hletter : isWordChar d = true := ((Bool.and_eq_true _ _).mp hraised).2
    rw [raiseBehindGaps, if_pos hraised, ih (not_isGap_of_isWordChar hletter), hkept h, raiseFrom,
      Option.all_some, if_pos hraised]
    rfl
  | case2 gap d rest hkeep ih =>
    have hquote : isGap '\'' = false := by simp [isGap]
    rw [raiseBehindGaps, if_neg hkeep, ih hquote, hkept hquote, hkept h, raiseFrom_kept]
    rwa [Option.all_some, Bool.eq_false_iff]
  | case3 text hshort =>
    rw [raiseBehindGaps]
    · match text with
      | [] => rfl
      | [d] => exact (hkept h d []).symm
      | gap :: d :: rest => exact (hshort gap d rest rfl).elim
    · exact hshort

theorem titleCase_eq (text : Text) : titleCase text = raiseFrom none text := by
  cases text with
  | nil => rfl
  | cons c rest =>
    rw [titleCase]
    split
    · rename_i hletter
      rw [raiseBehindGaps_eq (not_isGap_of_isWordChar hletter), raiseFrom, hletter]
      rfl
    · rename_i hother
      have hquote : isGap '\'' = false := by simp [isGap]
      rw [raiseBehindGaps_eq hquote, raiseFrom_kept, raiseFrom_kept]
      · simp [hother]
      · rw [Option.all_some, hquote, Bool.false_and]

theorem isWordStart_iff (before : Text) (c : Char) (rest : Text) :
    IsWordStart (before ++ c :: rest) before.length ↔
      (before.getLast?.all isGap && isWordChar c) = true := by
  have hhere : (before ++ c :: rest)[before.length]? = some c := by
    rw [List.getElem?_append_right (Nat.le_refl _), Nat.sub_self, List.getElem?_cons_zero]
  have hletter : (∃ d ∈ (before ++ c :: rest)[before.length]?, isWordChar d = true) ↔
      isWordChar c = true := by
    rw [hhere]
    simp
  rw [IsWordStart, hletter, Bool.and_eq_true, and_comm]
  apply and_congr_left'
  rcases List.eq_nil_or_concat' before with rfl | ⟨front, d, rfl⟩
  · simp
  · have hlast : (front ++ [d] ++ c :: rest)[(front ++ [d]).length - 1]? = some d := by
      simp
    rw [hlast, List.getLast?_concat, Option.all_some, isGap_iff]
    simp

theorem raiseFrom_eq_flatten (before text : Text) :
    raiseFrom before.getLast? text =
      (text.mapIdx fun j c =>
        if IsWordStart (before ++ text) (before.length + j) then upperChar c else [c]).flatten := by
  induction text generalizing before with
  | nil => rfl
  | cons c rest ih =>
    have hrest := ih (before ++ [c])
    simp only [List.getLast?_concat, List.append_assoc, List.singleton_append, List.length_append,
      List.length_singleton, Nat.add_assoc, Nat.add_comm 1] at hrest
    rw [raiseFrom, hrest, List.mapIdx_cons, List.flatten_cons, Nat.add_zero]
    simp only [isWordStart_iff]

def letter : Pattern := .group 2 (.set {} false [.category .word false])

def wordStart : Pattern :=
  .seq (.group 1 (.alt (.anchor .textStart) (.set {} true [.category .word false, .code 39]))) letter

theorem compile_wordStart : Pattern.compile "(^|[^\\w'])(\\w)".toList = .ok wordStart := by
  decide +kernel

def raised (stop : Pattern.Cursor) : Text :=
  (stop.captured? 1).getD [] ++ ((stop.captured? 2).getD []).flatMap upperChar

theorem setHolds_word (c : Char) :
    Pattern.setHolds {} false [.category .word false] c = isWordChar c := by
  simp [Pattern.setHolds, Pattern.Item.holds, Pattern.Category.holds]

theorem setHolds_gap (c : Char) :
    Pattern.setHolds {} true [.category .word false, .code 39] c = isGap c := by
  have hquote : 39 = c.toNat ↔ c = '\'' := by
    rw [← Char.toNat_inj, eq_comm]
    rfl
  simp [Pattern.setHolds, Pattern.Item.holds, Pattern.Category.holds, Pattern.Mode.codes, isGap,
    hquote]

theorem run_letter (cursor : Pattern.Cursor) :
    letter.run cursor some =
      match cursor.after with
      | [] => none
      | c :: rest =>
        if isWordChar c then
          some { cursor.advance c rest with groups := (2, [c]) :: cursor.groups }
        else none := by
  simp only [letter, Pattern.run, setHolds_word]
  cases cursor.after with
  | nil => rfl
  | cons c rest => simp [Pattern.Cursor.capture, Pattern.Cursor.advance]

theorem run_wordStart (before text : Text) (position : Nat) :
    wordStart.run { before, after := text, position } some =
      ((if before = [] then
          letter.run { before, after := text, position, groups := [(1, [])] } some
        else none).or
      (match text with
        | [] => none
        | c :: rest =>
          if isGap c then
            letter.run { before := c :: before, after := rest, position := position + 1,
                         groups := [(1, [c])] } some
          else none)) := by
  rw [wordStart, Pattern.run, Pattern.run, Pattern.run_alt]
  congr 1
  · simp [Pattern.run, Pattern.Anchor.holds, Pattern.Cursor.capture]
  · simp only [Pattern.run, setHolds_gap]
    cases text with
    | nil => rfl
    | cons c rest => simp [Pattern.Cursor.capture, Pattern.Cursor.advance]

theorem raised_of_groups {stop : Pattern.Cursor} {lead : Text}
    (h : stop.groups = [(2, [c]), (1, lead)]) : raised stop = lead ++ upperChar c := by
  simp [raised, Pattern.Cursor.captured?, h]

theorem run_wordStart_first (hletter : isWordChar c = true) (rest : Text) (position : Nat) :
    wordStart.run { before := [], after := c :: rest, position } some =
      some { before := [c], after := rest, position := position + 1,
             groups := [(2, [c]), (1, [])] } := by
  rw [run_wordStart, if_pos rfl, run_letter]
  simp only [hletter, if_true, Option.some_or]
  rfl

theorem run_wordStart_inside (hinside : before = [] → isWordChar c = false) (rest : Text)
    (position : Nat) :
    wordStart.run { before, after := c :: rest, position } some =
      if isGap c then
        letter.run { before := c :: before, after := rest, position := position + 1,
                     groups := [(1, [c])] } some
      else none := by
  have hstart : (if before = [] then
      letter.run { before, after := c :: rest, position, groups := [(1, [])] } some
      else none) = none := by
    split
    · rename_i hempty
      simp only [run_letter, hinside hempty, Bool.false_eq_true, if_false]
    · rfl
  rw [run_wordStart, hstart, Option.none_or]

theorem run_wordStart_nil (before : Text) (position : Nat) :
    wordStart.run { before, after := [], position } some = none := by
  simp [run_wordStart, run_letter]

theorem run_wordStart_gap (hinside : before = [] → isWordChar gap = false)
    (hraised : (isGap gap && isWordChar c) = true) (rest : Text) (position : Nat) :
    wordStart.run { before, after := gap :: c :: rest, position } some =
      some { before := c :: gap :: before, after := rest, position := position + 2,
             groups := [(2, [c]), (1, [gap])] } := by
  obtain ⟨hgap, hletter⟩ := (Bool.and_eq_true _ _).mp hraised
  rw [run_wordStart_inside hinside, if_pos hgap, run_letter]
  simp only [hletter, if_true]
  rfl

theorem run_wordStart_none (hinside : before = [] → isWordChar gap = false)
    (hkept : ∀ c ∈ text.head?, (isGap gap && isWordChar c) = false) (position : Nat) :
    wordStart.run { before, after := gap :: text, position } some = none := by
  rw [run_wordStart_inside hinside, run_letter]
  split
  · rename_i hgap
    cases text with
    | nil => rfl
    | cons c rest =>
      have hletter : isWordChar c = false := by simpa [hgap] using hkept c rfl
      simp only [hletter, Bool.false_eq_true, if_false]
  · rfl

theorem replaces_raiseBehindGaps (text : Text) (position : Nat)
    (hinside : before = [] → ∀ c ∈ text.head?, isWordChar c = false) :
    wordStart.Replaces raised false { before, after := text, position } (raiseBehindGaps text) := by
  induction text using raiseBehindGaps.induct generalizing before position with
  | case1 gap c rest hraised ih =>
    have hrun := run_wordStart_gap (fun hempty => hinside hempty gap rfl) hraised rest position
    have hrest : wordStart.Replaces raised false
        { before := c :: gap :: before, after := rest, position := position + 2 }
        (raiseBehindGaps rest) := ih (position + 2) nofun
    have hmatch := Pattern.Replaces.found hrun (by simp) hrest
    rw [raised_of_groups rfl] at hmatch
    rw [raiseBehindGaps, if_pos hraised]
    exact hmatch
  | case2 gap c rest hkeep ih =>
    rw [raiseBehindGaps, if_neg hkeep]
    apply Pattern.Replaces.skip
    · apply run_wordStart_none
      · exact fun hempty => hinside hempty gap rfl
      · rintro d ⟨⟩
        exact Bool.eq_false_iff.2 hkeep
    · exact ih (position + 1) nofun
  | case3 text hshort =>
    rw [raiseBehindGaps]
    · match text with
      | [] => exact Pattern.Replaces.nil (run_wordStart_nil before position)
      | [c] =>
        apply Pattern.Replaces.skip
        · exact run_wordStart_none (fun hempty => hinside hempty c rfl) (by simp) position
        · exact Pattern.Replaces.nil (run_wordStart_nil (c :: before) (position + 1))
      | gap :: c :: rest => exact (hshort gap c rest rfl).elim
    · exact hshort

/-- A title in capitals is the title with the letters of the expression's matches in upper case. -/
theorem replaces_titleCase (text : Text) :
    wordStart.Replaces raised false (.ofText text) (titleCase text) := by
  cases text with
  | nil => exact Pattern.Replaces.nil (run_wordStart_nil [] 0)
  | cons c rest =>
    rw [titleCase]
    split
    · rename_i hletter
      have hrest : wordStart.Replaces raised false { before := [c], after := rest, position := 1 }
          (raiseBehindGaps rest) := replaces_raiseBehindGaps rest 1 nofun
      have hmatch := Pattern.Replaces.found (run_wordStart_first hletter rest 0) Nat.one_ne_zero hrest
      rw [raised_of_groups rfl] at hmatch
      exact hmatch
    · rename_i hother
      apply replaces_raiseBehindGaps
      rintro - d ⟨⟩
      exact Bool.eq_false_iff.2 hother

/-- Titles are put in capitals by replacing the matches of an expression, one behind the other. What
comes of it is decided at each place by itself: the first characters of words become their upper
case, which may be longer, and all others stay. -/
theorem titleCase_raises (text : Text) :
    (∃ p, Pattern.compile "(^|[^\\w'])(\\w)".toList = .ok p ∧
      p.Replaces raised false (.ofText text) (titleCase text)) ∧
    titleCase text =
      (text.mapIdx fun j c => if IsWordStart text j then upperChar c else [c]).flatten := by
  constructor
  · exact ⟨wordStart, compile_wordStart, replaces_titleCase text⟩
  · have hlocal := raiseFrom_eq_flatten [] text
    simp only [List.nil_append, List.length_nil, Nat.zero_add] at hlocal
    rw [titleCase_eq]
    exact hlocal

end Breadcrumb.Heading
