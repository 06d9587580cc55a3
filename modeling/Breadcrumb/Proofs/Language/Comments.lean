import Breadcrumb.Language
import Breadcrumb.Proofs.Pattern.Finding
import Breadcrumb.Proofs.Text.Compare
import Breadcrumb.Proofs.Text.Spelling
import Breadcrumb.Proofs.Text.Trimming

namespace Breadcrumb

namespace Pattern

theorem findFrom_textStart (p : Pattern) (mustMove : Bool) (c : Char) (before : Text)
    (position : Nat) (text : Text) :
    (seq (.anchor .textStart) p).findFrom mustMove (c :: before) position text = none := by
  induction text generalizing mustMove c before position with
  | nil => rfl
  | cons d text ih => exact ih false d (c :: before) (position + 1)

theorem eraseFrom_textStart (p : Pattern) (fuel : Nat) (mustMove : Bool) {cursor : Cursor}
    (h : cursor.before = c :: before) :
    (seq (.anchor .textStart) p).eraseFrom fuel mustMove cursor = cursor.after := by
  cases fuel with
  | zero => rfl
  | succ fuel => rw [eraseFrom, h, findFrom_textStart]

/-- A pattern that is held to the start of the text is found there or nowhere. -/
theorem find?_textStart (p : Pattern) (text : Text) :
    (seq (.anchor .textStart) p).find? text =
      (p.run (.ofText text) some).map (Cursor.ofText text, ·) := by
  have hstart : (seq (.anchor .textStart) p).run (.ofText text) some = p.run (.ofText text) some := rfl
  rw [← hstart, find?]
  cases hrun : (seq (.anchor .textStart) p).run (.ofText text) some with
  | some stop => exact findFrom_of_run hrun
  | none =>
    cases text with
    | nil => exact findFrom_nil_of_none hrun
    | cons c text =>
      rw [findFrom_cons_of_none hrun]
      exact findFrom_textStart p false c [] 1 text

theorem erase_textStart {p : Pattern} {stop : Cursor}
    (h : (seq (.anchor .textStart) p).find? text = some (.ofText text, stop))
    (hbefore : stop.before = c :: before) :
    (seq (.anchor .textStart) p).erase text = stop.after := by
  have hfound : (seq (.anchor .textStart) p).findFrom false [] 0 text =
      some (.ofText text, stop) := h
  rw [erase, eraseFrom]
  simp only [Cursor.ofText, hfound]
  exact eraseFrom_textStart p _ _ hbefore

def literals (text : Text) : Pattern := .sequence (text.map fun c => .literal {} c.toNat)

theorem setHolds_literal (c d : Char) : setHolds {} false [.code c.toNat] d = decide (c = d) := by
  rw [Bool.eq_iff_iff, decide_eq_true_eq, ← Char.toNat_inj]
  simp only [setHolds, List.any_cons, List.any_nil, Item.holds, Mode.codes, Bool.not_false, if_true,
    Bool.or_false, Bool.bne_false, List.contains_cons, List.contains_nil, beq_iff_eq]

theorem run_literals (token : Text) (cursor : Cursor) (k : Continuation) :
    (literals token).run cursor k =
      match Text.after? token cursor.after with
      | some rest => k (cursor.pass token rest)
      | none => none := by
  induction token generalizing cursor with
  | nil => rfl
  | cons c token ih =>
    rw [literals, List.map_cons, run_sequence_cons, ← literals, literal, run]
    cases hafter : cursor.after with
    | nil => rfl
    | cons d rest =>
      simp only [setHolds_literal, decide_eq_true_eq, ih, Text.after?]
      by_cases hc : c = d
      · subst hc
        simp only [if_true, Cursor.pass_advance]
        rfl
      · rw [if_neg hc, if_neg hc]

end Pattern

namespace Language

open Text

variable {token line text rest tail : Text} {d : Char}

def gap : Pattern := .set {} false [.category .space false]

/-- The pattern of comments behind a token, past the start of the line. -/
def opening (token : Text) : Pattern :=
  .sequence (.times .greedy 0 none gap :: token.map (fun c => .literal {} c.toNat) ++
    [.optional gap])

theorem run_opening (hd : isBlank d = false) (cursor : Pattern.Cursor) :
    (opening (d :: tail)).run cursor some =
      match after? (d :: tail) (trimStart cursor.after) with
      | some rest =>
        (Pattern.optional gap).run ((cursor.pass (cursor.after.takeWhile isBlank)
          (trimStart cursor.after)).pass (d :: tail) rest) some
      | none => none := by
  have hblank : Pattern.setHolds {} false [.category .space false] = isBlank :=
    funext (Pattern.setHolds_blank rfl)
  have hrest (next : Pattern.Cursor) :
      (Pattern.sequence ((d :: tail).map (fun c => .literal {} c.toNat) ++ [.optional gap])).run next
        some =
      match after? (d :: tail) next.after with
      | some rest => (Pattern.optional gap).run (next.pass (d :: tail) rest) some
      | none => none := by
    rw [Pattern.run_sequence_append]
    exact Pattern.run_literals (d :: tail) next _
  rw [opening, List.cons_append, Pattern.run_sequence_cons, gap, Pattern.run_times_set, hblank, ← gap,
    hrest]
  · rfl
  · intro next c rest hafter hc
    have hne : d ≠ c := by
      rintro rfl
      rw [hblank, hd] at hc
      exact Bool.false_ne_true hc
    rw [← gap, hrest, hafter, after?, if_neg hne]

theorem run_opening_of_some (hd : isBlank d = false) (cursor : Pattern.Cursor)
    (h : after? (d :: tail) (trimStart cursor.after) = some rest) :
    ∃ stop, (opening (d :: tail)).run cursor some = some stop ∧ stop.after = dropBlank rest ∧
      stop.before ≠ [] := by
  have hmoved (before : Text) : (d :: tail).reverse ++ before ≠ [] := by simp
  have hunicode : ({} : Pattern.Mode).ascii = false := rfl
  rw [run_opening hd, h]
  simp only [gap, Pattern.run_optional_blank hunicode]
  cases rest with
  | nil => exact ⟨_, rfl, rfl, hmoved _⟩
  | cons c rest =>
    simp only [Pattern.Cursor.pass, dropBlank]
    split
    · exact ⟨_, rfl, rfl, nofun⟩
    · exact ⟨_, rfl, rfl, hmoved _⟩

theorem comment?_of_opening {language : Language}
    (hcomments : language.comments = [.seq (.anchor .textStart) (opening (d :: tail))])
    (hd : isBlank d = false) (line : Text) :
    language.comment? line = (after? (d :: tail) (trimStart line)).map dropBlank := by
  have hfind := Pattern.find?_textStart (opening (d :: tail)) line
  rw [comment?, hcomments, List.find?_singleton, Pattern.isIn]
  cases hafter : after? (d :: tail) (trimStart line) with
  | none =>
    have hrun : (opening (d :: tail)).run (.ofText line) some = _ := run_opening hd _
    rw [Pattern.Cursor.ofText, hafter] at hrun
    rw [hfind, Pattern.Cursor.ofText, hrun]
    rfl
  | some rest =>
    obtain ⟨stop, hrun, hstop, hmoved⟩ := run_opening_of_some hd (.ofText line) hafter
    obtain ⟨c, before, hbefore⟩ := List.exists_cons_of_ne_nil hmoved
    rw [hrun, Option.map_some] at hfind
    rw [hfind]
    exact congrArg some ((Pattern.erase_textStart hfind hbefore).trans hstop)

theorem comments_lineComments (name : String) (extensions : List String) {token : String}
    (h : token = "//" ∨ token = "#") : (lineComments name extensions token).comments =
      [.seq (.anchor .textStart) (opening token.toList)] := by
  rcases h with rfl | rfl
  · simp only [lineComments]
    decide
  · simp only [lineComments]
    decide

theorem comment?_slashes (name : String) (extensions : List String) (text : Text) :
    (lineComments name extensions "//").comment? ("// ".toList ++ text) = some text :=
  have hcomments : (lineComments name extensions "//").comments =
      [.seq (.anchor .textStart) (opening ('/' :: ['/']))] :=
    comments_lineComments name extensions (.inl rfl)
  comment?_of_opening hcomments rfl _

/-- The line has nothing but blanks before its first token, and `text` is what stands behind it,
without the blank that this may begin with. -/
def IsComment (token line text : Text) : Prop :=
  ∃ indent rest, (∀ c ∈ indent, isBlank c = true) ∧ line = indent ++ token ++ rest ∧
    text = dropBlank rest

theorem after?_trimStart_eq_some_iff (hd : isBlank d = false) :
    after? (d :: tail) (trimStart line) = some rest ↔
      ∃ indent, (∀ c ∈ indent, isBlank c = true) ∧ line = indent ++ d :: tail ++ rest := by
  rw [after?_eq_some]
  constructor
  · intro h
    refine ⟨line.takeWhile isBlank, List.all_eq_true.1 List.all_takeWhile, ?_⟩
    rw [List.append_assoc, ← h, trimStart, List.takeWhile_append_dropWhile]
  · rintro ⟨indent, hindent, rfl⟩
    rw [List.append_assoc, trimStart_append hindent]
    apply trimStart_of_head
    rintro c ⟨⟩
    exact hd

theorem comment?_eq_some_iff (name : String) (extensions : List String) {token : String}
    (htoken : token = "//" ∨ token = "#") (line text : Text) :
    (lineComments name extensions token).comment? line = some text ↔
      IsComment token.toList line text := by
  obtain ⟨d, tail, hcons, hd⟩ : ∃ d tail, token.toList = d :: tail ∧ isBlank d = false := by
    rcases htoken with rfl | rfl
    · exact ⟨'/', ['/'], rfl, rfl⟩
    · exact ⟨'#', [], rfl, rfl⟩
  have hcomments := comments_lineComments name extensions htoken
  rw [hcons] at hcomments ⊢
  rw [comment?_of_opening hcomments hd, Option.map_eq_some_iff]
  simp only [after?_trimStart_eq_some_iff hd]
  constructor
  · rintro ⟨rest, ⟨indent, hindent, hline⟩, rfl⟩
    exact ⟨indent, rest, hindent, hline, rfl⟩
  · rintro ⟨indent, rest, hindent, hline, rfl⟩
    exact ⟨rest, ⟨indent, hindent, hline⟩, rfl⟩

theorem exists_of_mem_builtin : ∀ language ∈ builtin, ∃ name extensions token,
    (token = "//" ∨ token = "#") ∧ language = lineComments name extensions token := by
  have hmember (name : String) (extensions : List String) {token : String}
      (h : token = "//" ∨ token = "#") : ∃ name' extensions' token',
      (token' = "//" ∨ token' = "#") ∧
        lineComments name extensions token = lineComments name' extensions' token' :=
    ⟨name, extensions, token, h, rfl⟩
  have hslashes : "//" = "//" ∨ "//" = "#" := .inl rfl
  have hhash : "#" = "//" ∨ "#" = "#" := .inr rfl
  simp only [builtin, List.forall_mem_cons, List.not_mem_nil, false_implies, implies_true, and_true]
  exact ⟨hmember _ _ hslashes, hmember _ _ hslashes, hmember _ _ hslashes, hmember _ _ hslashes,
    hmember _ _ hhash, hmember _ _ hslashes, hmember _ _ hslashes, hmember _ _ hslashes,
    hmember _ _ hslashes, hmember _ _ hslashes, hmember _ _ hslashes, hmember _ _ hslashes,
    hmember _ _ hhash, hmember _ _ hhash⟩

/-- Each language that is known from the start has one of two tokens. It takes exactly those lines
for comments where nothing but blanks stands before the token, and it leaves what stands behind the
token, without the blank that this may begin with. -/
theorem builtin_comment? (language : Language) (h : language ∈ builtin) :
    ∃ name extensions token, language = lineComments name extensions token ∧
      (token = "//" ∨ token = "#") ∧ ∀ line,
        (∀ text, language.comment? line = some text ↔ IsComment token.toList line text) ∧
        (language.comment? line = none ↔ ∀ text, ¬IsComment token.toList line text) := by
  obtain ⟨name, extensions, token, htoken, rfl⟩ := exists_of_mem_builtin language h
  refine ⟨name, extensions, token, rfl, htoken, fun line => ⟨?_, ?_⟩⟩
  · exact comment?_eq_some_iff name extensions htoken line
  · simp only [Option.eq_none_iff_forall_ne_some, Ne, comment?_eq_some_iff name extensions htoken]

theorem builtin_comment?_ruby :
    lineComments "Ruby" [".rb"] "#" ∈ builtin ∧
    (lineComments "Ruby" [".rb"] "#").comment? "\u3000\t#\n # a#".toList = some " # a#".toList ∧
    (lineComments "Ruby" [".rb"] "#").comment? "a # b".toList = none := by
  have hbuiltin : lineComments "Ruby" [".rb"] "#" ∈ builtin := by
    simp only [builtin, List.mem_cons, true_or, or_true]
  obtain ⟨name, extensions, token, hlanguage, htoken, hcomment⟩ := builtin_comment? _ hbuiltin
  have hexpressions := congrArg Language.expressions hlanguage
  rcases htoken with rfl | rfl
  · simp [lineComments] at hexpressions
  · refine ⟨hbuiltin, ((hcomment _).1 _).2 ?_, (hcomment _).2.2 ?_⟩
    · exact ⟨"\u3000\t".toList, "\n # a#".toList, List.all_eq_true.1 (by decide), rfl, rfl⟩
    · rintro text ⟨indent, rest, hindent, hline, -⟩
      cases indent with
      | nil => cases hline
      | cons c indent =>
        obtain rfl : 'a' = c := (List.cons.inj hline).1
        exact absurd (hindent 'a' List.mem_cons_self) (by decide)

end Language

end Breadcrumb
