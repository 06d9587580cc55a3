import Breadcrumb.Document.Markdown
import Breadcrumb.Proofs.Heading.Indentation
import Breadcrumb.Proofs.Text.Cutting

namespace Breadcrumb

namespace Heading

variable {c : Char} {line : Text}

theorem replicate_leading_append (c : Char) (line : Text) :
    List.replicate (leading c line) c ++ line.dropWhile (· = c) = line := by
  have hrun : line.takeWhile (· = c) = List.replicate (leading c line) c := by
    rw [List.eq_replicate_iff]
    refine ⟨rfl, ?_⟩
    intro d hd
    simpa using List.mem_takeWhile_imp hd
  rw [← hrun, List.takeWhile_append_dropWhile]

theorem dropWhile_replicate_append (n : Nat) (line : Text) :
    (List.replicate n c ++ line).dropWhile (· = c) = line.dropWhile (· = c) := by
  apply List.dropWhile_append_of_pos
  intro d hd
  exact decide_eq_true (List.eq_of_mem_replicate hd)

end Heading

namespace Document.Markdown

/-- A line that closes a fence of tildes: at most three spaces, at least three tildes, then only
spaces and tabs. -/
def ClosesFence (text : Text) : Prop :=
  ∃ spaces tildes blanks, spaces ≤ 3 ∧ 3 ≤ tildes ∧ (∀ c ∈ blanks, c = ' ' ∨ c = '\t') ∧
    text = List.replicate spaces ' ' ++ (List.replicate tildes '~' ++ blanks)

/-- The same as a test of the line from left to right. -/
theorem closesFence_iff (text : Text) : ClosesFence text ↔
    Heading.leading ' ' text ≤ 3 ∧ 3 ≤ Heading.leading '~' (text.dropWhile (· = ' ')) ∧
      ((text.dropWhile (· = ' ')).dropWhile (· = '~')).all (fun c => c = ' ' ∨ c = '\t') = true := by
  simp only [List.all_eq_true, decide_eq_true_eq]
  constructor
  · rintro ⟨spaces, tildes, blanks, hspaces, htildes, hblanks, rfl⟩
    have hbehind (rest : Text) : List.replicate tildes '~' ++ rest =
        '~' :: (List.replicate (tildes - 1) '~' ++ rest) := by
      rw [← List.cons_append, ← List.replicate_succ, Nat.sub_add_cancel (by omega)]
    have hnone : Heading.leading ' ' (List.replicate tildes '~' ++ blanks) = 0 := by
      rw [hbehind]
      rfl
    have hsame : (List.replicate tildes '~' ++ blanks).dropWhile (· = ' ') =
        List.replicate tildes '~' ++ blanks := by
      rw [hbehind]
      rfl
    rw [Heading.leading_replicate, Heading.dropWhile_replicate_append, hnone, hsame,
      Heading.leading_replicate, Heading.dropWhile_replicate_append]
    refine ⟨hspaces, by omega, ?_⟩
    intro c hc
    exact hblanks c ((List.dropWhile_sublist _).subset hc)
  · rintro ⟨hspaces, htildes, hblanks⟩
    refine ⟨_, _, _, hspaces, htildes, hblanks, ?_⟩
    rw [Heading.replicate_leading_append, Heading.replicate_leading_append]

instance : DecidablePred ClosesFence := fun text => decidable_of_iff' _ (closesFence_iff text)

/-- What a fence encloses of the lines behind the one that opens it. -/
def enclosed (texts : List Text) : List Text := texts.takeWhile (¬ ClosesFence ·)

/-- The lines of a text, without what ends them. -/
def readLines (text : Text) : List Text := text.cutLines.map Text.trimLineEnd

variable {texts behind : List Text}

theorem readLines_lines (h : ∀ text ∈ texts, text.Unbroken) : readLines (lines texts) = texts :=
  Text.trimmed_cutLines_flatMap h

theorem enclosed_append (closing : Text) (hclosing : ClosesFence closing) (behind : List Text) :
    enclosed (texts ++ closing :: behind) = enclosed texts := by
  induction texts with
  | nil => exact List.takeWhile_cons_of_neg (by simpa using hclosing)
  | cons text texts ih =>
    by_cases htext : ClosesFence text
    · rw [List.cons_append, enclosed, enclosed, List.takeWhile_cons_of_neg (by simpa using htext),
        List.takeWhile_cons_of_neg (by simpa using htext)]
    · rw [List.cons_append, enclosed, enclosed, List.takeWhile_cons_of_pos (by simpa using htext),
        List.takeWhile_cons_of_pos (by simpa using htext)]
      exact congrArg _ ih

theorem enclosed_eq_self_iff : enclosed texts = texts ↔ ∀ text ∈ texts, ¬ ClosesFence text := by
  rw [enclosed, List.takeWhile_eq_self_iff]
  simp only [decide_eq_true_eq]

/-- The text behind the line that opens the fence of a crumb. -/
def fenced (crumb : Crumb) : Text :=
  lines (Heading.dedent crumb.peeked) ++ line "~~~".toList ++ line []

theorem readLines_fenced (crumb : Crumb) (h : ∀ text ∈ crumb.peeked, text.Unbroken) :
    readLines (fenced crumb) = Heading.dedent crumb.peeked ++ ["~~~".toList, []] := by
  have hwritten : fenced crumb = lines (Heading.dedent crumb.peeked ++ ["~~~".toList, []]) := by
    simp only [fenced, lines, List.flatMap_append, List.flatMap_cons, List.flatMap_nil,
      List.append_assoc, List.append_nil]
  rw [hwritten]
  apply readLines_lines
  intro text htext
  rcases List.mem_append.1 htext with hpeeked | hclosing
  · obtain ⟨other, hother, hsuffix⟩ := Heading.exists_suffix_of_mem_dedent hpeeked
    intro c hc
    exact h other hother c (hsuffix.subset hc)
  · have hends : ∀ text ∈ ["~~~".toList, []], Text.Unbroken text := by decide
    exact hends text hclosing

theorem fence_of_peeked (crumb : Crumb) (h : crumb.peeked ≠ []) :
    fence crumb = line ("~~~".toList ++ crumb.language.lower) ++ fenced crumb := by
  have hsome : ¬ crumb.peeked.isEmpty = true := by simpa using h
  rw [fence, if_neg hsome, fenced]
  simp only [List.append_assoc]

/-- The fence is what the block of a crumb has more than without the peeked lines. -/
theorem body_append_fence (frame : Frame) (crumb : Crumb) :
    body frame { crumb with peeked := [] } ++ fence crumb = body frame crumb := by
  have hwithout : fence { crumb with peeked := [] } = [] := rfl
  rw [body, body, hwithout, List.append_nil]
  rfl

/-- Behind the opening line, the fence of a crumb encloses its peeked lines, without the indentation
that they share, up to the first that closes the fence. All of them are enclosed, and the fence ends
at the line written for it, exactly if none of them closes it. -/
theorem body_encloses (frame : Frame) (crumb : Crumb) (hpeeked : crumb.peeked ≠ [])
    (hlines : ∀ text ∈ crumb.peeked, text.Unbroken) :
    ∃ behind,
      body frame crumb = body frame { crumb with peeked := [] } ++
        line ("~~~".toList ++ crumb.language.lower) ++ behind ∧
      readLines behind = Heading.dedent crumb.peeked ++ ["~~~".toList, []] ∧
      enclosed (readLines behind) = enclosed (Heading.dedent crumb.peeked) ∧
      (enclosed (readLines behind) = Heading.dedent crumb.peeked ↔
        ∀ text ∈ Heading.dedent crumb.peeked, ¬ ClosesFence text) := by
  have hread := readLines_fenced crumb hlines
  have hclosing : ClosesFence "~~~".toList := by decide
  have henclosed : enclosed (readLines (fenced crumb)) = enclosed (Heading.dedent crumb.peeked) := by
    rw [hread]
    exact enclosed_append _ hclosing _
  refine ⟨fenced crumb, ?_, hread, henclosed, ?_⟩
  · rw [← body_append_fence, fence_of_peeked crumb hpeeked, List.append_assoc]
  · rw [henclosed]
    exact enclosed_eq_self_iff

/-- Peeked lines that come close to closing the fence once four spaces are stripped: text stands
behind the tildes of the first, and a tab in front of those of the second. -/
def nearlyClosed : Crumb :=
  { path := "a.sh".toList, language := "Shell".toList
    peeked := ["    ~~~ sh".toList, "    \t~~~".toList, "     ~~".toList] }

theorem body_encloses_nearlyClosed :
    nearlyClosed.peeked ≠ [] ∧ (∀ text ∈ nearlyClosed.peeked, text.Unbroken) ∧
    ∃ behind,
      body { project := [] } nearlyClosed = body { project := [] } { nearlyClosed with peeked := [] } ++
        line "~~~shell".toList ++ behind ∧
      enclosed (readLines behind) = ["~~~ sh".toList, "\t~~~".toList, " ~~".toList] := by
  have hpeeked : nearlyClosed.peeked ≠ [] := by decide
  have hlines : ∀ text ∈ nearlyClosed.peeked, text.Unbroken := by decide
  obtain ⟨behind, hbody, -, -, hall⟩ := body_encloses { project := [] } nearlyClosed hpeeked hlines
  have hclear : ∀ text ∈ Heading.dedent nearlyClosed.peeked, ¬ ClosesFence text := by
    decide
  have hopening : "~~~".toList ++ nearlyClosed.language.lower = "~~~shell".toList := by
    decide
  rw [hopening] at hbody
  exact ⟨hpeeked, hlines, behind, hbody, (hall.2 hclear).trans (by decide)⟩

/-- Peeked lines of which the second closes the fence as soon as the shared tab is stripped. -/
def closedEarly : Crumb :=
  { path := "a.sh".toList, language := "Shell".toList
    peeked := ["\tcat <<END".toList, "\t~~~".toList, "\tEND".toList] }

/-- The fence does not enclose all peeked lines of every crumb. -/
theorem not_encloses_closedEarly :
    closedEarly.peeked ≠ [] ∧ (∀ text ∈ closedEarly.peeked, text.Unbroken) ∧
    ∃ behind,
      body { project := [] } closedEarly = body { project := [] } { closedEarly with peeked := [] } ++
        line "~~~shell".toList ++ behind ∧
      Heading.dedent closedEarly.peeked = ["cat <<END".toList, "~~~".toList, "END".toList] ∧
      enclosed (readLines behind) = ["cat <<END".toList] := by
  refine ⟨by decide, by decide, fenced closedEarly, ?_, by decide, by decide⟩
  decide

end Document.Markdown

end Breadcrumb
