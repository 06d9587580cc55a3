import Breadcrumb.Text.Lines

namespace Breadcrumb

namespace Text

def ahead (start : Text) : List Text → List Text
  | [] => if start.isEmpty then [] else [start]
  | line :: lines => (start ++ line) :: lines

/-- The text is free of line ends. -/
def Unbroken (text : Text) : Prop := ∀ c ∈ text, isLineEnd c = false

instance (text : Text) : Decidable (Unbroken text) :=
  decidable_of_iff (text.all (!isLineEnd ·) = true) <| by
    simp only [Unbroken, List.all_eq_true, Bool.not_eq_true']

/-- The text cut behind each line end. -/
def cutLines : Text → List Text
  | [] => []
  | '\r' :: '\n' :: rest => ['\r', '\n'] :: cutLines rest
  | c :: rest => if isLineEnd c then [c] :: cutLines rest else ahead [c] (cutLines rest)

@[simp] theorem ahead_cons (start line : Text) (lines : List Text) :
    ahead start (line :: lines) = (start ++ line) :: lines := rfl

@[simp] theorem ahead_nil (lines : List Text) : ahead [] lines = lines := by
  cases lines <;> rfl

theorem ahead_ahead (start next : Text) (lines : List Text) :
    ahead start (ahead next lines) = ahead (start ++ next) lines := by
  cases lines with
  | nil => cases start <;> cases next <;> simp [ahead]
  | cons line lines => simp only [ahead_cons, List.append_assoc]

theorem cutLines_feed (rest : Text) : cutLines ('\n' :: rest) = ['\n'] :: cutLines rest := by
  rw [cutLines]
  · rfl
  · simp

theorem cutLines_return (h : rest.head? ≠ some '\n') :
    cutLines ('\r' :: rest) = ['\r'] :: cutLines rest := by
  rw [cutLines]
  · rfl
  · rintro tail - rfl
    exact h rfl

theorem cutLines_cons (h : isLineEnd c = false) (rest : Text) :
    cutLines (c :: rest) = ahead [c] (cutLines rest) := by
  rw [cutLines]
  · rw [h]
    rfl
  · rintro tail rfl -
    cases h

theorem cutLines_of_forall (hne : text ≠ []) (h : ∀ c ∈ text, isLineEnd c = false) :
    cutLines text = [text] := by
  induction text with
  | nil => exact (hne rfl).elim
  | cons c text ih =>
    obtain ⟨hc, htext⟩ := List.forall_mem_cons.1 h
    rw [cutLines_cons hc]
    cases text with
    | nil => rfl
    | cons d text => rw [ih (List.cons_ne_nil _ _) htext, ahead_cons, List.singleton_append]

theorem trimLineEnd_of_forall (h : ∀ c ∈ text, isLineEnd c = false) : trimLineEnd text = text := by
  rw [trimLineEnd]
  cases hreverse : text.reverse with
  | nil => exact (List.reverse_eq_nil_iff.1 hreverse).symm
  | cons c rest =>
    have hc : isLineEnd c = false := h c (List.mem_reverse.1 (hreverse ▸ List.mem_cons_self))
    rw [List.dropWhile_cons_of_neg (by simp [hc]), ← hreverse, List.reverse_reverse]

theorem trimLineEnd_append (htext : Unbroken text) (hending : ∀ c ∈ ending, isLineEnd c = true) :
    trimLineEnd (text ++ ending) = text := by
  have hreverse : ∀ c ∈ ending.reverse, isLineEnd c = true := by simpa using hending
  rw [trimLineEnd, List.reverse_append, List.dropWhile_append_of_pos hreverse]
  exact trimLineEnd_of_forall htext

theorem cutLines_append (h : Unbroken text) (rest : Text) :
    cutLines (text ++ '\n' :: rest) = (text ++ ['\n']) :: cutLines rest := by
  induction text with
  | nil => exact cutLines_feed rest
  | cons c text ih =>
    obtain ⟨hc, htext⟩ := List.forall_mem_cons.1 h
    rw [List.cons_append, cutLines_cons hc, ih htext, ahead_cons]
    rfl

/-- Lines that are written one below the other are read again. -/
theorem trimmed_cutLines_flatMap (h : ∀ text ∈ texts, Unbroken text) :
    (cutLines (texts.flatMap (· ++ ['\n']))).map trimLineEnd = texts := by
  induction texts with
  | nil => rfl
  | cons text texts ih =>
    obtain ⟨htext, htexts⟩ := List.forall_mem_cons.1 h
    rw [List.flatMap_cons, List.append_assoc, List.singleton_append, cutLines_append htext,
      List.map_cons, trimLineEnd_append htext (by simp [isLineEnd]), ih htexts]

/-- A line is a text without line ends and then nothing but line ends. -/
theorem exists_of_mem_cutLines (h : line ∈ cutLines text) :
    ∃ body ending, Unbroken body ∧ (∀ c ∈ ending, isLineEnd c = true) ∧ line = body ++ ending := by
  induction text using cutLines.induct generalizing line with
  | case1 => exact absurd h List.not_mem_nil
  | case2 rest ih =>
    rw [cutLines] at h
    rcases List.mem_cons.1 h with rfl | h
    · exact ⟨[], _, by decide, by simp [isLineEnd], rfl⟩
    · exact ih h
  | case3 c rest hreturn hc ih =>
    rw [cutLines, if_pos hc] at h
    · rcases List.mem_cons.1 h with rfl | h
      · exact ⟨[], [c], by decide, by simpa using hc, rfl⟩
      · exact ih h
    · exact hreturn
  | case4 c rest hreturn hc ih =>
    rw [cutLines_cons (Bool.eq_false_iff.2 hc)] at h
    cases hrest : cutLines rest with
    | nil =>
      rw [hrest] at h
      obtain rfl := List.mem_singleton.1 h
      exact ⟨[c], [], by simpa [Unbroken] using hc, by simp, rfl⟩
    | cons first lines =>
      rw [hrest, ahead_cons] at h
      rw [hrest] at ih
      rcases List.mem_cons.1 h with rfl | h
      · obtain ⟨body, ending, hbody, hending, rfl⟩ := ih List.mem_cons_self
        refine ⟨c :: body, ending, ?_, hending, rfl⟩
        exact List.forall_mem_cons.2 ⟨Bool.eq_false_iff.2 hc, hbody⟩
      · exact ih (List.mem_cons_of_mem _ h)

/-- A line without its end has no line end left. -/
theorem unbroken_trimLineEnd (h : line ∈ cutLines text) : Unbroken line.trimLineEnd := by
  obtain ⟨body, ending, hbody, hending, rfl⟩ := exists_of_mem_cutLines h
  rwa [trimLineEnd_append hbody hending]

end Text

namespace LineBuffer

theorem lines_close (done : List Text) (current : Text) (afterReturn : Bool) :
    (close { done, current, afterReturn }).lines = done.reverse ++ [current.reverse] := by
  rw [close, lines, List.reverse_cons]

/-- What a buffer comes to: the lines it has, and those of the text behind the line being read. A
carriage return that was read last belongs to the text, as its line is not yet cut. -/
theorem finish_feed (text : Text) :
    (∀ done current, (feed { done, current } text).finish =
      done.reverse ++ Text.ahead current.reverse text.cutLines) ∧
    ∀ done current, (feed { done, current := '\r' :: current, afterReturn := true } text).finish =
      done.reverse ++ Text.ahead current.reverse (Text.cutLines ('\r' :: text)) := by
  induction text with
  | nil =>
    refine ⟨fun done current => ?_, fun done current => ?_⟩
    · cases current with
      | nil => simp [feed, finish, lines, Text.cutLines, Text.ahead]
      | cons c current =>
        simp [feed, finish, lines_close, Text.cutLines, Text.ahead]
    · rw [Text.cutLines_return (by simp)]
      simp [feed, finish, lines_close, Text.cutLines]
  | cons c rest ih =>
    obtain ⟨fresh, returned⟩ := ih
    have hfresh (done : List Text) (current : Text) :
        (feed { done, current } (c :: rest)).finish =
          done.reverse ++ Text.ahead current.reverse (Text.cutLines (c :: rest)) := by
      change (feed (pushFresh { done, current } c) rest).finish = _
      by_cases hfeed : c = '\n'
      · subst hfeed
        rw [pushFresh, if_pos rfl, close, fresh, Text.cutLines_feed]
        simp
      · rw [pushFresh, if_neg hfeed]
        by_cases hreturn : c = '\r'
        · subst hreturn
          exact returned done current
        · have hend : Text.isLineEnd c = false := by simp [Text.isLineEnd, hfeed, hreturn]
          rw [decide_eq_false hreturn, fresh, Text.cutLines_cons hend, Text.ahead_ahead,
            List.reverse_cons]
    refine ⟨hfresh, fun done current => ?_⟩
    by_cases hfeed : c = '\n'
    · subst hfeed
      change (feed (pushFresh { done, current := '\r' :: current } '\n') rest).finish = _
      rw [pushFresh, if_pos rfl, close, fresh, Text.cutLines]
      simp
    · have hcut : push { done, current := '\r' :: current, afterReturn := true } c =
          push { done := ('\r' :: current).reverse :: done } c := by
        simp [push, hfeed, close]
      change (feed (push _ c) rest).finish = _
      rw [hcut]
      change (feed _ (c :: rest)).finish = _
      rw [hfresh, Text.cutLines_return (by simpa using hfeed)]
      simp

end LineBuffer

theorem Text.rawLines_eq_cutLines (text : Text) : text.rawLines = text.cutLines := by
  have hfinish := (LineBuffer.finish_feed text).1 [] []
  rw [rawLines, hfinish, List.reverse_nil, List.reverse_nil, List.nil_append, ahead_nil]

end Breadcrumb
