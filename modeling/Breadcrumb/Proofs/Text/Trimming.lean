import Breadcrumb.Text.Blank

namespace Breadcrumb.Text

/-- No blank stands at either end. -/
def IsTrimmed (text : Text) : Prop :=
  (∀ c ∈ text.head?, isBlank c = false) ∧ ∀ c ∈ text.getLast?, isBlank c = false

instance (text : Text) : Decidable (IsTrimmed text) :=
  decidable_of_iff (text.head?.all (!isBlank ·) = true ∧ text.getLast?.all (!isBlank ·) = true) <| by
    simp only [IsTrimmed, Option.all_eq_true, Bool.not_eq_true', Option.mem_def]

/-- `field` is `text` with any blanks on either side. -/
def Pads (text field : Text) : Prop :=
  ∃ before after, (∀ c ∈ before, isBlank c = true) ∧ (∀ c ∈ after, isBlank c = true) ∧
    field = before ++ text ++ after

theorem pads_of_all (before after : Text) (hbefore : before.all isBlank = true)
    (hafter : after.all isBlank = true) (h : field = before ++ text ++ after) : Pads text field :=
  ⟨before, after, List.all_eq_true.1 hbefore, List.all_eq_true.1 hafter, h⟩

theorem isTrimmed_of_forall (h : ∀ c ∈ text, isBlank c = false) : IsTrimmed text :=
  ⟨fun c hc => h c (List.mem_of_mem_head? hc), fun c hc => h c (List.mem_of_getLast? hc)⟩

theorem trimStart_of_head (h : ∀ c ∈ text.head?, isBlank c = false) : trimStart text = text := by
  cases text with
  | nil => rfl
  | cons c text => exact List.dropWhile_cons_of_neg (by simp [h c rfl])

theorem trim_of_head (h : ∀ c ∈ text.head?, isBlank c = false) : trim text = trimEnd text :=
  congrArg trimEnd (trimStart_of_head h)

theorem trimStart_append (h : ∀ c ∈ before, isBlank c = true) (text : Text) :
    trimStart (before ++ text) = trimStart text := List.dropWhile_append_of_pos h

/-- The blanks around a trimmed text are what is removed. -/
theorem IsTrimmed.trim_of_pads (h : IsTrimmed text) (hpads : Pads text field) :
    trim field = text := by
  obtain ⟨before, after, hbefore, hafter, rfl⟩ := hpads
  rw [trim, List.append_assoc, trimStart_append hbefore]
  cases text with
  | nil =>
    have hnone := trimStart_append hafter []
    rw [List.append_nil] at hnone
    rw [List.nil_append, hnone]
    rfl
  | cons c text =>
    have hfirst : ∀ d ∈ (c :: text ++ after).head?, isBlank d = false := h.1
    have hlast : ∀ d ∈ (c :: text).reverse.head?, isBlank d = false := by
      rw [List.head?_reverse]
      exact h.2
    rw [trimStart_of_head hfirst, trimEnd, List.reverse_append,
      trimStart_append (by simpa using hafter), trimStart_of_head hlast, List.reverse_reverse]

theorem pads_self (text : Text) : Pads text text := ⟨[], [], by simp, by simp, by simp⟩

theorem trim_of_forall (h : ∀ c ∈ text, isBlank c = false) : trim text = text :=
  (isTrimmed_of_forall h).trim_of_pads (pads_self text)

theorem head_trimStart (text : Text) : ∀ c ∈ (trimStart text).head?, isBlank c = false := by
  intro c hc
  have hnot := List.head?_dropWhile_not isBlank text
  rw [trimStart, Option.mem_def] at hc
  rwa [hc] at hnot

theorem trimStart_subset (text : Text) : trimStart text ⊆ text :=
  (List.dropWhile_sublist isBlank).subset

theorem trim_subset (text : Text) : trim text ⊆ text := by
  intro c hc
  rw [trim, trimEnd, List.mem_reverse] at hc
  exact trimStart_subset text (List.mem_reverse.1 (trimStart_subset _ hc))

theorem isTrimmed_trim (text : Text) : IsTrimmed (trim text) := by
  constructor
  · obtain ⟨rest, hrest⟩ : trim text <+: trimStart text := by
      have hsuffix :=
        List.reverse_prefix.2 (List.dropWhile_suffix isBlank (l := (trimStart text).reverse))
      rwa [List.reverse_reverse] at hsuffix
    intro c hc
    refine head_trimStart text c ?_
    rw [← hrest]
    cases htrim : trim text with
    | nil => rw [htrim] at hc; exact absurd hc nofun
    | cons => rwa [htrim] at hc
  · rw [trim, trimEnd, List.getLast?_reverse]
    exact head_trimStart _

theorem trim_cons (h : isBlank c = false) (text : Text) : trim (c :: text) = c :: trimEnd text := by
  have hhead : ∀ d ∈ (c :: text).head?, isBlank d = false := by
    rintro d ⟨⟩
    exact h
  have hlast : trimStart [c] = [c] := List.dropWhile_cons_of_neg (by simp [h])
  rw [trim_of_head hhead, trimEnd, List.reverse_cons, trimStart, List.dropWhile_append, ← trimStart,
    ← trimStart, hlast, trimEnd]
  cases hrest : trimStart text.reverse with
  | nil => rfl
  | cons d rest => simp

/-- What trimming removes are the blanks around what it leaves. -/
theorem pads_trim (text : Text) : Pads (trim text) text := by
  have hblank (line : Text) : ∀ c ∈ line.takeWhile isBlank, isBlank c = true :=
    List.all_eq_true.1 List.all_takeWhile
  have hsplit (line : Text) : line.takeWhile isBlank ++ trimStart line = line :=
    List.takeWhile_append_dropWhile
  refine ⟨text.takeWhile isBlank, ((trimStart text).reverse.takeWhile isBlank).reverse, ?_, ?_, ?_⟩
  · exact hblank text
  · exact fun c hc => hblank _ c (List.mem_reverse.1 hc)
  · rw [List.append_assoc, trim, trimEnd, ← List.reverse_append, hsplit, List.reverse_reverse,
      hsplit]

theorem Pads.trans {inner : Text} (h : Pads inner text) (hfield : Pads text field) :
    Pads inner field := by
  obtain ⟨before, after, hbefore, hafter, rfl⟩ := h
  obtain ⟨before', after', hbefore', hafter', rfl⟩ := hfield
  refine ⟨before' ++ before, after ++ after', ?_, ?_, by simp only [List.append_assoc]⟩
  · exact List.forall_mem_append.2 ⟨hbefore', hbefore⟩
  · exact List.forall_mem_append.2 ⟨hafter, hafter'⟩

/-- Blanks around a text make no difference once it is trimmed. -/
theorem Pads.trim_eq (h : Pads text field) : trim field = trim text :=
  (isTrimmed_trim text).trim_of_pads ((pads_trim text).trans h)

theorem Pads.notMem (h : Pads text field) (hc : isBlank c = false) (hmem : c ∉ text) :
    c ∉ field := by
  obtain ⟨before, after, hbefore, hafter, rfl⟩ := h
  simp only [List.mem_append, not_or]
  refine ⟨⟨fun hin => ?_, hmem⟩, fun hin => ?_⟩
  · exact Bool.false_ne_true (hc.symm.trans (hbefore c hin))
  · exact Bool.false_ne_true (hc.symm.trans (hafter c hin))

end Breadcrumb.Text
