import Breadcrumb.Heading
import Mathlib.Data.List.TakeWhile

namespace Breadcrumb.Heading

def leading (c : Char) (line : Text) : Nat := (line.takeWhile (· = c)).length

/-- One pass: the lines without their first characters, if there are lines and `c` begins each. -/
def pass? (c : Char) (lines : List Text) : Option (List Text) :=
  if !lines.isEmpty && lines.all (startsWithChar c) then some (lines.map (·.drop 1)) else none

/-- The passes over the lines end after `n` of them, as the next would find nothing to take. -/
inductive Stripped (c : Char) : (n : Nat) → (lines result : List Text) → Prop
  | done : pass? c lines = none → Stripped c 0 lines lines
  | more : pass? c lines = some next → Stripped c n next result → Stripped c (n + 1) lines result

variable {c : Char} {line : Text} {lines next result : List Text} {n : Nat}

theorem startsWithChar_cons (c d : Char) (rest : Text) :
    startsWithChar c (d :: rest) = decide (d = c) := by
  simp [startsWithChar]

theorem cons_drop_of_startsWithChar (h : startsWithChar c line = true) :
    c :: line.drop 1 = line := by
  cases line with
  | nil => cases h
  | cons d rest =>
    rw [startsWithChar_cons, decide_eq_true_eq] at h
    rw [h, List.drop_one, List.tail_cons]

theorem leading_of_not_startsWithChar (h : startsWithChar c line = false) : leading c line = 0 := by
  cases line with
  | nil => rfl
  | cons d rest =>
    rw [startsWithChar_cons] at h
    rw [leading, List.takeWhile_cons_of_neg (by simp [h]), List.length_nil]

theorem leading_replicate (n : Nat) (line : Text) :
    leading c (List.replicate n c ++ line) = n + leading c line := by
  have hrun : ∀ d ∈ List.replicate n c, decide (d = c) = true := by
    intro d hd
    exact decide_eq_true (List.eq_of_mem_replicate hd)
  rw [leading, List.takeWhile_append_of_pos hrun, List.length_append, List.length_replicate, leading]

theorem pass?_eq_none (hne : lines ≠ []) (h : pass? c lines = none) :
    ∃ line ∈ lines, leading c line = 0 := by
  have hnot : ¬ lines.all (startsWithChar c) = true := by
    intro hall
    rw [pass?, if_pos (by simp [hne, hall])] at h
    cases h
  rw [List.all_eq_true, Classical.not_forall] at hnot
  obtain ⟨line, hline⟩ := hnot
  obtain ⟨hmem, hstart⟩ := Classical.not_imp.1 hline
  exact ⟨line, hmem, leading_of_not_startsWithChar (Bool.eq_false_iff.2 hstart)⟩

theorem pass?_eq_some (h : pass? c lines = some next) : lines = next.map (c :: ·) := by
  rw [pass?] at h
  split at h
  · rename_i hpass
    have hall := List.all_eq_true.1 ((Bool.and_eq_true _ _).mp hpass).2
    obtain rfl := Option.some.inj h
    rw [List.map_map]
    have hsame : ∀ line ∈ lines, c :: line.drop 1 = line := fun line hline =>
      cons_drop_of_startsWithChar (hall line hline)
    exact ((List.map_congr_left hsame).trans (List.map_id' _)).symm
  · cases h

theorem Stripped.exists_leading (h : Stripped c n lines result) (hne : lines ≠ []) :
    ∃ line ∈ result, leading c line = 0 := by
  induction h with
  | done hpass => exact pass?_eq_none hne hpass
  | more hpass _ ih =>
    apply ih
    intro hnil
    rw [pass?_eq_some hpass, hnil] at hne
    exact hne rfl

theorem Stripped.eq_map (h : Stripped c n lines result) :
    lines = result.map (List.replicate n c ++ ·) := by
  induction h with
  | done => exact (List.map_id _).symm
  | more hpass _ ih =>
    rw [pass?_eq_some hpass, ih, List.map_map]
    rfl

theorem Stripped.min?_leading (h : Stripped c n lines result) (hne : lines ≠ []) :
    (lines.map (leading c)).min? = some n := by
  obtain ⟨line, hline, hzero⟩ := h.exists_leading hne
  have hleading : lines.map (leading c) = result.map (n + leading c ·) := by
    conv => lhs; rw [h.eq_map, List.map_map]
    apply List.map_congr_left
    intro line _
    exact leading_replicate n line
  rw [hleading, List.min?_eq_some_iff]
  constructor
  · exact List.mem_map.2 ⟨line, hline, by rw [hzero, Nat.add_zero]⟩
  · intro m hm
    obtain ⟨other, -, rfl⟩ := List.mem_map.1 hm
    exact Nat.le_add_right n _

theorem Stripped.map_drop (h : Stripped c n lines result) : lines.map (·.drop n) = result := by
  conv => lhs; rw [h.eq_map, List.map_map]
  apply List.map_id''
  intro line
  exact List.drop_left' List.length_replicate

/-- The passes over lines come to an end, at the latest when the first line is used up. -/
theorem stripped_dedentBy (c : Char) (first : Text) (others : List Text) :
    ∃ n, Stripped c n (first :: others) (dedentBy c first others) := by
  induction first generalizing others with
  | nil => exact ⟨0, .done rfl⟩
  | cons d first ih =>
    rw [dedentBy]
    split
    · rename_i hall
      obtain ⟨n, h⟩ := ih (others.map (·.drop 1))
      have hpass : pass? c ((d :: first) :: others) = some (first :: others.map (·.drop 1)) := by
        rw [pass?, List.all_cons, startsWithChar_cons, if_pos (by simpa using hall)]
        rfl
      exact ⟨n + 1, .more hpass h⟩
    · rename_i hall
      have hpass : pass? c ((d :: first) :: others) = none := by
        rw [pass?, List.all_cons, startsWithChar_cons, if_neg (by simpa using hall)]
      exact ⟨0, .done hpass⟩

theorem stripped_dedent (lines : List Text) : ∃ tabs spaces untabbed,
    Stripped '\t' tabs lines untabbed ∧ Stripped ' ' spaces untabbed (dedent lines) := by
  cases lines with
  | nil => exact ⟨0, 0, [], .done rfl, .done rfl⟩
  | cons first others =>
    obtain ⟨tabs, htabs⟩ := stripped_dedentBy '\t' first others
    rw [dedent]
    cases huntabbed : dedentBy '\t' first others with
    | nil => exact ⟨tabs, 0, [], huntabbed ▸ htabs, .done rfl⟩
    | cons first' others' =>
      obtain ⟨spaces, hspaces⟩ := stripped_dedentBy ' ' first' others'
      exact ⟨tabs, spaces, _, huntabbed ▸ htabs, hspaces⟩

theorem exists_suffix_of_mem_dedent (h : line ∈ dedent lines) : ∃ other ∈ lines, line <:+ other := by
  obtain ⟨tabs, spaces, untabbed, htabs, hspaces⟩ := stripped_dedent lines
  rw [htabs.eq_map, hspaces.eq_map, List.map_map]
  refine ⟨_, List.mem_map_of_mem h, ?_⟩
  exact (List.suffix_append _ line).trans (List.suffix_append _ _)

/-- Passes over the lines end, first for tabs and then for spaces. Every line keeps its place and is
left without the same tabs and spaces, as many as the lines have at least. -/
theorem dedent_strips (lines : List Text) : ∃ tabs spaces untabbed,
    Stripped '\t' tabs lines untabbed ∧ Stripped ' ' spaces untabbed (dedent lines) ∧
    (dedent lines).length = lines.length ∧
    lines = (dedent lines).map
      (fun line => List.replicate tabs '\t' ++ List.replicate spaces ' ' ++ line) ∧
    (lines = [] ∨
      (lines.map (leading '\t')).min? = some tabs ∧
        ((lines.map (·.drop tabs)).map (leading ' ')).min? = some spaces) := by
  obtain ⟨tabs, spaces, untabbed, htabs, hspaces⟩ := stripped_dedent lines
  have hlines : lines = (dedent lines).map
      (fun line => List.replicate tabs '\t' ++ List.replicate spaces ' ' ++ line) := by
    conv => lhs; rw [htabs.eq_map, hspaces.eq_map, List.map_map]
    apply List.map_congr_left
    intro line _
    exact (List.append_assoc _ _ _).symm
  refine ⟨tabs, spaces, untabbed, htabs, hspaces, ?_, hlines, ?_⟩
  · conv => rhs; rw [hlines, List.length_map]
  · by_cases hne : lines = []
    · exact .inl hne
    · refine .inr ⟨htabs.min?_leading hne, ?_⟩
      rw [htabs.map_drop]
      apply hspaces.min?_leading
      intro hnil
      rw [hnil] at htabs
      exact hne htabs.eq_map

end Breadcrumb.Heading
