import Breadcrumb.Scan
import Mathlib.Data.List.ProdSigma
import Mathlib.Data.List.Sort

namespace Breadcrumb.Scan.Job

/-- The text of the comment on the line at an index, if there is one. -/
def commentAt? (job : Job) (lines : List Text) (i : Nat) : Option Text :=
  lines[i]?.bind fun raw => job.language.comment? raw.trimLineEnd

/-- What follows the sigil on the line at an index, if the line is a marker line. -/
def payloadAt? (job : Job) (lines : List Text) (i : Nat) : Option Text :=
  (job.commentAt? lines i).bind job.sigil.payload?

def IsComment (job : Job) (lines : List Text) (i : Nat) : Prop :=
  (job.commentAt? lines i).isSome = true

def IsMarked (job : Job) (lines : List Text) (i : Nat) : Prop :=
  (job.payloadAt? lines i).isSome = true

instance (job : Job) (lines : List Text) (i : Nat) : Decidable (job.IsComment lines i) :=
  inferInstanceAs (Decidable (_ = true))

instance (job : Job) (lines : List Text) (i : Nat) : Decidable (job.IsMarked lines i) :=
  inferInstanceAs (Decidable (_ = true))

/-- A maximal block of comment lines, from `start` up to but without `stop`. -/
structure IsRun (job : Job) (lines : List Text) (start stop : Nat) : Prop where
  nonempty : start < stop
  comments : ∀ i < stop, start ≤ i → job.IsComment lines i
  startsHere : start = 0 ∨ ¬ job.IsComment lines (start - 1)
  stopsHere : ¬ job.IsComment lines stop

instance (job : Job) (lines : List Text) (start stop : Nat) :
    Decidable (job.IsRun lines start stop) :=
  decidable_of_iff
    (start < stop ∧ (∀ i < stop, start ≤ i → job.IsComment lines i) ∧
      (start = 0 ∨ ¬ job.IsComment lines (start - 1)) ∧ ¬ job.IsComment lines stop)
    ⟨fun ⟨h₁, h₂, h₃, h₄⟩ => ⟨h₁, h₂, h₃, h₄⟩, fun ⟨h₁, h₂, h₃, h₄⟩ => ⟨h₁, h₂, h₃, h₄⟩⟩

def HoldsMarker (job : Job) (lines : List Text) (start stop : Nat) : Prop :=
  ∃ i < stop, start ≤ i ∧ job.IsMarked lines i

instance (job : Job) (lines : List Text) (start stop : Nat) :
    Decidable (job.HoldsMarker lines start stop) :=
  inferInstanceAs (Decidable (∃ i < stop, start ≤ i ∧ job.IsMarked lines i))

/-- The runs that hold a marker line, as pairs of `start` and `stop`, in the order of the lines. -/
def markedRuns (job : Job) (lines : List Text) : List (Nat × Nat) :=
  (List.range lines.length ×ˢ List.range (lines.length + 1)).filter fun run =>
    job.IsRun lines run.1 run.2 ∧ job.HoldsMarker lines run.1 run.2

def marks (job : Job) (lines : List Text) : List Nat :=
  (List.range lines.length).filter (job.IsMarked lines ·)

/-- Some line strictly between the two is no comment, so that no run holds both. -/
def Apart (job : Job) (lines : List Text) (i j : Nat) : Prop :=
  ∃ k, i < k ∧ k < j ∧ ¬ job.IsComment lines k

/-- No run holds two of the marker lines before the one at `n`. -/
def ApartBelow (job : Job) (lines : List Text) (n : Nat) : Prop :=
  ∀ i j, i < j → j < n → job.IsMarked lines i → job.IsMarked lines j → job.Apart lines i j

/-- The first two marker lines of a run. -/
structure IsRepeat (job : Job) (lines : List Text) (first second : Nat) : Prop where
  run : ∃ start stop, job.IsRun lines start stop ∧ start ≤ first ∧ second < stop ∧
    ∀ i < second, start ≤ i → job.IsMarked lines i → i = first
  lt : first < second
  firstMarked : job.IsMarked lines first
  secondMarked : job.IsMarked lines second

variable {job : Job} {lines : List Text} {i j : Nat}

theorem IsComment.lt_length (h : job.IsComment lines i) : i < lines.length := by
  by_contra hi
  rw [IsComment, commentAt?, List.getElem?_eq_none (Nat.le_of_not_lt hi)] at h
  cases h

theorem IsMarked.isComment (h : job.IsMarked lines i) : job.IsComment lines i := by
  rw [IsMarked, payloadAt?] at h
  exact Option.isSome_of_isSome_bind h

theorem mem_marks : i ∈ job.marks lines ↔ job.IsMarked lines i := by
  simp only [marks, List.mem_filter, List.mem_range, decide_eq_true_eq, and_iff_right_iff_imp]
  exact fun h => h.isComment.lt_length

theorem lt_of_mem_marks (h : i ∈ job.marks lines) : i < lines.length :=
  (mem_marks.1 h).isComment.lt_length

theorem marks_sorted (job : Job) (lines : List Text) : (job.marks lines).Pairwise (· < ·) :=
  List.pairwise_lt_range.filter _

theorem IsRun.stop_le (h : job.IsRun lines start stop) : stop ≤ lines.length := by
  have hc := h.comments (stop - 1) (by have := h.nonempty; omega) (by have := h.nonempty; omega)
  have hl := hc.lt_length
  omega

theorem IsRun.stop_lt_start {a b a' b' : Nat} (h : job.IsRun lines a b)
    (h' : job.IsRun lines a' b') (hlt : a < a') : b < a' := by
  by_contra hb
  rcases h'.startsHere with h0 | hc
  · omega
  · exact hc (h.comments (a' - 1) (by omega) (by omega))

theorem IsRun.stop_eq {a b b' : Nat} (h : job.IsRun lines a b) (h' : job.IsRun lines a b') :
    b = b' := by
  by_contra hne
  rcases Nat.lt_or_gt_of_ne hne with hlt | hlt
  · exact h.stopsHere (h'.comments b hlt h.nonempty.le)
  · exact h'.stopsHere (h.comments b' hlt h'.nonempty.le)

theorem IsRun.eq_of_mem {a b a' b' : Nat} (h : job.IsRun lines a b) (h' : job.IsRun lines a' b')
    (ha : a ≤ i) (hb : i < b) (ha' : a' ≤ i) (hb' : i < b') : (a, b) = (a', b') := by
  rcases Nat.lt_trichotomy a a' with hlt | rfl | hgt
  · have hstop := h.stop_lt_start h' hlt
    omega
  · rw [h.stop_eq h']
  · have hstop := h'.stop_lt_start h hgt
    omega

theorem mem_markedRuns {start stop : Nat} : (start, stop) ∈ job.markedRuns lines ↔
    job.IsRun lines start stop ∧ job.HoldsMarker lines start stop := by
  simp only [markedRuns, List.mem_filter, List.mem_product, List.mem_range, decide_eq_true_eq,
    and_iff_right_iff_imp]
  rintro ⟨hr, -⟩
  have hs := hr.stop_le
  have hn := hr.nonempty
  omega

theorem markedRuns_sorted (job : Job) (lines : List Text) :
    (job.markedRuns lines).Pairwise (·.1 < ·.1) := by
  have hlex : (List.range lines.length ×ˢ List.range (lines.length + 1)).Pairwise
      fun r s => r.1 < s.1 ∨ r.1 = s.1 ∧ r.2 ≠ s.2 := by
    refine List.pairwise_flatMap.2 ⟨fun a _ => ?_, ?_⟩
    · refine List.pairwise_map.2 ?_
      exact List.nodup_range.imp fun h => .inr ⟨rfl, h⟩
    · refine List.pairwise_lt_range.imp fun h => ?_
      intro r hr s hs
      obtain ⟨_, -, rfl⟩ := List.mem_map.1 hr
      obtain ⟨_, -, rfl⟩ := List.mem_map.1 hs
      exact .inl h
  refine (hlex.filter _).imp_of_mem ?_
  rintro ⟨a, b⟩ ⟨a', b'⟩ hr hs h
  have hr := (mem_markedRuns.1 hr).1
  have hs := (mem_markedRuns.1 hs).1
  rcases h with h | ⟨rfl, hne⟩
  · exact h
  · exact (hne (hr.stop_eq hs)).elim

theorem IsComment.exists_run (h : job.IsComment lines i) :
    ∃ run : Nat × Nat, job.IsRun lines run.1 run.2 ∧ run.1 ≤ i ∧ i < run.2 := by
  -- The run reaches down to the least start of an unbroken block up to `i`, and up to the first
  -- line from `i` on that is no comment, which the end of the lines provides.
  have hdown : ∃ a, a ≤ i ∧ ∀ k < i + 1, a ≤ k → job.IsComment lines k :=
    ⟨i, le_rfl, fun k hk hik => (Nat.le_antisymm (Nat.le_of_lt_succ hk) hik) ▸ h⟩
  have hup : ∃ b, i ≤ b ∧ ¬ job.IsComment lines b :=
    ⟨lines.length, h.lt_length.le, fun hc => hc.lt_length.ne rfl⟩
  obtain ⟨hai, ha⟩ := Nat.find_spec hdown
  obtain ⟨hib, hb⟩ := Nat.find_spec hup
  have hlt : i < Nat.find hup := lt_of_le_of_ne hib fun he => hb (he ▸ h)
  refine ⟨(Nat.find hdown, Nat.find hup), ⟨by simp only; omega, ?_, ?_, hb⟩, hai, hlt⟩
  · intro k hk hak
    by_cases hki : k < i + 1
    · exact ha k hki hak
    · by_contra hc
      exact Nat.find_min hup hk ⟨by omega, hc⟩
  · by_contra hstart
    obtain ⟨h0, hc⟩ := not_or.1 hstart
    have hc := not_not.1 hc
    refine Nat.find_min hdown (m := Nat.find hdown - 1) (by simp only at h0; omega) ⟨by omega, ?_⟩
    intro k hk hak
    rcases Nat.eq_or_lt_of_le hak with he | hl
    · exact he ▸ hc
    · exact ha k hk (by omega)

theorem IsRun.not_apart {a b : Nat} (h : job.IsRun lines a b) (hi : a ≤ i) (hj : j < b) :
    ¬ job.Apart lines i j := by
  rintro ⟨k, hik, hkj, hk⟩
  exact hk (h.comments k (by omega) (by omega))

theorem exists_run_of_not_apart (hi : job.IsComment lines i) (hj : job.IsComment lines j)
    (h : ¬ job.Apart lines i j) :
    ∃ start stop, job.IsRun lines start stop ∧ start ≤ i ∧ j < stop := by
  obtain ⟨⟨start, stop⟩, hr, hstart, hstop⟩ := hi.exists_run
  refine ⟨start, stop, hr, hstart, ?_⟩
  by_contra hle
  simp only at hstop hle
  rcases Nat.eq_or_lt_of_le (Nat.le_of_not_lt hle) with he | hlt
  · exact hr.stopsHere (he ▸ hj)
  · exact h ⟨stop, hstop, hlt, hr.stopsHere⟩

/-- When no run holds two marker lines, the runs with a marker and the marker lines correspond. -/
theorem forall₂_markedRuns_marks (h : job.ApartBelow lines lines.length) :
    List.Forall₂
      (fun run i => job.IsMarked lines i ∧ job.IsRun lines run.1 run.2 ∧ run.1 ≤ i ∧ i < run.2)
      (job.markedRuns lines) (job.marks lines) := by
  choose! runOf hrun using fun i => @IsComment.exists_run job lines i
  have hmark (i : Nat) (hi : i ∈ job.marks lines) := hrun i (mem_marks.1 hi).isComment
  have hsorted : ((job.marks lines).map runOf).Pairwise (·.1 < ·.1) := by
    refine List.pairwise_map.2 ((marks_sorted job lines).imp_of_mem ?_)
    intro i j hi hj hij
    have hapart := h i j hij (lt_of_mem_marks hj) (mem_marks.1 hi) (mem_marks.1 hj)
    obtain ⟨hri, hi₁, hi₂⟩ := hmark i hi
    obtain ⟨hrj, hj₁, hj₂⟩ := hmark j hj
    -- Both marker lines would lie in one run if the second run did not start later.
    rcases Nat.lt_trichotomy (runOf i).1 (runOf j).1 with hlt | heq | hgt
    · exact hlt
    · exact (hri.not_apart hi₁ ((heq ▸ hri).stop_eq hrj ▸ hj₂) hapart).elim
    · have hstop := hrj.stop_lt_start hri hgt
      omega
  have heq : job.markedRuns lines = (job.marks lines).map runOf := by
    refine (markedRuns_sorted job lines).eq_of_mem_iff (r := (·.1 < ·.1)) hsorted ?_
    rintro ⟨start, stop⟩
    rw [mem_markedRuns, List.mem_map]
    constructor
    · rintro ⟨hr, i, hstop, hstart, hi⟩
      obtain ⟨hri, hi₁, hi₂⟩ := hrun i hi.isComment
      exact ⟨i, mem_marks.2 hi, hri.eq_of_mem hr hi₁ hi₂ hstart hstop⟩
    · rintro ⟨i, hi, he⟩
      obtain ⟨hri, hi₁, hi₂⟩ := hmark i hi
      rw [he] at hri hi₁ hi₂
      exact ⟨hri, i, hi₂, hi₁, mem_marks.1 hi⟩
  rw [heq, List.forall₂_map_left_iff, List.forall₂_same]
  exact fun i hi => ⟨mem_marks.1 hi, hmark i hi⟩

end Breadcrumb.Scan.Job
