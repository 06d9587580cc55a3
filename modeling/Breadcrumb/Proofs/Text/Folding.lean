import Breadcrumb.Text.Fold
import Breadcrumb.Text.Blank

namespace Breadcrumb.Text

namespace CaseRun

variable {run other : CaseRun} {runs : List CaseRun} {n m : Nat}

/-- Whether the code points that the run covers are all even or all odd. -/
def hasParity (run : CaseRun) : Bool := run.step == 2 || run.first == run.last

/-- A test that shows that no code point is covered by both runs. -/
def isApart (run other : CaseRun) : Bool :=
  Nat.blt run.last other.first || Nat.blt other.last run.first ||
    (run.hasParity && other.hasParity && run.first % 2 != other.first % 2)

/-- Whether no code point is covered by two of the runs, by the test for two of them. -/
def areApart : List CaseRun → Bool
  | [] => true
  | run :: runs => runs.all run.isApart && areApart runs

/-- The code points that those covered are moved to. -/
def image (run : CaseRun) : CaseRun :=
  { run with first := (run.first + run.shift).toNat, last := (run.last + run.shift).toNat }

theorem covers_iff :
    run.covers n = true ↔ run.first ≤ n ∧ n ≤ run.last ∧ (n - run.first) % run.step = 0 := by
  simp only [covers, Bool.and_eq_true, decide_eq_true_eq, beq_iff_eq, and_assoc]

theorem mod_two_of_covers (hparity : run.hasParity = true) (h : run.covers n = true) :
    n % 2 = run.first % 2 := by
  obtain ⟨hfirst, hlast, hstep⟩ := covers_iff.1 h
  rcases Bool.or_eq_true_iff.1 hparity with htwo | hsingle
  · rw [beq_iff_eq.1 htwo] at hstep
    omega
  · have hends := beq_iff_eq.1 hsingle
    omega

theorem covers_of_isApart (hapart : run.isApart other = true) (h : run.covers n = true) :
    other.covers n = false := by
  refine Bool.eq_false_iff.2 fun hother => ?_
  obtain ⟨hfirst, hlast, -⟩ := covers_iff.1 h
  obtain ⟨hfirst', hlast', -⟩ := covers_iff.1 hother
  simp only [isApart, Bool.or_eq_true, Bool.and_eq_true, Nat.blt_eq, bne_iff_ne] at hapart
  obtain (hbelow | habove) | ⟨⟨hrun, hrun'⟩, hodd⟩ := hapart
  · omega
  · omega
  · exact hodd ((mod_two_of_covers hrun h).symm.trans (mod_two_of_covers hrun' hother))

theorem pairwise_of_areApart (h : areApart runs = true) :
    runs.Pairwise fun run other => run.isApart other = true := by
  induction runs with
  | nil => exact .nil
  | cons run runs ih =>
    rw [areApart, Bool.and_eq_true, List.all_eq_true] at h
    exact .cons h.1 (ih h.2)

theorem covers_image (hfirst : 0 ≤ run.first + run.shift) (h : run.covers n = true) :
    run.image.covers (n + run.shift).toNat = true := by
  obtain ⟨hlo, hhi, hstep⟩ := covers_iff.1 h
  refine covers_iff.2 ⟨?_, ?_, ?_⟩
  · simp only [image]
    omega
  · simp only [image]
    omega
  · have hsame : (n + run.shift).toNat - (run.first + run.shift).toNat = n - run.first := by omega
    simp only [image, hsame, hstep]

theorem apply_of_forall (h : ∀ run ∈ runs, run.covers n = false) : apply runs n = n := by
  rw [apply, List.find?_eq_none.2 fun run hrun => Bool.eq_false_iff.1 (h run hrun)]

theorem apply_cons_of_forall (h : ∀ other ∈ runs, other.covers n = false) :
    apply (run :: runs) n = apply [run] n := by
  have hnone : runs.find? (·.covers n) = none :=
    List.find?_eq_none.2 fun other hother => Bool.eq_false_iff.1 (h other hother)
  rw [apply, apply, List.find?_cons, List.find?_cons, hnone, List.find?_nil]

theorem apply_of_covers (hruns : runs.Pairwise fun run other => run.isApart other = true)
    (hrun : run ∈ runs) (h : run.covers n = true) : apply runs n = (n + run.shift).toNat := by
  induction runs with
  | nil => exact absurd hrun List.not_mem_nil
  | cons first runs ih =>
    obtain ⟨hfirst, hruns⟩ := List.pairwise_cons.1 hruns
    rcases List.mem_cons.1 hrun with rfl | hrun
    · rw [apply, List.find?_cons_of_pos (by exact h)]
    · have hnot : ¬first.covers n = true := fun hcovers =>
        Bool.false_ne_true ((covers_of_isApart (hfirst run hrun) hcovers).symm.trans h)
      rw [apply, List.find?_cons_of_neg (by exact hnot)]
      exact ih hruns hrun

theorem mem_preimage : m ∈ preimage runs n ↔
    ∃ run ∈ runs, run.covers m = true ∧ (m : Int) + run.shift = n := by
  simp only [preimage, List.mem_map, List.mem_filter, Bool.and_eq_true, decide_eq_true_eq]
  refine exists_congr fun run => ?_
  constructor
  · rintro ⟨⟨hrun, hle, hcovers⟩, rfl⟩
    exact ⟨hrun, hcovers, by omega⟩
  · rintro ⟨hrun, hcovers, hshift⟩
    have hm : ((n : Int) - run.shift).toNat = m := by omega
    exact ⟨⟨hrun, by omega, by rwa [hm]⟩, hm⟩

end CaseRun

open CaseRun

variable {c d : Char} {n m : Nat} {run : CaseRun} {group : List Nat}

/-- The code point has no lower case but itself. -/
def IsLower (n : Nat) : Prop := n ≠ 0x130 ∧ ∀ run ∈ lowerRuns, run.covers n = false

def between (range : Nat × Nat) : CaseRun := ⟨range.1, range.2, 1, 0⟩

/-- The run moves characters to lower-case characters and has nothing to do with blanks. -/
structure Settles (run : CaseRun) : Prop where
  nonneg : 0 ≤ run.first + run.shift
  dottedI : run.covers 0x130 = false
  dottedI_image : run.image.covers 0x130 = false
  valid : run.image.last < 0xD800 ∨ 0xDFFF < run.image.first ∧ run.image.last < 0x110000
  runs : ∀ other ∈ lowerRuns, run.image.isApart other = true
  blank : ∀ range ∈ blanks, run.isApart (between range) = true
  blank_image : ∀ range ∈ blanks, run.image.isApart (between range) = true

def settles (run : CaseRun) : Bool :=
  decide (0 ≤ run.first + run.shift) && !run.covers 0x130 && !run.image.covers 0x130 &&
    (Nat.blt run.image.last 0xD800 ||
      Nat.blt 0xDFFF run.image.first && Nat.blt run.image.last 0x110000) &&
    lowerRuns.all run.image.isApart && blanks.all (run.isApart <| between ·) &&
    blanks.all (run.image.isApart <| between ·)

theorem settles_iff : settles run = true ↔ Settles run := by
  simp only [settles, Bool.and_eq_true, Bool.or_eq_true, Bool.not_eq_true', decide_eq_true_eq,
    Nat.blt_eq, List.all_eq_true, and_assoc]
  constructor
  · rintro ⟨h₁, h₂, h₃, h₄, h₅, h₆, h₇⟩
    exact ⟨h₁, h₂, h₃, h₄, h₅, h₆, h₇⟩
  · rintro ⟨h₁, h₂, h₃, h₄, h₅, h₆, h₇⟩
    exact ⟨h₁, h₂, h₃, h₄, h₅, h₆, h₇⟩

theorem pairwise_lowerRuns : lowerRuns.Pairwise fun run other => run.isApart other = true :=
  pairwise_of_areApart (by decide +kernel)

theorem all_settles_lowerRuns : lowerRuns.all settles = true := by decide +kernel

theorem settles_of_mem (hrun : run ∈ lowerRuns) : Settles run :=
  settles_iff.1 (List.all_eq_true.1 all_settles_lowerRuns run hrun)

theorem isLower_moved (hrun : run ∈ lowerRuns) (h : run.covers n = true) :
    IsLower (n + run.shift).toNat ∧ (n + run.shift).toNat.isValidChar ∧ 0 ≤ n + run.shift := by
  have hsettles := settles_of_mem hrun
  have himage := covers_image hsettles.nonneg h
  refine ⟨⟨fun he => ?_, fun other hother => ?_⟩, ?_, ?_⟩
  · exact Bool.false_ne_true (hsettles.dottedI_image.symm.trans (he ▸ himage))
  · exact covers_of_isApart (hsettles.runs other hother) himage
  · obtain ⟨hlo, hhi, -⟩ := covers_iff.1 himage
    have hvalid := hsettles.valid
    simp only [Nat.isValidChar]
    omega
  · have hnonneg := hsettles.nonneg
    have hle := (covers_iff.1 h).1
    omega

theorem toNat_ofNat (h : n.isValidChar) : (Char.ofNat n).toNat = n := by
  rw [Char.ofNat, dif_pos h]
  rfl

theorem toNat_lowerChar (c : Char) :
    c.toNat = 0x130 ∧ (lowerChar c).toNat = 0x69 ∨
      (∃ run ∈ lowerRuns, run.covers c.toNat = true ∧
        ((lowerChar c).toNat : Int) = c.toNat + run.shift) ∨
      IsLower c.toNat ∧ lowerChar c = c := by
  by_cases hdotted : c.toNat = 0x130
  · exact .inl ⟨hdotted, by rw [lowerChar, if_pos hdotted]; rfl⟩
  · by_cases hall : ∀ run ∈ lowerRuns, run.covers c.toNat = false
    · refine .inr (.inr ⟨⟨hdotted, hall⟩, ?_⟩)
      rw [lowerChar, if_neg hdotted, apply_of_forall hall, Char.ofNat_toNat]
    · simp only [Classical.not_forall, Bool.not_eq_false] at hall
      obtain ⟨run, hrun, hcovers⟩ := hall
      obtain ⟨-, hvalid, hpos⟩ := isLower_moved hrun hcovers
      refine .inr (.inl ⟨run, hrun, hcovers, ?_⟩)
      rw [lowerChar, if_neg hdotted, apply_of_covers pairwise_lowerRuns hrun hcovers,
        toNat_ofNat hvalid]
      omega

/-- A test for a code point that has no lower case but itself and is no blank. -/
def isLowerLetter (n : Nat) : Bool :=
  n != 0x130 && lowerRuns.all (!·.covers n) && !blanks.contains n

theorem isLowerLetter_iff : isLowerLetter n = true ↔ IsLower n ∧ blanks.contains n = false := by
  simp only [isLowerLetter, IsLower, Bool.and_eq_true, bne_iff_ne, List.all_eq_true,
    Bool.not_eq_true']

theorem isLowerLetter_siblings : siblings.all (·.all isLowerLetter) = true := by decide +kernel

theorem isLower_of_mem_siblings (hgroup : group ∈ siblings) (hn : n ∈ group) :
    IsLower n ∧ blanks.contains n = false := by
  have hletters := List.all_eq_true.1 isLowerLetter_siblings group hgroup
  exact isLowerLetter_iff.1 (List.all_eq_true.1 hletters n hn)

theorem isLower_lowerChar (c : Char) : IsLower (lowerChar c).toNat := by
  rcases toNat_lowerChar c with ⟨-, he⟩ | ⟨run, hrun, hcovers, he⟩ | ⟨hlower, he⟩
  · exact he ▸ (isLower_of_mem_siblings (.head _) (.head _)).1
  · have hmoved : (lowerChar c).toNat = (c.toNat + run.shift).toNat := by omega
    exact hmoved ▸ (isLower_moved hrun hcovers).1
  · rwa [he]

theorem toNat_lowerChar_eq_iff (hm : IsLower m) : (lowerChar d).toNat = m ↔
    d.toNat = m ∨ m = 0x69 ∧ d.toNat = 0x130 ∨ d.toNat ∈ preimage lowerRuns m := by
  rw [mem_preimage]
  constructor
  · rintro rfl
    rcases toNat_lowerChar d with ⟨hdotted, he⟩ | ⟨run, hrun, hcovers, he⟩ | ⟨-, he⟩
    · exact .inr (.inl ⟨he, hdotted⟩)
    · exact .inr (.inr ⟨run, hrun, hcovers, he.symm⟩)
    · exact .inl (congrArg Char.toNat he.symm)
  · rintro (rfl | ⟨rfl, hdotted⟩ | ⟨run, hrun, hcovers, hshift⟩)
    · rcases toNat_lowerChar d with ⟨hdotted, -⟩ | ⟨run, hrun, hcovers, -⟩ | ⟨-, he⟩
      · exact absurd hdotted hm.1
      · exact absurd hcovers (Bool.eq_false_iff.1 (hm.2 run hrun))
      · exact congrArg Char.toNat he
    · rw [lowerChar, if_pos hdotted]
      rfl
    · have hdotted : d.toNat ≠ 0x130 := fun he =>
        Bool.false_ne_true ((settles_of_mem hrun).dottedI.symm.trans (he ▸ hcovers))
      obtain ⟨-, hvalid, -⟩ := isLower_moved hrun hcovers
      rw [lowerChar, if_neg hdotted, apply_of_covers pairwise_lowerRuns hrun hcovers,
        toNat_ofNat hvalid]
      omega

/-- A letter has one group of siblings at most. -/
theorem group_unique : ∀ group ∈ siblings, ∀ other ∈ siblings, ∀ n ∈ group, n ∈ other →
    group = other := by
  decide +kernel

theorem find?_siblings :
    siblings.find? (·.contains n) = some group ↔ group ∈ siblings ∧ n ∈ group := by
  constructor
  · intro hfind
    have hn := List.find?_some hfind
    exact ⟨List.mem_of_find?_eq_some hfind, List.contains_iff_mem.1 hn⟩
  · rintro ⟨hgroup, hn⟩
    cases hfind : siblings.find? (·.contains n) with
    | none => exact absurd (List.contains_iff_mem.2 hn) (List.find?_eq_none.1 hfind group hgroup)
    | some other =>
      have hn' := List.find?_some hfind
      rw [group_unique group hgroup other (List.mem_of_find?_eq_some hfind) n hn
        (List.contains_iff_mem.1 hn')]

theorem mem_siblingsOf :
    m ∈ siblingsOf n ↔ m = n ∨ ∃ group ∈ siblings, n ∈ group ∧ m ∈ group := by
  cases hfind : siblings.find? (·.contains n) with
  | none =>
    rw [siblingsOf, hfind, Option.getD_none, List.mem_singleton]
    refine ⟨.inl, fun h => h.elim id fun ⟨group, hgroup, hn, _⟩ => ?_⟩
    exact absurd (hfind.symm.trans (find?_siblings.2 ⟨hgroup, hn⟩)) nofun
  | some group =>
    obtain ⟨hgroup, hn⟩ := find?_siblings.1 hfind
    rw [siblingsOf, hfind, Option.getD_some]
    refine ⟨fun hm => .inr ⟨group, hgroup, hn, hm⟩, ?_⟩
    rintro (rfl | ⟨other, hother, hn', hm⟩)
    · exact hn
    · rwa [group_unique group hgroup other hother n hn hn']

theorem isLower_of_mem_siblingsOf (hn : IsLower n) (h : m ∈ siblingsOf n) : IsLower m := by
  rcases mem_siblingsOf.1 h with rfl | ⟨group, hgroup, -, hm⟩
  · exact hn
  · exact (isLower_of_mem_siblings hgroup hm).1

/-- The code points tried for a letter are the letters whose lower case is a sibling of its own. -/
theorem mem_variants : d.toNat ∈ variants c ↔
    (lowerChar d).toNat ∈ siblingsOf (lowerChar c).toNat := by
  have htried (m : Nat) : d.toNat ∈ m :: (if m = 0x69 then [0x130] else []) ++ preimage lowerRuns m ↔
      d.toNat = m ∨ m = 0x69 ∧ d.toNat = 0x130 ∨ d.toNat ∈ preimage lowerRuns m := by
    by_cases hi : m = 0x69 <;> simp [hi]
  simp only [variants, List.mem_flatMap, htried]
  constructor
  · rintro ⟨m, hm, hd⟩
    rwa [(toNat_lowerChar_eq_iff (isLower_of_mem_siblingsOf (isLower_lowerChar c) hm)).2 hd]
  · exact fun h => ⟨_, h, (toNat_lowerChar_eq_iff (isLower_lowerChar d)).1 rfl⟩

theorem head_siblingsOf (n : Nat) :
    ((siblings.find? (·.contains n)).bind (·.head?)).getD n ∈ siblingsOf n := by
  cases hfind : siblings.find? (·.contains n) with
  | none =>
    rw [siblingsOf, hfind]
    exact List.mem_singleton_self n
  | some group =>
    obtain ⟨-, hn⟩ := find?_siblings.1 hfind
    rw [siblingsOf, hfind]
    cases group with
    | nil => exact absurd hn List.not_mem_nil
    | cons first group => exact List.mem_cons_self

theorem siblingsOf_eq (h : m ∈ siblingsOf n) : siblingsOf m = siblingsOf n := by
  rcases mem_siblingsOf.1 h with rfl | ⟨group, hgroup, hn, hm⟩
  · rfl
  · rw [siblingsOf, siblingsOf, find?_siblings.2 ⟨hgroup, hn⟩, find?_siblings.2 ⟨hgroup, hm⟩]
    rfl

theorem sameLetter_iff :
    sameLetter c d = true ↔ (lowerChar d).toNat ∈ siblingsOf (lowerChar c).toNat := by
  rw [sameLetter, decide_eq_true_eq]
  constructor
  · intro he
    have hc := head_siblingsOf (lowerChar c).toNat
    have hd := head_siblingsOf (lowerChar d).toNat
    change foldChar c ∈ _ at hc
    change foldChar d ∈ _ at hd
    rw [← he] at hd
    rw [← siblingsOf_eq hc, siblingsOf_eq hd]
    exact mem_siblingsOf.2 (.inl rfl)
  · intro h
    rcases mem_siblingsOf.1 h with he | ⟨group, hgroup, hc, hd⟩
    · rw [foldChar, foldChar, he]
    · rw [foldChar, foldChar, find?_siblings.2 ⟨hgroup, hc⟩, find?_siblings.2 ⟨hgroup, hd⟩]
      cases group with
      | nil => exact absurd hc List.not_mem_nil
      | cons => rfl

/-- The code points tried for a letter are those that are equal to it but for case. -/
theorem contains_variants (c d : Char) : (variants c).contains d.toNat = sameLetter c d := by
  rw [Bool.eq_iff_iff, List.contains_iff_mem, mem_variants, sameLetter_iff]

theorem sameLetter_refl (c : Char) : sameLetter c c = true := decide_eq_true rfl

theorem sameLetter_comm (c d : Char) : sameLetter c d = sameLetter d c :=
  decide_eq_decide.2 eq_comm

theorem sameLetter_trans {e : Char} (h : sameLetter c d = true) (h' : sameLetter d e = true) :
    sameLetter c e = true :=
  decide_eq_true ((of_decide_eq_true h).trans (of_decide_eq_true h'))

theorem sameLetter_capitals : ∀ k < 26,
    sameLetter (Char.ofNat (0x41 + k)) (Char.ofNat (0x41 + k)).toLower = true := by
  decide +kernel

theorem sameLetter_toLower (c : Char) : sameLetter c c.toLower = true := by
  by_cases hupper : c.val ≥ 'A'.val ∧ c.val ≤ 'Z'.val
  · have hlo : 0x41 ≤ c.toNat := UInt32.le_iff_toNat_le.1 hupper.1
    have hhi : c.toNat ≤ 0x5A := UInt32.le_iff_toNat_le.1 hupper.2
    have h := sameLetter_capitals (c.toNat - 0x41) (by omega)
    rwa [Nat.add_sub_cancel' hlo, Char.ofNat_toNat] at h
  · have hsame : c.toLower = c := dif_neg hupper
    rw [hsame]
    exact sameLetter_refl c

/-- Letters that differ at most as an ASCII letter does from its other case. -/
theorem sameLetter_of_toLower (h : c.toLower = d.toLower) : sameLetter c d = true :=
  sameLetter_trans (sameLetter_toLower c) (h ▸ sameLetter_comm d _ ▸ sameLetter_toLower d)

theorem exists_of_contains {ranges : Ranges} (h : ranges.contains n = true) :
    ∃ range ∈ ranges, range.1 ≤ n ∧ n ≤ range.2 := by
  induction ranges with
  | nil => exact absurd h Bool.false_ne_true
  | cons range ranges ih =>
    rw [Ranges.contains] at h
    by_cases hlt : n < range.1
    · rw [if_pos hlt] at h
      exact absurd h Bool.false_ne_true
    · rw [if_neg hlt, Bool.or_eq_true, decide_eq_true_eq] at h
      rcases h with hle | hrest
      · exact ⟨range, .head _, Nat.le_of_not_lt hlt, hle⟩
      · obtain ⟨other, hother, hin⟩ := ih hrest
        exact ⟨other, .tail _ hother, hin⟩

theorem not_covers_blank (h : ∀ range ∈ blanks, run.isApart (between range) = true)
    (hn : blanks.contains n = true) : run.covers n = false := by
  refine Bool.eq_false_iff.2 fun hcovers => ?_
  obtain ⟨range, hrange, hlo, hhi⟩ := exists_of_contains hn
  have hbetween : (between range).covers n = true := covers_iff.2 ⟨hlo, hhi, Nat.mod_one _⟩
  exact Bool.false_ne_true ((covers_of_isApart (h range hrange) hcovers).symm.trans hbetween)

/-- A blank is the lower case of itself only. -/
theorem lowerChar_eq_iff_of_isBlank (hc : isBlank c = true) : lowerChar d = c ↔ d = c := by
  constructor
  · intro he
    rcases toNat_lowerChar d with ⟨-, hi⟩ | ⟨run, hrun, hcovers, hshift⟩ | ⟨-, hd⟩
    · rw [he] at hi
      rw [isBlank, hi] at hc
      exact absurd hc (by decide)
    · obtain ⟨-, -, hpos⟩ := isLower_moved hrun hcovers
      have himage : run.image.covers c.toNat = true := by
        have hmoved : c.toNat = (d.toNat + run.shift).toNat := by
          rw [he] at hshift
          omega
        exact hmoved ▸ covers_image (settles_of_mem hrun).nonneg hcovers
      have hnot := not_covers_blank (settles_of_mem hrun).blank_image hc
      exact absurd (hnot.symm.trans himage) Bool.false_ne_true
    · exact hd.symm.trans he
  · rintro rfl
    rcases toNat_lowerChar d with ⟨hdotted, -⟩ | ⟨run, hrun, hcovers, -⟩ | ⟨-, hd⟩
    · rw [isBlank, hdotted] at hc
      exact absurd hc (by decide)
    · have hnot := not_covers_blank (settles_of_mem hrun).blank hc
      exact absurd (hnot.symm.trans hcovers) Bool.false_ne_true
    · exact hd

/-- A blank is equal to no other character. -/
theorem sameLetter_blank (h : sameLetter c d = true) (hc : isBlank c = true) : d = c := by
  rw [sameLetter_iff, (lowerChar_eq_iff_of_isBlank hc).2 rfl] at h
  rcases mem_siblingsOf.1 h with he | ⟨group, hgroup, hin, -⟩
  · exact (lowerChar_eq_iff_of_isBlank hc).1 (Char.toNat_inj.1 he)
  · exact absurd (hc.symm.trans (isLower_of_mem_siblings hgroup hin).2) nofun

theorem isBlank_eq_of_sameLetter (h : sameLetter c d = true) : isBlank c = isBlank d := by
  rw [Bool.eq_iff_iff]
  constructor
  · intro hc
    rwa [sameLetter_blank h hc]
  · intro hd
    rwa [sameLetter_blank ((sameLetter_comm d c).trans h) hd]

end Breadcrumb.Text
