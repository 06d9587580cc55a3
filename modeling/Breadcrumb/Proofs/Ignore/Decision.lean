import Breadcrumb.Ignore
import Breadcrumb.Proofs.Sources.Eligible
import Breadcrumb.Proofs.Text.Compare
import Mathlib.Data.List.Induction

namespace Breadcrumb

namespace Glob

/-- A pattern in which every character stands for itself. -/
def Plain (pattern : Text) : Prop := '*' ∉ pattern ∧ '?' ∉ pattern ∧ '[' ∉ pattern

instance (pattern : Text) : Decidable (Plain pattern) :=
  inferInstanceAs (Decidable (_ ∧ _))

theorem Plain.tail (h : Plain (c :: pattern)) : Plain pattern :=
  ⟨List.not_mem_of_not_mem_cons h.1, List.not_mem_of_not_mem_cons h.2.1,
    List.not_mem_of_not_mem_cons h.2.2⟩

theorem pieces_of_plain (h : Plain pattern) : pieces pattern = pattern.map .char := by
  rw [pieces]
  induction pattern with
  | nil => rfl
  | cons c pattern ih =>
    have hstar : c ≠ '*' := fun hc => h.1 (hc ▸ List.mem_cons_self)
    have hone : c ≠ '?' := fun hc => h.2.1 (hc ▸ List.mem_cons_self)
    have hset : c ≠ '[' := fun hc => h.2.2 (hc ▸ List.mem_cons_self)
    rw [List.length_cons, piecesFrom, ih h.tail, List.map_cons]
    · exact hstar
    · exact hone
    · exact hset

theorem covers_chars (pattern text : Text) :
    covers (pattern.map .char) text = true ↔ pattern = text := by
  induction pattern generalizing text with
  | nil => cases text <;> simp [covers]
  | cons c pattern ih =>
    cases text with
    | nil => simp [covers]
    | cons d text =>
      simp only [List.map_cons, covers, Piece.holds, Bool.and_eq_true, decide_eq_true_eq, ih,
        List.cons.injEq]
      rw [eq_comm (a := d)]

theorem matches_of_plain (h : Plain pattern) (text : Text) :
    Glob.matches pattern text = true ↔ pattern = text := by
  rw [Glob.matches, pieces_of_plain h, covers_chars]

end Glob

namespace Ignore

open Sources (pathOf)

/-- What the last rule about an entry says: whether it is ignored, or nothing if there is none. -/
def decision (about : Rule → Prop) [DecidablePred about] (rules : List Rule) : Option Bool :=
  (rules.filter (about ·)).getLast?.map (!·.negated)

theorem decision_eq_none {about : Rule → Prop} [DecidablePred about] {rules : List Rule} :
    decision about rules = none ↔ ∀ rule ∈ rules, ¬ about rule := by
  simp [decision]

theorem decision_congr {about about' : Rule → Prop} [DecidablePred about] [DecidablePred about']
    {rules : List Rule} (h : ∀ rule ∈ rules, (about rule ↔ about' rule)) :
    decision about rules = decision about' rules := by
  rw [decision, decision, List.filter_congr fun rule hrule => decide_eq_decide.2 (h rule hrule)]

theorem ignored_eq_decision (rules : List Rule) (path : Text) (isFolder : Bool) :
    ignored rules path isFolder =
      (decision (fun rule => rule.covers path isFolder = true) rules).getD false := by
  induction rules using List.reverseRecOn with
  | nil => rfl
  | append_singleton rules rule ih =>
    rw [ignored, List.foldl_concat, ← ignored, ih, decision, decision, List.filter_append,
      List.filter_singleton]
    cases hcovers : rule.covers path isFolder with
    | true => simp
    | false => simp

namespace Rule

/-- The rule is about the entry itself: by its whole path if the rule is anchored or holds a slash,
else by its name. -/
def Names (rule : Rule) (names : List Text) (isFolder : Bool) : Prop :=
  (rule.folderOnly = true → isFolder = true) ∧
    if rule.anchored || rule.hasSlash then rule.pattern = pathOf names
    else names.getLast? = some rule.pattern

instance (names : List Text) (isFolder : Bool) : DecidablePred (Names · names isFolder) :=
  fun _ => inferInstanceAs (Decidable (_ ∧ _))

/-- The rule is about the entry or, as far as the kind of the entry allows, about a folder above
it. -/
def Reaches (rule : Rule) (names : List Text) (isFolder : Bool) : Prop :=
  (rule.folderOnly = true → isFolder = true) ∧
    if rule.anchored || rule.hasSlash then
      rule.pattern = pathOf names ∨
        rule.folderOnly = true ∧ ∃ k < names.length, 0 < k ∧ rule.pattern = pathOf (names.take k)
    else rule.pattern ∈ names

instance (names : List Text) (isFolder : Bool) : DecidablePred (Reaches · names isFolder) :=
  fun _ => inferInstanceAs (Decidable (_ ∧ _))

end Rule

end Ignore

namespace Sources

variable {names : List Text} {pattern : Text}

theorem take_ne_nil (hk : 0 < k) (hle : k ≤ names.length) : names.take k ≠ [] := by
  apply List.ne_nil_of_length_pos
  rw [List.length_take]
  omega

theorem pathOf_take_append (hk : 0 < k) (hlt : k < names.length) :
    pathOf names = pathOf (names.take k) ++ ['/'] ++ pathOf (names.drop k) := by
  have hdrop : names.drop k ≠ [] := by simpa using hlt
  rw [pathOf, pathOf, pathOf, ← Text.join_append _ (take_ne_nil hk (Nat.le_of_lt hlt)) hdrop,
    List.take_append_drop]

/-- A path goes on behind a slash exactly where one of its folders ends. -/
theorem append_slash_prefix_iff (hnames : ∀ name ∈ names, Entry.IsName name) :
    pattern ++ ['/'] <+: pathOf names ↔
      ∃ k < names.length, 0 < k ∧ pattern = pathOf (names.take k) := by
  constructor
  · rintro ⟨rest, hrest⟩
    rw [List.append_assoc, List.singleton_append] at hrest
    induction names generalizing pattern with
    | nil => simp [pathOf, Text.join] at hrest
    | cons name names ih =>
      obtain ⟨hname, hmore⟩ := List.forall_mem_cons.1 hnames
      by_cases hlast : names = []
      · subst hlast
        refine (hname.2 ?_).elim
        rw [show name = pathOf [name] from rfl, ← hrest]
        simp
      · rw [pathOf, Text.join_cons_of_ne_nil _ _ hlast, List.append_assoc, List.singleton_append,
          List.append_eq_append_iff] at hrest
        have hlen := List.length_pos_iff.2 hlast
        -- The first slash of the path stands behind its first name, so the pattern is that name or
        -- goes on behind that slash.
        rcases hrest with ⟨gap, hgap, htail⟩ | ⟨gap, rfl, htail⟩
        · cases gap with
          | nil =>
            refine ⟨1, by simpa using hlen, Nat.one_pos, ?_⟩
            simpa [pathOf, Text.join] using hgap.symm
          | cons c gap =>
            obtain ⟨rfl, -⟩ := List.cons.inj htail
            exact (hname.2 (by simp [hgap])).elim
        · cases gap with
          | nil =>
            refine ⟨1, by simpa using hlen, Nat.one_pos, ?_⟩
            simp [pathOf, Text.join]
          | cons c gap =>
            obtain ⟨rfl, hbehind⟩ := List.cons.inj htail
            obtain ⟨k, hlt, hk, rfl⟩ := ih hmore hbehind.symm
            refine ⟨k + 1, by simpa using hlt, Nat.succ_pos k, ?_⟩
            rw [List.take_succ_cons, pathOf, pathOf,
              Text.join_cons_of_ne_nil _ _ (take_ne_nil hk (Nat.le_of_lt hlt)), List.append_assoc,
              List.singleton_append]
  · rintro ⟨k, hlt, hk, rfl⟩
    exact ⟨pathOf (names.drop k), (pathOf_take_append hk hlt).symm⟩

end Sources

namespace Ignore

open Sources (pathOf)

variable {rule : Rule} {names : List Text} {isFolder : Bool}

theorem Rule.pattern_ne_nil_of_reaches (hne : names ≠ [])
    (hnames : ∀ name ∈ names, Entry.IsName name) (h : rule.Reaches names isFolder) :
    rule.pattern ≠ [] := by
  obtain ⟨-, h⟩ := h
  split at h
  · rcases h with h | ⟨-, k, hlt, hk, h⟩
    · rw [h]
      exact Sources.pathOf_ne_nil hne hnames
    · rw [h]
      refine Sources.pathOf_ne_nil (Sources.take_ne_nil hk (Nat.le_of_lt hlt)) fun name hname => ?_
      exact hnames name (List.mem_of_mem_take hname)
  · exact (hnames _ h).1

/-- A rule without wildcards covers the entries that it reaches. -/
theorem Rule.covers_iff_reaches (hplain : Glob.Plain rule.pattern) (hne : names ≠ [])
    (hnames : ∀ name ∈ names, Entry.IsName name) :
    rule.covers (pathOf names) isFolder = true ↔ rule.Reaches names isFolder := by
  have hsplit : (pathOf names).split '/' = names :=
    Text.split_join hne fun name hname => (hnames name hname).2
  rw [Rule.covers]
  split
  · rename_i hempty
    simp only [Bool.false_eq_true, false_iff]
    intro h
    exact pattern_ne_nil_of_reaches hne hnames h (List.isEmpty_iff.1 hempty)
  · split
    · rename_i hkind
      simp only [Bool.and_eq_true, Bool.not_eq_true'] at hkind
      simp [Reaches, hkind.1, hkind.2]
    · rename_i hkind
      have hfolder : rule.folderOnly = true → isFolder = true := by simpa using hkind
      rw [Reaches, and_iff_right hfolder]
      split
      · rw [Bool.or_eq_true, Bool.and_eq_true, Glob.matches_of_plain hplain, Text.startsWith_iff,
          Sources.append_slash_prefix_iff hnames]
      · rw [hsplit, List.any_eq_true]
        simp only [Glob.matches_of_plain hplain, exists_eq_right']

theorem Rule.Names.reaches (h : rule.Names names isFolder) : rule.Reaches names isFolder := by
  obtain ⟨hkind, hnames⟩ := h
  refine ⟨hkind, ?_⟩
  split
  · rename_i hwhole
    rw [if_pos hwhole] at hnames
    exact .inl hnames
  · rename_i hname
    rw [if_neg hname] at hnames
    exact List.mem_of_getLast? hnames

/-- A rule reaches an entry only by the entry itself or by a folder above it. -/
theorem Rule.names_of_reaches (h : rule.Reaches names isFolder)
    (habove : ∀ k < names.length, 0 < k → ¬ rule.Names (names.take k) true) :
    rule.Names names isFolder := by
  obtain ⟨hkind, hreach⟩ := h
  refine ⟨hkind, ?_⟩
  have hnone (k : Nat) (hlt : k < names.length) (hk : 0 < k) :
      ¬ if rule.anchored || rule.hasSlash then rule.pattern = pathOf (names.take k)
        else (names.take k).getLast? = some rule.pattern :=
    fun hname => habove k hlt hk ⟨fun _ => rfl, hname⟩
  split
  · rename_i hwhole
    simp only [hwhole, if_true] at hnone hreach
    rcases hreach with hreach | ⟨-, k, hlt, hk, hreach⟩
    · exact hreach
    · exact (hnone k hlt hk hreach).elim
  · rename_i hname
    simp only [hname, Bool.false_eq_true, if_false] at hnone hreach
    obtain ⟨i, hi, hget⟩ := List.getElem_of_mem hreach
    have hlast : (names.take (i + 1)).getLast? = some rule.pattern := by
      rw [List.take_succ_eq_append_getElem hi, List.getLast?_concat, hget]
    rcases Nat.eq_or_lt_of_le (Nat.succ_le_of_lt hi) with heq | hlt
    · rw [List.take_of_length_le (by omega)] at hlast
      exact hlast
    · exact (hnone (i + 1) hlt (Nat.succ_pos i) hlast).elim

end Ignore

end Breadcrumb
