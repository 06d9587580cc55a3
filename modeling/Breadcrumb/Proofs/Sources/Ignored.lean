import Breadcrumb.Proofs.Ignore.Decision

namespace Breadcrumb.Sources

/-- A file whose folders are folders of their own and are not skipped by name. -/
structure IsWalked (tree : FileTree) (root : Place) (names : List Text) : Prop where
  nonempty : names ≠ []
  file : IsFileAt tree (root ++ names)
  folders : ∀ k < names.length, 0 < k →
    (∃ entries, tree.root.at? (root ++ names.take k) = some (.folder entries)) ∧
      ∀ name ∈ (names.take k).getLast?, name ∉ skippedFolders

variable {tree : FileTree} {root : Place} {names : List Text} {rules : List Ignore.Rule}

/-- The rules are asked for the file and for every folder above it. -/
theorem IsWalked.mem_candidates_iff (hproper : tree.root.Proper) {entries : List (Text × Entry)}
    (hroot : tree.root.at? root = some (.folder entries)) (h : IsWalked tree root names) :
    pathOf names ∈ candidates tree { rules } root ↔
      ∀ k ≤ names.length, 0 < k →
        Ignore.ignored rules (pathOf (names.take k)) (k < names.length) = false := by
  rw [Sources.mem_candidates_iff hproper hroot]
  constructor
  · rintro ⟨other, hpath, hkept⟩ k hle hk
    have hsplit : (pathOf names).split '/' = names :=
      Text.split_join h.nonempty fun name hname => (h.file.isName hproper name hname).2
    obtain rfl : names = other := by rw [← hsplit, hpath, hkept.split_pathOf hproper]
    rcases Nat.eq_or_lt_of_le hle with rfl | hlt
    · rw [List.take_length, decide_eq_false (Nat.lt_irrefl _)]
      exact hkept.notIgnored
    · rw [decide_eq_true hlt]
      exact (hkept.entered k hk hlt).notIgnored
  · intro hkeeps
    have hlen := List.length_pos_iff.2 h.nonempty
    have hlast := hkeeps names.length (Nat.le_refl _) hlen
    rw [List.take_length, decide_eq_false (Nat.lt_irrefl _)] at hlast
    refine ⟨names, rfl, hlen, h.file, fun k hk hlt => ?_, hlast, by simp⟩
    obtain ⟨hfolder, hskipped⟩ := h.folders k hlt hk
    have hignored := hkeeps k (Nat.le_of_lt hlt) hk
    rw [decide_eq_true hlt] at hignored
    exact ⟨hfolder, hskipped, hignored, by simp⟩

end Breadcrumb.Sources

namespace Breadcrumb.Ignore

open Sources (pathOf)

variable {names : List Text} {rules : List Rule}

theorem ignored_eq_false_iff (hplain : ∀ rule ∈ rules, Glob.Plain rule.pattern) (hne : names ≠ [])
    (hnames : ∀ name ∈ names, Entry.IsName name) (isFolder : Bool) :
    ignored rules (pathOf names) isFolder = false ↔
      decision (·.Reaches names isFolder) rules ≠ some true := by
  have hreaches : decision (fun rule => rule.covers (pathOf names) isFolder = true) rules =
      decision (·.Reaches names isFolder) rules :=
    decision_congr fun rule hrule => Rule.covers_iff_reaches (hplain rule hrule) hne hnames
  rw [ignored_eq_decision, hreaches]
  cases decision (·.Reaches names isFolder) rules with
  | none => simp
  | some said => simp

/-- Where no rule is about a folder above, the rules that reach an entry are those about it. -/
theorem decision_reaches_eq (isFolder : Bool)
    (habove : ∀ k < names.length, 0 < k → decision (·.Names (names.take k) true) rules = none) :
    decision (·.Reaches names isFolder) rules = decision (·.Names names isFolder) rules := by
  refine decision_congr fun rule hrule => ⟨fun h => ?_, Rule.Names.reaches⟩
  exact Rule.names_of_reaches h fun k hlt hk => decision_eq_none.1 (habove k hlt hk) rule hrule

theorem decision_take_reaches_eq (hk : k ≤ names.length) (isFolder : Bool)
    (habove : ∀ j < k, 0 < j → decision (·.Names (names.take j) true) rules = none) :
    decision (·.Reaches (names.take k) isFolder) rules =
      decision (·.Names (names.take k) isFolder) rules := by
  refine decision_reaches_eq isFolder fun j hlt hj => ?_
  rw [List.length_take] at hlt
  rw [List.take_take, Nat.min_eq_left (by omega)]
  exact habove j (by omega) hj

/-- If no folder on the way is included again, the rules that reach the entries on the way drop the
file exactly if the rules about these entries do. -/
theorem forall_reaches_iff_forall_names
    (hagain : ∀ k < names.length, 0 < k →
      decision (·.Names (names.take k) true) rules ≠ some false) :
    (∀ k ≤ names.length, 0 < k →
        decision (·.Reaches (names.take k) (k < names.length)) rules ≠ some true) ↔
      ∀ k ≤ names.length, 0 < k →
        decision (·.Names (names.take k) (k < names.length)) rules ≠ some true := by
  -- Up to the first entry that is ignored, no rule at all is about the folders on the way.
  have huntouched {n : Nat} (hn : n ≤ names.length)
      (hkept : ∀ k < n, 0 < k → decision (·.Names (names.take k) true) rules ≠ some true) :
      ∀ k < n, 0 < k → decision (·.Names (names.take k) true) rules = none := by
    intro k hlt hk
    cases hsaid : decision (·.Names (names.take k) true) rules with
    | none => rfl
    | some said =>
      cases said with
      | true => exact (hkept k hlt hk hsaid).elim
      | false => exact (hagain k (by omega) hk hsaid).elim
  constructor
  · intro hreaches k
    induction k using Nat.strongRecOn with
    | ind k ih =>
      intro hle hk
      rw [← decision_take_reaches_eq hle]
      · exact hreaches k hle hk
      · refine huntouched hle fun j hlt hj => ?_
        have hsaid := ih j hlt (by omega) hj
        rw [decide_eq_true (by omega)] at hsaid
        exact hsaid
  · intro hnames k hle hk
    rw [decision_take_reaches_eq hle]
    · exact hnames k hle hk
    · refine huntouched hle fun j hlt hj => ?_
      have hsaid := hnames j (by omega) hj
      rw [decide_eq_true (by omega)] at hsaid
      exact hsaid

end Breadcrumb.Ignore

namespace Breadcrumb.Sources

open Ignore (decision)

/-- What rules without wildcards keep. A file is found exactly if neither it nor a folder above it
is ignored, the last rule that reaches the entry deciding; and if no folder above it is included
again, exactly if the last rule about each of these entries does not ignore it. -/
theorem mem_candidates_of_plain (tree : FileTree) (root : Place) (entries : List (Text × Entry))
    (text : Text) (names : List Text) (hproper : tree.root.Proper)
    (hroot : tree.root.at? root = some (.folder entries))
    (hplain : ∀ rule ∈ Ignore.rules text, Glob.Plain rule.pattern)
    (hwalked : IsWalked tree root names) :
    (pathOf names ∈ candidates tree { rules := Ignore.rules text } root ↔
      ∀ k ≤ names.length, 0 < k →
        decision (·.Reaches (names.take k) (k < names.length)) (Ignore.rules text) ≠ some true) ∧
    ((∀ k < names.length, 0 < k →
        decision (·.Names (names.take k) true) (Ignore.rules text) ≠ some false) →
      (pathOf names ∈ candidates tree { rules := Ignore.rules text } root ↔
        ∀ k ≤ names.length, 0 < k →
          decision (·.Names (names.take k) (k < names.length)) (Ignore.rules text) ≠
            some true)) := by
  have hnames := hwalked.file.isName hproper
  have hreaches : pathOf names ∈ candidates tree { rules := Ignore.rules text } root ↔
      ∀ k ≤ names.length, 0 < k →
        decision (·.Reaches (names.take k) (k < names.length)) (Ignore.rules text) ≠ some true := by
    rw [hwalked.mem_candidates_iff hproper hroot]
    refine forall_congr' fun k => forall_congr' fun hle => forall_congr' fun hk => ?_
    exact Ignore.ignored_eq_false_iff hplain (take_ne_nil hk hle)
      (fun name hname => hnames name (List.mem_of_mem_take hname)) _
  exact ⟨hreaches, fun hagain => hreaches.trans (Ignore.forall_reaches_iff_forall_names hagain)⟩

def buildTree : FileTree :=
  { root := .folder [("build".toList, .folder [("a.go".toList, .file [])])] }

def buildFile : List Text := ["build".toList, "a.go".toList]

theorem proper_build : buildTree.root.Proper :=
  .singleton (by decide) (.singleton (by decide) (.file _))

theorem isWalked_build : IsWalked buildTree [] buildFile := by
  refine ⟨by decide, .inl ⟨[], rfl⟩, fun k hlt hk => ?_⟩
  obtain rfl : k = 1 := by
    simp only [buildFile, List.length_cons, List.length_nil] at hlt
    omega
  exact ⟨⟨_, rfl⟩, by decide⟩

theorem mem_candidates_of_plain_file_again :
    (∀ rule ∈ Ignore.rules "a.go\n!a.go\n".toList, Glob.Plain rule.pattern) ∧
    (∀ k < buildFile.length, 0 < k → decision (·.Names (buildFile.take k) true)
      (Ignore.rules "a.go\n!a.go\n".toList) ≠ some false) ∧
    pathOf buildFile ∈
      candidates buildTree { rules := Ignore.rules "a.go\n!a.go\n".toList } [] := by
  have hplain : ∀ rule ∈ Ignore.rules "a.go\n!a.go\n".toList, Glob.Plain rule.pattern := by
    decide
  have hagain : ∀ k < buildFile.length, 0 < k → decision (·.Names (buildFile.take k) true)
      (Ignore.rules "a.go\n!a.go\n".toList) ≠ some false := by decide
  refine ⟨hplain, hagain, ?_⟩
  refine ((mem_candidates_of_plain buildTree [] _ _ buildFile proper_build rfl hplain
    isWalked_build).2 hagain).2 ?_
  decide

/-- Below a folder that is ignored and then included again, no rule about the folder or the file
ignores it, and yet the file is dropped: the first rule still reaches it by the folder's name. -/
theorem reincluded_folder_loses_file :
    (∀ rule ∈ Ignore.rules "build\n!build/\n".toList, Glob.Plain rule.pattern) ∧
    IsWalked buildTree [] buildFile ∧
    (∀ k ≤ buildFile.length, 0 < k → decision (·.Names (buildFile.take k) (k < buildFile.length))
      (Ignore.rules "build\n!build/\n".toList) ≠ some true) ∧
    pathOf buildFile ∉
      candidates buildTree { rules := Ignore.rules "build\n!build/\n".toList } [] := by
  refine ⟨by decide, isWalked_build, by decide, ?_⟩
  rw [isWalked_build.mem_candidates_iff proper_build rfl]
  intro hkept
  have hfile := hkept 2 (by decide) (by decide)
  revert hfile
  decide

end Breadcrumb.Sources
