import Breadcrumb.Proofs.Sources.Paths
import Breadcrumb.Proofs.Text.Joining

namespace Breadcrumb

namespace Sources

def pathOf (names : List Text) : Text := Text.join ['/'] names

/-- A file, or a link that does not lead to a folder. -/
def IsFileAt (tree : FileTree) (place : Place) : Prop :=
  (∃ bytes, tree.root.at? place = some (.file bytes)) ∨
    ∃ target, tree.root.at? place = some (.link target) ∧
      leadsToFolder tree place.dropLast target = false

/-- A folder of its own that is neither skipped, ignored nor excluded. -/
structure Enters (tree : FileTree) (filter : Filter) (root : Place) (names : List Text) : Prop where
  folder : ∃ entries, tree.root.at? (root ++ names) = some (.folder entries)
  notSkipped : ∀ name ∈ names.getLast?, name ∉ skippedFolders
  notIgnored : Ignore.ignored filter.rules (pathOf names) true = false
  notExcluded : ∀ pattern ∈ filter.selection.barred, pattern.isIn (pathOf names) = false

/-- A file that is neither ignored nor excluded, with every folder between it and the first `depth`
names entered. -/
structure KeptBeyond (tree : FileTree) (filter : Filter) (root : Place) (depth : Nat)
    (names : List Text) : Prop where
  deeper : depth < names.length
  file : IsFileAt tree (root ++ names)
  entered : ∀ k, depth < k → k < names.length → Enters tree filter root (names.take k)
  notIgnored : Ignore.ignored filter.rules (pathOf names) false = false
  notExcluded : ∀ pattern ∈ filter.selection.barred, pattern.isIn (pathOf names) = false

variable {tree : FileTree} {filter : Filter} {root : Place} {front : List Text} {name path : Text}

theorem keepsFile_iff : filter.keepsFile path = true ↔
    Ignore.ignored filter.rules path false = false ∧
      ∀ pattern ∈ filter.selection.barred, pattern.isIn path = false := by
  simp [Filter.keepsFile, Selection.excludes]

theorem keepsFolder_iff : filter.keepsFolder name path = true ↔
    name ∉ skippedFolders ∧ Ignore.ignored filter.rules path true = false ∧
      ∀ pattern ∈ filter.selection.barred, pattern.isIn path = false := by
  simp [Filter.keepsFolder, Selection.excludes, and_assoc]

theorem pathOf_ne_nil (hne : names ≠ []) (h : ∀ name ∈ names, Entry.IsName name) :
    pathOf names ≠ [] := by
  cases names with
  | nil => exact (hne rfl).elim
  | cons first names =>
    have hfirst := (h first List.mem_cons_self).1
    cases names with
    | nil => exact hfirst
    | cons next names =>
      rw [pathOf, Text.join_cons_of_ne_nil _ _ (by simp)]
      simp

theorem below_pathOf (h : ∀ name ∈ front, Entry.IsName name) (name : Text) :
    below (pathOf front) name = pathOf (front ++ [name]) := by
  by_cases hfront : front = []
  · subst hfront
    rfl
  · have hpath : (pathOf front).isEmpty = false := by simpa using pathOf_ne_nil hfront h
    rw [below, hpath, pathOf, pathOf, Text.join_append _ hfront (by simp)]
    rfl

theorem take_concat (front rest : List Text) (name : Text) :
    (front ++ name :: rest).take (front.length + 1) = front ++ [name] := by
  rw [← List.singleton_append, ← List.append_assoc, List.take_append_of_le_length (by simp)]
  exact List.take_of_length_le (by simp)

theorem exists_keptBeyond_of_leaf
    (hleaf : ∀ entries, tree.root.at? (root ++ (front ++ [name])) ≠ some (.folder entries)) :
    (∃ rest, path = pathOf (front ++ name :: rest) ∧
      KeptBeyond tree filter root front.length (front ++ name :: rest)) ↔
    IsFileAt tree (root ++ (front ++ [name])) ∧ path = pathOf (front ++ [name]) ∧
      filter.keepsFile path = true := by
  constructor
  · rintro ⟨rest, rfl, hkept⟩
    have hrest : rest = [] := by
      by_contra hne
      have hlen := List.length_pos_iff.2 hne
      have henter := hkept.entered (front.length + 1) (by omega) (by simp; omega)
      obtain ⟨entries, hentries⟩ := henter.folder
      rw [take_concat] at hentries
      exact hleaf entries hentries
    subst hrest
    exact ⟨hkept.file, rfl, keepsFile_iff.2 ⟨hkept.notIgnored, hkept.notExcluded⟩⟩
  · rintro ⟨hfile, rfl, hkeeps⟩
    obtain ⟨hignored, hexcluded⟩ := keepsFile_iff.1 hkeeps
    refine ⟨[], rfl, by simp, hfile, fun k hk hk' => ?_, hignored, hexcluded⟩
    simp only [List.length_append, List.length_singleton] at hk'
    omega

/-- What is kept below a folder is kept below one of the names in it. -/
theorem exists_keptBeyond_of_folder {entries : List (Text × Entry)}
    (hat : tree.root.at? (root ++ (front ++ [name])) = some (.folder entries)) :
    (∃ rest, path = pathOf (front ++ name :: rest) ∧
      KeptBeyond tree filter root front.length (front ++ name :: rest)) ↔
    filter.keepsFolder name (pathOf (front ++ [name])) = true ∧
      ∃ child rest, path = pathOf (front ++ [name] ++ child :: rest) ∧
        KeptBeyond tree filter root (front ++ [name]).length
          (front ++ [name] ++ child :: rest) := by
  constructor
  · rintro ⟨rest, rfl, hkept⟩
    cases rest with
    | nil =>
      rcases hkept.file with ⟨bytes, hfile⟩ | ⟨target, hlink, -⟩
      · rw [hat] at hfile
        cases hfile
      · rw [hat] at hlink
        cases hlink
    | cons child rest =>
      have henter := hkept.entered (front.length + 1) (by omega) (by simp)
      rw [take_concat] at henter
      refine ⟨keepsFolder_iff.2 ⟨henter.notSkipped name (by simp), henter.notIgnored,
        henter.notExcluded⟩, child, rest, by simp, ?_⟩
      rw [List.append_assoc, List.singleton_append]
      refine ⟨by simp, hkept.file, fun k hk => hkept.entered k ?_, hkept.notIgnored,
        hkept.notExcluded⟩
      simp only [List.length_append, List.length_singleton] at hk
      omega
  · rintro ⟨hkeeps, child, rest, rfl, hkept⟩
    obtain ⟨hskipped, hignored, hexcluded⟩ := keepsFolder_iff.1 hkeeps
    rw [List.append_assoc, List.singleton_append] at hkept ⊢
    refine ⟨child :: rest, rfl, by simp, hkept.file, fun k hk hk' => ?_, hkept.notIgnored,
      hkept.notExcluded⟩
    rcases Nat.eq_or_lt_of_le hk with rfl | hlt
    · rw [take_concat]
      refine ⟨⟨entries, hat⟩, ?_, hignored, hexcluded⟩
      intro last hlast
      rw [List.getLast?_concat, Option.mem_some_iff] at hlast
      exact hlast ▸ hskipped
    · refine hkept.entered k ?_ hk'
      simp only [List.length_append, List.length_singleton]
      omega

theorem mem_walk_of_mem {entries : List (Text × Entry)} (he : e ∈ entries)
    (h : path ∈ walkEntry tree filter place folder e.1 e.2) :
    path ∈ walk tree filter place folder entries := by
  induction entries with
  | nil => cases he
  | cons first entries ih =>
    rw [walk]
    rcases List.mem_cons.1 he with rfl | he
    · exact List.mem_append_left _ h
    · exact List.mem_append_right _ (ih he)

theorem mem_filter_singleton {keeps : Text → Bool} :
    path ∈ [other].filter keeps ↔ path = other ∧ keeps path = true := by
  rw [List.mem_filter, List.mem_singleton]

theorem KeptBeyond.exists_entry {entries : List (Text × Entry)}
    (hat : tree.root.at? (root ++ front) = some (.folder entries))
    (h : KeptBeyond tree filter root depth (front ++ name :: rest)) :
    ∃ entry, (name, entry) ∈ entries := by
  have hsome : (tree.root.at? (root ++ (front ++ name :: rest))).isSome = true := by
    rcases h.file with ⟨bytes, hfile⟩ | ⟨target, hlink, -⟩
    · rw [hfile]
      rfl
    · rw [hlink]
      rfl
  rw [← List.append_assoc, Entry.at?_append, hat, Option.bind_some, Entry.at?] at hsome
  obtain ⟨entry, hget⟩ := Option.isSome_iff_exists.1 (Option.isSome_of_isSome_bind hsome)
  exact ⟨entry, Named.mem_of_get? hget⟩

theorem at?_of_mem {entries : List (Text × Entry)}
    (hat : tree.root.at? place = some (.folder entries)) (hnodup : (entries.map (·.1)).Nodup)
    (he : e ∈ entries) : tree.root.at? (place ++ [e.1]) = some e.2 := by
  rw [Entry.at?_append, hat, Option.bind_some, Entry.at?, Named.get?_of_mem hnodup he]
  rfl

/-- The walk over the entries of a folder yields the files that are kept below their names. -/
theorem mem_walk_iff {entries : List (Text × Entry)}
    (hat : tree.root.at? (root ++ front) = some (.folder entries))
    (heach : ∀ e ∈ entries, (path ∈ walkEntry tree filter (root ++ front) (pathOf front) e.1 e.2 ↔
      ∃ rest, path = pathOf (front ++ e.1 :: rest) ∧
        KeptBeyond tree filter root front.length (front ++ e.1 :: rest))) :
    path ∈ walk tree filter (root ++ front) (pathOf front) entries ↔
      ∃ child rest, path = pathOf (front ++ child :: rest) ∧
        KeptBeyond tree filter root front.length (front ++ child :: rest) := by
  constructor
  · intro h
    obtain ⟨e, he, h⟩ := mem_walk h
    exact ⟨e.1, (heach e he).1 h⟩
  · rintro ⟨child, rest, hpath, hkept⟩
    obtain ⟨entry, hmem⟩ := hkept.exists_entry hat
    exact mem_walk_of_mem hmem ((heach _ hmem).2 ⟨rest, hpath, hkept⟩)

theorem mem_walkEntry_iff {entry : Entry} (hproper : entry.Proper)
    (hfront : ∀ other ∈ front, Entry.IsName other) (hname : Entry.IsName name)
    (hat : tree.root.at? (root ++ (front ++ [name])) = some entry) :
    path ∈ walkEntry tree filter (root ++ front) (pathOf front) name entry ↔
      ∃ rest, path = pathOf (front ++ name :: rest) ∧
        KeptBeyond tree filter root front.length (front ++ name :: rest) := by
  induction hproper generalizing front name with
  | file bytes =>
    have hfile : IsFileAt tree (root ++ (front ++ [name])) := .inl ⟨bytes, hat⟩
    rw [walkEntry, exists_keptBeyond_of_leaf (by simp [hat]), mem_filter_singleton,
      below_pathOf hfront]
    simp only [hfile, true_and]
  | link target =>
    rw [walkEntry, exists_keptBeyond_of_leaf (by simp [hat]), below_pathOf hfront]
    have hfile : IsFileAt tree (root ++ (front ++ [name])) ↔
        leadsToFolder tree (root ++ front) target = false := by
      rw [IsFileAt, hat, ← List.append_assoc, List.dropLast_concat]
      simp
    split
    · rename_i hleads
      simp [hfile, hleads]
    · rename_i hleads
      rw [mem_filter_singleton]
      simp only [hfile, Bool.not_eq_true _ ▸ hleads, true_and]
  | @folder entries nodup names inner ih =>
    rw [walkEntry, exists_keptBeyond_of_folder hat, below_pathOf hfront]
    have hwalk :
        path ∈ walk tree filter (root ++ front ++ [name]) (pathOf (front ++ [name])) entries ↔
          ∃ child rest, path = pathOf (front ++ [name] ++ child :: rest) ∧
            KeptBeyond tree filter root (front ++ [name]).length
              (front ++ [name] ++ child :: rest) := by
      rw [List.append_assoc]
      refine mem_walk_iff hat fun e he => ?_
      have hnames : ∀ other ∈ front ++ [name], Entry.IsName other := by
        intro other hother
        rcases List.mem_append.1 hother with hother | hother
        · exact hfront other hother
        · exact List.mem_singleton.1 hother ▸ hname
      refine ih e he hnames (names e he) ?_
      rw [← List.append_assoc]
      exact at?_of_mem hat nodup he
    split
    · rename_i hkeeps
      simp only [hwalk, hkeeps, true_and]
    · rename_i hkeeps
      simp [hkeeps]

theorem mem_candidates_iff (hproper : tree.root.Proper) {entries : List (Text × Entry)}
    (hroot : tree.root.at? root = some (.folder entries)) :
    path ∈ candidates tree filter root ↔
      ∃ names, path = pathOf names ∧ KeptBeyond tree filter root 0 names := by
  have hstart : tree.root.at? (root ++ []) = some (.folder entries) := by
    rw [List.append_nil, hroot]
  have hsorted : path ∈ candidates tree filter root ↔
      path ∈ walk tree filter (root ++ []) (pathOf []) entries := by
    simp only [candidates, hroot]
    rw [(List.mergeSort_perm _ _).mem_iff, List.append_nil]
    rfl
  cases hproper.at? hroot with
  | folder nodup names inner =>
    rw [hsorted, mem_walk_iff hstart fun e he => ?_]
    · constructor
      · rintro ⟨child, rest, hpath, hkept⟩
        exact ⟨child :: rest, hpath, hkept⟩
      · rintro ⟨names, hpath, hkept⟩
        cases names with
        | nil => exact (Nat.lt_irrefl 0 hkept.deeper).elim
        | cons child rest => exact ⟨child, rest, hpath, hkept⟩
    · refine mem_walkEntry_iff (inner e he) (by simp) (names e he) ?_
      rw [List.nil_append]
      exact at?_of_mem hroot nodup he

/-- A path is wanted if there are no leads, one of them stands for everything, or it begins with
one of them. -/
def Wanted (selection : Selection) (path : Text) : Prop :=
  selection.leads = [] ∨ Selection.everything ∈ selection.leads ∨
    ∃ lead ∈ selection.leads, lead <+: path

theorem includes_iff {selection : Selection} :
    selection.includes path = true ↔ Wanted selection path := by
  simp only [Selection.includes, Wanted, Bool.or_eq_true, List.isEmpty_iff, List.any_eq_true,
    decide_eq_true_eq, Text.startsWith_iff]
  refine or_congr_right ⟨?_, ?_⟩
  · rintro ⟨lead, hlead, rfl | hstarts⟩
    · exact .inl hlead
    · exact .inr ⟨lead, hlead, hstarts⟩
  · rintro (hall | ⟨lead, hlead, hstarts⟩)
    · exact ⟨_, hall, .inl rfl⟩
    · exact ⟨lead, hlead, .inr hstarts⟩

/-- The source at these names: a file that is kept, wanted and has a language. -/
structure Eligible (tree : FileTree) (registry : Registry) (filter : Filter) (root : Place)
    (names : List Text) (source : Source) : Prop where
  kept : KeptBeyond tree filter root 0 names
  place : source.place = root ++ names
  path : source.path = pathOf names
  wanted : Wanted filter.selection source.path
  language : registry.forPath? source.path = some source.language

theorem IsFileAt.isName (hproper : tree.root.Proper) (h : IsFileAt tree (root ++ names)) :
    ∀ name ∈ names, Entry.IsName name := by
  have hall : ∀ name ∈ root ++ names, Entry.IsName name := by
    rcases h with ⟨bytes, hfile⟩ | ⟨target, hlink, -⟩
    · exact hproper.isName_of_at? hfile
    · exact hproper.isName_of_at? hlink
  exact fun name hname => hall name (List.mem_append_right _ hname)

theorem KeptBeyond.split_pathOf (hproper : tree.root.Proper)
    (h : KeptBeyond tree filter root depth names) : (pathOf names).split '/' = names := by
  refine Text.split_join ?_ fun name hname => (h.file.isName hproper name hname).2
  rintro rfl
  exact Nat.not_lt_zero _ h.deeper

theorem mem_list_iff (hproper : tree.root.Proper) {entries : List (Text × Entry)}
    (hroot : tree.root.at? root = some (.folder entries)) (registry : Registry) (source : Source) :
    source ∈ list tree registry filter root ↔
      ∃ names, Eligible tree registry filter root names source := by
  rw [list, List.mem_filterMap]
  constructor
  · rintro ⟨path, hpath, hsource⟩
    obtain ⟨names, rfl, hkept⟩ := (mem_candidates_iff hproper hroot).1 hpath
    rw [source?] at hsource
    split at hsource
    · rename_i hincluded
      obtain ⟨language, hlanguage, rfl⟩ := Option.map_eq_some_iff.1 hsource
      refine ⟨names, hkept, ?_, rfl, includes_iff.1 hincluded, hlanguage⟩
      rw [hkept.split_pathOf hproper]
    · cases hsource
  · rintro ⟨names, h⟩
    refine ⟨pathOf names, (mem_candidates_iff hproper hroot).2 ⟨names, rfl, h.kept⟩, ?_⟩
    obtain ⟨place, path, language⟩ := source
    obtain ⟨hkept, rfl, rfl, hwanted, hlanguage⟩ := h
    simp only at hwanted hlanguage
    rw [source?, if_pos (includes_iff.2 hwanted), hlanguage, hkept.split_pathOf hproper]
    rfl

end Sources

end Breadcrumb
