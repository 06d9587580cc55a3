import Breadcrumb.Proofs.Run.Conservation
import Breadcrumb.Proofs.Sources.Eligible

namespace Breadcrumb.Run

theorem sources_eq_ok {tree : FileTree} (hplace : projectFolder root tree = .ok place)
    (hrules : ignoreRules tree place = .ok rules)
    (hbarred : Pattern.compileAll excluded = .ok barred) (registry : Registry)
    (included : List Text) :
    sources registry root included excluded tree =
      .ok (Sources.list tree registry { rules, selection := { leads := included, barred } }
        place) := by
  refine sources_of_parts hplace hrules ?_
  rw [Selection.ofTexts, hbarred]
  rfl

/-- Under a project folder that is there, with ignore rules and expressions that can be read, every
eligible file is a source and nothing else is; the sources ascend strictly by path. -/
theorem sources_eligible (registry : Registry) (root : Text) (included excluded : List Text)
    (tree : FileTree) (place : Place) (entries : List (Text × Entry)) (rules : List Ignore.Rule)
    (barred : List Pattern) (hproper : tree.root.Proper)
    (hplace : projectFolder root tree = .ok place)
    (hfolder : tree.root.at? place = some (.folder entries))
    (hrules : ignoreRules tree place = .ok rules)
    (hbarred : Pattern.compileAll excluded = .ok barred) :
    ∃ found, sources registry root included excluded tree = .ok found ∧
      (∀ source, source ∈ found ↔ ∃ names, Sources.Eligible tree registry
        { rules, selection := { leads := included, barred } } place names source) ∧
      found.Pairwise (·.path < ·.path) := by
  refine ⟨_, sources_eq_ok hplace hrules hbarred registry included, ?_, ?_⟩
  · exact Sources.mem_list_iff hproper hfolder registry
  · exact Sources.list_paths_sorted hproper registry place

def loopedFiles : List (Text × Entry) :=
  [("self.go".toList, .link "self.go".toList), ("loop".toList, .link ".".toList),
    ("build".toList, .folder [("b.go".toList, .file [])]),
    (".gitignore".toList, .file (Encoding.encode "build/\n".toList))]

def loopedTree : FileTree := { root := .folder [("p".toList, .folder loopedFiles)] }

def loopedRules : List Ignore.Rule := [{ pattern := "build".toList, folderOnly := true }]

theorem proper_looped : loopedTree.root.Proper := by
  have hbuild : (Entry.folder [("b.go".toList, .file [])]).Proper :=
    .singleton (by decide) (.file _)
  have hfiles : (Entry.folder loopedFiles).Proper := by
    refine .folder (by decide) (by decide) ?_
    intro e he
    simp only [loopedFiles, List.mem_cons, List.not_mem_nil, or_false] at he
    rcases he with rfl | rfl | rfl | rfl
    · exact .link _
    · exact .link _
    · exact hbuild
    · exact .file _
  exact .singleton (by decide) hfiles

theorem sources_eligible_looped :
    loopedTree.root.Proper ∧ projectFolder "/p".toList loopedTree = .ok ["p".toList] ∧
    loopedTree.root.at? ["p".toList] = some (.folder loopedFiles) ∧
    ignoreRules loopedTree ["p".toList] = .ok loopedRules ∧
    Pattern.compileAll [] = .ok [] ∧
    ∃ found, sources slashRegistry "/p".toList [] [] loopedTree = .ok found ∧
      (∃ source ∈ found, source.path = "self.go".toList) ∧
      ∀ source ∈ found, source.path ≠ "build/b.go".toList := by
  have hplace : projectFolder "/p".toList loopedTree = .ok ["p".toList] := by decide
  have hrules : ignoreRules loopedTree ["p".toList] = .ok loopedRules := by decide
  obtain ⟨found, hfound, heligible, -⟩ := sources_eligible slashRegistry "/p".toList [] []
    loopedTree ["p".toList] loopedFiles loopedRules [] proper_looped hplace rfl hrules rfl
  refine ⟨proper_looped, hplace, rfl, hrules, rfl, found, hfound, ?_, ?_⟩
  · refine ⟨⟨["p".toList, "self.go".toList], "self.go".toList,
      Language.lineComments "Go" [".go"] "//"⟩, ?_, rfl⟩
    refine (heligible _).2 ⟨["self.go".toList], ?_, rfl, rfl, .inl rfl, by decide⟩
    refine ⟨by decide, .inr ⟨_, rfl, by decide⟩, ?_, by decide, by simp⟩
    intro k hk hk'
    simp only [List.length_singleton] at hk'
    omega
  · intro source hsource hpath
    obtain ⟨names, h⟩ := (heligible source).1 hsource
    have hnames := h.kept.split_pathOf proper_looped
    rw [← h.path, hpath] at hnames
    subst hnames
    have hbuild := (h.kept.entered 1 (by decide) (by decide)).notIgnored
    revert hbuild
    decide

end Breadcrumb.Run
