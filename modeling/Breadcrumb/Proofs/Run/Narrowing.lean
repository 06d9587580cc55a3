import Breadcrumb.Proofs.Run.Shadowing
import Breadcrumb.Proofs.Run.Walking
import Breadcrumb.Proofs.Sources.Narrowing

namespace Breadcrumb.Run

variable {tree tree' : FileTree} {place file : Place} {registry : Registry}

/-- Of two searches for sources the first finds part of what the second does, or both fail alike. -/
inductive Narrows : Except Failure (List Source) → Except Failure (List Source) → Prop
  | found {fewer found : List Source} : fewer.Sublist found → Narrows (.ok fewer) (.ok found)
  | failed (failure : Failure) : Narrows (.error failure) (.error failure)

def ignoreLines (bytes : Bytes) : Except DecodeFault (List Text) :=
  (Encoding.utf8.decode bytes).map (·.unixLines.anyLines)

/-- A project's sources fail with its folder or its ignore rules; else they are those under the
expressions. -/
theorem sources_cases (root : Text) (tree : FileTree) :
    (∃ failure, ∀ (registry : Registry) (included excluded : List Text),
      sources registry root included excluded tree = .error failure) ∨
    ∃ place rules, ∀ (registry : Registry) (included excluded : List Text),
      sources registry root included excluded tree =
        ((Selection.ofTexts included excluded).mapError Failure.expression).map fun selection =>
          Sources.list tree registry { rules, selection } place := by
  cases hplace : projectFolder root tree with
  | error failure =>
    refine .inl ⟨failure, ?_⟩
    intro registry included excluded
    rw [sources, hplace]
    rfl
  | ok place =>
    cases hrules : ignoreRules tree place with
    | error failure =>
      refine .inl ⟨failure, ?_⟩
      intro registry included excluded
      simp only [sources, hplace, hrules, bind, Except.bind]
    | ok rules =>
      refine .inr ⟨place, rules, ?_⟩
      intro registry included excluded
      simp only [sources, hplace, hrules, bind, Except.bind]
      cases (Selection.ofTexts included excluded).mapError Failure.expression <;> rfl

theorem sources_narrow_excluded (hproper : tree.root.Proper) {fewer excluded : List Text}
    (hsubset : fewer ⊆ excluded) (hbarred : Pattern.compileAll excluded = .ok barred)
    (registry : Registry) (root : Text) (included : List Text) :
    Narrows (sources registry root included excluded tree)
      (sources registry root included fewer tree) := by
  obtain ⟨chosen, hchosen, hchosenSubset⟩ := Pattern.compileAll_subset hsubset hbarred
  rcases sources_cases root tree with ⟨failure, hfails⟩ | ⟨place, rules, hfound⟩
  · rw [hfails, hfails]
    exact .failed failure
  · rw [hfound, hfound, Selection.ofTexts, Selection.ofTexts, hbarred, hchosen]
    exact .found (Sources.list_sublist hproper
      (Sources.stricter_barred hchosenSubset rules included) registry place)

theorem sources_narrow_included (hproper : tree.root.Proper) {fewer included : List Text}
    (hfewer : fewer ≠ []) (hsubset : fewer ⊆ included) (registry : Registry) (root : Text)
    (excluded : List Text) :
    Narrows (sources registry root fewer excluded tree)
      (sources registry root included excluded tree) := by
  rcases sources_cases root tree with ⟨failure, hfails⟩ | ⟨place, rules, hfound⟩
  · rw [hfails, hfails]
    exact .failed failure
  · rw [hfound, hfound, Selection.ofTexts, Selection.ofTexts]
    cases Pattern.compileAll excluded with
    | error rejection => exact .failed _
    | ok barred =>
      exact .found (Sources.list_sublist hproper
        (Sources.stricter_leads hfewer hsubset rules barred) registry place)

theorem sources_everything (hproper : tree.root.Proper) {included : List Text}
    (h : Selection.everything ∈ included) (registry : Registry) (root : Text)
    (excluded : List Text) :
    sources registry root included excluded tree = sources registry root [] excluded tree := by
  rcases sources_cases root tree with ⟨failure, hfails⟩ | ⟨place, rules, hfound⟩
  · rw [hfails, hfails]
  · rw [hfound, hfound, Selection.ofTexts, Selection.ofTexts]
    cases Pattern.compileAll excluded with
    | error rejection => rfl
    | ok barred =>
      simp only [Except.map, Except.mapError]
      rw [Sources.list_everything hproper h]

theorem ignoreRules_of_lines
    (hfile : tree.locate true (Place.toPath (place ++ [ignoreFile])) = .ok (.found file (.file bytes)))
    (hlines : ignoreLines bytes = .ok lines) :
    ignoreRules tree place = .ok (lines.filterMap Ignore.Rule.ofLine?) := by
  have hread : tree.read (Place.toPath (place ++ [ignoreFile])) = .ok bytes := by
    rw [FileTree.read, hfile]
  rw [ignoreLines] at hlines
  rw [ignoreRules, FileTree.exists?_of_read hread, hread]
  cases htext : Encoding.utf8.decode bytes with
  | error fault =>
    rw [htext] at hlines
    cases hlines
  | ok text =>
    rw [htext] at hlines
    cases hlines
    simp only [bind, Except.bind, Except.mapError, htext]
    rfl

theorem locate_putFile (hfile : tree.locate true path = .ok (.found file (.file bytes)))
    (bytes' : Bytes) :
    (tree.putFile file bytes').locate true path = .ok (.found file (.file bytes')) := by
  have hat := FileTree.at?_of_locate_found hfile
  have hmatches := FileTree.matches_putFile hat (List.mem_singleton_self file) bytes'
  obtain ⟨new, hnew, -⟩ := hmatches.forth.locate_found hfile
  have hput : (tree.root.put file (.file bytes')).outlineAt? file = some (.file bytes') :=
    FileTree.outlineAt?_put_self (Entry.writable_of_file hat) rfl
  have hfound : some new = some (.file bytes') :=
    (FileTree.at?_of_locate_found hnew).symm.trans (Entry.outlineAt?_eq_file.1 hput)
  rw [hnew, Option.some.inj hfound]

theorem sources_narrow_insertLine (hproper : tree.root.Proper)
    (hplace : projectFolder root tree = .ok place)
    (hfile : tree.locate true (Place.toPath (place ++ [ignoreFile])) = .ok (.found file (.file bytes)))
    (hlines : ignoreLines bytes = .ok (before ++ after))
    (hlines' : ignoreLines bytes' = .ok (before ++ line :: after))
    (hline : line.trim.head? ≠ some '!') (registry : Registry) (included excluded : List Text) :
    Narrows (sources registry root included excluded (tree.putFile file bytes'))
      (sources registry root included excluded tree) := by
  have hat := FileTree.at?_of_locate_found hfile
  have hmatches := FileTree.matches_putFile hat (List.mem_singleton_self file) bytes'
  have hproper' : (tree.putFile file bytes').root.Proper :=
    hproper.put (.file bytes') (hproper.isName_of_at? hat)
  have hplace' := (projectFolder_matches hmatches root).trans hplace
  have hrules := ignoreRules_of_lines hfile hlines
  have hrules' := ignoreRules_of_lines (locate_putFile hfile bytes') hlines'
  cases hbarred : Pattern.compileAll excluded with
  | error rejection =>
    simp only [sources, hplace, hplace', hrules, hrules', Selection.ofTexts, hbarred, bind,
      Except.bind, Except.map, Except.mapError]
    exact .failed _
  | ok barred =>
    rw [sources_eq_ok hplace hrules hbarred, sources_eq_ok hplace' hrules' hbarred,
      Sources.list_matches hmatches hproper hproper']
    exact .found (Sources.list_sublist hproper (Sources.stricter_insertLine hline _) registry place)

/-- With more expressions, with fewer leads and with one more line that is not negated in the ignore
file, what is found is part of what was found before; a lead for everything is as good as none. -/
theorem sources_narrow (registry : Registry) (root : Text) (tree : FileTree)
    (hproper : tree.root.Proper) :
    (∀ included fewer excluded barred, fewer ⊆ excluded →
      Pattern.compileAll excluded = .ok barred →
      Narrows (sources registry root included excluded tree)
        (sources registry root included fewer tree)) ∧
    (∀ fewer included excluded, fewer ≠ [] → fewer ⊆ included →
      Narrows (sources registry root fewer excluded tree)
        (sources registry root included excluded tree)) ∧
    (∀ included excluded, Selection.everything ∈ included →
      sources registry root included excluded tree = sources registry root [] excluded tree) ∧
    ∀ place file bytes bytes' before after line included excluded,
      projectFolder root tree = .ok place →
      tree.locate true (Place.toPath (place ++ [ignoreFile])) = .ok (.found file (.file bytes)) →
      ignoreLines bytes = .ok (before ++ after) →
      ignoreLines bytes' = .ok (before ++ line :: after) → line.trim.head? ≠ some '!' →
      Narrows (sources registry root included excluded (tree.putFile file bytes'))
        (sources registry root included excluded tree) := by
  refine ⟨?_, ?_, ?_, ?_⟩
  · intro included fewer excluded barred hsubset hbarred
    exact sources_narrow_excluded hproper hsubset hbarred registry root included
  · intro fewer included excluded hfewer hsubset
    exact sources_narrow_included hproper hfewer hsubset registry root excluded
  · intro included excluded heverything
    exact sources_everything hproper heverything registry root excluded
  · intro place file bytes bytes' before after line included excluded hplace hfile hlines hlines'
      hline
    exact sources_narrow_insertLine hproper hplace hfile hlines hlines' hline registry included
      excluded

def narrowedTree : FileTree :=
  loopedTree.putFile ["p".toList, ignoreFile] (Encoding.encode "build/\nself.*\n".toList)

theorem sources_narrow_looped :
    loopedTree.root.Proper ∧
    Pattern.compileAll ["^b".toList, "f$".toList] =
      .ok (((Pattern.compileAll ["^b".toList, "f$".toList]).toOption).getD []) ∧
    projectFolder "/p".toList loopedTree = .ok ["p".toList] ∧
    Narrows (sources slashRegistry "/p".toList [] ["^b".toList, "f$".toList] loopedTree)
      (sources slashRegistry "/p".toList [] ["f$".toList] loopedTree) ∧
    Narrows (sources slashRegistry "/p".toList ["s".toList] [] loopedTree)
      (sources slashRegistry "/p".toList ["b".toList, "s".toList] [] loopedTree) ∧
    sources slashRegistry "/p".toList [Selection.everything] [] loopedTree =
      sources slashRegistry "/p".toList [] [] loopedTree ∧
    Narrows (sources slashRegistry "/p".toList [] [] narrowedTree)
      (sources slashRegistry "/p".toList [] [] loopedTree) := by
  obtain ⟨hexcluded, hincluded, heverything, hline⟩ :=
    sources_narrow slashRegistry "/p".toList loopedTree proper_looped
  have hplace : projectFolder "/p".toList loopedTree = .ok ["p".toList] := by cbv
  have hbarred : Pattern.compileAll ["^b".toList, "f$".toList] =
      .ok (((Pattern.compileAll ["^b".toList, "f$".toList]).toOption).getD []) := by cbv
  refine ⟨proper_looped, hbarred, hplace, ?_, ?_, ?_, ?_⟩
  · exact hexcluded [] ["f$".toList] _ _ (by decide) hbarred
  · exact hincluded _ _ [] (by decide) (by decide)
  · exact heverything _ [] (by decide)
  · exact hline ["p".toList] ["p".toList, ignoreFile] (Encoding.encode "build/\n".toList)
      (Encoding.encode "build/\nself.*\n".toList) ["build/".toList] [] "self.*".toList [] [] hplace rfl
      (by cbv) (by cbv) (by decide)

end Breadcrumb.Run
