import Breadcrumb.Proofs.Sources.Removal
import Breadcrumb.Proofs.World.Session

namespace Breadcrumb

namespace Ignore

variable {rule : Rule} {before after : List Rule} {path : Text} {isFolder : Bool}

/-- What is ignored already stays so under the rules that follow. -/
theorem ignored_foldl_mono (rules : List Rule) (path : Text) (isFolder : Bool) {old new : Bool}
    (h : old = true → new = true) :
    rules.foldl (fun soFar rule => if rule.covers path isFolder then !rule.negated else soFar) old =
        true →
      rules.foldl (fun soFar rule => if rule.covers path isFolder then !rule.negated else soFar) new =
        true := by
  induction rules generalizing old new with
  | nil => exact h
  | cons rule rules ih =>
    rw [List.foldl_cons, List.foldl_cons]
    apply ih
    split
    · exact id
    · exact h

/-- One more rule that is not negated ignores no less, wherever it stands. -/
theorem ignored_insert (hrule : rule.negated = false)
    (h : ignored (before ++ after) path isFolder = true) :
    ignored (before ++ rule :: after) path isFolder = true := by
  rw [ignored, List.foldl_append] at h ⊢
  rw [List.foldl_cons]
  refine ignored_foldl_mono after path isFolder ?_ h
  intro hbefore
  rw [hrule]
  split
  · rfl
  · exact hbefore

theorem Rule.ofPattern?_negated {negate : Bool} {pattern : Text}
    (h : ofPattern? negate pattern = some rule) :
    rule.negated = negate := by
  rw [ofPattern?] at h
  split at h
  · cases h
  · cases h
    rfl

theorem Rule.ofLine?_negated (hline : line.trim.head? ≠ some '!') (h : ofLine? line = some rule) :
    rule.negated = false := by
  rw [ofLine?] at h
  split at h
  · cases h
  · cases h
  · rename_i htrim
    rw [htrim] at hline
    exact (hline rfl).elim
  · exact ofPattern?_negated h

theorem ignored_insertLine {lines more : List Text} (hline : line.trim.head? ≠ some '!')
    (h : ignored ((lines ++ more).filterMap Rule.ofLine?) path isFolder = true) :
    ignored ((lines ++ line :: more).filterMap Rule.ofLine?) path isFolder = true := by
  rw [List.filterMap_append] at h ⊢
  cases hrule : Rule.ofLine? line with
  | none => rwa [List.filterMap_cons_none hrule]
  | some rule =>
    rw [List.filterMap_cons_some hrule]
    exact ignored_insert (Rule.ofLine?_negated hline hrule) h

end Ignore

namespace Pattern

theorem compileAll_cons (h : compileAll (expression :: rest) = .ok patterns) :
    ∃ pattern more, compile expression = .ok pattern ∧ compileAll rest = .ok more ∧
      patterns = pattern :: more := by
  rw [compileAll] at h
  obtain ⟨pattern, hpattern, h⟩ := exists_of_bind_eq_ok h
  obtain ⟨more, hmore, h⟩ := exists_of_bind_eq_ok h
  cases h
  exact ⟨pattern, more, hpattern, hmore, rfl⟩

theorem compile_of_mem {expressions : List Text} (h : compileAll expressions = .ok patterns)
    (hmem : expression ∈ expressions) : ∃ pattern ∈ patterns, compile expression = .ok pattern := by
  induction expressions generalizing patterns with
  | nil => cases hmem
  | cons first rest ih =>
    obtain ⟨pattern, more, hpattern, hmore, rfl⟩ := compileAll_cons h
    rcases List.mem_cons.1 hmem with rfl | hrest
    · exact ⟨pattern, List.mem_cons_self, hpattern⟩
    · obtain ⟨found, hfound, hcompile⟩ := ih hmore hrest
      exact ⟨found, List.mem_cons_of_mem _ hfound, hcompile⟩

/-- Of expressions that are all patterns, any choice is too. -/
theorem compileAll_subset {fewer expressions : List Text} {patterns : List Pattern}
    (hsubset : fewer ⊆ expressions) (h : compileAll expressions = .ok patterns) :
    ∃ chosen, compileAll fewer = .ok chosen ∧ chosen ⊆ patterns := by
  induction fewer with
  | nil => exact ⟨[], rfl, List.nil_subset _⟩
  | cons expression fewer ih =>
    obtain ⟨hmem, hfewer⟩ := List.cons_subset.1 hsubset
    obtain ⟨chosen, hchosen, hchosenSubset⟩ := ih hfewer
    obtain ⟨pattern, hpattern, hcompile⟩ := compile_of_mem h hmem
    refine ⟨pattern :: chosen, ?_, List.cons_subset.2 ⟨hpattern, hchosenSubset⟩⟩
    rw [compileAll, hcompile, hchosen]
    rfl

end Pattern

namespace Sources

variable {tree : FileTree} {filter strict : Filter} {root : Place} {registry : Registry}

/-- What a filter keeps out, the stricter one keeps out too. -/
structure Stricter (filter strict : Filter) : Prop where
  ignored : ∀ path isFolder, Ignore.ignored filter.rules path isFolder = true →
    Ignore.ignored strict.rules path isFolder = true
  barred : filter.selection.barred ⊆ strict.selection.barred
  wanted : ∀ path, Wanted strict.selection path → Wanted filter.selection path

theorem Stricter.notIgnored (h : Stricter filter strict)
    (hkept : Ignore.ignored strict.rules path isFolder = false) :
    Ignore.ignored filter.rules path isFolder = false := by
  rw [Bool.eq_false_iff] at hkept ⊢
  exact fun hignored => hkept (h.ignored path isFolder hignored)

theorem Enters.relax (h : Stricter filter strict) (henters : Enters tree strict root names) :
    Enters tree filter root names :=
  ⟨henters.folder, henters.notSkipped, h.notIgnored henters.notIgnored,
    fun pattern hpattern => henters.notExcluded pattern (h.barred hpattern)⟩

/-- What a stricter filter lets through is let through, with every folder on the way. -/
theorem Eligible.relax (h : Stricter filter strict)
    (heligible : Eligible tree registry strict root names source) :
    Eligible tree registry filter root names source := by
  obtain ⟨⟨hdeeper, hfile, hentered, hignored, hexcluded⟩, hplace, hpath, hwanted, hlanguage⟩ :=
    heligible
  refine ⟨⟨hdeeper, hfile, ?_, h.notIgnored hignored, ?_⟩, hplace, hpath, h.wanted _ hwanted,
    hlanguage⟩
  · exact fun k hk hk' => (hentered k hk hk').relax h
  · exact fun pattern hpattern => hexcluded pattern (h.barred hpattern)

theorem stricter_barred {fewer barred : List Pattern} (hsubset : fewer ⊆ barred)
    (rules : List Ignore.Rule) (leads : List Text) :
    Stricter { rules, selection := { leads, barred := fewer } }
      { rules, selection := { leads, barred } } :=
  ⟨fun _ _ => id, hsubset, fun _ => id⟩

theorem stricter_leads {fewer leads : List Text} (hfewer : fewer ≠ []) (hsubset : fewer ⊆ leads)
    (rules : List Ignore.Rule) (barred : List Pattern) :
    Stricter { rules, selection := { leads, barred } }
      { rules, selection := { leads := fewer, barred } } := by
  refine ⟨fun _ _ => id, List.Subset.refl _, ?_⟩
  rintro path (hnone | heverything | ⟨lead, hlead, hleads⟩)
  · exact (hfewer hnone).elim
  · exact .inr (.inl (hsubset heverything))
  · exact .inr (.inr ⟨lead, hsubset hlead, hleads⟩)

theorem stricter_everything {leads : List Text} (h : Selection.everything ∈ leads)
    (rules : List Ignore.Rule) (barred : List Pattern) :
    Stricter { rules, selection := { leads, barred } } { rules, selection := { barred } } :=
  ⟨fun _ _ => id, List.Subset.refl _, fun _ _ => .inr (.inl h)⟩

theorem stricter_leadless (leads : List Text) (rules : List Ignore.Rule) (barred : List Pattern) :
    Stricter { rules, selection := { barred } } { rules, selection := { leads, barred } } :=
  ⟨fun _ _ => id, List.Subset.refl _, fun _ _ => .inl rfl⟩

theorem stricter_insertLine {before after : List Text} (hline : line.trim.head? ≠ some '!')
    (selection : Selection) :
    Stricter { rules := (before ++ after).filterMap Ignore.Rule.ofLine?, selection }
      { rules := (before ++ line :: after).filterMap Ignore.Rule.ofLine?, selection } :=
  ⟨fun _ _ => Ignore.ignored_insertLine hline, List.Subset.refl _, fun _ => id⟩

/-- Of two lists in strictly ascending order of the paths, the one with fewer members is part of
the other. -/
theorem sublist_of_subset {found fewer : List Source} (h : found.Pairwise (·.path < ·.path))
    (hfewer : fewer.Pairwise (·.path < ·.path)) (hsubset : fewer ⊆ found) :
    fewer.Sublist found := by
  classical
  have hfilter : found.filter (· ∈ fewer) = fewer := by
    refine eq_of_mem_iff (h.filter _) hfewer ?_
    intro source
    simp only [List.mem_filter, decide_eq_true_eq, and_iff_right_iff_imp]
    exact fun hsource => hsubset hsource
  have hpart : (found.filter (· ∈ fewer)).Sublist found := List.filter_sublist
  rwa [hfilter] at hpart

theorem list_sublist (hproper : tree.root.Proper) (h : Stricter filter strict)
    (registry : Registry) (root : Place) :
    (list tree registry strict root).Sublist (list tree registry filter root) := by
  by_cases hroot : ∃ entries, tree.root.at? root = some (.folder entries)
  · obtain ⟨entries, hfolder⟩ := hroot
    refine sublist_of_subset (list_paths_sorted hproper registry root)
      (list_paths_sorted hproper registry root) ?_
    intro source hsource
    obtain ⟨names, heligible⟩ := (mem_list_iff hproper hfolder registry source).1 hsource
    exact (mem_list_iff hproper hfolder registry source).2 ⟨names, heligible.relax h⟩
  · rw [list_of_not_folder hroot, list_of_not_folder hroot]

theorem list_everything (hproper : tree.root.Proper) (h : Selection.everything ∈ leads)
    (registry : Registry) (root : Place) (rules : List Ignore.Rule) (barred : List Pattern) :
    list tree registry { rules, selection := { leads, barred } } root =
      list tree registry { rules, selection := { barred } } root :=
  (list_sublist hproper (stricter_leadless leads rules barred) registry root).antisymm
    (list_sublist hproper (stricter_everything h rules barred) registry root)

end Sources

end Breadcrumb
