import Breadcrumb.Proofs.Run.Walking

namespace Breadcrumb

namespace Text

theorem split_ne_nil (sep : Char) (text : Text) : split sep text ≠ [] := by
  cases text with
  | nil => simp [split]
  | cons c text =>
    rw [split]
    split
    · simp
    · split <;> simp

theorem split_append_sep (sep : Char) (text rest : Text) :
    split sep (text ++ sep :: rest) = split sep text ++ split sep rest := by
  induction text with
  | nil => simp [split]
  | cons c text ih =>
    rw [List.cons_append, split, split, ih]
    by_cases hc : c = sep
    · rw [if_pos hc, if_pos hc, List.cons_append]
    · rw [if_neg hc, if_neg hc]
      cases hpieces : split sep text with
      | nil => exact (split_ne_nil sep text hpieces).elim
      | cons piece more => rfl

theorem join_split (sep : Char) (text : Text) : join [sep] (split sep text) = text := by
  induction text with
  | nil => rfl
  | cons c text ih =>
    rw [split]
    by_cases hc : c = sep
    · rw [if_pos hc, join_cons_of_ne_nil _ _ (split_ne_nil sep text), ih, hc]
      rfl
    · rw [if_neg hc]
      cases hpieces : split sep text with
      | nil => exact (split_ne_nil sep text hpieces).elim
      | cons piece more =>
        rw [hpieces] at ih
        cases more with
        | nil => exact congrArg (c :: ·) ih
        | cons next more => exact congrArg (c :: ·) ih

end Text

theorem Place.exists_toText_append_split (root : Place) (path : Text) :
    ∃ lead, Place.toText (root ++ path.split '/') = lead ++ '/' :: path := by
  by_cases hroot : root = []
  · subst hroot
    refine ⟨[], ?_⟩
    exact congrArg ('/' :: ·) (Text.join_split '/' path)
  · refine ⟨'/' :: Text.join ['/'] root, ?_⟩
    have hjoin := Text.join_append ['/'] hroot (Text.split_ne_nil '/' path)
    rw [Text.join_split, List.append_assoc] at hjoin
    exact congrArg ('/' :: ·) hjoin

namespace Path

theorem names_ofText_append (lead path : Text) :
    (ofText (lead ++ '/' :: path)).names = (ofText lead).names ++ (ofText path).names := by
  simp only [ofText, Text.split_append_sep, List.filter_append]

theorem names_ne_nil_of_suffix {path : Path} (h : path.suffix ≠ []) : path.names ≠ [] := by
  intro hnames
  rw [suffix, name, hnames] at h
  exact h rfl

theorem suffix_ofText_append (lead : Text) (h : (ofText path).suffix ≠ []) :
    (ofText (lead ++ '/' :: path)).suffix = (ofText path).suffix := by
  have hnames := names_ne_nil_of_suffix h
  rw [suffix, suffix, name, name, names_ofText_append, List.getLast?_append_of_ne_nil _ hnames]

end Path

namespace Registry

variable {registry registry' : Registry} {language : Language} {languages : List Language}

theorem forPath?_append (lead : Text) (h : registry.forPath? path = some language) :
    registry.forPath? (lead ++ '/' :: path) = some language := by
  have hsuffix : (Path.ofText path).suffix ≠ [] := by
    intro hnil
    rw [forPath?, hnil] at h
    cases h
  rw [forPath?, Path.suffix_ofText_append lead hsuffix]
  exact h

theorem languages_of_enter (h : enter language names registry = .ok registry') :
    registry'.languages = registry.languages := by
  induction names generalizing registry with
  | nil =>
    cases h
    rfl
  | cons name names ih =>
    rw [enter] at h
    split at h
    · cases h
    · have hrest := ih h
      exact hrest

theorem languages_of_insert (h : registry.insert language = .ok registry') :
    registry'.languages = registry.languages ++ [language] := by
  rw [insert] at h
  cases henter : enter language language.extensions registry with
  | error clash =>
    rw [henter] at h
    cases h
  | ok entered =>
    rw [henter] at h
    cases h
    exact congrArg (· ++ [language]) (languages_of_enter henter)

theorem languages_of_ofListFrom (h : ofListFrom registry languages = .ok registry') :
    registry'.languages = registry.languages ++ languages := by
  induction languages generalizing registry with
  | nil =>
    cases h
    exact (List.append_nil _).symm
  | cons language languages ih =>
    rw [ofListFrom] at h
    cases hinsert : registry.insert language with
    | error clash =>
      rw [hinsert] at h
      cases h
    | ok inserted =>
      rw [hinsert] at h
      rw [ih h, languages_of_insert hinsert, List.append_assoc]
      rfl

theorem orStandard_of_ofList (h : ofList languages = .ok registry) :
    registry.orStandard = if languages = [] then standard else registry := by
  have hlanguages : registry.languages = languages := languages_of_ofListFrom h
  rw [orStandard, size, hlanguages]
  simp only [List.length_eq_zero_iff]

end Registry

namespace Run

/-- The registry resolves the file of a source to the language it is scanned in. -/
def Resolves (registry : Registry) (source : Source) : Prop :=
  registry.forPath? source.place.toText = some source.language

theorem resolves_of_source? {registry : Registry}
    (h : Sources.source? registry selection root path = some source) : Resolves registry source := by
  rw [Sources.source?] at h
  split at h
  · obtain ⟨language, hlanguage, rfl⟩ := Option.map_eq_some_iff.1 h
    obtain ⟨lead, hlead⟩ := Place.exists_toText_append_split root path
    rw [Resolves, hlead]
    exact Registry.forPath?_append lead hlanguage
  · cases h

theorem resolves_of_sources {registry : Registry} {tree : FileTree}
    (h : sources registry root included excluded tree = .ok found) :
    ∀ source ∈ found, Resolves registry source := by
  obtain ⟨place, rules, selection, -, -, -, rfl⟩ := of_sources h
  intro source hsource
  obtain ⟨path, -, hpath⟩ := List.mem_filterMap.1 hsource
  exact resolves_of_source? hpath

/-- A scanner that is handed the registry of some languages yields only files that this registry
resolves, in the language it resolves them to; if there are no languages, the standard registry
decides in its place. The same holds of the files that a collection visits. -/
theorem sources_resolved_by_registry (languages : List Language) (registry : Registry)
    (hregistry : Registry.ofList languages = .ok registry) :
    let deciding := if languages = [] then Registry.standard else registry
    (∀ root included excluded tree found,
      sources registry.orStandard root included excluded tree = .ok found →
        ∀ source ∈ found, Resolves deciding source) ∧
    ∀ request world trips, visits registry.orStandard request world = .ok trips →
      ∀ visit ∈ trips, Resolves deciding visit.source := by
  intro deciding
  have hdeciding : registry.orStandard = deciding := Registry.orStandard_of_ofList hregistry
  rw [hdeciding]
  refine ⟨?_, ?_⟩
  · intro root included excluded tree found hfound
    exact resolves_of_sources hfound
  · intro request world trips htrips visit hvisit
    obtain ⟨found, sign, record, hfound, rfl⟩ := of_visits htrips
    apply resolves_of_sources hfound
    rw [← visitsFrom_sources sign (world.emit record) found]
    exact List.mem_map_of_mem hvisit

def mixedFiles : List (Text × Entry) :=
  [("a.sql".toList, .file []), ("b.go".toList, .file [])]

def mixedTree : FileTree := { root := .folder [("p".toList, .folder mixedFiles)] }

def queryLanguage : Language := .lineComments "SQL" [" SQL "] "--"

def queryRegistry : Registry :=
  { languages := [queryLanguage], entries := [(".sql".toList, queryLanguage)] }

theorem sources_mixed (registry : Registry) :
    sources registry "/p".toList [] [] mixedTree = .ok (["a.sql".toList, "b.go".toList].filterMap
      (Sources.source? registry {} ["p".toList])) := by
  have hplace : projectFolder "/p".toList mixedTree = .ok ["p".toList] := by decide
  have hrules : ignoreRules mixedTree ["p".toList] = .ok [] := by decide
  have hwalk : Sources.walk mixedTree {} ["p".toList] [] mixedFiles =
      ["a.sql".toList, "b.go".toList] := by decide
  have hcandidates : Sources.candidates mixedTree {} ["p".toList] =
      ["a.sql".toList, "b.go".toList] := by
    change (Sources.walk mixedTree {} ["p".toList] [] mixedFiles).mergeSort Text.le = _
    rw [hwalk]
    exact List.mergeSort_of_pairwise (by decide)
  rw [sources_eq_ok hplace hrules rfl, ← hcandidates]
  rfl

theorem sources_resolved_by_registry_query :
    Registry.ofList [queryLanguage] = .ok queryRegistry ∧
    ∃ found, sources queryRegistry.orStandard "/p".toList [] [] mixedTree = .ok found ∧
      found.map (·.path) = ["a.sql".toList] ∧
      ∀ source ∈ found, Resolves queryRegistry source := by
  have hregistry : Registry.ofList [queryLanguage] = .ok queryRegistry := by rfl
  have hresolved := (sources_resolved_by_registry [queryLanguage] queryRegistry hregistry).1
    "/p".toList [] [] mixedTree _ (sources_mixed queryRegistry)
  exact ⟨hregistry, _, sources_mixed queryRegistry, by decide, hresolved⟩

/-- The registry of no languages resolves no file, and yet the standard sources are found. -/
theorem empty_registry_yields_standard_source :
    ∃ registry found, Registry.ofList [] = .ok registry ∧
      sources registry.orStandard "/p".toList [] [] mixedTree = .ok found ∧
      found.map (·.path) = ["b.go".toList] ∧
      ∀ source ∈ found, registry.forPath? source.place.toText = none := by
  refine ⟨{}, _, rfl, sources_mixed _, by decide, ?_⟩
  intro source _
  rw [Registry.forPath?]
  split <;> rfl

end Run

end Breadcrumb
