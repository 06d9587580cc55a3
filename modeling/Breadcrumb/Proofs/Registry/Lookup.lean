import Breadcrumb.Proofs.FileTree.Proper
import Breadcrumb.Proofs.Registry.Deciding
import Breadcrumb.Proofs.Text.Ascii
import Breadcrumb.Proofs.Text.Compare

namespace Breadcrumb

/-- One of the language's extensions is the same as this one. -/
def Language.Owns (language : Language) (extension : Text) : Prop :=
  ∃ own ∈ language.extensions, Registry.key own = Registry.key extension

instance (language : Language) (extension : Text) : Decidable (language.Owns extension) :=
  inferInstanceAs (Decidable (∃ own ∈ language.extensions, Registry.key own = Registry.key extension))

namespace Registry

variable {registry : Registry} {language other : Language} {languages : List Language}
  {entries more : List (Text × Language)} {clash clash' : Clash} {k : Text}

def entriesOf (language : Language) (extensions : List Text) : List (Text × Language) :=
  extensions.map (key ·, language)

def allEntries (languages : List Language) : List (Text × Language) :=
  languages.flatMap fun language => entriesOf language language.extensions

/-- The first key that comes again, with the language that has it and the one that asks for it. -/
inductive FirstClash : List (Text × Language) → Clash → Prop
  | intro (before after : List (Text × Language)) (k : Text) (earlier later : Language) :
    (before.map (·.1)).Nodup → (k, earlier) ∈ before →
    FirstClash (before ++ (k, later) :: after) ⟨k, earlier.name, later.name⟩

theorem FirstClash.append (h : FirstClash entries clash) (more : List (Text × Language)) :
    FirstClash (entries ++ more) clash := by
  cases h with
  | intro before after k earlier later hnodup hmem =>
    rw [List.append_assoc, List.cons_append]
    exact .intro before (after ++ more) k earlier later hnodup hmem

theorem not_nodup_repeated {before after : List (Text × Language)} {earlier later : Language}
    (h : (k, earlier) ∈ before) : ¬((before ++ (k, later) :: after).map (·.1)).Nodup := by
  intro hall
  rw [List.map_append, List.map_cons] at hall
  exact (List.nodup_append.1 hall).2.2 k (List.mem_map_of_mem h) k List.mem_cons_self rfl

theorem FirstClash.not_nodup (h : FirstClash entries clash) : ¬(entries.map (·.1)).Nodup := by
  cases h with
  | intro before after k earlier later hnodup hmem => exact not_nodup_repeated hmem

theorem FirstClash.unique (h : FirstClash entries clash) (h' : FirstClash entries clash') :
    clash = clash' := by
  cases h with
  | intro before after k earlier later hnodup hmem =>
    generalize he : before ++ (k, later) :: after = entries at h'
    cases h' with
    | intro before' after' k' earlier' later' hnodup' hmem' =>
      rcases List.append_eq_append_iff.1 he with ⟨gap, rfl, hrest⟩ | ⟨gap, rfl, hrest⟩
      · cases gap with
        | nil =>
          cases hrest
          rw [List.append_nil] at hmem'
          have hsame := (Named.get?_of_mem hnodup hmem).symm.trans (Named.get?_of_mem hnodup hmem')
          rw [Option.some.inj hsame]
        | cons entry gap =>
          obtain ⟨rfl, -⟩ := List.cons.inj hrest
          exact (not_nodup_repeated hmem hnodup').elim
      · cases gap with
        | nil =>
          cases hrest
          rw [List.append_nil] at hmem
          have hsame := (Named.get?_of_mem hnodup' hmem).symm.trans (Named.get?_of_mem hnodup' hmem')
          rw [Option.some.inj hsame]
        | cons entry gap =>
          obtain ⟨rfl, -⟩ := List.cons.inj hrest
          exact (not_nodup_repeated hmem' hnodup).elim

/-- What becomes of a registry that is to hold these languages and entries. -/
inductive Filled (languages : List Language) (entries : List (Text × Language)) :
    Except Clash Registry → Prop
  | ok : (entries.map (·.1)).Nodup → Filled languages entries (.ok { languages, entries })
  | error (clash : Clash) : FirstClash entries clash → Filled languages entries (.error clash)

theorem filled_enter (h : (registry.entries.map (·.1)).Nodup) (language : Language)
    (extensions : List Text) :
    Filled registry.languages (registry.entries ++ entriesOf language extensions)
      (enter language extensions registry) := by
  induction extensions generalizing registry with
  | nil =>
    rw [entriesOf, List.map_nil, List.append_nil]
    exact .ok h
  | cons extension extensions ih =>
    rw [enter]
    cases hfind : registry.find? (key extension) with
    | some earlier =>
      exact .error _ (.intro registry.entries (entriesOf language extensions) (key extension) earlier
        language h (Named.mem_of_get? hfind))
    | none =>
      have hnew : key extension ∉ registry.entries.map (·.1) := by
        intro hmem
        obtain ⟨⟨k, earlier⟩, hmem, rfl⟩ := List.mem_map.1 hmem
        cases hfind.symm.trans (Named.get?_of_mem h hmem)
      have hnodup : ((registry.entries ++ [(key extension, language)]).map (·.1)).Nodup := by
        rw [List.map_append, List.nodup_append]
        refine ⟨h, List.nodup_singleton _, ?_⟩
        intro k hk k' hk'
        rintro rfl
        obtain rfl : k = key extension := List.mem_singleton.1 hk'
        exact hnew hk
      have hrest := @ih
        { registry with entries := registry.entries ++ [(key extension, language)] } hnodup
      rw [List.append_assoc] at hrest
      exact hrest

theorem filled_insert (h : (registry.entries.map (·.1)).Nodup) (language : Language) :
    Filled (registry.languages ++ [language])
      (registry.entries ++ entriesOf language language.extensions) (registry.insert language) := by
  have hentered := filled_enter h language language.extensions
  rw [insert]
  generalize enter language language.extensions registry = outcome at hentered ⊢
  cases hentered with
  | ok hnodup => exact .ok hnodup
  | error clash hclash => exact .error clash hclash

theorem filled_ofListFrom (h : (registry.entries.map (·.1)).Nodup) (languages : List Language) :
    Filled (registry.languages ++ languages) (registry.entries ++ allEntries languages)
      (ofListFrom registry languages) := by
  induction languages generalizing registry with
  | nil =>
    rw [allEntries, List.flatMap_nil, List.append_nil, List.append_nil]
    exact .ok h
  | cons language languages ih =>
    rw [ofListFrom, allEntries, List.flatMap_cons, ← allEntries, ← List.append_assoc]
    have hinserted := filled_insert h language
    generalize registry.insert language = outcome at hinserted ⊢
    cases hinserted with
    | ok hnodup =>
      let inserted : Registry :=
        { languages := registry.languages ++ [language]
          entries := registry.entries ++ entriesOf language language.extensions }
      have hrest := @ih inserted hnodup
      have hlanguages : inserted.languages ++ languages = registry.languages ++ language :: languages :=
        List.append_assoc _ _ _
      rw [hlanguages] at hrest
      exact hrest
    | error clash hclash => exact .error clash (hclash.append _)

theorem filled_ofList (languages : List Language) :
    Filled languages (allEntries languages) (ofList languages) :=
  @filled_ofListFrom {} List.nodup_nil languages

theorem ofList_eq_ok_iff : ofList languages = .ok registry ↔
    ((allEntries languages).map (·.1)).Nodup ∧
      registry = { languages, entries := allEntries languages } := by
  have hfilled := filled_ofList languages
  generalize ofList languages = outcome at hfilled ⊢
  cases hfilled with
  | ok hnodup => simp only [hnodup, Except.ok.injEq, true_and, eq_comm]
  | error clash hclash => simp only [hclash.not_nodup, reduceCtorEq, false_and]

/-- A registry of some languages cannot be made exactly if a key comes twice, and the first one that
does is told. -/
theorem ofList_eq_error_iff : ofList languages = .error clash ↔
    FirstClash (allEntries languages) clash := by
  have hfilled := filled_ofList languages
  generalize ofList languages = outcome at hfilled ⊢
  cases hfilled with
  | ok hnodup =>
    refine ⟨nofun, fun hclash => ?_⟩
    exact (hclash.not_nodup hnodup).elim
  | error found hfound =>
    rw [Except.error.injEq]
    constructor
    · rintro rfl
      exact hfound
    · exact hfound.unique

theorem mem_allEntries : (k, language) ∈ allEntries languages ↔
    language ∈ languages ∧ ∃ own ∈ language.extensions, key own = k := by
  simp only [allEntries, entriesOf, List.mem_flatMap, List.mem_map, Prod.mk.injEq]
  constructor
  · rintro ⟨_, hlanguage, own, hown, hkey, rfl⟩
    exact ⟨hlanguage, own, hown, hkey⟩
  · rintro ⟨hlanguage, own, hown, hkey⟩
    exact ⟨language, hlanguage, own, hown, hkey, rfl⟩

theorem lookup?_eq_some_iff (h : ((allEntries languages).map (·.1)).Nodup) (extension : Text) :
    ({ languages, entries := allEntries languages } : Registry).lookup? extension = some language ↔
      language ∈ languages ∧ language.Owns extension := by
  rw [Language.Owns, ← mem_allEntries]
  exact ⟨Named.mem_of_get?, Named.get?_of_mem h⟩

/-- The name of an extension without its dot: ASCII characters, the first neither a dot nor a
blank. -/
structure Bare (name : Text) : Prop where
  ascii : name.IsAscii
  starts : ∃ c rest, name = c :: rest ∧ c ≠ '.' ∧ Text.isBlank c = false

/-- The extension is spelled with its letters in any case, with or without the dot, and with any
blanks around it. -/
inductive Respells (name : Text) : Text → Prop
  | dotted (written spelled : Text) : Text.Recased ('.' :: name) written →
    Text.Pads written spelled → Respells name spelled
  | dotless (written spelled : Text) : Text.Recased name written →
    Text.Pads written spelled → Respells name spelled

section

variable {extension name rest spelled : Text} {c : Char}

theorem key_of_dot (h : extension.trim.lower = '.' :: rest) : key extension = '.' :: rest := by
  rw [key, h]
  rfl

theorem key_of_ne_dot (h : extension.trim.lower = c :: rest) (hc : c ≠ '.') :
    key extension = '.' :: c :: rest := by
  rw [key, h]
  split
  · exact absurd ‹c :: rest = []› nofun
  · exact absurd (List.cons.inj ‹c :: rest = _›).1 hc
  · rfl

theorem key_of_respells (h : Bare name) (hspelled : Respells name spelled) :
    key spelled = '.' :: Text.trim (name.map Char.toLower) := by
  obtain ⟨hascii, c, rest, rfl, hdot, hblank⟩ := h
  have hlower : Text.trim ((c :: rest).map Char.toLower) =
      c.toLower :: Text.trimEnd (rest.map Char.toLower) :=
    Text.trim_cons ((Text.isBlank_toLower c).trans hblank) _
  have hhead : ∀ d ∈ ((c :: rest).map Char.toLower).head?, Text.isBlank d = false := by
    rintro d ⟨⟩
    exact (Text.isBlank_toLower c).trans hblank
  cases hspelled with
  | dotted written _ hcase hpads =>
    have hdotted : Text.IsAscii ('.' :: c :: rest) := List.forall_mem_cons.2 ⟨by decide, hascii⟩
    apply key_of_dot
    rw [hpads.trim_eq, Text.lower_trim_recased hdotted hcase, Text.lower_trim_of_isAscii hdotted]
    exact (Text.trim_cons rfl _).trans (congrArg ('.' :: ·) (Text.trim_of_head hhead).symm)
  | dotless written _ hcase hpads =>
    rw [hlower]
    apply key_of_ne_dot _ (mt (Text.toLower_eq_iff (by decide)).1 hdot)
    rw [hpads.trim_eq, Text.lower_trim_recased hascii hcase, Text.lower_trim_of_isAscii hascii,
      hlower]

end

/-- The registry is a table of the languages: every spelling of an extension leads to the one
language that it belongs to. -/
structure Tabulates (registry : Registry) (languages : List Language) : Prop where
  languages_eq : registry.languages = languages
  lookup?_iff : ∀ extension language, registry.lookup? extension = some language ↔
    language ∈ languages ∧ language.Owns extension
  owner_unique : ∀ extension, ∀ language ∈ languages, ∀ other ∈ languages,
    language.Owns extension → other.Owns extension → language = other
  lookup?_none_iff : ∀ extension, registry.lookup? extension = none ↔
    ∀ language ∈ languages, ¬language.Owns extension
  contains_iff : ∀ extension, registry.contains extension = true ↔
    ∃ language, registry.lookup? extension = some language
  lookup?_respelled : ∀ name spelled, Bare name → Respells name spelled →
    registry.lookup? spelled = registry.lookup? ('.' :: name)
  extensions_ascending : registry.extensions.Pairwise (· < ·)
  mem_extensions_iff : ∀ k, k ∈ registry.extensions ↔
    ∃ language ∈ languages, ∃ own ∈ language.extensions, key own = k

theorem tabulates (h : ((allEntries languages).map (·.1)).Nodup) :
    Tabulates { languages, entries := allEntries languages } languages where
  languages_eq := rfl
  lookup?_iff extension _ := lookup?_eq_some_iff h extension
  owner_unique extension language hlanguage other hother hown hown' := by
    have hfound := (lookup?_eq_some_iff h extension).2 ⟨hlanguage, hown⟩
    have hfound' := (lookup?_eq_some_iff h extension).2 ⟨hother, hown'⟩
    exact Option.some.inj (hfound.symm.trans hfound')
  lookup?_none_iff extension := by
    simp only [Option.eq_none_iff_forall_ne_some, Ne, lookup?_eq_some_iff h, not_and]
  contains_iff _ := Option.isSome_iff_exists
  lookup?_respelled name spelled hbare hspelled := by
    have hself : Respells name ('.' :: name) :=
      .dotted _ _ (Text.recased_iff.2 rfl) (Text.pads_self _)
    rw [lookup?, lookup?, key_of_respells hbare hspelled, key_of_respells hbare hself]
  extensions_ascending := Text.pairwise_mergeSort_lt h
  mem_extensions_iff k := by
    rw [extensions, (List.mergeSort_perm _ _).mem_iff, List.mem_map]
    constructor
    · rintro ⟨⟨_, language⟩, hentry, rfl⟩
      exact ⟨language, mem_allEntries.1 hentry⟩
    · rintro ⟨language, hlanguage, hown⟩
      exact ⟨(k, language), mem_allEntries.2 ⟨hlanguage, hown⟩, rfl⟩

/-- A registry of some languages can be made exactly if no two of their extensions have the same key.
If some have, the first key that comes again is told, with the language that has it and the one that
asks for it; otherwise the registry is a table of the languages. -/
theorem ofList_tabulates (languages : List Language) :
    ((∃ clash, ofList languages = .error clash) ↔ ¬((allEntries languages).map (·.1)).Nodup) ∧
    (∀ clash, ofList languages = .error clash ↔ FirstClash (allEntries languages) clash) ∧
    (∀ k earlier later, Clash.message ⟨k, earlier, later⟩ = "Extension '".toList ++ k ++
      "' registered by both ".toList ++ earlier ++ " and ".toList ++ later) ∧
    ∀ registry, ofList languages = .ok registry → registry.Tabulates languages := by
  refine ⟨?_, fun _ => ofList_eq_error_iff, fun _ _ _ => rfl, ?_⟩
  · constructor
    · rintro ⟨clash, hclash⟩
      exact (ofList_eq_error_iff.1 hclash).not_nodup
    · intro hrepeated
      cases hmade : ofList languages with
      | error clash => exact ⟨clash, rfl⟩
      | ok registry => exact (hrepeated (ofList_eq_ok_iff.1 hmade).1).elim
  · intro registry hmade
    obtain ⟨hnodup, rfl⟩ := ofList_eq_ok_iff.1 hmade
    exact tabulates hnodup

def sheetLanguage : Language := .lineComments "Sheet" ["csv", " .Tab\t"] "%"

def sheetEntries : List (Text × Language) :=
  [(".csv".toList, sheetLanguage), (".tab".toList, sheetLanguage)]

def plotLanguage : Language := .lineComments "Plot" [".plt", "TAB"] "#"

theorem ofList_tabulates_sheet :
    (∃ registry, ofList [sheetLanguage] = .ok registry ∧
      registry.lookup? "\u3000TAB ".toList = some sheetLanguage ∧
      registry.lookup? ".ta".toList = none) ∧
    ofList [sheetLanguage, plotLanguage] =
      .error ⟨".tab".toList, "Sheet".toList, "Plot".toList⟩ := by
  have hmade : ofList [sheetLanguage] = .ok { languages := [sheetLanguage], entries := sheetEntries } :=
    rfl
  obtain ⟨-, -, -, htable⟩ := ofList_tabulates [sheetLanguage]
  have htabulates := htable _ hmade
  refine ⟨⟨_, hmade, ?_, ?_⟩, ?_⟩
  · exact (htabulates.lookup?_iff _ _).2 ⟨List.mem_singleton_self _, by decide⟩
  · exact (htabulates.lookup?_none_iff _).2 (by decide)
  · obtain ⟨-, hclash, -⟩ := ofList_tabulates [sheetLanguage, plotLanguage]
    have hfirst : FirstClash (sheetEntries ++ [(".plt".toList, plotLanguage)] ++
        (".tab".toList, plotLanguage) :: []) ⟨".tab".toList, "Sheet".toList, "Plot".toList⟩ :=
      .intro _ _ _ sheetLanguage plotLanguage (by decide) (by decide)
    exact (hclash _).2 hfirst

end Registry

end Breadcrumb
