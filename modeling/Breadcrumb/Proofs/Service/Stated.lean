import Breadcrumb.Proofs.Run.Shadowing
import Breadcrumb.Proofs.Settings.Layers
import Breadcrumb.Service

namespace Breadcrumb.Service

open Run (settingsWorld settingsPlace pairOf projectFolder_settingsWorld sources_alone)

variable {fields : List (Text × Json)} {request : ScanRequest} {world : World}

def text? : Json → Option Text
  | .str text => some text
  | _ => none

def statedText (fields : List (Text × Json)) (name : String) : Option Text :=
  (Json.field? fields name.toList).bind text?

def statedTexts (fields : List (Text × Json)) (name : String) : List Text :=
  match Json.field? fields name.toList with
  | some (.arr items) => items.filterMap text?
  | _ => []

/-- The options that the fields of a request state. -/
def stated (fields : List (Text × Json)) : Overrides where
  project := statedText fields "project"
  entry := statedText fields "entry"
  linkBase := statedText fields "source_prefix"
  marker := statedText fields "marker"
  format := statedText fields "format"
  included := statedTexts fields "include"
  excluded := statedTexts fields "exclude"

/-- The options stated, and JSON if no format is among them. -/
def asked (fields : List (Text × Json)) : Overrides :=
  { stated fields with format := some ((stated fields).format.getD "json".toList) }

def unmarked (body : Text) : Text := if body.head? = some '\uFEFF' then body.tail else body

section Checked

variable {α β γ : Type}

theorem both_eq_ok {f : α → β → γ} {a : Checked α} {b : Checked β} (h : both f a b = .ok c) :
    ∃ x y, a = .ok x ∧ b = .ok y ∧ c = f x y := by
  cases a with
  | error early => cases b <;> cases h
  | ok x =>
    cases b with
    | error late => cases h
    | ok y =>
      cases h
      exact ⟨x, y, rfl, rfl, rfl⟩

theorem text_eq_ok {value : Json} (h : text place value = .ok given) : value = .str given := by
  cases value with
  | str text =>
    cases h
    rfl
  | _ => cases h

theorem requiredText_eq_ok (h : requiredText fields name = .ok given) :
    Json.field? fields name.toList = some (.str given) := by
  rw [requiredText] at h
  cases hfield : Json.field? fields name.toList with
  | none =>
    rw [hfield] at h
    cases h
  | some value =>
    rw [hfield] at h
    rw [text_eq_ok h]

theorem optionalText_eq_ok (h : optionalText fields name = .ok given) :
    statedText fields name = given := by
  rw [optionalText] at h
  rw [statedText]
  split at h
  · rename_i hfield
    cases h
    rw [hfield]
    rfl
  · rename_i hfield
    cases h
    rw [hfield]
    rfl
  · rename_i value hvalue hfield
    rw [hfield]
    cases htext : text (inBody [.field name.toList]) value with
    | error objections =>
      rw [htext] at h
      cases h
    | ok given =>
      rw [htext] at h
      cases h
      rw [text_eq_ok htext]
      rfl

theorem textOr_eq_ok {instead : Text} (h : textOr fields name instead = .ok given) :
    (statedText fields name).getD instead = given := by
  rw [textOr] at h
  rw [statedText]
  cases hfield : Json.field? fields name.toList with
  | none =>
    rw [hfield] at h
    cases h
    rfl
  | some value =>
    rw [hfield] at h
    rw [text_eq_ok h]
    rfl

theorem textsFrom_eq_ok {items : List Json} (h : textsFrom place n items = .ok given) :
    items.filterMap text? = given := by
  induction items generalizing n given with
  | nil =>
    cases h
    rfl
  | cons item items ih =>
    obtain ⟨first, more, hfirst, hmore, rfl⟩ := both_eq_ok h
    rw [text_eq_ok hfirst, ← ih hmore]
    rfl

theorem texts_eq_ok (h : texts fields name = .ok given) : statedTexts fields name = given := by
  rw [texts] at h
  rw [statedTexts]
  split at h
  · rename_i hfield
    cases h
    rw [hfield]
  · rename_i items hfield
    rw [hfield]
    exact textsFrom_eq_ok h
  · cases h

end Checked

theorem of_ofFields (h : ofFields fields = .ok request) :
    Json.field? fields "path".toList = some (.str request.path) ∧
      overrides request = asked fields := by
  obtain ⟨_, excluded, h₁, hexcluded, rfl⟩ := both_eq_ok h
  obtain ⟨_, included, h₂, hincluded, rfl⟩ := both_eq_ok h₁
  obtain ⟨_, format, h₃, hformat, rfl⟩ := both_eq_ok h₂
  obtain ⟨_, marker, h₄, hmarker, rfl⟩ := both_eq_ok h₃
  obtain ⟨_, linkBase, h₅, hlinkBase, rfl⟩ := both_eq_ok h₄
  obtain ⟨_, project, h₆, hproject, rfl⟩ := both_eq_ok h₅
  obtain ⟨_, entry, hstart, hentry, rfl⟩ := both_eq_ok h₆
  cases hpath : requiredText fields "path" with
  | error objections =>
    rw [hpath] at hstart
    cases hstart
  | ok path =>
    rw [hpath] at hstart
    cases hstart
    have hfield := requiredText_eq_ok hpath
    refine ⟨hfield, ?_⟩
    simp only [asked, stated, overrides, optionalText_eq_ok hproject, optionalText_eq_ok hentry,
      optionalText_eq_ok hlinkBase, optionalText_eq_ok hmarker, textOr_eq_ok hformat,
      texts_eq_ok hincluded, texts_eq_ok hexcluded]

theorem of_ofBody (h : ofBody body = .ok request) :
    ∃ fields, Json.read (unmarked body) = .ok (.obj fields) ∧ ofFields fields = .ok request := by
  rw [ofBody] at h
  by_cases hempty : body.isEmpty
  · simp only [hempty, if_true] at h
    cases h
  · simp only [hempty, Bool.false_eq_true, if_false] at h
    rw [unmarked]
    split at h
    · cases h
    · rename_i fields hread
      cases hfields : ofFields fields with
      | error objections =>
        rw [hfields] at h
        cases h
      | ok checked =>
        rw [hfields] at h
        cases h
        exact ⟨fields, hread, hfields⟩
    · cases h
    · cases h
    · cases h

theorem scan_of_ofBody (h : ofBody body = .ok request) (world : World) :
    scan body world =
      match (Run.run .standard request.path (overrides request)).run world with
      | (.ok result, world) => (.scanned result, world)
      | (.error failure, world) => (failed failure, world) := by
  rcases hrun : (Run.run .standard request.path (overrides request)).run world with ⟨outcome, after⟩
  cases outcome <;> simp only [scan, h, hrun]

theorem answer_scan (body : Text) (world : World) : answer { body } world = scan body world := rfl

theorem settings_of_load {place : Place} {loaded : Settings}
    (h : Settings.load world.tree place.toPath = .ok loaded) (overrides : Overrides) :
    ∃ chosen pairs, Run.settings place overrides world.tree = .ok chosen ∧
      Settings.Sets world.tree place.toPath pairs ∧ Settings.Layered overrides pairs chosen := by
  obtain ⟨root, pairs, hsets, hpairs⟩ := Settings.sets_of_load h
  refine ⟨_, pairs, ?_, hsets, Settings.layered_merged hpairs overrides⟩
  rw [Run.settings, h]
  rfl

theorem scanned_format {place : Place} {chosen : Settings} {overrides : Overrides}
    (hplace : Run.projectFolder root world.tree = .ok place)
    (hchosen : Run.settings place overrides world.tree = .ok chosen)
    (h : (Run.run registry root overrides).run world = (.ok result, world')) :
    result.format = chosen.format ∧ Run.render chosen result.grouped = .ok result.document := by
  obtain ⟨other, others, collected, hstages⟩ := Run.stages_of_run h
  obtain rfl : place = other := Except.ok.inj (hplace.symm.trans hstages.project)
  obtain rfl : chosen = others := Except.ok.inj (hchosen.symm.trans hstages.settings)
  exact ⟨hstages.format, hstages.renders⟩

/-- The response to a valid request is that of a run under the options that the request states, with
JSON for the format if it states none. In such a run every setting is the one stated, if it is not
empty, or else the one that the settings file has, or else the default. -/
theorem answer_asks_stated (body : Text) (request : ScanRequest) (world : World)
    (h : ofBody body = .ok request) :
    ∃ fields path, Json.read (unmarked body) = .ok (.obj fields) ∧
      Json.field? fields "path".toList = some (.str path) ∧
      (∀ failure world', (Run.run .standard path (asked fields)).run world = (.error failure, world') →
        answer { body } world = (failed failure, world')) ∧
      (∀ result world', (Run.run .standard path (asked fields)).run world = (.ok result, world') →
        answer { body } world = (.scanned result, world') ∧
        ∃ more, (answer { body } world).1.body = .obj
          (("format".toList, .str result.format) :: ("document".toList, .str result.document) ::
            more)) ∧
      ∀ place loaded, Run.projectFolder path world.tree = .ok place →
        Settings.load world.tree place.toPath = .ok loaded →
        ∃ chosen pairs, Run.settings place (asked fields) world.tree = .ok chosen ∧
          Settings.Sets world.tree place.toPath pairs ∧
          Settings.Layered (asked fields) pairs chosen ∧
          ∀ result world', answer { body } world = (.scanned result, world') →
            result.format = chosen.format ∧
              Run.render chosen result.grouped = .ok result.document := by
  obtain ⟨fields, hread, hfields⟩ := of_ofBody h
  obtain ⟨hpath, hasked⟩ := of_ofFields hfields
  have hscan := scan_of_ofBody h world
  rw [hasked] at hscan
  refine ⟨fields, request.path, hread, hpath, ?_, ?_, ?_⟩
  · intro failure world' hrun
    rw [answer_scan, hscan, hrun]
  · intro result world' hrun
    rw [answer_scan, hscan, hrun]
    exact ⟨rfl, _, rfl⟩
  · intro place loaded hplace hload
    obtain ⟨chosen, pairs, hchosen, hsets, hlayered⟩ := settings_of_load hload (asked fields)
    refine ⟨chosen, pairs, hchosen, hsets, hlayered, ?_⟩
    intro result world' hanswer
    rw [answer_scan, hscan] at hanswer
    split at hanswer
    · rename_i hrun
      cases hanswer
      exact scanned_format hplace hchosen hrun
    · rename_i failure other hrun
      have hfailed := (Prod.mk.inj hanswer).1
      rw [failed] at hfailed
      split at hfailed <;> cases hfailed

def pathBody : Text := "\x7b\"path\": \"/p\"\x7d".toList

theorem ofBody_pathBody : ofBody pathBody = .ok { path := "/p".toList } := by
  cbv

theorem read_pathBody :
    Json.read (unmarked pathBody) = .ok (.obj [("path".toList, .str "/p".toList)]) := by
  cbv

theorem answer_asks_stated_pathBody :
    ofBody pathBody = .ok { path := "/p".toList } ∧
    ∃ chosen pairs,
      Run.settings ["p".toList] (asked [("path".toList, .str "/p".toList)])
        (settingsWorld Run.oneText []).tree = .ok chosen ∧
      Settings.Sets (settingsWorld Run.oneText []).tree (Place.toPath ["p".toList]) pairs ∧
      chosen.project.getD [] = Settings.writtenText pairs "project" ∧
      chosen.format = "json".toList := by
  obtain ⟨fields, path, hread, hpath, -, -, hsettings⟩ :=
    answer_asks_stated pathBody _ (settingsWorld Run.oneText []) ofBody_pathBody
  rw [read_pathBody] at hread
  cases hread
  cases hpath
  have hload : Settings.load (settingsWorld Run.oneText []).tree (Place.toPath ["p".toList]) =
      .ok { root := ["p".toList], project := some "One".toList } := by
    rw [Settings.load_of_holds rfl (Run.holds_of_isPair Run.isPair_oneText [])]
    rfl
  obtain ⟨chosen, pairs, hchosen, hsets, hlayered, -⟩ :=
    hsettings ["p".toList] _ (projectFolder_settingsWorld _ _) hload
  refine ⟨ofBody_pathBody, chosen, pairs, hchosen, hsets, ?_, ?_⟩
  · rw [hlayered.project]
    exact Settings.firstFilled_singleton _
  · rw [hlayered.format]
    change Text.lower "json".toList = "json".toList
    cbv

theorem sources_alone_standard (text : Text) :
    Run.sources .standard "/p".toList [] [] (settingsWorld text []).tree = .ok [] := by
  have hcandidates : Sources.candidates (settingsWorld text []).tree {} ["p".toList] =
      [Settings.fileName] := List.mergeSort_singleton _
  have hlanguage : Registry.standard.forPath? Settings.fileName = none := by decide +kernel
  rw [Run.sources_of_parts (projectFolder_settingsWorld text []) rfl rfl, Sources.list, hcandidates]
  simp [Sources.source?, hlanguage]

def markdownText : Text := "\x7b\"format\": \"markdown\"\x7d".toList

theorem isPair_markdownText : Run.IsPair markdownText "format" "markdown" :=
  ⟨by cbv, by cbv, by cbv⟩

def Response.format? : Response → Option Text
  | .scanned result => some result.format
  | _ => none

theorem exists_run_markdownText {overrides : Overrides} {chosen : Settings}
    (hchosen : Run.settings ["p".toList] overrides (settingsWorld markdownText []).tree = .ok chosen)
    (hformat : Settings.isFormat chosen.format = true) (hincluded : chosen.included = [])
    (hexcluded : chosen.excluded = []) (hmarker : chosen.marker = none)
    (houtput : chosen.output = none) :
    ∃ result world',
      (Run.run .standard "/p".toList overrides).run (settingsWorld markdownText []) =
        (.ok result, world') ∧ result.format = chosen.format := by
  have hfound : Run.sources .standard (Place.toText ["p".toList]) chosen.included chosen.excluded
      (settingsWorld markdownText []).tree = .ok [] := by
    rw [hincluded, hexcluded]
    exact sources_alone_standard markdownText
  exact Run.exists_run_of_sources_nil .standard (projectFolder_settingsWorld _ _) hchosen hformat rfl
    hfound hmarker houtput

/-- A request without a format is answered in JSON also where the settings file asks for Markdown, in
which a run under the options stated comes out. -/
theorem format_unstated_json :
    Json.read (unmarked pathBody) = .ok (.obj [("path".toList, .str "/p".toList)]) ∧
    ofBody pathBody = .ok { path := "/p".toList } ∧
    Settings.Holds (settingsWorld markdownText []).tree settingsPlace (pairOf "format" "markdown") ∧
    (answer { body := pathBody } (settingsWorld markdownText [])).1.format? = some "json".toList ∧
    ((Run.run .standard "/p".toList (stated [("path".toList, .str "/p".toList)])).run
      (settingsWorld markdownText [])).1.toOption.map (·.format) = some "markdown".toList := by
  have hholds := Run.holds_of_isPair isPair_markdownText []
  refine ⟨read_pathBody, ofBody_pathBody, hholds, ?_, ?_⟩
  · have hchosen : Run.settings ["p".toList] (overrides { path := "/p".toList })
        (settingsWorld markdownText []).tree =
          .ok { root := ["p".toList], format := "json".toList } := by
      rw [Run.settings_of_holds _ hholds]
      rfl
    obtain ⟨result, world', hrun, hformat⟩ := exists_run_markdownText hchosen rfl rfl rfl rfl rfl
    rw [answer_scan, scan_of_ofBody ofBody_pathBody, hrun]
    exact congrArg some hformat
  · have hchosen : Run.settings ["p".toList] (stated [("path".toList, .str "/p".toList)])
        (settingsWorld markdownText []).tree =
          .ok { root := ["p".toList], format := "markdown".toList } := by
      rw [Run.settings_of_holds _ hholds]
      rfl
    obtain ⟨result, world', hrun, hformat⟩ := exists_run_markdownText hchosen rfl rfl rfl rfl rfl
    rw [hrun]
    exact congrArg some hformat

end Breadcrumb.Service
