import Breadcrumb.Proofs.Document.Printing
import Breadcrumb.Proofs.World.Session
import Breadcrumb.Run

namespace Breadcrumb.Run

open Session

def requestOf (place : Place) (settings : Settings) : Request where
  root := place.toText
  entry := settings.entry
  included := settings.included
  excluded := settings.excluded
  marker := settings.marker

/-- What a run logs before it collects. -/
def opening (place : Place) (settings : Settings) : List Log.Record :=
  let record (level : Log.Level) (message : Text) : Log.Record :=
    { level, component := "orchestrator".toList, message }
  (if (settings.entry.getD []).isEmpty then
    [record .warning
      "No entry point configured; every trail will be reported as a side trail".toList]
    else []) ++ [record .info ("Scanning ".toList ++ place.toText)]

def gather (request : Request) (found : List Source) : Session Grouped := do
  Session.say .debug (census found)
  let harvest ← scanAll found request.marker
  modify fun world => { world with notes := harvest.notes }
  let grouped := Assembly.regroup (request.entry.getD []) harvest.crumbs
  Session.say .info (summary grouped.stats)
  return grouped

theorem run_collect (request : Request)
    (h : sources registry request.root request.included request.excluded world.tree = .ok found) :
    (collect registry request).run world = (gather request found).run world := by
  rw [collect, run_ask_bind h]
  rfl

def conclude (settings : Settings) (grouped : Grouped) (document : Text) : Session Result := do
  deliver settings document
  return { grouped, document, format := settings.format, output := settings.output
           notes := (← get).notes }

def proceed (registry : Registry) (place : Place) (settings : Settings) : Session Result := do
  let grouped ← collect registry (requestOf place settings)
  let document ← ExceptT.mk (pure (render settings grouped))
  conclude settings grouped document

variable {world world' : World} {place : Place} {chosen : Settings}

theorem run_eq_proceed (registry : Registry) (hplace : projectFolder root world.tree = .ok place)
    (hchosen : settings place overrides world.tree = .ok chosen)
    (hformat : Settings.isFormat chosen.format = true) :
    (run registry root overrides).run world =
      (proceed registry place chosen).run (world.emitAll (opening place chosen)) := by
  rw [run, run_ask_bind hplace, run_ask_bind hchosen, hformat, opening]
  rw [if_neg (by decide)]
  by_cases hentry : (chosen.entry.getD []).isEmpty
  · rw [if_pos hentry, if_pos hentry]
    rfl
  · rw [if_neg hentry, if_neg hentry]
    rfl

def proceedOver (place : Place) (settings : Settings) (found : List Source) : Session Result := do
  let grouped ← gather (requestOf place settings) found
  let document ← ExceptT.mk (pure (render settings grouped))
  conclude settings grouped document

theorem run_eq_proceedOver (registry : Registry)
    (hplace : projectFolder root world.tree = .ok place)
    (hchosen : settings place overrides world.tree = .ok chosen)
    (hformat : Settings.isFormat chosen.format = true) (hsink : world.sink = none)
    (hfound : sources registry place.toText chosen.included chosen.excluded world.tree = .ok found) :
    (run registry root overrides).run world =
      (proceedOver place chosen found).run (world.emitAll (opening place chosen)) := by
  rw [← (World.emitAll_of_sink hsink (opening place chosen)).2] at hfound
  rw [run_eq_proceed registry hplace hchosen hformat, proceed, run_bind,
    run_collect (requestOf place chosen) hfound, ← run_bind]
  rfl

/-- The integers that the document in some format is written with. -/
def writtenIntegers (format : Text) (grouped : Grouped) : List Int :=
  if format = "json".toList then Document.integers grouped else Document.Markdown.integers grouped

theorem writtenIntegers_mapCrumbs {f : Crumb → Crumb} (hf : Crumb.KeepsGroup f) (format : Text)
    (grouped : Grouped) :
    writtenIntegers format (grouped.mapCrumbs f) = writtenIntegers format grouped := by
  rw [writtenIntegers, writtenIntegers, Document.integers_mapCrumbs hf,
    Document.Markdown.integers_mapCrumbs hf]

theorem mapError_eq_ok_iff {answer : Except Unprintable Text} :
    answer.mapError Failure.unprintable = .ok text ↔ answer = .ok text := by
  cases answer with
  | ok written => simp only [Except.mapError, Except.ok.injEq]
  | error fault => exact iff_of_false nofun nofun

theorem render_json_eq_ok_iff (h : chosen.format = "json".toList) :
    render chosen grouped = .ok document ↔
      (∀ n ∈ writtenIntegers chosen.format grouped, Integer.isPrintable n = true) ∧
        document = Document.json grouped := by
  rw [render, writtenIntegers, if_pos h, if_pos h, mapError_eq_ok_iff, Document.json?_eq_ok_iff]

theorem render_markdown_eq_ok_iff (h : chosen.format = "markdown".toList) :
    render chosen grouped = .ok document ↔
      (∀ n ∈ writtenIntegers chosen.format grouped, Integer.isPrintable n = true) ∧
        document = Document.Markdown.document
          { project := chosen.projectName, linkBase := chosen.linkBase } grouped := by
  rw [render, writtenIntegers, h, if_neg (by decide), if_pos rfl, if_neg (by decide),
    mapError_eq_ok_iff, Document.Markdown.document?_eq_ok_iff]

theorem format_cases (h : Settings.isFormat format = true) :
    format = "markdown".toList ∨ format = "json".toList := by
  simpa [Settings.isFormat, Settings.formats] using h

theorem exists_render_iff (h : Settings.isFormat chosen.format = true) (grouped : Grouped) :
    (∃ document, render chosen grouped = .ok document) ↔
      ∀ n ∈ writtenIntegers chosen.format grouped, Integer.isPrintable n = true := by
  rcases format_cases h with hformat | hformat
  · simp only [render_markdown_eq_ok_iff hformat, exists_and_left, exists_eq, and_true]
  · simp only [render_json_eq_ok_iff hformat, exists_and_left, exists_eq, and_true]

/-- The names of the crumbs have no part in whether a document can be written. -/
theorem exists_render_of_unnamed (h : Settings.isFormat chosen.format = true)
    (hrender : render chosen grouped = .ok document)
    (hgroups : grouped'.mapCrumbs Crumb.unnamed = grouped.mapCrumbs Crumb.unnamed) :
    ∃ document', render chosen grouped' = .ok document' := by
  have hprintable := (exists_render_iff h grouped).1 ⟨document, hrender⟩
  rw [exists_render_iff h, ← writtenIntegers_mapCrumbs Crumb.keepsGroup_unnamed, hgroups,
    writtenIntegers_mapCrumbs Crumb.keepsGroup_unnamed]
  exact hprintable

/-- A run that finds no sources comes to a document in the format of its settings. -/
theorem exists_run_of_sources_nil (registry : Registry)
    (hplace : projectFolder root world.tree = .ok place)
    (hchosen : settings place overrides world.tree = .ok chosen)
    (hformat : Settings.isFormat chosen.format = true) (hsink : world.sink = none)
    (hfound : sources registry place.toText chosen.included chosen.excluded world.tree = .ok [])
    (hmarker : chosen.marker = none) (houtput : chosen.output = none) :
    ∃ result world', (run registry root overrides).run world = (.ok result, world') ∧
      result.format = chosen.format := by
  rw [run_eq_proceedOver registry hplace hchosen hformat hsink hfound]
  generalize world.emitAll (opening place chosen) = opened
  have hnothing : Assembly.regroup (chosen.entry.getD []) [] = {} := by
    simp [Assembly.regroup, Assembly.addAll, Assembly.build]
  obtain ⟨gathered, hgather⟩ : ∃ gathered,
      (gather (requestOf place chosen) []).run opened = (.ok {}, gathered) := by
    rw [requestOf, hmarker, ← hnothing]
    exact ⟨_, rfl⟩
  obtain ⟨document, hrender⟩ : ∃ document, render chosen {} = .ok document := by
    rw [exists_render_iff hformat, writtenIntegers]
    split <;> exact List.forall_mem_nil _
  refine ⟨{ grouped := {}, document, format := chosen.format, output := chosen.output
            notes := gathered.notes }, gathered, ?_, rfl⟩
  rw [proceedOver, run_bind, hgather]
  dsimp only
  rw [hrender]
  change (conclude chosen {} document).run gathered = _
  rw [conclude, deliver, houtput]
  rfl

/-- A finished run, stage by stage. -/
structure Stages (registry : Registry) (root : Text) (overrides : Overrides) (world : World)
    (result : Result) (world' : World) (place : Place) (chosen : Settings) (collected : World) :
    Prop where
  project : projectFolder root world.tree = .ok place
  settings : settings place overrides world.tree = .ok chosen
  isFormat : Settings.isFormat chosen.format = true
  collects : (collect registry (requestOf place chosen)).run
    (world.emitAll (opening place chosen)) = (.ok result.grouped, collected)
  renders : render chosen result.grouped = .ok result.document
  delivers : (deliver chosen result.document).run collected = (.ok (), world')
  format : result.format = chosen.format
  output : result.output = chosen.output
  notes : result.notes = world'.notes

theorem isFormat_of_run (hplace : projectFolder root world.tree = .ok place)
    (hchosen : settings place overrides world.tree = .ok chosen)
    (h : (run registry root overrides).run world = (.ok result, world')) :
    Settings.isFormat chosen.format = true := by
  rw [run, run_ask_bind hplace, run_ask_bind hchosen] at h
  cases hformat : Settings.isFormat chosen.format with
  | true => rfl
  | false =>
    simp only [hformat, Bool.not_false, if_true] at h
    cases h

theorem stages_of_run (h : (run registry root overrides).run world = (.ok result, world')) :
    ∃ place chosen collected,
      Stages registry root overrides world result world' place chosen collected := by
  obtain ⟨place, _, hask, hrest⟩ := of_run_bind h
  obtain ⟨hplace, rfl⟩ := of_run_ask hask
  obtain ⟨chosen, _, hask', -⟩ := of_run_bind hrest
  obtain ⟨hchosen, rfl⟩ := of_run_ask hask'
  have hformat := isFormat_of_run hplace hchosen h
  rw [run_eq_proceed registry hplace hchosen hformat] at h
  obtain ⟨grouped, collected, hcollect, hdocument⟩ := of_run_bind h
  obtain ⟨document, _, hlift, hconclude⟩ := of_run_bind hdocument
  obtain ⟨hrender, rfl⟩ := of_run_lift hlift
  obtain ⟨_, _, hdeliver, hresult⟩ := of_run_bind hconclude
  cases hresult
  exact ⟨place, chosen, _, hplace, hchosen, hformat, hcollect, hrender, hdeliver, rfl, rfl, rfl⟩

theorem notes_of_save (h : (save path document).run world = (.ok done, world')) :
    world'.notes = world.notes := by
  obtain ⟨_, _, hget, hfolders⟩ := of_run_bind h
  cases hget
  obtain ⟨_, made, hmade, hwrite⟩ := of_run_bind hfolders
  cases hmade
  split at hwrite
  · cases hwrite
  · split at hwrite
    · cases hwrite
      rfl
    · cases hwrite

theorem notes_of_deliver (h : (deliver chosen document).run world = (.ok done, world')) :
    world'.notes = world.notes := by
  rw [deliver] at h
  split at h
  · obtain ⟨_, saved, hsave, hsay⟩ := of_run_bind h
    have hsaved := notes_of_save hsave
    obtain rfl := of_run_say hsay
    exact hsaved
  · cases h
    rfl

end Breadcrumb.Run
