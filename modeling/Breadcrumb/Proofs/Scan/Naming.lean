import Breadcrumb.Proofs.Trail.Mapping
import Breadcrumb.Scan

namespace Breadcrumb.Scan

def State.unnamed (state : State) : State :=
  { state with
    closed := state.closed.map Crumb.unnamed
    current := state.current.map Crumb.unnamed }

def Outcome.unnamed (outcome : Outcome) : Outcome :=
  { outcome with result := outcome.result.map (·.map Crumb.unnamed) }

namespace State

theorem capture_unnamed (crumb : Crumb) (line : Text) :
    (crumb.capture line).unnamed = crumb.unnamed.capture line := by
  have hpeek : crumb.unnamed.peek = crumb.peek := rfl
  rw [Crumb.capture, Crumb.capture, hpeek]
  split
  · rfl
  · rfl

theorem unnamed_capture (state : State) (line : Text) :
    (state.capture line).unnamed = state.unnamed.capture line := by
  simp only [capture, unnamed, List.map_map, Option.map_map, Function.comp_def, capture_unnamed]

theorem unnamed_describe (state : State) (comment : Text) :
    (state.describe comment).unnamed = state.unnamed.describe comment := by
  simp only [describe, unnamed, Option.map_map]
  rfl

theorem unnamed_crumbs (state : State) :
    state.unnamed.crumbs = state.crumbs.map Crumb.unnamed := by
  rw [crumbs, crumbs, List.map_append]
  cases hcurrent : state.current <;> simp [unnamed, hcurrent]

theorem unnamed_close (state : State) : state.close.unnamed = state.unnamed.close := by
  simp only [close, unnamed_crumbs]
  rfl

end State

namespace Job

def nameless (job : Job) : Job := { job with mint := fun _ => [] }

def unnamedStep : Except Outcome State → Except Outcome State
  | .ok state => .ok state.unnamed
  | .error outcome => .error outcome.unnamed

theorem nameless_openCrumb (job : Job) (state : State) (line : Int) (payload : Text) :
    job.nameless.openCrumb state.unnamed line payload =
      unnamedStep (job.openCrumb state line payload) := by
  simp only [openCrumb]
  cases Marker.parse payload with
  | error fault => rfl
  | ok marker => rfl

theorem nameless_step (job : Job) (state : State) (line : Int) (raw : Text) :
    job.nameless.step state.unnamed line raw = unnamedStep (job.step state line raw) := by
  have hlanguage : job.nameless.language = job.language := rfl
  have hsigil : job.nameless.sigil = job.sigil := rfl
  rw [step, step, hlanguage, hsigil]
  cases job.language.comment? raw.trimLineEnd with
  | none =>
    simp only [unnamedStep]
    rw [State.unnamed_close, State.unnamed_capture]
  | some comment =>
    cases hpayload : job.sigil.payload? comment with
    | none =>
      simp only [hpayload, unnamedStep]
      rw [State.unnamed_capture, State.unnamed_describe]
    | some payload =>
      simp only [hpayload]
      cases hcurrent : state.current with
      | some crumb =>
        have hunnamed : state.unnamed.current = some crumb.unnamed := by
          rw [State.unnamed, hcurrent, Option.map_some]
        simp only [hunnamed]
        rfl
      | none =>
        have hunnamed : state.unnamed.current = none := by
          rw [State.unnamed, hcurrent, Option.map_none]
        simp only [hunnamed]
        rw [← State.unnamed_capture, nameless_openCrumb]

theorem nameless_scanFrom (job : Job) (fault? : Option DecodeFault) (state : State) (line : Int)
    (lines : List Text) :
    job.nameless.scanFrom fault? state.unnamed line lines =
      (job.scanFrom fault? state line lines).unnamed := by
  induction lines generalizing state line with
  | nil =>
    cases fault? with
    | some fault => rfl
    | none =>
      simp only [scanFrom, State.unnamed_crumbs]
      rfl
  | cons raw lines ih =>
    rw [scanFrom, scanFrom, nameless_step]
    cases job.step state line raw with
    | ok next => exact ih next (line + 1)
    | error outcome => rfl

theorem nameless_scan (job : Job) (stream : LineStream) :
    job.nameless.scan stream = (job.scan stream).unnamed :=
  job.nameless_scanFrom stream.fault? {} 1 stream.lines

end Job

end Breadcrumb.Scan
