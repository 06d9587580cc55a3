import Breadcrumb.Proofs.Marker.Parsing

namespace Breadcrumb.Marker

def Reports (outcomes : List Outcome) (field : Field) (status : Status) : Prop :=
  ∃ outcome ∈ outcomes, outcome.field = field ∧ outcome.status = status

variable {payload first field title : Text} {fields rest left : List Text} {start marker : Marker}
  {peek : Int} {description : Option Text} {front outcomes : List Outcome} {kind : Field}
  {status : Status}

theorem TailRead.map_field (h : TailRead fields peek description outcomes) :
    outcomes.map (·.field) = [.peek, .description] := by
  cases h with
  | empty => rfl
  | count => rfl
  | text => rfl
  | both => rfl

theorem TailRead.peek_iff (h : TailRead fields peek description outcomes) :
    Reports outcomes .peek .parsed ↔ 0 < peek := by
  cases h with
  | empty => simp [Reports]
  | count _ hpos => simp [Reports, hpos]
  | text => simp [Reports]
  | both _ hpos => simp [Reports, hpos]

theorem TailRead.description_iff (h : TailRead fields peek description outcomes) :
    Reports outcomes .description .parsed ↔ description ≠ none := by
  cases h with
  | empty => simp [Reports]
  | count => simp [Reports]
  | text => simp [Reports]
  | both => simp [Reports]

theorem TailRead.valid (h : TailRead fields peek description outcomes) :
    ∀ outcome ∈ outcomes, outcome.status ≠ .invalid := by
  cases h with
  | empty => simp
  | count => simp
  | text => simp
  | both => simp

theorem TailRead.spells (h : TailRead fields peek description outcomes) (hpos : 0 < peek) :
    ∃ field digits, fields[0]? = some field ∧ Integer.Spells digits field.trim peek := by
  cases h with
  | empty => cases hpos
  | count hspells => exact ⟨_, _, rfl, hspells⟩
  | text => cases hpos
  | both hspells => exact ⟨_, _, rfl, hspells⟩

theorem TitleRead.map_field (h : TitleRead left title peek description outcomes) :
    outcomes.map (·.field) = [.title, .peek, .description] := by
  cases h with
  | untitled htail => exact congrArg _ htail.map_field
  | titled htail => exact congrArg _ htail.map_field

theorem TitleRead.peek_iff (h : TitleRead left title peek description outcomes) :
    Reports outcomes .peek .parsed ↔ 0 < peek := by
  cases h with
  | untitled htail => simpa [Reports] using htail.peek_iff
  | titled htail => simpa [Reports] using htail.peek_iff

theorem TitleRead.description_iff (h : TitleRead left title peek description outcomes) :
    Reports outcomes .description .parsed ↔ description ≠ none := by
  cases h with
  | untitled htail => simpa [Reports] using htail.description_iff
  | titled htail => simpa [Reports] using htail.description_iff

theorem TitleRead.valid (h : TitleRead left title peek description outcomes) :
    ∀ outcome ∈ outcomes, outcome.status ≠ .invalid := by
  cases h with
  | untitled htail => exact List.forall_mem_cons.2 ⟨nofun, htail.valid⟩
  | titled htail => exact List.forall_mem_cons.2 ⟨nofun, htail.valid⟩

theorem TitleRead.spells (h : TitleRead left title peek description outcomes) (hpos : 0 < peek) :
    ∃ field digits, left[1]? = some field ∧ Integer.Spells digits field.trim peek := by
  cases h with
  | untitled htail =>
    obtain ⟨field, digits, hfield, hspells⟩ := htail.spells hpos
    cases hfield
  | titled htail => exact htail.spells hpos

theorem TitleRead.untitled_of_reports (h : TitleRead left title peek description outcomes)
    (htitle : Reports outcomes .title .defaulted) : title = [] ∧ peek = 0 ∧ description = none := by
  cases h with
  | untitled htail => cases htail with | empty => exact ⟨rfl, rfl, rfl⟩
  | titled htail =>
    obtain ⟨outcome, hin, hfield, hstatus⟩ := htitle
    rcases List.mem_cons.1 hin with rfl | hin
    · cases hstatus
    · have hmem := List.mem_map_of_mem (f := (·.field)) hin
      rw [htail.map_field, hfield] at hmem
      exact absurd hmem (by decide)

theorem TrailRead.map_field (h : TrailRead first rest start left) :
    start.outcomes.map (·.field) = if '#' ∈ first then [.trail, .step] else [.trail] := by
  cases h with
  | remark hmark =>
    rw [if_neg hmark]
    rfl
  | step =>
    rw [if_pos List.mem_append_cons_self]
    rfl
  | broken =>
    rw [if_pos List.mem_append_cons_self]
    rfl

theorem TrailRead.getElem?_left (h : TrailRead first rest start left) :
    left[1]? = (first :: rest)[if '#' ∈ first then 2 else 1]? := by
  cases h with
  | remark hmark => rw [if_neg hmark]
  | step =>
    rw [if_pos List.mem_append_cons_self]
    rfl
  | broken =>
    rw [if_pos List.mem_append_cons_self]
    rfl

theorem TrailRead.spells (h : TrailRead first rest start left)
    (hparsed : Reports start.outcomes .step .parsed) :
    ∃ name text digits : Text, first = name ++ '#' :: text ∧ '#' ∉ name ∧
      Integer.Spells digits text.trim start.step := by
  cases h with
  | remark => simp [Reports, Marker.remark] at hparsed
  | step hname hspells => exact ⟨_, _, _, rfl, hname, hspells⟩
  | broken => simp [Reports, ofBrokenStep] at hparsed

theorem TrailRead.not_spells (h : TrailRead first rest start left)
    (hinvalid : Reports start.outcomes .step .invalid) :
    ∃ name text : Text, first = name ++ '#' :: text ∧ '#' ∉ name ∧
      ∀ digits n, ¬ Integer.Spells digits text.trim n := by
  cases h with
  | remark => simp [Reports, Marker.remark] at hinvalid
  | step => simp [Reports, ofStep] at hinvalid
  | broken hname hspells => exact ⟨_, _, rfl, hname, hspells⟩

theorem TrailRead.field_of_invalid (h : TrailRead first rest start left) :
    ∀ outcome ∈ start.outcomes, outcome.status = .invalid →
      outcome.field = .step ∧ start.step = 0 := by
  cases h with
  | remark => simp [Marker.remark]
  | step => simp [ofStep]
  | broken => simp [ofBrokenStep]

theorem TrailRead.of_stepless (h : TrailRead first rest start left)
    (hnone : ∀ status, ¬ Reports start.outcomes .step status) :
    start.trail = [] ∧ start.step = 0 := by
  cases h with
  | remark => exact ⟨rfl, rfl⟩
  | step => exact (hnone .parsed (by simp [Reports, ofStep])).elim
  | broken => exact (hnone .invalid (by simp [Reports, ofBrokenStep])).elim

theorem reports_append : Reports (front ++ outcomes) kind status ↔
    Reports front kind status ∨ Reports outcomes kind status := by
  simp only [Reports, List.mem_append, or_and_right, exists_or]

theorem not_reports_of_notMem (h : kind ∉ outcomes.map (·.field)) :
    ¬ Reports outcomes kind status := by
  rintro ⟨outcome, hin, rfl, -⟩
  exact h (List.mem_map_of_mem hin)

theorem TrailRead.reports_append_iff (h : TrailRead first rest start left)
    (hkind : kind ∉ [Field.trail, .step]) :
    Reports (start.outcomes ++ outcomes) kind status ↔ Reports outcomes kind status := by
  have hnone : kind ∉ start.outcomes.map (·.field) := by
    rw [h.map_field]
    split
    · exact hkind
    · exact fun hin => hkind (List.mem_cons.2 (.inl (List.mem_singleton.1 hin)))
  rw [reports_append, or_iff_right (not_reports_of_notMem hnone)]

theorem TitleRead.reports_append_iff (h : TitleRead left title peek description outcomes) :
    Reports (front ++ outcomes) .step status ↔ Reports front .step status := by
  have hnone : .step ∉ outcomes.map (·.field) := by
    rw [h.map_field]
    decide
  rw [reports_append, or_iff_left (not_reports_of_notMem hnone)]

/-- What a marker reports is complete, and true of the marker and the payload. -/
structure Accounts (payload : Text) (marker : Marker) : Prop where
  fields : marker.outcomes.map (·.field) =
    (if '#' ∈ opening payload then [.trail, .step] else [.trail]) ++ [.title, .peek, .description]
  description : Reports marker.outcomes .description .parsed ↔ marker.description ≠ none
  peek : Reports marker.outcomes .peek .parsed ↔ 0 < marker.peek
  title : Reports marker.outcomes .title .defaulted →
    marker.title = [] ∧ ¬ Reports marker.outcomes .peek .parsed ∧
      ¬ Reports marker.outcomes .description .parsed
  degraded : ∀ outcome ∈ marker.degraded, outcome.field = .step ∧ marker.step = 0
  stepless : (∀ status, ¬ Reports marker.outcomes .step status) →
    marker.trail = [] ∧ marker.step = 0
  stepParsed : Reports marker.outcomes .step .parsed →
    ∃ name text digits : Text, opening payload = name ++ '#' :: text ∧ '#' ∉ name ∧
      Integer.Spells digits text.trim marker.step
  stepInvalid : Reports marker.outcomes .step .invalid →
    ∃ name text : Text, opening payload = name ++ '#' :: text ∧ '#' ∉ name ∧
      ∀ digits n, ¬ Integer.Spells digits text.trim n
  peekParsed : Reports marker.outcomes .peek .parsed →
    ∃ field digits, (payload.split ';')[if '#' ∈ opening payload then 2 else 1]? = some field ∧
      Integer.Spells digits field.trim marker.peek

theorem Read.accounts (h : Read payload marker) : Accounts payload marker := by
  cases h with
  | @mk rest start left title peek description outcomes hsplit htrail htitle =>
    have hpeek : Reports (start.outcomes ++ outcomes) .peek .parsed ↔ 0 < peek :=
      (htrail.reports_append_iff (by decide)).trans htitle.peek_iff
    have hdescription : Reports (start.outcomes ++ outcomes) .description .parsed ↔
        description ≠ none :=
      (htrail.reports_append_iff (by decide)).trans htitle.description_iff
    constructor
    case fields => simp only [List.map_append, htrail.map_field, htitle.map_field]
    case description => exact hdescription
    case peek => exact hpeek
    case title =>
      intro hdefaulted
      rw [htrail.reports_append_iff (by decide)] at hdefaulted
      obtain ⟨rfl, rfl, rfl⟩ := htitle.untitled_of_reports hdefaulted
      exact ⟨rfl, fun h => Int.lt_irrefl 0 (hpeek.1 h), fun h => hdescription.1 h rfl⟩
    case degraded =>
      intro outcome hin
      obtain ⟨hin, hstatus⟩ := List.mem_filter.1 hin
      rw [decide_eq_true_eq] at hstatus
      rcases List.mem_append.1 hin with hstart | hrest
      · exact htrail.field_of_invalid outcome hstart hstatus
      · exact (htitle.valid outcome hrest hstatus).elim
    case stepless =>
      intro hnone
      simp only [htitle.reports_append_iff] at hnone
      exact htrail.of_stepless hnone
    case stepParsed => exact fun hparsed => htrail.spells (htitle.reports_append_iff.1 hparsed)
    case stepInvalid =>
      exact fun hinvalid => htrail.not_spells (htitle.reports_append_iff.1 hinvalid)
    case peekParsed =>
      intro hparsed
      obtain ⟨field, digits, hfield, hspells⟩ := htitle.spells (hpeek.1 hparsed)
      rw [hsplit, ← htrail.getElem?_left]
      exact ⟨field, digits, hfield, hspells⟩

/-- Whatever a payload holds, if it can be read, the marker accounts for each of its fields. -/
theorem accounts_of_parse (h : parse payload = .ok marker) : Accounts payload marker :=
  (read_of_parse h).accounts

def strayMarker : Marker where
  trail := "api".toList
  peek := 4
  outcomes :=
    [⟨.trail, .parsed, "api".toList⟩, ⟨.step, .invalid, "not an integer: '+x'".toList⟩,
      ⟨.title, .parsed, []⟩, ⟨.peek, .parsed, "4".toList⟩, ⟨.description, .defaulted, []⟩]

theorem accounts_of_parse_stray :
    parse " api #\t+x;; 04".toList = .ok strayMarker ∧
      Accounts " api #\t+x;; 04".toList strayMarker := by
  have hparse : parse " api #\t+x;; 04".toList = .ok strayMarker := by rfl
  exact ⟨hparse, accounts_of_parse hparse⟩

end Breadcrumb.Marker
