import Breadcrumb.Proofs.Scan.Ending
import Breadcrumb.Proofs.World.Session
import Breadcrumb.Run

namespace Breadcrumb.Run

/-- A source that is about to be scanned. -/
structure Visit where
  sigil : Sigil
  source : Source
  world : World

namespace Visit

/-- Why a visit finds nothing: the file cannot be opened, or its scan fails. -/
inductive Fault where
  | unopened (fault : FileFault)
  | unscanned (fault : Scan.Fault)

def Fault.message : Fault → Text
  | .unopened fault => fault.message
  | .unscanned fault => fault.message

def job (visit : Visit) : Scan.Job := Run.job visit.sigil visit.source visit.world

def stream (visit : Visit) : Except FileFault LineStream :=
  (visit.world.tree.read visit.source.place.toPath).map (.read .utf8 LineStream.pieceSize)

def scan (visit : Visit) : Except Fault (List Crumb) :=
  match visit.stream with
  | .error fault => .error (.unopened fault)
  | .ok stream => (visit.job.scan stream).result.mapError .unscanned

def crumbs (visit : Visit) : List Crumb := visit.scan.toOption.getD []

def note? (visit : Visit) : Option FileNote :=
  match visit.scan with
  | .ok _ => none
  | .error fault => some ⟨visit.source.path, fault.message⟩

/-- The runs with a marker in the source's file. -/
def runs (visit : Visit) : List (Nat × Nat) :=
  match visit.stream with
  | .error _ => []
  | .ok stream => visit.job.markedRuns stream.lines

def after (visit : Visit) : World := ((Harvest.scan visit.sigil {} visit.source).run visit.world).2

end Visit

def visitsFrom (sigil : Sigil) (world : World) : List Source → List Visit
  | [] => []
  | source :: rest =>
    let visit : Visit := { sigil, source, world }
    visit :: visitsFrom sigil visit.after rest

/-- The visits that a collection makes, to all sources in their order. -/
def visits (registry : Registry) (request : Request) (world : World) :
    Except Failure (List Visit) := do
  let found ← sources registry request.root request.included request.excluded world.tree
  let sigil ← sigil request.marker
  let record := { level := .debug, component := "orchestrator".toList, message := census found }
  return visitsFrom sigil (world.emit record) found

namespace Harvest

variable {harvest harvest' : Harvest} {source : Source} {world world' : World}

/-- The harvest has grown by crumbs and notes. -/
structure Grows (harvest : Harvest) (crumbs : List Crumb) (notes : List FileNote)
    (harvest' : Harvest) : Prop where
  crumbs : harvest'.crumbs.flatten = harvest.crumbs.flatten ++ crumbs
  notes : harvest'.notes = harvest.notes ++ notes

theorem of_run_drop (h : (harvest.drop source verb reason).run world = (.ok harvest', world')) :
    harvest.Grows [] [⟨source.path, reason⟩] harvest' := by
  cases h
  exact ⟨(List.append_nil _).symm, rfl⟩

theorem of_run_keep (h : (harvest.keep source found).run world = (.ok harvest', world')) :
    harvest.Grows found [] harvest' := by
  rw [keep] at h
  split at h
  · rename_i hempty
    cases h
    rw [List.isEmpty_iff.1 hempty]
    exact ⟨(List.append_nil _).symm, (List.append_nil _).symm⟩
  · cases h
    exact ⟨by simp, (List.append_nil _).symm⟩

theorem of_run_settle (h : (harvest.settle source result).run world = (.ok harvest', world')) :
    (∃ found, result = .ok found ∧ harvest.Grows found [] harvest') ∨
      ∃ fault, result = .error fault ∧ harvest.Grows [] [⟨source.path, fault.message⟩] harvest' := by
  cases result with
  | ok found => exact .inl ⟨found, rfl, of_run_keep h⟩
  | error fault =>
    cases fault with
    | duplicate path line first => exact .inr ⟨_, rfl, of_run_drop h⟩
    | tooManyDigits fault => cases h
    | undecodable fault => exact .inr ⟨_, rfl, of_run_drop h⟩

theorem run_settle_emits (source : Source) (result : Except Scan.Fault (List Crumb))
    (world : World) :
    ∃ records, ∀ harvest : Harvest,
      ((harvest.settle source result).run world).2 = world.emitAll records := by
  cases result with
  | ok found =>
    simp only [settle, keep]
    split
    · exact ⟨[], fun _ => rfl⟩
    · exact ⟨[_], fun _ => rfl⟩
  | error fault =>
    cases fault with
    | duplicate path line first => exact ⟨[_], fun _ => rfl⟩
    | tooManyDigits fault => exact ⟨[], fun _ => rfl⟩
    | undecodable fault => exact ⟨[_], fun _ => rfl⟩

theorem of_run_reject (h : (harvest.reject source fault).run world = (.ok harvest', world')) :
    harvest.Grows [] [⟨source.path, fault.message⟩] harvest' := by
  cases fault with
  | refused errno path => exact of_run_drop h
  | nullInPath => cases h
  | linkLoop path => cases h
  | homeUnknown => cases h

theorem run_reject_emits (source : Source) (fault : FileFault) (world : World) :
    ∃ records, ∀ harvest : Harvest,
      ((harvest.reject source fault).run world).2 = world.emitAll records := by
  cases fault with
  | refused errno path => exact ⟨[_], fun _ => rfl⟩
  | nullInPath => exact ⟨[], fun _ => rfl⟩
  | linkLoop path => exact ⟨[], fun _ => rfl⟩
  | homeUnknown => exact ⟨[], fun _ => rfl⟩

theorem run_scan_of_error (sigil : Sigil) (harvest : Harvest)
    (hread : world.tree.read source.place.toPath = .error fault) :
    (scan sigil harvest source).run world = (harvest.reject source fault).run world := by
  rw [scan, Session.run_get_bind, hread]

theorem run_scan_of_ok (sigil : Sigil) (harvest : Harvest)
    (hread : world.tree.read source.place.toPath = .ok bytes) :
    let outcome := (job sigil source world).scanBytes .utf8 bytes
    (scan sigil harvest source).run world =
      (harvest.settle source outcome.result).run (absorb outcome world) := by
  rw [scan, Session.run_get_bind, hread]
  rfl

end Harvest

namespace Visit

variable {harvest harvest' : Harvest} {world' : World}

theorem run_scan_world (visit : Visit) (harvest : Harvest) :
    ((Harvest.scan visit.sigil harvest visit.source).run visit.world).2 = visit.after := by
  cases hread : visit.world.tree.read visit.source.place.toPath with
  | error fault =>
    obtain ⟨records, hlogs⟩ := Harvest.run_reject_emits visit.source fault visit.world
    rw [after, Harvest.run_scan_of_error _ _ hread, Harvest.run_scan_of_error _ _ hread, hlogs, hlogs]
  | ok bytes =>
    obtain ⟨records, hlogs⟩ := Harvest.run_settle_emits visit.source
      ((Run.job visit.sigil visit.source visit.world).scanBytes .utf8 bytes).result
      (absorb ((Run.job visit.sigil visit.source visit.world).scanBytes .utf8 bytes) visit.world)
    rw [after, Harvest.run_scan_of_ok _ _ hread, Harvest.run_scan_of_ok _ _ hread, hlogs, hlogs]

theorem of_run_scan (visit : Visit)
    (h : (Harvest.scan visit.sigil harvest visit.source).run visit.world = (.ok harvest', world')) :
    harvest.Grows visit.crumbs visit.note?.toList harvest' := by
  cases hread : visit.world.tree.read visit.source.place.toPath with
  | error fault =>
    rw [Harvest.run_scan_of_error _ _ hread] at h
    have hscan : visit.scan = .error (.unopened fault) := by
      rw [scan, stream, hread]
      rfl
    rw [crumbs, note?, hscan]
    exact Harvest.of_run_reject h
  | ok bytes =>
    rw [Harvest.run_scan_of_ok _ _ hread] at h
    have hscan : visit.scan = ((Run.job visit.sigil visit.source visit.world).scanBytes .utf8
        bytes).result.mapError .unscanned := by
      rw [scan, stream, hread]
      rfl
    rw [crumbs, note?, hscan]
    rcases Harvest.of_run_settle h with ⟨found, hresult, hgrows⟩ | ⟨fault, hresult, hgrows⟩
    · rw [hresult]
      exact hgrows
    · rw [hresult]
      exact hgrows

theorem after_of_sink (visit : Visit) (h : visit.world.sink = none) :
    visit.after.sink = none ∧ visit.after.tree = visit.world.tree := by
  cases hread : visit.world.tree.read visit.source.place.toPath with
  | error fault =>
    obtain ⟨records, hlogs⟩ := Harvest.run_reject_emits visit.source fault visit.world
    rw [after, Harvest.run_scan_of_error _ _ hread, hlogs]
    exact World.emitAll_of_sink h records
  | ok bytes =>
    rw [after, Harvest.run_scan_of_ok _ _ hread]
    let outcome := (Run.job visit.sigil visit.source visit.world).scanBytes .utf8 bytes
    have habsorb := World.emitAll_of_sink h outcome.records
    obtain ⟨records, hlogs⟩ := Harvest.run_settle_emits visit.source outcome.result
      (absorb outcome visit.world)
    have hlogged := @World.emitAll_of_sink (absorb outcome visit.world) habsorb.1 records
    rw [hlogs]
    exact ⟨hlogged.1, hlogged.2.trans habsorb.2⟩

end Visit

theorem visitsFrom_sources (sigil : Sigil) (world : World) (sources : List Source) :
    (visitsFrom sigil world sources).map (·.source) = sources := by
  induction sources generalizing world with
  | nil => rfl
  | cons source sources ih => rw [visitsFrom, List.map_cons, ih]

theorem visitsFrom_tree (sigil : Sigil) (sources : List Source) (h : world.sink = none) :
    ∀ visit ∈ visitsFrom sigil world sources, visit.world.tree = world.tree := by
  induction sources generalizing world with
  | nil => exact fun _ hvisit => nomatch hvisit
  | cons source sources ih =>
    have hafter := Visit.after_of_sink { sigil, source, world } h
    refine List.forall_mem_cons.2 ⟨rfl, fun visit hvisit => ?_⟩
    exact (ih hafter.1 visit hvisit).trans hafter.2

theorem of_run_foldlM {sigil : Sigil} {sources : List Source} {harvest harvest' : Harvest}
    {world world' : World}
    (h : (sources.foldlM (Harvest.scan sigil) harvest).run world = (.ok harvest', world')) :
    harvest.Grows ((visitsFrom sigil world sources).flatMap (·.crumbs))
      ((visitsFrom sigil world sources).filterMap (·.note?)) harvest' := by
  induction sources generalizing harvest world with
  | nil =>
    cases h
    exact ⟨(List.append_nil _).symm, (List.append_nil _).symm⟩
  | cons source sources ih =>
    rw [List.foldlM_cons] at h
    obtain ⟨mid, world₁, hscan, h⟩ := Session.of_run_bind h
    let visit : Visit := { sigil, source, world }
    have hworld : world₁ = visit.after := by
      rw [← visit.run_scan_world harvest, hscan]
    have hfirst := visit.of_run_scan hscan
    have hrest := ih (hworld ▸ h)
    refine ⟨?_, ?_⟩
    · rw [hrest.crumbs, hfirst.crumbs, List.append_assoc]
      rfl
    · rw [hrest.notes, hfirst.notes, List.append_assoc, visitsFrom, List.filterMap_cons]
      cases visit.note? with
      | none => rfl
      | some note => rfl

theorem of_run_scanAll {found : List Source} {world world' : World}
    (h : (scanAll found marker).run world = (.ok harvest, world')) :
    ∃ sign, sigil marker = .ok sign ∧
      ({} : Harvest).Grows ((visitsFrom sign world found).flatMap (·.crumbs))
        ((visitsFrom sign world found).filterMap (·.note?)) harvest := by
  obtain ⟨sign, read, hread, hfold⟩ := Session.of_run_bind h
  obtain ⟨hsign, rfl⟩ := Session.of_run_lift hread
  exact ⟨sign, hsign, of_run_foldlM hfold⟩

theorem of_sources {tree : FileTree}
    (h : sources registry root included excluded tree = .ok found) :
    ∃ place rules selection, projectFolder root tree = .ok place ∧
      ignoreRules tree place = .ok rules ∧
      (Selection.ofTexts included excluded).mapError Failure.expression = .ok selection ∧
      found = Sources.list tree registry { rules, selection } place := by
  obtain ⟨place, hplace, h⟩ := exists_of_bind_eq_ok h
  obtain ⟨rules, hrules, h⟩ := exists_of_bind_eq_ok h
  obtain ⟨selection, hselection, h⟩ := exists_of_bind_eq_ok h
  cases h
  exact ⟨place, rules, selection, hplace, hrules, hselection, rfl⟩

theorem sources_of_parts {tree : FileTree} (hplace : projectFolder root tree = .ok place)
    (hrules : ignoreRules tree place = .ok rules)
    (hselection : (Selection.ofTexts included excluded).mapError Failure.expression = .ok selection) :
    sources registry root included excluded tree =
      .ok (Sources.list tree registry { rules, selection } place) := by
  simp only [sources, hplace, hrules, hselection, bind, Except.bind]
  rfl

theorem of_visits (h : visits registry request world = .ok trips) :
    ∃ found sign record,
      sources registry request.root request.included request.excluded world.tree = .ok found ∧
      trips = visitsFrom sign (world.emit record) found := by
  obtain ⟨found, hfound, h⟩ := exists_of_bind_eq_ok h
  obtain ⟨sign, -, h⟩ := exists_of_bind_eq_ok h
  cases h
  exact ⟨found, sign, _, hfound, rfl⟩

end Breadcrumb.Run
