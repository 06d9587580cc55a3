import Breadcrumb.Proofs.Run.Visits
import Breadcrumb.Proofs.Sources.Paths
import Breadcrumb.Proofs.Trail.Conservation
import Breadcrumb.Service

namespace Breadcrumb

namespace Service.Response

/-- Notes on different files lose nothing when they are put by their paths. -/
theorem skipped_eq (h : (notes.map (·.path)).Nodup) :
    skipped notes = notes.map fun note => (note.path, .str note.reason) := by
  have hnames : ((notes.map fun note => (note.path, Json.str note.reason)).map (·.1)).Nodup := by
    rw [List.map_map]
    exact h
  have hset := Named.foldl_set [] _ hnames
  rwa [List.foldl_map] at hset

end Service.Response

namespace Run

namespace Visit

variable {visit : Visit}

theorem of_scan (h : visit.scan = .ok found) :
    ∃ stream, visit.stream = .ok stream ∧ (visit.job.scan stream).result = .ok found := by
  rw [scan] at h
  cases hstream : visit.stream with
  | error fault =>
    rw [hstream] at h
    cases h
  | ok stream =>
    rw [hstream] at h
    refine ⟨stream, rfl, ?_⟩
    cases hresult : (visit.job.scan stream).result with
    | error fault =>
      simp only [hresult, Except.mapError, reduceCtorEq] at h
    | ok crumbs =>
      simp only [hresult, Except.mapError] at h
      cases h
      rfl

theorem crumbs_of_scan (h : visit.scan = .ok found) : visit.crumbs = found := by
  rw [crumbs, h]
  rfl

theorem length_of_scan (h : visit.scan = .ok found) : found.length = visit.runs.length := by
  obtain ⟨stream, hstream, hresult⟩ := of_scan h
  obtain ⟨apart, -, rfl⟩ := Scan.Job.scan_of_ok hresult
  rw [runs, hstream, List.length_map]
  exact (Scan.Job.forall₂_markedRuns_marks apart).length_eq.symm

theorem crumbs_cases (visit : Visit) :
    visit.crumbs = [] ∨
      ∃ lines, visit.crumbs = (visit.job.marks lines).map (visit.job.crumbAt lines) := by
  cases hscan : visit.scan with
  | error fault =>
    left
    rw [crumbs, hscan]
    rfl
  | ok found =>
    right
    obtain ⟨stream, -, hresult⟩ := of_scan hscan
    obtain ⟨-, -, rfl⟩ := Scan.Job.scan_of_ok hresult
    exact ⟨stream.lines, crumbs_of_scan hscan⟩

theorem path_of_mem_crumbs (h : crumb ∈ visit.crumbs) : crumb.path = visit.source.path := by
  rcases visit.crumbs_cases with hnone | ⟨lines, hlines⟩
  · rw [hnone] at h
    cases h
  · rw [hlines] at h
    obtain ⟨i, -, rfl⟩ := List.mem_map.1 h
    rfl

theorem crumbs_sorted (visit : Visit) : visit.crumbs.Pairwise (·.line < ·.line) := by
  rcases visit.crumbs_cases with hnone | ⟨lines, hlines⟩
  · rw [hnone]
    exact .nil
  · rw [hlines]
    exact Scan.Job.crumbAt_lines_sorted visit.job lines

end Visit

theorem length_flatMap_crumbs (visits : List Visit) :
    (visits.flatMap (·.crumbs)).length =
      ((visits.filter (·.scan.isOk)).flatMap (·.runs)).length := by
  induction visits with
  | nil => rfl
  | cons visit visits ih =>
    rw [List.flatMap_cons, List.length_append, ih]
    cases hscan : visit.scan with
    | error fault =>
      rw [List.filter_cons_of_neg (by simp [hscan, Except.isOk, Except.toBool]), Visit.crumbs, hscan]
      exact Nat.zero_add _
    | ok found =>
      rw [List.filter_cons_of_pos (by simp [hscan, Except.isOk, Except.toBool]), List.flatMap_cons,
        List.length_append, Visit.crumbs_of_scan hscan, Visit.length_of_scan hscan]

theorem filterMap_note_paths (visits : List Visit) :
    (visits.filterMap (·.note?)).map (·.path) =
      (visits.filter (!·.scan.isOk)).map (·.source.path) := by
  induction visits with
  | nil => rfl
  | cons visit visits ih =>
    cases hscan : visit.scan with
    | error fault =>
      have hnote : visit.note? = some ⟨visit.source.path, fault.message⟩ := by
        rw [Visit.note?, hscan]
      rw [List.filterMap_cons_some hnote,
        List.filter_cons_of_pos (by simp [hscan, Except.isOk, Except.toBool]), List.map_cons, ih,
        List.map_cons]
    | ok found =>
      have hnote : visit.note? = none := by
        rw [Visit.note?, hscan]
      rw [List.filterMap_cons_none hnote,
        List.filter_cons_of_neg (by simp [hscan, Except.isOk, Except.toBool]), ih]

theorem nodup_crumb_places {visits : List Visit}
    (h : visits.Pairwise (·.source.path < ·.source.path)) :
    ((visits.flatMap (·.crumbs)).map fun crumb => (crumb.path, crumb.line)).Nodup := by
  rw [List.map_flatMap, List.nodup_flatMap]
  refine ⟨fun visit _ => ?_, h.imp ?_⟩
  · refine List.pairwise_map.2 (visit.crumbs_sorted.imp fun hlt heq => ?_)
    simp only [Prod.mk.injEq] at heq
    omega
  · intro visit visit' hlt place hplace hplace'
    obtain ⟨crumb, hcrumb, rfl⟩ := List.mem_map.1 hplace
    obtain ⟨crumb', hcrumb', heq⟩ := List.mem_map.1 hplace'
    rw [← Visit.path_of_mem_crumbs hcrumb, ← Visit.path_of_mem_crumbs hcrumb'] at hlt
    rw [(Prod.mk.inj heq).1] at hlt
    exact List.lt_irrefl _ hlt

theorem sources_sorted {tree : FileTree} (hproper : tree.root.Proper)
    (h : sources registry root included excluded tree = .ok found) :
    found.Pairwise (·.path < ·.path) := by
  obtain ⟨place, rules, selection, -, -, -, rfl⟩ := of_sources h
  exact Sources.list_paths_sorted hproper registry place

theorem scan_of_run_collect {world world' : World}
    (h : (collect registry request).run world = (.ok grouped, world')) :
    ∃ found harvest mid,
      sources registry request.root request.included request.excluded world.tree = .ok found ∧
      (scanAll found request.marker).run (world.emit
        { level := .debug, component := "orchestrator".toList, message := census found }) =
          (.ok harvest, mid) ∧
      grouped = Assembly.regroup (request.entry.getD []) harvest.crumbs ∧
      world'.notes = harvest.notes := by
  obtain ⟨found, asked, hask, hlog⟩ := Session.of_run_bind h
  obtain ⟨hfound, rfl⟩ := Session.of_run_ask hask
  obtain ⟨_, logged, hsay, hscan⟩ := Session.of_run_bind hlog
  obtain rfl := Session.of_run_say hsay
  obtain ⟨harvest, scanned, hharvest, hgroup⟩ := Session.of_run_bind hscan
  cases hgroup
  exact ⟨found, harvest, scanned, hfound, hharvest, rfl, rfl⟩

theorem of_run_collect {world world' : World}
    (h : (collect registry request).run world = (.ok grouped, world')) :
    ∃ trips files, visits registry request world = .ok trips ∧
      sources registry request.root request.included request.excluded world.tree =
        .ok (trips.map (·.source)) ∧
      grouped = Assembly.regroup (request.entry.getD []) files ∧
      files.flatten = trips.flatMap (·.crumbs) ∧ world'.notes = trips.filterMap (·.note?) := by
  obtain ⟨found, harvest, mid, hfound, hharvest, hgrouped, hnotes⟩ := scan_of_run_collect h
  obtain ⟨sign, hsign, hgrows⟩ := of_run_scanAll hharvest
  refine ⟨_, harvest.crumbs, ?_, ?_, hgrouped, hgrows.crumbs, hnotes.trans hgrows.notes⟩
  · rw [visits, hfound, hsign]
    rfl
  · rw [visitsFrom_sources]
    exact hfound

/-- What is collected against what the visits find. No crumb is lost and none comes twice: there is
one for each run with a marker in the files whose scan does not fail, and no two of them lie on one
line of one file. The sources that fail are noted once each, in the order of their paths, so that the
notes keep apart when they are put by path. -/
structure Conserves (trips : List Visit) (grouped : Grouped) (notes : List FileNote) : Prop where
  crumbs : grouped.crumbs.Perm (trips.flatMap (·.crumbs))
  places : (grouped.crumbs.map fun crumb => (crumb.path, crumb.line)).Nodup
  total : grouped.stats.total = ((trips.filter (·.scan.isOk)).flatMap (·.runs)).length
  noted : notes.map (·.path) = (trips.filter (!·.scan.isOk)).map (·.source.path)
  ascending : (notes.map (·.path)).Pairwise (· < ·)
  skipped : Service.Response.skipped notes = notes.map fun note => (note.path, .str note.reason)

theorem conserves_regroup {trips : List Visit} {files : List (List Crumb)} (entry : Text)
    (hsorted : trips.Pairwise (·.source.path < ·.source.path))
    (hcrumbs : files.flatten = trips.flatMap (·.crumbs)) :
    Conserves trips (Assembly.regroup entry files) (trips.filterMap (·.note?)) := by
  have hperm := Assembly.regroup_crumbs_perm entry files
  rw [hcrumbs] at hperm
  have hpaths := filterMap_note_paths trips
  have hstrict : ((trips.filterMap (·.note?)).map (·.path)).Pairwise (· < ·) := by
    rw [hpaths]
    exact List.pairwise_map.2 (hsorted.sublist List.filter_sublist)
  refine ⟨hperm, ?_, ?_, hpaths, hstrict, ?_⟩
  · exact (hperm.map _).nodup_iff.2 (nodup_crumb_places hsorted)
  · exact hperm.length_eq.trans (length_flatMap_crumbs trips)
  · refine Service.Response.skipped_eq (hstrict.imp fun hlt heq => ?_)
    exact List.lt_irrefl _ (heq ▸ hlt)

theorem conserves_of_run_collect {world world' : World} (hproper : world.tree.root.Proper)
    (h : (collect registry request).run world = (.ok grouped, world')) :
    ∃ trips, visits registry request world = .ok trips ∧
      sources registry request.root request.included request.excluded world.tree =
        .ok (trips.map (·.source)) ∧
      Conserves trips grouped world'.notes := by
  obtain ⟨trips, files, hvisits, hsources, rfl, hcrumbs, hnotes⟩ := of_run_collect h
  have hsorted := sources_sorted hproper hsources
  rw [List.pairwise_map] at hsorted
  rw [hnotes]
  exact ⟨trips, hvisits, hsources, conserves_regroup _ hsorted hcrumbs⟩

/-- Whenever a project is collected, its crumbs and notes are those of the visits to its sources.
Without a log file the visits meet the files as they were at the start. -/
theorem collect_conserves_crumbs (registry : Registry) (request : Request) (world world' : World)
    (grouped : Grouped) (hproper : world.tree.root.Proper)
    (h : (collect registry request).run world = (.ok grouped, world')) :
    ∃ trips : List Visit, visits registry request world = .ok trips ∧
      sources registry request.root request.included request.excluded world.tree =
        .ok (trips.map (·.source)) ∧
      (world.sink = none → ∀ visit ∈ trips, visit.world.tree = world.tree) ∧
      Conserves trips grouped world'.notes := by
  obtain ⟨trips, hvisits, hsources, hconserves⟩ := conserves_of_run_collect hproper h
  refine ⟨trips, hvisits, hsources, ?_, hconserves⟩
  intro hsink
  obtain ⟨found, sign, record, -, rfl⟩ := of_visits hvisits
  have hlogged := World.emitAll_of_sink hsink [record]
  intro visit hvisit
  exact (visitsFrom_tree sign found hlogged.1 visit hvisit).trans hlogged.2

def slashRegistry : Registry :=
  let language := Language.lineComments "Go" [".go"] "//"
  { languages := [language], entries := [(".go".toList, language)] }

def repeatedFiles : List (Text × Entry) :=
  [("a.go".toList, .file (Encoding.encode "// cc: T#1; A\nx\n// cc: B\n".toList)),
    ("b.go".toList, .file (Encoding.encode "// cc: A\n// cc: B\n".toList))]

def repeatedWorld : World where
  tree := { root := .folder [("p".toList, .folder repeatedFiles)] }
  mint := Text.ofNat

def repeatedRequest : Request := { root := "/p".toList, entry := some "a.go".toList }

theorem candidates_repeated :
    Sources.candidates repeatedWorld.tree {} ["p".toList] = ["a.go".toList, "b.go".toList] := by
  have hwalk : Sources.walk repeatedWorld.tree {} ["p".toList] [] repeatedFiles =
      ["a.go".toList, "b.go".toList] := by decide
  change (Sources.walk repeatedWorld.tree {} ["p".toList] [] repeatedFiles).mergeSort Text.le = _
  rw [hwalk]
  exact List.mergeSort_of_pairwise (by decide)

theorem sources_repeated :
    sources slashRegistry repeatedRequest.root repeatedRequest.included repeatedRequest.excluded
      repeatedWorld.tree = .ok (["a.go".toList, "b.go".toList].filterMap
        (Sources.source? slashRegistry {} ["p".toList])) := by
  have hplace : projectFolder repeatedRequest.root repeatedWorld.tree = .ok ["p".toList] := by
    decide
  have hrules : ignoreRules repeatedWorld.tree ["p".toList] = .ok [] := by decide
  rw [← candidates_repeated]
  exact sources_of_parts hplace hrules rfl

theorem proper_repeated : repeatedWorld.tree.root.Proper := by
  have hfiles : (Entry.folder repeatedFiles).Proper := by
    refine .folder (by decide) (by decide) ?_
    intro e he
    rcases List.mem_pair.1 he with rfl | rfl <;> exact .file _
  exact .singleton (by decide) hfiles

theorem collect_conserves_crumbs_repeated :
    repeatedWorld.tree.root.Proper ∧
    ∃ grouped world' trips,
      (collect slashRegistry repeatedRequest).run repeatedWorld = (.ok grouped, world') ∧
      trips.map (·.runs) = [[(0, 1), (2, 3)], [(0, 2)]] ∧ world'.notes.map (·.path) = ["b.go".toList] ∧
      Conserves trips grouped world'.notes := by
  let outcome := (collect slashRegistry repeatedRequest).run repeatedWorld
  have hnotes : outcome.1.isOk = true ∧ outcome.2.notes.map (·.path) = ["b.go".toList] := by
    simp only [outcome, collect, Session.run_ask_bind sources_repeated]
    decide +kernel
  cases hresult : outcome.1 with
  | error failure =>
    rw [hresult] at hnotes
    cases hnotes.1
  | ok grouped =>
    have hrun : outcome = (.ok grouped, outcome.2) := Prod.ext hresult rfl
    obtain ⟨trips, hvisits, -, -, hconserves⟩ := collect_conserves_crumbs slashRegistry
      repeatedRequest repeatedWorld outcome.2 grouped proper_repeated hrun
    refine ⟨proper_repeated, grouped, outcome.2, trips, hrun, ?_, hnotes.2, hconserves⟩
    rw [visits, sources_repeated] at hvisits
    cases hvisits
    decide +kernel

end Run

end Breadcrumb
