import Breadcrumb.Proofs.Run.Conservation
import Breadcrumb.Proofs.Run.Returning
import Breadcrumb.Proofs.Run.Thinning
import Breadcrumb.Proofs.Scan.Naming

namespace Breadcrumb

namespace World

/-- The log goes on to the same file, and files that it is not written to stay as they are. -/
structure Keeps (world world' : World) : Prop where
  sink : world'.sink = world.sink
  file : ∀ place bytes, (∀ log ∈ world.sink, ¬ log <+: place) →
    world.tree.root.at? place = some (.file bytes) → world'.tree.root.at? place = some (.file bytes)

theorem Keeps.refl (world : World) : world.Keeps world := ⟨rfl, fun _ _ _ h => h⟩

theorem Keeps.trans (h : Keeps world mid) (h' : Keeps mid world') : Keeps world world' := by
  refine ⟨h'.sink.trans h.sink, ?_⟩
  intro place bytes hlog hfile
  exact h'.file place bytes (by rwa [h.sink]) (h.file place bytes hlog hfile)

theorem keeps_emit (world : World) (record : Log.Record) : world.Keeps (world.emit record) := by
  refine ⟨rfl, ?_⟩
  intro place bytes hlog hfile
  rw [emit]
  cases hsink : world.sink with
  | none => exact hfile
  | some log =>
    have hput (new : Bytes) : (world.tree.root.put log (.file new)).at? place = some (.file bytes) :=
      Entry.at?_put hfile (hlog log hsink)
    simp only [FileTree.append, FileTree.putFile]
    split
    · exact hput _
    · exact hput _

theorem keeps_emitAll (world : World) (records : List Log.Record) :
    world.Keeps (world.emitAll records) := by
  induction records generalizing world with
  | nil => exact .refl world
  | cons record records ih => exact (world.keeps_emit record).trans (ih (world.emit record))

end World

namespace Run

theorem keeps_absorb (outcome : Scan.Outcome) (world : World) : world.Keeps (absorb outcome world) :=
  have h := world.keeps_emitAll outcome.records
  ⟨h.sink, h.file⟩

theorem Visit.keeps_after (visit : Visit) : visit.world.Keeps visit.after := by
  cases hread : visit.world.tree.read visit.source.place.toPath with
  | error fault =>
    obtain ⟨records, hlogs⟩ := Harvest.run_reject_emits visit.source fault visit.world
    rw [after, Harvest.run_scan_of_error _ _ hread, hlogs]
    exact visit.world.keeps_emitAll records
  | ok bytes =>
    rw [after, Harvest.run_scan_of_ok _ _ hread]
    let outcome := (Run.job visit.sigil visit.source visit.world).scanBytes .utf8 bytes
    obtain ⟨records, hlogs⟩ := Harvest.run_settle_emits visit.source outcome.result
      (absorb outcome visit.world)
    rw [hlogs]
    exact (keeps_absorb outcome visit.world).trans (World.keeps_emitAll _ records)

theorem visitsFrom_keeps (sigil : Sigil) (world : World) (found : List Source) :
    ∀ visit ∈ visitsFrom sigil world found, visit.sigil = sigil ∧ world.Keeps visit.world := by
  induction found generalizing world with
  | nil => exact fun _ hvisit => nomatch hvisit
  | cons source found ih =>
    refine List.forall_mem_cons.2 ⟨⟨rfl, .refl world⟩, ?_⟩
    intro visit hvisit
    have hafter := Visit.keeps_after { sigil, source, world }
    obtain ⟨hsigil, hkeeps⟩ := ih _ visit hvisit
    exact ⟨hsigil, hafter.trans hkeeps⟩

def verdict (sigil : Sigil) (tree : FileTree) (source : Source) :
    Except Visit.Fault (List Crumb) :=
  Visit.scan { sigil, source, world := { tree, mint := fun _ => [] } }

def yields (sigil : Sigil) (tree : FileTree) (source : Source) : List Crumb :=
  (verdict sigil tree source).toOption.getD []

theorem Visit.unnamed_scan (visit : Visit) :
    visit.scan.map (·.map Crumb.unnamed) = verdict visit.sigil visit.world.tree visit.source := by
  let bare : Visit :=
    { visit with world := { tree := visit.world.tree, mint := fun _ => [] } }
  have hstream : bare.stream = visit.stream := rfl
  have hjob : bare.job = visit.job.nameless := rfl
  change _ = bare.scan
  rw [scan, scan, hstream, hjob]
  cases visit.stream with
  | error fault => rfl
  | ok stream =>
    simp only [Scan.Job.nameless_scan, Scan.Outcome.unnamed]
    cases (visit.job.scan stream).result <;> rfl

theorem verdict_congr (sigil : Sigil) (source : Source)
    (h : tree'.read source.place.toPath = FileTree.read tree source.place.toPath) :
    verdict sigil tree' source = verdict sigil tree source := by
  simp only [verdict, Visit.scan, Visit.stream, h]
  rfl

theorem verdict_of_file (sigil : Sigil) (hstraight : source.place.Straight)
    (hfile : tree.root.at? source.place = some (.file bytes))
    (hfile' : tree'.root.at? source.place = some (.file bytes)) :
    verdict sigil tree' source = verdict sigil tree source :=
  verdict_congr sigil source
    (FileTree.read_sameAlong (FileTree.sameAlong_of_found hstraight hfile hfile' rfl nofun))

def LogsApart (world : World) (found : List Source) : Prop :=
  ∀ log ∈ world.sink, ∀ source ∈ found, ¬ log <+: source.place

theorem LogsApart.of_sink_eq_none (h : world.sink = none) : LogsApart world found := by
  intro log hlog
  rw [h] at hlog
  cases hlog

variable {sign : Sigil} {world : World} {found : List Source}

theorem source_mem_of_mem (h : visit ∈ visitsFrom sign world found) : visit.source ∈ found := by
  rw [← visitsFrom_sources sign world found]
  exact List.mem_map_of_mem h

theorem unnamed_scan_of_mem (hstand : Stand world.tree found) (hlogs : LogsApart world found)
    (hvisit : visit ∈ visitsFrom sign (world.emit record) found) :
    visit.scan.map (·.map Crumb.unnamed) = verdict sign world.tree visit.source := by
  obtain ⟨hsign, hkeeps⟩ := visitsFrom_keeps sign (world.emit record) found visit hvisit
  have hkeeps := (world.keeps_emit record).trans hkeeps
  have hsource := source_mem_of_mem hvisit
  obtain ⟨-, bytes, hfile⟩ := hstand.file _ hsource
  have hfile' := hkeeps.file _ bytes (fun log hlog => hlogs log hlog _ hsource) hfile
  rw [visit.unnamed_scan, hsign]
  exact verdict_of_file sign (hstand.straight _ hsource) hfile hfile'

theorem unnamed_crumbs_of_mem (hstand : Stand world.tree found) (hlogs : LogsApart world found)
    (hvisit : visit ∈ visitsFrom sign (world.emit record) found) :
    visit.crumbs.map Crumb.unnamed = yields sign world.tree visit.source := by
  rw [Visit.crumbs, yields, ← unnamed_scan_of_mem hstand hlogs hvisit]
  cases visit.scan <;> rfl

theorem unnamed_flatMap_crumbs (hstand : Stand world.tree found) (hlogs : LogsApart world found)
    (sign : Sigil) (record : Log.Record) :
    ((visitsFrom sign (world.emit record) found).flatMap (·.crumbs)).map Crumb.unnamed =
      found.flatMap (yields sign world.tree) := by
  calc ((visitsFrom sign (world.emit record) found).flatMap (·.crumbs)).map Crumb.unnamed
    _ = (visitsFrom sign (world.emit record) found).flatMap
          (fun visit => visit.crumbs.map Crumb.unnamed) := List.map_flatMap
    _ = (visitsFrom sign (world.emit record) found).flatMap
          (fun visit => yields sign world.tree visit.source) :=
        List.flatMap_congr fun visit hvisit => unnamed_crumbs_of_mem hstand hlogs hvisit
    _ = found.flatMap (yields sign world.tree) := by
        rw [← List.flatMap_map, visitsFrom_sources]

theorem Visit.stops_iff (visit : Visit) :
    visit.Stops ↔ FileTree.hasNull visit.source.place.toPath = true ∨
      ∃ fault, visit.scan = .error (.unscanned (.tooManyDigits fault)) := by
  refine or_congr_right ?_
  rw [scan]
  cases visit.stream with
  | error fault => simp
  | ok stream =>
    simp only [Except.ok.injEq, exists_eq_left', ← Scan.Job.exists_tooManyDigits_iff]
    cases (visit.job.scan stream).result with
    | error fault => simp [Except.mapError]
    | ok crumbs => simp [Except.mapError]

theorem stops_iff_of_mem (hstand : Stand world.tree found) (hlogs : LogsApart world found)
    (hvisit : visit ∈ visitsFrom sign (world.emit record) found) :
    visit.Stops ↔ FileTree.hasNull visit.source.place.toPath = true ∨
      ∃ fault, verdict sign world.tree visit.source = .error (.unscanned (.tooManyDigits fault)) := by
  rw [visit.stops_iff, ← unnamed_scan_of_mem hstand hlogs hvisit]
  cases visit.scan with
  | error fault => simp [Except.map]
  | ok crumbs => simp [Except.map]

theorem exists_run_collect
    (hfound : sources registry request.root request.included request.excluded world.tree = .ok found)
    (hsign : sigil request.marker = .ok sign)
    (hgoes : ∀ record, ∀ visit ∈ visitsFrom sign (world.emit record) found, ¬ visit.Stops) :
    ∃ grouped world', (collect registry request).run world = (.ok grouped, world') := by
  let record : Log.Record :=
    { level := .debug, component := "orchestrator".toList, message := census found }
  have hsay : (Session.say .debug (census found)).run world = (.ok (), world.emit record) := rfl
  obtain ⟨harvest, mid, hscan⟩ := (exists_run_ok_iff (scanAll found request.marker) _).2
    ((run_scanAll_isOk found (world.emit record) hsign).2 (hgoes record))
  rw [collect, Session.run_ask_bind hfound, Session.run_bind, hsay]
  simp only
  rw [Session.run_bind, hscan]
  exact ⟨_, _, rfl⟩

/-- The places of the sources at which a collection finds nothing. -/
def idlePlaces (trips : List Visit) : List Place :=
  (trips.filter (·.crumbs.isEmpty)).map (·.source.place)

theorem mem_idlePlaces (hstand : Stand world.tree found) (hlogs : LogsApart world found)
    (hsource : source ∈ found) :
    source.place ∈ idlePlaces (visitsFrom sign (world.emit record) found) ↔
      yields sign world.tree source = [] := by
  constructor
  · intro h
    obtain ⟨visit, hvisit, hplace⟩ := List.mem_map.1 h
    obtain ⟨hvisit, hempty⟩ := List.mem_filter.1 hvisit
    obtain rfl := hstand.apart _ (source_mem_of_mem hvisit) source hsource hplace
    rw [← unnamed_crumbs_of_mem hstand hlogs hvisit, List.isEmpty_iff.1 hempty, List.map_nil]
  · intro h
    rw [← visitsFrom_sources sign (world.emit record) found] at hsource
    obtain ⟨visit, hvisit, rfl⟩ := List.mem_map.1 hsource
    rw [← unnamed_crumbs_of_mem hstand hlogs hvisit, List.map_eq_nil_iff] at h
    exact List.mem_map.2 ⟨visit, List.mem_filter.2 ⟨hvisit, List.isEmpty_iff.2 h⟩, rfl⟩

theorem flatMap_filter {f : α → List β} {p : α → Bool} {list : List α}
    (h : ∀ a ∈ list, p a = false → f a = []) : (list.filter p).flatMap f = list.flatMap f := by
  induction list with
  | nil => rfl
  | cons a list ih =>
    obtain ⟨hfirst, h⟩ := List.forall_mem_cons.1 h
    cases hp : p a with
    | true => rw [List.filter_cons_of_pos hp, List.flatMap_cons, List.flatMap_cons, ih h]
    | false =>
      rw [List.filter_cons_of_neg (by simp [hp]), List.flatMap_cons, hfirst hp, List.nil_append, ih h]

/-- A collection from the sources it finds to the crumbs and notes of the visits to them. -/
structure Course (registry : Registry) (request : Request) (world : World) (grouped : Grouped)
    (notes : List FileNote) (found : List Source) (sign : Sigil) (record : Log.Record) : Prop where
  ofSources : sources registry request.root request.included request.excluded world.tree = .ok found
  ofSigil : sigil request.marker = .ok sign
  ofVisits : visits registry request world = .ok (visitsFrom sign (world.emit record) found)
  goes : ∀ visit ∈ visitsFrom sign (world.emit record) found, ¬ visit.Stops
  groups : ∃ files, grouped = Assembly.regroup (request.entry.getD []) files ∧
    files.flatten = (visitsFrom sign (world.emit record) found).flatMap (·.crumbs)
  noted : notes = (visitsFrom sign (world.emit record) found).filterMap (·.note?)

theorem course_of_run_collect (h : (collect registry request).run world = (.ok grouped, world')) :
    ∃ found sign record, Course registry request world grouped world'.notes found sign record := by
  obtain ⟨found, harvest, mid, hfound, hharvest, hgrouped, hnotes⟩ := scan_of_run_collect h
  obtain ⟨sign, hsign, hgrows⟩ := of_run_scanAll hharvest
  have hgoes := (run_scanAll_isOk found _ hsign).1 (by rw [hharvest]; rfl)
  refine ⟨found, sign, _, hfound, hsign, ?_, hgoes, ⟨_, hgrouped, hgrows.crumbs⟩,
    hnotes.trans hgrows.notes⟩
  rw [visits, hfound, hsign]
  rfl

section

variable {tree : FileTree} {gone : List Place}

theorem Stand.exists_file_without (hstand : Stand tree found) (hfiles : tree.FilesAt gone)
    (hsource : source ∈ found) (hkept : source.place ∉ gone) :
    ∃ bytes, tree.root.at? source.place = some (.file bytes) ∧
      (tree.without gone).root.at? source.place = some (.file bytes) := by
  obtain ⟨-, bytes, hfile⟩ := hstand.file source hsource
  exact ⟨bytes, hfile, (FileTree.at?_without_eq_file hfiles).2 ⟨hfile, hkept⟩⟩

theorem Stand.without (hstand : Stand tree found) (hfiles : tree.FilesAt gone) :
    Stand (tree.without gone) (found.filter (·.place ∉ gone)) := by
  refine ⟨?_, ?_, ?_⟩
  · intro source hsource
    exact hstand.straight source (List.mem_of_mem_filter hsource)
  · intro source hsource
    obtain ⟨hsource, hkept⟩ := List.mem_filter.1 hsource
    obtain ⟨bytes, -, hfile'⟩ :=
      hstand.exists_file_without hfiles hsource (of_decide_eq_true hkept)
    exact ⟨(hstand.file source hsource).1, bytes, hfile'⟩
  · intro source hsource other hother
    exact hstand.apart source (List.mem_of_mem_filter hsource) other (List.mem_of_mem_filter hother)

theorem Stand.verdict_without (hstand : Stand tree found) (hfiles : tree.FilesAt gone)
    (hsource : source ∈ found) (hkept : source.place ∉ gone) (sign : Sigil) :
    verdict sign (tree.without gone) source = verdict sign tree source := by
  obtain ⟨bytes, hfile, hfile'⟩ := hstand.exists_file_without hfiles hsource hkept
  exact verdict_of_file sign (hstand.straight source hsource) hfile hfile'

end

/-- A world like the one before, without the sources at which nothing is found. -/
structure Cleared (world later : World) (sign : Sigil) (found : List Source) (gone : List Place) :
    Prop where
  stand : Stand world.tree found
  among : ∀ place ∈ gone, ∃ source ∈ found, source.place = place
  idle : ∀ source ∈ found, source.place ∈ gone ↔ yields sign world.tree source = []
  tree : later.tree = world.tree.without gone
  logs : LogsApart later found

namespace Cleared

variable {later : World} {gone : List Place}

theorem files (h : Cleared world later sign found gone) : world.tree.FilesAt gone := by
  intro place hplace
  obtain ⟨source, hsource, rfl⟩ := h.among place hplace
  exact h.stand.file source hsource

theorem left_stand (h : Cleared world later sign found gone) :
    Stand later.tree (found.filter (·.place ∉ gone)) := by
  rw [h.tree]
  exact h.stand.without h.files

theorem left_logs (h : Cleared world later sign found gone) :
    LogsApart later (found.filter (·.place ∉ gone)) := by
  intro log hlog source hsource
  exact h.logs log hlog source (List.mem_of_mem_filter hsource)

theorem verdict_left (h : Cleared world later sign found gone)
    (hsource : source ∈ found.filter (·.place ∉ gone)) :
    verdict sign later.tree source = verdict sign world.tree source := by
  obtain ⟨hsource, hkept⟩ := List.mem_filter.1 hsource
  rw [h.tree]
  exact h.stand.verdict_without h.files hsource (of_decide_eq_true hkept) sign

theorem flatMap_yields (h : Cleared world later sign found gone) :
    (found.filter (·.place ∉ gone)).flatMap (yields sign later.tree) =
      found.flatMap (yields sign world.tree) := by
  have hleft : ∀ source ∈ found.filter (·.place ∉ gone),
      yields sign later.tree source = yields sign world.tree source := by
    intro source hsource
    rw [yields, yields, h.verdict_left hsource]
  rw [List.flatMap_congr hleft]
  refine flatMap_filter ?_
  intro source hsource hgone
  exact (h.idle source hsource).1 (of_not_not (of_decide_eq_false hgone))

theorem note?_eq_none (h : Cleared world later sign found gone)
    (hvisit : visit ∈ visitsFrom sign (later.emit record) (found.filter (·.place ∉ gone))) :
    visit.note? = none := by
  have hsource := source_mem_of_mem hvisit
  have hscan := unnamed_scan_of_mem h.left_stand h.left_logs hvisit
  rw [h.verdict_left hsource] at hscan
  obtain ⟨hsource, hkept⟩ := List.mem_filter.1 hsource
  -- A source that fails yields nothing, and would be gone.
  have hyields := (h.idle _ hsource).not.1 (of_decide_eq_true hkept)
  rw [yields, ← hscan] at hyields
  rw [Visit.note?]
  cases hresult : visit.scan with
  | ok crumbs => rfl
  | error fault =>
    rw [hresult] at hyields
    exact (hyields rfl).elim

theorem not_stops (h : Cleared world later sign found gone) (hlogs : LogsApart world found)
    (hgoes : ∀ visit ∈ visitsFrom sign (world.emit first) found, ¬ visit.Stops)
    (hvisit : visit ∈ visitsFrom sign (later.emit record) (found.filter (·.place ∉ gone))) :
    ¬ visit.Stops := by
  have hsource := source_mem_of_mem hvisit
  have hfound := List.mem_of_mem_filter hsource
  rw [← visitsFrom_sources sign (world.emit first) found] at hfound
  -- The same file was visited before, and that visit did not end the scan.
  obtain ⟨before, hbefore, hsame⟩ := List.mem_map.1 hfound
  have hgoes := hgoes before hbefore
  rw [stops_iff_of_mem h.stand hlogs hbefore, hsame] at hgoes
  rwa [stops_iff_of_mem h.left_stand h.left_logs hvisit, h.verdict_left hsource]

theorem same_groups (h : Cleared world later sign found gone) (hlogs : LogsApart world found)
    (hcourse : Course registry request world grouped notes found sign record)
    (hleft : sources registry request.root request.included request.excluded later.tree =
      .ok (found.filter (·.place ∉ gone)))
    (hrun : (collect registry request).run later = (.ok grouped', later')) :
    grouped'.mapCrumbs Crumb.unnamed = grouped.mapCrumbs Crumb.unnamed ∧ later'.notes = [] := by
  obtain ⟨found', sign', record', hcourse'⟩ := course_of_run_collect hrun
  obtain rfl : found.filter (·.place ∉ gone) = found' :=
    Except.ok.inj (hleft.symm.trans hcourse'.ofSources)
  obtain rfl : sign = sign' := Except.ok.inj (hcourse.ofSigil.symm.trans hcourse'.ofSigil)
  constructor
  · obtain ⟨files, rfl, hcrumbs⟩ := hcourse.groups
    obtain ⟨files', rfl, hcrumbs'⟩ := hcourse'.groups
    refine Assembly.regroup_unnamed_congr _ ?_
    rw [hcrumbs, hcrumbs', unnamed_flatMap_crumbs h.stand hlogs,
      unnamed_flatMap_crumbs h.left_stand h.left_logs, h.flatMap_yields]
  · rw [hcourse'.noted, List.filterMap_eq_nil_iff]
    intro visit hvisit
    exact h.note?_eq_none hvisit

end Cleared

theorem cleared_of_idle (hstand : Stand world.tree found) (hlogs : LogsApart world found)
    (htree : later.tree =
      world.tree.without (idlePlaces (visitsFrom sign (world.emit record) found)))
    (hlater : LogsApart later found) :
    Cleared world later sign found (idlePlaces (visitsFrom sign (world.emit record) found)) := by
  refine ⟨hstand, ?_, ?_, htree, hlater⟩
  · intro place hplace
    obtain ⟨visit, hvisit, rfl⟩ := List.mem_map.1 hplace
    exact ⟨_, source_mem_of_mem (List.mem_of_mem_filter hvisit), rfl⟩
  · intro source hsource
    exact mem_idlePlaces hstand hlogs hsource

theorem path_ne_of_idle (hproper : world.tree.root.Proper)
    (h : (collect registry request).run world = (.ok grouped, world'))
    (hvisits : visits registry request world = .ok trips) :
    ∀ visit ∈ trips, visit.crumbs = [] →
      ∀ crumb ∈ grouped.crumbs, crumb.path ≠ visit.source.path := by
  obtain ⟨other, hother, hsources, hconserves⟩ := conserves_of_run_collect hproper h
  rw [hvisits] at hother
  cases hother
  have hnodup : (trips.map (·.source.path)).Nodup := by
    have hsorted := sources_sorted hproper hsources
    rw [List.pairwise_map] at hsorted
    refine List.pairwise_map.2 (hsorted.imp ?_)
    intro visit visit' hlt heq
    exact List.lt_irrefl _ (heq ▸ hlt)
  intro visit hvisit hidle crumb hcrumb hpath
  obtain ⟨origin, horigin, hcrumb⟩ := List.mem_flatMap.1 (hconserves.crumbs.mem_iff.1 hcrumb)
  have hsame : origin = visit := by
    refine List.inj_on_of_nodup_map hnodup horigin hvisit ?_
    rw [← Visit.path_of_mem_crumbs hcrumb, hpath]
  rw [hsame, hidle] at hcrumb
  cases hcrumb

/-- Whenever a project without links is collected, the sources that fail or hold no marker leave no
crumb; and in any world with the same files but for these, a collection comes to the same crumbs but
for their names, in the same trails and the same order, and no source fails. The log must not be
written to a source, as it would change what is found there. -/
theorem idle_sources_have_no_influence (registry : Registry) (request : Request)
    (world world' : World) (grouped : Grouped) (hproper : world.tree.root.Proper)
    (hdotless : world.tree.root.Dotless)
    (hlinkless : ∀ place, projectFolder request.root world.tree = .ok place →
      Sources.Linkless world.tree place)
    (h : (collect registry request).run world = (.ok grouped, world')) :
    ∃ trips, visits registry request world = .ok trips ∧
      (∀ visit ∈ trips, visit.crumbs = [] →
        ∀ crumb ∈ grouped.crumbs, crumb.path ≠ visit.source.path) ∧
      ∀ later : World, later.tree = world.tree.without (idlePlaces trips) →
        LogsApart world (trips.map (·.source)) → LogsApart later (trips.map (·.source)) →
        ∃ grouped' later', (collect registry request).run later = (.ok grouped', later') ∧
          grouped'.mapCrumbs Crumb.unnamed = grouped.mapCrumbs Crumb.unnamed ∧
          later'.notes = [] := by
  obtain ⟨found, sign, record, hcourse⟩ := course_of_run_collect h
  refine ⟨_, hcourse.ofVisits, path_ne_of_idle hproper h hcourse.ofVisits, ?_⟩
  rw [visitsFrom_sources]
  intro later htree hlogs hlater
  have hstand := stand_of_sources hproper hdotless hlinkless hcourse.ofSources
  have hcleared := cleared_of_idle hstand hlogs htree hlater
  have hleft := sources_without hproper hdotless hlinkless hcourse.ofSources hcleared.among
  rw [← htree] at hleft
  obtain ⟨grouped', later', hrun⟩ := exists_run_collect hleft hcourse.ofSigil
    fun _ _ hvisit => hcleared.not_stops hlogs hcourse.goes hvisit
  refine ⟨grouped', later', hrun, ?_⟩
  exact hcleared.same_groups hlogs hcourse hleft hrun

theorem dotless_repeated : repeatedWorld.tree.root.Dotless := by
  have hfiles : (Entry.folder repeatedFiles).Dotless := by
    refine .folder (by decide) ?_
    intro e he
    rcases List.mem_pair.1 he with rfl | rfl <;> exact .file _
  refine .folder (by decide) ?_
  intro e he
  obtain rfl := List.mem_singleton.1 he
  exact hfiles

theorem linkless_repeated (h : projectFolder repeatedRequest.root repeatedWorld.tree = .ok place) :
    Sources.Linkless repeatedWorld.tree place := by
  have hplace : projectFolder repeatedRequest.root repeatedWorld.tree = .ok ["p".toList] := by
    decide
  rw [hplace] at h
  cases h
  intro entry hentry
  cases hentry
  refine .folder ?_
  intro e he
  rcases List.mem_pair.1 he with rfl | rfl <;> exact .file _

def repeatedLater : World :=
  { repeatedWorld with
    tree := repeatedWorld.tree.without [["p".toList, "b.go".toList]], minted := 7 }

theorem idle_sources_have_no_influence_repeated :
    repeatedWorld.tree.root.Proper ∧ repeatedWorld.tree.root.Dotless ∧
    ∃ grouped world' grouped' later',
      (collect slashRegistry repeatedRequest).run repeatedWorld = (.ok grouped, world') ∧
      (collect slashRegistry repeatedRequest).run repeatedLater = (.ok grouped', later') ∧
      grouped'.mapCrumbs Crumb.unnamed = grouped.mapCrumbs Crumb.unnamed ∧ later'.notes = [] := by
  have hok : ((collect slashRegistry repeatedRequest).run repeatedWorld).1.isOk = true := by
    simp only [collect, Session.run_ask_bind sources_repeated]
    decide +kernel
  obtain ⟨grouped, world', hrun⟩ := (exists_run_ok_iff _ _).2 hok
  obtain ⟨trips, hvisits, -, hsame⟩ := idle_sources_have_no_influence slashRegistry repeatedRequest
    repeatedWorld world' grouped proper_repeated dotless_repeated (fun _ => linkless_repeated) hrun
  have hidle : idlePlaces trips = [["p".toList, "b.go".toList]] := by
    rw [visits, sources_repeated] at hvisits
    cases hvisits
    decide +kernel
  obtain ⟨grouped', later', hlater⟩ :=
    hsame repeatedLater (by rw [hidle]; rfl) (.of_sink_eq_none rfl) (.of_sink_eq_none rfl)
  exact ⟨proper_repeated, dotless_repeated, grouped, world', grouped', later', hrun, hlater⟩

end Run

end Breadcrumb
