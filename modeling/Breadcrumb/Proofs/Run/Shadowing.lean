import Mathlib
import Breadcrumb.Proofs.Settings.Overriding
import Breadcrumb.Proofs.World.Twins

namespace Breadcrumb.Run

open Session

variable {world world' : World} {tree tree' : FileTree} {place file : Place} {registry : Registry}
  {Kept : World → World → Prop}

/-- Neither the ignore file of a project nor anything in it that has a language leads to a file. -/
structure Aside (registry : Registry) (root : Text) (file : Place) (tree : FileTree) : Prop where
  ignoreFile : ∀ base, projectFolder root tree = .ok base →
    tree.Misses file (Place.toPath (base ++ [ignoreFile]))
  source : ∀ base names, projectFolder root tree = .ok base → Sources.IsFileAt tree (base ++ names) →
    registry.forPath? (Sources.pathOf names) ≠ none → tree.Misses file (Place.toPath (base ++ names))

theorem projectFolder_matches (h : FileTree.Matches written tree tree') (root : Text) :
    projectFolder root tree' = projectFolder root tree := by
  simp only [projectFolder, h.forth.expandHome, h.resolve, h.exists?, h.isFolder?]

theorem Aside.matches (h : Aside registry root file tree)
    (hmatches : FileTree.Matches written tree tree') : Aside registry root file tree' := by
  constructor
  · intro base hbase
    rw [projectFolder_matches hmatches] at hbase
    exact hmatches.misses (h.ignoreFile base hbase)
  · intro base names hbase hfile hlanguage
    rw [projectFolder_matches hmatches] at hbase
    exact hmatches.misses (h.source base names hbase (hfile.matches hmatches.symm) hlanguage)

theorem ignoreRules_matches (h : FileTree.Matches [file] tree tree')
    (hmisses : tree.Misses file (Place.toPath (place ++ [ignoreFile]))) :
    ignoreRules tree' place = ignoreRules tree place := by
  simp only [ignoreRules, h.exists?, h.read hmisses]

theorem sources_matches (h : FileTree.Matches [file] tree tree') (hproper : tree.root.Proper)
    (hproper' : tree'.root.Proper) (haside : Aside registry root file tree)
    (included excluded : List Text) :
    sources registry root included excluded tree' = sources registry root included excluded tree := by
  have hlist := Sources.list_matches h hproper hproper' registry
  rw [sources, sources, projectFolder_matches h]
  cases hbase : projectFolder root tree with
  | error failure => simp only [bind, Except.bind]
  | ok base =>
    have hrules := ignoreRules_matches h (haside.ignoreFile base hbase)
    simp only [bind, Except.bind, hrules, hlist]

/-- Worlds with one file apart, which no source leads to. -/
structure TwinsBeside (file : Place) (found : List Source) (world world' : World) : Prop where
  twins : World.Twins file world world'
  misses : ∀ source ∈ found, world.tree.Misses file source.place.toPath

theorem logged_twins : Logged (World.Twins file) := fun _ _ record h => h.emit record

theorem logged_twinsBeside : Logged (TwinsBeside file found) := by
  intro world world' record h
  have hlogs := h.twins.hasLog.emit record
  refine ⟨h.twins.emit record, ?_⟩
  intro source hsource
  exact hlogs.tree.misses (h.misses source hsource)

theorem agrees_drop (h : Logged Kept) (harvest : Harvest) (source : Source) (verb reason : Text) :
    Agrees Kept (fun _ => Kept) (harvest.drop source verb reason) := by
  apply (agrees_say h _ _).bind
  intro done
  exact agrees_pure _

theorem agrees_settle (h : Logged Kept) (harvest : Harvest) (source : Source)
    (result : Except Scan.Fault (List Crumb)) :
    Agrees Kept (fun _ => Kept) (harvest.settle source result) := by
  cases result with
  | ok crumbs =>
    rw [Harvest.settle, Harvest.keep]
    split
    · exact agrees_pure _
    · apply (agrees_say h _ _).bind
      intro done
      exact agrees_pure _
  | error fault =>
    cases fault with
    | duplicate path line first => exact agrees_drop h _ _ _ _
    | undecodable fault => exact agrees_drop h _ _ _ _
    | tooManyDigits fault => exact agrees_throw _

theorem agrees_reject (h : Logged Kept) (harvest : Harvest) (source : Source) (fault : FileFault) :
    Agrees Kept (fun _ => Kept) (harvest.reject source fault) := by
  cases fault with
  | refused errno path => exact agrees_drop h _ _ _ _
  | nullInPath => exact agrees_throw _
  | linkLoop path => exact agrees_throw _
  | homeUnknown => exact agrees_throw _

theorem TwinsBeside.absorb (h : TwinsBeside file found world world') (outcome : Scan.Outcome) :
    TwinsBeside file found (absorb outcome world) (absorb outcome world') := by
  have htwins := logged_twins.emitAll h.twins outcome.records
  have hlogs := h.twins.hasLog.emitAll outcome.records
  refine ⟨⟨?_, htwins.tree, htwins.hasLog, htwins.apart⟩, ?_⟩
  · rw [Run.absorb, Run.absorb, h.twins.minted, htwins.same]
  · intro source hsource
    exact hlogs.tree.misses (h.misses source hsource)

theorem agrees_scan (sigil : Sigil) (harvest : Harvest) (hsource : source ∈ found) :
    Agrees (TwinsBeside file found) (fun _ => TwinsBeside file found)
      (Harvest.scan sigil harvest source) := by
  intro world world' h
  have hread := h.twins.tree.read (h.misses source hsource)
  have hjob : job sigil source world' = job sigil source world := by
    rw [job, job, h.twins.mint, h.twins.minted]
  cases hbytes : world.tree.read source.place.toPath with
  | error fault =>
    rw [Harvest.run_scan_of_error _ _ hbytes, Harvest.run_scan_of_error _ _ (hread.trans hbytes)]
    exact agrees_reject logged_twinsBeside harvest source fault world world' h
  | ok bytes =>
    rw [Harvest.run_scan_of_ok _ _ hbytes, Harvest.run_scan_of_ok _ _ (hread.trans hbytes), hjob]
    exact agrees_settle logged_twinsBeside harvest source _ _ _ (h.absorb _)

theorem agrees_gather (request : Request) (found : List Source) :
    Agrees (TwinsBeside file found) (fun _ => World.Twins file) (gather request found) := by
  apply (agrees_say logged_twinsBeside _ _).bind
  intro done
  have hscan : Agrees (TwinsBeside file found) (fun _ => TwinsBeside file found)
      (scanAll found request.marker) := by
    apply (agrees_lift _).bind
    intro sign
    exact agrees_foldlM (fun source hsource harvest => agrees_scan sign harvest hsource) {}
  apply hscan.bind
  intro harvest
  have hnoted : Agrees (TwinsBeside file found) (fun _ => World.Twins file)
      (modify fun world => { world with notes := harvest.notes } : Session Unit) := by
    apply agrees_modify
    intro world world' h
    refine ⟨?_, h.twins.tree, h.twins.hasLog, h.twins.apart⟩
    rw [h.twins.same]
  apply hnoted.bind
  intro noted
  apply (agrees_say logged_twins _ _).bind
  intro summed
  exact agrees_pure _

/-- Worlds in order with one file apart, which the project does not read. -/
structure TwinsAside (registry : Registry) (root : Text) (file : Place) (world world' : World) :
    Prop where
  twins : World.Twins file world world'
  proper : world.tree.root.Proper
  proper' : world'.tree.root.Proper
  aside : Aside registry root file world.tree

theorem logged_twinsAside : Logged (TwinsAside registry root file) := by
  intro world world' record h
  have hlogs := h.twins.hasLog.emit record
  have hlogs' : world'.HasLog := h.twins.hasLog.of_grows h.twins.sink h.twins.tree.forth
  exact ⟨h.twins.emit record, hlogs.proper h.proper, (hlogs'.emit record).proper h.proper',
    h.aside.matches hlogs.tree⟩

theorem agrees_collect (request : Request) :
    Agrees (TwinsAside registry request.root file) (fun _ => World.Twins file)
      (collect registry request) := by
  have hask : Agrees (TwinsAside registry request.root file) (TwinsBeside file)
      (Session.ask (sources registry request.root request.included request.excluded)) := by
    apply agrees_ask
    · intro world world' h
      exact sources_matches h.twins.tree h.proper h.proper' h.aside _ _
    · intro world world' found h hfound
      refine ⟨h.twins, ?_⟩
      obtain ⟨base, rules, selection, hbase, -, -, rfl⟩ := of_sources hfound
      intro source hsource
      obtain ⟨names, heligible⟩ := Sources.eligible_of_mem_list h.proper hsource
      have hlanguage := heligible.language
      rw [heligible.path] at hlanguage
      rw [heligible.place]
      exact h.aside.source base names hbase heligible.kept.file (by rw [hlanguage]; simp)
  exact hask.bind fun found => agrees_gather request found

theorem agrees_save (path : Path) (document : Text) :
    Agrees (World.Twins file) (fun _ => World.Twins file) (save path document) := by
  intro world world' h
  obtain ⟨hmatches, hfault⟩ := h.tree.ensureFolders path.parent
  obtain ⟨hgrows, -⟩ := FileTree.ensureFolders_grows world.tree path.parent
  rw [run_save, run_save, hfault]
  cases (world.tree.ensureFolders path.parent).2 with
  | some fault => exact ⟨rfl, fun _ hok => nomatch hok⟩
  | none =>
    have hwrite := hmatches.write path (Encoding.encode document)
    generalize hmade : (world.tree.ensureFolders path.parent).1.write path _ = made at hwrite
    generalize (world'.tree.ensureFolders path.parent).1.write path _ = made' at hwrite
    cases hwrite with
    | error fault => exact ⟨rfl, fun _ hok => nomatch hok⟩
    | ok left right hsame =>
      obtain ⟨place, hwritten, -⟩ := FileTree.of_write hmade
      have hempty : [] ⊆ [place] := List.nil_subset _
      exact ⟨rfl, fun _ _ => h.store hsame ((hgrows.mono hempty).trans hwritten)⟩

theorem agrees_conclude (chosen : Settings) (grouped : Grouped) (document : Text) :
    Agrees (World.Twins file) (fun _ => World.Twins file) (conclude chosen grouped document) := by
  have hdeliver : Agrees (World.Twins file) (fun _ => World.Twins file)
      (deliver chosen document) := by
    rw [deliver]
    cases chosen.output with
    | none => exact agrees_pure _
    | some path => exact (agrees_save path document).bind fun done => agrees_say logged_twins _ _
  apply hdeliver.bind
  intro done world world' h
  rw [run_get_bind, run_get_bind, h.notes]
  exact ⟨rfl, fun _ _ => h⟩

theorem agrees_proceed (place : Place) (chosen : Settings) :
    Agrees (TwinsAside registry place.toText file) (fun _ => World.Twins file)
      (proceed registry place chosen) := by
  apply (agrees_collect (requestOf place chosen)).bind
  intro grouped
  apply (agrees_lift _).bind
  intro document
  exact agrees_conclude chosen grouped document

theorem settings_overridden {pairs pairs' : List (Yaml.Value × Yaml.Value)}
    (hmatches : FileTree.Matches written tree tree')
    (hfound : Settings.file tree place.toPath = .ok found) (hholds : Settings.Holds tree found pairs)
    (hholds' : Settings.Holds tree' found pairs') (hdiffer : Settings.DifferOnly setting pairs pairs')
    (hasked : Setting.Asked overrides setting) :
    settings place overrides tree' = settings place overrides tree := by
  have hload := Settings.load_overridden hmatches hfound hholds hholds' hdiffer
    (Settings.asked_lower hasked)
  rw [settings, settings]
  generalize Settings.load tree place.toPath = loaded at hload ⊢
  generalize Settings.load tree' place.toPath = loaded' at hload ⊢
  cases loaded with
  | error fault =>
    cases loaded' with
    | error fault' =>
      cases hload
      rfl
    | ok chosen' => cases hload
  | ok chosen =>
    cases loaded' with
    | error fault' => cases hload
    | ok chosen' => exact congrArg Except.ok (Except.ok.inj hload)

/-- Two runs under the same settings, over worlds that differ only in a file set aside, come to the
same. -/
theorem run_twins (overrides : Overrides) (hplace : projectFolder root world.tree = .ok place)
    (hsettings : settings place overrides world'.tree = settings place overrides world.tree)
    (h : TwinsAside registry place.toText file world world') :
    ((run registry root overrides).run world').1 = ((run registry root overrides).run world).1 := by
  have hplace' : projectFolder root world'.tree = .ok place := by
    rw [projectFolder_matches h.twins.tree, hplace]
  cases hchosen : settings place overrides world.tree with
  | error failure =>
    rw [run, run_ask_bind hplace, run_ask_bind hplace', run_ask_bind_of_error hchosen,
      run_ask_bind_of_error (hsettings.trans hchosen)]
  | ok chosen =>
    cases hformat : Settings.isFormat chosen.format with
    | true =>
      rw [run_eq_proceed registry hplace hchosen hformat,
        run_eq_proceed registry hplace' (hsettings.trans hchosen) hformat]
      exact (agrees_proceed place chosen _ _ (logged_twinsAside.emitAll h _)).1
    | false =>
      rw [run, run_ask_bind hplace, run_ask_bind hplace', run_ask_bind hchosen,
        run_ask_bind (hsettings.trans hchosen), hformat]
      rfl

/-- The value that the settings file has for a setting that is asked for makes no difference: if the
file is replaced by one that differs only there, and both values can be loaded or both fail in the
same way, a run comes to the same result or to the same failure. The file must not be a source or the
ignore file of the project too. -/
theorem run_ignores_overridden (registry : Registry) (root : Text) (overrides : Overrides)
    (world : World) (place found file : Place) (setting : Setting) (bytes bytes' : Bytes)
    (pairs pairs' : List (Yaml.Value × Yaml.Value)) (hproper : world.tree.root.Proper)
    (hlog : world.HasLog) (hapart : file ∉ world.sink)
    (hplace : projectFolder root world.tree = .ok place)
    (hfound : Settings.file world.tree place.toPath = .ok found)
    (hfile : world.tree.root.at? file = some (.file bytes))
    (hholds : Settings.Holds world.tree found pairs)
    (hholds' : Settings.Holds (world.tree.putFile file bytes') found pairs')
    (hdiffer : Settings.DifferOnly setting pairs pairs') (hasked : setting.Asked overrides)
    (haside : Aside registry place.toText file world.tree) :
    ((run registry root overrides).run { world with tree := world.tree.putFile file bytes' }).1 =
      ((run registry root overrides).run world).1 := by
  have hmatches := FileTree.matches_putFile hfile (List.mem_singleton_self file) bytes'
  have hproper' : (world.tree.putFile file bytes').root.Proper :=
    hproper.put (.file bytes') (hproper.isName_of_at? hfile)
  have hsettings := settings_overridden hmatches hfound hholds hholds' hdiffer hasked
  exact run_twins overrides hplace hsettings
    ⟨⟨rfl, hmatches, hlog, hapart⟩, hproper, hproper', haside⟩

def settingsWorld (text : Text) (beside : List (Text × Entry)) : World where
  tree :=
    { root := .folder
        [("p".toList, .folder ((Settings.fileName, .file (Encoding.encode text)) :: beside))] }
  mint := Text.ofNat

def settingsPlace : Place := ["p".toList, Settings.fileName]

def pairOf (key value : String) : List (Yaml.Value × Yaml.Value) :=
  [(.scalar (.str key.toList), .scalar (.str value.toList))]

section Pair

variable {key value : String} {text : Text} {beside : List (Text × Entry)}

/-- A text is read as one pair in braces, with quotes around both parts. -/
def IsPair (text : Text) (key value : String) : Prop :=
  text.unixLines = text ∧ text.trim.isEmpty = false ∧ (Yaml.tokens text).toOption =
    some [.flowMapping, .key, .scalar key.toList false, .value, .scalar value.toList false,
      .flowMappingEnd, .streamEnd]
  deriving Decidable

theorem get?_pairOf (key value : String) (name : Text) : Yaml.Value.get? (pairOf key value) name =
    if key.toList = name then some (.scalar (.str value.toList)) else none := by
  by_cases hname : key.toList = name <;>
    simp [Yaml.Value.get?, pairOf, Yaml.Value.hasKey, hname]

theorem load_of_isPair (h : IsPair text key value) :
    Yaml.load text = .ok (.map (pairOf key value)) := by
  have hnode : Yaml.Node.ofText? text =
      .ok (some (.mapping .map [(.scalar .str key.toList, .scalar .str value.toList)])) := by
    obtain ⟨-, -, htokens⟩ := h
    rw [Yaml.Node.ofText?]
    cases hread : Yaml.tokens text with
    | ok tokens =>
      rw [hread] at htokens
      cases htokens
      rfl
    | error fault =>
      rw [hread] at htokens
      cases htokens
  rw [Yaml.load, hnode]
  simp [Yaml.Node.value, Yaml.Node.entries, Yaml.Node.keyValue, Yaml.Node.isMergeKey,
    Yaml.Tag.isCollection, Yaml.Build.scalar, Yaml.Build.key, Yaml.Scalar.ofText, Yaml.Value.isKey,
    pairOf, bind, Except.bind, pure, Except.pure]

theorem holds_of_isPair (h : IsPair text key value) (beside : List (Text × Entry)) :
    Settings.Holds (settingsWorld text beside).tree settingsPlace (pairOf key value) := by
  have hload := load_of_isPair h
  obtain ⟨hlines, hblank, -⟩ := h
  refine ⟨Encoding.encode text, text, rfl, Encoding.decode_eq_ok_iff.2 rfl, ?_, ?_⟩
  · rw [hlines, hblank]
  · rw [hlines, hload]

theorem proper_settingsWorld (text : Text) : (settingsWorld text []).tree.root.Proper :=
  .singleton (by decide) (.singleton (by decide) (.file _))

theorem projectFolder_settingsWorld (text : Text) (beside : List (Text × Entry)) :
    projectFolder "/p".toList (settingsWorld text beside).tree = .ok ["p".toList] := rfl

theorem settings_of_holds (overrides : Overrides)
    (h : Settings.Holds (settingsWorld text beside).tree settingsPlace pairs) :
    settings ["p".toList] overrides (settingsWorld text beside).tree =
      ((Settings.ofPairs ["p".toList] pairs).mapError Failure.settings).map
        (·.merged { overrides with format := overrides.format.map Text.lower }) := by
  have hfile : Settings.file (settingsWorld text beside).tree (Place.toPath ["p".toList]) =
      .ok settingsPlace := rfl
  have hroot : (settingsWorld text beside).tree.resolve (Place.toPath settingsPlace.dropLast) =
      .ok ["p".toList] := rfl
  rw [settings, Settings.load_of_holds hfile h, hroot]
  simp only [Except.mapError, bind, Except.bind]

theorem forPath?_fileName : slashRegistry.forPath? Settings.fileName = none := by decide_cbv

theorem source?_fileName (selection : Selection) (place : Place) :
    Sources.source? slashRegistry selection place Settings.fileName = none := by
  simp [Sources.source?, forPath?_fileName]

theorem sources_alone (text : Text) :
    sources slashRegistry "/p".toList [] [] (settingsWorld text []).tree = .ok [] := by
  have hcandidates : Sources.candidates (settingsWorld text []).tree {} ["p".toList] =
      [Settings.fileName] := List.mergeSort_singleton _
  rw [sources_of_parts (projectFolder_settingsWorld text []) rfl rfl, Sources.list, hcandidates,
    List.filterMap_cons_none (source?_fileName _ _), List.filterMap_nil]

theorem eq_of_isFileAt_alone
    (h : Sources.IsFileAt (settingsWorld text []).tree (["p".toList] ++ names)) :
    names = [Settings.fileName] := by
  have hinner : (settingsWorld text []).tree.root.at? (["p".toList] ++ names) =
      (Entry.folder [(Settings.fileName, .file (Encoding.encode text))]).at? names := rfl
  rw [Sources.IsFileAt, hinner] at h
  cases names with
  | nil => rcases h with ⟨_, h⟩ | ⟨_, h, -⟩ <;> cases h
  | cons name rest =>
    by_cases hname : name = Settings.fileName
    · subst hname
      cases rest with
      | nil => rfl
      | cons => rcases h with ⟨_, h⟩ | ⟨_, h, -⟩ <;> cases h
    · simp [Entry.at?, Named.get?, Ne.symm hname] at h

theorem aside_alone (text : Text) :
    Aside slashRegistry "/p".toList settingsPlace (settingsWorld text []).tree := by
  have hplace := projectFolder_settingsWorld text []
  constructor
  · intro base hbase entry hlocate
    obtain rfl := Except.ok.inj (hplace.symm.trans hbase)
    cases hlocate
  · intro base names hbase hfile hlanguage
    obtain rfl := Except.ok.inj (hplace.symm.trans hbase)
    obtain rfl := eq_of_isFileAt_alone hfile
    exact (hlanguage forPath?_fileName).elim

end Pair

def naming : Overrides := { project := some "Demo".toList }

theorem differOnly_pairOf : Settings.DifferOnly .project (pairOf "project" "One")
    (pairOf "project" "Two") := by
  constructor
  · intro other hother
    have hkey : "project".toList ≠ other.key.toList := by
      rw [ne_eq, String.toList_inj]
      cases other with
      | project => exact (hother rfl).elim
      | _ => simp [Setting.key]
    rw [get?_pairOf, get?_pairOf, if_neg hkey, if_neg hkey]
  · have hverdict (text : Text) : Setting.verdict (some (.scalar (.str text))) .project = .ok () := rfl
    simp only [get?_pairOf, Setting.key, if_true, hverdict]

def oneText : Text := "\x7b\"project\": \"One\"\x7d".toList

def twoText : Text := "\x7b\"project\": \"Two\"\x7d".toList

theorem isPair_oneText : IsPair oneText "project" "One" := ⟨by cbv, by cbv, by cbv⟩

theorem isPair_twoText : IsPair twoText "project" "Two" := ⟨by cbv, by cbv, by cbv⟩

theorem run_ignores_overridden_project :
    Setting.Asked naming .project ∧
    ((run slashRegistry "/p".toList naming).run (settingsWorld oneText [])).1.isOk = true ∧
    ((run slashRegistry "/p".toList naming).run (settingsWorld twoText [])).1 =
      ((run slashRegistry "/p".toList naming).run (settingsWorld oneText [])).1 := by
  have hasked : Setting.Asked naming .project := nofun
  have hplace := projectFolder_settingsWorld oneText []
  have hholds := holds_of_isPair isPair_oneText []
  have hholds' := holds_of_isPair isPair_twoText []
  have hchosen : settings ["p".toList] naming (settingsWorld oneText []).tree =
      .ok { root := ["p".toList], project := some "Demo".toList } := by
    rw [settings_of_holds naming hholds]
    rfl
  refine ⟨hasked, ?_, ?_⟩
  · obtain ⟨result, world', hrun, -⟩ := exists_run_of_sources_nil slashRegistry hplace hchosen rfl rfl
      (sources_alone oneText) rfl rfl
    rw [hrun]
    rfl
  · exact run_ignores_overridden slashRegistry "/p".toList naming (settingsWorld oneText [])
      ["p".toList] settingsPlace settingsPlace .project _ (Encoding.encode twoText) _ _
      (proper_settingsWorld _) nofun nofun hplace rfl rfl hholds hholds' differOnly_pairOf hasked
      (aside_alone _)

def formatting : Overrides := { format := some "markdown".toList }

def jsonText : Text := "\x7b\"format\": \"json\"\x7d".toList

def pdfText : Text := "\x7b\"format\": \"pdf\"\x7d".toList

theorem holds_jsonText : Settings.Holds (settingsWorld jsonText []).tree settingsPlace
    (pairOf "format" "json") := holds_of_isPair ⟨by cbv, by cbv, by cbv⟩ []

theorem holds_pdfText : Settings.Holds (settingsWorld pdfText []).tree settingsPlace
    (pairOf "format" "pdf") := holds_of_isPair ⟨by cbv, by cbv, by cbv⟩ []

theorem run_jsonText :
    ((run slashRegistry "/p".toList formatting).run (settingsWorld jsonText [])).1.isOk = true := by
  have hchosen : settings ["p".toList] formatting (settingsWorld jsonText []).tree =
      .ok { root := ["p".toList] } := by
    rw [settings_of_holds formatting holds_jsonText]
    rfl
  obtain ⟨result, world', hrun, -⟩ := exists_run_of_sources_nil slashRegistry
    (projectFolder_settingsWorld _ _) hchosen rfl rfl (sources_alone jsonText) rfl rfl
  rw [hrun]
  rfl

theorem run_pdfText :
    ((run slashRegistry "/p".toList formatting).run (settingsWorld pdfText [])).1 =
      .error (.settings (.unsupportedFormat "pdf".toList)) := by
  have hfault : settings ["p".toList] formatting (settingsWorld pdfText []).tree =
      .error (.settings (.unsupportedFormat "pdf".toList)) := by
    rw [settings_of_holds formatting holds_pdfText]
    rfl
  rw [run, run_ask_bind (projectFolder_settingsWorld _ _), run_ask_bind_of_error hfault]

def linked : List (Text × Entry) := [("a.go".toList, .link Settings.fileName)]

def remarkText (title : String) : Text :=
  "\x7b\"project\": \"\n// cc: ".toList ++ title.toList ++ "\n\"\x7d".toList

def linkedSource : Source where
  place := ["p".toList, "a.go".toList]
  path := "a.go".toList
  language := Language.lineComments "Go" [".go"] "//"

theorem source?_linked :
    Sources.source? slashRegistry {} ["p".toList] "a.go".toList = some linkedSource := by
  have hlanguage : slashRegistry.forPath? "a.go".toList =
      some (Language.lineComments "Go" [".go"] "//") := by decide_cbv
  have hincludes : ({} : Selection).includes "a.go".toList = true := rfl
  rw [Sources.source?, if_pos hincludes, hlanguage]
  rfl

theorem sources_linked (text : Text) :
    sources slashRegistry "/p".toList [] [] (settingsWorld text linked).tree =
      .ok [linkedSource] := by
  have hsorted : List.Pairwise (Text.le · ·) [Settings.fileName, "a.go".toList] := by
    decide_cbv
  have hcandidates : Sources.candidates (settingsWorld text linked).tree {} ["p".toList] =
      [Settings.fileName, "a.go".toList] := List.mergeSort_of_pairwise hsorted
  rw [sources_of_parts (projectFolder_settingsWorld text linked) rfl rfl, Sources.list,
    hcandidates, List.filterMap_cons_none (source?_fileName _ _),
    List.filterMap_cons_some source?_linked, List.filterMap_nil]

theorem run_remarkText {title name : String} (h : IsPair (remarkText title) "project" name) :
    (run slashRegistry "/p".toList naming).run (settingsWorld (remarkText title) linked) =
      (proceedOver ["p".toList] { root := ["p".toList], project := some "Demo".toList }
        [linkedSource]).run
        ((settingsWorld (remarkText title) linked).emitAll
          (opening ["p".toList] { root := ["p".toList], project := some "Demo".toList })) := by
  have hchosen : settings ["p".toList] naming (settingsWorld (remarkText title) linked).tree =
      .ok { root := ["p".toList], project := some "Demo".toList } := by
    rw [settings_of_holds naming (holds_of_isPair h linked)]
    rfl
  exact run_eq_proceedOver slashRegistry (projectFolder_settingsWorld _ _) hchosen rfl rfl
    (sources_linked _)

theorem isPair_remarkText_one : IsPair (remarkText "One") "project" " // cc: One " := by
  decide

theorem isPair_remarkText_two : IsPair (remarkText "Two") "project" " // cc: Two " := by
  decide

theorem document_remarkText_ne :
    ((run slashRegistry "/p".toList naming).run
      (settingsWorld (remarkText "One") linked)).1.toOption.map (·.document) ≠
    ((run slashRegistry "/p".toList naming).run
      (settingsWorld (remarkText "Two") linked)).1.toOption.map (·.document) := by
  rw [run_remarkText isPair_remarkText_one, run_remarkText isPair_remarkText_two]
  decide +kernel

/-- A format that there is not keeps the settings from being loaded, even if another one is asked
for. And what stands in a settings file that is a source too is in the document. -/
theorem run_depends_on_overridden :
    (Setting.Asked formatting .format ∧
      Settings.Holds (settingsWorld jsonText []).tree settingsPlace (pairOf "format" "json") ∧
      Settings.Holds (settingsWorld pdfText []).tree settingsPlace (pairOf "format" "pdf") ∧
      ((run slashRegistry "/p".toList formatting).run (settingsWorld jsonText [])).1.isOk = true ∧
      ((run slashRegistry "/p".toList formatting).run (settingsWorld pdfText [])).1 =
        .error (.settings (.unsupportedFormat "pdf".toList))) ∧
    Setting.Asked naming .project ∧
      Settings.Holds (settingsWorld (remarkText "One") linked).tree settingsPlace
        (pairOf "project" " // cc: One ") ∧
      Settings.Holds (settingsWorld (remarkText "Two") linked).tree settingsPlace
        (pairOf "project" " // cc: Two ") ∧
      ((run slashRegistry "/p".toList naming).run
        (settingsWorld (remarkText "One") linked)).1.toOption.map (·.document) ≠
      ((run slashRegistry "/p".toList naming).run
        (settingsWorld (remarkText "Two") linked)).1.toOption.map (·.document) := by
  refine ⟨⟨nofun, holds_jsonText, holds_pdfText, run_jsonText, run_pdfText⟩, nofun, ?_, ?_, ?_⟩
  · exact holds_of_isPair isPair_remarkText_one linked
  · exact holds_of_isPair isPair_remarkText_two linked
  · exact document_remarkText_ne

end Breadcrumb.Run
