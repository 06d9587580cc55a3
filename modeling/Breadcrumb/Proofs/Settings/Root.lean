import Breadcrumb.Proofs.FileTree.Resolving
import Breadcrumb.Proofs.Run.Footprint
import Breadcrumb.Proofs.Run.Isolation

namespace Breadcrumb

namespace Settings

variable {tree : FileTree} {place root : Place} {given path : Path} {settings : Settings}
  {inner : List (Text × Entry)} {pairs : List (Yaml.Value × Yaml.Value)}

/-- The settings file at a place holds a mapping with these pairs. -/
def Holds (tree : FileTree) (place : Place) (pairs : List (Yaml.Value × Yaml.Value)) : Prop :=
  ∃ bytes text, tree.read place.toPath = .ok bytes ∧ Encoding.utf8.decode bytes = .ok text ∧
    text.unixLines.trim.isEmpty = false ∧ Yaml.load text.unixLines = .ok (.map pairs)

/-- The settings that a settings file gives for a root: the defaults if it is missing or blank, or
else what its pairs say. -/
inductive Loaded (tree : FileTree) (place root : Place) : Settings → Prop
  | default : Loaded tree place root { root }
  | mapping (pairs : List (Yaml.Value × Yaml.Value)) (settings : Settings) :
    Holds tree place pairs → ofPairs root pairs = .ok settings → Loaded tree place root settings

theorem of_ofText {text : Text} (h : ofText root name text = .ok settings) :
    settings = { root } ∧ (text.trim.isEmpty = true ∨
      ∃ value, Yaml.load text = .ok value ∧ value.isEmpty = true) ∨
    ∃ pairs, text.trim.isEmpty = false ∧ Yaml.load text = .ok (.map pairs) ∧
      ofPairs root pairs = .ok settings := by
  rw [ofText] at h
  cases hblank : text.trim.isEmpty with
  | true =>
    rw [if_pos hblank] at h
    cases h
    exact .inl ⟨rfl, .inl rfl⟩
  | false =>
    rw [if_neg (by simp [hblank])] at h
    cases hload : Yaml.load text with
    | error fault =>
      rw [hload] at h
      cases fault <;> cases h
    | ok value =>
      rw [hload] at h
      dsimp only at h
      unfold ofValue at h
      by_cases hempty : value.isEmpty
      · rw [if_pos hempty] at h
        cases h
        exact .inl ⟨rfl, .inr ⟨value, rfl, hempty⟩⟩
      · rw [if_neg hempty] at h
        cases value with
        | map pairs => exact .inr ⟨pairs, rfl, rfl, h⟩
        | _ => cases h

theorem loaded_of_ofText (hread : tree.read place.toPath = .ok bytes)
    (hdecode : Encoding.utf8.decode bytes = .ok text)
    (h : ofText root name text.unixLines = .ok settings) : Loaded tree place root settings := by
  rcases of_ofText h with ⟨rfl, -⟩ | ⟨pairs, hblank, hload, hpairs⟩
  · exact .default
  · exact .mapping pairs settings ⟨bytes, text, hread, hdecode, hblank, hload⟩ hpairs

theorem of_load (h : load tree given = .ok settings) :
    ∃ place root, file tree given = .ok place ∧
      tree.resolve (Place.toPath place.dropLast) = .ok root ∧ Loaded tree place root settings := by
  obtain ⟨place, hplace, h⟩ := exists_of_bind_eq_ok h
  obtain ⟨root, hroot, h⟩ := exists_of_bind_eq_ok h
  obtain ⟨present, -, h⟩ := exists_of_bind_eq_ok h
  refine ⟨place, root, eq_ok_of_mapError hplace, eq_ok_of_mapError hroot, ?_⟩
  cases present with
  | false =>
    cases h
    exact .default
  | true =>
    obtain ⟨bytes, hread, h⟩ := exists_of_bind_eq_ok h
    obtain ⟨text, hdecode, h⟩ := exists_of_bind_eq_ok h
    exact loaded_of_ofText (eq_ok_of_mapError hread) (eq_ok_of_mapError hdecode) h

theorem eq_some_of_orElse (h : (orElse written []).isEmpty = false) :
    written = some (orElse written []) := by
  cases written with
  | none => cases h
  | some text =>
    cases text with
    | nil => cases h
    | cons c text => rfl

theorem of_ofPairs_eq_ok (h : ofPairs root pairs = .ok settings) :
    ∃ format output project entry linkBase marker included excluded,
      text? (Yaml.Value.get? pairs "format".toList) = .ok format ∧
      text? (Yaml.Value.get? pairs "output".toList) = .ok output ∧
      text? (Yaml.Value.get? pairs "project".toList) = .ok project ∧
      text? (Yaml.Value.get? pairs "entry".toList) = .ok entry ∧
      text? (Yaml.Value.get? pairs "source_prefix".toList) = .ok linkBase ∧
      text? (Yaml.Value.get? pairs "marker".toList) = .ok marker ∧
      texts (Yaml.Value.get? pairs "include".toList) = .ok included ∧
      texts (Yaml.Value.get? pairs "exclude".toList) = .ok excluded ∧
      settings =
        { root
          project
          entry
          linkBase := orElse linkBase []
          marker
          format := (orElse format "markdown".toList).lower
          output :=
            if (orElse output []).isEmpty then none
            else some (root.toPath.join (Path.ofText (orElse output [])))
          included
          excluded } := by
  obtain ⟨format, hformat, h⟩ := exists_of_bind_eq_ok h
  dsimp only at h
  split at h
  · cases h
  obtain ⟨output, houtput, h⟩ := exists_of_bind_eq_ok h
  obtain ⟨project, hproject, h⟩ := exists_of_bind_eq_ok h
  obtain ⟨entry, hentry, h⟩ := exists_of_bind_eq_ok h
  obtain ⟨linkBase, hlinkBase, h⟩ := exists_of_bind_eq_ok h
  obtain ⟨marker, hmarker, h⟩ := exists_of_bind_eq_ok h
  obtain ⟨included, hincluded, h⟩ := exists_of_bind_eq_ok h
  obtain ⟨excluded, hexcluded, h⟩ := exists_of_bind_eq_ok h
  cases h
  exact ⟨format, output, project, entry, linkBase, marker, included, excluded,
    eq_ok_of_mapError hformat, eq_ok_of_mapError houtput, eq_ok_of_mapError hproject,
    eq_ok_of_mapError hentry, eq_ok_of_mapError hlinkBase, eq_ok_of_mapError hmarker,
    eq_ok_of_mapError hincluded, eq_ok_of_mapError hexcluded, rfl⟩

theorem of_ofPairs (h : ofPairs root pairs = .ok settings) :
    settings.root = root ∧ ∀ path ∈ settings.output, ∃ written,
      text? (Yaml.Value.get? pairs "output".toList) = .ok (some written) ∧
      path = root.toPath.join (Path.ofText written) := by
  obtain ⟨_, output, _, _, _, _, _, _, -, houtput, -, -, -, -, -, -, rfl⟩ := of_ofPairs_eq_ok h
  refine ⟨rfl, ?_⟩
  intro path hpath
  cases hempty : (orElse output []).isEmpty with
  | true =>
    rw [hempty] at hpath
    cases hpath
  | false =>
    rw [hempty] at hpath
    cases hpath
    refine ⟨_, ?_, rfl⟩
    rw [← eq_some_of_orElse hempty]
    exact houtput

/-- Settings for the folder at a place, where the output path of the settings file starts from. -/
structure RootedAt (tree : FileTree) (place : Place) (settings : Settings) : Prop where
  root : settings.root = place
  output : ∀ path ∈ settings.output, ∃ pairs written, Holds tree (place ++ [fileName]) pairs ∧
    text? (Yaml.Value.get? pairs "output".toList) = .ok (some written) ∧
    path = place.toPath.join (Path.ofText written)

theorem Loaded.rootedAt (h : Loaded tree (place ++ [fileName]) place settings) :
    RootedAt tree place settings := by
  cases h with
  | default => exact ⟨rfl, nofun⟩
  | mapping pairs _ hholds hpairs =>
    obtain ⟨hroot, houtput⟩ := of_ofPairs hpairs
    refine ⟨hroot, ?_⟩
    intro path hpath
    obtain ⟨written, hwritten, hjoin⟩ := houtput path hpath
    exact ⟨pairs, written, hholds, hwritten, hjoin⟩

theorem plain_fileName : FileTree.Plain fileName := ⟨by decide, by decide⟩

theorem file_of_isFolder? (hpath : tree.expandHome given = .ok path)
    (hfolder : tree.isFolder? path = .ok true) :
    file tree given = tree.resolve (path.child fileName) := by
  rw [file, hpath]
  simp only [bind, Except.bind, hfolder, if_true]
  rfl

/-- A settings file that is no link has the folder it lies in for its root. -/
theorem rootedAt_of_load (hproper : tree.root.Proper) (hdotless : tree.root.Dotless)
    (hcurrent : tree.root.at? tree.current = some (.folder entries))
    (hinner : tree.root.at? place = some (.folder inner))
    (hlink : ∀ target, tree.root.at? (place ++ [fileName]) ≠ some (.link target))
    (hwritten : FileTree.Written given) (hpath : tree.expandHome given = .ok path)
    (hfolder : tree.isFolder? path = .ok true) (hplace : tree.resolve path = .ok place)
    (h : load tree given = .ok settings) : RootedAt tree place settings := by
  obtain ⟨found, root, hfile, hroot, hloaded⟩ := of_load h
  rw [file_of_isFolder? hpath hfolder] at hfile
  obtain rfl := FileTree.resolve_child (FileTree.written_expandHome hwritten hpath) plain_fileName
    (by decide) hcurrent hplace hlink hfile
  rw [List.dropLast_concat] at hroot
  -- The place is resolved once more, so it has no null in it.
  obtain ⟨hnull, -, -⟩ := FileTree.resolve_eq_ok_iff.1 hroot
  have hstraight := hdotless.straight hinner
  have hplace' := FileTree.written_toPath (hproper.isName_of_at? hinner) hstraight
  rw [FileTree.resolve_folder hplace' hstraight hnull hcurrent hinner] at hroot
  cases hroot
  exact hloaded.rootedAt

theorem projectName_of_root (hproject : settings.project.getD [] = [])
    (hname : name ∈ settings.root.getLast?) (hne : name ≠ []) : settings.projectName = name := by
  rw [projectName]
  cases hsome : settings.project with
  | some text =>
    rw [hsome] at hproject
    cases hproject
    rw [Option.mem_def.1 hname]
    cases name with
    | nil => exact (hne rfl).elim
    | cons c name => rfl
  | none =>
    rw [Option.mem_def.1 hname]
    cases name with
    | nil => exact (hne rfl).elim
    | cons c name => rfl

end Settings

namespace Run

open Session

theorem of_settings (h : settings place overrides tree = .ok chosen) :
    ∃ loaded, Settings.load tree place.toPath = .ok loaded ∧
      chosen = loaded.merged { overrides with format := overrides.format.map Text.lower } := by
  rw [settings] at h
  cases hload : Settings.load tree place.toPath with
  | error fault =>
    rw [hload] at h
    cases h
  | ok loaded =>
    rw [hload] at h
    cases h
    exact ⟨loaded, rfl, rfl⟩

theorem resolve_of_isFolder? {tree : FileTree} {inner : List (Text × Entry)} (hwritten : FileTree.Written place.toPath)
    (hdotless : tree.root.Dotless) (hcurrent : tree.root.at? tree.current = some (.folder entries))
    (hinner : tree.root.at? place = some (.folder inner))
    (hfolder : tree.isFolder? place.toPath = .ok true) : tree.resolve place.toPath = .ok place := by
  obtain ⟨_, _, hlocate⟩ := FileTree.locate_of_isFolder? hfolder
  obtain ⟨husable, -⟩ := FileTree.of_locate_found hlocate
  exact FileTree.resolve_folder hwritten (hdotless.straight hinner) husable.noNull hcurrent hinner

theorem rootedAt_of_settings {tree : FileTree} {inner : List (Text × Entry)} (hproper : tree.root.Proper)
    (hdotless : tree.root.Dotless) (hcurrent : tree.root.at? tree.current = some (.folder entries))
    (hinner : tree.root.at? place = some (.folder inner))
    (hlink : ∀ target, tree.root.at? (place ++ [Settings.fileName]) ≠ some (.link target))
    (hplace : projectFolder root tree = .ok place)
    (h : Settings.load tree place.toPath = .ok loaded) :
    loaded.RootedAt tree place := by
  obtain ⟨-, -, -, -, hfolder⟩ := projectFolder_eq_ok_iff.1 hplace
  have hwritten :=
    FileTree.written_toPath (hproper.isName_of_at? hinner) (hdotless.straight hinner)
  have hresolve := resolve_of_isFolder? hwritten hdotless hcurrent hinner hfolder
  exact Settings.rootedAt_of_load hproper hdotless hcurrent hinner hlink hwritten rfl hfolder
    hresolve h

/-- In a folder whose settings file is no link, the settings are for that folder. So a run over the
project takes a relative output path of the settings file from the project's folder, and without a
project name the document is headed by the folder's name. -/
theorem settings_rooted_at_project (registry : Registry) (world : World) (place : Place)
    (entries inner : List (Text × Entry)) (hproper : world.tree.root.Proper)
    (hdotless : world.tree.root.Dotless)
    (hcurrent : world.tree.root.at? world.tree.current = some (.folder entries))
    (hinner : world.tree.root.at? place = some (.folder inner))
    (hlink : ∀ target, world.tree.root.at? (place ++ [Settings.fileName]) ≠ some (.link target)) :
    (∀ given path loaded, world.tree.expandHome (Path.ofText given) = .ok path →
      world.tree.isFolder? path = .ok true → world.tree.resolve path = .ok place →
      Settings.load world.tree (Path.ofText given) = .ok loaded → loaded.root = place) ∧
    ∀ root overrides result world', projectFolder root world.tree = .ok place →
      (run registry root overrides).run world = (.ok result, world') →
      ∃ chosen, settings place overrides world.tree = .ok chosen ∧ chosen.root = place ∧
        render chosen result.grouped = .ok result.document ∧
        (overrides.output = none → ∀ path ∈ result.output, ∃ pairs written,
          Settings.Holds world.tree (place ++ [Settings.fileName]) pairs ∧
          Settings.text? (Yaml.Value.get? pairs "output".toList) = .ok (some written) ∧
          path = place.toPath.join (Path.ofText written)) ∧
        (chosen.project.getD [] = [] → ∀ name ∈ place.getLast?, chosen.projectName = name) := by
  constructor
  · intro given path loaded hpath hfolder hresolve hload
    exact (Settings.rootedAt_of_load hproper hdotless hcurrent hinner hlink
      (FileTree.written_ofText given) hpath hfolder hresolve hload).root
  · intro root overrides result world' hplace hrun
    obtain ⟨other, chosen, collected, hstages⟩ := stages_of_run hrun
    obtain rfl : place = other := Except.ok.inj (hplace.symm.trans hstages.project)
    obtain ⟨loaded, hload, hchosen⟩ := of_settings hstages.settings
    have hrooted := rootedAt_of_settings hproper hdotless hcurrent hinner hlink hplace hload
    have hroot : chosen.root = place := by
      rw [hchosen]
      exact hrooted.root
    refine ⟨chosen, hstages.settings, hroot, hstages.renders, ?_, ?_⟩
    · intro hnone path hpath
      rw [hstages.output, hchosen, Settings.merged, hnone] at hpath
      exact hrooted.output path hpath
    · intro hproject name hname
      have hmem := List.mem_of_getLast? hname
      rw [← hroot] at hname
      exact Settings.projectName_of_root hproject hname (hproper.isName_of_at? hinner name hmem).1

theorem settings_rooted_at_project_repeated :
    repeatedWorld.tree.root.Proper ∧ repeatedWorld.tree.root.Dotless ∧
    ∃ result world' chosen,
      (run slashRegistry "/p".toList (writing docsPath)).run repeatedWorld = (.ok result, world') ∧
      render chosen result.grouped = .ok result.document ∧ chosen.root = ["p".toList] ∧
      chosen.projectName = "p".toList := by
  have hplace : projectFolder "/p".toList repeatedWorld.tree = .ok ["p".toList] := by decide
  have hlink (target : Text) : repeatedWorld.tree.root.at? (["p".toList] ++ [Settings.fileName]) ≠
      some (.link target) := nofun
  obtain ⟨-, hruns⟩ := settings_rooted_at_project slashRegistry repeatedWorld ["p".toList] _ _
    proper_repeated dotless_repeated rfl rfl hlink
  obtain ⟨result, world', hrun, -⟩ := exists_run_docs
  obtain ⟨chosen, hchosen, hroot, hrender, -, hname⟩ :=
    hruns "/p".toList (writing docsPath) result world' hplace hrun
  have hproject : chosen.project = none := by
    cases hchosen
    rfl
  refine ⟨proper_repeated, dotless_repeated, result, world', chosen, hrun, hrender, hroot, ?_⟩
  exact hname (by rw [hproject]; rfl) _ rfl

def sharedSettings : FileTree where
  root := .folder
    [("p".toList, .folder [(Settings.fileName, .link "../s/c.yml".toList)]),
     ("s".toList, .folder [("c.yml".toList, .file [])])]

/-- The settings are then for the other folder. -/
theorem load_sharedSettings :
    sharedSettings.isFolder? (Path.ofText "/p".toList) = .ok true ∧
    sharedSettings.resolve (Path.ofText "/p".toList) = .ok ["p".toList] ∧
    ∃ settings, Settings.load sharedSettings (Path.ofText "/p".toList) = .ok settings ∧
      settings.root = ["s".toList] :=
  ⟨by decide, by decide, _, rfl, by decide⟩

end Run

end Breadcrumb
