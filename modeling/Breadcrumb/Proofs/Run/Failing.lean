import Breadcrumb.Proofs.Run.Footprint
import Breadcrumb.Proofs.Settings.Failing

namespace Breadcrumb

namespace Run

open Session

variable {failure : Failure}

/-- A folder that its path does not tell: the home of an account that there is not, or links in a
circle. -/
inductive Astray (tree : FileTree) (root : Text) : FileFault → Prop
  | home : tree.expandHome (Path.ofText root) = .error .homeUnknown → Astray tree root .homeUnknown
  | circle (path : Path) (text : Text) : tree.expandHome (Path.ofText root) = .ok path →
    tree.resolve path = .error (.linkLoop text) → Astray tree root (.linkLoop text)

theorem projectFolder_unexpected_iff {tree : FileTree} :
    projectFolder root tree = .error failure ∧ failure.kind = .unexpected ↔
      ∃ fault, Astray tree root fault ∧ failure = .access fault := by
  constructor
  · rintro ⟨h, hkind⟩
    rw [projectFolder] at h
    rcases bind_eq_error_iff.1 h with h | ⟨path, hpath, h⟩
    · obtain ⟨fault, hfault, rfl⟩ := mapError_eq_error_iff.1 h
      rcases FileTree.of_expandHome_eq_error hfault with rfl | rfl
      · cases hkind
      · exact ⟨_, .home hfault, rfl⟩
    have hpath := eq_ok_of_mapError hpath
    rcases bind_eq_error_iff.1 h with h | ⟨place, hplace, h⟩
    · obtain ⟨fault, hfault, rfl⟩ := mapError_eq_error_iff.1 h
      rcases FileTree.of_resolve_eq_error hfault with rfl | ⟨text, rfl⟩
      · cases hkind
      · exact ⟨_, .circle path text hpath hfault, rfl⟩
    rcases bind_eq_error_iff.1 h with h | ⟨present, hpresent, h⟩
    · obtain ⟨fault, hfault, rfl⟩ := mapError_eq_error_iff.1 h
      exact (FileTree.kind_ask hfault hkind).elim
    cases present with
    | false =>
      cases h
      cases hkind
    | true =>
      rcases bind_eq_error_iff.1 h with h | ⟨folder, hfolder, h⟩
      · obtain ⟨fault, hfault, rfl⟩ := mapError_eq_error_iff.1 h
        exact (FileTree.kind_ask hfault hkind).elim
      cases folder with
      | false =>
        cases h
        cases hkind
      | true => cases h
  · rintro ⟨fault, hastray, rfl⟩
    cases hastray with
    | home hhome => exact ⟨by simp only [projectFolder, hhome, Except.mapError, bind, Except.bind], rfl⟩
    | circle path text hpath hcircle =>
      exact ⟨by simp only [projectFolder, hpath, hcircle, Except.mapError, bind, Except.bind], rfl⟩

theorem kind_ignoreRules {tree : FileTree} (h : ignoreRules tree place = .error failure) :
    failure.kind ≠ .unexpected := by
  rw [ignoreRules] at h
  rcases bind_eq_error_iff.1 h with h | ⟨present, -, h⟩
  · obtain ⟨fault, hfault, rfl⟩ := mapError_eq_error_iff.1 h
    exact FileTree.kind_ask hfault
  cases present with
  | false => cases h
  | true =>
    rcases bind_eq_error_iff.1 h with h | ⟨bytes, -, h⟩
    · obtain ⟨fault, hfault, rfl⟩ := mapError_eq_error_iff.1 h
      exact FileTree.kind_read hfault
    rcases bind_eq_error_iff.1 h with h | ⟨text, -, h⟩
    · obtain ⟨undecodable, -, rfl⟩ := mapError_eq_error_iff.1 h
      exact nofun
    cases h

theorem kind_expression (rejection : Pattern.Rejection) :
    (Failure.expression rejection).kind = .unexpected ↔
      rejection.fault.cause = .repetitionTooLarge := by
  rw [Failure.kind]
  split
  · rename_i hcause
    exact iff_of_true rfl hcause
  · rename_i hcause
    exact iff_of_false nofun hcause

theorem selection_eq_error_iff {included excluded : List Text} :
    (Selection.ofTexts included excluded).mapError Failure.expression = .error failure ↔
      ∃ rejection, Pattern.compileAll excluded = .error rejection ∧
        failure = .expression rejection := by
  rw [Selection.ofTexts]
  cases Pattern.compileAll excluded with
  | ok barred => exact ⟨nofun, by rintro ⟨_, h, -⟩; cases h⟩
  | error rejection =>
    constructor
    · intro h
      cases h
      exact ⟨rejection, rfl, rfl⟩
    · rintro ⟨_, h, rfl⟩
      cases h
      rfl

/-- A search for sources that fails unexpectedly: the folder is not told, or the first expression
that is no pattern repeats too often. -/
inductive Lost (tree : FileTree) (root : Text) (excluded : List Text) : Failure → Prop
  | astray (fault : FileFault) : Astray tree root fault → Lost tree root excluded (.access fault)
  | repetition (place : Place) (rules : List Ignore.Rule) (rejection : Pattern.Rejection) :
    projectFolder root tree = .ok place → ignoreRules tree place = .ok rules →
    Pattern.compileAll excluded = .error rejection →
    rejection.fault.cause = .repetitionTooLarge →
    Lost tree root excluded (.expression rejection)

theorem sources_unexpected_iff {tree : FileTree} (registry : Registry)
    (included : List Text) :
    sources registry root included excluded tree = .error failure ∧ failure.kind = .unexpected ↔
      Lost tree root excluded failure := by
  constructor
  · rintro ⟨h, hkind⟩
    rcases bind_eq_error_iff.1 h with h | ⟨place, hplace, h⟩
    · obtain ⟨fault, hastray, rfl⟩ := projectFolder_unexpected_iff.1 ⟨h, hkind⟩
      exact .astray fault hastray
    rcases bind_eq_error_iff.1 h with h | ⟨rules, hrules, h⟩
    · exact (kind_ignoreRules h hkind).elim
    rcases bind_eq_error_iff.1 h with h | ⟨selection, -, h⟩
    · obtain ⟨rejection, hcompile, rfl⟩ := selection_eq_error_iff.1 h
      exact .repetition place rules rejection hplace hrules hcompile
        ((kind_expression rejection).1 hkind)
    cases h
  · intro hlost
    cases hlost with
    | astray fault hastray =>
      obtain ⟨h, hkind⟩ := projectFolder_unexpected_iff.2 ⟨fault, hastray, rfl⟩
      refine ⟨?_, hkind⟩
      rw [sources, h]
      rfl
    | repetition place rules rejection hplace hrules hcompile hcause =>
      refine ⟨?_, (kind_expression rejection).2 hcause⟩
      have hselection : (Selection.ofTexts included excluded).mapError Failure.expression =
          .error (.expression rejection) :=
        selection_eq_error_iff.2 ⟨rejection, hcompile, rfl⟩
      simp only [sources, hplace, hrules, hselection, bind, Except.bind]

/-- Work that fails only as every command expects. -/
def Foreseen {α : Type} (work : Session α) : Prop :=
  ∀ world failure, (work.run world).1 = .error failure → failure.kind ≠ .unexpected

section Foreseen

variable {α β : Type}

theorem Foreseen.bind {work : Session α} {next : α → Session β} (h : Foreseen work)
    (hnext : ∀ a, Foreseen (next a)) : Foreseen (work >>= next) := by
  intro world failure hfails
  have hfirst := h world
  rw [run_bind] at hfails
  generalize work.run world = outcome at hfirst hfails
  obtain ⟨answer, mid⟩ := outcome
  cases answer with
  | ok a => exact hnext a mid failure hfails
  | error early =>
    cases hfails
    exact hfirst _ rfl

theorem foreseen_lift {answer : Except Failure α}
    (h : ∀ failure, answer = .error failure → failure.kind ≠ .unexpected) :
    Foreseen (ExceptT.mk (pure answer) : Session α) :=
  fun _ failure hfails => h failure hfails

theorem foreseen_pure (a : α) : Foreseen (pure a : Session α) := foreseen_lift nofun

theorem foreseen_throw (h : failure.kind ≠ .unexpected) :
    Foreseen (throw failure : Session α) := by
  intro world other hfails
  cases hfails
  exact h

theorem foreseen_say (level : Log.Level) (message : Text) : Foreseen (say level message) :=
  fun _ _ hfails => nomatch hfails

theorem foreseen_modify (change : World → World) : Foreseen (modify change : Session Unit) :=
  fun _ _ hfails => nomatch hfails

theorem foreseen_get_bind {next : World → Session α}
    (h : ∀ world failure, ((next world).run world).1 = .error failure →
      failure.kind ≠ .unexpected) : Foreseen (get >>= next) := h

theorem foreseen_foldlM {step : β → α → Session β} (h : ∀ b a, Foreseen (step b a))
    (list : List α) (b : β) : Foreseen (list.foldlM step b) := by
  induction list generalizing b with
  | nil => exact foreseen_pure b
  | cons a list ih =>
    rw [List.foldlM_cons]
    exact (h b a).bind ih

end Foreseen

theorem foreseen_drop (harvest : Harvest) (source : Source) (verb reason : Text) :
    Foreseen (harvest.drop source verb reason) := by
  apply (foreseen_say _ _).bind
  intro done
  exact foreseen_pure _

theorem foreseen_settle (harvest : Harvest) (source : Source)
    (result : Except Scan.Fault (List Crumb)) : Foreseen (harvest.settle source result) := by
  cases result with
  | ok crumbs =>
    rw [Harvest.settle, Harvest.keep]
    split
    · exact foreseen_pure _
    · apply (foreseen_say _ _).bind
      intro done
      exact foreseen_pure _
  | error fault =>
    cases fault with
    | duplicate path line first => exact foreseen_drop _ _ _ _
    | undecodable fault => exact foreseen_drop _ _ _ _
    | tooManyDigits fault =>
      apply foreseen_throw
      intro hkind
      cases hkind

theorem foreseen_reject {tree : FileTree} {path : Path} (h : tree.read path = .error fault)
    (harvest : Harvest) (source : Source) : Foreseen (harvest.reject source fault) := by
  rcases FileTree.of_read_eq_error h with ⟨errno, rfl⟩ | rfl
  · exact foreseen_drop _ _ _ _
  · exact foreseen_throw nofun

theorem foreseen_scan (sigil : Sigil) (harvest : Harvest) (source : Source) :
    Foreseen (Harvest.scan sigil harvest source) := by
  apply foreseen_get_bind
  intro world
  cases hread : world.tree.read source.place.toPath with
  | error fault => exact foreseen_reject hread harvest source world
  | ok bytes =>
    refine Foreseen.bind (foreseen_modify _) ?_ world
    intro done
    exact foreseen_settle _ _ _

theorem kind_sigil (h : sigil marker = .error failure) : failure.kind ≠ .unexpected := by
  unfold sigil at h
  split at h
  · split at h
    · cases h
    · cases h
      exact nofun
  · cases h

theorem foreseen_gather (request : Request) (found : List Source) :
    Foreseen (gather request found) := by
  apply (foreseen_say _ _).bind
  intro counted
  have hscan : Foreseen (scanAll found request.marker) := by
    apply (foreseen_lift fun _ => kind_sigil).bind
    intro sign
    exact foreseen_foldlM (foreseen_scan sign) found {}
  apply hscan.bind
  intro harvest
  apply (foreseen_modify _).bind
  intro noted
  apply (foreseen_say _ _).bind
  intro summed
  exact foreseen_pure _

theorem kind_render (h : render chosen grouped = .error failure) : failure.kind ≠ .unexpected := by
  have hwritten {answer : Except Unprintable Text}
      (h : answer.mapError Failure.unprintable = .error failure) : failure.kind ≠ .unexpected := by
    cases answer with
    | ok text => cases h
    | error fault =>
      cases h
      intro hkind
      cases hkind
  rw [render] at h
  split at h
  · exact hwritten h
  · split at h
    · exact hwritten h
    · cases h
      intro hkind
      cases hkind

theorem foreseen_save (path : Path) (document : Text) : Foreseen (save path document) := by
  intro world failure hfails
  rw [run_save] at hfails
  cases hfault : (world.tree.ensureFolders path.parent).2 with
  | some fault =>
    rw [hfault] at hfails
    cases hfails
    exact FileTree.kind_ensureFoldersFrom _ hfault
  | none =>
    rw [hfault] at hfails
    dsimp only at hfails
    split at hfails
    · cases hfails
    · rename_i fault hwrite
      cases hfails
      exact FileTree.kind_write hwrite

theorem foreseen_conclude (chosen : Settings) (grouped : Grouped) (document : Text) :
    Foreseen (conclude chosen grouped document) := by
  have hdeliver : Foreseen (deliver chosen document) := by
    rw [deliver]
    cases chosen.output with
    | none => exact foreseen_pure _
    | some path =>
      apply (foreseen_save path document).bind
      intro saved
      exact foreseen_say _ _
  apply hdeliver.bind
  intro delivered
  apply foreseen_get_bind
  intro world failure hfails
  cases hfails

theorem foreseen_proceedOver (place : Place) (chosen : Settings) (found : List Source) :
    Foreseen (proceedOver place chosen found) := by
  apply (foreseen_gather _ _).bind
  intro grouped
  apply (foreseen_lift fun _ => kind_render).bind
  intro document
  exact foreseen_conclude _ _ _

theorem settings_unexpected_iff {tree : FileTree} :
    settings place overrides tree = .error failure ∧ failure.kind = .unexpected ↔
      ∃ fault, Settings.Astray tree place fault ∧ failure = .settings fault := by
  rw [settings]
  cases hload : Settings.load tree place.toPath with
  | ok loaded =>
    constructor
    · rintro ⟨h, -⟩
      cases h
    · rintro ⟨fault, hastray, -⟩
      obtain ⟨h, -⟩ := Settings.load_unexpected_iff.2 hastray
      rw [hload] at h
      cases h
  | error fault =>
    constructor
    · rintro ⟨h, hkind⟩
      cases h
      exact ⟨fault, Settings.load_unexpected_iff.1 ⟨hload, hkind⟩, rfl⟩
    · rintro ⟨other, hastray, rfl⟩
      obtain ⟨h, hkind⟩ := Settings.load_unexpected_iff.2 hastray
      rw [hload] at h
      cases h
      exact ⟨rfl, hkind⟩

/-- A run that fails unexpectedly: on the way to the folder, to its settings or, when the folder is
looked up once more, to its sources. -/
inductive Unforeseen (root : Text) (overrides : Overrides) (world : World) : Failure → Prop
  | folder (fault : FileFault) : Astray world.tree root fault →
    Unforeseen root overrides world (.access fault)
  | settings (place : Place) (fault : Settings.Fault) : projectFolder root world.tree = .ok place →
    Settings.Astray world.tree place fault → Unforeseen root overrides world (.settings fault)
  | sources (place : Place) (chosen : Settings) (failure : Failure) :
    projectFolder root world.tree = .ok place →
    Run.settings place overrides world.tree = .ok chosen →
    Settings.isFormat chosen.format = true →
    Lost (world.emitAll (opening place chosen)).tree place.toText chosen.excluded failure →
    Unforeseen root overrides world failure

theorem run_ask_bind_fails_iff {α β : Type} {question : FileTree → Except Failure α}
    {next : α → Session β} :
    ((ask question >>= next).run world).1 = .error failure ↔
      question world.tree = .error failure ∨
        ∃ a, question world.tree = .ok a ∧ ((next a).run world).1 = .error failure := by
  have hrun : ((ask question >>= next).run world).1 =
      question world.tree >>= fun a => ((next a).run world).1 := by
    cases hanswer : question world.tree with
    | ok a =>
      rw [run_ask_bind hanswer]
      rfl
    | error early =>
      rw [run_ask_bind_of_error hanswer]
      rfl
  rw [hrun, bind_eq_error_iff]

theorem proceed_fails_iff (registry : Registry) (place : Place) (chosen : Settings) (world : World) :
    ((proceed registry place chosen).run world).1 = .error failure ↔
      sources registry place.toText chosen.included chosen.excluded world.tree = .error failure ∨
        ∃ found, sources registry place.toText chosen.included chosen.excluded world.tree = .ok found ∧
          ((proceedOver place chosen found).run world).1 = .error failure := by
  rw [proceed, collect, bind_assoc, run_ask_bind_fails_iff]
  simp only [proceedOver, gather, bind_assoc]
  rfl

/-- Behind the settings only the search for sources fails unexpectedly. -/
theorem proceed_unexpected_iff (registry : Registry) (place : Place) (chosen : Settings)
    (world : World) :
    ((proceed registry place chosen).run world).1 = .error failure ∧ failure.kind = .unexpected ↔
      Lost world.tree place.toText chosen.excluded failure := by
  rw [proceed_fails_iff, ← sources_unexpected_iff registry chosen.included]
  constructor
  · rintro ⟨h | ⟨found, -, h⟩, hkind⟩
    · exact ⟨h, hkind⟩
    · exact (foreseen_proceedOver place chosen found world failure h hkind).elim
  · rintro ⟨h, hkind⟩
    exact ⟨.inl h, hkind⟩

/-- A run fails unexpectedly exactly if its folder, its settings or its sources are not told. -/
theorem run_unexpected_iff (registry : Registry) (root : Text) (overrides : Overrides)
    (world : World) :
    ((run registry root overrides).run world).1 = .error failure ∧ failure.kind = .unexpected ↔
      Unforeseen root overrides world failure := by
  constructor
  · rintro ⟨hrun, hkind⟩
    have h := hrun
    rw [run, run_ask_bind_fails_iff] at h
    rcases h with h | ⟨place, hplace, h⟩
    · obtain ⟨fault, hastray, rfl⟩ := projectFolder_unexpected_iff.1 ⟨h, hkind⟩
      exact .folder fault hastray
    rw [run_ask_bind_fails_iff] at h
    rcases h with h | ⟨chosen, hchosen, h⟩
    · obtain ⟨fault, hastray, rfl⟩ := settings_unexpected_iff.1 ⟨h, hkind⟩
      exact .settings place fault hplace hastray
    cases hformat : Settings.isFormat chosen.format with
    | false =>
      simp only [hformat, Bool.not_false, if_true] at h
      cases h
      cases hkind
    | true =>
      rw [run_eq_proceed registry hplace hchosen hformat] at hrun
      exact .sources place chosen failure hplace hchosen hformat
        ((proceed_unexpected_iff registry place chosen _).1 ⟨hrun, hkind⟩)
  · intro h
    cases h with
    | folder fault hastray =>
      obtain ⟨h, hkind⟩ := projectFolder_unexpected_iff.2 ⟨fault, hastray, rfl⟩
      refine ⟨?_, hkind⟩
      rw [run, run_ask_bind_of_error h]
    | settings place fault hplace hastray =>
      obtain ⟨h, hkind⟩ := settings_unexpected_iff.2 ⟨fault, hastray, rfl⟩
      refine ⟨?_, hkind⟩
      rw [run, run_ask_bind hplace, run_ask_bind_of_error h]
    | sources place chosen _ hplace hchosen hformat hlost =>
      rw [run_eq_proceed registry hplace hchosen hformat]
      exact (proceed_unexpected_iff registry place chosen _).2 hlost

end Run

end Breadcrumb
