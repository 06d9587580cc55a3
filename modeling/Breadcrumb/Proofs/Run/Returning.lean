import Breadcrumb.Proofs.Language.Comments
import Breadcrumb.Proofs.Marker.Reading
import Breadcrumb.Proofs.Run.Visits
import Breadcrumb.Proofs.Scan.Bytes

namespace Breadcrumb

namespace Scan.Job

variable {job : Job}

/-- The scan of the lines comes to a marker that cannot be read, before any run repeats a marker. -/
def MeetsUnreadable (job : Job) (lines : List Text) : Prop :=
  ∃ i payload, job.payloadAt? lines i = some payload ∧ ¬ Marker.Readable payload ∧
    job.ApartBelow lines (i + 1)

theorem readable_of_markerAt? (hp : job.payloadAt? lines i = some payload)
    (hread : (job.markerAt? lines i).isSome = true) : Marker.Readable payload := by
  obtain ⟨marker, hmarker⟩ := Option.isSome_iff_exists.1 hread
  obtain ⟨other, hother, hparse⟩ := markerAt?_eq_some.1 hmarker
  rw [hp] at hother
  cases hother
  rw [← Marker.parse_isOk, hparse]
  rfl

theorem payloadAt?_slashes (hlanguage : job.language = .lineComments name extensions "//")
    (hsigil : job.sigil = .standard) (hline : ∀ c ∈ payload, Text.isLineEnd c = false) :
    job.payloadAt? (Text.cutLines ("// cc: ".toList ++ payload)) 0 = some payload := by
  have hends : ∀ c ∈ "// cc: ".toList ++ payload, Text.isLineEnd c = false :=
    List.forall_mem_append.2 ⟨by simp [Text.isLineEnd], hline⟩
  have hcomment : job.language.comment? ("// cc: ".toList ++ payload) =
      some ("cc: ".toList ++ payload) := by
    rw [hlanguage]
    exact Language.comment?_slashes name extensions ("cc: ".toList ++ payload)
  have hne : "// cc: ".toList ++ payload ≠ [] := List.append_ne_nil_of_left_ne_nil (by decide) _
  rw [Text.cutLines_of_forall hne hends, payloadAt?, commentAt?, List.getElem?_cons_zero,
    Option.bind_some, Text.trimLineEnd_of_forall hends, hcomment, hsigil]
  rfl

/-- The scan ends at an unreadable marker exactly if it comes to one. -/
theorem exists_tooManyDigits_iff (job : Job) (stream : LineStream) :
    (∃ fault, (job.scan stream).result = .error (.tooManyDigits fault)) ↔
      job.MeetsUnreadable stream.lines := by
  cases job.scan_ends stream with
  | complete apart read result =>
    constructor
    · rintro ⟨fault, hfault⟩
      rw [hfault] at result
      cases hlate : stream.fault? with
      | some late =>
        rw [hlate] at result
        cases result
      | none =>
        rw [hlate] at result
        cases result
    · rintro ⟨i, payload, hp, hunread, -⟩
      have hmark : i ∈ job.marks stream.lines := mem_marks.2 (by rw [IsMarked, hp]; rfl)
      exact (hunread (readable_of_markerAt? hp (read i hmark))).elim
  | clash first second clash result read =>
    constructor
    · rintro ⟨fault, hfault⟩
      rw [hfault] at result
      cases result
    · rintro ⟨i, payload, hp, hunread, hapart⟩
      by_cases hlt : i < second
      · exact (hunread (readable_of_markerAt? hp (read i hlt (by rw [IsMarked, hp]; rfl)))).elim
      · exact (clash.together (hapart first second clash.lt (by omega) clash.firstMarked
          clash.secondMarked)).elim
  | unread i payload fault marked unread result apart =>
    refine iff_of_true ⟨fault, result⟩ ⟨i, payload, marked, ?_, apart⟩
    rw [← Marker.parse_isOk, unread]
    exact Bool.false_ne_true

end Scan.Job

namespace FileTree

variable {path : Path}

theorem read_of_hasNull (tree : FileTree) (h : hasNull path = true) :
    tree.read path = .error .nullInPath := by
  simp only [read, locate, h, if_true]

theorem read_of_not_hasNull (tree : FileTree) (h : hasNull path = false) :
    (∃ bytes, tree.read path = .ok bytes) ∨
      ∃ errno text, tree.read path = .error (.refused errno text) := by
  have hlocate : ∃ located, tree.locate true path = .ok located := by
    rw [locate, h]
    simp only [Bool.false_eq_true, if_false]
    split
    · exact ⟨_, rfl⟩
    · exact ⟨_, rfl⟩
  obtain ⟨located, hlocated⟩ := hlocate
  rw [read, hlocated]
  cases located with
  | found place entry =>
    cases entry with
    | file bytes => exact .inl ⟨bytes, rfl⟩
    | link target => exact .inr ⟨_, _, rfl⟩
    | folder entries => exact .inr ⟨_, _, rfl⟩
  | vacant place => exact .inr ⟨_, _, rfl⟩
  | fault errno => exact .inr ⟨_, _, rfl⟩

end FileTree

namespace Run

/-- The visit ends the whole scan: its path can be no file's, or its file holds a marker that cannot
be read. -/
def Visit.Stops (visit : Visit) : Prop :=
  FileTree.hasNull visit.source.place.toPath = true ∨
    ∃ stream, visit.stream = .ok stream ∧ visit.job.MeetsUnreadable stream.lines

namespace Harvest

variable {world : World}

theorem run_settle_isOk (harvest : Harvest) (source : Source)
    (result : Except Scan.Fault (List Crumb)) (world : World) :
    ((harvest.settle source result).run world).1.isOk = true ↔
      ¬ ∃ fault, result = .error (.tooManyDigits fault) := by
  cases result with
  | ok found =>
    simp only [settle, keep, reduceCtorEq, exists_false, not_false_eq_true, iff_true]
    split <;> rfl
  | error fault =>
    cases fault with
    | duplicate path line first => exact iff_of_true rfl (by simp)
    | undecodable fault => exact iff_of_true rfl (by simp)
    | tooManyDigits fault => exact iff_of_false Bool.false_ne_true (by simp)

end Harvest

theorem Visit.run_scan_isOk (visit : Visit) (harvest : Harvest) :
    ((Harvest.scan visit.sigil harvest visit.source).run visit.world).1.isOk = true ↔
      ¬ visit.Stops := by
  cases hnull : FileTree.hasNull visit.source.place.toPath with
  | true =>
    have hread := visit.world.tree.read_of_hasNull hnull
    rw [Harvest.run_scan_of_error _ _ hread]
    exact iff_of_false Bool.false_ne_true fun hgoes => hgoes (.inl hnull)
  | false =>
    simp only [Stops, hnull, Bool.false_eq_true, false_or]
    rcases visit.world.tree.read_of_not_hasNull hnull with ⟨bytes, hread⟩ | ⟨errno, text, hread⟩
    · have hstream : visit.stream = .ok (.read .utf8 LineStream.pieceSize bytes) := by
        rw [stream, hread]
        rfl
      rw [Harvest.run_scan_of_ok _ _ hread, Harvest.run_settle_isOk, Scan.Job.scanBytes,
        Scan.Job.exists_tooManyDigits_iff, hstream]
      simp only [Except.ok.injEq, exists_eq_left']
      rfl
    · have hstream : visit.stream = .error (.refused errno text) := by
        rw [stream, hread]
        rfl
      rw [Harvest.run_scan_of_error _ _ hread, hstream]
      exact iff_of_true rfl (by simp)

/-- The scan of some sources goes through exactly if none of the visits to them ends it. -/
theorem run_foldlM_isOk (sigil : Sigil) (sources : List Source) (harvest : Harvest)
    (world : World) :
    ((sources.foldlM (Harvest.scan sigil) harvest).run world).1.isOk = true ↔
      ∀ visit ∈ visitsFrom sigil world sources, ¬ visit.Stops := by
  induction sources generalizing harvest world with
  | nil => exact iff_of_true rfl fun _ hvisit => nomatch hvisit
  | cons source sources ih =>
    let visit : Visit := { sigil, source, world }
    have hfirst := visit.run_scan_isOk harvest
    have hworld := visit.run_scan_world harvest
    rw [List.foldlM_cons, Session.run_bind, visitsFrom, List.forall_mem_cons, ← hfirst]
    change _ ↔ _ ∧ ∀ other ∈ visitsFrom sigil visit.after sources, ¬ other.Stops
    cases hscan : (Harvest.scan sigil harvest source).run world with
    | mk result mid =>
      simp only [visit, hscan] at hworld ⊢
      subst hworld
      cases result with
      | ok next => exact (ih next _).trans (and_iff_right rfl).symm
      | error failure => exact iff_of_false Bool.false_ne_true fun h => Bool.false_ne_true h.1

theorem run_scanAll_isOk (found : List Source) (world : World) (h : sigil marker = .ok sign) :
    ((scanAll found marker).run world).1.isOk = true ↔
      ∀ visit ∈ visitsFrom sign world found, ¬ visit.Stops := by
  rw [scanAll, h]
  exact run_foldlM_isOk sign found {} world

theorem exists_run_ok_iff {α : Type} (work : Session α) (world : World) :
    (∃ a world', work.run world = (.ok a, world')) ↔ (work.run world).1.isOk = true := by
  cases work.run world with
  | mk result mid =>
    cases result with
    | ok a => exact iff_of_true ⟨a, mid, rfl⟩ rfl
    | error failure =>
      refine iff_of_false ?_ Bool.false_ne_true
      rintro ⟨a, world', h⟩
      cases h

/-- A payload is read unless an integer in it has too many digits. With a sigil that is not blank,
the scan of any sources comes to a result unless a visit ends it, and the result has the crumbs of
all visits and a note on each that fails. -/
theorem scanAll_returns_iff (found : List Source) (marker : Option Text) (sign : Sigil)
    (world : World) (hsign : sigil marker = .ok sign) :
    (∀ payload, (∃ read, Marker.parse payload = .ok read) ↔ Marker.Readable payload) ∧
    ((∃ harvest world', (scanAll found marker).run world = (.ok harvest, world')) ↔
      ∀ visit ∈ visitsFrom sign world found, ¬ visit.Stops) ∧
    ∀ harvest world', (scanAll found marker).run world = (.ok harvest, world') →
      harvest.crumbs.flatten = (visitsFrom sign world found).flatMap (·.crumbs) ∧
        harvest.notes = (visitsFrom sign world found).filterMap (·.note?) := by
  refine ⟨fun payload => ?_, ?_, fun harvest world' hrun => ?_⟩
  · rw [← Marker.parse_isOk]
    cases Marker.parse payload <;> simp [Except.isOk, Except.toBool]
  · rw [exists_run_ok_iff, run_scanAll_isOk found world hsign]
  · obtain ⟨other, hother, hgrows⟩ := of_run_scanAll hrun
    rw [hsign] at hother
    cases hother
    exact ⟨hgrows.crumbs, hgrows.notes⟩

def rootSources (names : List String) : List Source :=
  names.map fun name =>
    { place := [name.toList], path := name.toList
      language := Language.lineComments "Go" [".go"] "//" }

def pairWorld (first second : Text) : World where
  tree :=
    { root := .folder
        [("a.go".toList, .file (Encoding.encode first)),
          ("b.go".toList, .file (Encoding.encode second))] }
  mint := Text.ofNat

def repeatedPair : World := pairWorld "// cc: A\n// cc: B\n".toList "// cc: T#1; C\n".toList

theorem scanAll_returns_iff_repeated :
    sigil none = .ok .standard ∧
    (∀ visit ∈ visitsFrom .standard repeatedPair (rootSources ["a.go", "b.go"]), ¬ visit.Stops) ∧
    ∃ harvest world',
      (scanAll (rootSources ["a.go", "b.go"]) none).run repeatedPair = (.ok harvest, world') ∧
      harvest.notes.map (·.path) = ["a.go".toList] ∧
      harvest.crumbs.flatten.map (·.path) = ["b.go".toList] := by
  obtain ⟨-, hreturns, hfound⟩ := scanAll_returns_iff (rootSources ["a.go", "b.go"]) none .standard
    repeatedPair rfl
  have hok : ((scanAll (rootSources ["a.go", "b.go"]) none).run repeatedPair).1.isOk = true := by
    decide +kernel
  obtain ⟨harvest, world', hrun⟩ := (exists_run_ok_iff _ _).2 hok
  obtain ⟨hcrumbs, hnotes⟩ := hfound harvest world' hrun
  refine ⟨rfl, hreturns.1 ⟨harvest, world', hrun⟩, harvest, world', hrun, ?_, ?_⟩
  · rw [hnotes]
    decide +kernel
  · rw [hcrumbs]
    decide +kernel

theorem not_isOk_of_not_readable (hline : ∀ c ∈ payload, Text.isLineEnd c = false)
    (hread : ¬ Marker.Readable payload) (second : Text) :
    ¬ ((scanAll (rootSources ["a.go", "b.go"]) none).run
      (pairWorld ("// cc: ".toList ++ payload) second)).1.isOk = true := by
  rw [run_scanAll_isOk _ _ rfl]
  intro hgoes
  refine hgoes _ List.mem_cons_self (.inr ⟨.read .utf8 LineStream.pieceSize
    (Encoding.encode ("// cc: ".toList ++ payload)), rfl, 0, payload, ?_, hread, ?_⟩)
  · rw [LineStream.read_of_decode _ (Encoding.decode_eq_ok_iff.2 rfl)]
    exact Scan.Job.payloadAt?_slashes rfl rfl hline
  · intro i j hij hj
    omega

def longPayload : Text := 't' :: '#' :: List.replicate (Integer.maxDigits + 1) '1'

theorem scanAll_longPayload :
    (¬ ∃ read, Marker.parse longPayload = .ok read) ∧ sigil none = .ok .standard ∧
      ¬ ∃ harvest world', (scanAll (rootSources ["a.go", "b.go"]) none).run
        (pairWorld ("// cc: ".toList ++ longPayload) "// cc: T#1; C\n".toList) =
          (.ok harvest, world') := by
  have hones : ∀ c ∈ List.replicate (Integer.maxDigits + 1) '1', c = '1' :=
    fun _ hc => List.eq_of_mem_replicate hc
  have hread : ¬ Marker.Readable (['t'] ++ '#' :: List.replicate (Integer.maxDigits + 1) '1') := by
    apply Marker.not_readable_of_step (by decide) (by decide)
    · intro c hc
      rw [hones c hc]
      decide
    · rw [List.length_replicate]
      exact Nat.lt_succ_self _
  have hline : ∀ c ∈ longPayload, Text.isLineEnd c = false := by
    intro c hc
    rw [longPayload, List.mem_cons, List.mem_cons] at hc
    rcases hc with rfl | rfl | hc
    · rfl
    · rfl
    · rw [hones c hc]
      rfl
  refine ⟨?_, rfl, ?_⟩
  · rintro ⟨read, hok⟩
    exact hread ((Marker.parse_isOk longPayload).1 (by rw [hok]; rfl))
  · rw [exists_run_ok_iff]
    exact not_isOk_of_not_readable hline hread _

end Run

end Breadcrumb
