import Breadcrumb.Proofs.Marker.Parts
import Breadcrumb.Proofs.Marker.Reading
import Breadcrumb.Proofs.Scan.Ending

namespace Breadcrumb.Scan.Job

/-- Some run holds two marker lines. -/
def RepeatsMarker (job : Job) (lines : List Text) : Prop :=
  ∃ start stop, job.IsRun lines start stop ∧
    ∃ i j, start ≤ i ∧ i < j ∧ j < stop ∧ job.IsMarked lines i ∧ job.IsMarked lines j

/-- The comments on the lines from `start` up to but without `stop`. -/
def commentsIn (job : Job) (lines : List Text) (start stop : Nat) : List Text :=
  (List.range' start (stop - start)).filterMap (job.commentAt? lines)

/-- The crumb of a run: its marker says what it is about, the later comments of the run describe
it. -/
def IsCrumbOf (job : Job) (lines : List Text) (run : Nat × Nat) (crumb : Crumb) : Prop :=
  ∃ i payload marker, run.1 ≤ i ∧ i < run.2 ∧ job.payloadAt? lines i = some payload ∧
    Marker.parse payload = .ok marker ∧ crumb.path = job.path ∧
    crumb.language = job.language.name ∧ crumb.line = i + 1 ∧ crumb.trail = marker.trail ∧
    crumb.step = marker.step ∧ crumb.title = marker.title ∧
    crumb.description = marker.description.toList ++ job.commentsIn lines (i + 1) run.2

variable {job : Job} {lines : List Text} {first second start stop i : Nat}

theorem IsRepeat.not_apart (h : job.IsRepeat lines first second) :
    ¬ job.Apart lines first second := by
  obtain ⟨start, stop, hr, hstart, hstop, -⟩ := h.run
  exact hr.not_apart hstart hstop

theorem RepeatsMarker.not_apartBelow (h : job.RepeatsMarker lines) :
    ¬ job.ApartBelow lines lines.length := by
  obtain ⟨start, stop, hr, i, j, hstart, hij, hstop, hi, hj⟩ := h
  intro hall
  exact hr.not_apart hstart hstop (hall i j hij hj.isComment.lt_length hi hj)

theorem FirstClash.isRepeat (h : job.FirstClash lines first second) :
    job.IsRepeat lines first second := by
  obtain ⟨start, stop, hr, hstart, hstop⟩ :=
    exists_run_of_not_apart h.firstMarked.isComment h.secondMarked.isComment h.together
  have hlt := h.lt
  refine ⟨⟨start, stop, hr, hstart, hstop, ?_⟩, hlt, h.firstMarked, h.secondMarked⟩
  -- A further marker line of the run would clash with the first one before `second`.
  intro i hi his hmarked
  rcases Nat.lt_trichotomy i first with hlt' | heq | hgt
  · exact (hr.not_apart his (by omega) (h.before i first hlt' hlt hmarked h.firstMarked)).elim
  · exact heq
  · exact (hr.not_apart hstart (by omega) (h.before first i hgt hi h.firstMarked hmarked)).elim

theorem FirstClash.le_of_isRepeat (h : job.FirstClash lines first second)
    (h' : job.IsRepeat lines i j) : second ≤ j := by
  by_contra hlt
  exact h'.not_apart (h.before i j h'.lt (by omega) h'.firstMarked h'.secondMarked)

theorem FirstClash.repeatsMarker (h : job.FirstClash lines first second) :
    job.RepeatsMarker lines := by
  obtain ⟨start, stop, hr, hstart, hstop, -⟩ := h.isRepeat.run
  exact ⟨start, stop, hr, first, second, hstart, h.lt, hstop, h.firstMarked, h.secondMarked⟩

/-- The comments at the head of the remaining lines are those up to the end of the run. -/
theorem leadingComments_drop (hall : ∀ k < stop, i ≤ k → job.IsComment lines k)
    (hstop : ¬ job.IsComment lines stop) (hle : i ≤ stop) :
    job.leadingComments (lines.drop i) = job.commentsIn lines i stop := by
  induction hn : stop - i generalizing i with
  | zero =>
    obtain rfl : i = stop := by omega
    rw [commentsIn, Nat.sub_self]
    cases hd : lines[i]? with
    | none =>
      rw [List.drop_eq_nil_of_le (List.getElem?_eq_none_iff.1 hd)]
      rfl
    | some raw =>
      rw [IsComment, commentAt?, hd, Option.bind_some, Option.not_isSome_iff_eq_none] at hstop
      obtain ⟨hi, rfl⟩ := List.getElem?_eq_some_iff.1 hd
      rw [List.drop_eq_getElem_cons hi]
      simp only [leadingComments, hstop]
      rfl
  | succ n ih =>
    have hi := hall i (by omega) le_rfl
    have hlt := hi.lt_length
    obtain ⟨comment, hc⟩ := Option.isSome_iff_exists.1 hi
    have htail := ih (fun k hk hik => hall k hk (by omega)) (i := i + 1) (by omega) (by omega)
    have hcomment : job.language.comment? lines[i].trimLineEnd = some comment := by
      rw [commentAt?, List.getElem?_eq_getElem hlt, Option.bind_some] at hc
      exact hc
    rw [commentsIn, hn, List.range'_succ, List.filterMap_cons_some hc, List.drop_eq_getElem_cons hlt]
    simp only [leadingComments, hcomment, htail, commentsIn]
    rw [show stop - (i + 1) = n by omega]

theorem IsRun.isCrumbOf (h : job.IsRun lines start stop) (hstart : start ≤ i) (hstop : i < stop)
    (hread : (job.markerAt? lines i).isSome) :
    job.IsCrumbOf lines (start, stop) (job.crumbAt lines i) := by
  obtain ⟨marker, hmarker⟩ := Option.isSome_iff_exists.1 hread
  obtain ⟨payload, hp, hm⟩ := markerAt?_eq_some.1 hmarker
  have htail := leadingComments_drop (i := i + 1) (fun k hk hik => h.comments k hk (by omega))
    h.stopsHere hstop
  refine ⟨i, payload, marker, hstart, hstop, hp, hm, rfl, rfl, rfl, ?_⟩
  simp only [crumbAt, hmarker, Option.getD_some, htail, and_self]

theorem scanLines_cases
    (hread : ∀ i < lines.length, ∀ payload ∈ job.payloadAt? lines i, Marker.Readable payload) :
    (job.ApartBelow lines lines.length ∧ (∀ i ∈ job.marks lines, (job.markerAt? lines i).isSome) ∧
      (job.scanLines lines).result = .ok ((job.marks lines).map (job.crumbAt lines))) ∨
    ∃ first second, job.FirstClash lines first second ∧
      (job.scanLines lines).result = .error (.duplicate job.path (second + 1) (first + 1)) := by
  cases job.scan_ends (.ofText lines) with
  | complete apart read result => exact .inl ⟨apart, read, result⟩
  | clash first second clash result => exact .inr ⟨first, second, clash, result⟩
  | unread i payload fault marked unread result =>
    have hmarked : job.IsMarked lines i := Option.isSome_iff_exists.2 ⟨payload, marked⟩
    have hok := (Marker.parse_isOk payload).2
      (hread i hmarked.isComment.lt_length payload marked)
    rw [unread] at hok
    cases hok

/-- A scan faults exactly if a run repeats a marker, and then at the first line that does so;
otherwise its crumbs are those of the runs that hold a marker, in the order of the lines. -/
theorem scanLines_refines_runs (job : Job) (lines : List Text)
    (hread : ∀ i < lines.length, ∀ payload ∈ job.payloadAt? lines i, Marker.Readable payload) :
    ((∃ line first, (job.scanLines lines).result = .error (.duplicate job.path line first)) ↔
      job.RepeatsMarker lines) ∧
    (∀ fault, (job.scanLines lines).result = .error fault →
      ∃ first second : Nat, fault = .duplicate job.path (second + 1) (first + 1) ∧
        job.IsRepeat lines first second ∧ ∀ i j, job.IsRepeat lines i j → second ≤ j) ∧
    (¬ job.RepeatsMarker lines →
      ∃ crumbs, (job.scanLines lines).result = .ok crumbs ∧
        List.Forall₂ (job.IsCrumbOf lines) (job.markedRuns lines) crumbs ∧
        crumbs.Pairwise (·.line < ·.line)) := by
  rcases scanLines_cases hread with ⟨hapart, hmarkers, hresult⟩ | ⟨first, second, hclash, hresult⟩
  · have hnone : ¬ job.RepeatsMarker lines := fun h => h.not_apartBelow hapart
    refine ⟨?_, ?_, fun _ => ⟨_, hresult, ?_, crumbAt_lines_sorted job lines⟩⟩
    · simp only [hresult, reduceCtorEq, exists_false, hnone]
    · intro fault hfault
      rw [hresult] at hfault
      cases hfault
    · rw [List.forall₂_map_right_iff]
      refine (forall₂_markedRuns_marks hapart).imp ?_
      rintro ⟨start, stop⟩ i ⟨hmarked, hrun, hstart, hstop⟩
      exact hrun.isCrumbOf hstart hstop (hmarkers i (mem_marks.2 hmarked))
  · refine ⟨?_, ?_, fun h => (h hclash.repeatsMarker).elim⟩
    · exact iff_of_true ⟨_, _, hresult⟩ hclash.repeatsMarker
    · intro fault hfault
      rw [hresult] at hfault
      cases hfault
      exact ⟨first, second, rfl, hclash.isRepeat, fun _ _ => hclash.le_of_isRepeat⟩

def slashJob : Job where
  path := "a.go".toList
  language := Language.lineComments "Go" [".go"] "//"
  sigil := .standard
  mint := Text.ofNat

def repeatedLines : List Text :=
  ["// cc: Trip#2; Start; 2; first\r\n", "  // more\n", "x = 1\n", "// plain\n", "//CC:note; 3\n",
    "// cc: again"].map String.toList

theorem scanLines_refines_runs_repeated :
    (∀ i < repeatedLines.length, ∀ payload ∈ slashJob.payloadAt? repeatedLines i,
      Marker.Readable payload) ∧
    slashJob.RepeatsMarker repeatedLines ∧
    ∃ line first, (slashJob.scanLines repeatedLines).result =
      .error (.duplicate slashJob.path line first) := by
  have hread : ∀ i < repeatedLines.length, ∀ payload ∈ slashJob.payloadAt? repeatedLines i,
      Marker.Readable payload := by decide +kernel
  have hrun : slashJob.IsRun repeatedLines 3 6 := by decide +kernel
  have hrepeat : slashJob.RepeatsMarker repeatedLines :=
    ⟨3, 6, hrun, 4, 5, by decide, by decide, by decide, by decide +kernel, by decide +kernel⟩
  exact ⟨hread, hrepeat, (scanLines_refines_runs slashJob repeatedLines hread).1.2 hrepeat⟩

/-- Every crumb holds the lines right behind its marker, as many as the marker asks for and the
file has, and counts those still missing. -/
theorem scanLines_peeked (job : Job) (lines : List Text)
    (h : (job.scanLines lines).result = .ok crumbs) :
    ∀ crumb ∈ crumbs, ∃ (i : Nat) (payload : Text) (marker : Marker),
      crumb.line = i + 1 ∧ job.payloadAt? lines i = some payload ∧
      Marker.parse payload = .ok marker ∧ 0 ≤ marker.peek ∧
      crumb.peeked = ((lines.drop (i + 1)).take marker.peek.toNat).map Text.trimLineEnd ∧
      crumb.peek = marker.peek - crumb.peeked.length := by
  obtain ⟨-, read, rfl⟩ := scan_of_ok h
  intro crumb hcrumb
  obtain ⟨i, hi, rfl⟩ := List.mem_map.1 hcrumb
  obtain ⟨marker, hmarker⟩ := Option.isSome_iff_exists.1 (read i hi)
  obtain ⟨payload, hp, hm⟩ := markerAt?_eq_some.1 hmarker
  refine ⟨i, payload, marker, rfl, hp, hm, Marker.parse_peek_nonneg hm, ?_, ?_⟩
  · simp only [crumbAt, hmarker, Option.getD_some, window]
    rfl
  · simp only [crumbAt, hmarker, Option.getD_some]

def sharedLines : List Text := ["// cc: A; 2", "x\r\n", "// cc: B; 1"].map String.toList

def sharedCrumbs : List Crumb :=
  [{ id := "0".toList, path := "a.go".toList, line := 1, language := "Go".toList
     title := "A".toList, peeked := ["x".toList, "// cc: B; 1".toList] },
    { id := "1".toList, path := "a.go".toList, line := 3, language := "Go".toList
      title := "B".toList, peek := 1 }]

theorem scanLines_peeked_shared :
    (slashJob.scanLines sharedLines).result = .ok sharedCrumbs ∧
    ∀ crumb ∈ sharedCrumbs, ∃ (i : Nat) (payload : Text) (marker : Marker),
      crumb.line = i + 1 ∧ slashJob.payloadAt? sharedLines i = some payload ∧
      Marker.parse payload = .ok marker ∧ 0 ≤ marker.peek ∧
      crumb.peeked = ((sharedLines.drop (i + 1)).take marker.peek.toNat).map Text.trimLineEnd ∧
      crumb.peek = marker.peek - crumb.peeked.length := by
  have hscan : (slashJob.scanLines sharedLines).result = .ok sharedCrumbs := by decide +kernel
  exact ⟨hscan, scanLines_peeked slashJob sharedLines hscan⟩

end Breadcrumb.Scan.Job
