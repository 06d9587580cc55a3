import Breadcrumb.Proofs.Scan.Tracking

namespace Breadcrumb.Scan.Job

/-- The first marker line that shares its run with an earlier one. -/
structure FirstClash (job : Job) (lines : List Text) (first second : Nat) : Prop where
  lt : first < second
  firstMarked : job.IsMarked lines first
  secondMarked : job.IsMarked lines second
  together : ¬ job.Apart lines first second
  before : job.ApartBelow lines second

/-- The three ways in which a scan ends. -/
inductive Ends (job : Job) (fault? : Option DecodeFault) (lines : List Text) (outcome : Outcome) :
    Prop where
  | complete
      (apart : job.ApartBelow lines lines.length)
      (read : ∀ i ∈ job.marks lines, (job.markerAt? lines i).isSome)
      (result : outcome.result =
        match fault? with
        | some fault => .error (.undecodable fault)
        | none => .ok ((job.marks lines).map (job.crumbAt lines)))
  | clash (first second : Nat) (clash : job.FirstClash lines first second)
      (result : outcome.result = .error (.duplicate job.path (second + 1) (first + 1)))
      (read : ∀ i < second, job.IsMarked lines i → (job.markerAt? lines i).isSome)
  | unread (i : Nat) (payload : Text) (fault : TooManyDigits)
      (marked : job.payloadAt? lines i = some payload) (unread : Marker.parse payload = .error fault)
      (result : outcome.result = .error (.tooManyDigits fault))
      (apart : job.ApartBelow lines (i + 1))

variable {job : Job} {lines : List Text} {closed : List Nat} {current : Option Nat} {state : State}

theorem FirstClash.append (h : job.FirstClash lines first second) (rest : List Text) :
    job.FirstClash (lines ++ rest) first second := by
  have hlt := h.secondMarked.isComment.lt_length
  have hfirst := h.lt
  refine ⟨h.lt, ?_, ?_, ?_, ?_⟩
  · rw [isMarked_append rest (by omega)]
    exact h.firstMarked
  · rw [isMarked_append rest hlt]
    exact h.secondMarked
  · rw [apart_append rest hlt.le]
    exact h.together
  · rw [apartBelow_append rest hlt.le]
    exact h.before

theorem Tracks.firstClash (h : job.Tracks lines closed (some first) state)
    (hp : job.payloadAt? (lines ++ [raw]) lines.length = some payload) :
    job.FirstClash (lines ++ [raw]) first lines.length := by
  have hfirst : first ∈ job.marks lines := by simp [h.marks_eq]
  have hlt := lt_of_mem_marks hfirst
  refine ⟨hlt, ?_, ?_, ?_, ?_⟩
  · rw [isMarked_append _ hlt]
    exact mem_marks.1 hfirst
  · rw [IsMarked, hp]
    rfl
  · rw [apart_append _ le_rfl]
    exact h.running first rfl
  · rw [apartBelow_append _ le_rfl]
    exact h.apart

theorem openCrumb_of_error (state : State) (line : Int) (hm : Marker.parse payload = .error fault) :
    ∃ outcome, job.openCrumb state line payload = .error outcome ∧
      outcome.result = .error (.tooManyDigits fault) := by
  simp only [openCrumb, hm, Except.error.injEq, exists_eq_left', State.fault]

theorem openCrumb_of_ok (state : State) (line : Int) (hm : Marker.parse payload = .ok marker) :
    ∃ state', job.openCrumb state line payload = .ok state' ∧
      state'.current = some (marker.apply
        { id := job.mint state.minted, path := job.path, line, language := job.language.name }) ∧
      state'.closed = state.closed ∧ state'.minted = state.minted + 1 := by
  simp only [openCrumb, hm, Except.ok.injEq, exists_eq_left', and_self]

theorem Tracks.step (h : job.Tracks lines closed current state) (fault? : Option DecodeFault)
    (raw : Text) (rest : List Text) :
    (∃ closed' current' state', job.step state (lines.length + 1) raw = .ok state' ∧
      job.Tracks (lines ++ [raw]) closed' current' state') ∨
    ∃ outcome, job.step state (lines.length + 1) raw = .error outcome ∧
      job.Ends fault? (lines ++ raw :: rest) outcome := by
  have hrest : lines ++ raw :: rest = lines ++ [raw] ++ rest := by simp
  cases hc : job.language.comment? raw.trimLineEnd with
  | none => exact .inl ⟨_, _, _, by simp only [Job.step, hc], h.afterCode hc⟩
  | some comment =>
    cases hs : job.sigil.payload? comment with
    | none => exact .inl ⟨_, _, _, by simp only [Job.step, hc, hs], h.afterComment hc hs⟩
    | some payload =>
      have hp : job.payloadAt? (lines ++ [raw]) lines.length = some payload := by
        rw [payloadAt?_concat, hc, Option.bind_some, hs]
      cases current with
      | some first =>
        refine .inr ⟨state.fault (.duplicate job.path (lines.length + 1) (first + 1)), ?_,
          .clash first lines.length (hrest ▸ (h.firstClash hp).append rest) rfl ?_⟩
        · simp only [Job.step, hc, hs, h.current_eq, Option.map_some, crumbAt]
        · intro i hi hmarked
          rw [isMarked_append _ hi] at hmarked
          rw [markerAt?_append _ hi]
          exact h.read i (mem_marks.2 hmarked)
      | none =>
        have hstep : job.step state (lines.length + 1) raw =
            job.openCrumb (state.capture raw.trimLineEnd) (lines.length + 1) payload := by
          simp only [Job.step, hc, hs, h.current_eq, Option.map_none]
        cases hm : Marker.parse payload with
        | error fault =>
          obtain ⟨outcome, hopen, hresult⟩ := openCrumb_of_error _ _ hm
          refine .inr ⟨outcome, hstep.trans hopen,
            .unread lines.length payload fault ?_ hm hresult ?_⟩
          · rw [hrest, payloadAt?_append rest (by simp), hp]
          · have hapart := h.apart_concat raw fun _ => rfl
            rw [List.length_append, List.length_singleton] at hapart
            rw [hrest, apartBelow_append rest (by simp)]
            exact hapart
        | ok marker =>
          obtain ⟨state', hopen, hcurrent, hclosed, hminted⟩ := openCrumb_of_ok _ _ hm
          exact .inl ⟨_, _, state', hstep.trans hopen, h.afterMarker hp hm hcurrent hclosed hminted⟩

theorem Tracks.scanFrom (h : job.Tracks lines closed current state) (fault? : Option DecodeFault)
    (rest : List Text) :
    job.Ends fault? (lines ++ rest) (job.scanFrom fault? state (lines.length + 1) rest) := by
  induction rest generalizing lines closed current state with
  | nil =>
    rw [List.append_nil]
    refine .complete h.apart h.read ?_
    cases fault? with
    | some fault => rfl
    | none => simp only [Job.scanFrom, h.crumbs_eq]
  | cons raw rest ih =>
    rcases h.step fault? raw rest with ⟨closed', current', state', hstep, h'⟩ | ⟨outcome, hstep, hend⟩
    · have hrest := ih h'
      simp only [List.length_append, List.length_singleton, Int.natCast_add, Int.cast_ofNat_Int,
        List.append_assoc, List.singleton_append] at hrest
      simp only [Job.scanFrom, hstep]
      exact hrest
    · simp only [Job.scanFrom, hstep]
      exact hend

/-- Every scan ends in one of the three ways. -/
theorem scan_ends (job : Job) (stream : LineStream) :
    job.Ends stream.fault? stream.lines (job.scan stream) :=
  (Tracks.start job).scanFrom stream.fault? stream.lines

theorem crumbAt_lines_sorted (job : Job) (lines : List Text) :
    ((job.marks lines).map (job.crumbAt lines)).Pairwise (·.line < ·.line) := by
  refine List.pairwise_map.2 ((marks_sorted job lines).imp fun h => ?_)
  simp only [crumbAt]
  omega

theorem scan_of_ok {stream : LineStream} (h : (job.scan stream).result = .ok crumbs) :
    job.ApartBelow stream.lines stream.lines.length ∧
      (∀ i ∈ job.marks stream.lines, (job.markerAt? stream.lines i).isSome) ∧
      crumbs = (job.marks stream.lines).map (job.crumbAt stream.lines) := by
  cases job.scan_ends stream with
  | complete apart read result =>
    rw [h] at result
    cases hfault : stream.fault? with
    | some fault =>
      rw [hfault] at result
      cases result
    | none =>
      rw [hfault] at result
      cases result
      exact ⟨apart, read, rfl⟩
  | clash first second clash result =>
    rw [h] at result
    cases result
  | unread i payload fault marked unread result =>
    rw [h] at result
    cases result

end Breadcrumb.Scan.Job
