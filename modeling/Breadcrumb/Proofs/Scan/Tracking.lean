import Breadcrumb.Proofs.Scan.Runs

namespace Breadcrumb.Scan

/-- The lines behind the one at an index, as many as `count` says, without their line ends. -/
def window (lines : List Text) (i : Nat) (count : Int) : List Text :=
  ((lines.drop (i + 1)).take count.toNat).map Text.trimLineEnd

theorem window_concat (raw : Text) (count : Int) (h : i < lines.length) :
    window (lines ++ [raw]) i count =
      if 0 < count - (window lines i count).length then
        window lines i count ++ [raw.trimLineEnd]
      else window lines i count := by
  rw [window, window, List.drop_append_of_le_length (by omega), List.length_map, List.length_take]
  split
  · rw [List.take_of_length_le (by simp only [List.length_append, List.length_singleton]; omega),
      List.take_of_length_le (by omega), List.map_append, List.map_singleton]
  · rw [List.take_append_of_le_length (by omega)]

namespace Job

def leadingComments (job : Job) : List Text → List Text
  | [] => []
  | raw :: rest =>
    match job.language.comment? raw.trimLineEnd with
    | some comment => comment :: leadingComments job rest
    | none => []

def markerAt? (job : Job) (lines : List Text) (i : Nat) : Option Marker :=
  (job.payloadAt? lines i).bind fun payload => (Marker.parse payload).toOption

def crumbAt (job : Job) (lines : List Text) (i : Nat) : Crumb :=
  let marker := (job.markerAt? lines i).getD {}
  { id := job.mint (job.marks (lines.take i)).length
    path := job.path
    line := i + 1
    language := job.language.name
    title := marker.title
    trail := marker.trail
    step := marker.step
    description := marker.description.toList ++ job.leadingComments (lines.drop (i + 1))
    peek := marker.peek - (window lines i marker.peek).length
    peeked := window lines i marker.peek }

variable {job : Job} {lines : List Text} {i j : Nat} {raw comment payload : Text}

theorem commentAt?_append (rest : List Text) (h : i < lines.length) :
    job.commentAt? (lines ++ rest) i = job.commentAt? lines i := by
  rw [commentAt?, commentAt?, List.getElem?_append_left h]

theorem payloadAt?_append (rest : List Text) (h : i < lines.length) :
    job.payloadAt? (lines ++ rest) i = job.payloadAt? lines i := by
  rw [payloadAt?, payloadAt?, commentAt?_append rest h]

theorem isComment_append (rest : List Text) (h : i < lines.length) :
    job.IsComment (lines ++ rest) i ↔ job.IsComment lines i := by
  rw [IsComment, IsComment, commentAt?_append rest h]

theorem isMarked_append (rest : List Text) (h : i < lines.length) :
    job.IsMarked (lines ++ rest) i ↔ job.IsMarked lines i := by
  rw [IsMarked, IsMarked, payloadAt?_append rest h]

theorem apart_append (rest : List Text) (h : j ≤ lines.length) :
    job.Apart (lines ++ rest) i j ↔ job.Apart lines i j := by
  refine exists_congr fun k => and_congr_right fun _ => and_congr_right fun hk => ?_
  rw [isComment_append rest (by omega)]

theorem apartBelow_append (rest : List Text) (h : n ≤ lines.length) :
    job.ApartBelow (lines ++ rest) n ↔ job.ApartBelow lines n := by
  refine forall_congr' fun i => forall_congr' fun j => forall_congr' fun _ =>
    forall_congr' fun hj => ?_
  rw [isMarked_append rest (by omega), isMarked_append rest (by omega),
    apart_append rest (by omega)]

theorem commentAt?_concat (job : Job) (lines : List Text) (raw : Text) :
    job.commentAt? (lines ++ [raw]) lines.length = job.language.comment? raw.trimLineEnd := by
  rw [commentAt?, List.getElem?_concat_length, Option.bind_some]

theorem payloadAt?_concat (job : Job) (lines : List Text) (raw : Text) :
    job.payloadAt? (lines ++ [raw]) lines.length =
      (job.language.comment? raw.trimLineEnd).bind job.sigil.payload? := by
  rw [payloadAt?, commentAt?_concat]

theorem marks_append_take (rest : List Text) (h : i ≤ lines.length) :
    job.marks ((lines ++ rest).take i) = job.marks (lines.take i) := by
  rw [List.take_append_of_le_length h]

theorem marks_concat (job : Job) (lines : List Text) (raw : Text) :
    job.marks (lines ++ [raw]) =
      job.marks lines ++
        if job.IsMarked (lines ++ [raw]) lines.length then [lines.length] else [] := by
  rw [marks, List.length_append, List.length_singleton, List.range_succ, List.filter_append,
    List.filter_singleton]
  congr 1
  · refine List.filter_congr fun i hi => ?_
    rw [decide_eq_decide, isMarked_append _ (List.mem_range.1 hi)]
  · rw [Bool.cond_decide]

theorem apart_concat (h : i < lines.length) :
    job.Apart (lines ++ [raw]) i (lines.length + 1) ↔
      job.Apart lines i lines.length ∨ job.language.comment? raw.trimLineEnd = none := by
  rw [← apart_append [raw] le_rfl]
  have hlast : job.IsComment (lines ++ [raw]) lines.length ↔
      ¬ job.language.comment? raw.trimLineEnd = none := by
    rw [IsComment, commentAt?_concat, Option.isSome_iff_ne_none]
  constructor
  · rintro ⟨k, hik, hk, hc⟩
    rcases Nat.eq_or_lt_of_le (Nat.le_of_lt_succ hk) with rfl | hlt
    · exact .inr (not_not.1 (hlast.not.1 hc))
    · exact .inl ⟨k, hik, hlt, hc⟩
  · rintro (⟨k, hik, hk, hc⟩ | hnone)
    · exact ⟨k, hik, by omega, hc⟩
    · exact ⟨lines.length, h, by omega, fun hc => hlast.1 hc hnone⟩

/-- A marker line whose run has ended is one with a line behind it that is no comment. -/
theorem apart_length_iff :
    job.Apart lines i lines.length ↔
      ∃ raw ∈ lines.drop (i + 1), job.language.comment? raw.trimLineEnd = none := by
  constructor
  · rintro ⟨k, hik, hk, hc⟩
    refine ⟨lines[k], ?_, ?_⟩
    · refine List.mem_drop_iff_getElem.2 ⟨k - (i + 1), by omega, ?_⟩
      congr 1
      omega
    · rw [IsComment, commentAt?, List.getElem?_eq_getElem hk, Option.bind_some] at hc
      exact Option.not_isSome_iff_eq_none.1 hc
  · rintro ⟨raw, hraw, hnone⟩
    obtain ⟨k, hk, rfl⟩ := List.mem_drop_iff_getElem.1 hraw
    refine ⟨i + 1 + k, by omega, by omega, ?_⟩
    rw [IsComment, commentAt?, List.getElem?_eq_getElem (by omega), Option.bind_some, hnone]
    exact Bool.false_ne_true

theorem leadingComments_append_of_code (rest : List Text)
    (h : ∃ raw ∈ lines, job.language.comment? raw.trimLineEnd = none) :
    job.leadingComments (lines ++ rest) = job.leadingComments lines := by
  induction lines with
  | nil => simp at h
  | cons raw lines ih =>
    simp only [List.cons_append, leadingComments]
    cases hc : job.language.comment? raw.trimLineEnd with
    | none => rfl
    | some comment =>
      obtain ⟨other, hmem, hnone⟩ := h
      rcases List.mem_cons.1 hmem with rfl | hmem
      · simp only [hnone, reduceCtorEq] at hc
      · simp only [ih ⟨other, hmem, hnone⟩]

theorem leadingComments_append_of_comments (rest : List Text)
    (h : ¬ ∃ raw ∈ lines, job.language.comment? raw.trimLineEnd = none) :
    job.leadingComments (lines ++ rest) = job.leadingComments lines ++ job.leadingComments rest := by
  induction lines with
  | nil => rfl
  | cons raw lines ih =>
    simp only [List.cons_append, leadingComments]
    cases hc : job.language.comment? raw.trimLineEnd with
    | none => exact (h ⟨raw, List.mem_cons_self, hc⟩).elim
    | some comment =>
      simp only [ih fun ⟨other, hmem, hnone⟩ => h ⟨other, List.mem_cons_of_mem _ hmem, hnone⟩,
        List.cons_append]

theorem markerAt?_eq_some {marker : Marker} : job.markerAt? lines i = some marker ↔
    ∃ payload, job.payloadAt? lines i = some payload ∧ Marker.parse payload = .ok marker := by
  rw [markerAt?, Option.bind_eq_some_iff]
  refine exists_congr fun payload => and_congr_right fun _ => ?_
  cases Marker.parse payload <;> simp [Except.toOption]

theorem markerAt?_append (rest : List Text) (h : i < lines.length) :
    job.markerAt? (lines ++ rest) i = job.markerAt? lines i := by
  rw [markerAt?, markerAt?, payloadAt?_append rest h]

/-- A further line does to a crumb what capturing it does, up to the description. -/
theorem crumbAt_concat (job : Job) (raw : Text) (h : i < lines.length) :
    job.crumbAt (lines ++ [raw]) i =
      Crumb.capture
        { job.crumbAt lines i with
          description := (job.crumbAt (lines ++ [raw]) i).description } raw.trimLineEnd := by
  simp only [crumbAt, markerAt?_append _ h, marks_append_take _ h.le, window_concat raw _ h,
    Crumb.capture]
  split
  · rw [List.length_append, List.length_singleton]
    congr 1
    omega
  · rfl

theorem crumbAt_concat_of_apart (h : i < lines.length)
    (hend : job.Apart (lines ++ [raw]) i (lines.length + 1)) :
    job.crumbAt (lines ++ [raw]) i = (job.crumbAt lines i).capture raw.trimLineEnd := by
  have hdesc : (job.crumbAt (lines ++ [raw]) i).description =
      (job.crumbAt lines i).description := by
    simp only [crumbAt, markerAt?_append _ h]
    rw [List.drop_append_of_le_length (by omega)]
    by_cases hapart : job.Apart lines i lines.length
    · rw [leadingComments_append_of_code _ (apart_length_iff.1 hapart)]
    · have hnone := ((apart_concat h).1 hend).resolve_left hapart
      rw [leadingComments_append_of_comments _ (apart_length_iff.not.1 hapart)]
      simp only [leadingComments, hnone, List.append_nil]
  exact (crumbAt_concat job raw h).trans (by rw [hdesc])

theorem crumbAt_concat_of_comment (h : i < lines.length)
    (hc : job.language.comment? raw.trimLineEnd = some comment)
    (hopen : ¬ job.Apart lines i lines.length) :
    job.crumbAt (lines ++ [raw]) i =
      Crumb.capture
        { job.crumbAt lines i with
          description := (job.crumbAt lines i).description ++ [comment] } raw.trimLineEnd := by
  have hdesc : (job.crumbAt (lines ++ [raw]) i).description =
      (job.crumbAt lines i).description ++ [comment] := by
    simp only [crumbAt, markerAt?_append _ h]
    rw [List.drop_append_of_le_length (by omega),
      leadingComments_append_of_comments _ (apart_length_iff.not.1 hopen)]
    simp only [leadingComments, hc, List.append_assoc]
  exact (crumbAt_concat job raw h).trans (by rw [hdesc])

theorem crumbAt_concat_length (hp : job.payloadAt? (lines ++ [raw]) lines.length = some payload)
    (hm : Marker.parse payload = .ok marker) :
    job.crumbAt (lines ++ [raw]) lines.length =
      marker.apply
        { id := job.mint (job.marks lines).length, path := job.path, line := lines.length + 1
          language := job.language.name } := by
  have hmarker : job.markerAt? (lines ++ [raw]) lines.length = some marker :=
    markerAt?_eq_some.2 ⟨payload, hp, hm⟩
  have hdrop : (lines ++ [raw]).drop (lines.length + 1) = [] :=
    List.drop_eq_nil_of_le (by simp)
  simp only [crumbAt, window, hmarker, hdrop, Option.getD_some, leadingComments, List.take_nil,
    List.map_nil, List.append_nil, List.length_nil, List.take_left, Marker.apply, List.nil_append]
  congr 1
  omega

/-- The state after `lines` holds the crumbs of the marker lines `closed`, whose runs have ended,
and that of `current`, whose run may go on. -/
structure Tracks (job : Job) (lines : List Text) (closed : List Nat) (current : Option Nat)
    (state : State) : Prop where
  marks_eq : job.marks lines = closed ++ current.toList
  apart : job.ApartBelow lines lines.length
  read : ∀ i ∈ job.marks lines, (job.markerAt? lines i).isSome
  ended : ∀ i ∈ closed, job.Apart lines i lines.length
  running : ∀ i ∈ current, ¬ job.Apart lines i lines.length
  closed_eq : state.closed = closed.map (job.crumbAt lines)
  current_eq : state.current = current.map (job.crumbAt lines)
  minted_eq : state.minted = (job.marks lines).length

theorem marks_concat_of_none (h : job.payloadAt? (lines ++ [raw]) lines.length = none) :
    job.marks (lines ++ [raw]) = job.marks lines := by
  rw [marks_concat, if_neg (by rw [IsMarked, h]; exact Bool.false_ne_true), List.append_nil]

theorem marks_concat_of_some (h : job.payloadAt? (lines ++ [raw]) lines.length = some payload) :
    job.marks (lines ++ [raw]) = job.marks lines ++ [lines.length] := by
  rw [marks_concat, if_pos (by rw [IsMarked, h]; rfl)]

namespace Tracks

variable {closed : List Nat} {current : Option Nat} {state : State}

theorem start (job : Job) : job.Tracks [] [] none {} where
  marks_eq := rfl
  apart := by simp [ApartBelow]
  read := by simp [marks]
  ended := by simp
  running := by simp
  closed_eq := rfl
  current_eq := rfl
  minted_eq := rfl

theorem crumbs_eq (h : job.Tracks lines closed current state) :
    state.crumbs = (job.marks lines).map (job.crumbAt lines) := by
  rw [State.crumbs, h.closed_eq, h.current_eq, h.marks_eq, List.map_append]
  cases current <;> rfl

theorem lt_length (h : job.Tracks lines closed current state) (hi : i ∈ closed ++ current.toList) :
    i < lines.length :=
  lt_of_mem_marks (h.marks_eq ▸ hi)

theorem apart_concat (h : job.Tracks lines closed current state) (raw : Text)
    (hlast : job.IsMarked (lines ++ [raw]) lines.length → current = none) :
    job.ApartBelow (lines ++ [raw]) (lines ++ [raw]).length := by
  intro i j hij hj hi hj'
  rw [List.length_append, List.length_singleton] at hj
  rcases Nat.eq_or_lt_of_le (Nat.le_of_lt_succ hj) with rfl | hlt
  · rw [isMarked_append _ hij] at hi
    rw [apart_append _ le_rfl]
    refine h.ended i ?_
    simpa [h.marks_eq, hlast hj'] using mem_marks.2 hi
  · exact (apartBelow_append [raw] le_rfl).2 h.apart i j hij hlt hi hj'

theorem read_concat (h : job.Tracks lines closed current state) (raw : Text) :
    ∀ i ∈ job.marks lines, (job.markerAt? (lines ++ [raw]) i).isSome := by
  intro i hi
  rw [markerAt?_append _ (lt_of_mem_marks hi)]
  exact h.read i hi

theorem closed_capture (h : job.Tracks lines closed current state) (raw : Text) :
    (state.capture raw.trimLineEnd).closed = closed.map (job.crumbAt (lines ++ [raw])) := by
  simp only [State.capture, h.closed_eq, List.map_map]
  refine List.map_congr_left fun i hi => ?_
  have hlt := h.lt_length (List.mem_append_left _ hi)
  exact (crumbAt_concat_of_apart hlt ((Job.apart_concat hlt).2 (.inl (h.ended i hi)))).symm

theorem ended_concat (h : job.Tracks lines closed current state) (raw : Text) :
    ∀ i ∈ closed, job.Apart (lines ++ [raw]) i (lines ++ [raw]).length := by
  intro i hi
  rw [List.length_append, List.length_singleton]
  exact (Job.apart_concat (h.lt_length (List.mem_append_left _ hi))).2 (.inl (h.ended i hi))

theorem afterCode (h : job.Tracks lines closed current state)
    (hc : job.language.comment? raw.trimLineEnd = none) :
    job.Tracks (lines ++ [raw]) (closed ++ current.toList) none
      (state.capture raw.trimLineEnd).close := by
  have hlen : (lines ++ [raw]).length = lines.length + 1 := by simp
  have hnone : job.payloadAt? (lines ++ [raw]) lines.length = none := by
    rw [payloadAt?_concat, hc, Option.bind_none]
  have hend (i : Nat) (hi : i ∈ closed ++ current.toList) :
      job.Apart (lines ++ [raw]) i (lines.length + 1) :=
    (Job.apart_concat (h.lt_length hi)).2 (.inr hc)
  refine ⟨?_, ?_, ?_, ?_, ?_, ?_, rfl, ?_⟩
  · rw [marks_concat_of_none hnone, h.marks_eq]
    exact (List.append_nil _).symm
  · exact h.apart_concat raw fun hm => absurd hm (by rw [IsMarked, hnone]; exact Bool.false_ne_true)
  · rw [marks_concat_of_none hnone]
    exact h.read_concat raw
  · rw [hlen]
    exact hend
  · simp
  · rw [State.close, State.crumbs, h.closed_capture, List.map_append]
    cases current with
    | none => simp only [State.capture, h.current_eq, Option.map_none, Option.toList_none,
        List.map_nil]
    | some i =>
      simp only [State.capture, h.current_eq, Option.map_some, Option.toList_some, List.map_cons,
        List.map_nil]
      have hi : i ∈ closed ++ (some i).toList := by simp
      rw [crumbAt_concat_of_apart (h.lt_length hi) (hend i hi)]
  · rw [marks_concat_of_none hnone]
    exact h.minted_eq

theorem afterComment (h : job.Tracks lines closed current state)
    (hc : job.language.comment? raw.trimLineEnd = some comment)
    (hp : job.sigil.payload? comment = none) :
    job.Tracks (lines ++ [raw]) closed current
      ((state.describe comment).capture raw.trimLineEnd) := by
  have hlen : (lines ++ [raw]).length = lines.length + 1 := by simp
  have hnone : job.payloadAt? (lines ++ [raw]) lines.length = none := by
    rw [payloadAt?_concat, hc, Option.bind_some, hp]
  refine ⟨?_, ?_, ?_, h.ended_concat raw, ?_, h.closed_capture raw, ?_, ?_⟩
  · rw [marks_concat_of_none hnone, h.marks_eq]
  · exact h.apart_concat raw fun hm => absurd hm (by rw [IsMarked, hnone]; exact Bool.false_ne_true)
  · rw [marks_concat_of_none hnone]
    exact h.read_concat raw
  · intro i hi
    have hlt := h.lt_length (List.mem_append_right _ (Option.mem_toList.2 hi))
    rw [hlen, Job.apart_concat hlt, hc]
    simp only [h.running i hi, reduceCtorEq, or_self, not_false_eq_true]
  · cases current with
    | none => simp only [State.capture, State.describe, h.current_eq, Option.map_none]
    | some i =>
      have hi : i ∈ closed ++ (some i).toList := by simp
      simp only [State.capture, State.describe, h.current_eq, Option.map_some,
        crumbAt_concat_of_comment (h.lt_length hi) hc (h.running i rfl)]
  · rw [marks_concat_of_none hnone]
    exact h.minted_eq

theorem afterMarker (h : job.Tracks lines closed none state)
    (hp : job.payloadAt? (lines ++ [raw]) lines.length = some payload)
    (hm : Marker.parse payload = .ok marker)
    (hcurrent : state'.current = some (marker.apply
      { id := job.mint state.minted, path := job.path, line := lines.length + 1
        language := job.language.name }))
    (hclosed : state'.closed = (state.capture raw.trimLineEnd).closed)
    (hminted : state'.minted = state.minted + 1) :
    job.Tracks (lines ++ [raw]) closed (some lines.length) state' := by
  have hmarks : job.marks lines = closed := by simpa using h.marks_eq
  refine ⟨?_, ?_, ?_, h.ended_concat raw, ?_, ?_, ?_, ?_⟩
  · rw [marks_concat_of_some hp, hmarks]
    rfl
  · exact h.apart_concat raw fun _ => rfl
  · rw [marks_concat_of_some hp]
    intro i hi
    rcases List.mem_append.1 hi with hi | hi
    · exact h.read_concat raw i hi
    · rw [List.mem_singleton.1 hi, markerAt?_eq_some.2 ⟨payload, hp, hm⟩]
      rfl
  · rintro i hi ⟨k, hik, hk, -⟩
    cases hi
    simp only [List.length_append, List.length_singleton] at hk
    omega
  · rw [hclosed, h.closed_capture]
  · rw [hcurrent, Option.map_some, crumbAt_concat_length hp hm, h.minted_eq]
  · rw [hminted, h.minted_eq, marks_concat_of_some hp, List.length_append, List.length_singleton]

end Tracks

end Job

end Breadcrumb.Scan
