import Breadcrumb.Proofs.Marker.Writing

namespace Breadcrumb.Marker

/-- How the fields behind the title are read. -/
inductive TailRead : List Text → (peek : Int) → (description : Option Text) → List Outcome → Prop
  | empty : TailRead [] 0 none [⟨.peek, .defaulted, []⟩, ⟨.description, .defaulted, []⟩]
  | count : Integer.Spells digits field.trim n → 0 < n →
    TailRead [field] n none [⟨.peek, .parsed, Text.ofInt n⟩, ⟨.description, .defaulted, []⟩]
  | text : (∀ digits n, Integer.Spells digits field.trim n → n ≤ 0) →
    TailRead (field :: further) 0 (some field.trim)
      [⟨.peek, .defaulted, []⟩, ⟨.description, .parsed, []⟩]
  | both : Integer.Spells digits field.trim n → 0 < n →
    TailRead (field :: next :: further) n (some next.trim)
      [⟨.peek, .parsed, Text.ofInt n⟩, ⟨.description, .parsed, []⟩]

/-- How the title and what is behind it are read. -/
inductive TitleRead :
    List Text → (title : Text) → (peek : Int) → (description : Option Text) → List Outcome → Prop
  | untitled {peek description outcomes} : TailRead [] peek description outcomes →
    TitleRead [] [] peek description (⟨.title, .defaulted, []⟩ :: outcomes)
  | titled {rest field peek description outcomes} : TailRead rest peek description outcomes →
    TitleRead (field :: rest) field.trim peek description
      (⟨.title, .parsed, field.trim⟩ :: outcomes)

def ofBrokenStep (name text : Text) : Marker where
  trail := name
  outcomes :=
    [⟨.trail, .parsed, name⟩, ⟨.step, .invalid, "not an integer: ".toList ++ text.quoted⟩]

/-- How the first field is read, with the marker it gives and the fields that are left. -/
inductive TrailRead : (first : Text) → (rest : List Text) → Marker → (left : List Text) → Prop
  | remark : '#' ∉ first → TrailRead first rest remark (first :: rest)
  | step {name digits text : Text} {n} : '#' ∉ name → Integer.Spells digits text.trim n →
    TrailRead (name ++ '#' :: text) rest (ofStep name.trim n) rest
  | broken {name text : Text} : '#' ∉ name → (∀ digits n, ¬ Integer.Spells digits text.trim n) →
    TrailRead (name ++ '#' :: text) rest (ofBrokenStep name.trim text.trim) rest

def opening (payload : Text) : Text := payload.takeWhile (· ≠ ';')

/-- How a payload is read. -/
inductive Read (payload : Text) : Marker → Prop
  | mk {rest start left title peek description outcomes} :
    payload.split ';' = opening payload :: rest → TrailRead (opening payload) rest start left →
    TitleRead left title peek description outcomes →
    Read payload { start with title, peek, description, outcomes := start.outcomes ++ outcomes }

variable {payload first : Text} {fields rest left : List Text} {start marker : Marker}

theorem tailRead_of_withPeek (h : start.withPeek fields = .ok marker) (hpeek : start.peek = 0)
    (hnone : start.description = none) :
    ∃ peek description outcomes, TailRead fields peek description outcomes ∧
      marker = { start with peek, description, outcomes := start.outcomes ++ outcomes } := by
  cases fields with
  | nil =>
    cases h
    refine ⟨0, none, _, .empty, ?_⟩
    simp only [withDescription, hpeek, hnone, List.append_assoc]
    rfl
  | cons field rest =>
    cases hread : Integer.read? field with
    | error fault => simp only [withPeek, hread, Except.map, reduceCtorEq] at h
    | ok n? =>
      by_cases hcount : ∃ n, n? = some n ∧ 0 < n
      · obtain ⟨n, rfl, hpos⟩ := hcount
        obtain ⟨digits, hspells⟩ := Integer.spells_of_read? hread
        rw [withPeek_of_pos hread hpos] at h
        cases h
        cases rest with
        | nil =>
          refine ⟨n, none, _, .count hspells hpos, ?_⟩
          simp only [withDescription, hnone, List.append_assoc]
          rfl
        | cons next further =>
          refine ⟨n, some next.trim, _, .both hspells hpos, ?_⟩
          simp only [withDescription, List.append_assoc]
          rfl
      · have hn : ∀ n ∈ n?, n ≤ 0 := by
          intro n hn
          exact Int.not_lt.1 fun hpos => hcount ⟨n, hn, hpos⟩
        have htext : ∀ digits n, Integer.Spells digits field.trim n → n ≤ 0 := by
          intro digits n hspells
          exact hn n (hspells.eq_some hread)
        rw [withPeek_of_nonpos hread hn] at h
        cases h
        refine ⟨0, some field.trim, _, .text htext, ?_⟩
        simp only [withDescription, hpeek, List.append_assoc]
        rfl

theorem titleRead_of_withTitle (h : start.withTitle fields = .ok marker) (htitle : start.title = [])
    (hpeek : start.peek = 0) (hnone : start.description = none) :
    ∃ title peek description outcomes, TitleRead fields title peek description outcomes ∧
      marker = { start with title, peek, description, outcomes := start.outcomes ++ outcomes } := by
  cases fields with
  | nil =>
    rw [withTitle] at h
    obtain ⟨peek, description, outcomes, htail, rfl⟩ := tailRead_of_withPeek h hpeek hnone
    refine ⟨[], peek, description, _, .untitled htail, ?_⟩
    simp only [htitle, List.append_assoc]
    rfl
  | cons field rest =>
    rw [withTitle] at h
    obtain ⟨peek, description, outcomes, htail, rfl⟩ := tailRead_of_withPeek h hpeek hnone
    refine ⟨field.trim, peek, description, _, .titled htail, ?_⟩
    simp only [List.append_assoc]
    rfl

theorem trailRead_of_ofTrail {name text : Text} (hcut : first.cut? '#' = some (name, text))
    (h : ofTrail name text = .ok start) (rest : List Text) : TrailRead first rest start rest := by
  obtain ⟨hname, rfl⟩ := Text.of_cut?_eq_some hcut
  cases hread : Integer.read? text with
  | error fault => simp only [ofTrail, hread, Except.map, reduceCtorEq] at h
  | ok n? =>
    simp only [ofTrail, hread, Except.map, Except.ok.injEq] at h
    cases n? with
    | none =>
      subst h
      exact .broken hname (Integer.not_spells_of_read? hread)
    | some n =>
      subst h
      obtain ⟨digits, hspells⟩ := Integer.spells_of_read? hread
      exact .step hname hspells

theorem TrailRead.unread (h : TrailRead first rest start left) :
    start.title = [] ∧ start.peek = 0 ∧ start.description = none := by
  cases h with
  | remark => exact ⟨rfl, rfl, rfl⟩
  | step => exact ⟨rfl, rfl, rfl⟩
  | broken => exact ⟨rfl, rfl, rfl⟩

theorem trailRead_of_ofFields (h : ofFields (first :: rest) = .ok marker) :
    ∃ start left, TrailRead first rest start left ∧ start.withTitle left = .ok marker := by
  cases hcut : first.cut? '#' with
  | none =>
    have hmark := Text.notMem_of_cut?_eq_none hcut
    rw [ofFields_of_notMem hmark] at h
    exact ⟨remark, first :: rest, .remark hmark, h⟩
  | some pair =>
    obtain ⟨name, text⟩ := pair
    simp only [ofFields, hcut] at h
    cases hstart : ofTrail name text with
    | error fault => simp only [hstart, Except.bind, reduceCtorEq] at h
    | ok start =>
      simp only [hstart, Except.bind] at h
      exact ⟨start, rest, trailRead_of_ofTrail hcut hstart rest, h⟩

theorem read_of_parse (h : parse payload = .ok marker) : Read payload marker := by
  obtain ⟨rest, hsplit⟩ := List.head?_eq_some_iff.1 (Text.head?_split ';' payload)
  rw [parse, hsplit] at h
  obtain ⟨start, left, htrail, h⟩ := trailRead_of_ofFields h
  obtain ⟨htitle, hpeek, hnone⟩ := htrail.unread
  obtain ⟨title, peek, description, outcomes, hrest, rfl⟩ :=
    titleRead_of_withTitle h htitle hpeek hnone
  exact .mk hsplit htrail hrest

end Breadcrumb.Marker
