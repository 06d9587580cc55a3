import Breadcrumb.Arguments
import Breadcrumb.Proofs.World.Session

namespace Breadcrumb.Arguments

def Reading.adding (reading more : Reading) : Reading where
  given := reading.given ++ more.given
  words := reading.words.or more.words
  extras := reading.extras ++ more.extras

@[simp] theorem Reading.adding_empty (reading : Reading) : reading.adding {} = reading := by
  simp only [adding, List.append_nil, Option.or_none]

theorem Reading.adding_assoc (first second third : Reading) :
    (first.adding second).adding third = first.adding (second.adding third) := by
  simp only [adding, List.append_assoc, Option.or_assoc]

namespace Grammar

variable {grammar : Grammar} {known : Switch} {spelling tail word text : Text}
  {pieces rest rest' : List (Text × Part)} {entry : Text × Given} {held : Option (List Text)}

/-- A part that is a switch is one of the grammar's. -/
def Knows (grammar : Grammar) (piece : Part) : Prop :=
  ∀ known spelling tail, piece = .switch (some known) spelling tail → known ∈ grammar.switches

theorem knows_switch (h : known ∈ grammar.switches) (spelling tail : Text) :
    grammar.Knows (.switch (some known) spelling tail) := by
  intro other _ _ hother
  cases hother
  exact h

theorem mem_switches_of_mem_spellings (h : (spelling, known) ∈ grammar.spellings) :
    known ∈ grammar.switches := by
  obtain ⟨other, hother, h⟩ := List.mem_flatMap.1 h
  obtain ⟨_, -, hpair⟩ := List.mem_map.1 h
  cases hpair
  exact hother

theorem mem_switches_of_find? (h : grammar.find? spelling = some known) :
    known ∈ grammar.switches := by
  obtain ⟨before, after, hspellings, -⟩ := List.lookup_eq_some_iff.1 h
  have hmem : (spelling, known) ∈ grammar.spellings := by
    rw [hspellings]
    exact List.mem_append_right _ (List.mem_cons_self ..)
  exact mem_switches_of_mem_spellings hmem

theorem knows_of_candidates (h : grammar.candidates word = (spelling, piece) :: rest) :
    grammar.Knows piece := by
  have hfirst : (spelling, piece) ∈ grammar.candidates word := by
    rw [h]
    exact List.mem_cons_self ..
  unfold candidates at hfirst
  split at hfirst
  · obtain ⟨⟨other, known⟩, hmem, hpiece⟩ := List.mem_map.1 hfirst
    cases hpiece
    exact knows_switch (mem_switches_of_mem_spellings (List.mem_filter.1 hmem).1) _ _
  · obtain ⟨⟨other, known⟩, hmem, hpiece⟩ := List.mem_filterMap.1 hfirst
    have hknown := mem_switches_of_mem_spellings hmem
    dsimp only at hpiece
    split at hpiece
    · cases hpiece
      exact knows_switch hknown _ _
    split at hpiece
    · cases hpiece
      exact knows_switch hknown _ _
    · cases hpiece

theorem knows_of_part (h : grammar.part word = .ok piece) : grammar.Knows piece := by
  unfold part at h
  split at h
  · split at h
    · rename_i known hfind
      cases h
      exact knows_switch (mem_switches_of_find? hfind) _ _
    dsimp only at h
    split at h
    · cases h
      exact nofun
    split at h
    · rename_i known hfind
      cases h
      exact knows_switch (mem_switches_of_find? hfind) _ _
    split at h
    · rename_i spelling candidate hcandidates
      cases h
      exact knows_of_candidates hcandidates
    · split at h <;> cases h <;> exact nofun
    · cases h
  · cases h
    exact nofun

theorem knows_of_parts {words : List Text} (h : grammar.parts words = .ok pieces) :
    ∀ piece ∈ pieces, grammar.Knows piece.2 := by
  induction words generalizing pieces with
  | nil =>
    cases h
    exact nofun
  | cons word words ih =>
    rw [parts] at h
    split at h
    · cases h
      intro piece hpiece
      rcases List.mem_cons.1 hpiece with rfl | hpiece
      · exact nofun
      · obtain ⟨other, -, rfl⟩ := List.mem_map.1 hpiece
        exact nofun
    · obtain ⟨first, hfirst, h⟩ := exists_of_bind_eq_ok h
      obtain ⟨others, hothers, h⟩ := exists_of_bind_eq_ok h
      cases h
      exact List.forall_mem_cons.2 ⟨knows_of_part hfirst, ih hothers⟩

def Fits (grammar : Grammar) (entry : Text × Given) : Prop :=
  ∃ known ∈ grammar.switches, known.name = entry.1 ∧
    (known.kind = .text → ∃ text, entry.2 = .text text)

theorem fits_of_raise (hknown : known ∈ grammar.switches) (hflag : known.kind.takesValue = false)
    (h : raise known = .ok entry) : grammar.Fits entry := by
  rw [raise] at h
  split at h
  · cases h
  · cases h
    refine ⟨known, hknown, rfl, ?_⟩
    intro hkind
    rw [hkind] at hflag
    cases hflag

theorem fits_of_accept (hknown : known ∈ grammar.switches)
    (h : grammar.accept known text = .ok entry) : grammar.Fits entry := by
  rw [accept] at h
  split at h
  · rename_i hnumber
    split at h
    · cases h
      refine ⟨known, hknown, rfl, ?_⟩
      intro hkind
      rw [hkind] at hnumber
      cases hnumber
    · cases h
  split at h
  · cases h
    exact ⟨known, hknown, rfl, fun _ => ⟨text, rfl⟩⟩
  · cases h

/-- Switches of the grammar that take no value. -/
def Flags (grammar : Grammar) (flags : List Switch) : Prop :=
  ∀ flag ∈ flags, flag ∈ grammar.switches ∧ flag.kind.takesValue = false

theorem fits_of_mapM_raise {flags : List Switch} {given : List (Text × Given)}
    (hflags : grammar.Flags flags) (h : flags.mapM raise = .ok given) :
    ∀ entry ∈ given, grammar.Fits entry := by
  induction flags generalizing given with
  | nil =>
    cases h
    exact nofun
  | cons first others ih =>
    obtain ⟨⟨hfirst, hflag⟩, hothers⟩ := List.forall_mem_cons.1 hflags
    rw [List.mapM_cons] at h
    obtain ⟨entry, hentry, h⟩ := exists_of_bind_eq_ok h
    obtain ⟨entries, hentries, h⟩ := exists_of_bind_eq_ok h
    cases h
    exact List.forall_mem_cons.2 ⟨fits_of_raise hfirst hflag hentry, ih hothers hentries⟩

/-- What a word with switches ends with belongs to the grammar. -/
def Ending.Known (grammar : Grammar) : Ending → Prop
  | .value known _ => known ∈ grammar.switches
  | .alone known => known ∈ grammar.switches
  | .leftover _ => True

theorem of_unbundle {flags : List Switch} {ending : Ending} (hknown : known ∈ grammar.switches)
    (h : grammar.unbundle known short text = .ok (flags, ending)) :
    grammar.Flags flags ∧ ending.Known grammar := by
  induction text generalizing known short flags with
  | nil =>
    cases h
    exact ⟨nofun, hknown⟩
  | cons c rest ih =>
    rw [unbundle] at h
    split at h
    · cases h
      exact ⟨nofun, hknown⟩
    rename_i hflag
    have hfirst := And.intro hknown (Bool.eq_false_iff.2 hflag)
    split at h
    · cases h
    split at h
    · cases h
    split at h
    · cases h
      exact ⟨List.forall_mem_singleton.2 hfirst, trivial⟩
    · rename_i next hnext
      cases hrest : unbundle grammar next true rest with
      | error exit =>
        rw [hrest] at h
        cases h
      | ok answer =>
        rw [hrest] at h
        cases h
        obtain ⟨hinner, hending⟩ := ih (mem_switches_of_find? hnext) hrest
        exact ⟨List.forall_mem_cons.2 ⟨hfirst, hinner⟩, hending⟩

theorem of_alone (hknown : known ∈ grammar.switches)
    (h : grammar.alone known rest = .ok (entry, rest')) :
    grammar.Fits entry ∧ rest' <:+ rest := by
  unfold alone at h
  split at h
  · split at h
    · obtain ⟨accepted, haccept, h⟩ := exists_of_bind_eq_ok h
      cases h
      exact ⟨fits_of_accept hknown haccept, List.suffix_cons _ _⟩
    · cases h
  · rename_i hflag
    obtain ⟨raised, hraise, h⟩ := exists_of_bind_eq_ok h
    cases h
    exact ⟨fits_of_raise hknown (Bool.eq_false_iff.2 hflag) hraise, List.suffix_refl _⟩

/-- What a word with switches comes to, whatever has been read before it. -/
inductive SwitchStep (grammar : Grammar) (rest : List (Text × Part))
    (read : Reading → Except Exit (Reading × List (Text × Part))) : Prop
  | refused (exit : Exit) : (∀ reading, read reading = .error exit) → SwitchStep grammar rest read
  | taken (more : Reading) (rest' : List (Text × Part)) : rest' <:+ rest →
    (∀ entry ∈ more.given, grammar.Fits entry) →
    (∀ reading, read reading = .ok (reading.adding more, rest')) → SwitchStep grammar rest read

theorem readSwitch_step (hknown : known ∈ grammar.switches) (spelling tail : Text)
    (rest : List (Text × Part)) :
    SwitchStep grammar rest (grammar.readSwitch known spelling tail rest) := by
  unfold readSwitch
  cases hunbundle : grammar.unbundle known (isShort spelling) tail with
  | error exit => exact .refused exit fun _ => rfl
  | ok answer =>
    obtain ⟨flags, ending⟩ := answer
    obtain ⟨hflags, hending⟩ := of_unbundle hknown hunbundle
    cases hgiven : flags.mapM raise with
    | error exit =>
      cases ending with
      | alone last =>
        cases hcheck : grammar.checkAlone last rest with
        | error exit => exact .refused exit fun _ => by simp [bind, Except.bind, hcheck]
        | ok _ => exact .refused exit fun _ => by simp [bind, Except.bind, hcheck, hgiven]
      | value last text => exact .refused exit fun _ => by simp [bind, Except.bind, hgiven]
      | leftover text => exact .refused exit fun _ => by simp [bind, Except.bind, hgiven]
    | ok given =>
      have hfits := fits_of_mapM_raise hflags hgiven
      cases ending with
      | alone last =>
        cases hcheck : grammar.checkAlone last rest with
        | error exit => exact .refused exit fun _ => by simp [bind, Except.bind, hcheck]
        | ok _ =>
          cases halone : grammar.alone last rest with
          | error exit =>
            exact .refused exit fun _ => by simp [bind, Except.bind, hcheck, hgiven, halone]
          | ok taken =>
            obtain ⟨entry, rest'⟩ := taken
            obtain ⟨hentry, hsuffix⟩ := of_alone hending halone
            refine .taken { given := given ++ [entry] } rest' hsuffix ?_ ?_
            · exact List.forall_mem_append.2 ⟨hfits, List.forall_mem_singleton.2 hentry⟩
            · intro reading
              simp [bind, Except.bind, hcheck, hgiven, halone, Reading.adding, pure, Except.pure]
      | value last text =>
        cases haccept : grammar.accept last text with
        | error exit => exact .refused exit fun _ => by simp [bind, Except.bind, hgiven, haccept]
        | ok entry =>
          refine .taken { given := given ++ [entry] } rest (List.suffix_refl _) ?_ ?_
          · exact List.forall_mem_append.2
              ⟨hfits, List.forall_mem_singleton.2 (fits_of_accept hending haccept)⟩
          · intro reading
            simp [bind, Except.bind, hgiven, haccept, Reading.adding, pure, Except.pure]
      | leftover text =>
        refine .taken { given := given, extras := [text] } rest (List.suffix_refl _) hfits ?_
        intro reading
        simp [bind, Except.bind, hgiven, Reading.adding, pure, Except.pure]

theorem exists_fill (grammar : Grammar) (held : Option (List Text))
    (pieces : List (Text × Part)) :
    ∃ filled rest, rest <:+ pieces ∧ ∀ reading : Reading, reading.words = held →
      grammar.fill reading pieces = (reading.adding { words := filled }, rest) := by
  cases held with
  | some words =>
    refine ⟨none, pieces, List.suffix_refl _, ?_⟩
    intro reading hheld
    rw [fill, hheld, Reading.adding_empty]
  | none =>
    cases hsize : placeSize grammar.place pieces with
    | zero =>
      refine ⟨none, pieces, List.suffix_refl _, ?_⟩
      intro reading hheld
      rw [fill, hheld, hsize, Reading.adding_empty]
    | succ n =>
      refine ⟨some ((pieces.take (n + 1)).map (·.1)), pieces.drop (n + 1), List.drop_suffix _ _, ?_⟩
      intro reading hheld
      rw [fill, hheld, hsize]
      simp only [Reading.adding, hheld, List.append_nil, Option.none_or]

/-- What a step of the reading comes to. Of what has been read before, only the words for the place
have a part in it. -/
inductive Step (grammar : Grammar) (held : Option (List Text)) (pieces : List (Text × Part)) : Prop
  | refused (exit : Exit) :
    (∀ fuel reading, reading.words = held →
      grammar.readFrom (fuel + 1) pieces reading = .error exit) → Step grammar held pieces
  | ended (more : Reading) : (∀ entry ∈ more.given, grammar.Fits entry) →
    (∀ fuel reading, reading.words = held →
      grammar.readFrom (fuel + 1) pieces reading = .ok (reading.adding more)) →
    Step grammar held pieces
  | onward (more : Reading) (rest : List (Text × Part)) : rest <:+ pieces →
    rest.length < pieces.length → (∀ entry ∈ more.given, grammar.Fits entry) →
    (∀ fuel reading, reading.words = held →
      grammar.readFrom (fuel + 1) pieces reading =
        grammar.readFrom fuel rest (reading.adding more)) → Step grammar held pieces

theorem readFrom_plain {first : Text × Part} (hany : (first :: rest).any isSwitch = true)
    (hplain : isSwitch first = false) (fuel : Nat) (reading : Reading) :
    grammar.readFrom (fuel + 1) (first :: rest) reading =
      if (grammar.fill reading (first :: rest)).2.length < (first :: rest).length then
        grammar.readFrom fuel (grammar.fill reading (first :: rest)).2
          (grammar.fill reading (first :: rest)).1
      else
        grammar.readFrom fuel
          ((first :: rest).drop ((first :: rest).takeWhile (!isSwitch ·)).length)
          (reading.adding
            { extras := ((first :: rest).takeWhile (!isSwitch ·)).map (·.1) }) := by
  have hpassed (extras : List Text) :
      reading.adding { extras } = { reading with extras := reading.extras ++ extras } := by
    simp only [Reading.adding, List.append_nil, Option.or_none]
  obtain ⟨word, piece⟩ := first
  cases piece with
  | switch known spelling tail => cases hplain
  | word =>
    rw [readFrom.eq_def, hpassed]
    simp only [if_pos hany]
  | dashes =>
    rw [readFrom.eq_def, hpassed]
    simp only [if_pos hany]

theorem step (held : Option (List Text)) (h : ∀ piece ∈ pieces, grammar.Knows piece.2) :
    Step grammar held pieces := by
  cases hany : pieces.any isSwitch with
  | false =>
    obtain ⟨filled, rest, -, hfill⟩ := grammar.exists_fill held pieces
    refine .ended { words := filled, extras := rest.map (·.1) } nofun ?_
    intro fuel reading hheld
    have hnone : ¬ pieces.any isSwitch = true := Bool.eq_false_iff.1 hany
    rw [readFrom.eq_def]
    simp only [if_neg hnone, hfill reading hheld]
    simp only [Reading.adding, List.append_nil]
  | true =>
    cases pieces with
    | nil => cases hany
    | cons first rest =>
      cases hswitch : isSwitch first with
      | true =>
        obtain ⟨word, piece⟩ := first
        cases piece with
        | word => cases hswitch
        | dashes => cases hswitch
        | switch known? spelling tail =>
          cases known? with
          | none =>
            refine .onward { extras := [word] } rest (List.suffix_cons _ _)
              (Nat.lt_succ_self _) nofun ?_
            intro fuel reading _
            rw [readFrom, if_pos hany]
            simp only [Reading.adding, List.append_nil, Option.or_none]
          | some known =>
            have hknown : known ∈ grammar.switches :=
              h _ (List.mem_cons_self ..) known spelling tail rfl
            cases readSwitch_step hknown spelling tail rest with
            | refused exit hread =>
              refine .refused exit ?_
              intro fuel reading _
              rw [readFrom, if_pos hany]
              simp only [hread]
              rfl
            | taken more rest' hsuffix hfits hread =>
              refine .onward more rest' (hsuffix.trans (List.suffix_cons _ _))
                (Nat.lt_succ_of_le hsuffix.length_le) hfits ?_
              intro fuel reading _
              rw [readFrom, if_pos hany]
              simp only [hread]
              rfl
      | false =>
        obtain ⟨filled, left, hsuffix, hfill⟩ := grammar.exists_fill held (first :: rest)
        by_cases hless : left.length < (first :: rest).length
        · refine .onward { words := filled } left hsuffix hless nofun ?_
          intro fuel reading hheld
          rw [readFrom_plain hany hswitch, hfill reading hheld, if_pos hless]
        · refine .onward { extras := ((first :: rest).takeWhile (!isSwitch ·)).map (·.1) }
            ((first :: rest).drop ((first :: rest).takeWhile (!isSwitch ·)).length)
            (List.drop_suffix _ _) ?_ nofun ?_
          · rw [List.takeWhile_cons_of_pos (by rw [hswitch]; rfl), List.length_cons,
              List.drop_succ_cons]
            exact Nat.lt_succ_of_le (List.drop_suffix _ _).length_le
          · intro fuel reading hheld
            rw [readFrom_plain hany hswitch, hfill reading hheld, if_neg hless]

theorem readFrom_adding {early : Reading} (hearly : early.words = none)
    (h : ∀ piece ∈ pieces, grammar.Knows piece.2) {fuel fuel' : Nat} (hfuel : pieces.length < fuel)
    (hfuel' : pieces.length < fuel') (reading : Reading) :
    grammar.readFrom fuel' pieces (early.adding reading) =
      (grammar.readFrom fuel pieces reading).map early.adding := by
  induction fuel generalizing pieces fuel' reading with
  | zero => exact absurd hfuel (Nat.not_lt_zero _)
  | succ fuel ih =>
    obtain ⟨fuel', rfl⟩ := Nat.exists_eq_succ_of_ne_zero (Nat.ne_zero_of_lt hfuel')
    have hheld : (early.adding reading).words = reading.words := by
      rw [Reading.adding, hearly, Option.none_or]
    cases step reading.words h with
    | refused exit hstep =>
      rw [hstep fuel reading rfl, hstep fuel' _ hheld]
      rfl
    | ended more _ hstep =>
      rw [hstep fuel reading rfl, hstep fuel' _ hheld, Reading.adding_assoc]
      rfl
    | onward more rest hsuffix hless _ hstep =>
      rw [hstep fuel reading rfl, hstep fuel' _ hheld, Reading.adding_assoc]
      exact ih (fun piece hpiece => h piece (hsuffix.subset hpiece))
        (Nat.lt_of_lt_of_le hless (Nat.le_of_lt_succ hfuel))
        (Nat.lt_of_lt_of_le hless (Nat.le_of_lt_succ hfuel')) _

theorem fits_of_readFrom {result reading : Reading} {fuel : Nat}
    (h : ∀ piece ∈ pieces, grammar.Knows piece.2)
    (hfits : ∀ entry ∈ reading.given, grammar.Fits entry)
    (hread : grammar.readFrom fuel pieces reading = .ok result) :
    ∀ entry ∈ result.given, grammar.Fits entry := by
  induction fuel generalizing pieces reading with
  | zero =>
    cases hread
    exact hfits
  | succ fuel ih =>
    cases step reading.words h with
    | refused exit hstep => cases (hstep fuel reading rfl).symm.trans hread
    | ended more hmore hstep =>
      cases (hstep fuel reading rfl).symm.trans hread
      exact List.forall_mem_append.2 ⟨hfits, hmore⟩
    | onward more rest hsuffix _ hmore hstep =>
      rw [hstep fuel reading rfl] at hread
      exact ih (fun piece hpiece => h piece (hsuffix.subset hpiece))
        (List.forall_mem_append.2 ⟨hfits, hmore⟩) hread

theorem fits_of_read {words : List Text} {result : Reading} (h : grammar.read words = .ok result) :
    ∀ entry ∈ result.given, grammar.Fits entry := by
  obtain ⟨pieces, hpieces, h⟩ := exists_of_bind_eq_ok h
  obtain ⟨reading, hreading, h⟩ := exists_of_bind_eq_ok h
  split at h
  · cases h
  · cases h
    exact fits_of_readFrom (knows_of_parts hpieces) (List.forall_mem_nil _) hreading

/-- Words that are read in one step, whatever stands behind them. -/
structure Leads (grammar : Grammar) (lead : List Text) (early : Reading) : Prop where
  held : early.words = none
  reads : ∃ front, front ≠ [] ∧
    (∀ words, grammar.parts (lead ++ words) = (grammar.parts words).map (front ++ ·)) ∧
    ∀ fuel pieces,
      grammar.readFrom (fuel + 1) (front ++ pieces) {} = grammar.readFrom fuel pieces early

/-- Words in front of a command line change nothing of how it is read or refused. -/
theorem Leads.read {lead : List Text} {early : Reading} (hlead : grammar.Leads lead early)
    (words : List Text) : grammar.read (lead ++ words) = (grammar.read words).map early.adding := by
  obtain ⟨front, hne, hparts, hstep⟩ := hlead.reads
  rw [Grammar.read, Grammar.read, hparts]
  cases hpieces : grammar.parts words with
  | error exit => rfl
  | ok pieces =>
    have hfuel : pieces.length < 2 * pieces.length + 1 := by omega
    have hfuel' : pieces.length < 2 * (front ++ pieces).length := by
      have hpos := List.length_pos_iff.2 hne
      rw [List.length_append]
      omega
    have hlate := readFrom_adding hlead.held (knows_of_parts hpieces) hfuel hfuel' {}
    rw [Reading.adding_empty] at hlate
    simp only [bind, Except.bind, Except.map, hstep, hlate]
    cases grammar.readFrom (2 * pieces.length + 1) pieces {} with
    | error exit => rfl
    | ok result =>
      have hwords : (early.adding result).words = result.words := by
        rw [Reading.adding, hlead.held, Option.none_or]
      dsimp only
      rw [hwords]
      split <;> rfl

theorem parts_append_plain {values : List Text}
    (hvalues : ∀ value ∈ values, value ≠ ['-', '-'] ∧ grammar.part value = .ok .word)
    (words : List Text) : grammar.parts (values ++ words) =
      (grammar.parts words).map (values.map (·, .word) ++ ·) := by
  induction values with
  | nil => cases hpieces : grammar.parts words <;> exact hpieces
  | cons value values ih =>
    obtain ⟨⟨hne, hplain⟩, hrest⟩ := List.forall_mem_cons.1 hvalues
    rw [List.cons_append, parts, if_neg hne, hplain, ih hrest]
    cases grammar.parts words <;> rfl

theorem leads_cons {values : List Text} {early : Reading} (hheld : early.words = none)
    (hne : word ≠ ['-', '-']) (hpart : grammar.part word = .ok (.switch (some known) spelling tail))
    (hvalues : ∀ value ∈ values, value ≠ ['-', '-'] ∧ grammar.part value = .ok .word)
    (hread : ∀ rest, grammar.readSwitch known spelling tail (values.map (·, .word) ++ rest) {} =
      .ok (early, rest)) : grammar.Leads (word :: values) early := by
  refine ⟨hheld, (word, .switch (some known) spelling tail) :: values.map (·, .word),
    List.cons_ne_nil _ _, ?_, ?_⟩
  · intro words
    rw [List.cons_append, parts, if_neg hne, hpart, parts_append_plain hvalues]
    cases grammar.parts words <;> rfl
  · intro fuel pieces
    rw [List.cons_append, readFrom, if_pos (by rfl), hread]
    rfl

end Grammar

end Breadcrumb.Arguments
