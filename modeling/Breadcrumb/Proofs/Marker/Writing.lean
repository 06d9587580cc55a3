import Breadcrumb.Proofs.Marker.Reading

namespace Breadcrumb

def Text.IsDigits (text : Text) : Prop := text ≠ [] ∧ ∀ c ∈ text, isAsciiDigit c = true

instance (text : Text) : Decidable text.IsDigits :=
  decidable_of_iff (text ≠ [] ∧ text.all Text.isAsciiDigit = true) <| by
    rw [Text.IsDigits, List.all_eq_true]

namespace Integer

/-- `text` is an integer literal with the digits `digits` and the value `n`. -/
inductive Spells : (digits text : Text) → (n : Int) → Prop
  | plain : digits.IsDigits → Spells digits digits (Nat.ofDigitChars 10 digits 0 : Nat)
  | plus : digits.IsDigits → Spells digits ('+' :: digits) (Nat.ofDigitChars 10 digits 0 : Nat)
  | minus : digits.IsDigits → Spells digits ('-' :: digits) (-(Nat.ofDigitChars 10 digits 0 : Nat))

variable {digits text field : Text} {n : Int}

theorem sign_of_isDigits (h : digits.IsDigits) : sign digits = (false, digits) := by
  unfold sign
  split
  · exact absurd (h.2 '-' List.mem_cons_self) (by decide)
  · exact absurd (h.2 '+' List.mem_cons_self) (by decide)
  · rfl

theorem Spells.isDigits (h : Spells digits text n) : digits.IsDigits := by
  cases h <;> assumption

theorem Spells.sign_eq (h : Spells digits text n) :
    ∃ negative, sign text = (negative, digits) ∧
      n = signed negative (Nat.ofDigitChars 10 digits 0) := by
  cases h with
  | plain h => exact ⟨false, sign_of_isDigits h, rfl⟩
  | plus h => exact ⟨false, rfl, rfl⟩
  | minus h => exact ⟨true, rfl, rfl⟩

theorem spells_of_sign (hsign : sign text = (negative, digits)) (h : digits.IsDigits) :
    Spells digits text (signed negative (Nat.ofDigitChars 10 digits 0)) := by
  unfold sign at hsign
  split at hsign
  · obtain ⟨rfl, rfl⟩ := Prod.mk.inj hsign
    exact .minus h
  · obtain ⟨rfl, rfl⟩ := Prod.mk.inj hsign
    exact .plus h
  · obtain ⟨rfl, rfl⟩ := Prod.mk.inj hsign
    exact .plain h

theorem Spells.isBlank_eq_false (h : Spells digits text n) (hc : c ∈ text) :
    Text.isBlank c = false := by
  have hdigit {c : Char} (hc : c ∈ digits) := Text.isBlank_of_isAsciiDigit (h.isDigits.2 c hc)
  cases h with
  | plain => exact hdigit hc
  | plus =>
    rcases List.mem_cons.1 hc with rfl | hc
    · decide
    · exact hdigit hc
  | minus =>
    rcases List.mem_cons.1 hc with rfl | hc
    · decide
    · exact hdigit hc

theorem Spells.notMem (h : Spells digits text n) (hc : Text.isAsciiDigit c = false)
    (hplus : c ≠ '+') (hminus : c ≠ '-') : c ∉ text := by
  have hdigit : c ∉ digits := fun hmem => Bool.false_ne_true (hc.symm.trans (h.isDigits.2 c hmem))
  cases h with
  | plain => exact hdigit
  | plus => exact List.not_mem_cons_of_ne_of_not_mem hplus hdigit
  | minus => exact List.not_mem_cons_of_ne_of_not_mem hminus hdigit

theorem Spells.read? (h : Spells digits field.trim n) : Integer.read? field =
    if maxDigits < digits.length then .error ⟨digits.length⟩ else .ok (some n) := by
  obtain ⟨negative, hsign, rfl⟩ := h.sign_eq
  have hdigits : (!digits.isEmpty && digits.all Text.isAsciiDigit) = true := by
    simpa [Text.IsDigits] using h.isDigits
  simp only [Integer.read?, hsign, hdigits, if_true, Text.number?_of_digits h.isDigits.2,
    Option.map_some]

theorem read?_of_not_spells (h : ∀ digits n, ¬ Spells digits field.trim n) :
    Integer.read? field = .ok none := by
  rcases hsign : sign field.trim with ⟨negative, digits⟩
  have hdigits : (!digits.isEmpty && digits.all Text.isAsciiDigit) = false := by
    rw [Bool.eq_false_iff]
    intro hall
    exact h digits _ (spells_of_sign hsign (by simpa [Text.IsDigits] using hall))
  simp only [Integer.read?, hsign, hdigits, Bool.false_eq_true, if_false]

theorem Spells.eq_some (h : Spells digits field.trim n) (hread : Integer.read? field = .ok n?) :
    n? = some n := by
  rw [h.read?] at hread
  split at hread
  · cases hread
  · cases hread
    rfl

theorem spells_of_read? (h : Integer.read? field = .ok (some n)) :
    ∃ digits, Spells digits field.trim n := by
  by_cases hspells : ∃ digits n, Spells digits field.trim n
  · obtain ⟨digits, m, hspells⟩ := hspells
    obtain rfl := Option.some.inj (hspells.eq_some h)
    exact ⟨digits, hspells⟩
  · rw [read?_of_not_spells fun digits n h => hspells ⟨digits, n, h⟩] at h
    cases h

theorem not_spells_of_read? (h : Integer.read? field = .ok none) (digits : Text) (n : Int) :
    ¬ Spells digits field.trim n := by
  intro hspells
  cases hspells.eq_some h

end Integer

namespace Marker

/-- What an author says with a marker. -/
structure Note where
  trail : Option (Text × Int) := none
  title : Text := []
  peek : Option Int := none
  description : Option Text := none

def Note.marker (note : Note) (outcomes : List Outcome) : Marker where
  trail := (note.trail.map (·.1)).getD []
  step := (note.trail.map (·.2)).getD 0
  title := note.title
  peek := note.peek.getD 0
  description := note.description
  outcomes := outcomes

/-- `field` holds `text`, which is trimmed and does not end the field, between blanks. -/
structure Holds (text field : Text) : Prop where
  trimmed : text.IsTrimmed
  unseparated : ';' ∉ text
  pads : Text.Pads text field

/-- `field` holds a literal of the integer `n`, not too long to be converted, between blanks. -/
def HoldsInt (n : Int) (field : Text) : Prop :=
  ∃ digits text, Integer.Spells digits text n ∧ digits.length ≤ Integer.maxDigits ∧
    Text.Pads text field

/-- The text cannot stand where a number of lines is looked for: it is the literal of a positive
integer, or of an integer with too many digits. -/
def IsCount (text : Text) : Prop :=
  ∃ digits n, Integer.Spells digits text n ∧ (0 < n ∨ Integer.maxDigits < digits.length)

/-- The field of a trail and its step. -/
inductive TrailField (name : Text) (step : Int) : Text → Prop
  | mk : Holds name left → '#' ∉ name → HoldsInt step right →
    TrailField name step (left ++ '#' :: right)

/-- The fields behind the title. Behind a description any further fields may stand. -/
inductive TailFields : (peek : Option Int) → (description : Option Text) → List Text → Prop
  | empty : TailFields none none []
  | count : HoldsInt count field → 0 < count → TailFields (some count) none [field]
  | text : Holds text field → ¬ IsCount text → (∀ other ∈ further, ';' ∉ other) →
    TailFields none (some text) (field :: further)
  | both : HoldsInt count field → 0 < count → Holds text field' →
    (∀ other ∈ further, ';' ∉ other) →
    TailFields (some count) (some text) (field :: field' :: further)

/-- The fields that the payload of a note may have. -/
inductive Fields : Note → List Text → Prop
  | alone : TrailField name number first → Fields { trail := some (name, number) } [first]
  | full : TrailField name number first → Holds text field → TailFields count? text? rest →
    Fields ⟨some (name, number), text, count?, text?⟩ (first :: field :: rest)
  | remark : Holds text field → '#' ∉ text → TailFields count? text? rest →
    Fields ⟨none, text, count?, text?⟩ (field :: rest)

/-- Payloads that say what the note says. -/
def Note.IsWritten (note : Note) (payload : Text) : Prop :=
  ∃ fields, Fields note fields ∧ payload = Text.join [';'] fields

variable {name text field first payload : Text} {rest fields : List Text} {marker : Marker}
  {n count step : Int} {n? count? : Option Int} {text? : Option Text} {note : Note}

theorem Holds.trim_eq (h : Holds text field) : field.trim = text := h.trimmed.trim_of_pads h.pads

theorem Holds.semicolon_notMem (h : Holds text field) : ';' ∉ field :=
  h.pads.notMem (by decide) h.unseparated

theorem HoldsInt.semicolon_notMem (h : HoldsInt n field) : ';' ∉ field := by
  obtain ⟨digits, text, hspells, -, hpads⟩ := h
  exact hpads.notMem (by decide) (hspells.notMem (by decide) (by decide) (by decide))

theorem HoldsInt.read? (h : HoldsInt n field) : Integer.read? field = .ok (some n) := by
  obtain ⟨digits, text, hspells, hlength, hpads⟩ := h
  have htrim : field.trim = text :=
    (Text.isTrimmed_of_forall fun _ => hspells.isBlank_eq_false).trim_of_pads hpads
  rw [(htrim ▸ hspells : Integer.Spells digits field.trim n).read?, if_neg (by omega)]

theorem Holds.read?_of_not_isCount (h : Holds text field) (hcount : ¬ IsCount text) :
    ∃ n?, Integer.read? field = .ok n? ∧ ∀ n ∈ n?, n ≤ 0 := by
  by_cases hspells : ∃ digits n, Integer.Spells digits field.trim n
  · obtain ⟨digits, n, hspells⟩ := hspells
    have hsmall : ¬ (0 < n ∨ Integer.maxDigits < digits.length) := fun hlarge =>
      hcount ⟨digits, n, h.trim_eq ▸ hspells, hlarge⟩
    refine ⟨some n, ?_, fun m hm => ?_⟩
    · rw [hspells.read?, if_neg (by omega)]
    · obtain rfl := Option.mem_some_iff.1 hm
      omega
  · refine ⟨none, Integer.read?_of_not_spells fun digits n h => hspells ⟨digits, n, h⟩, ?_⟩
    intro n hn
    cases hn

theorem withPeek_of_pos (hread : Integer.read? field = .ok (some count)) (hpos : 0 < count) :
    marker.withPeek (field :: rest) = .ok (withDescription
      { marker with
        peek := count
        outcomes := marker.outcomes ++ [⟨.peek, .parsed, Text.ofInt count⟩] } rest) := by
  simp only [withPeek, hread, Except.map, if_pos hpos]

theorem withPeek_of_nonpos (hread : Integer.read? field = .ok n?) (hn : ∀ n ∈ n?, n ≤ 0) :
    marker.withPeek (field :: rest) = .ok (withDescription
      { marker with outcomes := marker.outcomes ++ [⟨.peek, .defaulted, []⟩] } (field :: rest)) := by
  cases n? with
  | none => simp only [withPeek, hread, Except.map]
  | some n => simp only [withPeek, hread, Except.map, if_neg (Int.not_lt.2 (hn n rfl))]

theorem TailFields.withPeek (h : TailFields count? text? rest) (marker : Marker)
    (hpeek : marker.peek = 0) (hnone : marker.description = none) :
    ∃ outcomes, (∀ outcome ∈ outcomes, outcome.status ≠ .invalid) ∧
      marker.withPeek rest = .ok
        { marker with
          peek := count?.getD 0
          description := text?
          outcomes := marker.outcomes ++ outcomes } := by
  cases h with
  | empty =>
    refine ⟨[⟨.peek, .defaulted, []⟩, ⟨.description, .defaulted, []⟩], by decide, ?_⟩
    simp only [Marker.withPeek, withDescription, Option.getD_none, hpeek, hnone, List.append_assoc]
    rfl
  | @count count field hint hpos =>
    refine ⟨[⟨.peek, .parsed, Text.ofInt count⟩, ⟨.description, .defaulted, []⟩], by simp, ?_⟩
    rw [withPeek_of_pos hint.read? hpos]
    simp only [withDescription, Option.getD_some, hnone, List.append_assoc]
    rfl
  | text htext hcount _ =>
    obtain ⟨n?, hread, hn⟩ := htext.read?_of_not_isCount hcount
    refine ⟨[⟨.peek, .defaulted, []⟩, ⟨.description, .parsed, []⟩], by decide, ?_⟩
    rw [withPeek_of_nonpos hread hn]
    simp only [withDescription, htext.trim_eq, Option.getD_none, hpeek, List.append_assoc]
    rfl
  | @both count field text field' further hint hpos htext _ =>
    refine ⟨[⟨.peek, .parsed, Text.ofInt count⟩, ⟨.description, .parsed, []⟩], by simp, ?_⟩
    rw [withPeek_of_pos hint.read? hpos]
    simp only [withDescription, htext.trim_eq, Option.getD_some, List.append_assoc]
    rfl

theorem TailFields.withTitle (h : TailFields count? text? rest) (htitle : Holds text field)
    (marker : Marker) (hpeek : marker.peek = 0) (hnone : marker.description = none) :
    ∃ outcomes, (∀ outcome ∈ outcomes, outcome.status ≠ .invalid) ∧
      marker.withTitle (field :: rest) = .ok
        { marker with
          title := text
          peek := count?.getD 0
          description := text?
          outcomes := marker.outcomes ++ outcomes } := by
  let titled : Marker :=
    { marker with title := text, outcomes := marker.outcomes ++ [⟨.title, .parsed, text⟩] }
  obtain ⟨outcomes, hvalid, hread⟩ := h.withPeek titled hpeek hnone
  refine ⟨⟨.title, .parsed, text⟩ :: outcomes, ?_, ?_⟩
  · exact List.forall_mem_cons.2 ⟨by simp, hvalid⟩
  · rw [Marker.withTitle, htitle.trim_eq, hread, List.append_assoc]
    rfl

theorem TrailField.cut?_eq (h : TrailField name step first) :
    ∃ left right, first.cut? '#' = some (left, right) ∧ Holds name left ∧ HoldsInt step right := by
  cases h with
  | @mk left right hname hmark hstep =>
    exact ⟨left, right, Text.cut?_append (hname.pads.notMem (by decide) hmark) right, hname, hstep⟩

def ofStep (name : Text) (step : Int) : Marker where
  trail := name
  step := step
  outcomes := [⟨.trail, .parsed, name⟩, ⟨.step, .parsed, Text.ofInt step⟩]

theorem TrailField.ofFields_cons (h : TrailField name step first) (rest : List Text) :
    ofFields (first :: rest) = (ofStep name step).withTitle rest := by
  obtain ⟨left, right, hcut, hname, hstep⟩ := h.cut?_eq
  simp only [ofFields, hcut, ofTrail, hstep.read?, hname.trim_eq, Except.map, Except.bind, ofStep]

theorem ofFields_of_notMem (h : '#' ∉ first) (rest : List Text) :
    ofFields (first :: rest) = remark.withTitle (first :: rest) := by
  simp only [ofFields, Text.cut?_of_notMem h]

theorem Fields.ofFields (h : Fields note fields) :
    ∃ outcomes, (∀ outcome ∈ outcomes, outcome.status ≠ .invalid) ∧
      Marker.ofFields fields = .ok (note.marker outcomes) := by
  cases h with
  | @alone name step first hfirst =>
    rw [hfirst.ofFields_cons]
    exact ⟨_, by simp [ofStep], rfl⟩
  | @full name step first text field count? text? rest hfirst htitle htail =>
    obtain ⟨outcomes, hvalid, hread⟩ :=
      htail.withTitle htitle (ofStep name step) rfl rfl
    rw [hfirst.ofFields_cons, hread]
    exact ⟨_, List.forall_mem_append.2 ⟨by simp [ofStep], hvalid⟩, rfl⟩
  | remark htitle hmark htail =>
    obtain ⟨outcomes, hvalid, hread⟩ := htail.withTitle htitle Marker.remark rfl rfl
    rw [ofFields_of_notMem (htitle.pads.notMem (by decide) hmark), hread]
    exact ⟨_, List.forall_mem_append.2 ⟨by decide, hvalid⟩, rfl⟩

theorem TrailField.semicolon_notMem (h : TrailField name step first) : ';' ∉ first := by
  cases h with
  | mk hname _ hstep =>
    simp only [List.mem_append, List.mem_cons, not_or]
    exact ⟨hname.semicolon_notMem, by decide, hstep.semicolon_notMem⟩

theorem TailFields.semicolon_notMem (h : TailFields count? text? rest) :
    ∀ field ∈ rest, ';' ∉ field := by
  cases h with
  | empty => simp
  | count hint _ => simpa using hint.semicolon_notMem
  | text htext _ hfurther => exact List.forall_mem_cons.2 ⟨htext.semicolon_notMem, hfurther⟩
  | both hint _ htext hfurther =>
    exact List.forall_mem_cons.2
      ⟨hint.semicolon_notMem, List.forall_mem_cons.2 ⟨htext.semicolon_notMem, hfurther⟩⟩

theorem Fields.split_join (h : Fields note fields) :
    Text.split ';' (Text.join [';'] fields) = fields := by
  cases h with
  | alone hfirst => exact Text.split_join (by simp) (by simpa using hfirst.semicolon_notMem)
  | full hfirst htitle htail =>
    refine Text.split_join (by simp) ?_
    exact List.forall_mem_cons.2 ⟨hfirst.semicolon_notMem,
      List.forall_mem_cons.2 ⟨htitle.semicolon_notMem, htail.semicolon_notMem⟩⟩
  | remark htitle _ htail =>
    refine Text.split_join (by simp) ?_
    exact List.forall_mem_cons.2 ⟨htitle.semicolon_notMem, htail.semicolon_notMem⟩

/-- Reading undoes writing: the payload of a note is read as the note, and every field of it is
understood. -/
theorem parse_written (h : note.IsWritten payload) :
    ∃ outcomes, parse payload = .ok (note.marker outcomes) ∧ (note.marker outcomes).degraded = [] := by
  obtain ⟨fields, hfields, rfl⟩ := h
  obtain ⟨outcomes, hvalid, hread⟩ := hfields.ofFields
  refine ⟨outcomes, ?_, ?_⟩
  · rw [parse, hfields.split_join, hread]
  · rw [degraded, List.filter_eq_nil_iff]
    simpa [Note.marker] using hvalid

def requestNote : Note where
  trail := some ("api".toList, 3)
  title := "Handle #1".toList
  peek := some 4
  description := some "12".toList

def requestPayload : Text := " api\t# +03\u2003; Handle #1 ;04;12 ; more".toList

theorem isWritten_requestNote : requestNote.IsWritten requestPayload := by
  have hname : Holds "api".toList " api\t".toList :=
    ⟨by decide, by decide, Text.pads_of_all " ".toList "\t".toList rfl rfl rfl⟩
  have hstep : HoldsInt 3 " +03\u2003".toList :=
    ⟨"03".toList, "+03".toList, .plus (by decide), by decide,
      Text.pads_of_all " ".toList "\u2003".toList rfl rfl rfl⟩
  have htitle : Holds "Handle #1".toList " Handle #1 ".toList :=
    ⟨by decide, by decide, Text.pads_of_all " ".toList " ".toList rfl rfl rfl⟩
  have hcount : HoldsInt 4 "04".toList :=
    ⟨"04".toList, "04".toList, .plain (by decide), by decide, Text.pads_self _⟩
  have htext : Holds "12".toList "12 ".toList :=
    ⟨by decide, by decide, Text.pads_of_all [] " ".toList rfl rfl rfl⟩
  have htail : TailFields (some 4) (some "12".toList)
      ["04".toList, "12 ".toList, " more".toList] :=
    .both hcount (by decide) htext (by decide)
  exact ⟨_, .full (.mk hname (by decide) hstep) htitle htail, by decide⟩

theorem parse_written_requestNote :
    requestNote.IsWritten requestPayload ∧
      ∃ outcomes, parse requestPayload = .ok (requestNote.marker outcomes) ∧
        (requestNote.marker outcomes).degraded = [] :=
  ⟨isWritten_requestNote, parse_written isWritten_requestNote⟩

end Marker

end Breadcrumb
