import Breadcrumb.Sigil
import Breadcrumb.Pattern.Compile
import Breadcrumb.Proofs.Pattern.Finding

namespace Breadcrumb

namespace Pattern

/-- The characters that have a meaning of their own in some expression. -/
def special : Text :=
  ['(', ')', '[', ']', '\x7b', '\x7d', '?', '*', '+', '-', '|', '^', '$', '\\', '.', '&', '~', '#',
    ' ', '\t', '\n', '\r', '\x0b', '\x0c']

def escapeChar (c : Char) : Text := if special.contains c then ['\\', c] else [c]

def escapeText (text : Text) : Text := text.flatMap escapeChar

theorem length_le_escapeText (text : Text) : text.length ≤ (escapeText text).length := by
  induction text with
  | nil => exact Nat.le_refl 0
  | cons c text ih =>
    have hchar : 1 ≤ (escapeChar c).length := by
      rw [escapeChar]
      split
      · exact Nat.le_succ 1
      · exact Nat.le_refl 1
    rw [escapeText, List.flatMap_cons, List.length_append, ← escapeText, List.length_cons]
    omega

namespace Reader

variable {α β : Type} {r r' : Reading} {rest tail : Text} {position : Nat} {c : Char} {mode : Mode}
  {first : Bool} {fuel : Nat} {soFar : List Piece}

theorem run_bind {x : Reader α} {f : α → Reader β} {a : α} (h : x.run r = .ok (a, r')) :
    (x >>= f).run r = (f a).run r' := by
  rw [StateT.run_bind, h]
  rfl

def symbol? : Text → Option Symbol
  | [] => none
  | '\\' :: c :: _ => some (.escaped c)
  | c :: _ => some (.plain c)

theorem symbol?_plain (hc : c ≠ '\\') : symbol? (c :: rest) = some (.plain c) := by
  rw [symbol?]
  exact fun _ _ he _ => hc he

theorem run_peek (r : Reading) : peek.run r = .ok (symbol? r.rest, r) := by
  rw [peek, run_bind rfl]
  fun_cases symbol? r.rest <;> simp_all
  all_goals rfl

theorem run_goTo (hrest : rest ≠ ['\\']) :
    (goTo rest position).run r = .ok ((), { r with rest, position }) := by
  rw [goTo]
  · rfl
  · exact hrest

theorem run_next_plain (hc : c ≠ '\\') (hrest : rest ≠ ['\\']) :
    next.run { rest := c :: rest, position } =
      .ok (some (.plain c), { rest, position := position + 1 }) := by
  rw [next, run_bind rfl]
  split
  · exact absurd ‹c :: rest = []› nofun
  · exact absurd (List.cons.inj ‹c :: rest = _›).1 hc
  · obtain ⟨rfl, rfl⟩ := List.cons.inj ‹c :: rest = _›
    rw [run_bind (run_goTo hrest)]
    rfl

theorem run_next_escaped (hrest : rest ≠ ['\\']) :
    next.run { rest := '\\' :: c :: rest, position } =
      .ok (some (.escaped c), { rest, position := position + 2 }) := by
  rw [next, run_bind rfl]
  simp only
  rw [run_bind (run_goTo hrest)]
  rfl

theorem escape_special (hc : c ∈ special) : escape mode c = pure (.literal mode c.toNat) := by
  simp only [special, List.mem_cons, List.not_mem_nil, or_false] at hc
  rcases hc with rfl | rfl | rfl | rfl | rfl | rfl | rfl | rfl | rfl | rfl | rfl | rfl | rfl | rfl |
    rfl | rfl | rfl | rfl | rfl | rfl | rfl | rfl | rfl | rfl <;> rfl

theorem run_pieces_plain (hc : c ∉ special) (hrest : rest ≠ ['\\']) (hmode : mode.verbose = false) :
    (pieces first (fuel + 1) mode soFar).run { rest := c :: rest, position } =
      (pieces first fuel mode (.item (.literal mode c.toNat) :: soFar)).run
        { rest, position := position + 1 } := by
  simp only [special, List.mem_cons, List.not_mem_nil, or_false, not_or] at hc
  have hbackslash : c ≠ '\\' := by simp [hc]
  have hanchor : anchorOf mode c = none := by simp [anchorOf, hc]
  rw [pieces, run_bind (run_peek _)]
  simp only [symbol?_plain hbackslash, Symbol.isPlain, Symbol.plain.injEq, hc, decide_false,
    Bool.or_false, Bool.false_eq_true, if_false]
  rw [run_bind (run_next_plain hbackslash hrest)]
  simp only [hmode, hanchor, Bool.false_and, Bool.false_eq_true, if_false]

theorem run_pieces_escaped (hc : c ∈ special) (hrest : rest ≠ ['\\']) :
    (pieces first (fuel + 1) mode soFar).run { rest := '\\' :: c :: rest, position } =
      (pieces first fuel mode (.item (.literal mode c.toNat) :: soFar)).run
        { rest, position := position + 2 } := by
  rw [pieces, run_bind (run_peek _)]
  simp only [symbol?, Symbol.isPlain, reduceCtorEq, decide_false, Bool.or_false, Bool.false_eq_true,
    if_false]
  rw [run_bind (run_next_escaped hrest)]
  simp only [escape_special hc, pure_bind]
  rfl

theorem run_pieces_end : (pieces first (fuel + 1) mode soFar).run { rest := [], position } =
    .ok ((sequence (soFar.reverse.map Piece.pattern), mode), { rest := [], position }) := by
  rw [pieces, run_bind (run_peek _)]
  rfl

/-- An escaped text is read as the literals of its characters. -/
theorem run_pieces_text (hmode : mode.verbose = false) (text : Text) (htail : 1 < tail.length) :
    (pieces first (fuel + text.length) mode soFar).run
        { rest := escapeText text ++ tail, position } =
      (pieces first fuel mode
        ((text.map fun c => Piece.item (.literal mode c.toNat)).reverse ++ soFar)).run
        { rest := tail, position := position + (escapeText text).length } := by
  induction text generalizing soFar position with
  | nil => rfl
  | cons c text ih =>
    have hrest : escapeText text ++ tail ≠ ['\\'] := fun he => by
      have hlength := congrArg List.length he
      rw [List.length_append, List.length_singleton] at hlength
      omega
    have hescape : escapeText (c :: text) = escapeChar c ++ escapeText text := List.flatMap_cons
    rw [hescape, List.append_assoc, List.length_cons, ← Nat.add_assoc, List.map_cons,
      List.reverse_cons, List.append_assoc, List.singleton_append]
    by_cases hc : c ∈ special
    · have hchar : escapeChar c = ['\\', c] := if_pos (List.contains_iff_mem.2 hc)
      rw [hchar, List.cons_append, List.singleton_append, run_pieces_escaped hc hrest, ih]
      rw [List.length_append, ← Nat.add_assoc]
      rfl
    · have hchar : escapeChar c = [c] := if_neg fun h => hc (List.contains_iff_mem.1 h)
      rw [hchar, List.singleton_append, run_pieces_plain hc hrest hmode, ih]
      rw [List.length_append, ← Nat.add_assoc]
      rfl

/-- Nothing follows that would make a repetition reluctant or possessive. -/
def Settled (tail : Text) : Prop :=
  tail ≠ ['\\'] ∧ ∀ c, symbol? tail = some (.plain c) → c ≠ '?' ∧ c ≠ '+'

theorem run_accept (h : (symbol? r.rest).any (·.isPlain c) = false) :
    (accept c).run r = .ok (false, r) := by
  have hnext : (nextIs c).run r = .ok (false, r) := by
    rw [nextIs, run_bind (run_peek r), h]
    rfl
  rw [accept, run_bind hnext]
  rfl

theorem run_greed (h : Settled r.rest) : greed.run r = .ok (.greedy, r) := by
  have hnot : ∀ c, c = '?' ∨ c = '+' → (symbol? r.rest).any (·.isPlain c) = false := by
    intro c hc
    cases hsymbol : symbol? r.rest with
    | none => rfl
    | some symbol =>
      refine decide_eq_false fun he => ?_
      obtain ⟨hquestion, hplus⟩ := h.2 c (he ▸ hsymbol)
      exact hc.elim hquestion hplus
  rw [greed, run_bind (run_accept (hnot _ (.inl rfl)))]
  change (accept '+' >>= _).run r = _
  rw [run_bind (run_accept (hnot _ (.inr rfl)))]
  rfl

theorem run_pieces_blank (h : Settled tail) :
    (pieces first (fuel + 2) { ignoreCase := true } soFar).run
        { rest := '\\' :: 's' :: '?' :: tail, position } =
      (pieces first fuel { ignoreCase := true } (.repeated Sigil.blank :: soFar)).run
        { rest := tail, position := position + 3 } := by
  rw [pieces, run_bind (run_peek _)]
  change (next >>= _).run _ = _
  rw [run_bind (run_next_escaped (by simp))]
  change (pieces first (fuel + 1) _ (.item (.set { ignoreCase := true } false
    [.category .space false]) :: soFar)).run _ = _
  rw [pieces, run_bind (run_peek _)]
  change (next >>= _).run _ = _
  rw [run_bind (run_next_plain (by decide) h.1)]
  have hrepeat (p : Pattern) (start position : Nat) :
      (repeatLast 0 (some 1) start (.item p :: soFar)).run { rest := tail, position } =
        .ok (.repeated p.optional :: soFar, { rest := tail, position }) := by
    rw [repeatLast, run_bind (run_greed (r := { rest := tail, position }) h)]
    rfl
  change (repeatLast 0 (some 1) _ _ >>= _).run _ = _
  rw [run_bind (hrepeat _ _ _)]
  rfl

theorem run_pieces_option (tail : Text) :
    (pieces true (fuel + 1) {} []).run { rest := '(' :: '?' :: 'i' :: ')' :: '\\' :: 's' :: tail } =
      (pieces true fuel { ignoreCase := true } []).run
        { rest := '\\' :: 's' :: tail, position := 4 } := by
  have hopening : (opening {} 0).run
        { rest := '?' :: 'i' :: ')' :: '\\' :: 's' :: tail, position := 1 } =
      .ok (.global { ignoreCase := true }, { rest := '\\' :: 's' :: tail, position := 4 }) := rfl
  rw [pieces, run_bind (run_peek _)]
  change (next >>= _).run _ = _
  rw [run_bind (run_next_plain (by decide) (by simp))]
  change StateT.run ((get : Reader Reading) >>= _) _ = _
  rw [run_bind rfl]
  change (opening {} 0 >>= _).run _ = _
  rw [run_bind hopening]
  rfl

end Reader

end Pattern

namespace Sigil

open Pattern Reader

/-- The expression of a sigil; the option in front says that case does not matter. -/
def expression (sigil : Sigil) : Text :=
  "(?i)\\s?".toList ++ (escapeText sigil.text.trim ++ "\\s?".toList)

theorem expression_eq (sigil : Sigil) : sigil.expression =
    '(' :: '?' :: 'i' :: ')' :: '\\' :: 's' :: '?' ::
      (escapeText sigil.text.trim ++ ['\\', 's', '?']) := rfl

def parts (word : Text) : List Pattern :=
  blank :: (word.map fun c => .literal { ignoreCase := true } c.toNat) ++ [blank]

theorem run_parts (sigil : Sigil) (cursor : Cursor) (k : Continuation) :
    (sequence (parts sigil.text.trim)).run cursor k = sigil.pattern.run cursor k := by
  rw [parts, List.cons_append, run_sequence_cons, pattern, run]
  refine congrArg (blank.run cursor) (funext fun next => ?_)
  rw [run_sequence_append, run]
  rfl

theorem ne_of_notMem {c d : Char} (hc : c ∉ special) (hd : d ∈ special) : c ≠ d :=
  fun he => hc (he ▸ hd)

theorem settled_escapeText {word : Text} (h : word ≠ []) :
    Settled (escapeText word ++ ['\\', 's', '?']) := by
  cases word with
  | nil => exact absurd rfl h
  | cons c word =>
    have hescape : escapeText (c :: word) = escapeChar c ++ escapeText word := List.flatMap_cons
    rw [hescape, List.append_assoc, escapeChar]
    refine ⟨fun he => ?_, fun d hd => ?_⟩
    · have hlength := congrArg List.length he
      rw [List.length_append, List.length_append, List.length_singleton] at hlength
      have hblank : ['\\', 's', '?'].length = 3 := rfl
      omega
    · by_cases hc : c ∈ special
      · rw [if_pos (List.contains_iff_mem.2 hc)] at hd
        exact absurd hd nofun
      · rw [if_neg fun hin => hc (List.contains_iff_mem.1 hin), List.singleton_append,
          symbol?_plain (ne_of_notMem hc (by decide))] at hd
        obtain rfl : c = d := Symbol.plain.inj (Option.some.inj hd)
        exact ⟨ne_of_notMem hc (by decide), ne_of_notMem hc (by decide)⟩

theorem map_pattern_pieces (word : Text) :
    (Piece.repeated blank ::
      ((word.map fun c => Piece.item (.literal { ignoreCase := true } c.toNat)).reverse ++
        [.repeated blank])).reverse.map Piece.pattern = parts word := by
  simp only [parts, List.reverse_cons, List.reverse_append, List.reverse_reverse, List.map_append,
    List.map_map, List.map_cons, List.map_nil, Function.comp_def, Piece.pattern, List.nil_append,
    List.cons_append, List.reverse_nil]

theorem run_pieces (sigil : Sigil) (fuel : Nat) : ∃ position,
    (pieces true (fuel + 6 + sigil.text.trim.length) {} []).run { rest := sigil.expression } =
      .ok ((sequence (parts sigil.text.trim), { ignoreCase := true }), { rest := [], position }) := by
  have hfuel : fuel + 6 + sigil.text.trim.length = fuel + 3 + sigil.text.trim.length + 2 + 1 := by
    omega
  have hend : Settled [] := ⟨nofun, nofun⟩
  rw [hfuel, expression_eq, run_pieces_option,
    run_pieces_blank (settled_escapeText sigil.notBlank), run_pieces_text rfl _ (by decide),
    run_pieces_blank hend]
  exact ⟨_, by rw [run_pieces_end, map_pattern_pieces]⟩

/-- A whole expression is read by its branches if it has no end of a group or late reference. -/
theorem parse_of_pieces {text : Text} {p : Pattern} {mode : Mode} {position fuel : Nat}
    (htext : text ≠ ['\\']) (hfuel : 4 * text.length + 8 = fuel + 1)
    (hpieces : (Reader.pieces true fuel {} []).run { rest := text } =
      .ok ((p, mode), { rest := [], position })) :
    parse text = .ok p := by
  have hbranches : (branches true (4 * text.length + 8) {} []).run { rest := text } =
      .ok (p, { rest := [], position }) := by
    rw [hfuel, branches]
    change (Reader.pieces true fuel {} [] >>= _).run _ = _
    rw [run_bind hpieces]
    rfl
  have hread : Reader.expression.run { rest := text } = .ok (p, { rest := [], position }) := by
    rw [Reader.expression, run_bind rfl,
      run_bind (run_goTo (r := { rest := text }) htext)]
    change (branches true (4 * text.length + 8) {} [] >>= _).run { rest := text } = _
    rw [run_bind hbranches]
    rfl
  rw [parse, hread]
  rfl

/-- The expression of a sigil is read as its parts. -/
theorem compile_expression (sigil : Sigil) :
    compile sigil.expression = .ok (sequence (parts sigil.text.trim)) := by
  have hlength : sigil.expression.length = (escapeText sigil.text.trim).length + 3 + 7 := by
    rw [expression_eq]
    simp only [List.length_cons, List.length_append, List.length_nil]
  have hword := length_le_escapeText sigil.text.trim
  obtain ⟨fuel, hfuel⟩ : ∃ fuel, 4 * sigil.expression.length + 8 =
      fuel + 6 + sigil.text.trim.length + 1 :=
    ⟨4 * sigil.expression.length + 1 - sigil.text.trim.length, by omega⟩
  have htext : sigil.expression ≠ ['\\'] := by simp [expression_eq]
  obtain ⟨position, hpieces⟩ := run_pieces sigil fuel
  rw [compile, parse_of_pieces htext hfuel hpieces]
  rfl

end Sigil

end Breadcrumb
