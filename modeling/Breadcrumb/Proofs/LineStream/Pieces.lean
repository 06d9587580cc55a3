import Breadcrumb.LineStream
import Breadcrumb.Proofs.Encoding.Decoding
import Breadcrumb.Proofs.Text.Cutting

namespace Breadcrumb

namespace Decoder

variable {encoding : Encoding} {d e d' e' : Decoder} {bytes : Bytes}

def text? (encoding : Encoding) (d : Decoder) (bytes : Bytes) : Option Text :=
  ((d.feed encoding bytes).bind finish).toOption

/-- The decoders stand at the same place of a character, with `new` in front of what they had. -/
structure Alike (d e d' e' : Decoder) (new : Text) : Prop where
  part? : d'.part? = e'.part?
  out : d'.out = new ++ d.out
  out' : e'.out = new ++ e.out

theorem step_alike (encoding : Encoding) (h : d.part? = e.part?) (b : UInt8) :
    (∃ fault fault', d.step encoding b = .error fault ∧ e.step encoding b = .error fault') ∨
      ∃ d' e' new, d.step encoding b = .ok d' ∧ e.step encoding b = .ok e' ∧
        Alike d e d' e' new := by
  cases hpart : e.part? with
  | none =>
    simp only [step, h, hpart, start]
    split
    · exact .inr ⟨_, _, [_], rfl, rfl, rfl, rfl, rfl⟩
    · split
      · exact .inl ⟨_, _, rfl, rfl⟩
      · split
        · exact .inr ⟨_, _, [], rfl, rfl, rfl, rfl, rfl⟩
        · exact .inl ⟨_, _, rfl, rfl⟩
  | some part =>
    simp only [step, h, hpart]
    split
    · split
      · exact .inr ⟨_, _, [_], rfl, rfl, rfl, rfl, rfl⟩
      · exact .inr ⟨_, _, [], rfl, rfl, rfl, rfl, rfl⟩
    · exact .inl ⟨_, _, rfl, rfl⟩

theorem text?_alike (encoding : Encoding) (h : d.part? = e.part?) (bytes : Bytes) :
    ∃ rest? : Option Text, d.text? encoding bytes = rest?.map (d.out.reverse ++ ·) ∧
      e.text? encoding bytes = rest?.map (e.out.reverse ++ ·) := by
  induction bytes generalizing d e with
  | nil =>
    simp only [text?, feed, Except.bind, finish, h]
    cases e.part? with
    | none => exact ⟨some [], by simp [Except.toOption]⟩
    | some part => exact ⟨none, rfl, rfl⟩
  | cons b bytes ih =>
    rcases step_alike encoding h b with
      ⟨fault, fault', hd, he⟩ | ⟨d', e', new, hd, he, hpart, hout, hout'⟩
    · exact ⟨none, by simp [text?, feed, hd, Except.bind, Except.toOption],
        by simp [text?, feed, he, Except.bind, Except.toOption]⟩
    · obtain ⟨rest?, hd', he'⟩ := ih hpart
      have hdtext : d.text? encoding (b :: bytes) = d'.text? encoding bytes := by
        simp only [text?, feed, hd]
      have hetext : e.text? encoding (b :: bytes) = e'.text? encoding bytes := by
        simp only [text?, feed, he]
      refine ⟨rest?.map (new.reverse ++ ·), ?_, ?_⟩
      · rw [hdtext, hd', hout]
        cases rest? <;> simp
      · rw [hetext, he', hout']
        cases rest? <;> simp

theorem text?_nextPiece (encoding : Encoding) (d : Decoder) (bytes : Bytes) :
    d.text? encoding bytes = (d.nextPiece.text? encoding bytes).map (d.out.reverse ++ ·) := by
  obtain ⟨rest?, hd, hnext⟩ := @text?_alike d d.nextPiece encoding rfl bytes
  rw [hd, hnext]
  cases rest? <;> simp [nextPiece]

theorem text?_append_of_ok (h : d.feed encoding bytes = .ok d') (rest : Bytes) :
    d.text? encoding (bytes ++ rest) = d'.text? encoding rest := by
  induction bytes generalizing d with
  | nil =>
    cases h
    rfl
  | cons b bytes ih =>
    rw [feed] at h
    split at h
    · rename_i next hstep
      rw [← ih h, List.cons_append]
      simp only [text?, feed, hstep]
    · cases h

theorem text?_append_of_error (h : d.feed encoding bytes = .error fault) (rest : Bytes) :
    d.text? encoding (bytes ++ rest) = none := by
  induction bytes generalizing d with
  | nil => cases h
  | cons b bytes ih =>
    rw [feed] at h
    split at h
    · rename_i next hstep
      rw [← ih h, List.cons_append]
      simp only [text?, feed, hstep]
    · rename_i hstep
      rw [List.cons_append]
      simp only [text?, feed, hstep, Except.bind, Except.toOption]

end Decoder

namespace LineStream

variable {encoding : Encoding} {decoder : Decoder} {bytes : Bytes} {text : Text}

theorem flatten_pieces (size : Nat) (bytes : Bytes) : (pieces size bytes).flatten = bytes := by
  fun_induction pieces size bytes with
  | case1 => rfl
  | case2 b rest hsize => simp
  | case3 b rest hsize ih => rw [List.flatten_cons, ih, List.take_append_drop]

/-- The pieces of a text give its lines, behind those in the buffer. -/
theorem readFrom_of_some (buffer : LineBuffer) (pieces : List Bytes)
    (h : decoder.nextPiece.text? encoding pieces.flatten = some text) :
    readFrom encoding decoder buffer pieces = { lines := (buffer.feed text).finish } := by
  induction pieces generalizing decoder buffer text with
  | nil =>
    simp only [Decoder.text?, List.flatten_nil, Decoder.feed, Except.bind] at h
    rw [readFrom]
    cases hfinish : decoder.nextPiece.finish with
    | error fault => simp only [hfinish, Except.toOption, reduceCtorEq] at h
    | ok read =>
      simp only [hfinish, Except.toOption, Option.some.injEq] at h
      have hread : read = [] := by
        rw [Decoder.finish] at hfinish
        split at hfinish
        · cases hfinish
          rfl
        · cases hfinish
      rw [← h, hread]
      rfl
  | cons piece pieces ih =>
    rw [List.flatten_cons] at h
    cases hfeed : decoder.nextPiece.feed encoding piece with
    | error fault =>
      rw [Decoder.text?_append_of_error hfeed] at h
      cases h
    | ok next =>
      rw [Decoder.text?_append_of_ok hfeed, Decoder.text?_nextPiece] at h
      obtain ⟨rest, hrest, rfl⟩ := Option.map_eq_some_iff.1 h
      simp only [readFrom, hfeed]
      rw [ih _ hrest, LineBuffer.feed, LineBuffer.feed, LineBuffer.feed, List.foldl_append]

theorem readFrom_of_none (buffer : LineBuffer) (pieces : List Bytes)
    (h : decoder.nextPiece.text? encoding pieces.flatten = none) :
    ∃ fault, (readFrom encoding decoder buffer pieces).fault? = some fault := by
  induction pieces generalizing decoder buffer with
  | nil =>
    simp only [Decoder.text?, List.flatten_nil, Decoder.feed, Except.bind] at h
    rw [readFrom]
    cases hfinish : decoder.nextPiece.finish with
    | error fault => exact ⟨fault, rfl⟩
    | ok read => simp only [hfinish, Except.toOption, reduceCtorEq] at h
  | cons piece pieces ih =>
    rw [List.flatten_cons] at h
    simp only [readFrom]
    cases hfeed : decoder.nextPiece.feed encoding piece with
    | error fault =>
      simp only
      split
      · exact ⟨_, rfl⟩
      · exact ⟨_, rfl⟩
    | ok next =>
      rw [Decoder.text?_append_of_ok hfeed, Decoder.text?_nextPiece, Option.map_eq_none_iff] at h
      exact ih _ h

theorem text?_start (encoding : Encoding) (size : Nat) (bytes : Bytes) :
    (Decoder.nextPiece {}).text? encoding (pieces size bytes).flatten =
      (encoding.decode bytes).toOption := by
  rw [flatten_pieces]
  rfl

theorem read_of_decode (size : Nat) (h : encoding.decode bytes = .ok text) :
    read encoding size bytes = { lines := text.cutLines } := by
  have htext := text?_start encoding size bytes
  rw [h] at htext
  rw [read, readFrom_of_some {} _ htext, ← Text.rawLines_eq_cutLines, Text.rawLines]

theorem read_of_decode_error (size : Nat) (h : encoding.decode bytes = .error fault) :
    ∃ late, (read encoding size bytes).fault? = some late := by
  have htext := text?_start encoding size bytes
  rw [h] at htext
  exact readFrom_of_none {} _ htext

end LineStream

end Breadcrumb
