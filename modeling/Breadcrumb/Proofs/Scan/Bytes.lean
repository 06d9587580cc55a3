import Breadcrumb.Proofs.LineStream.Pieces
import Breadcrumb.Proofs.Scan.Refinement

namespace Breadcrumb.Scan.Job

theorem exists_fault_of_fault? (job : Job) {stream : LineStream} (h : stream.fault? = some late) :
    ∃ fault, (job.scan stream).result = .error fault := by
  cases job.scan_ends stream with
  | complete apart read result =>
    rw [h] at result
    exact ⟨_, result⟩
  | clash first second clash result => exact ⟨_, result⟩
  | unread i payload fault marked unread result => exact ⟨_, result⟩

theorem scan_read_encode (job : Job) (size : Nat) (text : Text) :
    job.scan (.read .utf8 size (Encoding.encode text)) = job.scanLines text.cutLines := by
  rw [LineStream.read_of_decode size (Encoding.decode_eq_ok_iff.2 rfl), scanLines,
    LineStream.ofText]

theorem exists_fault_of_not_encode (job : Job) (size : Nat)
    (h : ∀ text, Encoding.encode text ≠ bytes) :
    ∃ fault, (job.scan (.read .utf8 size bytes)).result = .error fault := by
  cases hdecode : Encoding.utf8.decode bytes with
  | ok text => exact (h text (Encoding.decode_eq_ok_iff.1 hdecode)).elim
  | error fault =>
    obtain ⟨late, hlate⟩ := LineStream.read_of_decode_error size hdecode
    exact job.exists_fault_of_fault? hlate

/-- Bytes that encode a text are scanned like its lines, with the same crumbs or the same fault, in
pieces of any size; bytes that encode no text end in a fault wherever the defect lies. -/
theorem scanBytes_refines_scanLines (job : Job) (bytes : Bytes) :
    (∀ text, Encoding.encode text = bytes →
      job.scanBytes .utf8 bytes = job.scanLines text.cutLines ∧
        ∀ size, job.scan (.read .utf8 size bytes) = job.scanLines text.cutLines) ∧
    ((∀ text, Encoding.encode text ≠ bytes) →
      (∃ fault, (job.scanBytes .utf8 bytes).result = .error fault) ∧
        ∀ size, ∃ fault, (job.scan (.read .utf8 size bytes)).result = .error fault) := by
  refine ⟨?_, fun h => ⟨?_, fun size => ?_⟩⟩
  · rintro text rfl
    exact ⟨job.scan_read_encode LineStream.pieceSize text,
      fun size => job.scan_read_encode size text⟩
  · exact job.exists_fault_of_not_encode LineStream.pieceSize h
  · exact job.exists_fault_of_not_encode size h

def mixedText : Text := "// cc: 🧭 A; 1\r\nx\r// cc: B\n".toList

theorem scanBytes_refines_scanLines_mixed :
    slashJob.scan (.read .utf8 3 (Encoding.encode mixedText)) =
        slashJob.scanLines
          ["// cc: 🧭 A; 1\r\n".toList, "x\r".toList, "// cc: B\n".toList] ∧
      (∀ text, Encoding.encode text ≠ Encoding.encode mixedText ++ [0xFF]) ∧
      ∃ fault, (slashJob.scanBytes .utf8 (Encoding.encode mixedText ++ [0xFF])).result =
        .error fault := by
  have hlines : mixedText.cutLines =
      ["// cc: 🧭 A; 1\r\n".toList, "x\r".toList, "// cc: B\n".toList] := by decide
  have hdefect : ∀ text, Encoding.encode text ≠ Encoding.encode mixedText ++ [0xFF] := by
    intro text htext
    have hok := Encoding.decode_eq_ok_iff.2 htext
    have hfault : (Encoding.utf8.decode (Encoding.encode mixedText ++ [0xFF])).isOk = false := by
      decide
    rw [hok] at hfault
    cases hfault
  have hvalid := ((scanBytes_refines_scanLines slashJob _).1 mixedText rfl).2 3
  rw [hlines] at hvalid
  exact ⟨hvalid, hdefect, ((scanBytes_refines_scanLines slashJob _).2 hdefect).1⟩

end Breadcrumb.Scan.Job
