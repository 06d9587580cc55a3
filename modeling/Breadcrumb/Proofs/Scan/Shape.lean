import Breadcrumb.Proofs.Marker.Parts
import Breadcrumb.Proofs.Pattern.Erasing
import Breadcrumb.Proofs.Scan.Bytes

namespace Breadcrumb

theorem Text.Unbroken.of_subset (h : Unbroken text) (hsubset : part ⊆ text) : Unbroken part :=
  fun c hc => h c (hsubset hc)

theorem Language.comment?_subset {language : Language} (h : language.comment? line = some comment) :
    comment ⊆ line := by
  obtain ⟨pattern, -, rfl⟩ := Option.map_eq_some_iff.1 h
  exact (pattern.erase_sublist line).subset

theorem Sigil.payload?_subset {sigil : Sigil} (h : sigil.payload? comment = some payload) :
    payload ⊆ comment := by
  obtain ⟨⟨start, stop⟩, hfound, rfl⟩ := Option.map_eq_some_iff.1 h
  exact (Pattern.find?_suffix hfound).subset

/-- A crumb as it comes out of a file of `count` lines. -/
structure Crumb.WellFormed (count : Nat) (crumb : Crumb) : Prop where
  title_unbroken : crumb.title.Unbroken
  title_trimmed : crumb.title.IsTrimmed
  title_unseparated : ';' ∉ crumb.title
  trail_unbroken : crumb.trail.Unbroken
  trail_trimmed : crumb.trail.IsTrimmed
  trail_unseparated : ';' ∉ crumb.trail
  trail_unmarked : '#' ∉ crumb.trail
  description_unbroken : ∀ text ∈ crumb.description, text.Unbroken
  peeked_unbroken : ∀ text ∈ crumb.peeked, text.Unbroken
  peek_nonneg : 0 ≤ crumb.peek
  /-- Lines are missing only where the file has no more of them. -/
  peeked_of_peek_pos : 0 < crumb.peek → crumb.line + crumb.peeked.length = count
  line_pos : 1 ≤ crumb.line
  line_le : crumb.line ≤ count

namespace Scan.Job

variable {job : Job} {lines : List Text} {i : Nat} {marker : Marker} {text comment payload : Text}

theorem subset_of_mem_leadingComments (h : comment ∈ job.leadingComments lines) :
    ∃ line ∈ lines, comment ⊆ line.trimLineEnd := by
  induction lines with
  | nil => exact absurd h List.not_mem_nil
  | cons raw rest ih =>
    rw [leadingComments] at h
    split at h
    · rename_i first hfirst
      rcases List.mem_cons.1 h with rfl | h
      · exact ⟨raw, List.mem_cons_self, Language.comment?_subset hfirst⟩
      · obtain ⟨line, hline, hsubset⟩ := ih h
        exact ⟨line, List.mem_cons_of_mem raw hline, hsubset⟩
    · exact absurd h List.not_mem_nil

theorem subset_of_payloadAt? (h : job.payloadAt? lines i = some payload) :
    ∃ line ∈ lines, payload ⊆ line.trimLineEnd := by
  obtain ⟨comment, hcomment, hpayload⟩ := Option.bind_eq_some_iff.1 h
  obtain ⟨raw, hraw, hcomment⟩ := Option.bind_eq_some_iff.1 hcomment
  exact ⟨raw, List.mem_of_getElem? hraw,
    List.Subset.trans (Sigil.payload?_subset hpayload) (Language.comment?_subset hcomment)⟩

theorem mem_window (h : text ∈ window lines i count) : ∃ line ∈ lines, text = line.trimLineEnd := by
  obtain ⟨line, hline, rfl⟩ := List.mem_map.1 h
  exact ⟨line, List.mem_of_mem_drop (List.mem_of_mem_take hline), rfl⟩

theorem length_window (lines : List Text) (i : Nat) (count : Int) :
    (window lines i count).length = min count.toNat (lines.length - (i + 1)) := by
  rw [window, List.length_map, List.length_take, List.length_drop]

theorem wellFormed_crumbAt (hlines : ∀ line ∈ lines, line.trimLineEnd.Unbroken)
    (hi : i < lines.length) (hmarker : job.markerAt? lines i = some marker) :
    (job.crumbAt lines i).WellFormed lines.length := by
  obtain ⟨payload, hpayload, hparse⟩ := markerAt?_eq_some.1 hmarker
  have hread := Marker.readFrom_parse hparse
  have hpeek := hread.peek_nonneg
  have hlength := length_window lines i marker.peek
  have hunbroken : payload.Unbroken := by
    obtain ⟨line, hline, hsubset⟩ := subset_of_payloadAt? hpayload
    exact (hlines line hline).of_subset hsubset
  have hcrumb : job.crumbAt lines i =
      { job.crumbAt lines i with
        title := marker.title
        trail := marker.trail
        description := marker.description.toList ++ job.leadingComments (lines.drop (i + 1))
        peek := marker.peek - (window lines i marker.peek).length
        peeked := window lines i marker.peek } := by
    simp only [crumbAt, hmarker, Option.getD_some]
  rw [hcrumb]
  constructor
  case title_unbroken => exact hunbroken.of_subset hread.title.subset
  case title_trimmed => exact hread.title.trimmed
  case title_unseparated => exact hread.title.unseparated
  case trail_unbroken => exact hunbroken.of_subset hread.trail.subset
  case trail_trimmed => exact hread.trail.trimmed
  case trail_unseparated => exact hread.trail.unseparated
  case trail_unmarked => exact hread.trailUnmarked
  case description_unbroken =>
    intro text htext
    rcases List.mem_append.1 htext with htext | htext
    · exact hunbroken.of_subset (hread.description text (Option.mem_toList.1 htext)).subset
    · obtain ⟨line, hline, hsubset⟩ := subset_of_mem_leadingComments htext
      exact (hlines line (List.mem_of_mem_drop hline)).of_subset hsubset
  case peeked_unbroken =>
    intro text htext
    obtain ⟨line, hline, rfl⟩ := mem_window htext
    exact hlines line hline
  case peek_nonneg =>
    simp only
    omega
  case peeked_of_peek_pos =>
    simp only [crumbAt]
    omega
  case line_pos =>
    simp only [crumbAt]
    omega
  case line_le =>
    simp only [crumbAt]
    omega

/-- A line that is no comment stands between two markers. -/
theorem crumbAt_lines_apart (h : job.ApartBelow lines lines.length) :
    ((job.marks lines).map (job.crumbAt lines)).Pairwise (·.line + 2 ≤ ·.line) := by
  refine List.pairwise_map.2 ((marks_sorted job lines).imp_of_mem ?_)
  intro i j hi hj hij
  obtain ⟨k, hik, hkj, -⟩ := h i j hij (lt_of_mem_marks hj) (mem_marks.1 hi) (mem_marks.1 hj)
  simp only [crumbAt]
  omega

/-- Whatever the bytes of a file are and whatever counts as a comment in it, the crumbs that the scan
gives are well formed, each in a run of comment lines of its own. -/
theorem scanBytes_wellFormed (job : Job) (encoding : Encoding) (bytes : Bytes)
    (h : (job.scanBytes encoding bytes).result = .ok crumbs) :
    ∃ text, encoding.decode bytes = .ok text ∧
      (∀ crumb ∈ crumbs, crumb.WellFormed text.cutLines.length) ∧
      crumbs.Pairwise (·.line + 2 ≤ ·.line) := by
  cases hdecode : encoding.decode bytes with
  | error fault =>
    obtain ⟨late, hlate⟩ := LineStream.read_of_decode_error LineStream.pieceSize hdecode
    obtain ⟨fault', hfault⟩ := job.exists_fault_of_fault? hlate
    rw [scanBytes, hfault] at h
    cases h
  | ok text =>
    rw [scanBytes, LineStream.read_of_decode LineStream.pieceSize hdecode] at h
    obtain ⟨hapart, hread, rfl⟩ := scan_of_ok h
    refine ⟨text, rfl, ?_, crumbAt_lines_apart hapart⟩
    intro crumb hcrumb
    obtain ⟨i, hi, rfl⟩ := List.mem_map.1 hcrumb
    obtain ⟨marker, hmarker⟩ := Option.isSome_iff_exists.1 (hread i hi)
    exact wellFormed_crumbAt (fun _ => Text.unbroken_trimLineEnd) (lt_of_mem_marks hi) hmarker

def twoRuns : Bytes :=
  Encoding.encode "// cc: Trip #2; Start; 1; first\r\nx = 1\n// more\r//CC: End ;9".toList

def twoRunsCrumbs : List Crumb :=
  [{ id := "0".toList, path := "a.go".toList, line := 1, language := "Go".toList
     title := "Start".toList, trail := "Trip".toList, step := 2
     description := ["first".toList], peeked := ["x = 1".toList] },
    { id := "1".toList, path := "a.go".toList, line := 4, language := "Go".toList
      title := "End".toList, peek := 9 }]

theorem scanBytes_wellFormed_twoRuns :
    (slashJob.scanBytes .utf8 twoRuns).result = .ok twoRunsCrumbs ∧
      ∃ text, Encoding.utf8.decode twoRuns = .ok text ∧
        (∀ crumb ∈ twoRunsCrumbs, crumb.WellFormed text.cutLines.length) ∧
        twoRunsCrumbs.Pairwise (·.line + 2 ≤ ·.line) := by
  have hscan : (slashJob.scanBytes .utf8 twoRuns).result = .ok twoRunsCrumbs := by decide +kernel
  exact ⟨hscan, scanBytes_wellFormed slashJob .utf8 twoRuns hscan⟩

end Scan.Job

end Breadcrumb
