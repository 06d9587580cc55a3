import Breadcrumb.Invocation
import Breadcrumb.Proofs.Arguments.Leading

namespace Breadcrumb

open Arguments

theorem Arguments.Reading.last?_adding (early later : Reading) (name : String) :
    (early.adding later).last? name = (later.last? name).or (early.last? name) := by
  simp only [last?, adding, List.reverse_append, List.find?_append, Option.map_or]

theorem Arguments.Reading.isSet_adding (early later : Reading) (name : String) :
    (early.adding later).isSet name = (later.isSet name || early.isSet name) := by
  rw [isSet, last?_adding, Option.isSome_or]
  rfl

namespace Invocation

variable {words lead : List Text} {file word : Text} {invocation : Invocation}
  {early outer : Reading}

def moreSaid : Reading := { given := [("verbose".toList, .flag)] }

def logKept (file : Text) : Reading := { given := [("log_file".toList, .text file)] }

theorem leads_verbose (hword : word ∈ verboseSwitch.spellings) :
    program.Leads [word] moreSaid := by
  have hspelling : word = "-v".toList ∨ word = "--verbose".toList := by
    simpa only [verboseSwitch, switch, List.map_cons, List.map_nil, List.mem_cons, List.not_mem_nil,
      or_false] using hword
  rcases hspelling with rfl | rfl
  · exact Grammar.leads_cons rfl (by decide) rfl (List.forall_mem_nil _) fun _ => rfl
  · exact Grammar.leads_cons rfl (by decide) rfl (List.forall_mem_nil _) fun _ => rfl

theorem leads_logFile (hfile : file.head? ≠ some '-') :
    program.Leads ["--log-file".toList, file] (logKept file) := by
  have hplain : program.part file = .ok .word := by
    unfold Grammar.part
    split
    · exact absurd rfl hfile
    · rfl
  have hne : file ≠ ['-', '-'] := by
    rintro rfl
    exact hfile rfl
  exact Grammar.leads_cons rfl (by decide) rfl (List.forall_mem_singleton.2 ⟨hne, hplain⟩)
    fun _ => rfl

theorem leads_logFile_joined (file : Text) :
    program.Leads ["--log-file=".toList ++ file] (logKept file) := by
  refine Grammar.leads_cons rfl ?_ rfl (List.forall_mem_nil _) fun _ => rfl
  intro h
  cases h

/-- What the words of a command line are read as: the switches of the program, the command's name
and the words behind it, none of which is left over. -/
theorem read_eq_ok_iff : read words = .ok invocation ↔ ∃ outer name rest grammar make inner,
    program.read words = .ok outer ∧ outer.words.getD [] = name :: rest ∧
      command? name = some (grammar, make) ∧ grammar.read rest = .ok inner ∧
      outer.extras ++ inner.extras = [] ∧
      invocation = {
        verbose := outer.isSet "verbose" || inner.isSet "verbose"
        logFile := outer.text? "log_file"
        command := make inner } := by
  constructor
  · intro h
    obtain ⟨outer, houter, h⟩ := exists_of_bind_eq_ok h
    split at h
    · cases h
    rename_i name rest hname
    split at h
    · cases h
    rename_i grammar make hcommand
    obtain ⟨inner, hinner, h⟩ := exists_of_bind_eq_ok h
    split at h
    · rename_i hextras
      cases h
      exact ⟨outer, name, rest, grammar, make, inner, houter, hname, hcommand, hinner, hextras, rfl⟩
    · cases h
  · rintro ⟨outer, name, rest, grammar, make, inner, houter, hname, hcommand, hinner, hextras, rfl⟩
    rw [read, houter]
    simp only [bind, Except.bind, hname, hcommand, hinner, hextras]
    rfl

theorem read_adding (hlead : program.Leads lead early) (hextras : early.extras = [])
    (houter : program.read words = .ok outer) :
    program.read (lead ++ words) = .ok (early.adding outer) ∧
      (early.adding outer).words = outer.words ∧ (early.adding outer).extras = outer.extras := by
  refine ⟨?_, ?_, ?_⟩
  · rw [hlead.read, houter]
    rfl
  · rw [Reading.adding, hlead.held, Option.none_or]
  · rw [Reading.adding, hextras, List.nil_append]

theorem read_lead_of_error (hlead : program.Leads lead early) (hextras : early.extras = [])
    (h : read words = .error exit) : read (lead ++ words) = .error exit := by
  cases houter : program.read words with
  | error first =>
    rw [read, houter] at h
    rw [read, hlead.read, houter]
    exact h
  | ok outer =>
    obtain ⟨hread, hwords, hextras⟩ := read_adding hlead hextras houter
    rw [read, houter] at h
    rw [read, hread]
    simp only [bind, Except.bind, hwords, hextras] at h ⊢
    split at h
    · exact h
    rename_i name rest hname
    split at h
    · exact h
    rename_i grammar make hcommand
    cases hinner : grammar.read rest with
    | error second =>
      rw [hinner] at h
      exact h
    | ok inner =>
      rw [hinner] at h
      dsimp only at h ⊢
      split at h
      · cases h
      · exact h

/-- What is set in front of a command line is added to what it sets itself. -/
theorem read_lead (hlead : program.Leads lead early) (hextras : early.extras = [])
    (h : read words = .ok invocation) : ∃ outer, program.read words = .ok outer ∧
      invocation.logFile = outer.text? "log_file" ∧
      read (lead ++ words) = .ok
        { invocation with
          verbose := invocation.verbose || early.isSet "verbose"
          logFile := (early.adding outer).text? "log_file" } := by
  obtain ⟨outer, name, rest, grammar, make, inner, houter, hname, hcommand, hinner, hnone, rfl⟩ :=
    read_eq_ok_iff.1 h
  obtain ⟨hread, hwords, hextras⟩ := read_adding hlead hextras houter
  refine ⟨outer, houter, rfl, read_eq_ok_iff.2 ⟨early.adding outer, name, rest, grammar, make,
    inner, hread, hwords ▸ hname, hcommand, hinner, hextras ▸ hnone, ?_⟩⟩
  rw [Reading.isSet_adding, Bool.or_right_comm]

theorem last?_log_file (h : program.read words = .ok outer)
    (hlast : outer.last? "log_file" = some given) : ∃ text, given = .text text := by
  obtain ⟨entry, hfind, rfl⟩ := Option.map_eq_some_iff.1 hlast
  have hfound := List.find?_some hfind
  have hname : entry.1 = "log_file".toList := of_decide_eq_true hfound
  have hmem := List.mem_reverse.1 (List.mem_of_find?_eq_some hfind)
  obtain ⟨known, hknown, hentry, htext⟩ := Grammar.fits_of_read h entry hmem
  apply htext
  rw [hname] at hentry
  have hkinds : ∀ known ∈ program.switches,
      known.name = "log_file".toList → known.kind = .text := by decide
  exact hkinds known hknown hentry

/-- A log file that the command line asks for itself comes last, and is the one that counts. -/
theorem read_lead_logFile (hlead : program.Leads lead (logKept file))
    (h : read words = .ok invocation) : read (lead ++ words) = .ok
      { invocation with logFile := invocation.logFile.or (some file) } := by
  obtain ⟨outer, houter, hlog, hread⟩ := read_lead hlead rfl h
  have hverbose : (logKept file).isSet "verbose" = false := rfl
  have hlogFile : ((logKept file).adding outer).text? "log_file" =
      invocation.logFile.or (some file) := by
    rw [hlog, Reading.text?, Reading.text?, Reading.last?_adding]
    cases hlast : outer.last? "log_file" with
    | none => rfl
    | some given =>
      obtain ⟨text, rfl⟩ := last?_log_file houter hlast
      rfl
  rw [hread, hlogFile, hverbose, Bool.or_false]

theorem read_lead_verbose (hword : word ∈ verboseSwitch.spellings)
    (h : read words = .ok invocation) : read (word :: words) = .ok { invocation with verbose := true } := by
  obtain ⟨outer, -, hlog, hread⟩ := read_lead (leads_verbose hword) rfl h
  have hverbose : moreSaid.isSet "verbose" = true := rfl
  have hlogFile : (moreSaid.adding outer).text? "log_file" = invocation.logFile := by
    have hlast : moreSaid.last? "log_file" = none := rfl
    rw [hlog, Reading.text?, Reading.last?_adding, hlast, Option.or_none]
    rfl
  rw [List.singleton_append] at hread
  rw [hread, hverbose, Bool.or_true, hlogFile]

end Invocation

end Breadcrumb
