import Breadcrumb.Cli
import Breadcrumb.Proofs.Run.Failing

namespace Breadcrumb

theorem FileFault.message_refused (errno : Errno) (path : Text) :
    (FileFault.refused errno path).message =
      "[Errno ".toList ++ Text.ofNat errno.code ++ "] ".toList ++ errno.wording ++ ": ".toList ++
        path.quoted := by
  delta FileFault.message
  dsimp only

theorem FileFault.message_ne_nil (fault : FileFault) : fault.message ≠ [] := by
  cases fault with
  | refused errno path =>
    rw [FileFault.message_refused]
    iterate 5 apply List.append_ne_nil_of_left_ne_nil
    decide
  | nullInPath => decide
  | linkLoop path => exact List.append_ne_nil_of_left_ne_nil (by decide) _
  | homeUnknown => decide

theorem Yaml.Fault.kind_cases (fault : Yaml.Fault) :
    fault.kind = .settings ∨ fault.kind = .unexpected ∨ fault.kind = .value := by
  cases fault with
  | codePoint code =>
    rw [Yaml.Fault.kind]
    split
    · exact .inr (.inl rfl)
    · exact .inr (.inr rfl)
  | malformed => exact .inl rfl
  | emptyNumber => exact .inr (.inl rfl)
  | boolean text => exact .inr (.inl rfl)
  | timestamp => exact .inr (.inl rfl)
  | _ => exact .inr (.inr rfl)

theorem Failure.message_ne_nil {failure : Failure}
    (h : failure.kind = .missing ∨ failure.kind = .notFolder) : failure.message ≠ [] := by
  cases failure with
  | projectMissing path => exact List.append_ne_nil_of_left_ne_nil (by decide) _
  | projectNotFolder path => exact List.append_ne_nil_of_left_ne_nil (by decide) _
  | access fault => exact fault.message_ne_nil
  | settings fault =>
    cases fault with
    | access fault => exact fault.message_ne_nil
    | value fault =>
      have hkind : (Failure.settings (.value fault)).kind = fault.kind := rfl
      rw [hkind] at h
      rcases fault.kind_cases with hfault | hfault | hfault <;> rw [hfault] at h <;>
        rcases h with h | h <;> cases h
    | _ => rcases h with h | h <;> cases h
  | expression rejection =>
    rw [Failure.kind] at h
    split at h <;> rcases h with h | h <;> cases h
  | _ => rcases h with h | h <;> cases h

namespace Cli

variable {answer : Remote.Request → Remote.Answer} {world : World} {tree : FileTree} {crash : Crash}

/-- A report that ends the program with exit code 1 and a message. -/
def Report.Refuses (report : Report) : Prop :=
  report.ending = .exited 1 ∧
    ∃ said message, message ≠ [] ∧ report.stderr = said ++ message ++ ['\n']

/-- How a report ends: by returning, with a refusal, or with a crash of some kind. -/
structure Report.Ends (report : Report) (Crashes : Crash → Prop) : Prop where
  handled : report.ending = .returned ∨ report.Refuses ∨
    ∃ crash, report.ending = .crashed crash
  crashed : ∀ crash, report.ending = .crashed crash ↔ Crashes crash

theorem ends_exit {message : Text} (h : message ≠ []) :
    (Report.exit world message).Ends fun _ => False :=
  ⟨.inr (.inl ⟨rfl, [], message, h, rfl⟩), fun _ => iff_of_false nofun id⟩

theorem ends_crash (world : World) (crash : Crash) :
    (Report.crash world crash).Ends (crash = ·) := by
  refine ⟨.inr (.inr ⟨crash, rfl⟩), ?_⟩
  intro other
  constructor
  · intro h
    cases h
    rfl
  · rintro rfl
    rfl

theorem ends_returned {report : Report} (h : report.ending = .returned) :
    report.Ends fun _ => False := by
  refine ⟨.inl h, fun _ => iff_of_false ?_ id⟩
  rw [h]
  exact nofun

theorem Report.Ends.congr {report : Report} {Crashes Crashes' : Crash → Prop}
    (h : report.Ends Crashes) (hcrashes : ∀ crash, Crashes crash ↔ Crashes' crash) :
    report.Ends Crashes' :=
  ⟨h.handled, fun crash => (h.crashed crash).trans (hcrashes crash)⟩

theorem scanFailed_ends (world : World) (failure : Failure) :
    (scanFailed world failure).Ends fun crash =>
      failure.kind = .unexpected ∧ crash = .run failure := by
  have hsaid : "codecrumbs scan failed: ".toList ++ failure.message ≠ [] :=
    List.append_ne_nil_of_left_ne_nil (by decide) _
  have hexpected {report : Report} {kind : Failure.Kind} (hkind : failure.kind = kind)
      (hne : kind ≠ .unexpected) (h : report.Ends fun _ => False) : report.Ends fun crash =>
        failure.kind = .unexpected ∧ crash = .run failure := by
    apply h.congr
    intro crash
    exact iff_of_false id fun hcrash => hne (hkind.symm.trans hcrash.1)
  rw [scanFailed]
  split
  · rename_i hkind
    exact hexpected hkind nofun (ends_exit (Failure.message_ne_nil (.inl hkind)))
  · rename_i hkind
    exact hexpected hkind nofun (ends_exit (Failure.message_ne_nil (.inr hkind)))
  · rename_i hkind
    exact hexpected hkind nofun (ends_exit hsaid)
  · rename_i hkind
    exact hexpected hkind nofun (ends_exit hsaid)
  · rename_i hkind
    exact hexpected hkind nofun (ends_exit (List.append_ne_nil_of_left_ne_nil hsaid _))
  · rename_i hkind
    apply (ends_crash world _).congr
    intro crash
    rw [eq_comm, and_iff_right hkind]

theorem scan_ends (world : World) (options : ScanOptions) :
    (scan world options).Ends fun crash => ∃ failure,
      Run.Unforeseen options.folder (overrides options) world failure ∧ crash = .run failure := by
  simp only [← Run.run_unexpected_iff .standard]
  rw [scan]
  split
  · rename_i failure after hrun
    apply (scanFailed_ends after failure).congr
    intro crash
    constructor
    · rintro ⟨hkind, rfl⟩
      exact ⟨failure, ⟨by rw [hrun], hkind⟩, rfl⟩
    · rintro ⟨other, ⟨hother, hkind⟩, rfl⟩
      rw [hrun] at hother
      cases hother
      exact ⟨hkind, rfl⟩
  · rename_i result after hrun
    have hreturned : ∀ report : Report, report.ending = .returned → report.Ends fun crash =>
        ∃ failure, (((Run.run .standard options.folder (overrides options)).run world).1 =
          .error failure ∧ failure.kind = .unexpected) ∧ crash = .run failure := by
      intro report hreport
      apply (ends_returned hreport).congr
      intro crash
      refine iff_of_false id ?_
      rintro ⟨failure, ⟨hfails, -⟩, -⟩
      rw [hrun] at hfails
      cases hfails
    split
    · exact hreturned _ rfl
    · exact hreturned _ rfl

def logPath (invocation : Invocation) : Option Path :=
  (Remote.nonempty invocation.logFile).map Path.ofText

def prepared (world : World) (tree : FileTree) (setup : Log.Setup) : World :=
  { world with tree, sink := setup.file, records := [] }

theorem Report.Ends.said {report : Report} {Crashes : Crash → Prop} (h : report.Ends Crashes)
    (before : Text) : Report.Ends { report with stderr := before ++ report.stderr } Crashes := by
  obtain ⟨hhandled, hcrashed⟩ := h
  refine ⟨?_, hcrashed⟩
  rcases hhandled with hreturned | ⟨hexit, said, message, hmessage, hstderr⟩ | hcrash
  · exact .inl hreturned
  · refine .inr (.inl ⟨hexit, before ++ said, message, hmessage, ?_⟩)
    rw [hstderr]
    simp only [List.append_assoc]
  · exact .inr (.inr hcrash)

def silent (_ : Remote.Request) : Remote.Answer := .success []

end Cli

end Breadcrumb
