import Breadcrumb.Failure
import Breadcrumb.Proofs.World.Session

namespace Breadcrumb

theorem FileFault.kind_refused (errno : Errno) (path : Text) :
    (FileFault.refused errno path).kind ≠ .unexpected := by
  cases errno <;> exact nofun

namespace FileTree

variable {tree : FileTree} {path : Path} {fault : FileFault}

theorem eq_nullInPath_of_locate (h : tree.locate followLast path = .error fault) :
    fault = .nullInPath := by
  rw [locate] at h
  split at h
  · cases h
    rfl
  · split at h <;> cases h

theorem kind_ask (h : tree.ask question path = .error fault) : fault.kind ≠ .unexpected := by
  rw [ask] at h
  split at h
  · cases h
  · cases h
  · split at h
    · cases h
    · cases h
      exact FileFault.kind_refused _ _
  · cases h

theorem kind_openFile (h : tree.openFile path = .error fault) : fault.kind ≠ .unexpected := by
  rw [openFile] at h
  split at h
  · cases h
  · cases h
    exact FileFault.kind_refused _ _
  · cases h
  · cases h
    exact FileFault.kind_refused _ _
  · rename_i hlocate
    cases h
    rw [eq_nullInPath_of_locate hlocate]
    exact nofun

/-- A file that cannot be read is refused, or no file can have its path. -/
theorem of_read_eq_error (h : tree.read path = .error fault) :
    (∃ errno, fault = .refused errno path.toText) ∨ fault = .nullInPath := by
  rw [read] at h
  split at h
  · cases h
  · cases h
    exact .inl ⟨_, rfl⟩
  · cases h
    exact .inl ⟨_, rfl⟩
  · cases h
    exact .inl ⟨_, rfl⟩
  · rename_i hlocate
    cases h
    exact .inr (eq_nullInPath_of_locate hlocate)

theorem kind_read (h : tree.read path = .error fault) : fault.kind ≠ .unexpected := by
  rcases of_read_eq_error h with ⟨errno, rfl⟩ | rfl
  · exact FileFault.kind_refused _ _
  · exact nofun

theorem kind_write (h : tree.write path bytes = .error fault) : fault.kind ≠ .unexpected := by
  rw [write] at h
  cases hopen : tree.openFile path with
  | ok opened =>
    rw [hopen] at h
    cases h
  | error fault =>
    rw [hopen] at h
    cases h
    exact kind_openFile hopen

theorem kind_makeFolder (h : tree.makeFolder path = .error fault) : fault.kind ≠ .unexpected := by
  rw [makeFolder] at h
  split at h
  · cases h
  · cases h
    exact FileFault.kind_refused _ _
  · cases h
    exact FileFault.kind_refused _ _
  · rename_i hlocate
    cases h
    rw [eq_nullInPath_of_locate hlocate]
    exact nofun

theorem kind_excuse (h : tree.excuse path fault = some left) (hfault : fault.kind ≠ .unexpected) :
    left.kind ≠ .unexpected := by
  unfold excuse at h
  split at h
  · split at h
    · cases h
    · cases h
      exact hfault
    · rename_i hask
      cases h
      exact kind_ask hask
  · cases h
    exact hfault

theorem kind_ensureFolder (h : (tree.ensureFolder path).2 = some fault) :
    fault.kind ≠ .unexpected := by
  rw [ensureFolder] at h
  split at h
  · cases h
  · cases h
    exact FileFault.kind_refused _ _
  · rename_i hmake
    exact kind_excuse h (kind_makeFolder hmake)

theorem kind_ensureFoldersFrom (depth : Nat)
    (h : (tree.ensureFoldersFrom depth path).2 = some fault) : fault.kind ≠ .unexpected := by
  induction depth generalizing tree path fault with
  | zero => exact kind_ensureFolder h
  | succ depth ih =>
    rw [ensureFoldersFrom] at h
    split at h
    · split at h
      · exact kind_ensureFolder h
      · exact ih h
    · exact kind_ensureFolder h

theorem of_resolve_eq_error (h : tree.resolve path = .error fault) :
    fault = .nullInPath ∨ ∃ text, fault = .linkLoop text := by
  rw [resolve] at h
  split at h
  · cases h
    exact .inl rfl
  · dsimp only at h
    split at h
    · cases h
      exact .inr ⟨_, rfl⟩
    · cases h

theorem of_expandHome_eq_error (h : tree.expandHome path = .error fault) :
    fault = .nullInPath ∨ fault = .homeUnknown := by
  rw [expandHome] at h
  split at h
  · dsimp only at h
    split at h
    · cases h
    · split at h
      · cases h
        exact .inl rfl
      · cases h
        exact .inr rfl
  · cases h

end FileTree

end Breadcrumb
