import Breadcrumb.Proofs.FileTree.Refusal
import Breadcrumb.Proofs.FileTree.Storing

namespace Breadcrumb

namespace Settings

variable {tree : FileTree} {place root : Place} {fault : Fault}

theorem of_ofPairs_eq_error {pairs : List (Yaml.Value × Yaml.Value)}
    (h : ofPairs root pairs = .error fault) :
    (∃ long, fault = .unprintable long) ∨ ∃ format, fault = .unsupportedFormat format := by
  have hlong {α : Type} {answer : Except Unprintable α}
      (hanswer : answer.mapError Fault.unprintable = .error fault) :
      (∃ long, fault = .unprintable long) ∨ ∃ format, fault = .unsupportedFormat format := by
    obtain ⟨long, -, rfl⟩ := mapError_eq_error_iff.1 hanswer
    exact .inl ⟨long, rfl⟩
  rcases bind_eq_error_iff.1 h with h | ⟨format, -, h⟩
  · exact hlong h
  dsimp only at h
  split at h
  · cases h
    exact .inr ⟨_, rfl⟩
  rcases bind_eq_error_iff.1 h with h | ⟨output, -, h⟩
  · exact hlong h
  rcases bind_eq_error_iff.1 h with h | ⟨project, -, h⟩
  · exact hlong h
  rcases bind_eq_error_iff.1 h with h | ⟨entry, -, h⟩
  · exact hlong h
  rcases bind_eq_error_iff.1 h with h | ⟨linkBase, -, h⟩
  · exact hlong h
  rcases bind_eq_error_iff.1 h with h | ⟨marker, -, h⟩
  · exact hlong h
  rcases bind_eq_error_iff.1 h with h | ⟨included, -, h⟩
  · exact hlong h
  rcases bind_eq_error_iff.1 h with h | ⟨excluded, -, h⟩
  · exact hlong h
  cases h

theorem kind_ofValue (h : ofValue root value = .error fault) : fault.kind ≠ .unexpected := by
  unfold ofValue at h
  split at h
  · cases h
  · split at h
    · rcases of_ofPairs_eq_error h with ⟨long, rfl⟩ | ⟨format, rfl⟩ <;> exact nofun
    · cases h
      exact nofun

theorem ofText_unexpected_iff {name text : Text} :
    ofText root name text = .error fault ∧ fault.kind = .unexpected ↔
      text.trim.isEmpty = false ∧ ∃ found : Yaml.Fault, Yaml.load text = .error found ∧
        found.kind = .unexpected ∧ fault = .value found := by
  constructor
  · rintro ⟨h, hkind⟩
    rw [ofText] at h
    split at h
    · cases h
    · rename_i hblank
      refine ⟨by simpa using hblank, ?_⟩
      split at h
      · exact (kind_ofValue h hkind).elim
      · cases h
        cases hkind
      · rename_i hload
        cases h
        exact ⟨_, hload, hkind, rfl⟩
  · rintro ⟨hblank, found, hload, hkind, rfl⟩
    refine ⟨?_, hkind⟩
    rw [ofText, hblank, hload]
    cases found with
    | malformed => cases hkind
    | _ => rfl

/-- Settings that are not told: there are links in a circle on the way to the settings file or to its
folder, or a scalar in it has no value. -/
inductive Astray (tree : FileTree) (place : Place) : Fault → Prop
  | file (text : Text) : file tree place.toPath = .error (.linkLoop text) →
    Astray tree place (.access (.linkLoop text))
  | root (found : Place) (text : Text) : Settings.file tree place.toPath = .ok found →
    tree.resolve (Place.toPath found.dropLast) = .error (.linkLoop text) →
    Astray tree place (.access (.linkLoop text))
  | scalar (found base : Place) (bytes : Bytes) (text : Text) (fault : Yaml.Fault) :
    Settings.file tree place.toPath = .ok found →
    tree.resolve (Place.toPath found.dropLast) = .ok base →
    tree.read found.toPath = .ok bytes → Encoding.utf8.decode bytes = .ok text →
    text.unixLines.trim.isEmpty = false → Yaml.load text.unixLines = .error fault →
    fault.kind = .unexpected → Astray tree place (.value fault)

theorem of_file_eq_error {fault : FileFault} (h : file tree place.toPath = .error fault)
    (hkind : fault.kind = .unexpected) : ∃ text, fault = .linkLoop text := by
  have hresolve {path : Path} (hfault : tree.resolve path = .error fault) :
      ∃ text, fault = .linkLoop text := by
    rcases FileTree.of_resolve_eq_error hfault with rfl | hloop
    · cases hkind
    · exact hloop
  rcases bind_eq_error_iff.1 h with h | ⟨path, -, h⟩
  · cases h
  rcases bind_eq_error_iff.1 h with h | ⟨folder, -, h⟩
  · exact (FileTree.kind_ask h hkind).elim
  split at h
  · exact hresolve h
  · split at h
    · exact hresolve h
    · exact hresolve h

theorem load_unexpected_iff :
    load tree place.toPath = .error fault ∧ fault.kind = .unexpected ↔ Astray tree place fault := by
  constructor
  · rintro ⟨h, hkind⟩
    rcases bind_eq_error_iff.1 h with h | ⟨found, hfile, h⟩
    · obtain ⟨access, haccess, rfl⟩ := mapError_eq_error_iff.1 h
      obtain ⟨text, rfl⟩ := of_file_eq_error haccess hkind
      exact .file text haccess
    have hfile := eq_ok_of_mapError hfile
    rcases bind_eq_error_iff.1 h with h | ⟨base, hbase, h⟩
    · obtain ⟨access, haccess, rfl⟩ := mapError_eq_error_iff.1 h
      rcases FileTree.of_resolve_eq_error haccess with rfl | ⟨text, rfl⟩
      · cases hkind
      · exact .root found text hfile haccess
    have hbase := eq_ok_of_mapError hbase
    rcases bind_eq_error_iff.1 h with h | ⟨present, -, h⟩
    · obtain ⟨access, haccess, rfl⟩ := mapError_eq_error_iff.1 h
      exact (FileTree.kind_ask haccess hkind).elim
    cases present with
    | false => cases h
    | true =>
      rcases bind_eq_error_iff.1 h with h | ⟨bytes, hread, h⟩
      · obtain ⟨access, haccess, rfl⟩ := mapError_eq_error_iff.1 h
        exact (FileTree.kind_read haccess hkind).elim
      rcases bind_eq_error_iff.1 h with h | ⟨text, hdecode, h⟩
      · obtain ⟨undecodable, -, rfl⟩ := mapError_eq_error_iff.1 h
        cases hkind
      obtain ⟨hblank, scalar, hload, hscalar, rfl⟩ := ofText_unexpected_iff.1 ⟨h, hkind⟩
      exact .scalar found base bytes text scalar hfile hbase (eq_ok_of_mapError hread)
        (eq_ok_of_mapError hdecode) hblank hload hscalar
  · intro hastray
    cases hastray with
    | file text hfile => exact ⟨by simp only [load, hfile, Except.mapError, bind, Except.bind], rfl⟩
    | root found text hfile hroot =>
      exact ⟨by simp only [load, hfile, hroot, Except.mapError, bind, Except.bind], rfl⟩
    | scalar found base bytes text scalar hfile hbase hread hdecode hblank hload hkind =>
      have hexists := FileTree.exists?_of_read hread
      have htext : ofText base found.toPath.name text.unixLines = .error (.value scalar) :=
        (ofText_unexpected_iff.2 ⟨hblank, scalar, hload, hkind, rfl⟩).1
      refine ⟨?_, hkind⟩
      simp only [load, hfile, hbase, hexists, hread, hdecode, htext, Except.mapError, bind,
        Except.bind, if_true]

end Settings

end Breadcrumb
