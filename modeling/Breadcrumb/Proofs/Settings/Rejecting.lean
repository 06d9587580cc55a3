import Breadcrumb.Proofs.Run.Shadowing

namespace Breadcrumb

namespace Settings

variable {tree : FileTree} {given : Path} {root : Place} {text : Text} {value : Yaml.Value}

/-- The settings file for a path is in the folder `root`, and this is what it says. -/
def Reads (tree : FileTree) (given : Path) (root : Place) (text : Text) : Prop :=
  ∃ found bytes decoded, file tree given = .ok found ∧
    tree.resolve (Place.toPath found.dropLast) = .ok root ∧ tree.read found.toPath = .ok bytes ∧
    Encoding.utf8.decode bytes = .ok decoded ∧ decoded.unixLines = text

theorem Reads.load_eq (h : Reads tree given root text) :
    ∃ name, load tree given = ofText root name text := by
  obtain ⟨found, bytes, decoded, hfile, hroot, hread, hdecode, rfl⟩ := h
  refine ⟨found.toPath.name, ?_⟩
  rw [load_of_read hfile hread hdecode, hroot]
  rfl

theorem ofValue_of_not_map (hmap : ∀ pairs, value ≠ .map pairs) :
    ofValue root value = if value.isEmpty then .ok { root } else .error .notMapping := by
  cases value with
  | map pairs => exact (hmap pairs rfl).elim
  | _ => rfl

/-- A settings file whose value is no mapping is refused, unless the text is blank or the value is
empty: then the settings are the defaults. -/
theorem load_of_not_map (tree : FileTree) (given : Path) (root : Place) (text : Text)
    (value : Yaml.Value) (hreads : Reads tree given root text) (hload : Yaml.load text = .ok value)
    (hmap : ∀ pairs, value ≠ .map pairs) :
    load tree given =
      if text.trim.isEmpty || value.isEmpty then .ok { root } else .error .notMapping := by
  obtain ⟨name, hname⟩ := hreads.load_eq
  rw [hname, ofText]
  cases text.trim.isEmpty with
  | true => rfl
  | false =>
    rw [hload]
    exact ofValue_of_not_map hmap

def listText : Text := "- \"a\"\n".toList

theorem load_listText : Yaml.load listText = .ok (.list [.scalar (.str "a".toList)]) := by cbv

theorem reads_settingsWorld (text : Text) (hlines : text.unixLines = text) :
    Reads (Run.settingsWorld text []).tree (Place.toPath ["p".toList]) ["p".toList] text :=
  ⟨Run.settingsPlace, Encoding.encode text, text, rfl, rfl, rfl, Encoding.decode_eq_ok_iff.2 rfl, hlines⟩

theorem load_of_not_map_listText :
    load (Run.settingsWorld listText []).tree (Place.toPath ["p".toList]) = .error .notMapping :=
  load_of_not_map _ _ _ listText _ (reads_settingsWorld _ (by cbv)) load_listText nofun

/-- The empty list is no mapping either, but the settings are the defaults. -/
theorem load_emptyList :
    Reads (Run.settingsWorld "[]".toList []).tree (Place.toPath ["p".toList]) ["p".toList] "[]".toList ∧
    Yaml.load "[]".toList = .ok (.list []) ∧
    load (Run.settingsWorld "[]".toList []).tree (Place.toPath ["p".toList]) =
      .ok { root := ["p".toList] } := by
  have hreads := reads_settingsWorld "[]".toList (by cbv)
  have hload : Yaml.load "[]".toList = .ok (.list []) := by cbv
  refine ⟨hreads, hload, ?_⟩
  obtain ⟨name, hname⟩ := hreads.load_eq
  rw [hname, ofText, hload]
  rfl

end Settings

end Breadcrumb
