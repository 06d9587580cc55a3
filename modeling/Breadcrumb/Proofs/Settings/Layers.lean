import Breadcrumb.Proofs.Settings.Overriding

namespace Breadcrumb

def firstFilled {α : Type} : List (List α) → List α
  | [] => []
  | [] :: rest => firstFilled rest
  | (a :: more) :: _ => a :: more

namespace Settings

variable {tree : FileTree} {path : Path} {root : Place} {settings : Settings}
  {pairs : List (Yaml.Value × Yaml.Value)} {overrides : Overrides}

/-- The pairs in the text of a settings file; a blank text and an empty value have none. -/
def pairs? (text : Text) : Option (List (Yaml.Value × Yaml.Value)) :=
  if text.trim.isEmpty then some []
  else
    match Yaml.load text with
    | .ok (.map pairs) => some pairs
    | .ok value => if value.isEmpty then some [] else none
    | .error _ => none

/-- The settings file for a path holds these pairs, or none of them is there to be read. -/
def Sets (tree : FileTree) (path : Path) (pairs : List (Yaml.Value × Yaml.Value)) : Prop :=
  ∃ place, file tree path = .ok place ∧
    (tree.exists? place.toPath = .ok false ∧ pairs = [] ∨
      ∃ bytes text, tree.read place.toPath = .ok bytes ∧ Encoding.utf8.decode bytes = .ok text ∧
        pairs? text.unixLines = some pairs)

theorem pairs?_of_ofText (h : ofText root name text = .ok settings) :
    ∃ pairs, pairs? text = some pairs ∧ ofPairs root pairs = .ok settings := by
  rcases of_ofText h with ⟨rfl, hblank | ⟨value, hload, hempty⟩⟩ | ⟨pairs, hblank, hload, hpairs⟩
  · exact ⟨[], if_pos hblank, rfl⟩
  · refine ⟨[], ?_, rfl⟩
    rw [pairs?, hload]
    split
    · rfl
    · cases value with
      | map pairs =>
        obtain rfl : pairs = [] := List.isEmpty_iff.1 hempty
        rfl
      | _ => simp only [hempty, if_true]
  · refine ⟨pairs, ?_, hpairs⟩
    rw [pairs?, if_neg (by simp [hblank]), hload]

theorem sets_of_load (h : load tree path = .ok settings) :
    ∃ root pairs, Sets tree path pairs ∧ ofPairs root pairs = .ok settings := by
  obtain ⟨place, hplace, h⟩ := exists_of_bind_eq_ok h
  obtain ⟨root, -, h⟩ := exists_of_bind_eq_ok h
  obtain ⟨present, hpresent, h⟩ := exists_of_bind_eq_ok h
  have hfile := eq_ok_of_mapError hplace
  cases present with
  | false => exact ⟨root, [], ⟨place, hfile, .inl ⟨eq_ok_of_mapError hpresent, rfl⟩⟩, h⟩
  | true =>
    obtain ⟨bytes, hread, h⟩ := exists_of_bind_eq_ok h
    obtain ⟨text, hdecode, h⟩ := exists_of_bind_eq_ok h
    obtain ⟨pairs, hpairs, hsettings⟩ := pairs?_of_ofText h
    exact ⟨root, pairs, ⟨place, hfile, .inr ⟨bytes, text, eq_ok_of_mapError hread,
      eq_ok_of_mapError hdecode, hpairs⟩⟩, hsettings⟩

def writtenText (pairs : List (Yaml.Value × Yaml.Value)) (key : String) : Text :=
  (text? (Yaml.Value.get? pairs key.toList)).toOption.join.getD []

def writtenTexts (pairs : List (Yaml.Value × Yaml.Value)) (key : String) : List Text :=
  (texts (Yaml.Value.get? pairs key.toList)).toOption.getD []

/-- Settings that come from what is asked for, from the pairs of a settings file and from the
defaults; an empty text or list is as good as none. -/
structure Layered (overrides : Overrides) (pairs : List (Yaml.Value × Yaml.Value))
    (settings : Settings) : Prop where
  project : settings.project.getD [] =
    firstFilled [overrides.project.getD [], writtenText pairs "project"]
  entry : settings.entry.getD [] =
    firstFilled [overrides.entry.getD [], writtenText pairs "entry"]
  linkBase : settings.linkBase =
    firstFilled [overrides.linkBase.getD [], writtenText pairs "source_prefix"]
  marker : settings.marker.getD [] =
    firstFilled [overrides.marker.getD [], writtenText pairs "marker"]
  format : settings.format = Text.lower
    (firstFilled [overrides.format.getD [], writtenText pairs "format", "markdown".toList])
  included : settings.included =
    firstFilled [overrides.included, writtenTexts pairs "include"]
  excluded : settings.excluded =
    firstFilled [overrides.excluded, writtenTexts pairs "exclude"]

theorem firstFilled_singleton {α : Type} (list : List α) : firstFilled [list] = list := by
  cases list <;> rfl

theorem firstFilled_cons {α : Type} (list : List α) (rest : List (List α)) :
    firstFilled [list, firstFilled rest] = firstFilled (list :: rest) := by
  cases list with
  | nil => exact firstFilled_singleton _
  | cons a more => rfl

theorem override_getD (asked own : Option Text) :
    (override asked own).getD [] = firstFilled [asked.getD [], own.getD []] := by
  match asked with
  | none => exact (firstFilled_singleton _).symm
  | some [] => exact (firstFilled_singleton _).symm
  | some (c :: text) => rfl

theorem orElse_eq_firstFilled (asked : Option Text) (own : Text) :
    orElse asked own = firstFilled [asked.getD [], own] := by
  match asked with
  | none => exact (firstFilled_singleton _).symm
  | some [] => exact (firstFilled_singleton _).symm
  | some (c :: text) => rfl

theorem orElse_nil (own : Option Text) : orElse own [] = own.getD [] := by
  match own with
  | none => rfl
  | some [] => rfl
  | some (c :: text) => rfl

theorem overrideList_eq_firstFilled (asked own : List Text) :
    overrideList asked own = firstFilled [asked, own] := by
  cases asked with
  | nil => exact (firstFilled_singleton _).symm
  | cons text asked => rfl

theorem lower_orElse (asked : Option Text) (own : Text) :
    orElse (asked.map Text.lower) own.lower = (orElse asked own).lower := by
  match asked with
  | none => rfl
  | some [] => rfl
  | some (c :: text) =>
    obtain ⟨d, more, hlower⟩ := List.exists_cons_of_ne_nil (Text.lower_ne_nil (List.cons_ne_nil c text))
    rw [Option.map_some, hlower]
    exact hlower.symm

theorem writtenText_eq {key : String} (h : text? (Yaml.Value.get? pairs key.toList) = .ok written) :
    writtenText pairs key = written.getD [] := by
  rw [writtenText, h]
  rfl

theorem writtenTexts_eq {key : String} (h : texts (Yaml.Value.get? pairs key.toList) = .ok written) :
    writtenTexts pairs key = written := by
  rw [writtenTexts, h]
  rfl

theorem layered_merged (h : ofPairs root pairs = .ok settings) (overrides : Overrides) :
    Layered overrides pairs
      (settings.merged { overrides with format := overrides.format.map Text.lower }) := by
  obtain ⟨format, _, project, entry, linkBase, marker, included, excluded, hformat, -, hproject,
    hentry, hlinkBase, hmarker, hincluded, hexcluded, rfl⟩ := of_ofPairs_eq_ok h
  constructor
  · rw [writtenText_eq hproject]
    exact override_getD _ _
  · rw [writtenText_eq hentry]
    exact override_getD _ _
  · rw [writtenText_eq hlinkBase, ← orElse_nil linkBase]
    exact orElse_eq_firstFilled _ _
  · rw [writtenText_eq hmarker]
    exact override_getD _ _
  · rw [writtenText_eq hformat]
    refine (lower_orElse _ _).trans (congrArg Text.lower ?_)
    rw [orElse_eq_firstFilled, orElse_eq_firstFilled, firstFilled_cons]
  · rw [writtenTexts_eq hincluded]
    exact overrideList_eq_firstFilled _ _
  · rw [writtenTexts_eq hexcluded]
    exact overrideList_eq_firstFilled _ _

end Settings

end Breadcrumb
