import Breadcrumb.Proofs.Run.Sparing

namespace Breadcrumb

namespace Text

theorem lowerAt_ne_nil (before : Text) (c : Char) (behind : Text) : lowerAt before c behind ≠ [] := by
  rw [lowerAt]
  split
  · split <;> simp
  · split <;> simp

theorem lower_ne_nil (h : text ≠ []) : lower text ≠ [] := by
  cases text with
  | nil => exact (h rfl).elim
  | cons c behind => exact List.append_ne_nil_of_left_ne_nil (lowerAt_ne_nil _ _ _) _

end Text

/-- The settings that a settings file has and that can be asked for. -/
inductive Setting where
  | project
  | entry
  | linkBase
  | marker
  | format
  | output
  | included
  | excluded
  deriving DecidableEq

namespace Setting

def key : Setting → String
  | .project => "project"
  | .entry => "entry"
  | .linkBase => "source_prefix"
  | .marker => "marker"
  | .format => "format"
  | .output => "output"
  | .included => "include"
  | .excluded => "exclude"

/-- A setting is asked for, and not left empty. -/
def Asked (overrides : Overrides) : Setting → Prop
  | .project => overrides.project.getD [] ≠ []
  | .entry => overrides.entry.getD [] ≠ []
  | .linkBase => overrides.linkBase.getD [] ≠ []
  | .marker => overrides.marker.getD [] ≠ []
  | .format => overrides.format.getD [] ≠ []
  | .output => overrides.output ≠ none
  | .included => overrides.included ≠ []
  | .excluded => overrides.excluded ≠ []

/-- Whether the value in the settings file can be loaded: an integer must not be too long to be
written out, and a format must be one that there is. -/
def verdict (value? : Option Yaml.Value) : Setting → Except Settings.Fault Unit
  | .format => do
    let text? ← (Settings.text? value?).mapError Settings.Fault.unprintable
    let format := (Settings.orElse text? "markdown".toList).lower
    if Settings.isFormat format then return () else throw (.unsupportedFormat format)
  | .included | .excluded =>
    ((Settings.texts value?).mapError Settings.Fault.unprintable).map fun _ => ()
  | .project | .entry | .linkBase | .marker | .output =>
    ((Settings.text? value?).mapError Settings.Fault.unprintable).map fun _ => ()

end Setting

/-- Two answers that are the same, or else free to be anything but a fault. -/
def SameUnless {α ε : Type} (free : Prop) (answer answer' : Except ε α) : Prop :=
  answer' = answer ∨ free ∧ ∃ a a', answer = .ok a ∧ answer' = .ok a'

theorem SameUnless.mapError {α ε ε' : Type} {answer answer' : Except ε α}
    (h : SameUnless free answer answer') (f : ε → ε') : SameUnless free (answer.mapError f) (answer'.mapError f) := by
  rcases h with rfl | ⟨hfree, a, a', rfl, rfl⟩
  · exact .inl rfl
  · exact .inr ⟨hfree, a, a', rfl, rfl⟩

/-- Steps that come to the same after such answers come to the same altogether. -/
theorem SameUnless.map_bind {α β γ ε : Type} {answer answer' : Except ε α}
    {next next' : α → Except ε β} {f : β → γ} (h : SameUnless free answer answer')
    (hnext : ∀ a a', answer = .ok a → answer' = .ok a' → a' = a ∨ free →
      (next' a').map f = (next a).map f) :
    (answer' >>= next').map f = (answer >>= next).map f := by
  rcases h with rfl | ⟨hfree, a, a', rfl, rfl⟩
  · cases answer' with
    | error fault => rfl
    | ok a => exact hnext a a rfl rfl (.inl rfl)
  · exact hnext a a' rfl rfl (.inr hfree)

namespace Settings

variable {tree tree' : FileTree} {given : Path} {found : Place}
  {pairs pairs' : List (Yaml.Value × Yaml.Value)} {overrides : Overrides} {setting : Setting}

theorem override_congr (h : own' = own ∨ asked.getD [] ≠ []) :
    override asked own' = override asked own := by
  rcases h with rfl | h
  · rfl
  · match asked with
    | none => exact (h rfl).elim
    | some [] => exact (h rfl).elim
    | some (c :: text) => rfl

theorem orElse_congr (h : own' = own ∨ asked.getD [] ≠ []) :
    orElse asked own' = orElse asked own := by
  rcases h with rfl | h
  · rfl
  · match asked with
    | none => exact (h rfl).elim
    | some [] => exact (h rfl).elim
    | some (c :: text) => rfl

theorem overrideList_congr (h : own' = own ∨ asked ≠ []) :
    overrideList asked own' = overrideList asked own := by
  rcases h with rfl | h
  · rfl
  · rw [overrideList, overrideList, if_neg (by simpa using h), if_neg (by simpa using h)]

/-- Two mappings with the same settings but for one, whose values either both can be loaded or both
fail in the same way. -/
structure DifferOnly (setting : Setting) (pairs pairs' : List (Yaml.Value × Yaml.Value)) : Prop where
  same : ∀ other : Setting, other ≠ setting →
    Yaml.Value.get? pairs' other.key.toList = Yaml.Value.get? pairs other.key.toList
  verdict : setting.verdict (Yaml.Value.get? pairs' setting.key.toList) =
    setting.verdict (Yaml.Value.get? pairs setting.key.toList)

theorem sameUnless_of_error_iff {α : Type} {answer answer' : Except Unprintable α}
    (h : answer' = .error .tooManyDigits ↔ answer = .error .tooManyDigits) (hfree : free) :
    SameUnless free answer answer' := by
  cases answer with
  | ok a =>
    cases answer' with
    | ok a' => exact .inr ⟨hfree, a, a', rfl, rfl⟩
    | error fault => cases h.1 rfl
  | error fault => exact .inl (h.2 rfl)

theorem verdict_text_iff {value? : Option Yaml.Value} (setting : Setting)
    (htext : setting ≠ .included ∧ setting ≠ .excluded) :
    setting.verdict value? = .error (.unprintable .tooManyDigits) ↔
      text? value? = .error .tooManyDigits := by
  cases setting with
  | included => exact (htext.1 rfl).elim
  | excluded => exact (htext.2 rfl).elim
  | format =>
    rw [Setting.verdict]
    cases text? value? with
    | error fault => exact ⟨fun _ => rfl, fun _ => rfl⟩
    | ok text =>
      simp only [Except.mapError, bind, Except.bind]
      split <;> exact ⟨nofun, nofun⟩
  | _ =>
    rw [Setting.verdict]
    cases text? value? with
    | error fault => exact ⟨fun _ => rfl, fun _ => rfl⟩
    | ok text => exact ⟨nofun, nofun⟩

theorem verdict_texts_iff {value? : Option Yaml.Value} (setting : Setting)
    (hlist : setting = .included ∨ setting = .excluded) :
    setting.verdict value? = .error (.unprintable .tooManyDigits) ↔
      texts value? = .error .tooManyDigits := by
  have hverdict : setting.verdict value? =
      ((texts value?).mapError Fault.unprintable).map fun _ => () := by
    rcases hlist with rfl | rfl <;> rfl
  rw [hverdict]
  cases texts value? with
  | error fault => exact ⟨fun _ => rfl, fun _ => rfl⟩
  | ok text => exact ⟨nofun, nofun⟩

theorem DifferOnly.text (h : DifferOnly setting pairs pairs') (other : Setting)
    (htext : other ≠ .included ∧ other ≠ .excluded) :
    SameUnless (setting = other) (text? (Yaml.Value.get? pairs other.key.toList))
      (text? (Yaml.Value.get? pairs' other.key.toList)) := by
  by_cases hother : setting = other
  · subst hother
    refine sameUnless_of_error_iff ?_ rfl
    rw [← verdict_text_iff setting htext, ← verdict_text_iff setting htext, h.verdict]
  · rw [h.same other (Ne.symm hother)]
    exact .inl rfl

theorem DifferOnly.texts (h : DifferOnly setting pairs pairs') (other : Setting)
    (hlist : other = .included ∨ other = .excluded) :
    SameUnless (setting = other) (Settings.texts (Yaml.Value.get? pairs other.key.toList))
      (Settings.texts (Yaml.Value.get? pairs' other.key.toList)) := by
  by_cases hother : setting = other
  · subst hother
    refine sameUnless_of_error_iff ?_ rfl
    rw [← verdict_texts_iff setting hlist, ← verdict_texts_iff setting hlist, h.verdict]
  · rw [h.same other (Ne.symm hother)]
    exact .inl rfl

theorem DifferOnly.isFormat (h : DifferOnly setting pairs pairs')
    (hfound : text? (Yaml.Value.get? pairs "format".toList) = .ok own)
    (hfound' : text? (Yaml.Value.get? pairs' "format".toList) = .ok own')
    (hown : own' = own ∨ setting = .format) :
    let format := (orElse own "markdown".toList).lower
    let format' := (orElse own' "markdown".toList).lower
    format' = format ∨
      setting = .format ∧ Settings.isFormat format = true ∧ Settings.isFormat format' = true := by
  rcases hown with rfl | rfl
  · exact .inl rfl
  have hverdict := h.verdict
  rw [Setting.key, Setting.verdict, Setting.verdict, hfound, hfound'] at hverdict
  simp only [Except.mapError, bind, Except.bind] at hverdict
  split at hverdict <;> split at hverdict
  · rename_i hformat' hformat
    exact .inr ⟨rfl, hformat, hformat'⟩
  · cases hverdict
  · cases hverdict
  · exact .inl (Fault.unsupportedFormat.inj (Except.error.inj hverdict))

/-- Settings that differ only where something is asked for are the same under the overrides. -/
theorem merged_congr {settings settings' : Settings} (hroot : settings'.root = settings.root)
    (hproject : settings'.project = settings.project ∨ Setting.Asked overrides .project)
    (hentry : settings'.entry = settings.entry ∨ Setting.Asked overrides .entry)
    (hlinkBase : settings'.linkBase = settings.linkBase ∨ Setting.Asked overrides .linkBase)
    (hmarker : settings'.marker = settings.marker ∨ Setting.Asked overrides .marker)
    (hformat : settings'.format = settings.format ∨ Setting.Asked overrides .format)
    (houtput : settings'.output = settings.output ∨ Setting.Asked overrides .output)
    (hincluded : settings'.included = settings.included ∨ Setting.Asked overrides .included)
    (hexcluded : settings'.excluded = settings.excluded ∨ Setting.Asked overrides .excluded) :
    settings'.merged overrides = settings.merged overrides := by
  have houtput : overrides.output.orElse (fun _ => settings'.output) =
      overrides.output.orElse (fun _ => settings.output) := by
    rcases houtput with houtput | hasked
    · rw [houtput]
    · obtain ⟨path, hpath⟩ := Option.ne_none_iff_exists'.1 hasked
      rw [hpath]
      rfl
  simp only [merged, hroot, override_congr hproject, override_congr hentry, orElse_congr hlinkBase,
    override_congr hmarker, orElse_congr hformat, houtput, overrideList_congr hincluded,
    overrideList_congr hexcluded]

/-- What the mappings come to under the overrides is the same if the setting is asked for. -/
theorem merged_ofPairs (h : DifferOnly setting pairs pairs') (hasked : setting.Asked overrides)
    (root : Place) :
    (ofPairs root pairs').map (·.merged overrides) =
      (ofPairs root pairs).map (·.merged overrides) := by
  have hfree (other : Setting) (hother : setting = other) : other.Asked overrides := hother ▸ hasked
  unfold ofPairs
  refine ((h.text .format (by decide)).mapError _).map_bind ?_
  intro format format' hfound hfound' hformat
  have hsame := h.isFormat (eq_ok_of_mapError hfound) (eq_ok_of_mapError hfound') hformat
  dsimp only
  generalize (orElse format "markdown".toList).lower = own at hsame ⊢
  generalize (orElse format' "markdown".toList).lower = own' at hsame ⊢
  have hsupported : isFormat own' = isFormat own := by
    rcases hsame with rfl | ⟨-, htrue, htrue'⟩
    · rfl
    · rw [htrue, htrue']
  rw [hsupported]
  cases hcheck : isFormat own with
  | false =>
    rcases hsame with rfl | ⟨-, htrue, -⟩
    · rfl
    · rw [hcheck] at htrue
      cases htrue
  | true =>
    rw [if_neg (by decide), if_neg (by decide)]
    refine ((h.text .output (by decide)).mapError _).map_bind fun output output' _ _ houtput => ?_
    refine ((h.text .project (by decide)).mapError _).map_bind fun project project' _ _ hproject => ?_
    refine ((h.text .entry (by decide)).mapError _).map_bind fun entry entry' _ _ hentry => ?_
    refine ((h.text .linkBase (by decide)).mapError _).map_bind
      fun linkBase linkBase' _ _ hlinkBase => ?_
    refine ((h.text .marker (by decide)).mapError _).map_bind fun marker marker' _ _ hmarker => ?_
    refine ((h.texts .included (by decide)).mapError _).map_bind
      fun included included' _ _ hincluded => ?_
    refine ((h.texts .excluded (by decide)).mapError _).map_bind
      fun excluded excluded' _ _ hexcluded => ?_
    refine congrArg Except.ok (merged_congr rfl ?_ ?_ ?_ ?_ ?_ ?_ ?_ ?_)
    · exact hproject.imp id (hfree .project)
    · exact hentry.imp id (hfree .entry)
    · exact hlinkBase.imp (congrArg (orElse · [])) (hfree .linkBase)
    · exact hmarker.imp id (hfree .marker)
    · exact hsame.imp id fun hasks => hfree .format hasks.1
    · exact houtput.imp (by rintro rfl; rfl) (hfree .output)
    · exact hincluded.imp id (hfree .included)
    · exact hexcluded.imp id (hfree .excluded)

theorem asked_lower (h : setting.Asked overrides) :
    setting.Asked { overrides with format := overrides.format.map Text.lower } := by
  cases setting with
  | format =>
    change (overrides.format.map Text.lower).getD [] ≠ []
    change overrides.format.getD [] ≠ [] at h
    cases hformat : overrides.format with
    | none =>
      rw [hformat] at h
      exact (h rfl).elim
    | some text =>
      rw [hformat] at h
      exact Text.lower_ne_nil h
  | _ => exact h

theorem ofPairs_nil (root : Place) : ofPairs root [] = .ok { root } := rfl

theorem load_of_read (hfile : file tree given = .ok found) (hread : tree.read found.toPath = .ok bytes)
    (hdecode : Encoding.utf8.decode bytes = .ok text) :
    load tree given = (tree.resolve (Place.toPath found.dropLast)).mapError Fault.access >>=
      (ofText · found.toPath.name text.unixLines) := by
  have hexists : tree.exists? found.toPath = .ok true := FileTree.exists?_of_read hread
  rw [load, hfile]
  simp only [hexists, hread, hdecode, Except.mapError, bind, Except.bind]
  cases tree.resolve (Place.toPath found.dropLast) <;> rfl

theorem load_of_holds (hfile : file tree given = .ok found) (hholds : Holds tree found pairs) :
    load tree given =
      (tree.resolve (Place.toPath found.dropLast)).mapError Fault.access >>= (ofPairs · pairs) := by
  obtain ⟨bytes, text, hread, hdecode, hblank, hload⟩ := hholds
  have hpairs (root : Place) : ofText root found.toPath.name text.unixLines = ofPairs root pairs := by
    rw [ofText, if_neg (by simp [hblank]), hload]
    cases pairs with
    | nil => exact (ofPairs_nil root).symm
    | cons pair pairs => rfl
  simp only [load_of_read hfile hread hdecode, hpairs]

theorem file_matches (h : FileTree.Matches written tree tree') (given : Path) :
    file tree' given = file tree given := by
  simp only [file, h.forth.expandHome, h.isFolder?, h.resolve]

/-- A settings file in which only a setting differs that is asked for anyway. -/
theorem load_overridden (hmatches : FileTree.Matches written tree tree')
    (hfile : file tree given = .ok found) (hholds : Holds tree found pairs)
    (hholds' : Holds tree' found pairs') (h : DifferOnly setting pairs pairs')
    (hasked : setting.Asked overrides) :
    (load tree' given).map (·.merged overrides) = (load tree given).map (·.merged overrides) := by
  have hfile' := (file_matches hmatches given).trans hfile
  rw [load_of_holds hfile hholds, load_of_holds hfile' hholds', hmatches.resolve]
  cases tree.resolve (Place.toPath found.dropLast) with
  | error fault => rfl
  | ok root => exact merged_ofPairs h hasked root

end Settings

end Breadcrumb
