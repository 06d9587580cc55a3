import Breadcrumb.Proofs.Settings.Rejecting

namespace Breadcrumb

namespace Settings

open Yaml (Value)

variable {item : Value} {items : List Value} {own own' : List Text}

/-- The texts of items that are each read as a single setting is; items without one are left out. -/
def itemwise (items : List Value) : Except Unprintable (List Text) :=
  items.filterMapM fun item => text? (some item)

/-- The rule for the texts of a setting that is a list. -/
def listed : Option Value → Except Unprintable (List Text)
  | some (.scalar (.str text)) => .ok [text]
  | some (.list items) => itemwise items
  | _ => .ok []

def isTruth : Value → Bool
  | .scalar (.bool _) => true
  | _ => false

def spelledItem : Value → Value
  | .scalar (.bool true) => .scalar (.str "True".toList)
  | .scalar (.bool false) => .scalar (.str "False".toList)
  | item => item

/-- The value that the rule is applied to in place of another: truth values in a list are spelled
out, and bytes are a list of numbers. -/
def spelled : Value → Value
  | .list items => .list (items.map spelledItem)
  | .scalar (.binary bytes) => .list (bytes.map fun b => .scalar (.int b.toNat))
  | value => value

/-- A value whose texts are not those of the rule. A list with an item that is too long to be written
out has none by either. -/
inductive Departs : Value → Prop
  | truth (items : List Value) : items.any isTruth = true →
    (∀ item ∈ items, (text? (some item)).isOk = true) → Departs (.list items)
  | bytes (b : UInt8) (more : Bytes) : Departs (.scalar (.binary (b :: more)))

theorem spelledItem_of_not_isTruth (h : isTruth item = false) : spelledItem item = item := by
  unfold isTruth at h
  split at h
  · cases h
  · rename_i hvalue
    unfold spelledItem
    split
    · exact (hvalue true rfl).elim
    · exact (hvalue false rfl).elim
    · rfl

theorem text?_of_isTruth (h : isTruth item = true) : text? (some item) = .ok none ∧
    ∃ text, text? (some (spelledItem item)) = .ok (some text) := by
  unfold isTruth at h
  split at h
  · rename_i b
    cases b with
    | true => exact ⟨rfl, _, rfl⟩
    | false => exact ⟨rfl, _, rfl⟩
  · cases h

theorem itemText?_eq (item : Value) : itemText? item = text? (some (spelledItem item)) := by
  unfold itemText?
  split
  · rfl
  · rfl
  · rename_i htrue hfalse
    unfold spelledItem
    split
    · exact (htrue rfl).elim
    · exact (hfalse rfl).elim
    · rfl

theorem itemwise_cons (item : Value) (items : List Value) : itemwise (item :: items) =
    text? (some item) >>= fun text? => (itemwise items).map (text?.toList ++ ·) := by
  rw [itemwise, List.filterMapM_cons]
  cases text? (some item) with
  | error fault => rfl
  | ok text? =>
    cases text? with
    | none =>
      change itemwise items = (itemwise items).map fun texts => texts
      cases itemwise items <;> rfl
    | some text =>
      change (itemwise items >>= fun texts => pure (text :: texts)) = _
      cases itemwise items <;> rfl

theorem itemTexts_eq (items : List Value) : itemTexts items = itemwise (items.map spelledItem) := by
  induction items with
  | nil => rfl
  | cons item items ih =>
    rw [itemTexts, List.map_cons, itemwise_cons, ih, itemText?_eq]
    cases text? (some (spelledItem item)) with
    | error fault => rfl
    | ok text? => cases itemwise (items.map spelledItem) <;> rfl

theorem itemwise_isOk_iff : (itemwise items).isOk = true ↔
    ∀ item ∈ items, (text? (some item)).isOk = true := by
  induction items with
  | nil => exact ⟨fun _ => nofun, fun _ => rfl⟩
  | cons item items ih =>
    rw [itemwise_cons, List.forall_mem_cons, ← ih]
    cases text? (some item) with
    | error fault => exact ⟨nofun, fun h => h.1⟩
    | ok text? =>
      cases itemwise items with
      | error fault => exact ⟨nofun, fun h => h.2⟩
      | ok texts => exact ⟨fun _ => ⟨rfl, rfl⟩, fun _ => rfl⟩

theorem isOk_text?_spelledItem (item : Value) :
    (text? (some (spelledItem item))).isOk = (text? (some item)).isOk := by
  cases htruth : isTruth item with
  | false => rw [spelledItem_of_not_isTruth htruth]
  | true =>
    obtain ⟨hnone, text, htext⟩ := text?_of_isTruth htruth
    rw [hnone, htext]
    rfl

theorem isOk_itemwise_spelledItem (items : List Value) :
    (itemwise (items.map spelledItem)).isOk = (itemwise items).isOk := by
  rw [Bool.eq_iff_iff, itemwise_isOk_iff, itemwise_isOk_iff]
  simp only [List.forall_mem_map, isOk_text?_spelledItem]

theorem of_itemwise_cons (h : itemwise (item :: items) = .ok own) :
    ∃ own? rest, text? (some item) = .ok own? ∧ itemwise items = .ok rest ∧
      own = own?.toList ++ rest := by
  rw [itemwise_cons] at h
  obtain ⟨own?, hown, h⟩ := exists_of_bind_eq_ok h
  cases hrest : itemwise items with
  | error fault =>
    rw [hrest] at h
    cases h
  | ok rest =>
    rw [hrest] at h
    cases h
    exact ⟨own?, rest, hown, rfl, rfl⟩

theorem length_text?_spelledItem (h : text? (some item) = .ok own?)
    (hspelled : text? (some (spelledItem item)) = .ok own'?) :
    own'?.toList.length = own?.toList.length + if isTruth item then 1 else 0 := by
  cases htruth : isTruth item with
  | false =>
    rw [spelledItem_of_not_isTruth htruth, h] at hspelled
    cases hspelled
    rfl
  | true =>
    obtain ⟨hnone, text, htext⟩ := text?_of_isTruth htruth
    rw [hnone] at h
    rw [htext] at hspelled
    cases h
    cases hspelled
    rfl

theorem length_itemwise_spelledItem (h : itemwise items = .ok own)
    (hspelled : itemwise (items.map spelledItem) = .ok own') :
    own'.length = own.length + items.countP isTruth := by
  induction items generalizing own own' with
  | nil =>
    cases h
    cases hspelled
    rfl
  | cons item items ih =>
    obtain ⟨own?, rest, hown, hrest, rfl⟩ := of_itemwise_cons h
    obtain ⟨own'?, rest', hown', hrest', rfl⟩ := of_itemwise_cons hspelled
    have hitem := length_text?_spelledItem hown hown'
    have hitems := ih hrest hrest'
    rw [List.length_append, List.length_append, List.countP_cons]
    omega

theorem eq_of_not_isOk {α : Type} {answer answer' : Except Unprintable α}
    (h : answer.isOk = false) (h' : answer'.isOk = false) : answer = answer' := by
  cases answer with
  | ok a => cases h
  | error fault =>
    cases answer' with
    | ok a => cases h'
    | error fault' => rfl

theorem map_spelledItem (h : items.any isTruth = false) : items.map spelledItem = items := by
  refine (List.map_congr_left ?_).trans (List.map_id items)
  intro item hitem
  have hitem : isTruth item = false := by simpa using List.any_eq_false.1 h item hitem
  exact spelledItem_of_not_isTruth hitem

theorem itemwise_spelledItem_ne (h : items.any isTruth = true) (hown : itemwise items = .ok own) :
    itemwise (items.map spelledItem) ≠ .ok own := by
  intro hspelled
  have hlength := length_itemwise_spelledItem hown hspelled
  have hpos : 0 < items.countP isTruth := List.countP_pos_iff.2 (List.any_eq_true.1 h)
  omega

theorem itemwise_spelledItem_iff (items : List Value) :
    itemwise (items.map spelledItem) = itemwise items ↔ ¬ Departs (.list items) := by
  have hspelled := isOk_itemwise_spelledItem items
  constructor
  · intro hsame hdeparts
    cases hdeparts with
    | truth _ htruth hok =>
      rw [← itemwise_isOk_iff] at hok
      cases hown : itemwise items with
      | error fault =>
        rw [hown] at hok
        cases hok
      | ok own => exact itemwise_spelledItem_ne htruth hown (hsame.trans hown)
  · intro hkeeps
    cases htruth : items.any isTruth with
    | false => rw [map_spelledItem htruth]
    | true =>
      cases hok : (itemwise items).isOk with
      | true => exact (hkeeps (.truth items htruth (itemwise_isOk_iff.1 hok))).elim
      | false => exact eq_of_not_isOk (hspelled.trans hok) hok

theorem text?_byte (b : UInt8) :
    text? (some (.scalar (.int b.toNat))) = .ok (some (Text.ofNat b.toNat)) := by
  have hlength : (Text.ofNat b.toNat).length ≤ 3 :=
    (Nat.length_toDigits_le_iff (by decide) (by decide)).2 (Nat.lt_trans b.toNat_lt (by decide))
  have hshort : Integer.isPrintable b.toNat = true :=
    decide_eq_true (Nat.le_trans hlength (by decide))
  rw [text?, intText, Integer.written, List.all_cons, hshort]
  rfl

theorem itemwise_bytes (bytes : Bytes) :
    itemwise (bytes.map fun b => .scalar (.int b.toNat)) =
      .ok (bytes.map fun b => Text.ofNat b.toNat) := by
  induction bytes with
  | nil => rfl
  | cons b bytes ih =>
    rw [List.map_cons, itemwise_cons, ih, text?_byte]
    rfl

theorem texts_eq_listed (value? : Option Value) : texts value? = listed (value?.map spelled) := by
  cases value? with
  | none => rfl
  | some value =>
    cases value with
    | list items => exact itemTexts_eq items
    | scalar scalar =>
      cases scalar with
      | binary bytes => exact (itemwise_bytes bytes).symm
      | _ => rfl
    | _ => rfl

theorem listed_spelled_iff (value : Value) :
    listed (some (spelled value)) = listed (some value) ↔ ¬ Departs value := by
  cases value with
  | list items => exact itemwise_spelledItem_iff items
  | scalar scalar =>
    cases scalar with
    | binary bytes =>
      change itemwise _ = .ok [] ↔ _
      rw [itemwise_bytes]
      cases bytes with
      | nil => exact iff_of_true rfl nofun
      | cons b bytes => exact iff_of_false nofun fun hkeeps => hkeeps (.bytes b bytes)
    | _ => exact iff_of_true rfl nofun
  | _ => exact iff_of_true rfl nofun

/-- The texts of every value are those that the rule gives for it when it is spelled out. They are
those that the rule gives for the value itself exactly if it is no list with truth values among items
that can all be written out, and no bytes. These are the lists in the settings that are loaded. -/
theorem texts_listed (value? : Option Value) :
    texts value? = listed (value?.map spelled) ∧
    (texts value? = listed value? ↔ ∀ value ∈ value?, ¬ Departs value) ∧
    ∀ tree path found pairs settings, file tree path = .ok found → Holds tree found pairs →
      load tree path = .ok settings →
      (Value.get? pairs "include".toList = value? → texts value? = .ok settings.included) ∧
      (Value.get? pairs "exclude".toList = value? → texts value? = .ok settings.excluded) := by
  refine ⟨texts_eq_listed value?, ?_, ?_⟩
  · rw [texts_eq_listed]
    cases value? with
    | none => exact iff_of_true rfl nofun
    | some value =>
      simp only [Option.mem_some, forall_eq']
      exact listed_spelled_iff value
  · intro tree path found pairs settings hfile hholds hload
    rw [load_of_holds hfile hholds] at hload
    obtain ⟨root, -, hpairs⟩ := exists_of_bind_eq_ok hload
    obtain ⟨_, _, _, _, _, _, included, excluded, -, -, -, -, -, -, hincluded, hexcluded, rfl⟩ :=
      of_ofPairs_eq_ok hpairs
    constructor
    · rintro rfl
      exact hincluded
    · rintro rfl
      exact hexcluded

def mixedText : Text := "include: [true, \"a\"]\nexclude: [\"b\", [\"c\"]]\n".toList

def mixedPairs : List (Value × Value) :=
  [(.scalar (.str "include".toList), .list [.scalar (.bool true), .scalar (.str "a".toList)]),
    (.scalar (.str "exclude".toList),
      .list [.scalar (.str "b".toList), .list [.scalar (.str "c".toList)]])]

theorem tokens_mixedText : (Yaml.tokens mixedText).toOption =
    some [.blockMapping, .key, .scalar "include".toList true, .value, .flowSequence,
      .scalar "true".toList true, .flowEntry, .scalar "a".toList false, .flowSequenceEnd, .key,
      .scalar "exclude".toList true, .value, .flowSequence, .scalar "b".toList false, .flowEntry,
      .flowSequence, .scalar "c".toList false, .flowSequenceEnd, .flowSequenceEnd, .blockEnd,
      .streamEnd] := by cbv

/-- The forms of the plain scalars are left to be settled one by one. -/
theorem node_mixedText : Yaml.Node.ofText? mixedText = .ok (some (.mapping .map
    [(.scalar (Yaml.Tag.ofForm "include".toList) "include".toList, .sequence .seq
        [.scalar (Yaml.Tag.ofForm "true".toList) "true".toList, .scalar .str "a".toList]),
      (.scalar (Yaml.Tag.ofForm "exclude".toList) "exclude".toList, .sequence .seq
        [.scalar .str "b".toList, .sequence .seq [.scalar .str "c".toList]])])) := by
  have htokens := tokens_mixedText
  rw [Yaml.Node.ofText?]
  cases hread : Yaml.tokens mixedText with
  | error fault =>
    rw [hread] at htokens
    cases htokens
  | ok tokens =>
    rw [hread] at htokens
    cases htokens
    rfl

theorem load_mixedText : Yaml.load mixedText = .ok (.map mixedPairs) := by
  have hinclude : Yaml.Tag.ofForm "include".toList = .str := rfl
  have hexclude : Yaml.Tag.ofForm "exclude".toList = .str := rfl
  have htrue : Yaml.Tag.ofForm "true".toList = .bool := by decide +kernel
  rw [Yaml.load, node_mixedText, hinclude, hexclude, htrue]
  cbv

theorem holds_mixedText : Holds (Run.settingsWorld mixedText []).tree Run.settingsPlace mixedPairs := by
  have hlines : mixedText.unixLines = mixedText := by cbv
  refine ⟨Encoding.encode mixedText, mixedText, rfl, Encoding.decode_eq_ok_iff.2 rfl, ?_, ?_⟩
  · rw [hlines]
    cbv
  · rw [hlines, load_mixedText]

theorem settings_mixedText : load (Run.settingsWorld mixedText []).tree (Place.toPath ["p".toList]) =
    .ok
      { root := ["p".toList]
        included := ["True".toList, "a".toList]
        excluded := ["b".toList] } := by
  rw [load_of_holds rfl holds_mixedText]
  rfl

theorem texts_listed_mixedText :
    file (Run.settingsWorld mixedText []).tree (Place.toPath ["p".toList]) = .ok Run.settingsPlace ∧
    Holds (Run.settingsWorld mixedText []).tree Run.settingsPlace mixedPairs ∧
    ∃ settings, load (Run.settingsWorld mixedText []).tree (Place.toPath ["p".toList]) = .ok settings ∧
      texts (Value.get? mixedPairs "exclude".toList) = .ok settings.excluded ∧
      listed (Value.get? mixedPairs "exclude".toList) = .ok settings.excluded := by
  obtain ⟨-, hrule, hlists⟩ := texts_listed (Value.get? mixedPairs "exclude".toList)
  obtain ⟨-, hexcluded⟩ := hlists _ _ _ _ _ rfl holds_mixedText settings_mixedText
  have htexts := hexcluded rfl
  have hkeeps : ∀ value ∈ Value.get? mixedPairs "exclude".toList, ¬ Departs value := by
    intro value hvalue hdeparts
    cases hvalue
    cases hdeparts with
    | truth _ htruth => cases htruth
  exact ⟨rfl, holds_mixedText, _, settings_mixedText, htexts, (hrule.2 hkeeps).symm.trans htexts⟩

/-- A truth value in a list is spelled out, although the rule leaves it out, and bytes have texts
although they are no list. -/
theorem included_mixedText :
    Holds (Run.settingsWorld mixedText []).tree Run.settingsPlace mixedPairs ∧
    (load (Run.settingsWorld mixedText []).tree (Place.toPath ["p".toList])).map (·.included) =
      .ok ["True".toList, "a".toList] ∧
    listed (Value.get? mixedPairs "include".toList) = .ok ["a".toList] ∧
    texts (some (.scalar (.binary [104, 105]))) = .ok ["104".toList, "105".toList] ∧
    listed (some (.scalar (.binary [104, 105]))) = .ok [] := by
  refine ⟨holds_mixedText, ?_, rfl, rfl, rfl⟩
  rw [settings_mixedText]
  rfl

end Settings

end Breadcrumb
