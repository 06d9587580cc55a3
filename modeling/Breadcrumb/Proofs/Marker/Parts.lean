import Breadcrumb.Proofs.Marker.Parsing

namespace Breadcrumb.Marker

/-- A text that a payload gives: trimmed, within one field, of the payload's characters. -/
structure Part (payload text : Text) : Prop where
  trimmed : text.IsTrimmed
  unseparated : ';' ∉ text
  subset : text ⊆ payload

/-- The marker says what the payload gives; its trail stands before a number sign. -/
structure ReadFrom (payload : Text) (marker : Marker) : Prop where
  trail : Part payload marker.trail
  trailUnmarked : '#' ∉ marker.trail
  title : Part payload marker.title
  description : ∀ text ∈ marker.description, Part payload text
  peek_nonneg : 0 ≤ marker.peek

variable {payload first field title : Text} {fields rest left : List Text} {start marker : Marker}
  {peek : Int} {description : Option Text} {outcomes : List Outcome}

theorem Part.nil (payload : Text) : Part payload [] :=
  ⟨by decide, List.not_mem_nil, List.nil_subset payload⟩

theorem Part.trim (hsep : ';' ∉ field) (h : field ⊆ payload) : Part payload field.trim where
  trimmed := Text.isTrimmed_trim field
  unseparated hmem := hsep (Text.trim_subset field hmem)
  subset := List.Subset.trans (Text.trim_subset field) h

theorem part_of_mem_split (h : field ∈ payload.split ';') : Part payload field.trim :=
  Part.trim (Text.notMem_of_mem_split h) (Text.subset_of_mem_split h)

theorem TailRead.part (h : TailRead fields peek description outcomes)
    (hfields : ∀ field ∈ fields, Part payload field.trim) :
    (∀ text ∈ description, Part payload text) ∧ 0 ≤ peek := by
  cases h with
  | empty => exact ⟨nofun, Int.le_refl 0⟩
  | count _ hpos => exact ⟨nofun, Int.le_of_lt hpos⟩
  | text =>
    constructor
    · rintro text ⟨⟩
      exact hfields _ List.mem_cons_self
    · exact Int.le_refl 0
  | both _ hpos =>
    constructor
    · rintro text ⟨⟩
      exact hfields _ (List.mem_cons_of_mem _ List.mem_cons_self)
    · exact Int.le_of_lt hpos

theorem TitleRead.part (h : TitleRead left title peek description outcomes)
    (hleft : ∀ field ∈ left, Part payload field.trim) :
    Part payload title ∧ (∀ text ∈ description, Part payload text) ∧ 0 ≤ peek := by
  cases h with
  | untitled htail => exact ⟨Part.nil payload, htail.part hleft⟩
  | titled htail =>
    obtain ⟨htitle, hrest⟩ := List.forall_mem_cons.1 hleft
    exact ⟨htitle, htail.part hrest⟩

theorem part_of_cut {name text : Text} (h : name ++ '#' :: text ∈ payload.split ';')
    (hname : '#' ∉ name) : Part payload name.trim ∧ '#' ∉ name.trim := by
  have hwithin : name ⊆ name ++ '#' :: text := List.subset_append_left _ _
  have hsep : ';' ∉ name := fun hmem => Text.notMem_of_mem_split h (hwithin hmem)
  have hpart : Part payload name.trim :=
    Part.trim hsep (List.Subset.trans hwithin (Text.subset_of_mem_split h))
  exact ⟨hpart, fun hmem => hname (Text.trim_subset name hmem)⟩

theorem TrailRead.part (h : TrailRead first rest start left) (hfirst : first ∈ payload.split ';') :
    Part payload start.trail ∧ '#' ∉ start.trail := by
  cases h with
  | remark => exact ⟨Part.nil payload, List.not_mem_nil⟩
  | step hname => exact part_of_cut hfirst hname
  | broken hname => exact part_of_cut hfirst hname

theorem TrailRead.left_subset (h : TrailRead first rest start left) : left ⊆ first :: rest := by
  cases h with
  | remark => exact List.Subset.refl _
  | step => exact List.subset_cons_self _ _
  | broken => exact List.subset_cons_self _ _

theorem readFrom_parse (h : parse payload = .ok marker) : ReadFrom payload marker := by
  obtain ⟨hsplit, htrail, htitle⟩ := read_of_parse h
  have hfirst : opening payload ∈ payload.split ';' := hsplit ▸ List.mem_cons_self
  obtain ⟨hname, hunmarked⟩ := htrail.part hfirst
  obtain ⟨htitle, hdescription, hpeek⟩ := htitle.part fun field hfield =>
    part_of_mem_split (hsplit ▸ htrail.left_subset hfield)
  exact ⟨hname, hunmarked, htitle, hdescription, hpeek⟩

theorem parse_peek_nonneg (h : parse payload = .ok marker) : 0 ≤ marker.peek :=
  (readFrom_parse h).peek_nonneg

end Breadcrumb.Marker
