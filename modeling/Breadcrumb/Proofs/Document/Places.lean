import Breadcrumb.Proofs.Document.Reordering
import Breadcrumb.Proofs.Heading.Indentation
import Breadcrumb.Proofs.Heading.Wording
import Breadcrumb.Proofs.Text.Numerals
import Breadcrumb.Proofs.Tree.Drawing

namespace Breadcrumb.Document.Markdown

def book : Char := '📖'

/-- The path and line of a crumb with the link to them. -/
def sourceLink (frame : Frame) (crumb : Crumb) : Text :=
  "[".toList ++ crumb.path ++ ":".toList ++ Text.ofInt crumb.line ++ "](".toList ++
    Heading.link frame.linkBase crumb.path ++ "#L".toList ++ Text.ofInt crumb.line ++ ")".toList

def shownTexts (crumb : Crumb) : List Text :=
  [crumb.path, crumb.language, crumb.title] ++ crumb.description ++ crumb.peeked

/-- The texts that the document is made of. -/
def sources (frame : Frame) (grouped : Grouped) : List Text :=
  [frame.project, frame.linkBase] ++ (grouped.main ++ grouped.side).map (·.1) ++
    grouped.crumbs.flatMap shownTexts

/-- The text shows the places of the crumbs, each on a line that starts with the sign, and the sign
nowhere else. -/
inductive Places (frame : Frame) : List Crumb → Text → Prop
  | clear {text : Text} : book ∉ text → Places frame [] text
  | place {crumb : Crumb} {crumbs : List Crumb} {before behind : Text} :
    book ∉ before → book ∉ sourceLink frame crumb → Places frame crumbs behind →
    Places frame (crumb :: crumbs) (before ++ line (place frame crumb) ++ behind)

variable {frame : Frame} {crumb : Crumb} {crumbs more : List Crumb} {text rest : Text}
  {texts : List Text} {trails : Trails} {name title anchor : Text}

theorem line_place (frame : Frame) (crumb : Crumb) :
    line (place frame crumb) = book :: ' ' :: (sourceLink frame crumb ++ ['\n']) := rfl

theorem Places.prepend (hclear : book ∉ text) (h : Places frame crumbs rest) :
    Places frame crumbs (text ++ rest) := by
  cases h with
  | clear hrest => exact .clear (List.not_mem_append hclear hrest)
  | place hbefore hlink hbehind =>
    rw [← List.append_assoc, ← List.append_assoc]
    exact .place (List.not_mem_append hclear hbefore) hlink hbehind

theorem Places.append (h : Places frame crumbs text) (hmore : Places frame more rest) :
    Places frame (crumbs ++ more) (text ++ rest) := by
  induction h with
  | clear hclear => exact hmore.prepend hclear
  | place hbefore hlink _ ih =>
    rw [List.append_assoc]
    exact .place hbefore hlink ih

theorem Places.flatMap {α : Type} {items : List α} {crumbsOf : α → List Crumb} {textOf : α → Text}
    (h : ∀ item ∈ items, Places frame (crumbsOf item) (textOf item)) :
    Places frame (items.flatMap crumbsOf) (items.flatMap textOf) := by
  induction items with
  | nil => exact .clear List.not_mem_nil
  | cons item items ih =>
    obtain ⟨hitem, hitems⟩ := List.forall_mem_cons.1 h
    exact hitem.append (ih hitems)

/-- A text that shows places is cut at the signs into a text in front and, for each place, a text
that starts with its link. -/
theorem Places.split (h : Places frame crumbs text) : ∃ front pieces,
    text.split book = front :: pieces ∧
      List.Forall₂ (fun crumb piece => ' ' :: (sourceLink frame crumb ++ ['\n']) <+: piece)
        crumbs pieces := by
  induction h with
  | clear hclear => exact ⟨_, [], Text.split_of_notMem hclear, .nil⟩
  | @place crumb crumbs before behind hbefore hlink _ ih =>
    obtain ⟨front, pieces, hsplit, hpieces⟩ := ih
    have hline : book ∉ ' ' :: (sourceLink frame crumb ++ ['\n']) :=
      List.not_mem_cons_of_ne_of_not_mem (by decide) (List.not_mem_append hlink (by decide))
    have hbehind := Text.split_append_of_notMem hline hsplit
    refine ⟨before, _ :: pieces, ?_, .cons (List.prefix_append _ front) hpieces⟩
    rw [List.append_assoc, line_place, List.cons_append, Text.split_append hbefore, hbehind]

theorem notMem_line (h : book ∉ text) : book ∉ line text := List.not_mem_append h (by decide)

theorem notMem_flatMap {α : Type} {items : List α} {textOf : α → Text}
    (h : ∀ item ∈ items, book ∉ textOf item) : book ∉ items.flatMap textOf := by
  intro hmem
  obtain ⟨item, hitem, hbook⟩ := List.mem_flatMap.1 hmem
  exact h item hitem hbook

theorem notMem_lines (h : ∀ text ∈ texts, book ∉ text) : book ∉ lines texts :=
  notMem_flatMap fun text htext => notMem_line (h text htext)

theorem uncased_book : Text.Uncased book :=
  ⟨by decide +kernel, by decide +kernel, by decide, by decide⟩

theorem notMem_titleCase (h : book ∉ text) : book ∉ Heading.titleCase text :=
  Heading.notMem_titleCase uncased_book h

theorem notMem_anchor (h : book ∉ text) : book ∉ Heading.anchor text :=
  Heading.notMem_anchor uncased_book (by decide) h

theorem notMem_ofNat (n : Nat) : book ∉ Text.ofNat n := Text.notMem_ofNat (by decide) n

theorem notMem_ofInt (n : Int) : book ∉ Text.ofInt n := Text.notMem_ofInt (by decide) (by decide) n

/-- No text of the crumb that the document shows holds the sign. -/
def Unsigned (crumb : Crumb) : Prop := ∀ text ∈ shownTexts crumb, book ∉ text

theorem Unsigned.notMem_path (h : Unsigned crumb) : book ∉ crumb.path := h _ (by simp [shownTexts])

theorem Unsigned.notMem_title (h : Unsigned crumb) : book ∉ crumb.title :=
  h _ (by simp [shownTexts])

theorem Unsigned.notMem_language (h : Unsigned crumb) : book ∉ crumb.language :=
  h _ (by simp [shownTexts])

theorem Unsigned.notMem_description (h : Unsigned crumb) : ∀ text ∈ crumb.description, book ∉ text :=
  fun text htext => h text (by simp [shownTexts, htext])

theorem Unsigned.notMem_peeked (h : Unsigned crumb) : ∀ text ∈ crumb.peeked, book ∉ text :=
  fun text htext => h text (by simp [shownTexts, htext])

theorem Unsigned.notMem_sourceLink (h : Unsigned crumb) (hbase : book ∉ frame.linkBase) :
    book ∉ sourceLink frame crumb := by
  have hlink : book ∉ Heading.link frame.linkBase crumb.path :=
    Heading.notMem_link (by decide) (by decide) hbase h.notMem_path
  have hline := notMem_ofInt crumb.line
  -- The equation of a definition with literal texts takes long to prove.
  delta sourceLink
  simp only [List.mem_append, not_or, and_assoc]
  exact ⟨by decide, h.notMem_path, by decide, hline, by decide, hlink, by decide, hline, by decide⟩

theorem Unsigned.notMem_fence (h : Unsigned crumb) : book ∉ fence crumb := by
  have hlanguage : book ∉ "~~~".toList ++ crumb.language.lower :=
    List.not_mem_append (by decide) (Text.notMem_lower uncased_book h.notMem_language)
  have hpeeked : ∀ text ∈ Heading.dedent crumb.peeked, book ∉ text := by
    intro text htext
    obtain ⟨other, hother, hsuffix⟩ := Heading.exists_suffix_of_mem_dedent htext
    exact fun hmem => h.notMem_peeked other hother (hsuffix.subset hmem)
  rw [fence]
  split
  · exact List.not_mem_nil
  · simp only [List.mem_append, not_or, and_assoc]
    exact ⟨notMem_line hlanguage, notMem_lines hpeeked, by decide, by decide⟩

theorem Unsigned.places_body (h : Unsigned crumb) (hbase : book ∉ frame.linkBase) :
    Places frame [crumb] (body frame crumb) := by
  have hdescription :
      book ∉ if crumb.description.isEmpty then [] else lines crumb.description ++ line [] := by
    split
    · exact List.not_mem_nil
    · exact List.not_mem_append (notMem_lines h.notMem_description) (by decide)
  have hbehind : book ∉ line [] ++ fence crumb := List.not_mem_append (by decide) h.notMem_fence
  rw [body, List.append_assoc]
  exact .place hdescription (h.notMem_sourceLink hbase) (.clear hbehind)

theorem Unsigned.notMem_stepLabel (h : Unsigned crumb) : book ∉ Tree.stepLabel crumb := by
  simp only [Tree.stepLabel, List.mem_append, not_or, and_assoc]
  exact ⟨by decide, notMem_ofInt _, by decide, notMem_titleCase h.notMem_title⟩

theorem notMem_baseName (h : book ∉ text) : book ∉ Path.baseName text := by
  intro hmem
  have htaken := (List.takeWhile_sublist _).subset (List.mem_reverse.1 hmem)
  exact h (List.mem_reverse.1 htaken)

theorem notMem_render (h : ∀ crumb ∈ crumbs, Unsigned crumb) :
    book ∉ Tree.render (Tree.ofTrail crumbs) := by
  have hnone : book ∉ Diagram.strokes := by decide
  have hstrokes : ∀ c ∈ Diagram.strokes, c ≠ book := fun c hc he => hnone (he ▸ hc)
  have hlabels : ∀ crumb ∈ crumbs, ∀ c ∈ Tree.stepLabel crumb ++ Path.baseName crumb.path,
      c ≠ book := by
    intro crumb hcrumb c hc he
    have hnone := List.not_mem_append (h crumb hcrumb).notMem_stepLabel
      (notMem_baseName (h crumb hcrumb).notMem_path)
    exact hnone (he ▸ hc)
  have hlines := (Tree.visits_foldl crumbs).forall_mem_lines hstrokes hlabels
  exact notMem_lines fun text htext hbook => hlines text htext book hbook rfl

theorem Unsigned.notMem_stepHeading (h : Unsigned crumb) : book ∉ stepHeading crumb := by
  have htitle : book ∉ if (Heading.titleCase crumb.title).isEmpty then []
      else ' ' :: Heading.titleCase crumb.title := by
    split
    · exact List.not_mem_nil
    · exact List.not_mem_cons_of_ne_of_not_mem (by decide) (notMem_titleCase h.notMem_title)
  delta stepHeading
  simp only [List.mem_append, not_or, and_assoc]
  exact ⟨by decide, notMem_ofInt _, by decide, htitle⟩

/-- Blocks under headings show the places one after another. -/
theorem places_headed {α : Type} {items : List α} (crumbOf : α → Crumb) (heading : α → Text)
    (hbase : book ∉ frame.linkBase)
    (h : ∀ item ∈ items, Unsigned (crumbOf item) ∧ book ∉ heading item) :
    Places frame (items.map crumbOf)
      (items.flatMap fun item => line (heading item) ++ line [] ++ body frame (crumbOf item)) := by
  have hblock : ∀ item ∈ items, Places frame [crumbOf item]
      (line (heading item) ++ line [] ++ body frame (crumbOf item)) := by
    intro item hitem
    obtain ⟨hunsigned, hheading⟩ := h item hitem
    apply (hunsigned.places_body hbase).prepend
    exact List.not_mem_append (notMem_line hheading) (by decide)
  rw [List.map_eq_flatMap]
  exact Places.flatMap hblock

theorem places_trail (hbase : book ∉ frame.linkBase) (hname : book ∉ name)
    (h : ∀ crumb ∈ crumbs, Unsigned crumb) : Places frame crumbs (trail frame name crumbs) := by
  have hheading : book ∉ "### ".toList ++ Heading.titleCase name :=
    List.not_mem_append (by decide) (notMem_titleCase hname)
  have hblocks := places_headed id stepHeading hbase fun crumb hcrumb =>
    ⟨h crumb hcrumb, (h crumb hcrumb).notMem_stepHeading⟩
  rw [List.map_id] at hblocks
  apply hblocks.prepend
  simp only [List.mem_append, not_or, and_assoc]
  exact ⟨notMem_line hheading, by decide, by decide, notMem_render h, by decide, by decide⟩

theorem places_trailSection (hbase : book ∉ frame.linkBase) (htitle : book ∉ title)
    (h : ∀ trail ∈ trails, book ∉ trail.1 ∧ ∀ crumb ∈ trail.2, Unsigned crumb) :
    Places frame (trails.flatMap (·.2)) (trailSection frame title trails) := by
  rw [trailSection]
  split
  · rename_i hempty
    rw [List.isEmpty_iff.1 hempty]
    exact .clear List.not_mem_nil
  · have hheading : book ∉ "## ".toList ++ title := List.not_mem_append (by decide) htitle
    have htrails : ∀ entry ∈ trails, Places frame entry.2 (trail frame entry.1 entry.2) := by
      intro entry hentry
      exact places_trail hbase (h entry hentry).1 (h entry hentry).2
    apply (Places.flatMap htrails).prepend
    exact List.not_mem_append (notMem_line hheading) (by decide)

theorem Unsigned.notMem_remarkHeading (h : Unsigned crumb) : book ∉ remarkHeading crumb := by
  have htitle : book ∉ if crumb.title.isEmpty then []
      else ": ".toList ++ Heading.titleCase crumb.title := by
    split
    · exact List.not_mem_nil
    · exact List.not_mem_append (by decide) (notMem_titleCase h.notMem_title)
  simp only [remarkHeading, List.mem_append, not_or, and_assoc]
  exact ⟨by decide, notMem_ofInt _, htitle⟩

theorem notMem_numbered (h : book ∉ anchor) (times : Nat) : book ∉ numbered anchor times := by
  rw [numbered]
  split
  · exact h
  · exact List.not_mem_append (List.not_mem_append h (by decide)) (notMem_ofNat times)

theorem notMem_remarksFrom (h : ∀ crumb ∈ crumbs, Unsigned crumb) (seen : List Text) :
    ∀ remark ∈ remarksFrom seen crumbs,
      Unsigned remark.crumb ∧ book ∉ remark.heading ∧ book ∉ remark.anchor := by
  induction crumbs generalizing seen with
  | nil => exact nofun
  | cons crumb crumbs ih =>
    obtain ⟨hcrumb, hcrumbs⟩ := List.forall_mem_cons.1 h
    have hheading := hcrumb.notMem_remarkHeading
    rw [remarksFrom, List.forall_mem_cons]
    exact ⟨⟨hcrumb, hheading, notMem_numbered (notMem_anchor hheading) _⟩, ih hcrumbs _⟩

theorem map_crumb_remarksFrom (seen : List Text) (crumbs : List Crumb) :
    (remarksFrom seen crumbs).map (·.crumb) = crumbs := by
  induction crumbs generalizing seen with
  | nil => rfl
  | cons crumb crumbs ih => exact congrArg _ (ih _)

theorem places_remarkSection (hbase : book ∉ frame.linkBase)
    (h : ∀ crumb ∈ crumbs, Unsigned crumb) :
    Places frame crumbs (remarkSection frame (remarks crumbs)) := by
  have hremarks := notMem_remarksFrom h []
  have hcrumbs : (remarks crumbs).map (·.crumb) = crumbs := map_crumb_remarksFrom [] crumbs
  rw [remarkSection]
  split
  · rename_i hempty
    rw [← hcrumbs, List.isEmpty_iff.1 hempty]
    exact .clear List.not_mem_nil
  · have hheaded : ∀ remark ∈ remarks crumbs,
        Unsigned remark.crumb ∧ book ∉ "### ".toList ++ remark.heading := by
      intro remark hremark
      obtain ⟨hunsigned, hheading, -⟩ := hremarks remark hremark
      exact ⟨hunsigned, List.not_mem_append (by decide) hheading⟩
    have hblocks := places_headed Remark.crumb _ hbase hheaded
    rw [hcrumbs] at hblocks
    exact hblocks.prepend (by decide)

theorem notMem_entry (htitle : book ∉ title) (hanchor : book ∉ anchor) :
    book ∉ entry title anchor := by
  apply notMem_line
  simp only [List.mem_append, not_or, and_assoc]
  exact ⟨by decide, htitle, by decide, hanchor, by decide⟩

theorem notMem_trailEntries (htitle : book ∉ title) (hanchor : book ∉ anchor)
    (h : ∀ trail ∈ trails, book ∉ trail.1) : book ∉ trailEntries title anchor trails := by
  have hentries : book ∉ trails.flatMap fun trail =>
      entry (Heading.titleCase trail.1) (Heading.anchor trail.1) :=
    notMem_flatMap fun trail htrail =>
      notMem_entry (notMem_titleCase (h trail htrail)) (notMem_anchor (h trail htrail))
  rw [trailEntries]
  split
  · exact List.not_mem_nil
  · apply List.not_mem_append _ hentries
    apply notMem_line
    simp only [List.mem_append, not_or, and_assoc]
    exact ⟨by decide, htitle, by decide, hanchor, by decide⟩

theorem notMem_remarkEntries (h : ∀ crumb ∈ crumbs, Unsigned crumb) :
    book ∉ remarkEntries (remarks crumbs) := by
  have hremarks := notMem_remarksFrom h []
  rw [remarkEntries]
  split
  · exact List.not_mem_nil
  · apply List.not_mem_append (by decide)
    exact notMem_flatMap fun remark hremark =>
      notMem_entry (hremarks remark hremark).2.1 (hremarks remark hremark).2.2

theorem notMem_append_ofNat (h : book ∉ text) (n : Nat) (hrest : book ∉ rest) :
    book ∉ text ++ Text.ofNat n ++ rest :=
  List.not_mem_append (List.not_mem_append h (notMem_ofNat n)) hrest

theorem notMem_summary (stats : Stats) (h : book ∉ frame.project) :
    book ∉ summary frame stats := by
  delta summary
  apply notMem_append_ofNat _ _ (by decide)
  apply notMem_append_ofNat _ _ (by decide)
  apply notMem_append_ofNat _ _ (by decide)
  apply notMem_append_ofNat _ _ (by decide)
  apply List.not_mem_append _ (by decide)
  exact List.not_mem_append (by decide) h

def opening (frame : Frame) (grouped : Grouped) : Text :=
  line ("# ".toList ++ Heading.titleCase frame.project) ++ line [] ++
    line (summary frame grouped.stats) ++ line [] ++
    trailEntries "Main Trails".toList "#main-trails".toList (sorted grouped.main) ++
    trailEntries "Side Trails".toList "#side-trails".toList (sorted grouped.side) ++
    remarkEntries (remarks grouped.remarks) ++ line []

theorem document_eq (frame : Frame) (grouped : Grouped) : document frame grouped =
    opening frame grouped ++
      trailSection frame "Main Trails".toList (sorted grouped.main) ++
      trailSection frame "Side Trails".toList (sorted grouped.side) ++
      remarkSection frame (remarks grouped.remarks) := rfl

variable {grouped : Grouped}

theorem notMem_opening (hproject : book ∉ frame.project)
    (hmain : ∀ trail ∈ sorted grouped.main, book ∉ trail.1)
    (hside : ∀ trail ∈ sorted grouped.side, book ∉ trail.1)
    (hremarks : ∀ crumb ∈ grouped.remarks, Unsigned crumb) : book ∉ opening frame grouped := by
  have htitle : book ∉ "# ".toList ++ Heading.titleCase frame.project :=
    List.not_mem_append (by decide) (notMem_titleCase hproject)
  have hsummary := notMem_line (notMem_summary grouped.stats hproject)
  delta opening
  simp only [List.mem_append, not_or, and_assoc]
  exact ⟨notMem_line htitle, by decide, hsummary, by decide,
    notMem_trailEntries (by decide) (by decide) hmain,
    notMem_trailEntries (by decide) (by decide) hside, notMem_remarkEntries hremarks, by decide⟩

/-- The document shows the places of the main trails, of the side trails and of the remarks. -/
theorem places_document (h : ∀ text ∈ sources frame grouped, book ∉ text) :
    Places frame ((sorted grouped.main).flatMap (·.2) ++ (sorted grouped.side).flatMap (·.2) ++
      grouped.remarks) (document frame grouped) := by
  have hproject : book ∉ frame.project := h _ (by simp [sources])
  have hbase : book ∉ frame.linkBase := h _ (by simp [sources])
  have hcrumbs : ∀ crumb ∈ grouped.crumbs, Unsigned crumb := by
    intro crumb hcrumb text htext
    apply h
    exact List.mem_append_right _ (List.mem_flatMap.2 ⟨crumb, hcrumb, htext⟩)
  have htrails : ∀ trail ∈ grouped.main ++ grouped.side,
      book ∉ trail.1 ∧ ∀ crumb ∈ trail.2, Unsigned crumb := by
    intro trail htrail
    constructor
    · apply h
      exact List.mem_append_left _ (List.mem_append_right _ (List.mem_map_of_mem htrail))
    · intro crumb hcrumb
      apply hcrumbs
      rw [Grouped.crumbs, ← List.flatMap_append]
      exact List.mem_append_left _ (List.mem_flatMap.2 ⟨trail, htrail, hcrumb⟩)
  have hmain := fun trail (htrail : trail ∈ sorted grouped.main) =>
    htrails trail (List.mem_append_left _ ((sorted_perm grouped.main).mem_iff.1 htrail))
  have hside := fun trail (htrail : trail ∈ sorted grouped.side) =>
    htrails trail (List.mem_append_right _ ((sorted_perm grouped.side).mem_iff.1 htrail))
  have hremarks : ∀ crumb ∈ grouped.remarks, Unsigned crumb := fun crumb hcrumb =>
    hcrumbs crumb (List.mem_append_right _ hcrumb)
  have hopening := notMem_opening hproject (fun trail htrail => (hmain trail htrail).1)
    (fun trail htrail => (hside trail htrail).1) hremarks
  rw [document_eq]
  apply Places.append _ (places_remarkSection hbase hremarks)
  apply Places.append _ (places_trailSection hbase (by decide) hside)
  exact (places_trailSection hbase (by decide) hmain).prepend hopening

theorem length_crumbs_sorted (grouped : Grouped) :
    ((sorted grouped.main).flatMap (·.2) ++ (sorted grouped.side).flatMap (·.2) ++
      grouped.remarks).length = grouped.stats.total := by
  have hmain := (sorted_perm grouped.main).flatMap_right (·.2)
  have hside := (sorted_perm grouped.side).flatMap_right (·.2)
  exact ((hmain.append hside).append_right grouped.remarks).length_eq

/-- If no text that the document is made of holds the book sign, the document holds it once for every
crumb, each time with the link to the place of the crumb behind it. From top to bottom these are the
crumbs of the main trails by name, of the side trails by name, and the remarks as they come. -/
theorem document_places (frame : Frame) (grouped : Grouped)
    (h : ∀ text ∈ sources frame grouped, book ∉ text) :
    (document frame grouped).count book = grouped.stats.total ∧
    ∃ main side : Trails,
      main.Perm grouped.main ∧ (main.Pairwise fun a b => a.1 < b.1 ∨ a.1 = b.1) ∧
      side.Perm grouped.side ∧ (side.Pairwise fun a b => a.1 < b.1 ∨ a.1 = b.1) ∧
      ∃ front pieces, (document frame grouped).split book = front :: pieces ∧
        List.Forall₂ (fun crumb piece => ' ' :: (sourceLink frame crumb ++ ['\n']) <+: piece)
          (main.flatMap (·.2) ++ side.flatMap (·.2) ++ grouped.remarks) pieces := by
  obtain ⟨front, pieces, hsplit, hpieces⟩ := (places_document h).split
  constructor
  · have hlength := Text.length_split book (document frame grouped)
    rw [hsplit, List.length_cons, ← hpieces.length_eq, length_crumbs_sorted] at hlength
    omega
  · exact ⟨sorted grouped.main, sorted grouped.side, sorted_perm _, pairwise_sorted _,
      sorted_perm _, pairwise_sorted _, front, pieces, hsplit, hpieces⟩

def twoTrails : Grouped where
  main :=
    [("run".toList,
        [{ path := "app/main.go".toList, line := 3, title := "Start".toList
           description := ["the way in".toList] },
          { path := "app/main.go".toList, line := 9, peeked := ["\tserve()".toList] }]),
      ("load".toList, [{ path := "app/load.go".toList, line := 4 }])]
  remarks := [{ path := "app/main.go".toList, line := 12 }]

def linkedFrame : Frame where
  project := "app".toList
  linkBase := "https://github.com/app".toList

theorem document_places_twoTrails :
    (∀ text ∈ sources linkedFrame twoTrails, book ∉ text) ∧
    (document linkedFrame twoTrails).count book = 4 ∧
    ∃ main side : Trails,
      main.Perm twoTrails.main ∧ (main.Pairwise fun a b => a.1 < b.1 ∨ a.1 = b.1) ∧
      side.Perm twoTrails.side ∧ (side.Pairwise fun a b => a.1 < b.1 ∨ a.1 = b.1) ∧
      ∃ front pieces, (document linkedFrame twoTrails).split book = front :: pieces ∧
        List.Forall₂ (fun crumb piece => ' ' :: (sourceLink linkedFrame crumb ++ ['\n']) <+: piece)
          (main.flatMap (·.2) ++ side.flatMap (·.2) ++ twoTrails.remarks) pieces := by
  have h : ∀ text ∈ sources linkedFrame twoTrails, book ∉ text := by decide
  exact ⟨h, document_places linkedFrame twoTrails h⟩

end Breadcrumb.Document.Markdown
