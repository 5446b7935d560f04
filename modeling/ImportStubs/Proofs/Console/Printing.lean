import ImportStubs.Console
import ImportStubs.Proofs.Console.Rendering
import ImportStubs.Proofs.Except

/-!
# Printing succeeds

Laying a text out moves and cuts its spans, but it asks for no style that the text did not have. So
whatever is printed of markup whose tags are shown, it is printed without an error.
-/

namespace ImportStubs.Console

namespace StyledText

variable {s t : StyledText}

theorem isReadable_iff : s.isReadable = true ↔ ∀ span ∈ s.spans, span.isReadable = true :=
  List.all_eq_true

theorem isReadable_default : (default : StyledText).isReadable = true := rfl

theorem isReadable_map {f : Span → Span} (hf : ∀ span, (f span).style = span.style)
    (hs : s.isReadable = true) : (s.spans.map f).all Span.isReadable = true := by
  rw [List.all_map, List.all_eq_true]
  intro span hspan
  rw [Function.comp_apply, Span.isReadable, hf]
  exact isReadable_iff.mp hs span hspan

theorem isReadable_filterMap {f : Span → Option Span}
    (hf : ∀ span other, f span = some other → other.style = span.style)
    (hs : s.isReadable = true) : (s.spans.filterMap f).all Span.isReadable = true := by
  rw [List.all_eq_true]
  intro other hother
  obtain ⟨span, hspan, heq⟩ := List.mem_filterMap.mp hother
  rw [Span.isReadable, hf span other heq]
  exact isReadable_iff.mp hs span hspan

theorem style_upTo? (stop : ℕ) (span other : Span) (h : span.upTo? stop = some other) :
    other.style = span.style := by
  rw [Span.upTo?] at h
  split_ifs at h
  cases h
  rfl

theorem style_between? (start stop : ℕ) (span other : Span)
    (h : span.between? start stop = some other) : other.style = span.style := by
  rw [Span.between?] at h
  split_ifs at h
  cases h
  rfl

theorem isReadable_withText (text : Text) (hs : s.isReadable = true) :
    (s.withText text).isReadable = true := by
  unfold withText isReadable
  split_ifs
  · exact isReadable_filterMap (style_upTo? _) hs
  · exact hs

theorem isReadable_append (hs : s.isReadable = true) (ht : t.isReadable = true) :
    (s ++ t).isReadable = true := by
  change (s.spans ++ t.spans.map (Span.shift s.text.length)).all Span.isReadable = true
  rw [List.all_append, isReadable_map (f := Span.shift s.text.length) (fun _ => rfl) ht,
    Bool.and_true]
  exact hs

theorem isReadable_padLeft (n : ℕ) (hs : s.isReadable = true) :
    (s.padLeft n).isReadable = true := isReadable_map (fun _ => rfl) hs

theorem isReadable_padRight (n : ℕ) (hs : s.isReadable = true) :
    (s.padRight n).isReadable = true := hs

theorem isReadable_extend (n : ℕ) (hs : s.isReadable = true) :
    (s.extend n).isReadable = true := by
  refine isReadable_map (fun span => ?_) hs
  split_ifs <;> rfl

theorem isReadable_spanned (hs : s.isReadable = true) : s.spanned.isReadable = true := by
  rw [spanned]
  split_ifs
  · exact hs
  · exact hs

theorem isReadable_slice (start stop : ℕ) (hs : s.isReadable = true) :
    (s.slice start stop).isReadable = true := isReadable_filterMap (style_between? start stop) hs

theorem isReadable_slicesFrom (start : ℕ) (cuts : List ℕ) (hs : s.isReadable = true) :
    ∀ part ∈ s.slicesFrom start cuts, part.isReadable = true := by
  induction cuts generalizing start with
  | nil => exact List.forall_mem_singleton.mpr (isReadable_slice _ _ hs)
  | cons stop rest ih => exact List.forall_mem_cons.mpr ⟨isReadable_slice _ _ hs, ih stop⟩

theorem isReadable_divide (cuts : List ℕ) (hs : s.isReadable = true) :
    ∀ part ∈ s.divide cuts, part.isReadable = true := by
  rw [divide]
  split_ifs
  · exact List.forall_mem_singleton.mpr hs
  · exact isReadable_slicesFrom 0 cuts hs

/-- Readable styles are all found when the text is shown. -/
theorem shown_eq (hs : s.isReadable = true) : s.shown = .ok s.runs := by
  have hlook : s.spans.forM (fun span => span.style.forM Theme.look) = .ok PUnit.unit := by
    refine forM_eq_ok fun span hspan => ?_
    have hreadable := isReadable_iff.mp hs span hspan
    rw [Span.isReadable] at hreadable
    cases hstyle : span.style with
    | none => rfl
    | some style =>
      rw [hstyle] at hreadable
      exact Theme.look_of_isKnown hreadable
  rw [shown, hlook]
  rfl

end StyledText

namespace Lines

open StyledText

variable {s : StyledText}

theorem isReadable_truncate (overflow : Overflow) (width : ℕ) (hs : s.isReadable = true) :
    (truncate overflow width s).isReadable = true := by
  unfold truncate
  split_ifs
  · exact hs
  · cases overflow <;> exact isReadable_withText _ hs

theorem isReadable_trimEnd (width : ℕ) (hs : s.isReadable = true) :
    (trimEnd width s).isReadable = true := isReadable_withText _ hs

theorem isReadable_align (alignment : Alignment) (overflow : Overflow) (width : ℕ)
    (hs : s.isReadable = true) : (align alignment overflow width s).isReadable = true := by
  cases alignment with
  | natural => exact isReadable_truncate overflow width hs
  | left => exact isReadable_padRight _ (isReadable_truncate overflow width hs)
  | center =>
    exact isReadable_padRight _ (isReadable_padLeft _
      (isReadable_truncate overflow width (isReadable_withText _ hs)))

theorem isReadable_joinTabbed (column : ℕ) (parts : List StyledText)
    (h : ∀ part ∈ parts, part.isReadable = true) :
    (joinTabbed column parts).isReadable = true := by
  induction parts generalizing column with
  | nil => rfl
  | cons part rest ih =>
    obtain ⟨hpart, hrest⟩ := List.forall_mem_cons.mp h
    rw [joinTabbed]
    split_ifs
    · exact isReadable_append (isReadable_spanned (isReadable_extend _ hpart)) (ih _ hrest)
    · exact isReadable_append (isReadable_spanned hpart) (ih _ hrest)

theorem isReadable_expandTabs (hs : s.isReadable = true) :
    (expandTabs s).isReadable = true := by
  rw [expandTabs]
  split
  · exact hs
  · exact isReadable_joinTabbed 0 _ (isReadable_divide _ hs)

theorem isReadable_paragraphs (hs : s.isReadable = true) :
    ∀ part ∈ paragraphs s, part.isReadable = true := by
  unfold paragraphs
  dsimp only
  split
  · exact List.forall_mem_singleton.mpr hs
  · intro part hpart
    obtain ⟨whole, hwhole, rfl⟩ := List.mem_map.mp hpart
    have hreadable := isReadable_divide _ hs whole hwhole
    split_ifs
    · exact isReadable_slice _ _ hreadable
    · exact hreadable

theorem isReadable_layOut (alignment : Alignment) (overflow : Overflow) (width : ℕ)
    (hs : s.isReadable = true) :
    ∀ line ∈ layOut alignment overflow width s, line.isReadable = true := by
  intro line hline
  obtain ⟨paragraph, hparagraph, hmem⟩ := List.mem_flatMap.mp hline
  obtain ⟨part, hpart, rfl⟩ := List.mem_map.mp hmem
  have hreadable := isReadable_expandTabs (isReadable_paragraphs hs paragraph hparagraph)
  exact isReadable_align alignment overflow width
    (isReadable_trimEnd width (isReadable_divide _ hreadable part hpart))

end Lines

/-- No error comes out. -/
abbrev Printable {ε α : Type} (x : Except ε α) : Prop := Succeeds (fun _ => True) x

theorem printable_ok {ε α : Type} (a : α) : Printable (.ok a : Except ε α) := succeeds_ok trivial

theorem printable_mapM {ε α γ : Type} {f : γ → Except ε α} {cs : List γ}
    (h : ∀ c ∈ cs, Printable (f c)) : Printable (cs.mapM f) := by
  obtain ⟨as, has, -⟩ := Succeeds.mapM h
  exact ⟨as, has, trivial⟩

theorem printable_ofStyled {lines : List StyledText}
    (h : ∀ line ∈ lines, line.isReadable = true) : Printable (Line.ofStyled lines) := by
  refine printable_mapM fun line hline => ?_
  rw [StyledText.shown_eq (h line hline)]
  exact printable_ok _

namespace Panel

theorem printable_upperEdge (width : ℕ) {title : StyledText} (h : title.isReadable = true) :
    Printable (upperEdge width title) := by
  have hline : (titleLine title).isReadable = true :=
    StyledText.isReadable_padRight 1
      (StyledText.isReadable_padLeft 1 (Lines.isReadable_expandTabs h))
  have hcut := Lines.isReadable_truncate .fold (room width) hline
  rw [upperEdge]
  split_ifs
  · exact printable_ok _
  · dsimp only
    rw [StyledText.shown_eq]
    · exact printable_ok _
    · split_ifs
      · exact Lines.isReadable_trimEnd _ hcut
      · exact hcut

theorem printable_draw (width : ℕ) {title body : StyledText} (htitle : title.isReadable = true)
    (hbody : body.isReadable = true) : Printable (draw width title body) := by
  have hlines : Printable (bodyLines width body) := by
    rw [bodyLines]
    split_ifs
    · exact printable_ok _
    · exact (printable_ofStyled (Lines.isReadable_layOut _ _ _ hbody)).bind fun _ _ =>
        printable_ok _
  exact hlines.bind fun _ _ => (printable_upperEdge width htitle).bind fun _ _ => printable_ok _

end Panel

namespace Table

/-- The markup of all parts. -/
def markup (t : Table) : List Text := t.title.toList ++ (t.columns ++ t.rows.flatten)

theorem printable_cellLines (width : ℕ) {cell : StyledText} (h : cell.isReadable = true) :
    Printable (cellLines width cell) := by
  rw [cellLines]
  split_ifs
  · exact printable_ok _
  · exact (printable_ofStyled (Lines.isReadable_layOut _ _ _ h)).map fun _ _ => trivial

theorem printable_rowLines (isHeader : Bool) (widths : List ℕ) {row : List StyledText}
    (h : ∀ cell ∈ row, cell.isReadable = true) : Printable (rowLines isHeader widths row) := by
  have hcells : Printable ((widths.zip row).mapM fun cell => cellLines cell.1 cell.2) :=
    printable_mapM fun cell hcell =>
      printable_cellLines cell.1 (h cell.2 (List.of_mem_zip hcell).2)
  exact hcells.bind fun _ _ => printable_ok _

theorem printable_titleLines (widths : List ℕ) {title : StyledText}
    (h : title.isReadable = true) : Printable (titleLines widths title) :=
  printable_ofStyled (Lines.isReadable_layOut _ _ _ h)

/-- Every cell of the column, and its header. -/
def Column.All {α : Type} (p : α → Prop) (c : Column α) : Prop :=
  p c.header ∧ ∀ cell ∈ c.cells, p cell

theorem printable_gridLines (widths : List ℕ) (count : ℕ) {columns : List (Column StyledText)}
    (h : ∀ c ∈ columns, c.All fun cell => cell.isReadable = true) :
    Printable (gridLines widths count columns) := by
  have hheader : ∀ cell ∈ columns.map (·.header), cell.isReadable = true :=
    List.forall_mem_map.mpr fun c hc => (h c hc).1
  have hrows : Printable ((rowsOf count columns).mapM (rowLines false widths)) := by
    refine printable_mapM fun row hrow => printable_rowLines false widths ?_
    obtain ⟨i, -, rfl⟩ := List.mem_map.mp hrow
    refine List.forall_mem_map.mpr fun c hc => ?_
    rw [List.getD_eq_getElem?_getD]
    cases hcell : c.cells[i]? with
    | none => exact StyledText.isReadable_default
    | some cell => exact (h c hc).2 cell (List.mem_of_getElem? hcell)
  exact (printable_rowLines true widths hheader).bind fun _ _ => hrows.bind fun _ _ =>
    printable_ok _

end Table

/-- The markup can be shown. -/
abbrev IsShown (markup : Text) : Prop := Markup.areShown (Markup.tags markup) = true

theorem isShown_nil : IsShown [] := by decide +kernel

theorem render_of_isShown {markup : Text} (h : IsShown markup) :
    Succeeds (fun shown : StyledText => shown.isReadable = true) (render markup) :=
  Succeeds.mapError Error.markup (Markup.render_of_areShown h)

theorem printable_display (c : Console) {ε : Type} (f : UnreadableNumber → ε)
    {lines : Except UnreadableNumber (List Line)} (h : Printable lines) :
    Printable (do return c.display (← lines.mapError f)) :=
  (h.mapError f).bind fun _ _ => printable_ok _

theorem printable_print (c : Console) {markup : Text} (h : IsShown markup) :
    Printable (c.print markup) := by
  refine (render_of_isShown h).bind fun shown hshown => ?_
  split_ifs
  · exact printable_ok _
  · exact printable_display c _ (printable_ofStyled (Lines.isReadable_layOut _ _ _ hshown))

theorem printable_panel (c : Console) {p : Panel} (htitle : IsShown p.title)
    (hbody : IsShown p.body) : Printable (c.panel p) := by
  rw [panel]
  split_ifs
  · exact printable_ok _
  · refine (render_of_isShown htitle).bind fun title hreadable => ?_
    exact printable_display c _ (Panel.printable_draw _ hreadable StyledText.isReadable_default)
  · refine (render_of_isShown htitle).bind fun title hreadable => ?_
    refine (render_of_isShown hbody).bind fun body hbodyReadable => ?_
    exact printable_display c _ (Panel.printable_draw _ hreadable hbodyReadable)

theorem renderCell_of_isShown (room : ℕ) {markup : Text} (h : IsShown markup) :
    Succeeds (fun shown : StyledText => shown.isReadable = true) (renderCell room markup) := by
  rw [renderCell]
  split_ifs
  · exact succeeds_ok StyledText.isReadable_default
  · exact render_of_isShown h

theorem renderColumn_of_isShown (room : ℕ) {column : Table.Column Text} (h : column.All IsShown)
    {style : Text} (hstyle : checkStyle style = .ok ()) :
    Succeeds (fun shown => shown.All fun cell => cell.isReadable = true)
      (renderColumn room column style) := by
  have hcells : Succeeds (fun cells => ∀ cell ∈ cells, cell.isReadable = true)
      (column.cells.mapM (renderCell room)) :=
    Succeeds.mapM fun cell hcell => renderCell_of_isShown room (h.2 cell hcell)
  rw [renderColumn]
  split_ifs
  · rw [hstyle]
    exact (renderCell_of_isShown room h.1).bind fun _ hheader =>
      hcells.bind fun _ hreadable => succeeds_ok ⟨hheader, hreadable⟩
  · exact (renderCell_of_isShown room h.1).bind fun _ hheader =>
      hcells.bind fun _ hreadable => succeeds_ok ⟨hheader, hreadable⟩

theorem isShown_getD {texts : List Text} (h : ∀ markup ∈ texts, IsShown markup) (i : ℕ) :
    IsShown (texts.getD i []) := by
  rw [List.getD_eq_getElem?_getD]
  cases hget : texts[i]? with
  | none => exact isShown_nil
  | some markup => exact h markup (List.mem_of_getElem? hget)

theorem isShown_column {t : Table} (h : ∀ markup ∈ t.markup, IsShown markup) (i : ℕ) :
    (t.column i).All IsShown := by
  refine ⟨isShown_getD (fun header hheader => h header ?_) i,
    List.forall_mem_map.mpr fun row hrow => isShown_getD (fun cell hcell => h cell ?_) i⟩
  · exact List.mem_append_right _ (List.mem_append_left _ hheader)
  · exact List.mem_append_right _
      (List.mem_append_right _ (List.mem_flatten.mpr ⟨row, hrow, hcell⟩))

theorem checkStyle_of_isKnown {style : Text} (h : Theme.isKnown style = true) :
    checkStyle style = .ok () := by
  rw [checkStyle, Theme.check_of_isKnown h]
  rfl

theorem isKnown_nil : Theme.isKnown [] = true := by decide +kernel

theorem printable_table (c : Console) {t : Table} (h : ∀ markup ∈ t.markup, IsShown markup)
    {styles : List Text} (hstyles : ∀ style ∈ styles, Theme.isKnown style = true) :
    Printable (c.table t styles) := by
  rw [table]
  split_ifs
  · exact printable_ok _
  extract_lets room assigned
  have hassigned : ∀ style ∈ assigned, checkStyle style = .ok () := by
    refine List.forall_mem_map.mpr fun i _ => checkStyle_of_isKnown ?_
    split_ifs
    · rw [List.getD_eq_getElem?_getD]
      cases hget : styles[i]? with
      | none => exact isKnown_nil
      | some style => exact hstyles style (List.mem_of_getElem? hget)
    · exact isKnown_nil
  have hcolumns : Succeeds (fun columns => ∀ column ∈ columns,
      Table.Column.All (fun cell : StyledText => cell.isReadable = true) column)
      ((t.toColumns.zip assigned).mapM fun entry => renderColumn room entry.1 entry.2) := by
    refine Succeeds.mapM fun entry hentry => ?_
    obtain ⟨hcolumn, hstyle⟩ := List.of_mem_zip hentry
    obtain ⟨i, -, hi⟩ := List.mem_map.mp hcolumn
    exact renderColumn_of_isShown room (hi ▸ isShown_column h i) (hassigned _ hstyle)
  refine hcolumns.bind fun columns hreadable => ?_
  have htitle : Printable (t.title.mapM fun title => do
      (Table.titleLines (Table.columnWidths c.width columns) (← render title)).mapError
        Error.number) := by
    cases htext : t.title with
    | none => exact printable_ok _
    | some title =>
      have hmem : title ∈ t.markup := List.mem_append_left _ (by simp [htext])
      exact ((render_of_isShown (h title hmem)).bind fun shown hshown =>
        (Table.printable_titleLines _ hshown).mapError _).map fun _ _ => trivial
  refine htitle.bind fun title _ => ?_
  rw [forM_eq_ok hassigned]
  exact ((Table.printable_gridLines _ _ hreadable).mapError _).bind fun _ _ => printable_ok _

end ImportStubs.Console
