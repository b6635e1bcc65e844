import TableBook.Proofs.CoveredCell
import TableBook.Proofs.StrictReading

/-!
Positions inside the bounds. Every cell, row and column that a sheet holds lies
there after any run of operations; a region does unless its anchor is in row or
column 0, which nothing refuses. A table anchors nothing in such a place, so all
that its sheet holds lies inside the bounds.
-/

namespace TableBook

theorem Keyed.mem_keys_alter {κ α : Type} [Ord κ] [Std.TransOrd κ] [Std.LawfulEqOrd κ]
    [DecidableEq κ] {m : Keyed κ α} {k j : κ} {f : Option α → Option α}
    (h : j ∈ (m.alter k f).keys) : j ∈ m.keys ∨ j = k := by
  obtain ⟨e, he, rfl⟩ := List.mem_map.mp h
  rcases mem_entries_alter he with hold | ⟨heq, -⟩
  · exact .inl (List.mem_map_of_mem hold)
  · exact .inr heq

/-- A region that ends inside the bounds lies there if its anchor does. -/
theorem Merge.forall_inBounds_iff {m : Merge} (hrow : m.range.last.row ≤ maxRows)
    (hcolumn : m.range.last.column ≤ maxColumns) :
    (∀ a, m.range.contains a = true → a.InBounds) ↔
      1 ≤ m.anchor.row ∧ 1 ≤ m.anchor.column := by
  obtain ⟨⟨-, hlastRow⟩, -, hlastColumn⟩ := Range.contains_iff.mp m.contains_anchor
  have hlimits : maxRows ≤ lastIndex ∧ maxColumns ≤ lastIndex := by decide
  constructor
  · intro h
    obtain ⟨hrow, -, hcolumn, -⟩ := h m.anchor m.contains_anchor
    exact ⟨hrow, hcolumn⟩
  · rintro ⟨hanchorRow, hanchorColumn⟩ a ha
    have hle : m.anchor.row ≤ a.row ∧ m.anchor.column ≤ a.column :=
      anchor_le_of_contains (by omega) (by omega) ha
    obtain ⟨⟨-, hrow'⟩, -, hcolumn'⟩ := Range.contains_iff.mp ha
    exact ⟨hanchorRow.trans hle.1, hrow'.trans hrow, hanchorColumn.trans hle.2,
      hcolumn'.trans hcolumn⟩

namespace Address

theorem readRow_bounds {text : String} {digits : List Char} {row : Nat}
    (h : readRow text digits = .ok row) : 1 ≤ row ∧ row ≤ maxRows := by
  rw [readRow] at h
  split at h
  · cases h
  split at h
  · cases h
  split at h
  · cases h
  next hpos =>
    split at h
    · next hle =>
        cases h
        exact ⟨Nat.pos_of_ne_zero hpos, hle⟩
    · cases h

theorem inBounds_of_parse {cs : List Char} {a : Address} (h : parse cs = .ok a) : a.InBounds := by
  simp only [parse] at h
  split at h
  · cases h
  split at h
  · cases h
  split at h
  · cases h
  next hcolumn =>
    split at h
    · cases h
    · next hrow =>
        cases h
        obtain ⟨hpos, hle⟩ := readRow_bounds hrow
        exact ⟨hpos, hle, columnOfLetters_bounds hcolumn⟩

end Address

/-- A range is read from two addresses, or from one that is both its corners. -/
theorem Range.eq_ofCorners_of_parse {cs : List Char} {r : Range} (h : parse cs = .ok r) :
    ∃ a b : Address, a.InBounds ∧ b.InBounds ∧ r = ofCorners a b := by
  simp only [parse] at h
  split at h
  · next range hread =>
      cases h
      split at hread
      · split at hread
        · next a b ha hb =>
            cases hread
            exact ⟨a, b, Address.inBounds_of_parse ha, Address.inBounds_of_parse hb, rfl⟩
        · cases hread
      · split at hread
        · next a ha =>
            cases hread
            refine ⟨a, a, Address.inBounds_of_parse ha, Address.inBounds_of_parse ha, ?_⟩
            simp [single, ofCorners]
        · cases hread
  · cases h

theorem Range.inBounds_ofCorners {a b : Address} (ha : a.InBounds) (hb : b.InBounds) :
    (ofCorners a b).first.InBounds ∧ (ofCorners a b).last.InBounds := by
  simp only [Address.InBounds, ofCorners] at *
  omega

namespace Reader

variable {value : String}

theorem inBounds_of_address {a : Address} (h : address value = some a) : a.InBounds :=
  Address.inBounds_of_parse (toOption_eq_some_iff.mp h)

theorem inBounds_of_range {r : Range} (h : range value = some r) :
    r.first.InBounds ∧ r.last.InBounds := by
  obtain ⟨a, b, ha, hb, rfl⟩ := Range.eq_ofCorners_of_parse (toOption_eq_some_iff.mp h)
  exact Range.inBounds_ofCorners ha hb

end Reader

namespace Sheet

variable {s t : Sheet}

/-- Rows and columns with settings of their own, besides cells and regions. -/
structure Bounded (s : Sheet) : Prop extends s.Within where
  rows : ∀ row ∈ s.rows.keys, 1 ≤ row ∧ row ≤ maxRows
  columns : ∀ column ∈ s.columns.keys, 1 ≤ column ∧ column ≤ maxColumns

theorem bounded_new (name : String) : (new name).Bounded := by
  refine ⟨within_new name, ?_, ?_⟩
  · intro row hrow
    cases hrow
  · intro column hcolumn
    cases hcolumn

theorem Bounded.change (h : s.Bounded) (hchange : s.Change t) : t.Bounded := by
  have hwithin : t.Within := h.toWithin.change hchange
  cases hchange with
  | @column column f hcolumn =>
      refine ⟨hwithin, h.rows, ?_⟩
      intro k hk
      rcases Keyed.mem_keys_alter hk with hold | rfl
      · exact h.columns k hold
      · exact hcolumn
  | @row row f hrow =>
      refine ⟨hwithin, ?_, h.columns⟩
      intro k hk
      rcases Keyed.mem_keys_alter hk with hold | rfl
      · exact h.rows k hold
      · exact hrow
  | _ => exact ⟨hwithin, h.rows, h.columns⟩

theorem Reached.bounded (h : s.Reached) : s.Bounded := by
  obtain ⟨name, hname⟩ := h
  induction hname with
  | refl => exact bounded_new name
  | tail _ hchange ih => exact ih.change hchange

/-- In every state that a run of operations reaches, cells, rows and columns lie
inside the bounds, and no region ends past them. All of a region lies inside
exactly if its anchor is in neither row nor column 0. -/
theorem bounds_after (name : String) (operations : List Operation) :
    let s := (new name).after operations
    (∀ a, (s.cell? a).isSome = true → a.InBounds) ∧
      (∀ row ∈ s.rows.keys, 1 ≤ row ∧ row ≤ maxRows) ∧
      (∀ column ∈ s.columns.keys, 1 ≤ column ∧ column ≤ maxColumns) ∧
      ∀ m ∈ s.merges,
        (∀ a, m.range.contains a = true → a.row ≤ maxRows ∧ a.column ≤ maxColumns) ∧
        ((∀ a, m.range.contains a = true → a.InBounds) ↔
          1 ≤ m.anchor.row ∧ 1 ≤ m.anchor.column) := by
  intro s
  have hs : s.Bounded := (reached_after name operations).bounded
  refine ⟨hs.cells, hs.rows, hs.columns, ?_⟩
  intro m hm
  obtain ⟨hrow, hcolumn⟩ := hs.regions m hm
  refine ⟨?_, Merge.forall_inBounds_iff hrow hcolumn⟩
  intro a ha
  obtain ⟨⟨-, hlastRow⟩, -, hlastColumn⟩ := Range.contains_iff.mp ha
  exact ⟨hlastRow.trans hrow, hlastColumn.trans hcolumn⟩

/-- A region of two rows from row 0 on is registered, though no cell may be
written there. -/
theorem bounds_after_row_zero :
    let m := Merge.ofSpans ⟨0, 1⟩ 1 2
    let s := (new "Sheet1").after [.edit (.merge m)]
    m ∈ s.merges ∧ m.range.contains ⟨0, 1⟩ = true ∧ ¬Address.InBounds ⟨0, 1⟩ ∧
      s.checkWritable ⟨0, 1⟩ = .error (.rowOutOfBounds 0) := by
  decide

/-- What a table anchors to cells: images and regions start inside the bounds, and
so do the freeze pane and the filter, which also ends there. -/
structure Anchored (s : Sheet) : Prop where
  drawings : ∀ d ∈ s.drawings, d.anchor.InBounds
  regions : ∀ m ∈ s.merges, m.anchor.InBounds
  freeze : ∀ a, s.freeze = some a → a.InBounds
  autoFilter : ∀ r, s.autoFilter = some r → r.first.InBounds ∧ r.last.InBounds

theorem Anchored.fill (h : s.Anchored) (hfill : s.Fill t) : t.Anchored := by
  constructor
  · intro d hd
    exact (hfill.drawings d hd).elim (h.drawings d) id
  · intro m hm
    exact (hfill.merges m hm).elim (h.regions m) id
  · rw [hfill.freeze]
    exact h.freeze
  · rw [hfill.autoFilter]
    exact h.autoFilter

theorem Anchored.fills (h : s.Anchored) (hfills : s.Fills t) : t.Anchored := by
  induction hfills with
  | refl => exact h
  | tail _ hfill ih => exact ih.fill hfill

theorem settings_of_fills (h : s.Fills t) :
    t.freeze = s.freeze ∧ t.autoFilter = s.autoFilter ∧ t.page = s.page := by
  induction h with
  | refl => exact ⟨rfl, rfl, rfl⟩
  | tail _ hfill ih =>
      exact ⟨hfill.freeze.trans ih.1, hfill.autoFilter.trans ih.2.1, hfill.page.trans ih.2.2⟩

section Start

variable (options : Options) (table : Element) (taken : List String)

theorem withSetting_keeps {α β : Type} {value : Option String} {read : String → Option α}
    {set : Sheet → α → Sheet} (part : Sheet → β) (hset : ∀ s x, part (set s x) = part s) :
    part (s.withSetting value read set) = part s :=
  keeps_withSetting (P := fun t => part t = part s) rfl (hset s)

theorem drawings_start : (start options table taken).drawings = [] :=
  (sameContents_withTableSettings _ table).drawings

theorem columns_start : (start options table taken).columns = ∅ :=
  (sameContents_withTableSettings _ table).columns

theorem rows_start : (start options table taken).rows = ∅ :=
  (sameContents_withTableSettings _ table).rows

theorem pool_start : (start options table taken).pool = .new :=
  (sameContents_withTableSettings _ table).pool

theorem defaultWidth_start :
    (start options table taken).defaultWidth =
      (table.mark? .defaultColumnWidth).bind Directive.readPositive := by
  rw [start, withTableSettings]
  iterate 6 refine (withSetting_keeps Sheet.defaultWidth (by intros; rfl)).trans ?_
  rw [withSetting]
  split
  · next width hwidth => exact hwidth.symm
  · next hnone =>
      rw [hnone]
      iterate 2 refine (withSetting_keeps Sheet.defaultWidth (by intros; rfl)).trans ?_
      rfl

theorem freeze_start :
    (start options table taken).freeze = (table.mark? .freeze).bind Reader.address := by
  rw [start, withTableSettings]
  iterate 8 refine (withSetting_keeps Sheet.freeze (by intros; rfl)).trans ?_
  rw [withSetting]
  split
  · next a ha => exact ha.symm
  · next hnone => exact hnone.symm

theorem autoFilter_start :
    (start options table taken).autoFilter = (table.mark? .autofilter).bind Reader.range := by
  rw [start, withTableSettings]
  iterate 7 refine (withSetting_keeps Sheet.autoFilter (by intros; rfl)).trans ?_
  rw [withSetting]
  split
  · next r hr => exact hr.symm
  · next hnone =>
      exact (withSetting_keeps Sheet.autoFilter (by intros; rfl)).trans hnone.symm

theorem anchored_start : (start options table taken).Anchored := by
  constructor
  · rw [drawings_start]
    exact List.forall_mem_nil _
  · rw [(bare_start options table taken).merges]
    exact List.forall_mem_nil _
  · intro a ha
    rw [freeze_start] at ha
    obtain ⟨text, -, hread⟩ := Option.bind_eq_some_iff.mp ha
    exact Reader.inBounds_of_address hread
  · intro r hr
    rw [autoFilter_start] at hr
    obtain ⟨text, -, hread⟩ := Option.bind_eq_some_iff.mp hr
    exact Reader.inBounds_of_range hread

end Start

/-- All that a sheet holds and points to lies inside the bounds, and its filter ends
below and right of where it starts. -/
structure Inside (s : Sheet) : Prop where
  cells : ∀ a, (s.cell? a).isSome = true → a.InBounds
  regions : ∀ m ∈ s.merges, ∀ a, m.range.contains a = true → a.InBounds
  rows : ∀ row ∈ s.rows.keys, 1 ≤ row ∧ row ≤ maxRows
  columns : ∀ column ∈ s.columns.keys, 1 ≤ column ∧ column ≤ maxColumns
  drawings : ∀ d ∈ s.drawings, d.anchor.InBounds
  freeze : ∀ a, s.freeze = some a → a.InBounds
  autoFilter : ∀ r, s.autoFilter = some r → r.first.InBounds ∧ r.last.InBounds ∧
    r.first.row ≤ r.last.row ∧ r.first.column ≤ r.last.column

theorem Bounded.inside (h : s.Bounded) (hanchored : s.Anchored) : s.Inside where
  cells := h.cells
  regions := by
    intro m hm
    obtain ⟨hrow, hcolumn⟩ := h.regions m hm
    obtain ⟨hfirstRow, -, hfirstColumn, -⟩ := hanchored.regions m hm
    exact (Merge.forall_inBounds_iff hrow hcolumn).mpr ⟨hfirstRow, hfirstColumn⟩
  rows := h.rows
  columns := h.columns
  drawings := hanchored.drawings
  freeze := hanchored.freeze
  autoFilter := by
    intro r hr
    obtain ⟨hfirst, hlast⟩ := hanchored.autoFilter r hr
    exact ⟨hfirst, hlast, r.row_le, r.column_le⟩

theorem inside_of_ofTable {context : Context} {table : Element} {taken : List String}
    (h : Sheet.ofTable context table taken = .ok s) :
    s.Inside ∧ s.freeze = (table.mark? .freeze).bind Reader.address ∧
      s.autoFilter = (table.mark? .autofilter).bind Reader.range := by
  obtain ⟨t, hfills, rfl⟩ := fills_of_ofTable h
  have hall : (start context.options table taken).Fills (t.withAutosize table) :=
    hfills.trans (fills_withAutosize t table)
  have hreached : (t.withAutosize table).Reached :=
    (reached_start context.options table taken).changes hall.changes
  have hanchored : (t.withAutosize table).Anchored := (anchored_start _ table taken).fills hall
  obtain ⟨hfreeze, hfilter, -⟩ := settings_of_fills hall
  rw [freeze_start] at hfreeze
  rw [autoFilter_start] at hfilter
  exact ⟨hreached.bounded.inside hanchored, hfreeze, hfilter⟩

end Sheet

namespace Workbook

/-- Whatever the marks of a document say, its sheets keep inside the bounds. Freeze
panes and filters are those that can be read, and the others are left out. -/
theorem ofNodes_inside {context : Context} {nodes : List Node} {w : Workbook}
    (h : ofNodes context nodes = .ok w) :
    List.Forall₂
      (fun table s => s.Inside ∧ s.freeze = (table.mark? .freeze).bind Reader.address ∧
        s.autoFilter = (table.mark? .autofilter).bind Reader.range)
      (Node.findAll Element.isSheetTable nodes) w.sheets :=
  forall₂_ofNodes (fun _ _ _ => Sheet.inside_of_ofTable) h

/-- A freeze pane in the last cell, a filter written from its last cell to its first
one, an image, and a region down to the last row. -/
theorem ofNodes_inside_corners :
    let context : Context := ⟨∅, {}, {}⟩
    let nodes : List Node := [.element ⟨"table", [(Mark.sheet.name, "Data"),
        (Mark.freeze.name, "XFD1048576"), (Mark.autofilter.name, "C3:$A$1")], [
      .element ⟨"colgroup", [], [.element ⟨"col", [(Mark.width.name, "12")], []⟩]⟩,
      .element ⟨"tr", [(Mark.height.name, "20")], [
        .element ⟨"td", [(Mark.image.name, "data:image/png;base64,AA==")], []⟩,
        .element ⟨"td", [(Mark.rowSpan.name, "1048576")], []⟩]⟩]⟩]
    let corners : Sheet → Option Address × Option Range × List Merge :=
      fun s => (s.freeze, s.autoFilter, s.merges)
    ∃ w, ofNodes context nodes = .ok w ∧
      w.sheets.map corners = [(some ⟨maxRows, maxColumns⟩, some (.ofCorners ⟨1, 1⟩ ⟨3, 3⟩),
        [Merge.ofSpans ⟨1, 2⟩ 1 maxRows])] ∧
      List.Forall₂ (fun _ s => s.Inside) (Node.findAll Element.isSheetTable nodes) w.sheets := by
  intro context nodes corners
  have hsheets : ((ofNodes context nodes).toOption.map fun w => w.sheets.map corners) =
      some [(some ⟨maxRows, maxColumns⟩, some (.ofCorners ⟨1, 1⟩ ⟨3, 3⟩),
        [Merge.ofSpans ⟨1, 2⟩ 1 maxRows])] := by
    decide +kernel
  obtain ⟨w, h, hcorners⟩ := exists_ok_of_map_toOption hsheets
  exact ⟨w, h, hcorners, (ofNodes_inside h).imp fun _ _ hs => hs.1⟩

end Workbook

end TableBook
