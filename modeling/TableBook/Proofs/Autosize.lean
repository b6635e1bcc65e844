import TableBook.Proofs.Bounds
import TableBook.Proofs.ChoiceList
import TableBook.Proofs.ColumnLetters
import TableBook.Proofs.DressedColumn
import TableBook.Proofs.TableEdits

namespace TableBook

open Text

section Traversal

variable {α β : Type} {f : α → Option β} {xs : List α} {x : α}

theorem mapM_eq_some_filterMap (h : ∀ x ∈ xs, (f x).isSome = true) :
    xs.mapM f = some (xs.filterMap f) := by
  induction xs with
  | nil => rfl
  | cons x xs ih =>
      rw [List.forall_mem_cons] at h
      obtain ⟨y, hy⟩ := Option.isSome_iff_exists.mp h.1
      rw [List.mapM_cons, hy, ih h.2, List.filterMap_cons_some hy]
      rfl

theorem mapM_eq_none (hx : x ∈ xs) (h : f x = none) : xs.mapM f = none := by
  induction xs with
  | nil => cases hx
  | cons x' xs ih =>
      rw [List.mapM_cons]
      rcases List.mem_cons.mp hx with rfl | hx
      · rw [h]
        rfl
      · rw [ih hx]
        cases f x' <;> rfl

end Traversal

namespace Reader

variable {cs : List Char} {value : String} {column : Nat}

/-- A text names a column by its letters in either case, with blanks or nothing around them. -/
def NamesColumn (cs : List Char) (column : Nat) : Prop :=
  Address.AreLetters (trim cs) ∧ Address.numberOf (trim cs) = column ∧ column ≤ maxColumns

theorem column_eq_some_iff : Reader.column cs = some column ↔ NamesColumn cs column := by
  rw [Reader.column, toOption_eq_some_iff, Address.columnOfLetters_eq_ok_iff, NamesColumn]

theorem isSome_column_iff : (Reader.column cs).isSome = true ↔ ∃ k, NamesColumn cs k := by
  simp only [Option.isSome_iff_exists, column_eq_some_iff]

theorem NamesColumn.bounds (h : NamesColumn cs column) : 1 ≤ column ∧ column ≤ maxColumns :=
  Address.columnOfLetters_bounds (toOption_eq_some_iff.mp (column_eq_some_iff.mpr h))

theorem NamesColumn.colon_notMem (h : NamesColumn cs column) : ':' ∉ cs := by
  intro hcolon
  rcases isBlank_or_mem_trim hcolon with hblank | htrim
  · exact absurd hblank (by decide)
  · exact absurd (h.1.2 ':' htrim) (by decide)

/-- An autosize mark asks for a column: the word `true` for those in use, two columns around a
colon for all between them, and columns between commas for each of them. -/
inductive Sizes (value : String) (used : Nat → Prop) (column : Nat) : Prop
  | used (hword : value = "true") (h : used column)
  | between {first last : List Char} {a b : Nat} (hvalue : value.toList = first ++ ':' :: last)
      (ha : NamesColumn first a) (hb : NamesColumn last b) (hmin : min a b ≤ column)
      (hmax : column ≤ max a b)
  | listed {piece : List Char}
      (hall : ∀ piece ∈ pieces ',' value.toList, ∃ k, NamesColumn piece k)
      (hpiece : piece ∈ pieces ',' value.toList) (h : NamesColumn piece column)

theorem colon_notMem_of_pieces (h : ∀ piece ∈ pieces ',' cs, ∃ k, NamesColumn piece k) :
    ':' ∉ cs := by
  intro hcolon
  have hflat : ':' ∈ (pieces ',' cs).flatten := by
    rw [flatten_pieces, List.mem_filter]
    exact ⟨hcolon, rfl⟩
  obtain ⟨piece, hpiece, hmem⟩ := List.mem_flatten.mp hflat
  obtain ⟨k, hk⟩ := h piece hpiece
  exact hk.colon_notMem hmem

theorem autosize_true (used : List Nat) : autosize "true" used = some used := if_pos rfl

theorem autosize_between {first last : List Char} {a b : Nat} (used : List Nat)
    (hvalue : value.toList = first ++ ':' :: last) (ha : NamesColumn first a)
    (hb : NamesColumn last b) :
    autosize value used = some ((List.range (max a b - min a b + 1)).map (min a b + ·)) := by
  have hword : value ≠ "true" := by
    rintro rfl
    have hcolon : ':' ∈ "true".toList := hvalue ▸ List.mem_append_right _ List.mem_cons_self
    exact absurd hcolon (by decide)
  rw [autosize, if_neg hword, hvalue, cut_append ha.colon_notMem]
  dsimp only
  rw [column_eq_some_iff.mpr ha, column_eq_some_iff.mpr hb]
  rfl

theorem autosize_listed (used : List Nat)
    (hall : ∀ piece ∈ pieces ',' value.toList, ∃ k, NamesColumn piece k) :
    autosize value used = some ((pieces ',' value.toList).filterMap Reader.column) := by
  have hword : value ≠ "true" := by
    rintro rfl
    have hnone : Reader.column "true".toList = none := by decide
    obtain ⟨k, hk⟩ := hall "true".toList (by decide)
    rw [← column_eq_some_iff, hnone] at hk
    cases hk
  rw [autosize, if_neg hword, cut_eq_none_iff.mpr (colon_notMem_of_pieces hall)]
  exact mapM_eq_some_filterMap fun piece hpiece => isSome_column_iff.mpr (hall piece hpiece)

/-- All that is understood is one of the three forms. -/
theorem form_of_autosize {used columns : List Nat} (h : autosize value used = some columns) :
    value = "true" ∨
      (∃ first last a b, value.toList = first ++ ':' :: last ∧ NamesColumn first a ∧
        NamesColumn last b) ∨
      ∀ piece ∈ pieces ',' value.toList, ∃ k, NamesColumn piece k := by
  rw [autosize] at h
  split at h
  · next hword => exact .inl hword
  · split at h
    · next first last hcut =>
        obtain ⟨a, ha, h⟩ := Option.bind_eq_some_iff.mp h
        obtain ⟨b, hb, -⟩ := Option.bind_eq_some_iff.mp h
        exact .inr (.inl ⟨first, last, a, b, eq_append_of_cut hcut, column_eq_some_iff.mp ha,
          column_eq_some_iff.mp hb⟩)
    · refine .inr (.inr ?_)
      intro piece hpiece
      rw [← isSome_column_iff, Option.isSome_iff_ne_none]
      intro hnone
      rw [mapM_eq_none hpiece hnone] at h
      cases h

/-- The columns that are read from a mark are those that it asks for. -/
theorem exists_autosize_iff {used : List Nat} :
    (∃ columns, autosize value used = some columns ∧ column ∈ columns) ↔
      Sizes value (· ∈ used) column := by
  constructor
  · rintro ⟨columns, hread, hmem⟩
    rcases form_of_autosize hread with rfl | ⟨first, last, a, b, hvalue, ha, hb⟩ | hall
    · rw [autosize_true] at hread
      cases hread
      exact .used rfl hmem
    · rw [autosize_between used hvalue ha hb] at hread
      cases hread
      obtain ⟨i, hi, rfl⟩ := List.mem_map.mp hmem
      rw [List.mem_range] at hi
      exact .between hvalue ha hb (by omega) (by omega)
    · rw [autosize_listed used hall] at hread
      cases hread
      obtain ⟨piece, hpiece, hcolumn⟩ := List.mem_filterMap.mp hmem
      exact .listed hall hpiece (column_eq_some_iff.mp hcolumn)
  · intro h
    cases h with
    | used hword hused =>
        subst hword
        exact ⟨used, autosize_true used, hused⟩
    | @between first last a b hvalue ha hb hmin hmax =>
        refine ⟨_, autosize_between used hvalue ha hb, List.mem_map.mpr ⟨column - min a b, ?_, ?_⟩⟩
        · rw [List.mem_range]
          omega
        · exact Nat.add_sub_cancel' hmin
    | listed hall hpiece hcolumn =>
        refine ⟨_, autosize_listed used hall, List.mem_filterMap.mpr ⟨_, hpiece, ?_⟩⟩
        exact column_eq_some_iff.mpr hcolumn

theorem Sizes.bounds {used : Nat → Prop} (hused : ∀ k, used k → 1 ≤ k ∧ k ≤ maxColumns)
    (h : Sizes value used column) : 1 ≤ column ∧ column ≤ maxColumns := by
  cases h with
  | used hword h => exact hused column h
  | between hvalue ha hb hmin hmax =>
      have hfirst := ha.bounds
      have hlast := hb.bounds
      omega
  | listed hall hpiece h => exact h.bounds

/-- What stands for a column in a mark: the texts around its first colon, or those between
commas. -/
def columnTexts (value : String) : List (List Char) :=
  match cut ':' value.toList with
  | some (first, last) => [first, last]
  | none => pieces ',' value.toList

/-- One text that names no column spoils all of them. -/
theorem not_sizes_of_columnTexts {used : Nat → Prop} {cs : List Char} (hword : value ≠ "true")
    (hcs : cs ∈ columnTexts value) (h : ∀ k, ¬NamesColumn cs k) : ¬Sizes value used column := by
  rw [columnTexts] at hcs
  intro hsizes
  cases hsizes with
  | used htrue => exact hword htrue
  | between hvalue ha hb =>
      rw [hvalue, cut_append ha.colon_notMem] at hcs
      simp only [List.mem_cons, List.not_mem_nil, or_false] at hcs
      rcases hcs with rfl | rfl
      · exact h _ ha
      · exact h _ hb
  | listed hall =>
      rw [cut_eq_none_iff.mpr (colon_notMem_of_pieces hall)] at hcs
      obtain ⟨k, hk⟩ := hall cs hcs
      exact h k hk

end Reader

namespace Sheet

variable {s t u : Sheet} {context : Context} {column k : Nat}

theorem columnOrFresh_changeColumn (s : Sheet) (column k : Nat) (f : Column → Column) :
    (s.changeColumn column f).columnOrFresh k =
      if k = column then f (s.columnOrFresh column) else s.columnOrFresh k := by
  rw [columnOrFresh, get?_changeColumn]
  split
  · rfl
  · rfl

theorem columnOrFresh_autosizeColumns {columns : List Nat}
    (h : ∀ column ∈ columns, 1 ≤ column ∧ column ≤ maxColumns) (k : Nat) :
    (s.autosizeColumns columns).columnOrFresh k =
      { s.columnOrFresh k with autoSize := (s.columnOrFresh k).autoSize || decide (k ∈ columns) } := by
  induction columns generalizing s with
  | nil => simp [autosizeColumns]
  | cons column rest ih =>
      rw [List.forall_mem_cons] at h
      have hstep : s.autosizeColumns (column :: rest) =
          (s.changeColumn column fun c => { c with autoSize := true }).autosizeColumns rest := by
        rw [autosizeColumns, List.foldl_cons, editColumn_eq_ok_iff.mpr ⟨h.1, rfl⟩]
        rfl
      rw [hstep, ih h.2, columnOrFresh_changeColumn]
      by_cases hk : k = column
      · subst hk
        simp
      · simp [hk]

theorem columns_of_editCell {a : Address} {f : Cell → Cell} (h : s.editCell a f = .ok t) :
    t.columns = s.columns := by
  obtain ⟨-, rfl⟩ := editCell_eq_ok_iff.mp h
  rfl

theorem columns_of_cellEdit {cell : Element} {a : Address} {rowStyle : Option String} {edit : Edit}
    (hedit : cell.CellEdit context a rowStyle edit) (h : s.attempt edit = ⟨t, none⟩) :
    t.columns = s.columns := by
  cases hedit with
  | drawing =>
      cases h
      rfl
  | style =>
      obtain ⟨-, rfl⟩ := styleCell_eq_ok_iff.mp (ofExcept_eq_ok_iff.mp h)
      rfl
  | merge =>
      obtain ⟨-, rfl⟩ := merge_eq_ok_iff.mp (ofExcept_eq_ok_iff.mp h)
      rfl
  | _ => exact columns_of_editCell (ofExcept_eq_ok_iff.mp h)

/-- No element of a table marks a column for sizing. -/
theorem autoSize_of_tableEdit {table : Element} {edit : Edit} (hedit : table.TableEdit context edit)
    (h : s.attempt edit = ⟨t, none⟩) (k : Nat) :
    (t.columnOrFresh k).autoSize = (s.columnOrFresh k).autoSize := by
  have hchange : ∀ column (f : Column → Column), s.editColumn column f = .ok t →
      (∀ c, (f c).autoSize = c.autoSize) →
        (t.columnOrFresh k).autoSize = (s.columnOrFresh k).autoSize := by
    intro column f hok hf
    obtain ⟨-, rfl⟩ := editColumn_eq_ok_iff.mp hok
    rw [columnOrFresh_changeColumn]
    split
    · next hk => rw [hf, hk]
    · rfl
  cases hedit with
  | @width e column width =>
      have hok : s.editColumn column (fun c => { c with width := some width }) = .ok t :=
        ofExcept_eq_ok_iff.mp h
      exact hchange _ _ hok fun _ => rfl
  | @hidden e column =>
      have hok : s.editColumn column (fun c => { c with hidden := true }) = .ok t :=
        ofExcept_eq_ok_iff.mp h
      exact hchange _ _ hok fun _ => rfl
  | @column e column =>
      have hrestyled := columnRestyled_of_ok h
      by_cases hk : k = column
      · obtain ⟨place, hplace⟩ := hrestyled.settings
        rw [hk, columnOrFresh, hplace]
        rfl
      · rw [columnOrFresh, hrestyled.otherColumns k hk, columnOrFresh]
  | height =>
      obtain ⟨-, rfl⟩ := setRowHeight_eq_ok_iff.mp (ofExcept_eq_ok_iff.mp h)
      rfl
  | cell he hcell hedit => rw [columnOrFresh, columns_of_cellEdit hedit h, columnOrFresh]

/-- Before the sizing no column is marked. -/
theorem not_autoSize_of_placeRows {table : Element} {taken : List String}
    (hcolumns : (start context.options table taken).withColumns context 1 table.columnElements =
      .ok s) (hrows : s.placeRows context 1 table.tableRows = .ok t) (k : Nat) :
    (t.columnOrFresh k).autoSize = false := by
  have hsteps : (start context.options table taken).Steps (table.TableEdit context) t :=
    (steps_withColumns (fun _ => id) hcolumns).trans (steps_placeRows (fun _ => id) hrows)
  refine hsteps.invariant (P := fun s => (s.columnOrFresh k).autoSize = false) ?_ ?_
  · intro edit s t hedit hok hs
    rw [autoSize_of_tableEdit hedit hok, hs]
  · rw [columnOrFresh, columns_start]
    rfl

theorem Laid.mem_usedColumns_iff {slots : List Slot} (h : s.Laid slots) :
    k ∈ s.grid.usedColumns ↔ ∃ slot ∈ slots, slot.address.column = k := by
  rw [Grid.mem_usedColumns_iff]
  constructor
  · rintro ⟨a, ha, rfl⟩
    obtain ⟨slot, hslot, rfl⟩ := List.mem_map.mp ((h.stored a).mp ha)
    exact ⟨slot, hslot, rfl⟩
  · rintro ⟨slot, hslot, rfl⟩
    exact ⟨slot.address, (h.stored _).mpr (List.mem_map_of_mem hslot), rfl⟩

/-- What the sizing of the columns does to each of them. -/
theorem columnOrFresh_withAutosize {used : Nat → Prop} (table : Element)
    (hused : ∀ k, k ∈ s.grid.usedColumns ↔ used k)
    (hbounds : ∀ k, used k → 1 ≤ k ∧ k ≤ maxColumns) (k : Nat) :
    ∃ autoSize, (s.withAutosize table).columnOrFresh k = { s.columnOrFresh k with autoSize } ∧
      (autoSize = true ↔ (s.columnOrFresh k).autoSize = true ∨
        ∃ value, table.mark? .autosize = some value ∧ Reader.Sizes value used k) := by
  obtain rfl : (· ∈ s.grid.usedColumns) = used := funext fun k => propext (hused k)
  rw [withAutosize]
  cases hmark : table.mark? .autosize with
  | none => exact ⟨(s.columnOrFresh k).autoSize, rfl, by simp⟩
  | some value =>
      rw [Option.bind_some]
      have hread : ∀ k, _ ↔ Reader.Sizes value (· ∈ s.grid.usedColumns) k :=
        fun k => Reader.exists_autosize_iff
      cases hcolumns : Reader.autosize value s.grid.usedColumns with
      | none =>
          have hnone : ¬Reader.Sizes value (· ∈ s.grid.usedColumns) k := by
            rw [← hread, hcolumns]
            simp
          exact ⟨(s.columnOrFresh k).autoSize, rfl, by simp [hnone]⟩
      | some columns =>
          have hmem : ∀ k, k ∈ columns ↔ Reader.Sizes value (· ∈ s.grid.usedColumns) k := by
            intro k
            rw [← hread, hcolumns]
            simp
          have hall : ∀ k ∈ columns, 1 ≤ k ∧ k ≤ maxColumns :=
            fun k hk => ((hmem k).mp hk).bounds hbounds
          exact ⟨_, columnOrFresh_autosizeColumns hall k, by simp [hmem]⟩

/-- The sizing of the columns is the last stage of the reading of a table. -/
theorem autosize_ofTable {table : Element} {taken : List String}
    (h : Sheet.ofTable context table taken = .ok s) :
    ∃ slots t u, TableLayout context.options.policy [] 1 table.tableRows slots ∧
      (start context.options table taken).withColumns context 1 table.columnElements = .ok t ∧
      t.placeRows context 1 table.tableRows = .ok u ∧ s = u.withAutosize table ∧
      ∀ k, ∃ autoSize, s.columnOrFresh k = { u.columnOrFresh k with autoSize } ∧
        (autoSize = true ↔ ∃ value, table.mark? .autosize = some value ∧
          Reader.Sizes value (fun k => ∃ slot ∈ slots, slot.address.column = k) k) := by
  obtain ⟨t, u, hcolumns, ht, hrows, rfl⟩ := ofTable_eq_ok h
  obtain ⟨slots, hlayout, hlaid⟩ := ht.laid.placeRows (by simp) hrows
  rw [List.nil_append] at hlaid
  refine ⟨slots, t, u, hlayout, hcolumns, hrows, rfl, ?_⟩
  intro k
  have hbounds : ∀ k, (∃ slot ∈ slots, slot.address.column = k) → 1 ≤ k ∧ k ≤ maxColumns := by
    rintro k ⟨slot, hslot, rfl⟩
    exact (hlaid.fits slot hslot).1.2.2
  obtain ⟨autoSize, hcolumn, hiff⟩ :=
    columnOrFresh_withAutosize table (fun k => hlaid.mem_usedColumns_iff) hbounds k
  rw [not_autoSize_of_placeRows hcolumns hrows] at hiff
  exact ⟨autoSize, hcolumn, by simpa using hiff⟩

end Sheet

namespace Workbook

/-- A column of a sheet is marked for sizing by its content if and only if the table asks for
it: for all columns that a cell stands in, for all between two columns, or for each of a list.
If one text of the mark names no column, none is marked. The sizing changes nothing else about
any column: it is the last stage of the reading, and its other settings are those that the
column elements have left. -/
theorem ofNodes_autosize {context : Context} {nodes : List Node} {w : Workbook}
    (h : ofNodes context nodes = .ok w) :
    List.Forall₂
      (fun table s => ∃ slots taken t u,
        TableLayout context.options.policy [] 1 table.tableRows slots ∧
          (∀ k, (s.columnOrFresh k).autoSize = true ↔
            ∃ value, table.mark? .autosize = some value ∧
              Reader.Sizes value (fun k => ∃ slot ∈ slots, slot.address.column = k) k) ∧
          (∀ value, table.mark? .autosize = some value → value ≠ "true" →
            (∃ cs ∈ Reader.columnTexts value, ∀ k, ¬Reader.NamesColumn cs k) →
              ∀ k, (s.columnOrFresh k).autoSize = false) ∧
          (Sheet.start context.options table taken).withColumns context 1 table.columnElements =
            .ok t ∧
          t.placeRows context 1 table.tableRows = .ok u ∧ s = u.withAutosize table ∧
          ∀ k, (s.columnOrFresh k).width = (u.columnOrFresh k).width ∧
            (s.columnOrFresh k).hidden = (u.columnOrFresh k).hidden ∧
              (s.columnOrFresh k).style = (u.columnOrFresh k).style)
      (Node.findAll Element.isSheetTable nodes) w.sheets := by
  refine forall₂_ofNodes ?_ h
  intro table taken s hs
  obtain ⟨slots, t, u, hlayout, hcolumns, hrows, hsheet, hall⟩ := Sheet.autosize_ofTable hs
  have hsized : ∀ k, (s.columnOrFresh k).autoSize = true ↔
      ∃ value, table.mark? .autosize = some value ∧
        Reader.Sizes value (fun k => ∃ slot ∈ slots, slot.address.column = k) k := by
    intro k
    obtain ⟨autoSize, hcolumn, hiff⟩ := hall k
    rw [hcolumn]
    exact hiff
  refine ⟨slots, taken, t, u, hlayout, hsized, ?_, hcolumns, hrows, hsheet, ?_⟩
  · rintro value hmark hword ⟨cs, hcs, hnone⟩ k
    rw [← Bool.not_eq_true, hsized]
    rintro ⟨value', hmark', hsizes⟩
    obtain rfl := Option.some.inj (hmark.symm.trans hmark')
    exact Reader.not_sizes_of_columnTexts hword hcs hnone hsizes
  · intro k
    obtain ⟨autoSize, hcolumn, -⟩ := hall k
    rw [hcolumn]
    exact ⟨rfl, rfl, rfl⟩

/-- The columns with a cell, of which one is left out by a span; two columns with blanks around
their letters, the last one first; and a list with a text that is no column. -/
theorem ofNodes_autosize_forms :
    let context : Context := ⟨∅, { strict := false }, {}⟩
    let table (value : String) : Node := .element
      ⟨"table", [(Mark.sheet.name, value), (Mark.autosize.name, value)], [.element ⟨"tr", [], [
        .element ⟨"td", [(Mark.columnSpan.name, "2")], []⟩, .element ⟨"th", [], []⟩]⟩]⟩
    let nodes := [table "true", table " c : B", table "A,2"]
    ∃ w, ofNodes context nodes = .ok w ∧
      w.sheets.map (fun s => [1, 2, 3, 4].map fun k => (s.columnOrFresh k).autoSize) =
        [[true, false, true, false], [false, true, true, false], [false, false, false, false]] ∧
      List.Forall₂
        (fun table s => ∃ slots, TableLayout .skipCovered [] 1 table.tableRows slots ∧
          ∀ k, (s.columnOrFresh k).autoSize = true ↔
            ∃ value, table.mark? .autosize = some value ∧
              Reader.Sizes value (fun k => ∃ slot ∈ slots, slot.address.column = k) k)
        (Node.findAll Element.isSheetTable nodes) w.sheets := by
  intro context table nodes
  have hsheets : ((ofNodes context nodes).toOption.map fun w =>
      w.sheets.map fun s => [1, 2, 3, 4].map fun k => (s.columnOrFresh k).autoSize) =
        some [[true, false, true, false], [false, true, true, false],
          [false, false, false, false]] := by
    decide +kernel
  obtain ⟨w, h, hcolumns⟩ := exists_ok_of_map_toOption hsheets
  refine ⟨w, h, hcolumns, (ofNodes_autosize h).imp ?_⟩
  rintro table s ⟨slots, taken, t, u, hlayout, hsized, -⟩
  exact ⟨slots, hlayout, hsized⟩

end Workbook

end TableBook
