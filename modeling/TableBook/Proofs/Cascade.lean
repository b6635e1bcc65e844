import TableBook.Proofs.DressedColumn
import TableBook.Proofs.Restyling
import TableBook.Proofs.TableSheet

/-!
The look of the sheet of a table. A place that holds no cell of the table shows
the style of its column; one that does shows the styles of column, row and cell,
the look of a link and the directives, each laid on those before it.
-/

namespace TableBook

open TableFault

namespace Element

/-- The element that describes a column, over all groups. -/
def column? (table : Element) : Nat → Option Element
  | 0 => none
  | n + 1 => table.columnElements[n]?

def row? (table : Element) : Nat → Option Element
  | 0 => none
  | n + 1 => table.tableRows[n]?

def linkLook (cell : Element) : Style := if (cell.mark? .link).isSome then Style.link else {}

end Element

namespace Context

/-- The style that an element names is known; an element that names none, or is
not there, counts as naming the empty one. -/
def Names (context : Context) (e? : Option Element) (style : Style) : Prop :=
  match e?.bind (·.mark? .namedStyle) with
  | some name => context.catalogue.get? name = some style
  | none => style = {}

/-- What makes up the look of a cell of a table, the undermost style first. -/
def Layers (context : Context) (table : Element) (slot : Slot) (layers : List Style) : Prop :=
  ∃ column row own, context.Names (table.column? slot.address.column) column ∧
    context.Names (table.row? slot.address.row) row ∧ context.Names (some slot.cell) own ∧
    layers = column :: row :: own :: slot.cell.linkLook :: slot.cell.fragments

variable {context : Context}

theorem names_of_liftStyle {e : Element} {name : String} {style : Style}
    (hname : e.mark? .namedStyle = some name)
    (h : liftStyle (context.catalogue.named name) = .ok style) :
    context.Names (some e) style := by
  have hnamed : context.catalogue.named name = .ok style := mapError_eq_ok_iff.mp h
  rw [Catalogue.named] at hnamed
  rw [Names, Option.bind_some, hname]
  split at hnamed
  · next found => exact found.trans (congrArg some (Except.ok.inj hnamed))
  · cases hnamed

theorem names_of_namedStyle {e : Element} {style : Style}
    (h : Sheet.namedStyle context (e.mark? .namedStyle) = .ok style) :
    context.Names (some e) style := by
  cases hname : e.mark? .namedStyle with
  | none =>
      rw [hname] at h
      rw [Names, Option.bind_some, hname]
      exact (Except.ok.inj h).symm
  | some name =>
      rw [hname] at h
      exact names_of_liftStyle hname h

theorem layers_of_cellStyle {table row : Element} {slot : Slot} {base style : Style}
    (hbase : context.Names (table.column? slot.address.column) base)
    (hrow : table.row? slot.address.row = some row)
    (h : Sheet.cellStyle context slot.cell (row.mark? .namedStyle) = .ok style) :
    ∃ layers, context.Layers table slot layers ∧
      base.merge style = layers.foldl Style.merge {} := by
  obtain ⟨rowStyle, hrowStyle, h⟩ := bind_eq_ok_iff.mp h
  obtain ⟨own, hown, h⟩ := bind_eq_ok_iff.mp h
  refine ⟨base :: rowStyle :: own :: slot.cell.linkLook :: slot.cell.fragments, ?_, ?_⟩
  · refine ⟨base, rowStyle, own, hbase, ?_, names_of_namedStyle hown, rfl⟩
    rw [hrow]
    exact names_of_namedStyle hrowStyle
  · rw [List.foldl_cons, Style.empty_merge, Style.foldl_merge base, ← Except.ok.inj h]
    rfl

end Context

namespace Sheet

variable {s t u : Sheet} {context : Context} {table : Element}

section Columns

theorem Bare.styleAt_eq (h : s.Bare) (a : Address) :
    s.styleAt a = s.pool.style (s.columnStyle a.column) := by
  rw [styleAt, stylePlace, h.cell?_eq_none]

theorem styleAt_withColumn (hplaces : s.PlacesKnown) {column : Nat} {e : Element}
    (hok : s.withColumn context column e = .ok t) :
    ∃ style, context.Names (some e) style ∧ t.PlacesKnown ∧
      ∀ a, t.styleAt a = if a.column = column then (s.styleAt a).merge style else s.styleAt a := by
  rw [withColumn_eq, check_bind_eq_ok_iff] at hok
  obtain ⟨t₁, hwidth, hok⟩ := bind_eq_ok_iff.mp hok.2
  obtain ⟨t₂, hhidden, hok⟩ := bind_eq_ok_iff.mp hok
  have h₁ : s.SameLook t₁ := keeps_editIf (.refl hplaces)
    (fun _ => sameLook_editColumn hplaces fun _ _ => rfl) hwidth
  have h₂ : t₁.SameLook t₂ := keeps_editIf (.refl h₁.placesKnown)
    (fun _ => sameLook_editColumn h₁.placesKnown fun _ _ => rfl) hhidden
  have hsame : s.SameLook t₂ := h₁.trans h₂
  split at hok
  · next name hname =>
      obtain ⟨style, hstyle, hok⟩ := bind_eq_ok_iff.mp hok
      have hdressed : t₂.styleWholeColumn column style = ⟨t, none⟩ :=
        toExcept_eq_ok_iff.mp (liftSheet_eq_ok_iff.mp hok)
      have hknown : t.PlacesKnown := (direct_styleWholeColumn hsame.placesKnown hdressed).1
      refine ⟨style, Context.names_of_liftStyle hname hstyle, hknown, ?_⟩
      intro a
      rw [styleAt_styleWholeColumn hsame.placesKnown hdressed, hsame.styleAt]
  · next hname =>
      cases hok
      refine ⟨{}, ?_, hsame.placesKnown, ?_⟩
      · rw [Context.Names, Option.bind_some, hname]
      · intro a
        rw [hsame.styleAt, Style.merge_empty, ite_self]

/-- Each column shows the style that its element names. -/
theorem styleAt_withColumns (hplaces : s.PlacesKnown) {column : Nat} {columns : List Element}
    (hfresh : ∀ a, column ≤ a.column → s.styleAt a = {})
    (hok : s.withColumns context column columns = .ok t) :
    t.PlacesKnown ∧ (∀ a, a.column < column → t.styleAt a = s.styleAt a) ∧
      ∀ a, column ≤ a.column → context.Names columns[a.column - column]? (t.styleAt a) := by
  induction columns generalizing s column with
  | nil =>
      cases hok
      exact ⟨hplaces, fun _ _ => rfl, hfresh⟩
  | cons e rest ih =>
      obtain ⟨u, hcolumn, hrest⟩ := bind_eq_ok_iff.mp hok
      obtain ⟨style, hstyle, hknown, hlook⟩ := styleAt_withColumn hplaces hcolumn
      have hlater : ∀ a, column + 1 ≤ a.column → u.styleAt a = {} := by
        intro a ha
        rw [hlook, if_neg (Nat.ne_of_gt ha)]
        exact hfresh a (Nat.le_of_succ_le ha)
      obtain ⟨ht, hbefore, hfrom⟩ := ih hknown hlater hrest
      refine ⟨ht, ?_, ?_⟩
      · intro a ha
        rw [hbefore a (Nat.lt_succ_of_lt ha), hlook, if_neg (Nat.ne_of_lt ha)]
      · intro a ha
        rcases Nat.eq_or_lt_of_le ha with heq | hlt
        · rw [hbefore a (by omega), hlook, if_pos heq.symm, hfresh a ha, Style.empty_merge,
            heq, Nat.sub_self]
          exact hstyle
        · have hindex : a.column - column = a.column - (column + 1) + 1 := by omega
          rw [hindex, List.getElem?_cons_succ]
          exact hfrom a hlt

end Columns

section Rows

/-- Places without a cell show the style of their column, those of the cells
have that of the cell laid on it. -/
structure Dressed (context : Context) (table : Element) (base : Nat → Style) (s : Sheet)
    (slots : List Slot) : Prop where
  placesKnown : s.PlacesKnown
  free : ∀ a, a ∉ slots.map Slot.address → s.styleAt a = base a.column
  worn : ∀ slot ∈ slots, ∃ row style, table.row? slot.address.row = some row ∧
    slot.cell ∈ row.rowCells ∧ cellStyle context slot.cell (row.mark? .namedStyle) = .ok style ∧
    s.styleAt slot.address = (base slot.address.column).merge style

namespace Dressed

variable {base : Nat → Style} {earlier slots : List Slot} {rowElement : Element}

theorem of_sameLook (h : s.Dressed context table base slots) (hsame : s.SameLook t) :
    t.Dressed context table base slots := by
  refine ⟨hsame.placesKnown, ?_, ?_⟩
  · intro a ha
    rw [hsame.styleAt, h.free a ha]
  · intro slot hslot
    rw [hsame.styleAt]
    exact h.worn slot hslot

theorem placeCell (h : s.Dressed context table base earlier) {a : Address} {cell : Element}
    (hrow : table.row? a.row = some rowElement) (hcell : cell ∈ rowElement.rowCells)
    (hbefore : ∀ t ∈ earlier, t.address.Before a)
    (hok : s.placeCell context cell a (rowElement.mark? .namedStyle) = .ok u) :
    u.Dressed context table base (earlier ++ [⟨cell, a⟩]) := by
  obtain ⟨style, hstyle, hknown, hframe, hlook⟩ := restyled_placeCell h.placesKnown hok
  have hfresh : a ∉ earlier.map Slot.address := by
    intro hmem
    obtain ⟨t, ht, rfl⟩ := List.mem_map.mp hmem
    exact Address.before_irrefl _ (hbefore t ht)
  refine ⟨hknown, ?_, ?_⟩
  · intro b hb
    rw [List.map_append, List.mem_append, not_or, List.map_singleton, List.mem_singleton] at hb
    rw [hframe b hb.2, h.free b hb.1]
  · intro slot hslot
    rcases List.mem_append.mp hslot with hold | hnew
    · rw [hframe _ (hbefore slot hold).ne]
      exact h.worn slot hold
    · rw [List.mem_singleton.mp hnew]
      refine ⟨rowElement, style, hrow, hcell, hstyle, ?_⟩
      rw [hlook, h.free a hfresh]

theorem carried (table : Element) (base : Nat → Style) :
    Carried context (fun row e => table.row? row = some e)
      fun s slots => s.Dressed context table base slots where
  height h hset := h.of_sameLook (.setRowHeight h.placesKnown hset)
  cell hrow hcell hbefore h hok := h.placeCell hrow hcell hbefore hok

end Dressed

end Rows

section Table

theorem SameContents.sameLook (h : s.SameContents t) (hplaces : s.PlacesKnown) : s.SameLook t :=
  .of_same hplaces h.grid h.pool h.columns

theorem sameLook_withAutosize (h : s.PlacesKnown) (table : Element) :
    s.SameLook (s.withAutosize table) :=
  keeps_withAutosize table (.refl h) fun h hedit =>
    h.trans (sameLook_editColumn h.placesKnown (fun _ _ => rfl) hedit)

theorem sameLook_start (options : Options) (table : Element) (taken : List String) :
    ∃ name, (new name).SameLook (start options table taken) :=
  ⟨_, (sameContents_withTableSettings _ table).sameLook (.new _)⟩

theorem dressed_withColumns (h : s.Bare) (hplaces : s.PlacesKnown) (hfresh : ∀ a, s.styleAt a = {})
    (hok : s.withColumns context 1 table.columnElements = .ok t) :
    ∃ base, (∀ column, context.Names (table.column? column) (base column)) ∧
      t.Dressed context table base [] := by
  have ht : t.Bare := h.withColumns hok
  obtain ⟨hknown, hbefore, hfrom⟩ := styleAt_withColumns hplaces (fun a _ => hfresh a) hok
  refine ⟨fun column => t.pool.style (t.columnStyle column), ?_, hknown, ?_, ?_⟩
  · intro column
    beta_reduce
    rw [← ht.styleAt_eq ⟨1, column⟩]
    cases column with
    | zero =>
        rw [hbefore _ Nat.one_pos, hfresh]
        rfl
    | succ n => exact hfrom ⟨1, n + 1⟩ (Nat.succ_pos n)
  · intro a _
    exact ht.styleAt_eq a
  · intro slot hslot
    exact absurd hslot List.not_mem_nil

/-- Places that hold no cell of the table show the style of their column, the
others that of the layers of their cell. -/
theorem dressed_ofTable {taken : List String} (h : ofTable context table taken = .ok s) :
    ∃ base slots, (∀ column, context.Names (table.column? column) (base column)) ∧
      TableLayout context.options.policy [] 1 table.tableRows slots ∧
      s.Dressed context table base slots := by
  obtain ⟨t, u, hcolumns, ht, hrows, rfl⟩ := ofTable_eq_ok h
  have hbare : (start context.options table taken).Bare := bare_start _ table taken
  obtain ⟨name, hstart⟩ := sameLook_start context.options table taken
  obtain ⟨base, hbase, hdressed⟩ :=
    dressed_withColumns hbare hstart.placesKnown hstart.styleAt hcolumns
  have hlaid : t.Laid [] := ht.laid
  obtain ⟨slots, hlayout, -⟩ := hlaid.placeRows (by simp) hrows
  have hplaced : u.Dressed context table base slots := by
    refine (Dressed.carried table base).placeRows hlayout hlaid ?_ (by simp) hdressed hrows
    intro i e he
    rw [Nat.add_comm]
    exact he
  exact ⟨base, slots, hbase, hlayout,
    hplaced.of_sameLook (sameLook_withAutosize hplaced.placesKnown table)⟩

end Table

end Sheet

/-- A place with a cell shows its layers laid on each other, and their rules one
after the other; any other place shows the style of its column. -/
theorem Workbook.ofNodes_cascade {context : Context} {nodes : List Node} {w : Workbook}
    (h : ofNodes context nodes = .ok w) :
    List.Forall₂
      (fun table s => ∃ slots,
        TableLayout context.options.policy [] 1 table.tableRows slots ∧
          (∀ slot ∈ slots,
            (∃ row, table.row? slot.address.row = some row ∧ slot.cell ∈ row.rowCells) ∧
              ∃ layers, context.Layers table slot layers ∧
                s.styleAt slot.address = layers.foldl Style.merge {} ∧
                (s.styleAt slot.address).rules = layers.flatMap Style.rules) ∧
          ∀ a, a ∉ slots.map Slot.address →
            context.Names (table.column? a.column) (s.styleAt a))
      (Node.findAll Element.isSheetTable nodes) w.sheets := by
  refine forall₂_ofNodes ?_ h
  intro table taken s hs
  obtain ⟨base, slots, hbase, hlayout, hdressed⟩ := Sheet.dressed_ofTable hs
  refine ⟨slots, hlayout, ?_, ?_⟩
  · intro slot hslot
    obtain ⟨row, style, hrow, hcell, hstyle, hlook⟩ := hdressed.worn slot hslot
    obtain ⟨layers, hlayers, hmerge⟩ := Context.layers_of_cellStyle (hbase _) hrow hstyle
    refine ⟨⟨row, hrow, hcell⟩, layers, hlayers, hlook.trans hmerge, ?_⟩
    rw [hlook, hmerge, Style.rules_foldl_merge]
    rfl
  · intro a ha
    rw [hdressed.free a ha]
    exact hbase a.column

/-- A bold row and a plain cell in a column of amounts: the cell is a link, not
bold, and keeps what the column alone sets. -/
theorem Workbook.ofNodes_cascade_amount :
    let context : Context := ⟨Catalogue.presets, {}, {}⟩
    let cell : Element := ⟨"td", [(Mark.namedStyle.name, "warn"), (Mark.link.name, "https://a.b"),
      (Mark.fontBold.name, "false")], [.text "12"]⟩
    let column (style : String) : Node := .element ⟨"col", [(Mark.namedStyle.name, style)], []⟩
    let nodes : List Node := [.element ⟨"table", [(Mark.sheet.name, "Data")], [
      .element ⟨"colgroup", [], [column "money"]⟩, .element ⟨"colgroup", [], [column "int"]⟩,
      .element ⟨"tr", [(Mark.namedStyle.name, "th")], [.element cell]⟩]⟩]
    let amount : Style := {
      font := { bold := some false, underline := some .single, color := some (.rgb 0x05 0x63 0xC1) }
      fill := some (.rgb 0xFF 0xFF 0x99)
      border := Catalogue.header.border
      alignment := Catalogue.header.alignment
      numberFormat := some ("# ##0,00 " ++ Catalogue.euro) }
    let looks := [amount, { alignment := Catalogue.right, numberFormat := some "# ##0" }, {}]
    ∃ w, ofNodes context nodes = .ok w ∧
      w.sheets.map (fun s => [s.styleAt ⟨1, 1⟩, s.styleAt ⟨1, 2⟩, s.styleAt ⟨1, 3⟩]) =
        [looks] ∧
      List.Forall₂
        (fun table s => ∃ slots, TableLayout .skipCovered [] 1 table.tableRows slots ∧
          ∀ slot ∈ slots, ∃ layers, context.Layers table slot layers ∧
            s.styleAt slot.address = layers.foldl Style.merge {})
        (Node.findAll Element.isSheetTable nodes) w.sheets := by
  intro context cell column nodes amount looks
  have hsheets : ((ofNodes context nodes).toOption.map fun w =>
      w.sheets.map fun s => [s.styleAt ⟨1, 1⟩, s.styleAt ⟨1, 2⟩, s.styleAt ⟨1, 3⟩]) =
        some [looks] := by
    decide +kernel
  obtain ⟨w, h, hlooks⟩ := exists_ok_of_map_toOption hsheets
  refine ⟨w, h, hlooks, (ofNodes_cascade h).imp ?_⟩
  rintro table s ⟨slots, hlayout, hslots, -⟩
  refine ⟨slots, hlayout, ?_⟩
  intro slot hslot
  obtain ⟨-, layers, hlayers, hlook, -⟩ := hslots slot hslot
  exact ⟨layers, hlayers, hlook⟩

end TableBook
