import TableBook.Proofs.DressedColumn
import TableBook.Proofs.Restyling

namespace TableBook.Sheet

variable {s t : Sheet} {a : Address} {column : Nat} {style : Style} {v : Value}

theorem direct_setValue (h : s.PlacesKnown) (hok : s.setValue a v = .ok t) :
    t.PlacesKnown ∧ t.direct = s.direct.setCell a (.edit (·.withValue v)) := by
  have hrefines := editCell_refines (a := a) (f := (·.withValue v)) h fun _ _ => rfl
  rw [setValue] at hok
  rw [hok] at hrefines
  exact direct_of_refines hrefines

theorem unstyled_direct (s : Sheet) (b : Address) :
    (s.cell? b).map Cell.unstyled = (s.direct.cells b).map DirectCell.content := by
  rw [direct_cells, Option.map_map]
  rfl

/-- The value may be written before the column is styled exactly if it may be
written after. -/
theorem exists_styleWholeColumn_changeCell_iff (f : Cell → Cell) :
    s.Writable a ∧ (∃ t, (s.changeCell a f).styleWholeColumn column style = ⟨t, none⟩) ↔
      ∃ t, s.styleWholeColumn column style = ⟨t, none⟩ ∧ t.Writable a := by
  have hstored (b : Address) :
      ((s.changeCell a f).cell? b).isSome = true ↔ b = a ∨ (s.cell? b).isSome = true := by
    rw [cell?_changeCell]
    by_cases hb : b = a <;> simp [hb]
  constructor
  · rintro ⟨ha, hok⟩
    obtain ⟨hcolumn, hwritable⟩ := exists_styleWholeColumn_iff.mp hok
    have hcells : ∀ b ∈ s.storedIn column, s.Writable b := by
      intro b hb
      obtain ⟨hsome, hin⟩ := mem_storedIn_iff.mp hb
      exact hwritable b (mem_storedIn_iff.mpr ⟨(hstored b).mpr (.inr hsome), hin⟩)
    obtain ⟨t, ht⟩ := exists_styleWholeColumn_iff.mpr ⟨hcolumn, hcells⟩
    exact ⟨t, ht, (columnRestyled_of_ok ht).writable_iff.mpr ha⟩
  · rintro ⟨t, ht, ha⟩
    obtain ⟨hcolumn, hwritable⟩ := exists_styleWholeColumn_iff.mp ⟨t, ht⟩
    have hbefore : s.Writable a := (columnRestyled_of_ok ht).writable_iff.mp ha
    refine ⟨hbefore, exists_styleWholeColumn_iff.mpr ⟨hcolumn, ?_⟩⟩
    intro b hb
    obtain ⟨hsome, hin⟩ := mem_storedIn_iff.mp hb
    rcases (hstored b).mp hsome with rfl | hsome
    · exact hbefore
    · exact hwritable b (mem_storedIn_iff.mpr ⟨hsome, hin⟩)

/-- After any run that leaves styles to the sheet, a value may be written before
or after a column is styled by name. Either both orders succeed or neither does,
and what they leave holds the same and looks the same. -/
theorem setValue_comm_styleWholeColumnNamed (name : String) (operations : List Operation)
    (hblind : ∀ operation ∈ operations, operation.StyleBlind) (catalogue : Catalogue)
    (styleName : String) (a : Address) (v : Value) (column : Nat) :
    let s := (new name).after operations
    let valueFirst := TableFault.liftSheet (s.setValue a v) >>= fun t =>
      (t.styleWholeColumnNamed catalogue column styleName).toExcept
    let styleFirst := (s.styleWholeColumnNamed catalogue column styleName).toExcept >>= fun t =>
      TableFault.liftSheet (t.setValue a v)
    ((∃ t, valueFirst = .ok t) ↔ ∃ t, styleFirst = .ok t) ∧
      ∀ t u, valueFirst = .ok t → styleFirst = .ok u →
        (∀ b, (t.cell? b).map Cell.unstyled = (u.cell? b).map Cell.unstyled) ∧
          (∀ b, t.styleAt b = u.styleAt b) ∧ t.direct = u.direct := by
  intro s valueFirst styleFirst
  have hplaces : s.PlacesKnown := (after_refines (.new name) hblind).1
  have hvalueFirst (t : Sheet) : valueFirst = .ok t ↔
      ∃ w, s.setValue a v = .ok w ∧ ∃ style, catalogue.named styleName = .ok style ∧
        w.styleWholeColumn column style = ⟨t, none⟩ := by
    simp only [valueFirst, bind_eq_ok_iff, liftSheet_eq_ok_iff, styleWholeColumnNamed,
      toExcept_styleNamed_eq_ok_iff]
  have hstyleFirst (t : Sheet) : styleFirst = .ok t ↔
      ∃ w, (∃ style, catalogue.named styleName = .ok style ∧
        s.styleWholeColumn column style = ⟨w, none⟩) ∧ w.setValue a v = .ok t := by
    simp only [styleFirst, bind_eq_ok_iff, liftSheet_eq_ok_iff, styleWholeColumnNamed,
      toExcept_styleNamed_eq_ok_iff]
  constructor
  · constructor
    · rintro ⟨t, ht⟩
      obtain ⟨w, hvalue, style, hstyle, hcolumn⟩ := (hvalueFirst t).mp ht
      obtain ⟨ha, rfl⟩ := editCell_eq_ok_iff.mp hvalue
      obtain ⟨u, hu, hlater⟩ := (exists_styleWholeColumn_changeCell_iff _).mp ⟨ha, t, hcolumn⟩
      exact ⟨_, (hstyleFirst _).mpr ⟨u, ⟨style, hstyle, hu⟩,
        editCell_eq_ok_iff.mpr ⟨hlater, rfl⟩⟩⟩
    · rintro ⟨t, ht⟩
      obtain ⟨u, ⟨style, hstyle, hu⟩, hvalue⟩ := (hstyleFirst t).mp ht
      obtain ⟨hlater, -⟩ := editCell_eq_ok_iff.mp hvalue
      obtain ⟨ha, w, hw⟩ :=
        (exists_styleWholeColumn_changeCell_iff (·.withValue v)).mpr ⟨u, hu, hlater⟩
      exact ⟨w, (hvalueFirst w).mpr ⟨_, editCell_eq_ok_iff.mpr ⟨ha, rfl⟩, style, hstyle, hw⟩⟩
  · intro t u ht hu
    obtain ⟨w, hvalue, style, hstyle, hcolumn⟩ := (hvalueFirst t).mp ht
    obtain ⟨w', ⟨style', hstyle', hcolumn'⟩, hvalue'⟩ := (hstyleFirst u).mp hu
    obtain rfl : style = style' := Except.ok.inj (hstyle.symm.trans hstyle')
    obtain ⟨hw, hwdirect⟩ := direct_setValue hplaces hvalue
    obtain ⟨htplaces, htdirect⟩ := direct_styleWholeColumn hw hcolumn
    obtain ⟨hw', hwdirect'⟩ := direct_styleWholeColumn hplaces hcolumn'
    obtain ⟨huplaces, hudirect⟩ := direct_setValue hw' hvalue'
    have hsame : t.direct = u.direct := by
      rw [htdirect, hwdirect, hudirect, hwdirect', DirectSheet.dressColumn_setCell]
    refine ⟨?_, ?_, hsame⟩
    · intro b
      rw [unstyled_direct, unstyled_direct, hsame]
    · intro b
      rw [← direct_styleAt htplaces, ← direct_styleAt huplaces, hsame]

/-- A value in a new cell of a locked column, before and after a warning. -/
theorem setValue_comm_styleWholeColumnNamed_fresh :
    let operations : List Operation := [.edit (.styleColumn 2 { locked := some true }),
      .edit (.value ⟨1, 2⟩ (.boolean true))]
    let s := (new "Data").after operations
    let valueFirst := TableFault.liftSheet (s.setValue ⟨3, 2⟩ (.text "late")) >>= fun t =>
      (t.styleWholeColumnNamed Catalogue.presets 2 "warn").toExcept
    let styleFirst := (s.styleWholeColumnNamed Catalogue.presets 2 "warn").toExcept >>= fun t =>
      TableFault.liftSheet (t.setValue ⟨3, 2⟩ (.text "late"))
    ∃ t u, valueFirst = .ok t ∧ styleFirst = .ok u ∧
      t.styleAt ⟨3, 2⟩ = { fill := some (.rgb 0xFF 0xFF 0x99), locked := some true } ∧
      (∀ b, (t.cell? b).map Cell.unstyled = (u.cell? b).map Cell.unstyled) ∧
      ∀ b, t.styleAt b = u.styleAt b := by
  intro operations s valueFirst styleFirst
  have hblind : ∀ operation ∈ operations, operation.StyleBlind := by
    simp [operations, Operation.StyleBlind]
  have hshown : valueFirst.toOption.map (·.styleAt ⟨3, 2⟩) =
      some { fill := some (.rgb 0xFF 0xFF 0x99), locked := some true } := by
    decide +kernel
  obtain ⟨t, ht, hstyle⟩ := Option.map_eq_some_iff.mp hshown
  rw [toOption_eq_some_iff] at ht
  obtain ⟨hboth, hsame⟩ := setValue_comm_styleWholeColumnNamed "Data" operations hblind
    Catalogue.presets "warn" ⟨3, 2⟩ (.text "late") 2
  obtain ⟨u, hu⟩ := hboth.mp ⟨t, ht⟩
  obtain ⟨hcells, hstyles, -⟩ := hsame t u ht hu
  exact ⟨t, u, ht, hu, hstyle, hcells, hstyles⟩

end TableBook.Sheet
