import TableBook.Proofs.ManyCells
import TableBook.Proofs.Reached

namespace TableBook.Sheet

variable {s t : Sheet} {style : Style} {positions done : List Address} {fault : SheetFault}
  {column : Nat}

/-- `t` is what the styling of `done` leaves, after which `a` is refused. -/
structure StoppedAt (s : Sheet) (style : Style) (done : List Address) (a : Address)
    (fault : SheetFault) (t : Sheet) : Prop where
  refused : s.checkWritable a = .error fault
  run : s.styleCells style done = ⟨t, none⟩
  restyled : s.CellsRestyled done t
  styleAt : s.PlacesKnown → ∀ b,
    t.styleAt b = if b ∈ done then (s.styleAt b).merge style else s.styleAt b

/-- Nothing but the pool differs, and it still has every entry in its place. -/
structure OnlyPooled (s t : Sheet) : Prop where
  frame : t = s.withPool t.pool
  pool : s.pool.GrowsTo t.pool

theorem exists_stoppedAt (hnodup : positions.Nodup)
    (h : (s.styleCells style positions).fault = some fault) :
    ∃ done a rest, positions = done ++ a :: rest ∧
      s.StoppedAt style done a fault (s.styleCells style positions).sheet := by
  rcases s.styleCells_cases style positions with ⟨t, hrun, -⟩ |
    ⟨done, a, rest, refusal, t, rfl, hrefused, hrun, hdone, hrestyled⟩
  · rw [hrun] at h
    cases h
  · rw [hrun] at h ⊢
    obtain rfl := Option.some.inj h
    refine ⟨done, a, rest, rfl, hrefused, hdone, hrestyled, ?_⟩
    intro hplaces b
    obtain ⟨hlater, hdirect⟩ := direct_styleCells hplaces hnodup.of_append_left hdone
    rw [← direct_styleAt hlater, hdirect, DirectSheet.styleAt_dressCells, direct_styleAt hplaces]

theorem onlyPooled_styleColumn (h : (s.styleColumn column style).fault = some fault) :
    ¬(1 ≤ column ∧ column ≤ maxColumns) ∧ fault = .columnOutOfBounds column ∧
      s.OnlyPooled (s.styleColumn column style).sheet := by
  by_cases hcolumn : 1 ≤ column ∧ column ≤ maxColumns
  · rw [styleColumn_of_inBounds hcolumn] at h
    cases h
  · rw [styleColumn_of_not_inBounds hcolumn] at h ⊢
    exact ⟨hcolumn, (Option.some.inj h).symm, rfl, s.pool.mergeInto_growsTo _ style⟩

theorem exists_stoppedAt_styleRange {range : Range}
    (h : (s.styleRange range style).fault = some fault) :
    ∃ done a rest,
      (range.cells.filter fun b => (s.coveringMerge? b).isNone) = done ++ a :: rest ∧
        ¬a.InBounds ∧ s.StoppedAt style done a fault (s.styleRange range style).sheet := by
  obtain ⟨done, a, rest, hsplit, hstopped⟩ := exists_stoppedAt (range.nodup_cells.filter _) h
  refine ⟨done, a, rest, hsplit, ?_, hstopped⟩
  intro hbounds
  have hmem : a ∈ range.cells.filter fun b => (s.coveringMerge? b).isNone := by
    rw [hsplit]
    exact List.mem_append_right _ List.mem_cons_self
  have huncovered : s.coveringMerge? a = none :=
    Option.isNone_iff_eq_none.mp (List.mem_filter.mp hmem).2
  have hok := checkWritable_eq_ok_iff.mpr ⟨hbounds, huncovered⟩
  rw [hstopped.refused] at hok
  cases hok

/-- Where every stored cell is inside the bounds, only a region refuses one. -/
theorem StoppedAt.covered {a : Address} (h : s.StoppedAt style done a fault t)
    (ha : a.InBounds) : ∃ m, s.coveringMerge? a = some m ∧ fault = .coveredCell a m.range := by
  cases hm : s.coveringMerge? a with
  | none =>
      have hok := checkWritable_eq_ok_iff.mpr ⟨ha, hm⟩
      rw [h.refused] at hok
      cases hok
  | some m =>
      have hcovered := checkWritable_eq_coveredCell_iff.mpr ⟨ha, rfl, m, hm, rfl⟩
      rw [h.refused] at hcovered
      exact ⟨m, rfl, Except.error.inj hcovered⟩

theorem exists_stoppedAt_styleWholeColumn (hwithin : s.Within)
    (h : (s.styleWholeColumn column style).fault = some fault) :
    (¬(1 ≤ column ∧ column ≤ maxColumns) ∧ fault = .columnOutOfBounds column ∧
        s.OnlyPooled (s.styleWholeColumn column style).sheet) ∨
      ∃ done a rest m, s.storedIn column = done ++ a :: rest ∧ s.coveringMerge? a = some m ∧
        fault = .coveredCell a m.range ∧
        s.StoppedAt style done a fault (s.styleWholeColumn column style).sheet := by
  rw [styleWholeColumn] at h ⊢
  by_cases hcolumn : 1 ≤ column ∧ column ≤ maxColumns
  · cases hcells : (s.styleCells style (s.storedIn column)).fault with
    | none =>
        rw [Attempt.andThen, hcells] at h
        dsimp only at h
        rw [styleColumn_of_inBounds hcolumn] at h
        cases h
    | some refusal =>
        rw [Attempt.andThen, hcells] at h ⊢
        dsimp only at h ⊢
        obtain ⟨done, a, rest, hsplit, hstopped⟩ := exists_stoppedAt (s.nodup_storedIn column) h
        have hmem : a ∈ s.storedIn column := by
          rw [hsplit]
          exact List.mem_append_right _ List.mem_cons_self
        obtain ⟨m, hm, hfault⟩ := hstopped.covered (hwithin.cells a (mem_storedIn_iff.mp hmem).1)
        exact .inr ⟨done, a, rest, m, hsplit, hm, hfault, hstopped⟩
  · have hnone : s.storedIn column = [] := by
      refine List.eq_nil_iff_forall_not_mem.mpr ?_
      intro a ha
      obtain ⟨hstored, rfl⟩ := mem_storedIn_iff.mp ha
      exact hcolumn (hwithin.cells a hstored).2.2
    rw [hnone] at h ⊢
    exact .inl (onlyPooled_styleColumn h)

/-- What styling leaves when it is refused, whatever operations made the sheet.
A style that nothing is known by changes nothing, and a column out of bounds
nothing but the pool. The styling of cells stops at the first refused one: of a
range that is one out of bounds, of a column one that a region covers. -/
theorem refused_after (name : String) (operations : List Operation) :
    let s := (new name).after operations
    ((∀ operation ∈ operations, operation.StyleBlind) → s.PlacesKnown) ∧
      (∀ range style fault, (s.styleRange range style).fault = some fault →
        ∃ done a rest,
          (range.cells.filter fun b => (s.coveringMerge? b).isNone) = done ++ a :: rest ∧
            ¬a.InBounds ∧ s.StoppedAt style done a fault (s.styleRange range style).sheet) ∧
      (∀ column style fault, (s.styleColumn column style).fault = some fault →
        ¬(1 ≤ column ∧ column ≤ maxColumns) ∧ fault = .columnOutOfBounds column ∧
          s.OnlyPooled (s.styleColumn column style).sheet) ∧
      (∀ catalogue range styleName fault,
        let attempt := s.styleRangeNamed catalogue range styleName
        attempt.fault = some fault →
          (∃ unknown, catalogue.named styleName = .error unknown ∧
            fault = .unknownStyle unknown ∧ attempt.sheet = s) ∨
          ∃ style cause, catalogue.named styleName = .ok style ∧ fault = .ofSheet cause ∧
            s.styleRange range style = ⟨attempt.sheet, some cause⟩) ∧
      ∀ catalogue column styleName fault,
        let attempt := s.styleWholeColumnNamed catalogue column styleName
        attempt.fault = some fault →
          (∃ unknown, catalogue.named styleName = .error unknown ∧
            fault = .unknownStyle unknown ∧ attempt.sheet = s) ∨
          ∃ style, catalogue.named styleName = .ok style ∧
            (¬(1 ≤ column ∧ column ≤ maxColumns) ∧ fault = .sheet (.columnOutOfBounds column) ∧
                s.OnlyPooled attempt.sheet ∨
              ∃ done a rest m, s.storedIn column = done ++ a :: rest ∧
                s.coveringMerge? a = some m ∧ fault = .mark (.coveredCell a m.range) ∧
                s.StoppedAt style done a (.coveredCell a m.range) attempt.sheet) := by
  intro s
  have hwithin : s.Within := (reached_after name operations).within
  refine ⟨fun hblind => (after_refines (.new name) hblind).1, ?_, ?_, ?_, ?_⟩
  · intro range style fault
    exact exists_stoppedAt_styleRange
  · intro column style fault
    exact onlyPooled_styleColumn
  · intro catalogue range styleName fault attempt h
    exact fault_styleNamed h
  · intro catalogue column styleName fault attempt h
    rcases fault_styleNamed h with hunknown | ⟨style, cause, hstyle, rfl, hedit⟩
    · exact .inl hunknown
    · refine .inr ⟨style, hstyle, ?_⟩
      have hsheet : (s.styleWholeColumn column style).sheet = attempt.sheet :=
        congrArg Attempt.sheet hedit
      rw [← hsheet]
      rcases exists_stoppedAt_styleWholeColumn hwithin (congrArg Attempt.fault hedit) with
        ⟨hcolumn, rfl, hpooled⟩ | ⟨done, a, rest, m, hsplit, hm, rfl, hstopped⟩
      · exact .inl ⟨hcolumn, rfl, hpooled⟩
      · exact .inr ⟨done, a, rest, m, hsplit, hm, rfl, hstopped⟩

/-- A range that runs over the last row leaves its first cell bold, a column 0 an
entry of the pool, and a column with a covered cell its first cell restyled. -/
theorem refused_after_traces :
    let bold : Style := { font := { bold := some true } }
    let s := new "Data"
    let range := s.styleRange (.ofCorners ⟨1048576, 1⟩ ⟨1048577, 1⟩) bold
    let zero := s.styleColumn 0 bold
    let merged := s.after [.edit (.value ⟨1, 1⟩ .null), .edit (.value ⟨2, 1⟩ .null),
      .edit (.merge (.ofSpans ⟨1, 1⟩ 1 2))]
    let column := merged.styleWholeColumnNamed Catalogue.presets 1 "int"
    (range.fault = some (.rowOutOfBounds 1048577) ∧ s.cell? ⟨1048576, 1⟩ = none ∧
        range.sheet.cell? ⟨1048576, 1⟩ = some { style := 1 }) ∧
      (zero.fault = some (.columnOutOfBounds 0) ∧ s.pool.size = 1 ∧ zero.sheet.pool.size = 2) ∧
      column.fault = some (.mark (.coveredCell ⟨2, 1⟩ (Merge.ofSpans ⟨1, 1⟩ 1 2).range)) ∧
      merged.cell? ⟨1, 1⟩ = some {} ∧ column.sheet.cell? ⟨1, 1⟩ = some { style := 1 } := by
  decide +kernel

/-- A sheet with a covered cell refuses a range, a column and two names. -/
theorem refused_after_merge :
    let bold : Style := { font := { bold := some true } }
    let operations : List Operation := [.edit (.value ⟨1, 1⟩ .null),
      .edit (.value ⟨2, 1⟩ .null), .edit (.merge (.ofSpans ⟨1, 1⟩ 1 2))]
    let s := (new "Data").after operations
    let range : Range := .ofCorners ⟨1048576, 1⟩ ⟨1048577, 1⟩
    s.PlacesKnown ∧
      (∃ done a, ¬a.InBounds ∧
        s.StoppedAt bold done a (.rowOutOfBounds 1048577) (s.styleRange range bold).sheet) ∧
      s.OnlyPooled (s.styleColumn 0 bold).sheet ∧
      (s.styleRangeNamed Catalogue.presets range "none").sheet = s ∧
      ∃ style done a m, s.coveringMerge? a = some m ∧
        s.StoppedAt style done a (.coveredCell a m.range)
          (s.styleWholeColumnNamed Catalogue.presets 1 "int").sheet := by
  intro bold operations s range
  obtain ⟨hplaces, hrange, hcolumn, hrangeNamed, hcolumnNamed⟩ := refused_after "Data" operations
  refine ⟨hplaces (by simp [operations, Operation.StyleBlind]), ?_, ?_, ?_, ?_⟩
  · obtain ⟨done, a, rest, -, hbounds, hstopped⟩ :=
      hrange range bold (.rowOutOfBounds 1048577) (by decide +kernel)
    exact ⟨done, a, hbounds, hstopped⟩
  · exact (hcolumn 0 bold (.columnOutOfBounds 0) (by decide +kernel)).2.2
  · have hfault : (s.styleRangeNamed Catalogue.presets range "none").fault =
        some (.unknownStyle ⟨"none", Catalogue.presets.keys⟩) := by
      decide +kernel
    rcases hrangeNamed _ range _ _ hfault with ⟨_, _, _, hsheet⟩ | ⟨_, cause, _, hcause, _⟩
    · exact hsheet
    · cases cause <;> cases hcause
  · have hfault : (s.styleWholeColumnNamed Catalogue.presets 1 "int").fault =
        some (.mark (.coveredCell ⟨2, 1⟩ (Merge.ofSpans ⟨1, 1⟩ 1 2).range)) := by
      decide +kernel
    rcases hcolumnNamed _ 1 _ _ hfault with ⟨_, _, hunknown, _⟩ |
      ⟨style, -, ⟨hcolumn, -⟩ | ⟨done, a, rest, m, -, hm, -, hstopped⟩⟩
    · cases hunknown
    · exact absurd (by decide) hcolumn
    · exact ⟨style, done, a, m, hm, hstopped⟩

end TableBook.Sheet
