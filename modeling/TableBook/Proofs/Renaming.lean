import TableBook.Proofs.TableSheet

/-!
The building of a sheet never looks at its name: under another name it ends in
the same fault, or in the same sheet with the other name. So what a table gives
depends on the sheets before it through the name alone.
-/

namespace TableBook

open TableFault

def Sheet.withName (s : Sheet) (name : String) : Sheet := { s with name }

/-- A step that gives a renamed sheet the same fault or the renamed result. -/
def NameBlind {ε : Type} (step : Sheet → Except ε Sheet) : Prop :=
  ∀ s name, step (s.withName name) = (step s).map (·.withName name)

namespace NameBlind

variable {ε α : Type}

theorem guarded {check : Sheet → Except ε Unit} {change : Sheet → Sheet}
    (hcheck : ∀ s name, check (s.withName name) = check s)
    (hchange : ∀ s name, change (s.withName name) = (change s).withName name) :
    NameBlind fun s => check s >>= fun _ => .ok (change s) := by
  intro s name
  beta_reduce
  rw [hcheck, hchange]
  cases check s <;> rfl

theorem ok : NameBlind fun s => (.ok s : Except ε Sheet) := fun _ _ => rfl

theorem error (e : ε) : NameBlind fun _ => .error e := fun _ _ => rfl

theorem bind {f g : Sheet → Except ε Sheet} (hf : NameBlind f) (hg : NameBlind g) :
    NameBlind fun s => f s >>= g := by
  intro s name
  beta_reduce
  rw [hf]
  cases f s with
  | error e => rfl
  | ok t => exact hg t name

theorem value_bind (x : Except ε α) {f : α → Sheet → Except ε Sheet}
    (hf : ∀ a, NameBlind (f a)) : NameBlind fun s => x >>= fun a => f a s := by
  intro s name
  cases x with
  | error e => rfl
  | ok a => exact hf a s name

theorem liftSheet {f : Sheet → Except SheetFault Sheet} (hf : NameBlind f) :
    NameBlind fun s => TableFault.liftSheet (f s) := by
  intro s name
  beta_reduce
  rw [hf]
  cases f s <;> rfl

theorem editIf (value : Option α) {edit : Sheet → α → Except SheetFault Sheet}
    (hedit : ∀ x, NameBlind fun s => edit s x) : NameBlind fun s => s.editIf value edit := by
  cases value with
  | none => exact ok
  | some x => exact (hedit x).liftSheet

end NameBlind

namespace Sheet

variable (context : Context)

theorem nameBlind_editCell (a : Address) (f : Cell → Cell) : NameBlind fun s => s.editCell a f :=
  .guarded (fun _ _ => rfl) fun _ _ => rfl

theorem nameBlind_styleCell (a : Address) (style : Style) :
    NameBlind fun s => s.styleCell a style := by
  simp only [styleCell_eq]
  exact .guarded (fun _ _ => rfl) fun _ _ => rfl

theorem nameBlind_editColumn (column : Nat) (f : Column → Column) :
    NameBlind fun s => s.editColumn column f :=
  .guarded (fun _ _ => rfl) fun _ _ => rfl

theorem nameBlind_setRowHeight (row : Nat) (height : Binary64) :
    NameBlind fun s => s.setRowHeight row height :=
  .guarded (fun _ _ => rfl) fun _ _ => rfl

theorem nameBlind_merge (m : Merge) : NameBlind fun s => s.merge m := by
  intro s name
  have hmerges : (s.withName name).merges = s.merges := rfl
  have hgrid : (s.withName name).grid = s.grid := rfl
  simp only [merge, hmerges, hgrid]
  by_cases hrow : maxRows < m.range.last.row
  · simp only [hrow, if_true]
    rfl
  by_cases hcolumn : maxColumns < m.range.last.column
  · simp only [hrow, hcolumn, if_true, if_false]
    rfl
  simp only [hrow, hcolumn, if_false]
  cases s.merges.find? fun other => other.range.overlaps m.range with
  | some existing => rfl
  | none =>
      generalize List.find? _ (s.grid.cellsIn m.range) = found
      cases found <;> rfl

namespace Attempt

def withName (attempt : Attempt) (name : String) : Attempt :=
  ⟨attempt.sheet.withName name, attempt.fault⟩

theorem toExcept_withName (attempt : Attempt) (name : String) :
    (attempt.withName name).toExcept = attempt.toExcept.map (·.withName name) := by
  obtain ⟨s, _ | fault⟩ := attempt <;> rfl

theorem ofExcept_withName (s : Sheet) (name : String) (result : Except SheetFault Sheet) :
    ofExcept (s.withName name) (result.map (·.withName name)) =
      (ofExcept s result).withName name := by
  cases result <;> rfl

theorem andThen_withName {attempt : Attempt} {next : Sheet → Attempt} {name : String}
    (hnext : ∀ s : Sheet, next (s.withName name) = (next s).withName name) :
    (attempt.withName name).andThen next = (attempt.andThen next).withName name := by
  obtain ⟨s, _ | fault⟩ := attempt
  · exact hnext s
  · rfl

end Attempt

theorem styleCells_withName (s : Sheet) (name : String) (style : Style)
    (positions : List Address) :
    (s.withName name).styleCells style positions =
      (s.styleCells style positions).withName name := by
  induction positions generalizing s with
  | nil => rfl
  | cons a rest ih =>
      have hcell : (s.withName name).styleCell a style = _ := nameBlind_styleCell a style s name
      rw [styleCells, styleCells, hcell, Attempt.ofExcept_withName]
      exact Attempt.andThen_withName ih

theorem styleColumn_withName (s : Sheet) (name : String) (column : Nat) (style : Style) :
    (s.withName name).styleColumn column style = (s.styleColumn column style).withName name := by
  have hpool : (s.withName name).columnMerge column style = s.columnMerge column style := rfl
  rw [styleColumn_eq, styleColumn_eq, ← Attempt.ofExcept_withName, hpool]
  exact congrArg _ (nameBlind_editColumn column _ (s.withPool _) name)

theorem nameBlind_styleWholeColumn (column : Nat) (style : Style) :
    NameBlind fun s => (s.styleWholeColumn column style).toExcept := by
  intro s name
  have hstored : (s.withName name).storedIn column = s.storedIn column := rfl
  have hcolumn (t : Sheet) := t.styleColumn_withName name column style
  beta_reduce
  rw [← Attempt.toExcept_withName, styleWholeColumn, styleWholeColumn, hstored]
  rw [styleCells_withName, Attempt.andThen_withName hcolumn]

theorem nameBlind_withColumn (column : Nat) (e : Element) :
    NameBlind fun s => s.withColumn context column e := by
  simp only [withColumn_eq]
  refine .value_bind _ fun _ => .bind (.editIf _ fun _ => nameBlind_editColumn column _) ?_
  refine .bind (.editIf _ fun _ => nameBlind_editColumn column _) ?_
  cases e.mark? .namedStyle with
  | none => exact .ok
  | some name =>
      exact .value_bind _ fun style => (nameBlind_styleWholeColumn column style).liftSheet

theorem nameBlind_withColumns (columns : List Element) (column : Nat) :
    NameBlind fun s => s.withColumns context column columns := by
  induction columns generalizing column with
  | nil => exact .ok
  | cons e rest ih => exact .bind (nameBlind_withColumn context column e) (ih (column + 1))

theorem nameBlind_writePayload (cell : Element) (a : Address) :
    NameBlind fun s => s.writePayload context cell a := by
  simp only [writePayload]
  cases cell.mark? .formula with
  | some formula => exact (nameBlind_editCell a _).liftSheet
  | none =>
      cases cell.mark? .image with
      | some source =>
          refine .value_bind _ fun image => ?_
          intro s name
          exact (nameBlind_editCell a _).liftSheet (s.addDrawing _) name
      | none =>
          cases cell.scalar context.options with
          | explicitText => exact (nameBlind_editCell a _).liftSheet
          | _ => exact (nameBlind_editCell a _).liftSheet

theorem nameBlind_styleIf (a : Address) (style : Style) :
    NameBlind fun s => s.styleIf a style := by
  simp only [styleIf]
  split
  · exact .ok
  · exact (nameBlind_styleCell a style).liftSheet

theorem nameBlind_attach (cell : Element) (a : Address) :
    NameBlind fun s => s.attach cell a :=
  .bind (.editIf _ fun _ => nameBlind_editCell a _) <|
    .bind (.editIf _ fun _ => nameBlind_editCell a _) (.editIf _ fun _ => nameBlind_editCell a _)

theorem nameBlind_placeCell (cell : Element) (a : Address) (rowStyle : Option String) :
    NameBlind fun s => s.placeCell context cell a rowStyle := by
  simp only [placeCell_eq]
  refine .value_bind _ fun _ => .bind (nameBlind_writePayload context cell a) ?_
  refine .value_bind _ fun style => .bind (nameBlind_styleIf a style) ?_
  exact .bind (nameBlind_attach cell a) (.editIf _ nameBlind_merge)

theorem uncoveredWithin_withName (s : Sheet) (name : String) (row tries column : Nat) :
    (s.withName name).uncoveredWithin row tries column = s.uncoveredWithin row tries column := by
  induction tries generalizing column with
  | zero => rfl
  | succ tries ih =>
      rw [uncoveredWithin, uncoveredWithin, ih]
      rfl

/-- The free column that is searched for is the same under every name. -/
theorem columnFor_withName (policy : MergePolicy) (s : Sheet) (name : String)
    (row column : Nat) :
    columnFor policy (s.withName name) row column = columnFor policy s row column := by
  cases policy with
  | skipCovered => exact uncoveredWithin_withName ..
  | reject => rfl

theorem nameBlind_placeCells (row : Nat) (rowStyle : Option String) (cells : List Element)
    (column : Nat) : NameBlind fun s => s.placeCells context row column rowStyle cells := by
  induction cells generalizing column with
  | nil => exact .ok
  | cons cell cells ih =>
      intro s name
      beta_reduce
      rw [placeCells_cons, placeCells_cons, columnFor_withName]
      refine NameBlind.bind (nameBlind_placeCell context cell _ rowStyle) ?_ s name
      split
      · exact ih _
      · exact .error _

theorem nameBlind_placeRow (row : Nat) (e : Element) :
    NameBlind fun s => s.placeRow context row e := by
  refine .value_bind _ fun _ => .bind (.editIf _ (nameBlind_setRowHeight row)) ?_
  exact nameBlind_placeCells context row _ _ 1

theorem nameBlind_placeRows (rows : List Element) (row : Nat) :
    NameBlind fun s => s.placeRows context row rows := by
  induction rows generalizing row with
  | nil => exact .ok
  | cons e rest ih => exact .bind (nameBlind_placeRow context row e) (ih (row + 1))

theorem withSetting_withName {α : Type} (s : Sheet) (name : String) (value : Option String)
    (read : String → Option α) {set : Sheet → α → Sheet}
    (hset : ∀ s x, set (s.withName name) x = (set s x).withName name) :
    (s.withName name).withSetting value read set =
      (s.withSetting value read set).withName name := by
  rw [withSetting, withSetting]
  cases value.bind read with
  | none => rfl
  | some x => exact hset s x

theorem withTableSettings_withName (s : Sheet) (name : String) (table : Element) :
    (s.withName name).withTableSettings table = (s.withTableSettings table).withName name := by
  simp only [withTableSettings]
  repeat rw [withSetting_withName _ _ _ _ fun _ _ => rfl]

theorem autosizeColumns_withName (s : Sheet) (name : String) (columns : List Nat) :
    (s.withName name).autosizeColumns columns = (s.autosizeColumns columns).withName name := by
  induction columns generalizing s with
  | nil => rfl
  | cons column rest ih =>
      have hedit := nameBlind_editColumn column (fun c => { c with autoSize := true }) s name
      beta_reduce at hedit
      rw [autosizeColumns, autosizeColumns, List.foldl_cons, List.foldl_cons, hedit]
      cases s.editColumn column fun c => { c with autoSize := true } with
      | error fault => exact ih s
      | ok t => exact ih t

theorem withAutosize_withName (s : Sheet) (name : String) (table : Element) :
    (s.withName name).withAutosize table = (s.withAutosize table).withName name := by
  have hgrid : (s.withName name).grid = s.grid := rfl
  rw [withAutosize, withAutosize, hgrid]
  cases (table.mark? .autosize).bind fun value => Reader.autosize value s.grid.usedColumns with
  | none => rfl
  | some columns => exact autosizeColumns_withName s name columns

/-- The name of the sheet of a table when some names are taken. -/
def nameOf (options : Options) (table : Element) (taken : List String) : String :=
  if options.dedupe then SheetName.dedupe (SheetName.ofAttribute table.sheetName) taken
  else SheetName.ofAttribute table.sheetName

theorem ofTable_eq_map (table : Element) (taken : List String) :
    ofTable context table taken =
      (ofTable context table []).map (·.withName (nameOf context.options table taken)) := by
  have hstart : start context.options table taken =
      (start context.options table []).withName (nameOf context.options table taken) :=
    withTableSettings_withName (new _) _ table
  have hstages : NameBlind fun s =>
      table.check context.options.strict >>= fun _ =>
        s.withColumns context 1 table.columnElements >>= fun s =>
          s.placeRows context 1 table.tableRows >>= fun s => .ok (s.withAutosize table) := by
    refine .value_bind _ fun _ => .bind (nameBlind_withColumns context _ 1) ?_
    refine .bind (nameBlind_placeRows context _ 1) ?_
    intro s name
    exact congrArg Except.ok (s.withAutosize_withName name table)
  rw [ofTable_eq, hstart]
  exact hstages _ _

end Sheet

end TableBook
