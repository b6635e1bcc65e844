import TableBook.Proofs.RangeWalk
import TableBook.Proofs.Reached
import TableBook.Table.Cursor

/-!
The cursor of a row stays within one column of the sheet. What it passes lies in a region, and
regions end inside the bounds; what it writes is in the bounds with all its columns. So every turn
takes it to the right by at least one column, it stops after as many turns as a sheet has columns
at most, and it never comes near the end of a word.
-/

namespace TableBook

open TableFault

theorem Text.addWords?_eq_some {n m : Nat} (h : n + m < wordLimit) :
    addWords? n m = some (n + m) :=
  if_pos h

theorem Text.lt_wordLimit_iff {n : Nat} : n < wordLimit ↔ n ≤ Merge.lastIndex :=
  Nat.lt_iff_le_pred (by decide)

namespace RowCursor

variable {context : Context} {row n : Nat} {rowStyle : Option String} {c d : RowCursor}
  {r : Except TableFault Sheet}

/-- A row that ends with a fault has a cell that is refused, or no word is left. -/
theorem Turn.eq_refused_of_result? {turn : Turn} {fault : TableFault}
    (h : turn.result? = some (.error fault)) (hword : turn ≠ .pastWord) :
    turn = .refused fault := by
  cases turn with
  | refused cause =>
      cases h
      rfl
  | pastWord => exact absurd rfl hword
  | _ => cases h

/-- What a turn can come to. -/
inductive TurnOutcome (context : Context) (row : Nat) (rowStyle : Option String)
    (c : RowCursor) : Turn → Prop
  | done (hcells : c.cells = []) : TurnOutcome context row rowStyle c (.done c.sheet)
  | passed (hcells : c.cells ≠ []) (hpasses : c.Passes context row) :
      TurnOutcome context row rowStyle c (.moved { c with column := c.column + 1 })
  | overflow (hpasses : c.Passes context row) (hword : ¬c.column + 1 < Text.wordLimit) :
      TurnOutcome context row rowStyle c .overflow
  | refused {cell : Element} {cells : List Element} {fault : TableFault}
      (hcells : c.cells = cell :: cells) (hstays : ¬c.Passes context row)
      (hcell : c.sheet.placeCell context cell ⟨row, c.column⟩ rowStyle = .error fault) :
      TurnOutcome context row rowStyle c (.refused fault)
  | placed {cell : Element} {cells : List Element} {s : Sheet} (hcells : c.cells = cell :: cells)
      (hstays : ¬c.Passes context row)
      (hcell : c.sheet.placeCell context cell ⟨row, c.column⟩ rowStyle = .ok s)
      (hword : c.column + cell.columnSpan < Text.wordLimit) :
      TurnOutcome context row rowStyle c (.moved ⟨s, c.column + cell.columnSpan, cells⟩)
  | pastWord {cell : Element} {cells : List Element} {s : Sheet} (hcells : c.cells = cell :: cells)
      (hstays : ¬c.Passes context row)
      (hcell : c.sheet.placeCell context cell ⟨row, c.column⟩ rowStyle = .ok s)
      (hword : ¬c.column + cell.columnSpan < Text.wordLimit) :
      TurnOutcome context row rowStyle c .pastWord

theorem turnOutcome (context : Context) (row : Nat) (rowStyle : Option String) (c : RowCursor) :
    TurnOutcome context row rowStyle c (c.turn context row rowStyle) := by
  rw [turn]
  split
  · next hcells => exact .done hcells
  next cell cells hcells =>
    split
    · next hpasses =>
        by_cases hword : c.column + 1 < Text.wordLimit
        · rw [Text.nextWord?_eq_some hword]
          exact .passed (hcells ▸ List.cons_ne_nil cell cells) hpasses
        · rw [Text.nextWord?, if_neg hword]
          exact .overflow hpasses hword
    next hstays =>
      split
      · next fault hcell => exact .refused hcells hstays hcell
      next s hcell =>
        by_cases hword : c.column + cell.columnSpan < Text.wordLimit
        · rw [Text.addWords?_eq_some hword]
          exact .placed hcells hstays hcell hword
        · rw [Text.addWords?, if_neg hword]
          exact .pastWord hcells hstays hcell hword

/-- The columns of a cell that is written end inside the bounds, far below the end of a word. -/
theorem turn_ne_pastWord : c.turn context row rowStyle ≠ .pastWord := by
  intro h
  have houtcome := c.turnOutcome context row rowStyle
  rw [h] at houtcome
  cases houtcome with
  | pastWord _ _ hcell hword =>
      have hlimit : maxColumns + 1 < Text.wordLimit := by decide
      exact hword (Nat.lt_of_le_of_lt (Sheet.fits_of_placeCell hcell).2.2 hlimit)

/-- So many turns take the cursor from one state to another. -/
inductive Moves (context : Context) (row : Nat) (rowStyle : Option String) :
    Nat → RowCursor → RowCursor → Prop
  | nil (c : RowCursor) : Moves context row rowStyle 0 c c
  | cons {n : Nat} {c d e : RowCursor} (hturn : c.turn context row rowStyle = .moved d)
      (hrest : Moves context row rowStyle n d e) : Moves context row rowStyle (n + 1) c e

/-- The sheet holds nothing outside the bounds, and the cursor is behind its last column at most. -/
structure Inside (c : RowCursor) : Prop where
  sheet : c.sheet.Within
  column_le : c.column ≤ maxColumns + 1

namespace Inside

theorem column_lt_of_passes (hc : c.Inside) (h : c.Passes context row) :
    c.column < maxColumns + 1 := by
  obtain ⟨m, hm⟩ := Option.isSome_iff_exists.mp h.2
  exact Nat.lt_succ_of_le (hc.sheet.le_of_covered hm).2

theorem moved (hc : c.Inside) (h : c.turn context row rowStyle = .moved d) :
    d.Inside ∧ c.column < d.column := by
  have houtcome := c.turnOutcome context row rowStyle
  rw [h] at houtcome
  cases houtcome with
  | passed _ hpasses =>
      exact ⟨⟨hc.sheet, hc.column_lt_of_passes hpasses⟩, Nat.lt_succ_self c.column⟩
  | @placed cell _ s _ _ hcell =>
      have hs : s.Within := hc.sheet.changes (Sheet.fills_placeCell hcell).changes
      obtain ⟨-, -, hcolumn⟩ := Sheet.fits_of_placeCell hcell
      exact ⟨⟨hs, hcolumn⟩, Nat.lt_add_of_pos_right cell.columnSpan_pos⟩

theorem turn_ne_overflow (hc : c.Inside) : c.turn context row rowStyle ≠ .overflow := by
  intro h
  have houtcome := c.turnOutcome context row rowStyle
  rw [h] at houtcome
  cases houtcome with
  | overflow hpasses hword =>
      have hlimit : maxColumns + 1 < Text.wordLimit := by decide
      exact hword (Nat.lt_of_le_of_lt (hc.column_lt_of_passes hpasses) hlimit)

theorem moves (hc : c.Inside) (h : Moves context row rowStyle n c d) :
    d.Inside ∧ c.column + n ≤ d.column := by
  induction h with
  | nil => exact ⟨hc, Nat.le_refl _⟩
  | cons hturn _ ih =>
      obtain ⟨hd, hlt⟩ := hc.moved hturn
      obtain ⟨he, hle⟩ := ih hd
      exact ⟨he, by omega⟩

/-- Turns only lead to the right, and there are so many columns and no more. -/
@[elab_as_elim]
theorem induction_right {P : RowCursor → Prop}
    (hstep : ∀ c : RowCursor, c.Inside → (∀ d : RowCursor, d.Inside → c.column < d.column → P d) →
      P c) (hc : c.Inside) : P c := by
  -- The columns that are left bound the turns that are left.
  induction hleft : maxColumns + 1 - c.column using Nat.strong_induction_on generalizing c with
  | _ left ih =>
      refine hstep c hc fun d hd hlt => ih (maxColumns + 1 - d.column) ?_ hd rfl
      have hle := hd.column_le
      omega

theorem turn_eq_of_passes (hc : c.Inside) (hcells : c.cells ≠ []) (hpasses : c.Passes context row) :
    c.turn context row rowStyle = .moved { c with column := c.column + 1 } := by
  have houtcome := c.turnOutcome context row rowStyle
  have hne : c.turn context row rowStyle ≠ .overflow := hc.turn_ne_overflow
  generalize c.turn context row rowStyle = turn at houtcome hne ⊢
  cases houtcome with
  | done hnil => exact absurd hnil hcells
  | passed => rfl
  | overflow => exact absurd rfl hne
  | refused _ hstays => exact absurd hpasses hstays
  | placed _ hstays => exact absurd hpasses hstays
  | pastWord _ hstays => exact absurd hpasses hstays

/-- The passing of covered columns ends, at the first column that takes a cell. -/
theorem exists_stays (hc : c.Inside) (hcells : c.cells ≠ []) :
    ∃ k, Moves context row rowStyle k c { c with column := c.column + k } ∧
      ¬Passes context row { c with column := c.column + k } := by
  revert hcells
  refine hc.induction_right ?_
  intro c hc ih hcells
  by_cases hpasses : c.Passes context row
  · have hturn : c.turn context row rowStyle = .moved { c with column := c.column + 1 } :=
      hc.turn_eq_of_passes hcells hpasses
    obtain ⟨hd, hlt⟩ := hc.moved hturn
    obtain ⟨k, hmoves, hstays⟩ := ih _ hd hlt hcells
    have hcolumn : c.column + (k + 1) = c.column + 1 + k := by omega
    refine ⟨k + 1, ?_⟩
    rw [hcolumn]
    exact ⟨.cons hturn hmoves, hstays⟩
  · exact ⟨0, .nil c, hpasses⟩

theorem exists_stop (hc : c.Inside) (context : Context) (row : Nat) (rowStyle : Option String) :
    ∃ n d r, Moves context row rowStyle n c d ∧ (d.turn context row rowStyle).result? = some r := by
  refine hc.induction_right ?_
  intro c hc ih
  cases hturn : c.turn context row rowStyle with
  | done s => exact ⟨0, c, .ok s, .nil c, by rw [hturn]; rfl⟩
  | moved d =>
      obtain ⟨hd, hlt⟩ := hc.moved hturn
      obtain ⟨n, e, r, hmoves, hresult⟩ := ih d hd hlt
      exact ⟨n + 1, e, r, .cons hturn hmoves, hresult⟩
  | refused fault => exact ⟨0, c, .error fault, .nil c, by rw [hturn]; rfl⟩
  | overflow => exact absurd hturn hc.turn_ne_overflow
  | pastWord => exact absurd hturn turn_ne_pastWord

end Inside

/-- The writing of the row from where the cursor stands. -/
def rest (context : Context) (row : Nat) (rowStyle : Option String) (c : RowCursor) :
    Except TableFault Sheet :=
  c.sheet.placeCells context row c.column rowStyle c.cells

theorem columnFor_eq_succ (h : c.Passes context row) :
    Sheet.columnFor context.options.policy c.sheet row c.column =
      Sheet.columnFor context.options.policy c.sheet row (c.column + 1) := by
  rw [h.1]
  exact Sheet.firstUncovered_eq_succ (Option.isSome_iff_ne_none.mp h.2)

theorem columnFor_eq_self (h : ¬c.Passes context row) :
    Sheet.columnFor context.options.policy c.sheet row c.column = c.column := by
  rw [Passes] at h
  cases hpolicy : context.options.policy with
  | reject => rfl
  | skipCovered =>
      have hfree : c.sheet.coveringMerge? ⟨row, c.column⟩ = none := by simpa [hpolicy] using h
      exact Sheet.firstUncovered_eq_self hfree

theorem rest_of_stays {cell : Element} {cells : List Element} (hcells : c.cells = cell :: cells)
    (hstays : ¬c.Passes context row) :
    c.rest context row rowStyle =
      c.sheet.placeCell context cell ⟨row, c.column⟩ rowStyle >>= fun s =>
        if c.column + cell.columnSpan < Text.wordLimit then
          s.placeCells context row (c.column + cell.columnSpan) rowStyle cells
        else .error (ofSheet (.columnOutOfBounds Merge.lastIndex)) := by
  rw [rest, hcells, Sheet.placeCells_cons, columnFor_eq_self hstays]
  simp only [Text.lt_wordLimit_iff]

theorem rest_eq_of_moved (h : c.turn context row rowStyle = .moved d) :
    c.rest context row rowStyle = d.rest context row rowStyle := by
  have houtcome := c.turnOutcome context row rowStyle
  rw [h] at houtcome
  cases houtcome with
  | passed hcells hpasses =>
      obtain ⟨cell, cells, hcells⟩ := List.exists_cons_of_ne_nil hcells
      simp only [rest, hcells, Sheet.placeCells_cons, columnFor_eq_succ hpasses]
  | placed hcells hstays hcell hword =>
      rw [rest_of_stays hcells hstays, hcell]
      exact if_pos hword

theorem Moves.rest_eq (h : Moves context row rowStyle n c d) :
    c.rest context row rowStyle = d.rest context row rowStyle := by
  induction h with
  | nil => rfl
  | cons hturn _ ih => rw [rest_eq_of_moved hturn, ih]

theorem rest_eq_of_result? (h : (c.turn context row rowStyle).result? = some r) :
    c.rest context row rowStyle = r := by
  have houtcome := c.turnOutcome context row rowStyle
  generalize c.turn context row rowStyle = turn at h houtcome
  cases houtcome with
  | done hcells =>
      cases h
      rw [rest, hcells]
      rfl
  | passed => cases h
  | placed => cases h
  | overflow => cases h
  | refused hcells hstays hcell =>
      cases h
      rw [rest_of_stays hcells hstays, hcell]
      rfl
  | pastWord hcells hstays hcell hword =>
      cases h
      rw [rest_of_stays hcells hstays, hcell]
      exact if_neg hword

end RowCursor

namespace Sheet

variable {s : Sheet} {context : Context} {table e : Element} {taken : List String}
  {before after : List Element}

/-- The sheet of a table when the cells of a row come next, after the rows before it. -/
def atRow (context : Context) (table : Element) (taken : List String) (before : List Element)
    (e : Element) : Except TableFault Sheet := do
  table.check context.options.strict
  let s ← (start context.options table taken).withColumns context 1 table.columnElements
  let s ← s.placeRows context 1 before
  e.check context.options.strict
  s.editIf ((e.mark? .height).bind Directive.readPositive) fun s height =>
    s.setRowHeight (before.length + 1) height

theorem reached_atRow (h : atRow context table taken before e = .ok s) : s.Reached := by
  rw [atRow, check_bind_eq_ok_iff] at h
  obtain ⟨t, hcolumns, h⟩ := bind_eq_ok_iff.mp h.2
  obtain ⟨u, hrows, h⟩ := bind_eq_ok_iff.mp h
  rw [check_bind_eq_ok_iff] at h
  have hheight : u.Fills s := fills_heightIf h.2
  have hfills : (start context.options table taken).Fills s :=
    ((fills_withColumns hcolumns).trans (fills_placeRows hrows)).trans hheight
  exact (reached_start _ table taken).changes hfills.changes

theorem placeRows_append (context : Context) (s : Sheet) (row : Nat)
    (before after : List Element) :
    s.placeRows context row (before ++ after) =
      s.placeRows context row before >>= fun t =>
        t.placeRows context (row + before.length) after := by
  induction before generalizing s row with
  | nil => rfl
  | cons e rest ih =>
      rw [List.cons_append, placeRows, placeRows, bind_assoc]
      refine bind_congr fun t => ?_
      rw [ih, List.length_cons, Nat.add_right_comm, Nat.add_assoc]

/-- The reading of a table around the cells of one of its rows. -/
theorem ofTable_eq_atRow (hrows : table.tableRows = before ++ e :: after) :
    ofTable context table taken =
      atRow context table taken before e >>= fun s =>
        s.placeCells context (before.length + 1) 1 (e.mark? .namedStyle) e.rowCells >>= fun s =>
          s.placeRows context (before.length + 2) after >>= fun s => .ok (s.withAutosize table) := by
  have hrow : 1 + before.length = before.length + 1 := Nat.add_comm _ _
  rw [ofTable_eq, hrows]
  simp only [placeRows_append, placeRows, placeRow, atRow, bind_assoc, hrow]

open RowCursor

/-- The cursor is safe in every row that the reading of a table comes to, under both policies and
whatever the spans are. After any number of turns it is further to the right than there were
turns and behind the last column of the sheet at most; the passing of covered columns ends; a
cell that is written there ends inside the bounds, and neither kind of step to the next column
runs out of words. So the turns come to an end, and what they give is what the row gives to the
reading of the table. -/
theorem ofTable_cursor (hrows : table.tableRows = before ++ e :: after)
    (h : atRow context table taken before e = .ok s) :
    let row := before.length + 1
    let rowStyle := e.mark? .namedStyle
    let first : RowCursor := ⟨s, 1, e.rowCells⟩
    (∀ n c, Moves context row rowStyle n first c →
      n < c.column ∧ c.column ≤ maxColumns + 1 ∧
        (c.cells ≠ [] → ∃ k, Moves context row rowStyle k c { c with column := c.column + k } ∧
          ¬Passes context row { c with column := c.column + k }) ∧
        (∀ cell t, c.sheet.placeCell context cell ⟨row, c.column⟩ rowStyle = .ok t →
          c.column + cell.columnSpan ≤ maxColumns + 1) ∧
        c.turn context row rowStyle ≠ .overflow ∧ c.turn context row rowStyle ≠ .pastWord) ∧
    ∃ n c r, Moves context row rowStyle n first c ∧
      (c.turn context row rowStyle).result? = some r ∧
        ofTable context table taken =
          r >>= fun s => s.placeRows context (row + 1) after >>= fun s =>
            .ok (s.withAutosize table) := by
  intro row rowStyle first
  have hfirst : first.Inside := ⟨(reached_atRow h).within, Nat.le_add_left 1 maxColumns⟩
  constructor
  · intro n c hmoves
    obtain ⟨hc, hle⟩ := hfirst.moves hmoves
    have hlt : n < c.column := by
      change 1 + n ≤ c.column at hle
      omega
    exact ⟨hlt, hc.column_le, hc.exists_stays, fun _ _ hcell => (fits_of_placeCell hcell).2.2,
      hc.turn_ne_overflow, turn_ne_pastWord⟩
  · obtain ⟨n, c, r, hmoves, hresult⟩ := hfirst.exists_stop context row rowStyle
    refine ⟨n, c, r, hmoves, hresult, ?_⟩
    have hrest : s.placeCells context row 1 rowStyle e.rowCells = r :=
      hmoves.rest_eq.trans (rest_eq_of_result? hresult)
    rw [ofTable_eq_atRow hrows, h, ← hrest]
    rfl

/-- The second row starts under a region of two columns, and its cell asks for more columns than a
word can count from there. The cell is refused, so the cursor never has to pass its columns. -/
theorem ofTable_cursor_widest :
    let context : Context := ⟨∅, { strict := false }, {}⟩
    let square : Element :=
      ⟨"td", [(Mark.columnSpan.name, "2"), (Mark.rowSpan.name, "2")], []⟩
    let widest : Element := ⟨"td", [(Mark.columnSpan.name, "4294967295")], []⟩
    let above : Element := ⟨"tr", [], [.element square]⟩
    let below : Element := ⟨"tr", [], [.element widest]⟩
    let table : Element := ⟨"table", [(Mark.sheet.name, "Data")], [.element above, .element below]⟩
    table.tableRows = [above] ++ below :: [] ∧
      ∃ s, atRow context table [] [above] below = .ok s ∧ s.merges = [Merge.ofSpans ⟨1, 1⟩ 2 2] ∧
        ∃ n c, Moves context 2 none n ⟨s, 1, [widest]⟩ c ∧ n < c.column ∧
          c.column ≤ maxColumns + 1 ∧
          c.turn context 2 none = .refused (.sheet (.columnOutOfBounds Merge.lastIndex)) := by
  intro context square widest above below table
  have hrows : table.tableRows = [above] ++ below :: [] := rfl
  have hmerges : ((atRow context table [] [above] below).toOption.map (·.merges)) =
      some [Merge.ofSpans ⟨1, 1⟩ 2 2] := by
    decide +kernel
  have hfault : (ofTable context table []).map (fun _ => ()) =
      .error (.sheet (.columnOutOfBounds Merge.lastIndex)) := by
    decide +kernel
  obtain ⟨s, hs, hread⟩ := exists_ok_of_map_toOption hmerges
  obtain ⟨hsafe, n, c, r, hmoves, hresult, hr⟩ := ofTable_cursor hrows hs
  obtain ⟨hlt, hle, -, -, -, hword⟩ := hsafe n c hmoves
  refine ⟨hrows, s, hs, hread, n, c, hmoves, hlt, hle, ?_⟩
  rw [hr] at hfault
  refine Turn.eq_refused_of_result? ?_ hword
  cases r with
  | ok t => cases hfault
  | error fault =>
      cases hfault
      exact hresult

end Sheet

end TableBook
