import TableBook.Proofs.CellFault
import TableBook.Proofs.TableSheet

/-!
Strict checking next to none. The check of an element answers with nothing but
its faults, so at every stage a strict run gives what a permissive one gives,
provided that the elements of the stage pass.
-/

namespace TableBook

/-- `x` gives what `y` gives, provided that `p` holds. -/
def Filters {ε α : Type} (p : Prop) (x y : Except ε α) : Prop := ∀ a, x = .ok a ↔ p ∧ y = .ok a

namespace Filters

variable {ε α β : Type} {p q : Prop} {x y : Except ε α} {f g : α → Except ε β}

theorem refl (x : Except ε α) : Filters True x x := by
  intro a
  rw [true_and]

theorem of_iff (h : Filters p x y) (hpq : p ↔ q) : Filters q x y := by
  intro a
  rw [h a, hpq]

theorem nil (P : β → Prop) (x : Except ε α) : Filters (∀ b ∈ ([] : List β), P b) x x :=
  (refl x).of_iff (iff_of_true trivial (List.forall_mem_nil P))

theorem bind (h : Filters p x y) (hfg : ∀ a, Filters q (f a) (g a)) :
    Filters (p ∧ q) (x >>= f) (y >>= g) := by
  intro b
  rw [bind_eq_ok_iff, bind_eq_ok_iff]
  constructor
  · rintro ⟨a, hx, hf⟩
    obtain ⟨hp, hy⟩ := (h a).mp hx
    obtain ⟨hq, hg⟩ := (hfg a b).mp hf
    exact ⟨⟨hp, hq⟩, a, hy, hg⟩
  · rintro ⟨⟨hp, hq⟩, a, hy, hg⟩
    exact ⟨a, (h a).mpr ⟨hp, hy⟩, (hfg a b).mpr ⟨hq, hg⟩⟩

theorem bind_same (h : Filters p x y) (f : α → Except ε β) : Filters p (x >>= f) (y >>= f) :=
  (h.bind fun a => refl (f a)).of_iff (and_iff_left trivial)

theorem same_bind (x : Except ε α) (hfg : ∀ a, Filters q (f a) (g a)) :
    Filters q (x >>= f) (x >>= g) :=
  ((refl x).bind hfg).of_iff (and_iff_right trivial)

theorem error (p : Prop) (e : ε) : Filters p (.error e : Except ε α) (.error e) := by
  intro a
  exact iff_of_false nofun fun h => nomatch h.2

theorem ite {c : Prop} [Decidable c] (h : Filters p x y) (e : ε) :
    Filters p (if c then x else .error e) (if c then y else .error e) := by
  split
  · exact h
  · exact error p e

theorem mapError {δ : Type} (h : Filters p x y) (f : ε → δ) :
    Filters p (x.mapError f) (y.mapError f) := by
  intro a
  rw [mapError_eq_ok_iff, mapError_eq_ok_iff]
  exact h a

end Filters

theorem forM_eq_ok_iff {ε α : Type} {f : α → Except ε Unit} {xs : List α} :
    xs.forM f = .ok () ↔ ∀ x ∈ xs, f x = .ok () := by
  induction xs with
  | nil => exact iff_of_true rfl (List.forall_mem_nil _)
  | cons x xs ih =>
      rw [List.forall_mem_cons, ← ih]
      exact check_bind_eq_ok_iff

namespace Element

/-- Every attribute in the namespace of marks is a mark with a value of its
form. -/
def Passes (e : Element) : Prop :=
  ∀ entry ∈ e.attributes, Mark.isName entry.1 = true →
    Grammar.check true entry.1 entry.2 = .ok ()

/-- The elements of a table whose marks are read, in the order they are. -/
def visited (table : Element) : List Element :=
  table :: (table.columnElements ++ table.tableRows.flatMap fun row => row :: row.rowCells)

theorem check_eq_ok_iff {e : Element} {strict : Bool} :
    e.check strict = .ok () ↔ ∀ entry ∈ e.attributes, Mark.isName entry.1 = true →
      Grammar.check strict entry.1 entry.2 = .ok () := by
  rw [check, mapError_eq_ok_iff, forM_eq_ok_iff]
  refine forall₂_congr fun ⟨name, value⟩ _ => ?_
  dsimp only
  split
  · next hname => rw [forall_prop_of_true hname]
  · next hname => exact iff_of_true rfl fun h => absurd h hname

theorem check_permissive (e : Element) : e.check false = .ok () :=
  check_eq_ok_iff.mpr fun _ _ _ => rfl

theorem check_filters (e : Element) : Filters e.Passes (e.check true) (e.check false) := by
  rintro ⟨⟩
  rw [e.check_permissive, check_eq_ok_iff]
  exact (and_iff_left rfl).symm

end Element

def Context.withStrict (context : Context) (strict : Bool) : Context :=
  { context with options := { context.options with strict } }

namespace Sheet

variable (context : Context) (s : Sheet)

theorem placeCell_filters (cell : Element) (a : Address) (rowStyle : Option String) :
    Filters cell.Passes (s.placeCell (context.withStrict true) cell a rowStyle)
      (s.placeCell (context.withStrict false) cell a rowStyle) := by
  have hsources : (context.withStrict true).SameSources (context.withStrict false) :=
    ⟨rfl, rfl, rfl, rfl⟩
  rw [placeCell_eq, placeCell_eq, writePayload_congr hsources, cellStyle_congr hsources]
  exact cell.check_filters.bind_same _

theorem placeCells_filters (row column : Nat) (rowStyle : Option String) (cells : List Element) :
    Filters (∀ e ∈ cells, e.Passes)
      (s.placeCells (context.withStrict true) row column rowStyle cells)
      (s.placeCells (context.withStrict false) row column rowStyle cells) := by
  induction cells generalizing s column with
  | nil => exact Filters.nil _ _
  | cons cell cells ih =>
      rw [placeCells_cons, placeCells_cons]
      refine ((placeCell_filters context s cell _ rowStyle).bind fun t => (ih t _).ite _).of_iff ?_
      rw [List.forall_mem_cons]

theorem placeRow_filters (row : Nat) (e : Element) :
    Filters (∀ e' ∈ e :: e.rowCells, e'.Passes) (s.placeRow (context.withStrict true) row e)
      (s.placeRow (context.withStrict false) row e) := by
  rw [placeRow, placeRow]
  have hcells := fun t : Sheet =>
    placeCells_filters context t row 1 (e.mark? .namedStyle) e.rowCells
  refine (e.check_filters.bind fun _ => Filters.same_bind _ hcells).of_iff ?_
  rw [List.forall_mem_cons]

theorem placeRows_filters (row : Nat) (rows : List Element) :
    Filters (∀ e ∈ rows.flatMap fun row => row :: row.rowCells, e.Passes)
      (s.placeRows (context.withStrict true) row rows)
      (s.placeRows (context.withStrict false) row rows) := by
  induction rows generalizing s row with
  | nil => exact Filters.nil _ _
  | cons e rows ih =>
      rw [placeRows, placeRows, List.flatMap_cons]
      refine ((placeRow_filters context s row e).bind fun t => ih t (row + 1)).of_iff ?_
      rw [List.forall_mem_append]

theorem withColumn_filters (column : Nat) (e : Element) :
    Filters e.Passes (s.withColumn (context.withStrict true) column e)
      (s.withColumn (context.withStrict false) column e) := by
  rw [withColumn_eq, withColumn_eq]
  exact e.check_filters.bind_same _

theorem withColumns_filters (column : Nat) (columns : List Element) :
    Filters (∀ e ∈ columns, e.Passes) (s.withColumns (context.withStrict true) column columns)
      (s.withColumns (context.withStrict false) column columns) := by
  induction columns generalizing s column with
  | nil => exact Filters.nil _ _
  | cons e rest ih =>
      rw [withColumns, withColumns]
      refine ((withColumn_filters context s column e).bind fun t => ih t (column + 1)).of_iff ?_
      rw [List.forall_mem_cons]

theorem ofTable_filters (table : Element) (taken : List String) :
    Filters (∀ e ∈ table.visited, e.Passes)
      (Sheet.ofTable (context.withStrict true) table taken)
      (Sheet.ofTable (context.withStrict false) table taken) := by
  rw [ofTable_eq, ofTable_eq]
  have hrows := fun t : Sheet => (placeRows_filters context t 1 table.tableRows).bind_same
    fun t => .ok (t.withAutosize table)
  have hcolumns := withColumns_filters context (start context.options table taken) 1
    table.columnElements
  refine (table.check_filters.bind fun _ => hcolumns.bind hrows).of_iff ?_
  rw [Element.visited, List.forall_mem_cons, List.forall_mem_append]

end Sheet

namespace Workbook

variable (context : Context)

theorem addTables_cons (w : Workbook) (index : Nat) (table : Element) (rest : List Element) :
    addTables context w index (table :: rest) =
      (Sheet.ofTable context table w.names).mapError (.table index table.sheetName) >>= fun s =>
        addTables context (w.push s) (index + 1) rest := by
  rw [addTables]
  cases Sheet.ofTable context table w.names <;> rfl

theorem addTables_filters (w : Workbook) (index : Nat) (tables : List Element) :
    Filters (∀ table ∈ tables, ∀ e ∈ table.visited, e.Passes)
      (addTables (context.withStrict true) w index tables)
      (addTables (context.withStrict false) w index tables) := by
  induction tables generalizing w index with
  | nil => exact Filters.nil _ _
  | cons table rest ih =>
      rw [addTables_cons, addTables_cons]
      have htable := (Sheet.ofTable_filters context table w.names).mapError
        (DocumentFault.table index table.sheetName)
      refine (htable.bind fun s => ih (w.push s) (index + 1)).of_iff ?_
      rw [List.forall_mem_cons]

/-- A strict reading gives a workbook exactly where a permissive one gives the
same workbook and all that it looked at passes the check. -/
theorem ofNodes_withStrict_eq_ok_iff (nodes : List Node) (w : Workbook) :
    ofNodes (context.withStrict true) nodes = .ok w ↔
      ofNodes (context.withStrict false) nodes = .ok w ∧
        ∀ table ∈ Node.findAll Element.isSheetTable nodes, ∀ e ∈ table.visited, e.Passes := by
  rw [and_comm, ofNodes, ofNodes]
  cases Node.findAll Element.isSheetTable nodes with
  | nil => simp
  | cons table rest => exact addTables_filters context {} 0 (table :: rest) w

end Workbook

end TableBook
