import TableBook.Proofs.Overflow
import TableBook.Proofs.StrictReading
import TableBook.Proofs.WrittenNumbers

/-!
The numbers that a strict reading lets through. The grammar of marks takes digits and no words,
so none of them is written as infinity or as no number, but it does not ask how great a number
is. One that is out of the range of the numbers of 64 bits is taken for infinity.
-/

namespace TableBook

open Text

namespace Grammar

variable {cs : List Char} {value : String} {x : Binary64} {n : Nat}

theorem isNumeric_trim : isNumeric (trim cs) = isNumeric cs := by
  rw [isNumeric, isNumeric, trim_trim]

/-- Each word that is read as a number has the letter n in it, and a numeric text has not. -/
theorem decimal_of_read (h : isNumeric cs = true) (hread : Binary64.read cs = some x) :
    ∃ d, Decimal.read cs = some d ∧ x = d.nearest := by
  have hword : ∀ word : String, 'n' ∈ word.toList →
      (Decimal.splitSign cs).2.map Char.toLower ≠ word.toList := by
    intro word hn heq
    rw [← heq] at hn
    obtain ⟨c, hc, hlower⟩ := List.mem_map.mp hn
    have hmem := mem_of_isNumeric h (Decimal.splitSign_subset cs hc)
    rcases eq_or_eq_toUpper_of_toLower hlower (by decide) with rfl | rfl
    · exact absurd hmem (by decide)
    · exact absurd hmem (by decide)
  simp only [Binary64.read] at hread
  rw [if_neg (not_or.mpr ⟨hword "inf" (by decide), hword "infinity" (by decide)⟩),
    if_neg (hword "nan" (by decide))] at hread
  obtain ⟨d, hd, rfl⟩ := Option.map_eq_some_iff.mp hread
  exact ⟨d, hd, rfl⟩

theorem lt_of_positiveWord? (h : positiveWord? cs = some n) : n < wordLimit := by
  have hword := (Option.filter_eq_some_iff.mp h).1
  rw [readWord] at hword
  split at hword
  · cases hword
  · dsimp only at hword
    split at hword
    · next hlt => exact Option.some.inj hword ▸ hlt
    · cases hword

theorem decimal_of_positiveWord? (h : positiveWord? value.toList = some n) :
    ∃ d, Decimal.read (trim value.toList) = some d ∧ ¬d.Overflows := by
  obtain ⟨-, hne, hdigits, hvalue⟩ := positiveWord?_eq_some h
  rw [trim_of_digits hdigits, Decimal.read_of_digits hne hdigits, hvalue]
  exact ⟨_, rfl, Decimal.not_overflows_natural (lt_of_positiveWord? h).le (by decide)⟩

end Grammar

namespace Element

variable {table e cell : Element} {options : Options} {part : Sheet.Part} {cs : List Char}
  {x : Binary64}

theorem columnElement_mem_visited (he : e ∈ table.columnElements) : e ∈ table.visited :=
  List.mem_cons_of_mem _ (List.mem_append_left _ he)

theorem row_mem_visited (he : e ∈ table.tableRows) : e ∈ table.visited :=
  List.mem_cons_of_mem _ (List.mem_append_right _
    (List.mem_flatMap.mpr ⟨e, he, List.mem_cons_self⟩))

theorem cell_mem_visited (he : e ∈ table.tableRows) (hcell : cell ∈ e.rowCells) :
    cell ∈ table.visited :=
  List.mem_cons_of_mem _ (List.mem_append_right _
    (List.mem_flatMap.mpr ⟨e, he, List.mem_cons_of_mem _ hcell⟩))

section Passes

variable (hpasses : ∀ e ∈ table.visited, e.Passes)

include hpasses

theorem isNumeric_trim_of_passes {mark : Mark} {value : String}
    (hform : Grammar.form mark = .positiveNumber) (he : e ∈ table.visited)
    (hvalue : e.mark? mark = some value) : Grammar.isNumeric (trim value.toList) = true := by
  have hfault := (hpasses e he).fault?_eq_none hvalue
  rw [hform] at hfault
  have hpositive := Grammar.accept_eq_none_iff.mp hfault
  rw [Grammar.isPositiveNumber, Bool.and_eq_true] at hpositive
  rw [Grammar.isNumeric_trim]
  exact hpositive.1

theorem inRange_of_passes {mark : Mark} {value : String}
    (hform : Grammar.form mark = .positiveInteger) (he : e ∈ table.visited)
    (hvalue : e.mark? mark = some value) :
    ∃ d, Decimal.read (trim value.toList) = some d ∧ ¬d.Overflows := by
  have hfault := (hpasses e he).fault?_eq_none hvalue
  rw [hform] at hfault
  obtain ⟨n, hn⟩ := Option.isSome_iff_exists.mp (Grammar.accept_eq_none_iff.mp hfault)
  exact Grammar.decimal_of_positiveWord? hn

/-- Widths of columns are whole numbers of 32 bits. -/
theorem Writes.inRange (h : table.Writes options part cs)
    (hpart : part = .columns ∨ part = .defaultWidth) :
    ∃ d, Decimal.read cs = some d ∧ ¬d.Overflows := by
  cases h with
  | columnWidth he h => exact inRange_of_passes hpasses rfl (columnElement_mem_visited he) h
  | defaultWidth h => exact inRange_of_passes hpasses rfl List.mem_cons_self h
  | _ => simp at hpart

/-- All other numbers are written in digits, with a point and a power of ten or without. -/
theorem Writes.isNumeric (h : table.Writes options part cs) (hcolumns : part ≠ .columns)
    (hdefaultWidth : part ≠ .defaultWidth) : Grammar.isNumeric cs = true := by
  cases h with
  | value he hcell h =>
      exact (Scalar.readNumber_eq_some (Scalar.readNumber_of_ofText h)).1
  | comment he hcell hmark h =>
      rcases hmark with rfl | rfl
      · exact isNumeric_trim_of_passes hpasses rfl (cell_mem_visited he hcell) h
      · exact isNumeric_trim_of_passes hpasses rfl (cell_mem_visited he hcell) h
  | fontSize he hcell h =>
      exact isNumeric_trim_of_passes hpasses rfl (cell_mem_visited he hcell) h
  | @threshold e cell value n => exact Grammar.isNumeric_text n
  | columnWidth => exact absurd rfl hcolumns
  | rowHeight he h => exact isNumeric_trim_of_passes hpasses rfl (row_mem_visited he) h
  | defaultWidth => exact absurd rfl hdefaultWidth
  | margin h hpart =>
      have hfault := (hpasses table List.mem_cons_self).fault?_eq_none h
      exact (Reader.marginsFault?_eq_none_iff.mp hfault).2 _ hpart

end Passes

/-- A number that is out of range, as a table writes it for a part of its sheet. -/
def Overflows (table : Element) (options : Options) (part : Sheet.Part) (x : Binary64) : Prop :=
  ∃ cs d, table.Writes options part cs ∧ Decimal.read cs = some d ∧ d.Overflows ∧
    x = .infinite d.negative

end Element

theorem Binary64.isFinite_usual : Margins.usual.isFinite = true := by
  rw [Margins.usual, isFinite_ofRatio_iff _ two_pos]
  exact lt_trans (by norm_num) one_lt_overflowBound

/-- What a number of the sheet is if all values of the table are checked. -/
theorem Element.Source.finite {context : Context} {table : Element} {part : Sheet.Part}
    {x : Binary64} (hpasses : ∀ e ∈ table.visited, e.Passes) (h : table.Source context part x) :
    x.isFinite = true ∨
      part ≠ .columns ∧ part ≠ .defaultWidth ∧ table.Overflows context.options part x ∨
        part = .styles ∧ context.catalogue.Holds x := by
  cases h with
  | @written cs hwrites hread =>
      by_cases hpart : part = .columns ∨ part = .defaultWidth
      · obtain ⟨d, hd, hrange⟩ := hwrites.inRange hpasses hpart
        rw [Binary64.read_of_decimal hd] at hread
        obtain rfl := Option.some.inj hread
        exact .inl (d.isFinite_nearest_iff.mpr hrange)
      · rw [not_or] at hpart
        obtain ⟨d, hd, rfl⟩ :=
          Grammar.decimal_of_read (hwrites.isNumeric hpasses hpart.1 hpart.2) hread
        by_cases hrange : d.Overflows
        · exact .inr (.inl ⟨hpart.1, hpart.2, cs, d, hwrites, hd, hrange,
            Decimal.nearest_of_overflows hrange⟩)
        · exact .inl (d.isFinite_nearest_iff.mpr hrange)
  | named hpart h => exact .inr (.inr ⟨hpart, h⟩)
  | margin hpart h =>
      rcases h with hzero | husual
      · exact .inl (hzero ▸ rfl)
      · exact .inl (husual ▸ Binary64.isFinite_usual)

/-- The presets hold no number. -/
theorem Catalogue.not_holds_presets (x : Binary64) : ¬presets.Holds x := by
  rintro ⟨name, style, hnamed, hx⟩
  have hall : ∀ entry ∈ presets.entries, entry.2.numbers = [] := by decide +kernel
  rw [named] at hnamed
  split at hnamed
  · next hget =>
      obtain rfl := Except.ok.inj hnamed
      rw [hall _ ((Keyed.get?_eq_some_iff presets name _).mp hget)] at hx
      cases hx
  · cases hnamed

theorem Context.withStrict_eq_self {context : Context} {strict : Bool}
    (h : context.options.strict = strict) : context.withStrict strict = context := by
  subst h
  rfl

namespace Workbook

/-- The numbers that a strict reading leaves in a workbook are finite, with two exceptions. A
numeral of a table may be out of the range of the numbers of 64 bits, and it is then infinite
under its sign, unless it is for the width of columns; and named styles are taken as they are. -/
theorem ofNodes_finite {context : Context} {nodes : List Node} {w : Workbook}
    (hstrict : context.options.strict = true) (h : ofNodes context nodes = .ok w) :
    List.Forall₂
      (fun table s => ∀ part x, s.HoldsIn x part → x.isFinite = true ∨
        part ≠ .columns ∧ part ≠ .defaultWidth ∧ table.Overflows context.options part x ∨
          part = .styles ∧ context.catalogue.Holds x)
      (Node.findAll Element.isSheetTable nodes) w.sheets := by
  refine forall₂_ofNodes ?_ h
  intro table taken s hs part x hx
  have hchecked : Sheet.ofTable (context.withStrict true) table taken = .ok s := by
    rw [Context.withStrict_eq_self hstrict]
    exact hs
  obtain ⟨hpasses, -⟩ := (Sheet.ofTable_filters context table taken s).mp hchecked
  exact (Sheet.source_of_ofTable hs hx).finite hpasses

/-- Numbers in range at five places, and a value that is out of it. -/
theorem ofNodes_finite_value :
    let context : Context := ⟨Catalogue.presets, {}, {}⟩
    let table : Element := ⟨"table", [(Mark.sheet.name, "S"), (Mark.pageMargins.name, "1e-1,2")], [
      .element ⟨"colgroup", [], [.element ⟨"col", [(Mark.width.name, "20")], []⟩]⟩,
      .element ⟨"tr", [(Mark.height.name, "18.5")], [
        .element ⟨"td", [(Mark.fontSize.name, "1e2"), (Mark.conditional.name, "value>2.5|bold")],
          [.text "-1e309"]⟩]⟩]⟩
    context.options.strict = true ∧
      ∃ w s, ofNodes context [.element table] = .ok w ∧ w.sheets = [s] ∧
        s.valueAt ⟨1, 1⟩ = .number (.infinite true) ∧
        s.pool.styles.map Style.numbers = [[], [.ofRatio false 100 1, .ofRatio false 5 2]] ∧
        ∀ part x, s.HoldsIn x part →
          x.isFinite = true ∨ part ≠ .columns ∧ part ≠ .defaultWidth ∧
            table.Overflows context.options part x := by
  intro context table
  have hsheets : ((ofNodes context [.element table]).toOption.map fun w =>
      w.sheets.map fun s => (s.valueAt ⟨1, 1⟩, s.pool.styles.map Style.numbers)) =
        some [(.number (.infinite true), [[], [.ofRatio false 100 1, .ofRatio false 5 2]])] := by
    decide +kernel
  obtain ⟨w, h, hnumbers⟩ := exists_ok_of_map_toOption hsheets
  obtain ⟨s, hs, hread⟩ := List.map_eq_singleton_iff.mp hnumbers
  obtain ⟨hvalue, hstyles⟩ := Prod.mk.inj hread
  have htables : Node.findAll Element.isSheetTable [.element table] = [table] := rfl
  have hall := ofNodes_finite rfl h
  rw [htables, hs, List.forall₂_cons] at hall
  refine ⟨rfl, w, s, h, hs, hvalue, hstyles, ?_⟩
  intro part x hx
  rcases hall.1 part x hx with hfinite | hoverflows | ⟨-, hpreset⟩
  · exact .inl hfinite
  · exact .inr hoverflows
  · exact absurd hpreset (Catalogue.not_holds_presets x)

/-- A font size of `1e999` passes the check of a positive number, and the style of the cell has
no finite size. -/
theorem ofNodes_infinite_size :
    let context : Context := ⟨Catalogue.presets, {}, {}⟩
    let table : Element := ⟨"table", [(Mark.sheet.name, "S")], [.element ⟨"tr", [], [
      .element ⟨"td", [(Mark.fontSize.name, "1e999")], []⟩]⟩]⟩
    context.options.strict = true ∧
      ∃ w s, ofNodes context [.element table] = .ok w ∧ w.sheets = [s] ∧
        s.HoldsIn (.infinite false) .styles ∧ (Binary64.infinite false).isFinite = false := by
  intro context table
  have hsheets : ((ofNodes context [.element table]).toOption.map fun w =>
      w.sheets.map fun s => s.pool.styles.map Style.numbers) =
        some [[[], [.infinite false]]] := by
    decide +kernel
  obtain ⟨w, h, hnumbers⟩ := exists_ok_of_map_toOption hsheets
  obtain ⟨s, hs, hstyles⟩ := List.map_eq_singleton_iff.mp hnumbers
  have hmem : [.infinite false] ∈ s.pool.styles.map Style.numbers := by
    rw [hstyles]
    exact List.mem_cons_of_mem _ List.mem_cons_self
  obtain ⟨style, hstyle, hsize⟩ := List.mem_map.mp hmem
  refine ⟨rfl, w, s, h, hs, ⟨style, hstyle, ?_⟩, rfl⟩
  rw [hsize]
  exact List.mem_cons_self

end Workbook

end TableBook
