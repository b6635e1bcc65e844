import TableBook.Proofs.HighlightGrammar
import TableBook.Proofs.Margins
import TableBook.Proofs.NumberLocale
import TableBook.Proofs.SheetNumbers
import TableBook.Proofs.TableEdits

namespace TableBook

open Text

namespace Highlight

variable {cs : List Char} {condition : Condition} {rule : Rule} {x : Binary64}

/-- The numerals of a condition. -/
inductive Bound : List Char → Numeral → Prop
  | compared {before after : List Char} {sign : Char} (n : Numeral)
      (hsign : sign = '>' ∨ sign = '<') (hbefore : ∀ c ∈ before, isBlank c = true)
      (hafter : ∀ c ∈ after, isBlank c = true) :
      Bound ("value".toList ++ (before ++ sign :: (after ++ n.text))) n
  | first (m n : Numeral) : Bound (betweenText m n) m
  | last (m n : Numeral) : Bound (betweenText m n) n

/-- The numerals of a rule: those of the condition in front of the first bar. -/
def Writes (cs : List Char) (n : Numeral) : Prop :=
  ∃ first rest, (pieces '|' cs).map trim = first :: rest ∧ Bound first n

theorem mem_thresholds_within {a b : Binary64} (h : x ∈ (Condition.within a b).thresholds) :
    x = a ∨ x = b := by
  simp only [Condition.thresholds, Condition.within, Condition.first, Condition.second?,
    Option.toList_some, List.mem_cons, List.not_mem_nil, or_false, Binary64.smaller,
    Binary64.greater] at h
  split_ifs at h <;> tauto

theorem exists_bound (h : IsCondition cs condition) (hx : x ∈ condition.thresholds) :
    ∃ n, Bound cs n ∧ x = n.value := by
  cases h with
  | above n hbefore hafter =>
      exact ⟨n, .compared n (.inl rfl) hbefore hafter, List.mem_singleton.mp hx⟩
  | below n hbefore hafter =>
      exact ⟨n, .compared n (.inr rfl) hbefore hafter, List.mem_singleton.mp hx⟩
  | between m n =>
      rcases mem_thresholds_within hx with rfl | rfl
      · exact ⟨m, .first m n, rfl⟩
      · exact ⟨n, .last m n, rfl⟩

/-- The look of a rule holds no number. -/
theorem exists_writes_of_read (h : read cs = some rule) (hx : x ∈ Style.ruleNumbers [rule]) :
    ∃ n, Writes cs n ∧ x = n.value := by
  obtain ⟨first, rest, looks, hpieces, -, hcondition, -, hstyle⟩ := read_eq_some_iff.mp h
  obtain ⟨condition, style⟩ := rule
  cases hstyle
  have hthreshold : x ∈ condition.thresholds := by
    simpa [Style.ruleNumbers, Style.numbers_eq, styleOf] using hx
  obtain ⟨n, hbound, hn⟩ := exists_bound hcondition hthreshold
  exact ⟨n, ⟨first, rest, hpieces, hbound⟩, hn⟩

end Highlight

theorem Directive.mem_numbers_fragment {mark : Mark} {value : String} {fragment : Style}
    {x : Binary64} (h : fragment? mark value = some fragment) (hx : x ∈ fragment.numbers) :
    mark = .fontSize ∧ readPositive value = some x ∨
      mark = .conditional ∧ ∃ n, Highlight.Writes value.toList n ∧ x = n.value := by
  cases mark with
  | fontSize =>
      obtain ⟨size, hsize, rfl⟩ := Option.map_eq_some_iff.mp h
      obtain rfl : x = size := List.mem_singleton.mp hx
      exact .inl ⟨rfl, hsize⟩
  | conditional =>
      obtain ⟨rule, hrule, rfl⟩ := Option.map_eq_some_iff.mp h
      exact .inr ⟨rfl, Highlight.exists_writes_of_read hrule hx⟩
  | backgroundColor | fontColor | border | borderColor | fontUnderline =>
      obtain ⟨_, -, rfl⟩ := Option.map_eq_some_iff.mp h
      cases hx
  | fontName =>
      rw [fragment?] at h
      split at h
      · cases h
      · cases h
        cases hx
  | format | align | verticalAlign | wrap | locked | fontBold | fontItalic =>
      cases h
      cases hx
  | _ => cases h

theorem Style.mem_numbers_foldl_merge {fragments : List Style} {base : Style} {x : Binary64}
    (h : x ∈ (fragments.foldl merge base).numbers) :
    x ∈ base.numbers ∨ ∃ fragment ∈ fragments, x ∈ fragment.numbers := by
  induction fragments generalizing base with
  | nil => exact .inl h
  | cons fragment fragments ih =>
      rw [List.exists_mem_cons_iff]
      rcases ih h with hbase | hlater
      · exact (mem_numbers_merge hbase).imp_right .inl
      · exact .inr (.inr hlater)

/-- A style of the catalogue has the number. -/
def Catalogue.Holds (catalogue : Catalogue) (x : Binary64) : Prop :=
  ∃ name style, catalogue.named name = .ok style ∧ x ∈ style.numbers

/-- The text of a cell as the number in it is read. -/
def Element.numberText (cell : Element) (options : Options) : List Char :=
  Scalar.normalizeNumber (Scalar.isFrench ((cell.mark? .numberLocale).or options.locale))
    (trim (trimMarkup cell.textContent).toList)

/-- The texts that a table writes numbers with, by the part of the sheet they are for. -/
inductive Element.Writes (options : Options) (table : Element) : Sheet.Part → List Char → Prop
  | value {e cell : Element} {x : Binary64} (he : e ∈ table.tableRows) (hcell : cell ∈ e.rowCells)
      (h : cell.scalar options = .number x) :
      Writes options table .cells (cell.numberText options)
  | comment {e cell : Element} {mark : Mark} {value : String} (he : e ∈ table.tableRows)
      (hcell : cell ∈ e.rowCells) (hmark : mark = .commentWidth ∨ mark = .commentHeight)
      (h : cell.mark? mark = some value) : Writes options table .cells (trim value.toList)
  | fontSize {e cell : Element} {value : String} (he : e ∈ table.tableRows)
      (hcell : cell ∈ e.rowCells) (h : cell.mark? .fontSize = some value) :
      Writes options table .styles (trim value.toList)
  | threshold {e cell : Element} {value : String} {n : Numeral} (he : e ∈ table.tableRows)
      (hcell : cell ∈ e.rowCells) (h : cell.mark? .conditional = some value)
      (hn : Highlight.Writes value.toList n) : Writes options table .styles n.text
  | columnWidth {e : Element} {value : String} (he : e ∈ table.columnElements)
      (h : e.mark? .width = some value) : Writes options table .columns (trim value.toList)
  | rowHeight {e : Element} {value : String} (he : e ∈ table.tableRows)
      (h : e.mark? .height = some value) : Writes options table .rows (trim value.toList)
  | defaultWidth {value : String} (h : table.mark? .defaultColumnWidth = some value) :
      Writes options table .defaultWidth (trim value.toList)
  | margin {value : String} {part : List Char} (h : table.mark? .pageMargins = some value)
      (hpart : part ∈ Reader.marginParts value) : Writes options table .margins part

/-- Where a number of a sheet comes from. -/
inductive Element.Source (context : Context) (table : Element) (part : Sheet.Part)
    (x : Binary64) : Prop
  | written {cs : List Char} (h : table.Writes context.options part cs)
      (hread : Binary64.read cs = some x)
  | named (hpart : part = .styles) (h : context.catalogue.Holds x)
  | margin (hpart : part = .margins) (h : x = .zero ∨ x = Margins.usual)

namespace Scalar

variable {s : String} {wanted : Option ValueType} {locale : Option String} {x : Binary64}

theorem readNumber_of_ofText (h : ofText s wanted locale = .number x) :
    readNumber s.toList locale = some x := by
  simp only [ofText] at h
  split at h
  · cases h
  split at h
  · cases h
  · cases h
  · split at h
    · next y hy =>
        cases h
        exact hy
    · cases h
  · cases h
  · split at h <;> cases h
  · exact readNumber_of_infer h

theorem readNumber_eq_some {cs : List Char} (h : readNumber cs locale = some x) :
    Grammar.isNumeric (normalizeNumber (isFrench locale) (trim cs)) = true ∧
      Binary64.read (normalizeNumber (isFrench locale) (trim cs)) = some x := by
  simp only [readNumber] at h
  split at h
  · next hnumeric => exact ⟨hnumeric, h⟩
  · cases h

theorem eq_number_of_mem_numbers {scalar : Scalar} (h : x ∈ scalar.value.numbers) :
    scalar = .number x := by
  cases scalar with
  | number y => rw [List.mem_singleton.mp h]
  | _ => cases h

end Scalar

theorem Directive.readPositive_eq_some {value : String} {x : Binary64}
    (h : readPositive value = some x) : Binary64.read (trim value.toList) = some x :=
  (Option.filter_eq_some_iff.mp h).1

namespace Sheet

variable {context : Context} {table cell e : Element} {part : Part} {edit : Edit} {x : Binary64}

theorem holds_of_namedStyle {name : Option String} {style : Style}
    (h : namedStyle context name = .ok style) (hx : x ∈ style.numbers) :
    context.catalogue.Holds x := by
  cases name with
  | some name => exact ⟨name, style, mapError_eq_ok_iff.mp h, hx⟩
  | none =>
      cases h
      cases hx

theorem source_of_cellStyle {rowStyle : Option String} {style : Style}
    (he : e ∈ table.tableRows) (hcell : cell ∈ e.rowCells)
    (h : cellStyle context cell rowStyle = .ok style) (hx : x ∈ style.numbers) :
    table.Source context .styles x := by
  obtain ⟨row, hrow, h⟩ := bind_eq_ok_iff.mp h
  obtain ⟨own, hown, h⟩ := bind_eq_ok_iff.mp h
  cases h
  rcases Style.mem_numbers_foldl_merge hx with hbase | ⟨fragment, hfragment, hx⟩
  · rcases Style.mem_numbers_merge hbase with hbase | hlink
    · rcases Style.mem_numbers_merge hbase with hbase | hx
      · rcases Style.mem_numbers_merge hbase with hx | hx
        · cases hx
        · exact .named rfl (holds_of_namedStyle hrow hx)
      · exact .named rfl (holds_of_namedStyle hown hx)
    · split at hlink <;> cases hlink
  · obtain ⟨mark, -, hmark⟩ := List.mem_filterMap.mp hfragment
    obtain ⟨value, hvalue, hread⟩ := Option.bind_eq_some_iff.mp hmark
    rcases Directive.mem_numbers_fragment hread hx with ⟨rfl, hsize⟩ | ⟨rfl, n, hn, rfl⟩
    · exact .written (.fontSize he hcell hvalue) (Directive.readPositive_eq_some hsize)
    · exact .written (.threshold he hcell hvalue hn) n.read_text_eq_value

theorem exists_mark_of_comment {comment : Comment} (h : cell.comment? = some comment)
    (hx : x ∈ comment.numbers) :
    ∃ mark value, (mark = .commentWidth ∨ mark = .commentHeight) ∧ cell.mark? mark = some value ∧
      Binary64.read (trim value.toList) = some x := by
  obtain ⟨text, -, rfl⟩ := Option.map_eq_some_iff.mp h
  rcases List.mem_append.mp hx with hwidth | hheight
  · obtain ⟨value, hvalue, hread⟩ := Option.bind_eq_some_iff.mp (Option.mem_toList.mp hwidth)
    exact ⟨.commentWidth, value, .inl rfl, hvalue, Directive.readPositive_eq_some hread⟩
  · obtain ⟨value, hvalue, hread⟩ := Option.bind_eq_some_iff.mp (Option.mem_toList.mp hheight)
    exact ⟨.commentHeight, value, .inr rfl, hvalue, Directive.readPositive_eq_some hread⟩

theorem source_of_cellEdit {a : Address} {rowStyle : Option String} (he : e ∈ table.tableRows)
    (hcell : cell ∈ e.rowCells) (hedit : cell.CellEdit context a rowStyle edit)
    (h : edit.Brings part x) : table.Source context part x := by
  cases hedit with
  | value =>
      cases h with
      | value hx =>
          have hnumber := Scalar.eq_number_of_mem_numbers hx
          have hread := (Scalar.readNumber_eq_some (Scalar.readNumber_of_ofText hnumber)).2
          exact .written (.value he hcell hnumber) hread
  | style hstyle =>
      cases h with
      | style hx => exact source_of_cellStyle he hcell hstyle hx
  | comment hcomment =>
      cases h with
      | comment hx =>
          obtain ⟨mark, value, hmark, hvalue, hread⟩ := exists_mark_of_comment hcomment hx
          exact .written (.comment he hcell hmark hvalue) hread
  | image =>
      cases h with
      | value hx => cases hx
  | _ => cases h

theorem source_of_tableEdit (hedit : table.TableEdit context edit) (h : edit.Brings part x) :
    table.Source context part x := by
  cases hedit with
  | width he hwidth =>
      obtain ⟨value, hvalue, hread⟩ := Option.bind_eq_some_iff.mp hwidth
      cases h
      exact .written (.columnWidth he hvalue) (Directive.readPositive_eq_some hread)
  | hidden => cases h
  | @column e column name style he hname hnamed =>
      cases h with
      | styleWholeColumn hx => exact .named rfl ⟨name, style, hnamed, hx⟩
  | height he hheight =>
      obtain ⟨value, hvalue, hread⟩ := Option.bind_eq_some_iff.mp hheight
      cases h
      exact .written (.rowHeight he hvalue) (Directive.readPositive_eq_some hread)
  | cell he hcell hedit => exact source_of_cellEdit he hcell hedit h

end Sheet

theorem Margins.mem_toList_ofList {values : List Binary64} {x : Binary64}
    (h : x ∈ (ofList values).toList) : x = usual ∨ x ∈ values := by
  change x ∈ (List.range 6).map fun i => values[i]?.getD usual at h
  obtain ⟨i, -, rfl⟩ := List.mem_map.mp h
  cases hvalue : values[i]? with
  | none => exact .inl Option.getD_none
  | some y => exact .inr (List.mem_of_getElem? hvalue)

theorem Reader.mem_margins {value : String} {x : Binary64} (h : x ∈ (margins value).toList) :
    (x = .zero ∨ x = Margins.usual) ∨ ∃ part ∈ marginParts value, Binary64.read part = some x := by
  rcases Margins.mem_toList_ofList h with husual | hmem
  · exact .inl (.inr husual)
  obtain ⟨piece, hpiece, rfl⟩ := List.mem_map.mp hmem
  have hpart : trim piece ∈ marginParts value :=
    List.mem_map_of_mem (List.mem_of_mem_take hpiece)
  cases hread : Binary64.read (trim piece) with
  | none => exact .inl (.inl rfl)
  | some y => exact .inr ⟨trim piece, hpart, hread⟩

namespace Sheet

variable {context : Context} {table : Element} {part : Part} {x : Binary64} {s t : Sheet}
  {taken : List String}

theorem source_of_start (h : (start context.options table taken).HoldsIn x part) :
    table.Source context part x := by
  cases part with
  | cells =>
      obtain ⟨a, c, hcell, -⟩ := h
      rw [(bare_start _ table taken).cell?_eq_none] at hcell
      cases hcell
  | styles =>
      obtain ⟨style, hstyle, hx⟩ := h
      rw [pool_start] at hstyle
      obtain rfl := List.mem_singleton.mp hstyle
      cases hx
  | columns =>
      obtain ⟨k, column, hcolumn, -⟩ := h
      rw [columns_start] at hcolumn
      cases hcolumn
  | rows =>
      obtain ⟨k, row, hrow, -⟩ := h
      rw [rows_start] at hrow
      cases hrow
  | defaultWidth =>
      obtain ⟨value, hvalue, hread⟩ :=
        Option.bind_eq_some_iff.mp ((defaultWidth_start _ table taken).symm.trans h)
      exact .written (.defaultWidth hvalue) (Directive.readPositive_eq_some hread)
  | margins =>
      obtain ⟨m, hm, hx⟩ := h
      rw [margins_start] at hm
      obtain ⟨value, hvalue, rfl⟩ := Option.map_eq_some_iff.mp hm
      rcases Reader.mem_margins hx with hother | ⟨part, hpart, hread⟩
      · exact .margin rfl hother
      · exact .written (.margin hvalue hpart) hread

theorem Steps.gains {Asked : Edit → Prop} {new : Part → Binary64 → Prop} (h : s.Steps Asked t)
    (hnew : ∀ edit, Asked edit → ∀ part x, edit.Brings part x → new part x) : s.Gains new t := by
  refine h.invariant (P := s.Gains new) ?_ (.refl s new)
  intro edit t u hasked hok hgains
  refine hgains.trans ?_
  intro part x hx
  have hattempt := t.gains_attempt edit part x
  rw [hok] at hattempt
  exact (hattempt hx).imp_right (hnew edit hasked part x)

/-- Whatever number the sheet of a table holds, the table has written it there, or it is one of
a named style, or a margin that is not written. -/
theorem source_of_ofTable (h : ofTable context table taken = .ok s) (hx : s.HoldsIn x part) :
    table.Source context part x := by
  obtain ⟨t, u, hcolumns, -, hrows, rfl⟩ := ofTable_eq_ok h
  have hsteps : (start context.options table taken).Steps (table.TableEdit context) u :=
    (steps_withColumns (fun _ => id) hcolumns).trans (steps_placeRows (fun _ => id) hrows)
  have hsized : u.Gains (table.Source context) (u.withAutosize table) := by
    refine (steps_withAutosize u table).gains ?_
    rintro edit ⟨column, rfl⟩ part x hbrings
    cases hbrings
  have hread : (start context.options table taken).Gains (table.Source context) u :=
    hsteps.gains fun edit hedit part x => source_of_tableEdit hedit
  rcases (hread.trans hsized) part x hx with hstart | hsource
  · exact source_of_start hstart
  · exact hsource

end Sheet

end TableBook
