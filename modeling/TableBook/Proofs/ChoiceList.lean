import Mathlib.Logic.Function.Basic
import TableBook.Proofs.TableSheet

/-!
The choices that the cells of a table offer. The options of a list are joined by commas
inside quotes, and a spreadsheet splits what it finds between the quotes at commas. So an
option with a comma is offered in parts, and every other one as it is written.
-/

namespace TableBook

namespace Text

variable {separator : Char} {cs : List Char}

theorem pieces_append (separator : Char) (cs ds : List Char) :
    pieces separator (cs ++ separator :: ds) = pieces separator cs ++ pieces separator ds := by
  induction cs with
  | nil => simp [pieces]
  | cons c cs ih =>
      simp only [List.cons_append, pieces, ih]
      split
      · rfl
      · cases h : pieces separator cs with
        | nil => exact absurd h (pieces_ne_nil separator cs)
        | cons piece rest => rfl

/-- Joined parts fall into the pieces of each of them. -/
theorem pieces_join {parts : List (List Char)} (h : parts ≠ []) :
    pieces separator (join [separator] parts) = parts.flatMap (pieces separator) := by
  induction parts with
  | nil => exact absurd rfl h
  | cons part parts ih =>
      cases parts with
      | nil => rw [join, List.flatMap_singleton]
      | cons next rest =>
          have hne : next :: rest ≠ [] := List.cons_ne_nil next rest
          rw [List.flatMap_cons, join_cons _ _ hne, List.append_assoc, List.singleton_append,
            pieces_append, ih hne]

theorem flatten_pieces (separator : Char) (cs : List Char) :
    (pieces separator cs).flatten = cs.filter (· != separator) := by
  induction cs with
  | nil => rfl
  | cons c cs ih =>
      simp only [pieces, List.filter_cons, ← ih]
      split
      · next hc => simp [hc]
      · next hc =>
          rw [if_pos (bne_iff_ne.mpr hc)]
          cases h : pieces separator cs with
          | nil => exact absurd h (pieces_ne_nil separator cs)
          | cons piece rest => rfl

theorem pieces_of_notMem (h : separator ∉ cs) : pieces separator cs = [cs] := by
  induction cs with
  | nil => rfl
  | cons c cs ih =>
      rw [List.mem_cons, not_or] at h
      rw [pieces, if_neg (Ne.symm h.1), ih h.2]

end Text

open Text

namespace Choices

/-- Doubled quotes made single. A quote on its own has no such reading. -/
def singleQuotes : List Char → Option (List Char)
  | [] => some []
  | '"' :: '"' :: cs => (singleQuotes cs).map ('"' :: ·)
  | '"' :: _ => none
  | c :: cs => (singleQuotes cs).map (c :: ·)

/-- The text inside outer quotes. -/
def unquote : List Char → Option (List Char)
  | '"' :: cs => if cs.getLast? = some '"' then some cs.dropLast else none
  | _ => none

/-- The options that a spreadsheet reads from the formula of an inline list. -/
def offered (choices : Choices) : Option (List String) :=
  ((unquote choices.formula.toList).bind singleQuotes).map fun cs =>
    (pieces ',' cs).map String.ofList

/-- An option in the parts that its commas make of it. -/
def atCommas (option : String) : List String := (pieces ',' option.toList).map String.ofList

theorem singleQuotes_doubleQuotes (cs : List Char) : singleQuotes (doubleQuotes cs) = some cs := by
  induction cs with
  | nil => rfl
  | cons c cs ih =>
      by_cases hc : c = '"'
      · rw [hc, doubleQuotes, singleQuotes, ih, Option.map_some]
      · rw [doubleQuotes, singleQuotes, ih, Option.map_some]
        · exact fun _ h _ => hc h
        · exact hc
        · exact hc

theorem doubleQuotes_append (cs ds : List Char) :
    doubleQuotes (cs ++ ds) = doubleQuotes cs ++ doubleQuotes ds := by
  induction cs with
  | nil => rfl
  | cons c cs ih =>
      by_cases hc : c = '"'
      · rw [hc, List.cons_append, doubleQuotes, doubleQuotes, ih]
        rfl
      · rw [List.cons_append, doubleQuotes, doubleQuotes, ih]
        · rfl
        · exact hc
        · exact hc

theorem join_map_doubleQuotes (parts : List (List Char)) :
    join [','] (parts.map doubleQuotes) = doubleQuotes (join [','] parts) := by
  induction parts with
  | nil => rfl
  | cons part parts ih =>
      cases parts with
      | nil => rfl
      | cons next rest =>
          have hne : next :: rest ≠ [] := List.cons_ne_nil next rest
          have hne' : (next :: rest).map doubleQuotes ≠ [] := mt List.map_eq_nil_iff.mp hne
          rw [List.map_cons, join_cons _ _ hne', ih, join_cons _ _ hne, doubleQuotes_append,
            doubleQuotes_append]
          rfl

theorem unquote_quoted (cs : List Char) : unquote ('"' :: cs ++ ['"']) = some cs := by
  simp [unquote]

/-- What is offered is what was written, but for the commas. -/
theorem offered_ofOptions {options : List String} (h : options ≠ []) :
    (ofOptions options).offered = some (options.flatMap atCommas) := by
  have hne : options.map String.toList ≠ [] := mt List.map_eq_nil_iff.mp h
  have hjoin : join [','] (options.map (doubleQuotes ·.toList)) =
      doubleQuotes (join [','] (options.map String.toList)) := by
    rw [← join_map_doubleQuotes, List.map_map]
    rfl
  rw [offered, ofOptions, String.toList_ofList, hjoin, unquote_quoted, Option.bind_some,
    singleQuotes_doubleQuotes, Option.map_some, pieces_join hne, List.flatMap_map, List.map_flatMap]
  rfl

theorem flatMap_atCommas_iff {options : List String} :
    options.flatMap atCommas = options ↔ ∀ option ∈ options, ',' ∉ option.toList := by
  constructor
  · intro h option hoption
    rw [← h, List.mem_flatMap] at hoption
    obtain ⟨whole, -, hpart⟩ := hoption
    obtain ⟨piece, hpiece, rfl⟩ := List.mem_map.mp hpart
    rw [String.toList_ofList]
    exact separator_notMem_of_mem_pieces hpiece
  · intro h
    have hsingle : ∀ option ∈ options, atCommas option = [option] := by
      intro option hoption
      rw [atCommas, pieces_of_notMem (h option hoption), List.map_singleton, String.ofList_toList]
    rw [List.flatMap_congr hsingle, List.flatMap_singleton']

end Choices

theorem Reader.options_ne_nil (value : String) : options value ≠ [] :=
  mt List.map_eq_nil_iff.mp (pieces_ne_nil '|' value.toList)

theorem Reader.comma_notMem_options_iff {value : String} :
    (∀ option ∈ options value, ',' ∉ option.toList) ↔ ',' ∉ value.toList := by
  have hmem : ',' ∈ (pieces '|' value.toList).flatten ↔ ',' ∈ value.toList := by
    rw [flatten_pieces, List.mem_filter]
    simp
  rw [← hmem, List.mem_flatten]
  simp [options]

/-- The choices that a cell of a table asks for. -/
def Slot.choices? (t : Slot) : Option Choices :=
  (t.cell.mark? .choices).map fun value => .ofOptions (Reader.options value)

namespace Sheet

def choicesAt (s : Sheet) (a : Address) : Option Choices := (s.cell? a).bind Cell.choices

variable {s t : Sheet} {context : Context} {slots : List Slot} {cell : Element} {a b : Address}

theorem choicesAt_of_grid (h : t.grid = s.grid) : t.choicesAt = s.choicesAt := by
  funext a
  rw [choicesAt, cell?, h]
  rfl

theorem choices_cellOrFresh (s : Sheet) (a : Address) :
    (s.cellOrFresh a).choices = s.choicesAt a := by
  rw [cellOrFresh, choicesAt]
  cases s.cell? a <;> rfl

theorem choicesAt_changeCell (s : Sheet) (a : Address) (f : Cell → Cell) :
    (s.changeCell a f).choicesAt =
      Function.update s.choicesAt a (f (s.cellOrFresh a)).choices := by
  funext b
  rw [choicesAt, cell?_changeCell, Function.update_apply]
  split <;> rfl

theorem choicesAt_changeCell_of_eq {f : Cell → Cell} (hf : ∀ c, (f c).choices = c.choices) :
    (s.changeCell a f).choicesAt = s.choicesAt := by
  rw [choicesAt_changeCell, hf, choices_cellOrFresh, Function.update_eq_self]

theorem choicesAt_of_editCell {f : Cell → Cell} (h : s.editCell a f = .ok t)
    (hf : ∀ c, (f c).choices = c.choices) : t.choicesAt = s.choicesAt := by
  obtain ⟨-, rfl⟩ := editCell_eq_ok_iff.mp h
  exact choicesAt_changeCell_of_eq hf

theorem choicesAt_of_setValue {v : Value} (h : s.setValue a v = .ok t) :
    t.choicesAt = s.choicesAt :=
  choicesAt_of_editCell h fun _ => rfl

theorem choicesAt_of_setChoices {choices : Choices} (h : s.setChoices a choices = .ok t) :
    t.choicesAt = Function.update s.choicesAt a (some choices) := by
  obtain ⟨-, rfl⟩ := editCell_eq_ok_iff.mp h
  exact choicesAt_changeCell s a _

theorem choicesAt_of_writePayload (h : s.writePayload context cell a = .ok t) :
    t.choicesAt = s.choicesAt := by
  simp only [writePayload] at h
  split at h
  · exact choicesAt_of_setValue (liftSheet_eq_ok_iff.mp h)
  · split at h
    · obtain ⟨image, -, h⟩ := bind_eq_ok_iff.mp h
      have hwritten := choicesAt_of_setValue (liftSheet_eq_ok_iff.mp h)
      exact hwritten.trans (choicesAt_of_grid rfl)
    · split at h
      · exact choicesAt_of_editCell (liftSheet_eq_ok_iff.mp h) fun _ => rfl
      · exact choicesAt_of_setValue (liftSheet_eq_ok_iff.mp h)

theorem choicesAt_of_styleIf {style : Style} (h : s.styleIf a style = .ok t) :
    t.choicesAt = s.choicesAt := by
  refine keeps_styleIf (P := fun t => t.choicesAt = s.choicesAt) rfl ?_ h
  intro t hstyle
  obtain ⟨-, rfl⟩ := styleCell_eq_ok_iff.mp hstyle
  have hpool : (s.withPool (s.cellMerge a style).2).choicesAt = s.choicesAt :=
    choicesAt_of_grid rfl
  have hrestyled : (s.restyleCell a style).choicesAt =
      (s.withPool (s.cellMerge a style).2).choicesAt :=
    choicesAt_changeCell_of_eq fun _ => rfl
  exact hrestyled.trans hpool

theorem choicesAt_of_editCellIf {α : Type} {value : Option α} {f : α → Cell → Cell}
    (h : s.editIf value (fun s x => s.editCell a (f x)) = .ok t)
    (hf : ∀ x c, (f x c).choices = c.choices) : t.choicesAt = s.choicesAt :=
  keeps_editIf (P := fun t => t.choicesAt = s.choicesAt) rfl
    (fun {x _} _ hx => choicesAt_of_editCell hx (hf x)) h

/-- A cell that offers nothing yet offers what it asks for once everything is attached. -/
theorem choicesAt_of_attach (hfresh : s.choicesAt a = none) (h : s.attach cell a = .ok t) :
    t.choicesAt = Function.update s.choicesAt a (Slot.mk cell a).choices? := by
  obtain ⟨t₁, hlink, h⟩ := bind_eq_ok_iff.mp h
  obtain ⟨t₂, hcomment, hchoices⟩ := bind_eq_ok_iff.mp h
  have hsame : t₂.choicesAt = s.choicesAt :=
    (choicesAt_of_editCellIf hcomment fun _ _ => rfl).trans
      (choicesAt_of_editCellIf hlink fun _ _ => rfl)
  rcases editIf_eq_ok_iff.mp hchoices with ⟨hnone, rfl⟩ | ⟨options, hsome, hset⟩
  · have hasked : (Slot.mk cell a).choices? = none :=
      Option.map_eq_none_iff.mpr (Option.map_eq_none_iff.mp hnone)
    rw [hasked, ← hfresh, Function.update_eq_self, hsame]
  · obtain ⟨value, hvalue, rfl⟩ := Option.map_eq_some_iff.mp hsome
    have hasked : (Slot.mk cell a).choices? = some (.ofOptions (Reader.options value)) :=
      Option.map_eq_some_iff.mpr ⟨value, hvalue, rfl⟩
    rw [hasked, choicesAt_of_setChoices hset, hsame]

theorem choicesAt_of_placeCell {rowStyle : Option String} (hfresh : s.choicesAt a = none)
    (h : s.placeCell context cell a rowStyle = .ok t) :
    t.choicesAt = Function.update s.choicesAt a (Slot.mk cell a).choices? := by
  obtain ⟨t₁, style, t₂, t₃, hpayload, -, hstyle, hattach, hmerge⟩ := stages_of_placeCell h
  have hsame : t₂.choicesAt = s.choicesAt :=
    (choicesAt_of_styleIf hstyle).trans (choicesAt_of_writePayload hpayload)
  have hattached := choicesAt_of_attach (hsame ▸ hfresh) hattach
  rw [hsame] at hattached
  rcases editIf_eq_ok_iff.mp hmerge with ⟨-, rfl⟩ | ⟨m, -, hm⟩
  · exact hattached
  · obtain ⟨-, rfl⟩ := merge_eq_ok_iff.mp hm
    exact (choicesAt_of_grid rfl).trans hattached

/-- The cells so far offer what they ask for, and no other place offers anything. -/
structure Offering (s : Sheet) (slots : List Slot) : Prop where
  slot : ∀ t ∈ slots, s.choicesAt t.address = t.choices?
  other : ∀ a, (∀ t ∈ slots, t.address ≠ a) → s.choicesAt a = none

namespace Offering

theorem of_grid (h : s.Offering slots) (hgrid : t.grid = s.grid) : t.Offering slots where
  slot := by
    rw [choicesAt_of_grid hgrid]
    exact h.slot
  other := by
    rw [choicesAt_of_grid hgrid]
    exact h.other

theorem placeCell (h : s.Offering slots) (hfresh : ∀ t ∈ slots, t.address ≠ a)
    {rowStyle : Option String} (hok : s.placeCell context cell a rowStyle = .ok t) :
    t.Offering (slots ++ [⟨cell, a⟩]) := by
  have hchoices := choicesAt_of_placeCell (h.other a hfresh) hok
  constructor
  · intro slot hslot
    rw [hchoices]
    rcases List.mem_append.mp hslot with hold | hnew
    · rw [Function.update_of_ne (hfresh slot hold), h.slot slot hold]
    · rw [List.mem_singleton.mp hnew, Function.update_self]
  · intro b hb
    rw [List.forall_mem_append, List.forall_mem_singleton] at hb
    rw [hchoices, Function.update_of_ne (Ne.symm hb.2), h.other b hb.1]

theorem carried : Carried context (fun _ _ => True) Offering where
  height h hset := by
    obtain ⟨-, rfl⟩ := setRowHeight_eq_ok_iff.mp hset
    exact h.of_grid rfl
  cell _ _ hbefore h hok := h.placeCell (fun t ht => (hbefore t ht).ne) hok

end Offering

theorem Bare.offering (h : s.Bare) : s.Offering [] where
  slot := by simp
  other := by
    intro a _
    rw [choicesAt, h.cell?_eq_none, Option.bind_none]

theorem offering_ofTable {table : Element} {taken : List String}
    (h : Sheet.ofTable context table taken = .ok s) :
    ∃ slots, TableLayout context.options.policy [] 1 table.tableRows slots ∧
      s.Offering slots := by
  obtain ⟨t, u, -, hbare, hrows, rfl⟩ := ofTable_eq_ok h
  obtain ⟨slots, hlayout, -⟩ := hbare.laid.placeRows (by simp) hrows
  have hplaced : u.Offering slots := Offering.carried.placeRows hlayout hbare.laid
    (fun _ _ _ => trivial) (by simp) hbare.offering hrows
  exact ⟨slots, hlayout, hplaced.of_grid (sameLayout_withAutosize u table).grid⟩

end Sheet

namespace Workbook

/-- A cell with a list of options offers these, each of them in the parts that its commas
make of it, and so the options as they are written just if no comma is among them. A cell
without a list offers nothing. -/
theorem ofNodes_choices {context : Context} {nodes : List Node} {w : Workbook}
    (h : ofNodes context nodes = .ok w) :
    List.Forall₂
      (fun table s => ∃ slots,
        TableLayout context.options.policy [] 1 table.tableRows slots ∧
          ∀ slot ∈ slots,
            (slot.cell.mark? .choices = none → s.choicesAt slot.address = none) ∧
            ∀ value, slot.cell.mark? .choices = some value →
              ∃ choices, s.choicesAt slot.address = some choices ∧
                choices.offered = some ((Reader.options value).flatMap Choices.atCommas) ∧
                (choices.offered = some (Reader.options value) ↔ ',' ∉ value.toList))
      (Node.findAll Element.isSheetTable nodes) w.sheets := by
  refine forall₂_ofNodes ?_ h
  intro table taken s hs
  obtain ⟨slots, hlayout, hoffering⟩ := Sheet.offering_ofTable hs
  refine ⟨slots, hlayout, ?_⟩
  intro slot hslot
  rw [hoffering.slot slot hslot, Slot.choices?]
  constructor
  · intro hnone
    rw [hnone, Option.map_none]
  · intro value hvalue
    have hoffered := Choices.offered_ofOptions (Reader.options_ne_nil value)
    refine ⟨.ofOptions (Reader.options value), ?_, hoffered, ?_⟩
    · rw [hvalue, Option.map_some]
    · rw [hoffered, Option.some.injEq, Choices.flatMap_atCommas_iff,
        Reader.comma_notMem_options_iff]

/-- Options with quotes and blanks, and one with nothing in it. -/
theorem ofNodes_choices_quotes :
    let context : Context := ⟨∅, {}, {}⟩
    let nodes : List Node := [.element ⟨"table", [(Mark.sheet.name, "Data")], [
      .element ⟨"tr", [], [.element ⟨"td", [(Mark.choices.name, "Say \"no\"|| b ")], []⟩]⟩]⟩]
    ∃ w, ofNodes context nodes = .ok w ∧
      w.sheets.map (fun s => (s.choicesAt ⟨1, 1⟩).bind Choices.offered) =
        [some ["Say \"no\"", "", " b "]] ∧
      List.Forall₂
        (fun table s => ∃ slots, TableLayout .skipCovered [] 1 table.tableRows slots ∧
          ∀ slot ∈ slots, ∀ value, slot.cell.mark? .choices = some value →
            ∃ choices, s.choicesAt slot.address = some choices ∧
              (choices.offered = some (Reader.options value) ↔ ',' ∉ value.toList))
        (Node.findAll Element.isSheetTable nodes) w.sheets := by
  intro context nodes
  have hsheets : ((ofNodes context nodes).toOption.map fun w =>
      w.sheets.map fun s => (s.choicesAt ⟨1, 1⟩).bind Choices.offered) =
        some [some ["Say \"no\"", "", " b "]] := by
    decide +kernel
  obtain ⟨w, h, hread⟩ := exists_ok_of_map_toOption hsheets
  refine ⟨w, h, hread, (ofNodes_choices h).imp ?_⟩
  rintro table s ⟨slots, hlayout, hslots⟩
  refine ⟨slots, hlayout, ?_⟩
  intro slot hslot value hvalue
  obtain ⟨choices, hchoices, -, hoffered⟩ := (hslots slot hslot).2 value hvalue
  exact ⟨choices, hchoices, hoffered⟩

/-- An option with a comma is offered in two parts. -/
theorem exists_ofNodes_choices_comma :
    let context : Context := ⟨∅, {}, {}⟩
    let nodes : List Node := [.element ⟨"table", [(Mark.sheet.name, "Data")], [
      .element ⟨"tr", [], [.element ⟨"td", [(Mark.choices.name, "a,b|c")], []⟩]⟩]⟩]
    ∃ w, ofNodes context nodes = .ok w ∧
      w.sheets.map (fun s => (s.choicesAt ⟨1, 1⟩).bind Choices.offered) =
        [some ["a", "b", "c"]] ∧
      ∀ s ∈ w.sheets,
        (s.choicesAt ⟨1, 1⟩).bind Choices.offered ≠ some (Reader.options "a,b|c") := by
  intro context nodes
  have hsheets : ((ofNodes context nodes).toOption.map fun w =>
      w.sheets.map fun s => (s.choicesAt ⟨1, 1⟩).bind Choices.offered) =
        some [some ["a", "b", "c"]] := by
    decide +kernel
  obtain ⟨w, h, hread⟩ := exists_ok_of_map_toOption hsheets
  refine ⟨w, h, hread, ?_⟩
  intro s hs
  have hmem : (s.choicesAt ⟨1, 1⟩).bind Choices.offered ∈ [some ["a", "b", "c"]] := by
    rw [← hread]
    exact List.mem_map.mpr ⟨s, hs, rfl⟩
  rw [List.mem_singleton.mp hmem]
  decide +kernel

end Workbook

end TableBook
