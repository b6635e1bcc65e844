import TableBook.Proofs.Bounds
import TableBook.Proofs.DecimalText

/-!
Page margins. The grammar of marks takes digits of any script for a number, and the
reader of margins takes ASCII digits only and makes zero of all else. So a value that
passes sets the margins it writes as far as its digits are ASCII ones, and sets zero
for each part with another digit.
-/

namespace TableBook

open Text Grammar

/-- What the margins of a well-written value are. Its parts are between commas and
stand for the margins in their order. -/
structure Margins.SetBy (m : Margins) (parts : List (List Char)) : Prop where
  one_le : 1 ≤ parts.length
  le_six : parts.length ≤ 6
  ascii : ∀ (i : Nat) (part : List Char), parts[i]? = some part → AsciiDigits part →
    ∃ x, Binary64.read part = some x ∧ m.toList[i]? = some x
  other : ∀ (i : Nat) (part : List Char), parts[i]? = some part → ¬AsciiDigits part →
    Binary64.read part = none ∧ m.toList[i]? = some .zero
  missing : ∀ i < 6, parts.length ≤ i → m.toList[i]? = some usual

theorem Margins.getElem?_toList_ofList (values : List Binary64) {i : Nat} (h : i < 6) :
    (ofList values).toList[i]? = some (values[i]?.getD usual) := by
  change ((List.range 6).map fun i => values[i]?.getD usual)[i]? = _
  rw [List.getElem?_map, List.getElem?_range h, Option.map_some]

namespace Reader

def marginParts (value : String) : List (List Char) := (pieces ',' value.toList).map trim

variable {value : String}

theorem marginsFault?_eq_none_iff :
    marginsFault? value = none ↔
      (marginParts value).length ≤ 6 ∧ ∀ part ∈ marginParts value, isNumeric part = true := by
  change (if 6 < (marginParts value).length then _ else Option.map _ _) = none ↔ _
  split
  · next hlength => exact iff_of_false nofun fun h => Nat.not_lt.mpr h.1 hlength
  · next hlength =>
      rw [Option.map_eq_none_iff, List.find?_eq_none, and_iff_right (Nat.le_of_not_lt hlength)]
      simp only [Bool.not_eq_true', Bool.not_eq_false]
      rfl

theorem check_margins_iff :
    Grammar.check true Mark.pageMargins.name value = .ok () ↔
      (marginParts value).length ≤ 6 ∧ ∀ part ∈ marginParts value, isNumeric part = true :=
  check_name_eq_ok_iff.trans marginsFault?_eq_none_iff

theorem margins_eq (h : (marginParts value).length ≤ 6) :
    margins value =
      .ofList ((marginParts value).map fun part => (Binary64.read part).getD .zero) := by
  rw [marginParts, List.length_map] at h
  rw [margins, List.take_of_length_le h, marginParts, List.map_map]
  rfl

theorem margins_setBy (h : Grammar.check true Mark.pageMargins.name value = .ok ()) :
    (margins value).SetBy (marginParts value) := by
  obtain ⟨hlength, hnumeric⟩ := check_margins_iff.mp h
  have htrim : ∀ part ∈ marginParts value, trim part = part := by
    intro part hpart
    obtain ⟨piece, -, rfl⟩ := List.mem_map.mp hpart
    exact trim_trim piece
  have hread : ∀ part ∈ marginParts value,
      (Binary64.read part).isSome = true ↔ AsciiDigits part := by
    intro part hpart
    have hiff := isSome_read_iff (hnumeric part hpart)
    rwa [htrim part hpart] at hiff
  have hpart : ∀ (i : Nat) (part : List Char), (marginParts value)[i]? = some part →
      (margins value).toList[i]? = some ((Binary64.read part).getD .zero) := by
    intro i part hi
    have hlt : i < 6 := Nat.lt_of_lt_of_le (List.getElem?_eq_some_iff.mp hi).1 hlength
    rw [margins_eq hlength, Margins.getElem?_toList_ofList _ hlt, List.getElem?_map, hi]
    rfl
  constructor
  case one_le =>
    rw [marginParts, List.length_map]
    exact List.length_pos_iff.mpr (pieces_ne_nil _ _)
  case le_six => exact hlength
  case ascii =>
    intro i part hi hascii
    obtain ⟨x, hx⟩ := Option.isSome_iff_exists.mp
      ((hread part (List.mem_of_getElem? hi)).mpr hascii)
    refine ⟨x, hx, ?_⟩
    rw [hpart i part hi, hx, Option.getD_some]
  case other =>
    intro i part hi hother
    have hnone : Binary64.read part = none := by
      rw [← Option.not_isSome_iff_eq_none, hread part (List.mem_of_getElem? hi)]
      exact hother
    refine ⟨hnone, ?_⟩
    rw [hpart i part hi, hnone, Option.getD_none]
  case missing =>
    intro i hlt hmissing
    rw [margins_eq hlength, Margins.getElem?_toList_ofList _ hlt,
      List.getElem?_eq_none (by rwa [List.length_map]), Option.getD_none]

end Reader

namespace Sheet

theorem margins_start (options : Options) (table : Element) (taken : List String) :
    (start options table taken).page.margins =
      (table.mark? .pageMargins).map Reader.margins := by
  rw [start, withTableSettings]
  iterate 2 refine (withSetting_keeps (·.page.margins) (by intros; rfl)).trans ?_
  rw [withSetting, Option.map_eq_bind]
  split
  · next m hm => exact hm.symm
  · next hnone =>
      rw [hnone]
      iterate 6 refine (withSetting_keeps (·.page.margins) (by intros; rfl)).trans ?_
      rfl

theorem margins_of_ofTable {context : Context} {table : Element} {taken : List String}
    {s : Sheet} (h : Sheet.ofTable context table taken = .ok s) :
    s.page.margins = (table.mark? .pageMargins).map Reader.margins := by
  obtain ⟨t, hfills, rfl⟩ := fills_of_ofTable h
  obtain ⟨-, -, hpage⟩ := settings_of_fills (hfills.trans (fills_withAutosize t table))
  rw [hpage, margins_start]

end Sheet

theorem Text.isDecimalDigit_arabic_three : isDecimalDigit '٣' = true := by
  rw [isDecimalDigit, if_neg (by decide)]
  exact inRanges_of_mem_line List.mem_cons_self (by decide +kernel)

theorem Grammar.isNumeric_singleton {c : Char} (h : isDecimalDigit c = true)
    (hblank : isBlank c = false) (hsign : c ≠ '-' ∧ c ≠ '+') : isNumeric [c] = true := by
  have htrim : trim [c] = [c] := trim_eq_self (List.forall_mem_singleton.mpr hblank)
  have hsplit : Decimal.splitSign [c] = (false, [c]) :=
    Decimal.splitSign_append .none fun d hd => Option.some.inj hd ▸ hsign
  have htake : [c].takeWhile isDecimalDigit = [c] := by simp [h]
  have hdrop : [c].dropWhile isDecimalDigit = [] := by simp [h]
  simp only [isNumeric, htrim, hsplit, numeralRest, htake, hdrop]
  rfl

theorem Grammar.isNumeric_arabic_three : isNumeric ['٣'] = true :=
  isNumeric_singleton isDecimalDigit_arabic_three (by decide) (by decide)

namespace Workbook

/-- Margins that pass a strict check are 1 to 6 numbers between commas. They are set in
the order of the fields, each as its part is read, and missing ones are half an inch. The
reader understands a part exactly if its digits are ASCII ones, and else it sets zero. -/
theorem ofNodes_margins {context : Context} {nodes : List Node} {w : Workbook}
    (h : ofNodes context nodes = .ok w) :
    List.Forall₂
      (fun table s => ∀ value, table.mark? .pageMargins = some value →
        Grammar.check true Mark.pageMargins.name value = .ok () →
        ∃ m, s.page.margins = some m ∧ m.SetBy (Reader.marginParts value))
      (Node.findAll Element.isSheetTable nodes) w.sheets := by
  refine forall₂_ofNodes ?_ h
  intro table taken s hs value hvalue hcheck
  refine ⟨Reader.margins value, ?_, Reader.margins_setBy hcheck⟩
  rw [Sheet.margins_of_ofTable hs, hvalue, Option.map_some]

/-- Two parts that are read, one that is not, and three that are missing. -/
theorem ofNodes_margins_mixed :
    let value := "1, 7.5e-1 ,٣"
    let table : Element := ⟨"table", [(Mark.sheet.name, "S"), (Mark.pageMargins.name, value)], []⟩
    let m : Margins := ⟨.ofRatio false 1 1, .ofRatio false 3 4, .zero, Margins.usual,
      Margins.usual, Margins.usual⟩
    Grammar.check true Mark.pageMargins.name value = .ok () ∧
      ∃ w s, ofNodes ⟨∅, { strict := false }, {}⟩ [.element table] = .ok w ∧ w.sheets = [s] ∧
        s.page.margins = some m ∧ m.SetBy (Reader.marginParts value) := by
  intro value table m
  have hcheck : Grammar.check true Mark.pageMargins.name value = .ok () := by
    have hparts : Reader.marginParts value = ["1".toList, "7.5e-1".toList, ['٣']] := by
      decide +kernel
    refine Reader.check_margins_iff.mpr ?_
    rw [hparts]
    refine ⟨by decide, ?_⟩
    simp only [List.forall_mem_cons]
    exact ⟨by decide +kernel, by decide +kernel, isNumeric_arabic_three, List.forall_mem_nil _⟩
  have hsheets : ((ofNodes ⟨∅, { strict := false }, {}⟩ [.element table]).toOption.map
      fun w => w.sheets.map (·.page.margins)) = some [some m] := by
    decide +kernel
  obtain ⟨w, h, hmargins⟩ := exists_ok_of_map_toOption hsheets
  obtain ⟨s, hs, hset⟩ := List.map_eq_singleton_iff.mp hmargins
  have htables : Node.findAll Element.isSheetTable [.element table] = [table] := rfl
  have hall := ofNodes_margins h
  rw [htables, hs, List.forall₂_cons] at hall
  obtain ⟨m', hm', hsetBy⟩ := hall.1 value (by decide +kernel) hcheck
  obtain rfl := Option.some.inj (hm'.symm.trans hset)
  exact ⟨hcheck, w, s, h, hs, hset, hsetBy⟩

/-- A strict reading takes the digit 3 of the Arabic script for the top margin and sets
it to zero. -/
theorem ofTable_margins_arabic_three :
    let context : Context := ⟨∅, { strict := true }, {}⟩
    let table : Element := ⟨"table", [(Mark.sheet.name, "S"), (Mark.pageMargins.name, "٣")], []⟩
    Grammar.check true Mark.pageMargins.name "٣" = .ok () ∧
      Reader.marginParts "٣" = [['٣']] ∧ Binary64.read ['٣'] = none ∧
      ∃ s, Sheet.ofTable context table [] = .ok s ∧ s.page.margins = some ⟨.zero, Margins.usual,
        Margins.usual, Margins.usual, Margins.usual, Margins.usual⟩ := by
  intro context table
  have hparts : Reader.marginParts "٣" = [['٣']] := by decide +kernel
  have hcheck : Grammar.check true Mark.pageMargins.name "٣" = .ok () := by
    refine Reader.check_margins_iff.mpr ?_
    rw [hparts]
    exact ⟨by decide, List.forall_mem_singleton.mpr isNumeric_arabic_three⟩
  have hpermissive : ((Sheet.ofTable (context.withStrict false) table []).toOption.map
      (·.page.margins)) = some (some ⟨.zero, Margins.usual, Margins.usual, Margins.usual,
        Margins.usual, Margins.usual⟩) := by
    decide +kernel
  obtain ⟨s, hs, hmargins⟩ := exists_ok_of_map_toOption hpermissive
  have hvisited : table.visited = [table] := rfl
  have hpasses : ∀ e ∈ table.visited, e.Passes := by
    rw [hvisited, List.forall_mem_singleton]
    intro entry hentry _
    simp only [table, List.mem_cons, List.not_mem_nil, or_false] at hentry
    rcases hentry with rfl | rfl
    · decide +kernel
    · exact hcheck
  have hstrict : Sheet.ofTable context table [] = .ok s :=
    (Sheet.ofTable_filters context table [] s).mpr ⟨hpasses, hs⟩
  exact ⟨hcheck, hparts, by decide +kernel, s, hstrict, hmargins⟩

end Workbook

end TableBook
