import TableBook.Text.Pieces

namespace TableBook.Text

def hexValue? (c : Char) : Option Nat :=
  if '0' ≤ c ∧ c ≤ '9' then some (c.toNat - '0'.toNat)
  else if 'A' ≤ c ∧ c ≤ 'F' then some (c.toNat - 'A'.toNat + 10)
  else if 'a' ≤ c ∧ c ≤ 'f' then some (c.toNat - 'a'.toNat + 10)
  else none

def isHexDigit (c : Char) : Bool := (hexValue? c).isSome

/-- The number a run of hexadecimal digits writes. -/
def natOfHex (cs : List Char) : Nat :=
  cs.foldl (fun n c => 16 * n + (hexValue? c).getD 0) 0

/-- The code point ranges that lines of numbers and spans write, as in `30-39 5F`. -/
def readRanges (lines : List String) : Array (Nat × Nat) :=
  (lines.flatMap fun line => pieces ' ' line.toList).toArray.map fun span =>
    match cut '-' span with
    | some (first, last) => (natOfHex first, natOfHex last)
    | none => (natOfHex span, natOfHex span)

/-- The records of a table, each a list of numbers; a line holds several with
commas between them. -/
def readRecords (lines : List String) : Array (List Nat) :=
  (lines.flatMap fun line => pieces ',' line.toList).toArray.map fun record =>
    (pieces ' ' record).map natOfHex

def inRanges (ranges : Array (Nat × Nat)) (c : Char) : Bool :=
  ranges.any fun (first, last) => first ≤ c.toNat && c.toNat ≤ last

theorem inRanges_of_mem_line {lines : List String} {line : String} {c : Char} (h : line ∈ lines)
    (hc : inRanges (readRanges [line]) c = true) : inRanges (readRanges lines) c = true := by
  simp only [inRanges, readRanges, Array.any_map, List.any_toArray, List.any_eq_true,
    List.mem_flatMap] at hc ⊢
  obtain ⟨span, ⟨line', hline, hspan⟩, hbounds⟩ := hc
  obtain rfl := List.mem_singleton.mp hline
  exact ⟨span, ⟨line', h, hspan⟩, hbounds⟩

end TableBook.Text
