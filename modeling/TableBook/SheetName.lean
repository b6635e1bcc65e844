import TableBook.Text.Blank
import TableBook.Text.Composition
import TableBook.Text.Lowercase
import TableBook.Text.Reference

namespace TableBook.SheetName

open Text

/-- The greatest number of characters of a name. -/
def maxLength : Nat := 31

/-- The characters that no name may hold. -/
def forbidden : List Char := [':', '\\', '/', '?', '*', '[', ']']

/-- The name where nothing is left of the given one. -/
def fallback : String := "Sheet"

/-- The name that an attribute gives: references are decoded, the text is
composed, and what is not allowed is dropped. -/
def ofAttribute (value : String) : String :=
  let kept := (nfc (decodeReferences value.toList)).filter (!forbidden.contains ·)
  let trimmed := stripWith isMarkupBlank kept
  let name := if trimmed.isEmpty then fallback.toList else trimmed
  String.ofList (name.take maxLength)

/-- The `n`th name for a sheet: the number in parentheses replaces what is too
long at the end. -/
def numbered (name : String) (n : Nat) : String :=
  let ending := " (".toList ++ (toString n).toList ++ [')']
  String.ofList (trimEnd (name.toList.take (maxLength - ending.length)) ++ ending)

/-- Whether a name is one of those taken, which are in lower case. -/
def isTaken (taken : List String) (name : String) : Bool := taken.contains (lowercase name)

/-- The first numbered name that is free, of `tries` from `n` on. -/
def firstFree (taken : List String) (name : String) : Nat → Nat → String
  | 0, n => numbered name n
  | tries + 1, n =>
      if isTaken taken (numbered name n) then firstFree taken name tries (n + 1)
      else numbered name n

/-- The name itself if it is free, else a numbered one. Names that differ in
case only are the same, and as many tries as there are names suffice. -/
def dedupe (name : String) (existing : List String) : String :=
  let taken := existing.map lowercase
  if isTaken taken name then firstFree taken name existing.length 2 else name

/-- The greatest number that is tried: they are counted in signed words of 32 bits. -/
def lastNumber : Nat := Nat.pow 2 31 - 1

/-- The number after one, if there is one to go on to. -/
def nextNumber? (n : Nat) : Option Nat := if n < lastNumber then some (n + 1) else none

/-- What the trying of one number comes to. -/
inductive Try
  | found (name : String)
  | next (n : Nat)
  /-- The last number is taken too. -/
  | overflow
deriving DecidableEq, Repr

def tryNumber (taken : List String) (name : String) (n : Nat) : Try :=
  if isTaken taken (numbered name n) then
    match nextNumber? n with
    | some next => .next next
    | none => .overflow
  else .found (numbered name n)

/-- A name that a spreadsheet accepts. -/
def IsLegal (name : String) : Prop :=
  name ≠ "" ∧ name.toList.length ≤ maxLength ∧ ∀ c ∈ name.toList, c ∉ forbidden

theorem mem_of_mem_stripWith {p : Char → Bool} {cs : List Char} {c : Char}
    (h : c ∈ stripWith p cs) : c ∈ cs := by
  simp only [stripWith, List.mem_reverse] at h
  have h := (List.dropWhile_sublist p).subset h
  rw [List.mem_reverse] at h
  exact (List.dropWhile_sublist p).subset h

theorem ofAttribute_legal (value : String) : IsLegal (ofAttribute value) := by
  simp only [ofAttribute, IsLegal, String.toList_ofList]
  generalize hkept : (nfc (decodeReferences value.toList)).filter (!forbidden.contains ·) = kept
  have hallowed : ∀ c ∈ kept, c ∉ forbidden := by
    intro c hc
    rw [← hkept, List.mem_filter] at hc
    simpa using hc.2
  refine ⟨?_, by simp only [List.length_take]; omega, ?_⟩
  · intro h
    have h := congrArg String.toList h
    simp only [String.toList_ofList] at h
    split at h
    · simp [fallback, maxLength] at h
    · next hne =>
        cases htrim : stripWith isMarkupBlank kept with
        | nil => simp [htrim] at hne
        | cons c cs => simp [htrim, maxLength] at h
  · intro c hc
    have hc := List.mem_of_mem_take hc
    split at hc
    · have hfallback : ∀ c ∈ ['S', 'h', 'e', 'e', 't'], c ∉ forbidden := by
        simp [forbidden]
      exact hfallback c (by simpa [fallback] using hc)
    · exact hallowed c (mem_of_mem_stripWith hc)

end TableBook.SheetName
