import TableBook.Text.Blank
import TableBook.Text.Bytes
import TableBook.Text.CodePoints

namespace TableBook

inductive Color
  | rgb (red green blue : UInt8)
  | argb (alpha red green blue : UInt8)
deriving DecidableEq, Repr

namespace Color

def hexDigit (n : Nat) : Char :=
  if n < 10 then Char.ofNat ('0'.toNat + n) else Char.ofNat ('A'.toNat + (n - 10))

def hexByte (b : UInt8) : List Char := [hexDigit (b.toNat / 16), hexDigit (b.toNat % 16)]

/-- Six digits, or eight with an alpha channel. -/
def hex : Color → String
  | rgb r g b => String.ofList (hexByte r ++ hexByte g ++ hexByte b)
  | argb a r g b => String.ofList (hexByte a ++ hexByte r ++ hexByte g ++ hexByte b)

/-- Always eight digits; a plain color is opaque. -/
def argbHex : Color → String
  | rgb r g b => (argb 255 r g b).hex
  | color => color.hex

/-- Red, green and blue. -/
def channels : Color → UInt8 × UInt8 × UInt8
  | rgb r g b => (r, g, b)
  | argb _ r g b => (r, g, b)

def hasAlpha : Color → Bool
  | rgb .. => false
  | argb .. => true

/-- The bytes that pairs of hexadecimal digits write. -/
def readBytes : List Char → Option (List UInt8)
  | [] => some []
  | [_] => none
  | c :: d :: cs =>
      match Text.hexValue? c, Text.hexValue? d, readBytes cs with
      | some high, some low, some bytes => some (UInt8.ofNat (16 * high + low) :: bytes)
      | _, _, _ => none

/-- Six or eight digits of either case; blanks around them and number signs in
front mean nothing. -/
def read (cs : List Char) : Option Color :=
  match readBytes ((Text.trim cs).dropWhile (· == '#')) with
  | some [r, g, b] => some (rgb r g b)
  | some [a, r, g, b] => some (argb a r g b)
  | _ => none

def ofBytes : List UInt8 → Option Color
  | [r, g, b] => some (rgb r g b)
  | [a, r, g, b] => some (argb a r g b)
  | _ => none

def isHexByte (b : UInt8) : Bool :=
  (48 ≤ b && b ≤ 57) || (65 ≤ b && b ≤ 70) || (97 ≤ b && b ≤ 102)

/-- A number of 8 bits in hexadecimal digits, which a plus sign may precede. -/
def readHexByte (cs : List Char) : Option UInt8 :=
  let digits :=
    match cs with
    | '+' :: digits => digits
    | _ => cs
  if digits.isEmpty || !digits.all Text.isHexDigit then none
  else
    let n := Text.natOfHex digits
    if n < 256 then some (UInt8.ofNat n) else none

/-- Read a byte from the two that stand at each of the positions. -/
def scanBytes? (cs : List Char) : List Nat → Option (Option (List UInt8))
  | [] => some (some [])
  | i :: positions =>
      (Text.slice? cs i (i + 2)).bind fun part =>
        match readHexByte part with
        | none => some none
        | some b => (scanBytes? cs positions).map fun bytes => bytes.map (b :: ·)

/-- Read a color by byte positions. There is no answer if a part of the text is asked for
that does not begin and end between characters. -/
def scan? (cs : List Char) : Option (Option Color) :=
  let cs := (Text.trim cs).dropWhile (· == '#')
  let bytes := Text.bytes cs
  if !bytes.all isHexByte then some none
  else if bytes.length = 6 then
    (scanBytes? cs [0, 2, 4]).map fun bytes => bytes.bind ofBytes
  else if bytes.length = 8 then
    (scanBytes? cs [0, 2, 4, 6]).map fun bytes => bytes.bind ofBytes
  else some none

theorem hexValue?_hexDigit {n : Nat} (h : n < 16) : Text.hexValue? (hexDigit n) = some n := by
  have := (by decide : ∀ n : Fin 16, Text.hexValue? (hexDigit n) = some n.val) ⟨n, h⟩
  simpa using this

theorem readBytes_hexByte_append (b : UInt8) (cs : List Char) :
    readBytes (hexByte b ++ cs) = (readBytes cs).map (b :: ·) := by
  have hb := b.toNat_lt
  have hhigh := hexValue?_hexDigit (show b.toNat / 16 < 16 by omega)
  have hlow := hexValue?_hexDigit (show b.toNat % 16 < 16 by omega)
  have hbyte : UInt8.ofNat (16 * (b.toNat / 16) + b.toNat % 16) = b := by
    rw [Nat.div_add_mod]
    exact UInt8.ofNat_toNat
  simp only [hexByte, List.cons_append, List.nil_append, readBytes, hhigh, hlow]
  cases readBytes cs with
  | none => rfl
  | some bytes => simp [hbyte]

theorem hexDigit_not_special {n : Nat} (h : n < 16) :
    Text.isBlank (hexDigit n) = false ∧ (hexDigit n == '#') = false := by
  have := (by decide : ∀ n : Fin 16,
    Text.isBlank (hexDigit n) = false ∧ (hexDigit n == '#') = false) ⟨n, h⟩
  simpa using this

theorem hexByte_digits {b : UInt8} {c : Char} (h : c ∈ hexByte b) :
    ∃ n < 16, c = hexDigit n := by
  have hb := b.toNat_lt
  simp only [hexByte, List.mem_cons, List.not_mem_nil, or_false] at h
  rcases h with rfl | rfl
  · exact ⟨_, by omega, rfl⟩
  · exact ⟨_, by omega, rfl⟩

theorem hex_digits {color : Color} {c : Char} (h : c ∈ color.hex.toList) :
    ∃ n < 16, c = hexDigit n := by
  cases color <;> simp only [hex, String.toList_ofList, List.mem_append] at h
  · rcases h with (h | h) | h <;> exact hexByte_digits h
  · rcases h with ((h | h) | h) | h <;> exact hexByte_digits h

/-- Reading what is printed gives the color back. -/
theorem read_hex (color : Color) : read color.hex.toList = some color := by
  have htrim : Text.trim color.hex.toList = color.hex.toList := by
    refine Text.stripWith_eq_self (fun c hc => ?_) fun c hc => ?_
    · obtain ⟨n, hn, rfl⟩ := hex_digits (List.mem_of_mem_head? hc)
      exact (hexDigit_not_special hn).1
    · obtain ⟨n, hn, rfl⟩ := hex_digits (List.mem_of_getLast? hc)
      exact (hexDigit_not_special hn).1
  have hmark : color.hex.toList.dropWhile (· == '#') = color.hex.toList := by
    cases h : color.hex.toList with
    | nil => rfl
    | cons c cs =>
        have hc : c ∈ color.hex.toList := by simp [h]
        obtain ⟨n, hn, rfl⟩ := hex_digits hc
        simp [List.dropWhile, (hexDigit_not_special hn).2]
  have hdigits : ∀ b : UInt8, readBytes (hexByte b) = some [b] := fun b => by
    simpa [readBytes] using readBytes_hexByte_append b []
  rw [read, htrim, hmark]
  cases color <;>
    simp only [hex, String.toList_ofList, List.append_assoc, readBytes_hexByte_append, hdigits,
      Option.map_some]

end Color

end TableBook
