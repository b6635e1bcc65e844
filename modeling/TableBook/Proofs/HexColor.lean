import TableBook.Proofs.StrictReading

namespace TableBook

open Text

/-- A color is written as its six digits in either case, with a number sign in front or
without. -/
def IsColor (cs : List Char) (color : Color) : Prop :=
  ∃ digits, (cs = '#' :: digits ∨ cs = digits) ∧ digits.length = 6 ∧
    (∀ c ∈ digits, isHexDigit c = true) ∧ color.hex.toList = digits.map Char.toUpper

theorem lt_of_isHexDigit {c : Char} (h : isHexDigit c = true) : c.toNat < 128 := by
  have hle : ∀ last : Char, last.toNat < 128 → c ≤ last → c.toNat < 128 := fun last hlast hc =>
    Nat.lt_of_le_of_lt (UInt32.le_iff_toNat_le.mp hc) hlast
  rw [isHexDigit, hexValue?] at h
  split at h
  · next hdigit => exact hle '9' (by decide) hdigit.2
  · split at h
    · next hcapital => exact hle 'F' (by decide) hcapital.2
    · split at h
      · next hletter => exact hle 'f' (by decide) hletter.2
      · cases h

namespace Color

theorem hex_injective {color color' : Color} (h : color.hex.toList = color'.hex.toList) :
    color = color' := by
  have hread := read_hex color
  rw [h, read_hex color'] at hread
  exact (Option.some.inj hread).symm

theorem hexDigit_of_hexValue? {c : Char} {n : Nat} (h : hexValue? c = some n) :
    n < 16 ∧ hexDigit n = c.toUpper := by
  have hsmall : c.toNat < 128 := lt_of_isHexDigit (Option.isSome_iff_exists.mpr ⟨n, h⟩)
  have hc := Text.forall_ascii
    (p := fun c => (hexValue? c).all (fun n => n < 16 && hexDigit n == c.toUpper) = true)
    (by decide) hsmall
  simpa [h] using hc

theorem flatMap_hexByte_of_readBytes {cs : List Char} {bytes : List UInt8}
    (h : readBytes cs = some bytes) : bytes.flatMap hexByte = cs.map Char.toUpper := by
  induction cs using readBytes.induct generalizing bytes with
  | case1 =>
      cases h
      rfl
  | case2 c => cases h
  | case3 c d cs high low rest hrest hlow hhigh ih =>
      obtain ⟨hh, hhc⟩ := hexDigit_of_hexValue? hhigh
      obtain ⟨hl, hld⟩ := hexDigit_of_hexValue? hlow
      simp only [readBytes, hhigh, hlow, hrest, Option.some.injEq] at h
      subst h
      have hbyte : hexByte (UInt8.ofNat (16 * high + low)) = [c.toUpper, d.toUpper] := by
        have hvalue : (UInt8.ofNat (16 * high + low)).toNat = 16 * high + low :=
          UInt8.toNat_ofNat_of_lt' (Nat.lt_of_lt_of_le (by omega) (Nat.le_refl 256))
        have hfirst : (16 * high + low) / 16 = high := by omega
        have hlast : (16 * high + low) % 16 = low := by omega
        rw [hexByte, hvalue, hfirst, hlast, hhc, hld]
      rw [List.flatMap_cons, hbyte, ih hrest]
      rfl
  | case4 c d cs hnone ih =>
      rw [readBytes] at h
      split at h
      · next high low rest hhigh hlow hrest => exact (hnone high low rest hhigh hlow hrest).elim
      · cases h

theorem exists_read_of_digits {cs digits : List Char} (hcs : cs = '#' :: digits ∨ cs = digits)
    (hlength : digits.length = 6) (hhex : ∀ c ∈ digits, isHexDigit c = true) :
    ∃ color, read cs = some color ∧ color.hex.toList = digits.map Char.toUpper := by
  obtain ⟨bytes, hbytes, hcount⟩ := Grammar.exists_readBytes (n := 3) hlength hhex
  obtain ⟨r, g, b, rfl⟩ := List.length_eq_three.mp hcount
  refine ⟨.rgb r g b, ?_, ?_⟩
  · rw [read, Grammar.dropWhile_trim_of_digits hcs hhex, hbytes]
  · rw [← flatMap_hexByte_of_readBytes hbytes]
    simp [hex]

end Color

theorem isPlainColor_of_digits {cs digits : List Char} (hcs : cs = '#' :: digits ∨ cs = digits)
    (hlength : digits.length = 6) (hhex : ∀ c ∈ digits, isHexDigit c = true) :
    Highlight.isPlainColor cs = true := by
  unfold Highlight.isPlainColor
  rcases hcs with rfl | rfl
  · simp [hlength, List.all_eq_true.mpr hhex]
  · split
    · next rest => exact absurd (hhex '#' List.mem_cons_self) (by decide)
    · simp [hlength, List.all_eq_true.mpr hhex]

/-- What passes for a color in a rule is written in six digits, and it reads as the color
that they write. -/
theorem isColor_iff {cs : List Char} {color : Color} :
    Highlight.isPlainColor cs = true ∧ Color.read cs = some color ↔ IsColor cs color := by
  constructor
  · rintro ⟨hplain, hread⟩
    obtain ⟨digits, hcs, hlength, hhex⟩ := Grammar.exists_digits_of_isPlainColor hplain
    obtain ⟨color', hread', htext⟩ := Color.exists_read_of_digits hcs hlength hhex
    obtain rfl := Option.some.inj (hread.symm.trans hread')
    exact ⟨digits, hcs, hlength, hhex, htext⟩
  · rintro ⟨digits, hcs, hlength, hhex, htext⟩
    obtain ⟨color', hread', htext'⟩ := Color.exists_read_of_digits hcs hlength hhex
    obtain rfl := Color.hex_injective (htext'.trans htext.symm)
    exact ⟨isPlainColor_of_digits hcs hlength hhex, hread'⟩

end TableBook
