import TableBook.Proofs.AddressText
import TableBook.Proofs.HexColor

namespace TableBook

open Text

section Characters

variable {c : Char} {cs : List Char}

theorem utf8EncodeChar_all {p : UInt8 → Bool} {q : Char → Bool}
    (hp : ∀ b, p b = true → b.toNat < 128)
    (hq : ∀ c, q c = true ↔ c.toNat < 128 ∧ p (UInt8.ofNat c.toNat) = true) (c : Char) :
    (String.utf8EncodeChar c).all p = q c := by
  rw [Bool.eq_iff_iff, hq]
  by_cases hsmall : c.toNat < 128
  · simp [utf8EncodeChar_of_lt hsmall, hsmall]
  · constructor
    · intro hall
      obtain ⟨b, bs, hbytes⟩ := List.exists_cons_of_ne_nil (String.utf8EncodeChar_ne_nil (c := c))
      have hmem : b ∈ String.utf8EncodeChar c := hbytes ▸ List.mem_cons_self
      have hlt := hp b (List.all_eq_true.mp hall b hmem)
      exact absurd hlt (Nat.not_lt.mpr (le_of_mem_utf8EncodeChar hsmall hmem))
    · rintro ⟨hlt, -⟩
      exact absurd hlt hsmall

/-- The bytes of a text are all in a class of ASCII bytes if its characters are. -/
theorem Text.bytes_all {p : UInt8 → Bool} {q : Char → Bool}
    (hp : ∀ b, p b = true → b.toNat < 128)
    (hq : ∀ c, q c = true ↔ c.toNat < 128 ∧ p (UInt8.ofNat c.toNat) = true) (cs : List Char) :
    (bytes cs).all p = cs.all q := by
  induction cs with
  | nil => rfl
  | cons c cs ih => rw [bytes_cons, List.all_append, utf8EncodeChar_all hp hq, ih, List.all_cons]

theorem Text.length_bytes_of_lt (h : ∀ c ∈ cs, c.toNat < 128) : (bytes cs).length = cs.length := by
  induction cs with
  | nil => rfl
  | cons c cs ih =>
      rw [List.forall_mem_cons] at h
      rw [bytes_cons, utf8EncodeChar_of_lt h.1, List.singleton_append, List.length_cons, ih h.2,
        List.length_cons]

theorem isHexDigit_of_toUpper (h : isHexDigit c.toUpper = true) : isHexDigit c = true := by
  have hupper : c.toUpper.toNat < 128 := lt_of_isHexDigit h
  have hsmall : c.toNat < 128 := by
    by_cases hletter : c ≥ 'a' ∧ c ≤ 'z'
    · have hle : c.toNat ≤ 'z'.toNat := UInt32.le_iff_toNat_le.mp hletter.2
      exact Nat.lt_of_le_of_lt hle (by decide)
    · have heq : c.toUpper = c := dif_neg hletter
      rwa [heq] at hupper
  exact forall_ascii (p := fun c => isHexDigit c.toUpper = true → isHexDigit c = true) (by decide)
    hsmall h

end Characters

namespace Color

variable {c d : Char} {cs before digits : List Char} {color : Color} {bs : List UInt8} {n : Nat}

/-- The bytes of a color in the order in which they are written. -/
def bytes : Color → List UInt8
  | rgb r g b => [r, g, b]
  | argb a r g b => [a, r, g, b]

/-- A plain color has six digits, one with an alpha channel eight. -/
def digitCount (color : Color) : Nat := if color.hasAlpha then 8 else 6

/-- What is left of a text without the blanks around it and the number signs in front. -/
def digitsOf (cs : List Char) : List Char := (trim cs).dropWhile (· == '#')

theorem ofBytes_eq_some_iff : ofBytes bs = some color ↔ bs = color.bytes := by
  constructor
  · intro h
    unfold ofBytes at h
    split at h
    · cases h
      rfl
    · cases h
      rfl
    · cases h
  · rintro rfl
    cases color with
    | rgb r g b => rfl
    | argb a r g b => rfl

theorem read_eq_bind (cs : List Char) :
    read cs = (readBytes (digitsOf cs)).bind ofBytes := by
  rw [read, ← digitsOf]
  cases readBytes (digitsOf cs) with
  | none => rfl
  | some bs => rcases bs with _ | ⟨b₁, _ | ⟨b₂, _ | ⟨b₃, _ | ⟨b₄, _ | ⟨b₅, bs⟩⟩⟩⟩⟩ <;> rfl

theorem toList_hex (color : Color) : color.hex.toList = color.bytes.flatMap hexByte := by
  cases color with
  | rgb r g b => simp [hex, bytes]
  | argb a r g b => simp [hex, bytes]

theorem length_bytes (color : Color) : 2 * color.bytes.length = color.digitCount := by
  cases color with
  | rgb r g b => rfl
  | argb a r g b => rfl

theorem length_flatMap_hexByte (bs : List UInt8) :
    (bs.flatMap hexByte).length = 2 * bs.length := by
  induction bs with
  | nil => rfl
  | cons b bs ih =>
      rw [List.flatMap_cons, List.length_append, ih, List.length_cons]
      change 2 + 2 * bs.length = 2 * (bs.length + 1)
      omega

theorem readBytes_flatMap_hexByte (bs : List UInt8) :
    readBytes (bs.flatMap hexByte) = some bs := by
  induction bs with
  | nil => rfl
  | cons b bs ih => rw [List.flatMap_cons, readBytes_hexByte_append, ih, Option.map_some]

theorem isHexDigit_of_readBytes (h : readBytes cs = some bs) :
    ∀ c ∈ cs, isHexDigit c = true := by
  induction cs using readBytes.induct generalizing bs with
  | case1 => exact List.forall_mem_nil _
  | case2 c => cases h
  | case3 c d cs high low rest hrest hlow hhigh ih =>
      refine List.forall_mem_cons.mpr ⟨?_, List.forall_mem_cons.mpr ⟨?_, ih hrest⟩⟩
      · exact Option.isSome_iff_exists.mpr ⟨high, hhigh⟩
      · exact Option.isSome_iff_exists.mpr ⟨low, hlow⟩
  | case4 c d cs hnone ih =>
      rw [readBytes] at h
      split at h
      · next high low rest hhigh hlow hrest => exact (hnone high low rest hhigh hlow hrest).elim
      · cases h

/-- The bytes that are read are those whose digits stand there, but for their case. -/
theorem readBytes_eq_some_iff : readBytes cs = some bs ↔
    (∀ c ∈ cs, isHexDigit c = true) ∧ bs.flatMap hexByte = cs.map Char.toUpper := by
  constructor
  · intro h
    exact ⟨isHexDigit_of_readBytes h, flatMap_hexByte_of_readBytes h⟩
  · rintro ⟨hhex, htext⟩
    have hlength : cs.length = 2 * bs.length := by
      rw [← length_flatMap_hexByte, htext, List.length_map]
    obtain ⟨bs', hread, -⟩ := Grammar.exists_readBytes hlength hhex
    have hsame := flatMap_hexByte_of_readBytes hread
    rw [← htext] at hsame
    have hbytes := readBytes_flatMap_hexByte bs'
    rw [hsame, readBytes_flatMap_hexByte] at hbytes
    rw [hread, ← hbytes]

theorem read_eq_some_iff : read cs = some color ↔
    (∀ c ∈ digitsOf cs, isHexDigit c = true) ∧
      color.hex.toList = (digitsOf cs).map Char.toUpper := by
  rw [read_eq_bind, toList_hex, ← readBytes_eq_some_iff, Option.bind_eq_some_iff]
  constructor
  · rintro ⟨bs, hread, hcolor⟩
    rwa [← ofBytes_eq_some_iff.mp hcolor]
  · intro h
    exact ⟨_, h, ofBytes_eq_some_iff.mpr rfl⟩

theorem length_toList_hex (color : Color) : color.hex.toList.length = color.digitCount := by
  rw [toList_hex, length_flatMap_hexByte, length_bytes]

theorem isSome_read_iff : (read cs).isSome = true ↔
    (∀ c ∈ digitsOf cs, isHexDigit c = true) ∧
      ((digitsOf cs).length = 6 ∨ (digitsOf cs).length = 8) := by
  constructor
  · intro h
    obtain ⟨color, hread⟩ := Option.isSome_iff_exists.mp h
    obtain ⟨hhex, htext⟩ := read_eq_some_iff.mp hread
    have hlength := length_toList_hex color
    rw [htext, List.length_map] at hlength
    refine ⟨hhex, ?_⟩
    cases color with
    | rgb r g b => exact .inl hlength
    | argb a r g b => exact .inr hlength
  · rintro ⟨hhex, hlength⟩
    rw [read_eq_bind]
    rcases hlength with hsix | height
    · obtain ⟨bs, hbytes, hcount⟩ := Grammar.exists_readBytes (n := 3) hsix hhex
      obtain ⟨r, g, b, rfl⟩ := List.length_eq_three.mp hcount
      rw [hbytes]
      rfl
    · obtain ⟨bs, hbytes, hcount⟩ := Grammar.exists_readBytes (n := 4) height hhex
      obtain ⟨a, r, g, b, rfl⟩ := List.length_eq_four.mp hcount
      rw [hbytes]
      rfl

theorem readHexByte_pair {high low : Nat} (hhigh : hexValue? c = some high)
    (hlow : hexValue? d = some low) :
    readHexByte [c, d] = some (UInt8.ofNat (16 * high + low)) := by
  have hplus : c ≠ '+' := by
    rintro rfl
    cases hhigh
  have hvalue : natOfHex [c, d] = 16 * high + low := by
    simp [natOfHex, hhigh, hlow]
  have hlt : 16 * high + low < 256 := by
    have hfirst := (hexDigit_of_hexValue? hhigh).1
    have hlast := (hexDigit_of_hexValue? hlow).1
    omega
  have hdigits : [c, d].all isHexDigit = true := by simp [isHexDigit, hhigh, hlow]
  unfold readHexByte
  split
  · next digits heq => exact absurd (List.cons.inj heq).1 hplus
  · simp only [hdigits, hvalue, if_pos hlt]
    rfl

/-- All before and behind a pair of digits is in ASCII, so the pair can be cut out. -/
theorem scanBytes?_eq (hbefore : ∀ c ∈ before, c.toNat < 128)
    (hhex : ∀ c ∈ cs, isHexDigit c = true) (hlength : cs.length = 2 * n) :
    scanBytes? (before ++ cs) (List.range' before.length n 2) = some (readBytes cs) := by
  induction n generalizing before cs with
  | zero =>
      obtain rfl := List.eq_nil_of_length_eq_zero hlength
      rfl
  | succ n ih =>
      rcases cs with _ | ⟨c, _ | ⟨d, rest⟩⟩
      · cases hlength
      · simp only [List.length_singleton] at hlength
        omega
      · obtain ⟨hc, hmore⟩ := List.forall_mem_cons.mp hhex
        obtain ⟨hd, hrest⟩ := List.forall_mem_cons.mp hmore
        obtain ⟨high, hhigh⟩ := Option.isSome_iff_exists.mp hc
        obtain ⟨low, hlow⟩ := Option.isSome_iff_exists.mp hd
        have hpair : ∀ e ∈ before ++ [c, d], e.toNat < 128 := by
          rw [List.forall_mem_append]
          exact ⟨hbefore, by simp [lt_of_isHexDigit hc, lt_of_isHexDigit hd]⟩
        have hslice : slice? (before ++ c :: d :: rest) before.length (before.length + 2) =
            some [c, d] := by
          have h := slice?_append before [c, d] rest
          rwa [length_bytes_of_lt hbefore, length_bytes_of_lt hpair, List.length_append] at h
        have hshorter : rest.length = 2 * n := by
          simp only [List.length_cons] at hlength
          omega
        have hscan : scanBytes? (before ++ c :: d :: rest)
            (List.range' (before.length + 2) n 2) = some (readBytes rest) := by
          have h := ih hpair hrest hshorter
          rwa [List.append_assoc, List.length_append] at h
        rw [List.range'_succ, scanBytes?, hslice, Option.bind_some, readHexByte_pair hhigh hlow]
        change (scanBytes? _ _).map _ = _
        rw [hscan, Option.map_some, readBytes, hhigh, hlow]
        cases readBytes rest with
        | none => rfl
        | some bs => rfl

theorem lt_of_isHexByte {b : UInt8} (h : isHexByte b = true) : b.toNat < 128 := by
  have h57 : (57 : UInt8).toNat = 57 := rfl
  have h70 : (70 : UInt8).toNat = 70 := rfl
  have h102 : (102 : UInt8).toNat = 102 := rfl
  simp only [isHexByte, Bool.or_eq_true, Bool.and_eq_true, decide_eq_true_eq,
    UInt8.le_iff_toNat_le] at h
  omega

theorem isHexDigit_iff (c : Char) :
    isHexDigit c = true ↔ c.toNat < 128 ∧ isHexByte (UInt8.ofNat c.toNat) = true := by
  constructor
  · intro h
    have hsmall := lt_of_isHexDigit h
    exact ⟨hsmall, forall_ascii (p := fun c => isHexDigit c = true →
      isHexByte (UInt8.ofNat c.toNat) = true) (by decide) hsmall h⟩
  · rintro ⟨hsmall, hbyte⟩
    exact forall_ascii (p := fun c => isHexByte (UInt8.ofNat c.toNat) = true →
      isHexDigit c = true) (by decide) hsmall hbyte

theorem bytes_all_isHexByte (cs : List Char) :
    (Text.bytes cs).all isHexByte = cs.all isHexDigit :=
  bytes_all (fun _ => lt_of_isHexByte) isHexDigit_iff cs

theorem scan?_eq_some_read (cs : List Char) : scan? cs = some (read cs) := by
  have hsome : (read cs).isSome = true ↔ _ := isSome_read_iff
  rw [read_eq_bind] at hsome ⊢
  rw [scan?, ← digitsOf]
  generalize digitsOf cs = digits at hsome ⊢
  simp only [bytes_all_isHexByte]
  by_cases hhex : ∀ c ∈ digits, isHexDigit c = true
  · have hcount : (Text.bytes digits).length = digits.length :=
      length_bytes_of_lt fun c hc => lt_of_isHexDigit (hhex c hc)
    have hscan : ∀ n, digits.length = 2 * n →
        scanBytes? digits (List.range' 0 n 2) = some (readBytes digits) := fun n =>
      scanBytes?_eq (List.forall_mem_nil _) hhex
    rw [List.all_eq_true.mpr hhex, hcount]
    by_cases hsix : digits.length = 6
    · rw [hsix]
      exact congrArg (Option.map _) (hscan 3 hsix)
    · by_cases height : digits.length = 8
      · rw [height]
        exact congrArg (Option.map _) (hscan 4 height)
      · have hnone : (readBytes digits).bind ofBytes = none := by
          rw [← Option.not_isSome_iff_eq_none, hsome]
          rintro ⟨-, h | h⟩
          · exact hsix h
          · exact height h
        rw [if_neg hsix, if_neg height, hnone]
        rfl
  · have hall : digits.all isHexDigit = false := by
      rw [← Bool.not_eq_true, List.all_eq_true]
      exact hhex
    have hnone : (readBytes digits).bind ofBytes = none := by
      rw [← Option.not_isSome_iff_eq_none, hsome]
      exact fun h => hhex h.1
    rw [hall, hnone]
    rfl

theorem read_of_digits {marks : Nat} {after : List Char}
    (hbefore : ∀ c ∈ before, isBlank c = true) (hafter : ∀ c ∈ after, isBlank c = true)
    (hdigits : digits.map Char.toUpper = color.hex.toList) :
    read (before ++ (List.replicate marks '#' ++ digits ++ after)) = some color := by
  have hhex : ∀ c ∈ digits, isHexDigit c = true := by
    intro c hc
    have hupper : c.toUpper ∈ color.hex.toList := by
      rw [← hdigits]
      exact List.mem_map_of_mem hc
    obtain ⟨n, hn, hdigit⟩ := hex_digits hupper
    refine isHexDigit_of_toUpper ?_
    rw [isHexDigit, hdigit, hexValue?_hexDigit hn]
    rfl
  have hne : digits ≠ [] := by
    rintro rfl
    have hlength := length_toList_hex color
    rw [← hdigits] at hlength
    cases color with
    | rgb r g b => cases hlength
    | argb a r g b => cases hlength
  have hmark : ∀ c ∈ List.replicate marks '#' ++ digits, isBlank c = false := by
    intro c hc
    rcases List.mem_append.mp hc with hmark | hdigit
    · rw [List.eq_of_mem_replicate hmark]
      decide
    · exact Grammar.isBlank_of_isHexDigit (hhex c hdigit)
  have htrim : trim (before ++ (List.replicate marks '#' ++ digits ++ after)) =
      List.replicate marks '#' ++ digits := by
    refine trim_append_blanks hbefore hafter (List.append_ne_nil_of_right_ne_nil _ hne) ?_ ?_
    · exact fun c hc => hmark c (List.mem_of_mem_head? hc)
    · exact fun c hc => hmark c (List.mem_of_getLast? hc)
  have hdrop : (List.replicate marks '#' ++ digits).dropWhile (· == '#') = digits := by
    refine dropWhile_append_of_head ?_ ?_
    · intro c hc
      rw [List.eq_of_mem_replicate hc]
      rfl
    · intro c hc
      have hc := hhex c (List.mem_of_mem_head? hc)
      rw [beq_eq_false_iff_ne]
      rintro rfl
      cases hc
  rw [read_eq_some_iff, digitsOf, htrim, hdrop]
  exact ⟨hhex, hdigits.symm⟩

/-- A color is read back from its digits in either case, with blanks around them and any number
of number signs in front. A text is read as a color if and only if what remains of it without
blanks and number signs is six or eight hexadecimal digits; these are the digits of the
color, as capitals, and there are eight if it has an alpha channel. The reading by byte
positions always has an answer, and the same one. -/
theorem read_and_print :
    (∀ (color : Color) (marks : Nat) (before digits after : List Char),
      (∀ c ∈ before, isBlank c = true) → (∀ c ∈ after, isBlank c = true) →
        digits.map Char.toUpper = color.hex.toList →
          read (before ++ (List.replicate marks '#' ++ digits ++ after)) = some color) ∧
    (∀ cs, (read cs).isSome = true ↔
      (∀ c ∈ digitsOf cs, isHexDigit c = true) ∧
        ((digitsOf cs).length = 6 ∨
          (digitsOf cs).length = 8)) ∧
    (∀ cs color, read cs = some color →
      color.hex.toList = (digitsOf cs).map Char.toUpper ∧
        (color.hasAlpha = false ↔ (digitsOf cs).length = 6) ∧
          (color.hasAlpha = true ↔ (digitsOf cs).length = 8)) ∧
    ∀ cs, scan? cs = some (read cs) := by
  refine ⟨fun color marks before digits after => read_of_digits, fun cs => isSome_read_iff, ?_,
    scan?_eq_some_read⟩
  intro cs color h
  obtain ⟨-, htext⟩ := read_eq_some_iff.mp h
  have hlength := length_toList_hex color
  rw [htext, List.length_map] at hlength
  have hcount : ∀ alpha : Bool, (alpha = false ↔ (if alpha then 8 else 6) = 6) ∧
      (alpha = true ↔ (if alpha then 8 else 6) = 8) := by decide
  rw [hlength, digitCount]
  exact ⟨htext, hcount color.hasAlpha⟩

/-- Digits of both cases behind two number signs, with blanks around them. -/
theorem read_and_print_marks :
    let color : Color := .rgb 0xAB 0xC0 0x1D
    (∀ c ∈ ['\t'], isBlank c = true) ∧ (∀ c ∈ [' '], isBlank c = true) ∧
      "aBc01D".toList.map Char.toUpper = color.hex.toList ∧
        read (['\t'] ++ (List.replicate 2 '#' ++ "aBc01D".toList ++ [' '])) = some color ∧
      read "\t##aBc01D ".toList = some color ∧
        color.hex.toList = (digitsOf "\t##aBc01D ".toList).map Char.toUpper ∧
          (color.hasAlpha = false ↔ (digitsOf "\t##aBc01D ".toList).length = 6) ∧
            (color.hasAlpha = true ↔ (digitsOf "\t##aBc01D ".toList).length = 8) := by
  obtain ⟨hread, -, hprinted, -⟩ := read_and_print
  intro color
  have hbefore : ∀ c ∈ ['\t'], isBlank c = true := List.forall_mem_singleton.mpr rfl
  have hafter : ∀ c ∈ [' '], isBlank c = true := List.forall_mem_singleton.mpr rfl
  have hdigits : "aBc01D".toList.map Char.toUpper = color.hex.toList := by decide
  have hcolor : read "\t##aBc01D ".toList = some color := hread color 2 _ _ _ hbefore hafter hdigits
  exact ⟨hbefore, hafter, hdigits, hcolor, hcolor, hprinted _ _ hcolor⟩

end Color

end TableBook
