namespace TableBook.Text

/-- The bytes of a text. -/
def bytes (cs : List Char) : List UInt8 := cs.flatMap String.utf8EncodeChar

/-- The text before and after a byte position, unless the position is inside a character
or behind the end. -/
def cutAt? : List Char → Nat → Option (List Char × List Char)
  | cs, 0 => some ([], cs)
  | [], _ + 1 => none
  | c :: cs, n + 1 =>
      if c.utf8Size ≤ n + 1 then
        (cutAt? cs (n + 1 - c.utf8Size)).map fun parts => (c :: parts.1, parts.2)
      else none

/-- The text between two byte positions. -/
def slice? (cs : List Char) (first last : Nat) : Option (List Char) :=
  if first ≤ last then
    (cutAt? cs first).bind fun parts =>
      (cutAt? parts.2 (last - first)).map fun parts => parts.1
  else none

/-- A fact about the characters of ASCII needs to be seen for each of the 128. -/
theorem forall_ascii {p : Char → Prop} {c : Char} (hall : ∀ k : Fin 128, p (Char.ofNat k))
    (h : c.toNat < 128) : p c := by
  have hc := hall ⟨c.toNat, h⟩
  rwa [Char.ofNat_toNat] at hc

@[simp] theorem bytes_nil : bytes [] = [] := rfl

theorem bytes_cons (c : Char) (cs : List Char) :
    bytes (c :: cs) = String.utf8EncodeChar c ++ bytes cs := List.flatMap_cons

theorem bytes_append (cs ds : List Char) : bytes (cs ++ ds) = bytes cs ++ bytes ds :=
  List.flatMap_append

/-- The position behind the bytes of a part is one where the text can be cut. -/
theorem cutAt?_append (cs ds : List Char) :
    cutAt? (cs ++ ds) (bytes cs).length = some (cs, ds) := by
  induction cs with
  | nil => simp [cutAt?]
  | cons c cs ih =>
      obtain ⟨n, hn⟩ : ∃ n, (bytes (c :: cs)).length = n + 1 := by
        refine Nat.exists_eq_succ_of_ne_zero ?_
        have hpos := c.utf8Size_pos
        simp only [bytes_cons, List.length_append, String.length_utf8EncodeChar]
        omega
      have hlength : c.utf8Size + (bytes cs).length = n + 1 := by
        rw [← hn, bytes_cons, List.length_append, String.length_utf8EncodeChar]
      have hrest : n + 1 - c.utf8Size = (bytes cs).length := by omega
      rw [hn, List.cons_append, cutAt?, if_pos (by omega), hrest, ih, Option.map_some]

theorem slice?_append (cs part ds : List Char) :
    slice? (cs ++ (part ++ ds)) (bytes cs).length (bytes (cs ++ part)).length = some part := by
  have hle : (bytes cs).length ≤ (bytes (cs ++ part)).length := by
    rw [bytes_append, List.length_append]
    exact Nat.le_add_right _ _
  have hlength : (bytes (cs ++ part)).length - (bytes cs).length = (bytes part).length := by
    rw [bytes_append, List.length_append, Nat.add_sub_cancel_left]
  rw [slice?, if_pos hle, cutAt?_append, Option.bind_some, hlength, cutAt?_append,
    Option.map_some]

end TableBook.Text
