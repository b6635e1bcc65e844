namespace TableBook.Text

/-- The characters with the White_Space property. -/
def isBlank (c : Char) : Bool :=
  let n := c.toNat
  (9 ≤ n && n ≤ 13) || n == 0x20 || n == 0x85 || n == 0xA0 || n == 0x1680 ||
    (0x2000 ≤ n && n ≤ 0x200A) || n == 0x2028 || n == 0x2029 || n == 0x202F ||
    n == 0x205F || n == 0x3000

/-- The characters that pad the text of a markup element: a no-break space is
content, a NUL is not. -/
def isMarkupBlank (c : Char) : Bool :=
  c == ' ' || c == '\t' || c == '\n' || c == '\r' || c == '\x00' || c == '\x0b'

/-- Drop the characters of class `p` at both ends. -/
def stripWith (p : Char → Bool) (cs : List Char) : List Char :=
  ((cs.dropWhile p).reverse.dropWhile p).reverse

def trim : List Char → List Char :=
  stripWith isBlank

def trimEnd (cs : List Char) : List Char :=
  (cs.reverse.dropWhile isBlank).reverse

def trimMarkup (s : String) : String :=
  String.ofList (stripWith isMarkupBlank s.toList)

/-- A text without a padding character at either end is left alone. -/
theorem stripWith_eq_self {p : Char → Bool} {cs : List Char}
    (hhead : ∀ c ∈ cs.head?, p c = false) (hlast : ∀ c ∈ cs.getLast?, p c = false) :
    stripWith p cs = cs := by
  have drop_eq : ∀ {ds : List Char}, (∀ c ∈ ds.head?, p c = false) → ds.dropWhile p = ds := by
    intro ds h
    cases ds with
    | nil => rfl
    | cons d ds => simp [List.dropWhile, h d (by simp)]
  have hreverse : ∀ c ∈ cs.reverse.head?, p c = false := by
    simpa [List.head?_reverse] using hlast
  rw [stripWith, drop_eq hhead, drop_eq hreverse, List.reverse_reverse]

theorem prefix_trimEnd (cs : List Char) : trimEnd cs <+: cs := by
  rw [← List.reverse_suffix, trimEnd, List.reverse_reverse]
  exact List.dropWhile_suffix _

theorem isBlank_of_head?_dropWhile {cs : List Char} {c : Char}
    (h : c ∈ (cs.dropWhile isBlank).head?) : isBlank c = false := by
  have hhead := List.head?_dropWhile_not isBlank cs
  rw [h] at hhead
  exact hhead

theorem isBlank_of_getLast?_trimEnd {cs : List Char} {c : Char}
    (h : c ∈ (trimEnd cs).getLast?) : isBlank c = false := by
  rw [trimEnd, List.getLast?_reverse] at h
  exact isBlank_of_head?_dropWhile h

@[simp] theorem trim_trim (cs : List Char) : trim (trim cs) = trim cs := by
  refine stripWith_eq_self ?_ ?_
  · intro c hc
    obtain ⟨rest, hrest⟩ := prefix_trimEnd (cs.dropWhile isBlank)
    have hfirst : (trimEnd (cs.dropWhile isBlank)).head? = some c := hc
    have hhead : c ∈ (cs.dropWhile isBlank).head? := by
      rw [← hrest, List.head?_append, hfirst]
      rfl
    exact isBlank_of_head?_dropWhile hhead
  · intro c hc
    have hlast : c ∈ (trimEnd (cs.dropWhile isBlank)).getLast? := hc
    exact isBlank_of_getLast?_trimEnd hlast

theorem mem_dropWhile_of_mem {p : Char → Bool} {cs : List Char} {c : Char} (h : c ∈ cs) :
    p c = true ∨ c ∈ cs.dropWhile p := by
  rw [← List.takeWhile_append_dropWhile (p := p) (l := cs)] at h
  refine (List.mem_append.mp h).imp_left ?_
  exact List.all_eq_true.mp List.all_takeWhile c

/-- Nothing but blanks is trimmed. -/
theorem isBlank_or_mem_trim {cs : List Char} {c : Char} (h : c ∈ cs) :
    isBlank c = true ∨ c ∈ trim cs := by
  rcases mem_dropWhile_of_mem (p := isBlank) h with hblank | hmem
  · exact .inl hblank
  · exact (mem_dropWhile_of_mem (List.mem_reverse.mpr hmem)).imp_right List.mem_reverse.mpr

end TableBook.Text
