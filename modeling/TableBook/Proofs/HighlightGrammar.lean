import TableBook.Proofs.DecimalText
import TableBook.Proofs.HexColor

namespace TableBook

open Text

namespace Binary64

variable {x y : Binary64}

theorem eq_of_signed_eq {a b : Bool} {k l : Nat}
    (h : (if a then -(k : Int) else k) = if b then -(l : Int) else l) :
    k = l ∧ (a = b ∨ k = 0) := by
  cases a <;> cases b <;> simp at h ⊢ <;> omega

/-- Only the two zeros share a position. -/
theorem eq_or_zeros_of_position_eq (hx : x.isNan = false) (hy : y.isNan = false)
    (h : x.position = y.position) :
    x = y ∨ ∃ negative, x = .signedZero negative ∧ y = .signedZero (!negative) := by
  cases x with
  | nan => cases hx
  | infinite negative =>
      cases y with
      | nan => cases hy
      | infinite negative' =>
          obtain ⟨-, rfl | hzero⟩ := eq_of_signed_eq h
          · exact .inl rfl
          · exact absurd hzero (by decide)
      | finite negative' rank' =>
          exact absurd (eq_of_signed_eq h).1 (Nat.ne_of_gt rank'.isLt)
  | finite negative rank =>
      cases y with
      | nan => cases hy
      | infinite negative' => exact absurd (eq_of_signed_eq h).1 (Nat.ne_of_lt rank.isLt)
      | finite negative' rank' =>
          obtain ⟨hrank, hsign⟩ := eq_of_signed_eq h
          obtain rfl := Fin.ext hrank
          by_cases hsame : negative = negative'
          · exact .inl (by rw [hsame])
          · refine .inr ⟨negative, ?_, ?_⟩
            · exact congrArg _ (Fin.ext (hsign.resolve_left hsame))
            · rw [Bool.eq_not_of_ne (Ne.symm hsame)]
              exact congrArg _ (Fin.ext (hsign.resolve_left hsame))

theorem smaller_greater (hx : x.isNan = false) (hy : y.isNan = false) :
    (x.smaller y).atMost (x.greater y) = true ∧
      (x.smaller y = x ∧ x.greater y = y ∨ x.smaller y = y ∧ x.greater y = x) := by
  by_cases h : x.position ≤ y.position
  · simp [smaller, greater, atMost, hx, hy, h]
  · simp [smaller, greater, atMost, hx, hy, h, Int.le_of_lt (Int.not_le.mp h)]

theorem smaller_greater_comm (hx : x.isNan = false) (hy : y.isNan = false)
    (hzeros : ¬∃ negative, x = .signedZero negative ∧ y = .signedZero (!negative)) :
    x.smaller y = y.smaller x ∧ x.greater y = y.greater x := by
  rcases Int.lt_trichotomy x.position y.position with hlt | heq | hlt
  · simp [smaller, greater, hx, hy, Int.le_of_lt hlt, Int.not_le.mpr hlt]
  · obtain rfl := (eq_or_zeros_of_position_eq hx hy heq).resolve_right hzeros
    exact ⟨rfl, rfl⟩
  · simp [smaller, greater, hx, hy, Int.le_of_lt hlt, Int.not_le.mpr hlt]

end Binary64

namespace Highlight

variable {cs : List Char} {x : Binary64} {condition : Condition} {style style' : Style}

theorem isPlainNumber_text (n : Numeral) : isPlainNumber n.text = true := by
  have hfraction := n.isDigit_fraction
  simp only [isPlainNumber, n.splitSign_text, n.takeWhile_unsigned, n.dropWhile_unsigned]
  cases h : n.fraction with
  | nil => simp [Numeral.fractionText, n.whole_ne_nil]
  | cons c digits =>
      rw [h] at hfraction
      simp [Numeral.fractionText, n.whole_ne_nil, List.all_eq_true.mpr hfraction]

theorem exists_numeral_of_isPlainNumber (h : isPlainNumber cs = true) :
    ∃ n : Numeral, cs = n.text := by
  obtain ⟨sign, hcs⟩ := Decimal.exists_sign cs
  simp only [isPlainNumber] at h
  generalize (Decimal.splitSign cs).2 = digits at h hcs
  subst hcs
  simp only [Bool.and_eq_true, Bool.not_eq_true', List.isEmpty_eq_false_iff] at h
  obtain ⟨hne, hrest⟩ := h
  have hwhole : ∀ c ∈ digits.takeWhile Char.isDigit, c.isDigit = true := fun _ =>
    List.mem_takeWhile_imp
  have hsplit : digits.takeWhile Char.isDigit ++ digits.dropWhile Char.isDigit = digits :=
    List.takeWhile_append_dropWhile
  split at hrest
  · next hend =>
      refine ⟨⟨sign, _, [], hne, hwhole, List.forall_mem_nil _⟩, ?_⟩
      rw [hend] at hsplit
      exact congrArg (sign.text ++ ·) hsplit.symm
  · next fraction hpoint =>
      simp only [Bool.and_eq_true, Bool.not_eq_true', List.isEmpty_eq_false_iff,
        List.all_eq_true] at hrest
      obtain ⟨c, more, rfl⟩ := List.exists_cons_of_ne_nil hrest.1
      refine ⟨⟨sign, _, c :: more, hne, hwhole, hrest.2⟩, ?_⟩
      rw [hpoint] at hsplit
      exact congrArg (sign.text ++ ·) hsplit.symm
  · cases hrest

theorem readNumber_eq_some_iff :
    readNumber cs = some x ↔ ∃ n : Numeral, cs = n.text ∧ x = n.value := by
  rw [readNumber]
  constructor
  · intro h
    split at h
    · next hplain =>
        obtain ⟨n, rfl⟩ := exists_numeral_of_isPlainNumber hplain
        rw [n.read_text_eq_value, Option.some.injEq] at h
        exact ⟨n, rfl, h.symm⟩
    · cases h
  · rintro ⟨n, rfl, rfl⟩
    rw [if_pos (isPlainNumber_text n), n.read_text_eq_value]

/-- Blanks in front of a number are passed over. -/
theorem map_readNumber_eq_some_iff {f : Binary64 → Condition} :
    (readNumber (cs.dropWhile isBlank)).map f = some condition ↔
      ∃ (blanks : List Char) (n : Numeral), (∀ c ∈ blanks, isBlank c = true) ∧
        cs = blanks ++ n.text ∧ condition = f n.value := by
  rw [Option.map_eq_some_iff]
  constructor
  · rintro ⟨x, hnumber, rfl⟩
    obtain ⟨n, htext, rfl⟩ := readNumber_eq_some_iff.mp hnumber
    refine ⟨cs.takeWhile isBlank, n, fun _ => List.mem_takeWhile_imp, ?_, rfl⟩
    rw [← htext, List.takeWhile_append_dropWhile]
  · rintro ⟨blanks, n, hblanks, rfl, rfl⟩
    refine ⟨n.value, readNumber_eq_some_iff.mpr ⟨n, dropWhile_append_of_head hblanks ?_, rfl⟩, rfl⟩
    intro c hc
    exact Numeral.isBlank_of_mem_text (List.mem_of_mem_head? hc)

def betweenText (m n : Numeral) : List Char := "between:".toList ++ (m.text ++ ':' :: n.text)

/-- How a condition is written, and what it then means. -/
inductive IsCondition : List Char → Condition → Prop
  | above {before after : List Char} (n : Numeral) (hbefore : ∀ c ∈ before, isBlank c = true)
      (hafter : ∀ c ∈ after, isBlank c = true) :
      IsCondition ("value".toList ++ (before ++ '>' :: (after ++ n.text))) (.greaterThan n.value)
  | below {before after : List Char} (n : Numeral) (hbefore : ∀ c ∈ before, isBlank c = true)
      (hafter : ∀ c ∈ after, isBlank c = true) :
      IsCondition ("value".toList ++ (before ++ '<' :: (after ++ n.text))) (.lessThan n.value)
  | between (m n : Numeral) :
      IsCondition (betweenText m n) (.within m.value n.value)

theorem isCondition_of_readComparison (h : readComparison cs = some condition) :
    IsCondition cs condition := by
  rw [readComparison, Option.bind_eq_some_iff] at h
  obtain ⟨rest, hlead, hsigned⟩ := h
  obtain rfl := after_eq_some_iff.mp hlead
  have hblanks : ∀ c ∈ rest.takeWhile isBlank, isBlank c = true := fun _ => List.mem_takeWhile_imp
  rw [← List.takeWhile_append_dropWhile (p := isBlank) (l := rest)]
  split at hsigned
  · next number hsign =>
      obtain ⟨after, n, hafter, rfl, rfl⟩ := map_readNumber_eq_some_iff.mp hsigned
      rw [hsign]
      exact .above n hblanks hafter
  · next number hsign =>
      obtain ⟨after, n, hafter, rfl, rfl⟩ := map_readNumber_eq_some_iff.mp hsigned
      rw [hsign]
      exact .below n hblanks hafter
  · cases hsigned

theorem isCondition_of_readBetween (h : readBetween cs = some condition) :
    IsCondition cs condition := by
  rw [readBetween, Option.bind_eq_some_iff] at h
  obtain ⟨rest, hlead, hnumbers⟩ := h
  obtain rfl := after_eq_some_iff.mp hlead
  obtain ⟨⟨first, last⟩, hcut, hnumbers⟩ := Option.bind_eq_some_iff.mp hnumbers
  obtain ⟨a, hfirst, hsecond⟩ := Option.bind_eq_some_iff.mp hnumbers
  obtain ⟨b, hlast, rfl⟩ := Option.map_eq_some_iff.mp hsecond
  obtain ⟨m, rfl, rfl⟩ := readNumber_eq_some_iff.mp hfirst
  obtain ⟨n, rfl, rfl⟩ := readNumber_eq_some_iff.mp hlast
  rw [eq_append_of_cut hcut]
  exact .between m n

theorem readCondition_eq_some_iff :
    readCondition cs = some condition ↔ IsCondition cs condition := by
  constructor
  · intro h
    rcases Option.or_eq_some_iff.mp h with hcomparison | ⟨-, hbetween⟩
    · exact isCondition_of_readComparison hcomparison
    · exact isCondition_of_readBetween hbetween
  · intro h
    rw [readCondition]
    cases h with
    | @above before after n hbefore hafter =>
        have hdrop : (before ++ '>' :: (after ++ n.text)).dropWhile isBlank =
            '>' :: (after ++ n.text) :=
          dropWhile_append_of_head hbefore fun _ hc => Option.some.inj hc ▸ by decide
        rw [readComparison, after_eq_some_iff.mpr rfl, Option.bind_some, hdrop]
        simp only [map_readNumber_eq_some_iff.mpr ⟨after, n, hafter, rfl, rfl⟩, Option.some_or]
    | @below before after n hbefore hafter =>
        have hdrop : (before ++ '<' :: (after ++ n.text)).dropWhile isBlank =
            '<' :: (after ++ n.text) :=
          dropWhile_append_of_head hbefore fun _ hc => Option.some.inj hc ▸ by decide
        rw [readComparison, after_eq_some_iff.mpr rfl, Option.bind_some, hdrop]
        simp only [map_readNumber_eq_some_iff.mpr ⟨after, n, hafter, rfl, rfl⟩, Option.some_or]
    | between m n =>
        have hword : readComparison (betweenText m n) = none := rfl
        have hfirst : readNumber m.text = some m.value := readNumber_eq_some_iff.mpr ⟨m, rfl, rfl⟩
        have hlast : readNumber n.text = some n.value := readNumber_eq_some_iff.mpr ⟨n, rfl, rfl⟩
        have hcut : cut ':' (m.text ++ ':' :: n.text) = some (m.text, n.text) :=
          cut_append Numeral.colon_notMem_text
        have hlead : after "between:" (betweenText m n) = some (m.text ++ ':' :: n.text) :=
          after_eq_some_iff.mpr rfl
        rw [hword, Option.none_or, readBetween, hlead, Option.bind_some, hcut, Option.bind_some]
        simp only [hfirst, hlast, Option.bind_some, Option.map_some]

/-- What a rule may ask for in the cells it holds for. -/
inductive Look
  | bold
  | fill (color : Color)
  | fontColor (color : Color)
deriving DecidableEq, Repr

namespace Look

def fill? : Look → Option Color
  | .fill color => some color
  | _ => none

def fontColor? : Look → Option Color
  | .fontColor color => some color
  | _ => none

/-- A style taken over by one look. -/
def lay (style : Style) : Look → Style
  | .bold => { style with font := { style.font with bold := some true } }
  | .fill color => { style with fill := some color }
  | .fontColor color => { style with font := { style.font with color := some color } }

end Look

/-- How a look is written. -/
inductive IsLook : List Char → Look → Prop
  | bold : IsLook "bold".toList .bold
  | fill {key value : List Char} {color : Color} (hkey : trim key = "bg".toList)
      (hvalue : IsColor (trim value) color) : IsLook (key ++ ':' :: value) (.fill color)
  | fontColor {key value : List Char} {color : Color} (hkey : trim key = "font".toList)
      (hvalue : IsColor (trim value) color) : IsLook (key ++ ':' :: value) (.fontColor color)

/-- The style of some looks: the last fill, the last font color and bold print, each only
if a look asks for it. -/
def styleOf (looks : List Look) : Style :=
  { fill := (looks.filterMap Look.fill?).getLast?
    font :=
      { color := (looks.filterMap Look.fontColor?).getLast?
        bold := if .bold ∈ looks then some true else none } }

/-- How a rule is written: a condition and at least one look between bars, with blanks
around each of them. -/
def IsRule (cs : List Char) (rule : Rule) : Prop :=
  ∃ first rest looks, (pieces '|' cs).map trim = first :: rest ∧ rest ≠ [] ∧
    IsCondition first rule.1 ∧ List.Forall₂ IsLook rest looks ∧ rule.2 = styleOf looks

theorem colon_notMem_of_trim_eq {key word : List Char} (hkey : trim key = word)
    (hword : ':' ∉ word) : ':' ∉ key := by
  intro h
  rcases isBlank_or_mem_trim h with hblank | hmem
  · exact absurd hblank (by decide)
  · exact hword (hkey ▸ hmem)

theorem append_cons_ne_bold (key value : List Char) : key ++ ':' :: value ≠ "bold".toList := by
  intro h
  have hcolon : ':' ∈ "bold".toList := by
    rw [← h]
    simp
  exact absurd hcolon (by decide)

theorem readLook_append {key value : List Char} {color : Color} (hkey : ':' ∉ key)
    (hvalue : IsColor (trim value) color) :
    readLook style (key ++ ':' :: value) =
      if trim key = "bg".toList then some { style with fill := some color }
      else if trim key = "font".toList then
        some { style with font := { style.font with color := some color } }
      else none := by
  obtain ⟨hplain, hread⟩ := isColor_iff.mpr hvalue
  rw [readLook, if_neg (append_cons_ne_bold key value), cut_append hkey, Option.bind_some]
  dsimp only
  rw [if_pos hplain, hread, Option.bind_some]

theorem readLook_eq_some_iff :
    readLook style cs = some style' ↔ ∃ look, IsLook cs look ∧ style' = look.lay style := by
  constructor
  · intro h
    rw [readLook] at h
    split at h
    · next hbold =>
        subst hbold
        exact ⟨.bold, .bold, (Option.some.inj h).symm⟩
    · rw [Option.bind_eq_some_iff] at h
      obtain ⟨⟨key, value⟩, hcut, h⟩ := h
      obtain rfl := eq_append_of_cut hcut
      dsimp only at h
      split at h
      · next hplain =>
          obtain ⟨color, hread, hkey⟩ := Option.bind_eq_some_iff.mp h
          have hcolor : IsColor (trim value) color := isColor_iff.mp ⟨hplain, hread⟩
          split at hkey
          · next hfill => exact ⟨_, .fill hfill hcolor, (Option.some.inj hkey).symm⟩
          · split at hkey
            · next hfont => exact ⟨_, .fontColor hfont hcolor, (Option.some.inj hkey).symm⟩
            · cases hkey
      · cases h
  · rintro ⟨look, hlook, rfl⟩
    cases hlook with
    | bold => rfl
    | @fill key value color hkey hvalue =>
        rw [readLook_append (colon_notMem_of_trim_eq hkey (by decide)) hvalue, if_pos hkey]
        rfl
    | @fontColor key value color hkey hvalue =>
        have hfill : trim key ≠ "bg".toList := by
          rw [hkey]
          decide
        rw [readLook_append (colon_notMem_of_trim_eq hkey (by decide)) hvalue, if_neg hfill,
          if_pos hkey]
        rfl

theorem readLooks_eq_some_iff {pieces : List (List Char)} :
    readLooks style pieces = some style' ↔
      ∃ looks, List.Forall₂ IsLook pieces looks ∧ style' = looks.foldl Look.lay style := by
  induction pieces generalizing style with
  | nil => simp [readLooks, eq_comm]
  | cons piece rest ih =>
      rw [readLooks, Option.bind_eq_some_iff]
      constructor
      · rintro ⟨next, hlook, hrest⟩
        obtain ⟨look, hwritten, rfl⟩ := readLook_eq_some_iff.mp hlook
        obtain ⟨looks, hlooks, rfl⟩ := ih.mp hrest
        exact ⟨look :: looks, .cons hwritten hlooks, rfl⟩
      · rintro ⟨_ | ⟨look, looks⟩, hall, rfl⟩
        · cases hall
        · obtain ⟨hlook, hlooks⟩ := List.forall₂_cons.mp hall
          exact ⟨look.lay style, readLook_eq_some_iff.mpr ⟨look, hlook, rfl⟩,
            ih.mpr ⟨looks, hlooks, rfl⟩⟩

/-- The last look of a kind decides, and the style stays as it was in what no look asks
for. -/
theorem foldl_lay (style : Style) (looks : List Look) :
    looks.foldl Look.lay style =
      { style with
        fill := (looks.filterMap Look.fill?).getLast?.or style.fill
        font :=
          { style.font with
            color := (looks.filterMap Look.fontColor?).getLast?.or style.font.color
            bold := if .bold ∈ looks then some true else style.font.bold } } := by
  induction looks generalizing style with
  | nil =>
      cases style
      simp
  | cons look looks ih =>
      rw [List.foldl_cons, ih]
      cases look with
      | bold => simp [Look.lay, Look.fill?, Look.fontColor?]
      | fill color =>
          simp [Look.lay, Look.fill?, Look.fontColor?, List.getLast?_cons]
      | fontColor color =>
          simp [Look.lay, Look.fill?, Look.fontColor?, List.getLast?_cons]

theorem foldl_lay_eq_styleOf (looks : List Look) : looks.foldl Look.lay {} = styleOf looks := by
  rw [foldl_lay]
  simp [styleOf]

theorem read_eq_some_iff {rule : Rule} : read cs = some rule ↔ IsRule cs rule := by
  rw [read]
  constructor
  · intro h
    split at h
    · next first look rest hpieces =>
        obtain ⟨condition, hcondition, h⟩ := Option.bind_eq_some_iff.mp h
        obtain ⟨style, hlooks, rfl⟩ := Option.map_eq_some_iff.mp h
        obtain ⟨looks, hall, rfl⟩ := readLooks_eq_some_iff.mp hlooks
        exact ⟨first, look :: rest, looks, hpieces, List.cons_ne_nil _ _,
          readCondition_eq_some_iff.mp hcondition, hall, foldl_lay_eq_styleOf looks⟩
    · cases h
  · rintro ⟨first, rest, looks, hpieces, hne, hcondition, hall, hstyle⟩
    obtain ⟨look, more, rfl⟩ := List.exists_cons_of_ne_nil hne
    have hlooks : readLooks {} (look :: more) = some rule.2 :=
      readLooks_eq_some_iff.mpr ⟨looks, hall, hstyle.trans (foldl_lay_eq_styleOf looks).symm⟩
    rw [hpieces]
    dsimp only
    rw [readCondition_eq_some_iff.mpr hcondition, Option.bind_some, hlooks]
    rfl

/-- The reader knows the rules of the grammar and no other text, and it takes them for what
the grammar says. Two bounds are put in order, so a rule does not change when they trade
places, unless they are the two zeros. -/
theorem reads_grammar :
    (∀ cs rule, read cs = some rule ↔ IsRule cs rule) ∧
      (∀ m n : Numeral, ∃ low high, Condition.within m.value n.value = .between low high ∧
        low.atMost high = true ∧
        (low = m.value ∧ high = n.value ∨ low = n.value ∧ high = m.value)) ∧
      ∀ m n : Numeral,
        (¬∃ negative, m.value = .signedZero negative ∧ n.value = .signedZero (!negative)) →
        ∀ cs cs' rest, (pieces '|' cs).map trim = betweenText m n :: rest →
          (pieces '|' cs').map trim = betweenText n m :: rest → read cs = read cs' := by
  refine ⟨fun _ _ => read_eq_some_iff, ?_, ?_⟩
  · intro m n
    obtain ⟨hle, heq⟩ := Binary64.smaller_greater m.isNan_value n.isNan_value
    exact ⟨_, _, rfl, hle, heq⟩
  · intro m n hzeros cs cs' rest hpieces hpieces'
    obtain ⟨hsmaller, hgreater⟩ :=
      Binary64.smaller_greater_comm m.isNan_value n.isNan_value hzeros
    have hcondition : readCondition (betweenText m n) = readCondition (betweenText n m) := by
      rw [readCondition_eq_some_iff.mpr (.between m n),
        readCondition_eq_some_iff.mpr (.between n m), Condition.within, Condition.within, hsmaller,
        hgreater]
    rw [read, read, hpieces, hpieces']
    cases rest with
    | nil => rfl
    | cons look looks => simp only [hcondition]

/-- Blanks around bars, keys and values, two fills of which the last one counts, and the
greater bound in front. -/
theorem reads_grammar_swapped :
    let m : Numeral := ⟨.none, ['2', '0'], [], by decide, by simp, by simp⟩
    let n : Numeral := ⟨.minus, ['2'], ['5'], by decide, by simp, by simp⟩
    let cs := " between:20:-2.5 | bg : #ffc7ce |bold|font:9C0006|bg:00ff00".toList
    let cs' := "between:-2.5:20|bg : #ffc7ce|bold|font:9C0006|bg:00ff00".toList
    let style : Style :=
      { fill := some (.rgb 0 255 0), font := { color := some (.rgb 156 0 6), bold := some true } }
    (¬∃ negative, m.value = .signedZero negative ∧ n.value = .signedZero (!negative)) ∧
      read cs' = some (.between n.value m.value, style) ∧ read cs = read cs' ∧
      IsRule cs (.between n.value m.value, style) := by
  intro m n cs cs' style
  have hzeros :
      ¬∃ negative, m.value = .signedZero negative ∧ n.value = .signedZero (!negative) := by
    decide +kernel
  have hread : read cs' = some (.between n.value m.value, style) := by
    decide +kernel
  obtain ⟨hgrammar, -, hswap⟩ := reads_grammar
  have hsame : read cs = read cs' := hswap m n hzeros cs cs' _ (by decide +kernel) rfl
  exact ⟨hzeros, hread, hsame, (hgrammar cs _).mp (hsame.trans hread)⟩

end Highlight

end TableBook
