import TableBook.Proofs.AddressText
import TableBook.Proofs.RangeWalk

namespace TableBook

open Text

section Blanks

variable {c : Char} {cs blanks first last : List Char}

theorem Text.trim_blanks_append (h : ∀ c ∈ blanks, isBlank c = true) :
    trim (blanks ++ cs) = trim cs := by
  rw [trim, stripWith, List.dropWhile_append_of_pos h, stripWith]

theorem Text.trim_append_of_blanks (h : ∀ c ∈ blanks, isBlank c = true) :
    trim (cs ++ blanks) = trim cs := by
  have hreverse : ∀ c ∈ blanks.reverse, isBlank c = true :=
    fun c hc => h c (List.mem_reverse.mp hc)
  rw [trim, stripWith, stripWith, List.dropWhile_append]
  split
  · next hnil =>
      have hblanks : blanks.dropWhile isBlank = [] := List.dropWhile_eq_nil_iff.mpr h
      rw [hblanks, List.isEmpty_iff.mp hnil]
  · rw [List.reverse_append, List.dropWhile_append_of_pos hreverse]

theorem Text.dropWhile_append_cons {p : Char → Bool} (h : p c = false) :
    (first ++ c :: last).dropWhile p = first.dropWhile p ++ c :: last := by
  induction first with
  | nil => exact List.dropWhile_cons_of_neg (Bool.not_eq_true _ ▸ h)
  | cons d first ih =>
      rw [List.cons_append, List.dropWhile_cons, List.dropWhile_cons, ih]
      split
      · rfl
      · rfl

/-- The text around a character that is not blank is trimmed at its far ends. -/
theorem Text.exists_trim_append_cons (first last : List Char) (h : isBlank c = false) :
    ∃ first' last', trim (first ++ c :: last) = first' ++ c :: last' ∧
      trim first' = trim first ∧ trim last' = trim last := by
  have hall : ∀ ds : List Char, ∀ c ∈ ds.takeWhile isBlank, isBlank c = true :=
    fun ds => List.all_eq_true.mp List.all_takeWhile
  have hfirst : first.takeWhile isBlank ++ first.dropWhile isBlank = first :=
    List.takeWhile_append_dropWhile
  have hlast : trimEnd last ++ (last.reverse.takeWhile isBlank).reverse = last := by
    rw [trimEnd, ← List.reverse_append, List.takeWhile_append_dropWhile, List.reverse_reverse]
  have hafter : ∀ c ∈ (last.reverse.takeWhile isBlank).reverse, isBlank c = true :=
    fun c hc => hall _ c (List.mem_reverse.mp hc)
  refine ⟨first.dropWhile isBlank, trimEnd last, ?_, ?_, ?_⟩
  · rw [trim, stripWith, dropWhile_append_cons h, List.reverse_append, List.reverse_cons,
      List.append_assoc, List.singleton_append, dropWhile_append_cons h]
    simp [trimEnd]
  · conv_rhs => rw [← hfirst]
    exact (trim_blanks_append (hall first)).symm
  · conv_rhs => rw [← hlast]
    exact (trim_append_of_blanks hafter).symm

end Blanks

namespace Address

variable {cs ds first last : List Char} {a : Address}

theorem parse_congr (h : trim cs = trim ds) : parse cs = parse ds := by
  simp only [parse, h]

theorem Spelling.colon_notMem_text (w : Spelling) : ':' ∉ w.text := by
  intro h
  rcases w.mem_text h with hdollar | halpha | hdigit
  · exact absurd hdollar (by decide)
  · exact absurd halpha (by decide)
  · exact absurd hdigit (by decide)

theorem colon_notMem_of_parse (h : parse cs = .ok a) : ':' ∉ cs := by
  obtain ⟨w, hin, -⟩ := Spelling.exists_of_parse h
  intro hcolon
  rcases isBlank_or_mem_trim hcolon with hblank | htrim
  · exact absurd hblank (by decide)
  · rw [Spelling.trim_of_isIn hin] at htrim
    exact w.colon_notMem_text htrim

theorem parse_text (h : a.InBounds) : parse a.text.toList = .ok a := by
  obtain ⟨w, htext, rfl⟩ := exists_spelling_text h
  refine Spelling.parse_of_isIn ⟨[], [], ?_, ?_, ?_⟩ h
  · exact List.forall_mem_nil _
  · exact List.forall_mem_nil _
  · rw [List.nil_append, List.append_nil, htext]

theorem trim_text (h : a.InBounds) : trim a.text.toList = a.text.toList := by
  obtain ⟨w, htext, -⟩ := exists_spelling_text h
  rw [← htext]
  exact trim_eq_self fun c hc => w.isBlank_of_mem_text hc

end Address

namespace Range

variable {cs first last : List Char} {a b : Address} {r : Range}

/-- The corners that a text writes: the addresses before and after its first colon, or one
address that is both. -/
inductive Writes (cs : List Char) : Address → Address → Prop
  | single {a : Address} : ':' ∉ trim cs → Address.parse (trim cs) = .ok a → Writes cs a a
  | corners {first last : List Char} {a b : Address} : trim cs = first ++ ':' :: last → ':' ∉ first →
      Address.parse first = .ok a → Address.parse last = .ok b → Writes cs a b

theorem ofCorners_self (a : Address) : ofCorners a a = single a := by
  simp [ofCorners, single]

theorem ofCorners_first_last (r : Range) : ofCorners r.first r.last = r := by
  obtain ⟨first, last, hrow, hcolumn⟩ := r
  simp only [ofCorners, Nat.min_eq_left hrow, Nat.min_eq_left hcolumn, Nat.max_eq_right hrow,
    Nat.max_eq_right hcolumn]

theorem parse_of_writes (h : Writes cs a b) : parse cs = .ok (ofCorners a b) := by
  cases h with
  | single hcolon ha =>
      simp only [parse, cut_eq_none_iff.mpr hcolon, ha, ofCorners_self]
  | corners hcs hfirst ha hb =>
      simp only [parse, hcs, cut_append hfirst, ha, hb]

/-- A text either writes two corners or is refused, and then all of it but the blanks around
it is named. -/
theorem writes_or_refused (cs : List Char) :
    (∃ a b, Writes cs a b) ∨ parse cs = .error (.invalidRange (String.ofList (trim cs))) := by
  cases hcut : cut ':' (trim cs) with
  | none =>
      cases ha : Address.parse (trim cs) with
      | ok a => exact .inl ⟨a, a, .single (cut_eq_none_iff.mp hcut) ha⟩
      | error fault => exact .inr (by simp only [parse, hcut, ha])
  | some parts =>
      obtain ⟨first, last⟩ := parts
      cases ha : Address.parse first with
      | error fault => exact .inr (by simp only [parse, hcut, ha])
      | ok a =>
          cases hb : Address.parse last with
          | error fault => exact .inr (by simp only [parse, hcut, ha, hb])
          | ok b =>
              exact .inl ⟨a, b, .corners (eq_append_of_cut hcut) (notMem_of_cut hcut) ha hb⟩

theorem parse_eq_ok_iff :
    parse cs = .ok r ↔ ∃ a b, Writes cs a b ∧ r = ofCorners a b := by
  constructor
  · intro h
    rcases writes_or_refused cs with ⟨a, b, hwrites⟩ | hrefused
    · rw [parse_of_writes hwrites] at h
      exact ⟨a, b, hwrites, (Except.ok.inj h).symm⟩
    · rw [hrefused] at h
      cases h
  · rintro ⟨a, b, hwrites, rfl⟩
    exact parse_of_writes hwrites

/-- The colon that is cut at is the only one. -/
theorem parse_append_colon_iff :
    parse (first ++ ':' :: last) = .ok r ↔
      ∃ a b, Address.parse first = .ok a ∧ Address.parse last = .ok b ∧ r = ofCorners a b := by
  obtain ⟨first', last', htrim, hfirst, hlast⟩ :=
    exists_trim_append_cons (c := ':') first last (by decide)
  rw [parse_eq_ok_iff]
  constructor
  · rintro ⟨a, b, hwrites, rfl⟩
    cases hwrites with
    | single hcolon => exact absurd (by simp [htrim]) hcolon
    | @corners before after _ _ hsplit hbefore ha hb =>
        have hafter : ':' ∉ after := Address.colon_notMem_of_parse hb
        rw [htrim] at hsplit
        obtain ⟨rfl, -, rfl⟩ := (List.append_cons_inj_of_notMem hbefore hafter).mp hsplit.symm
        exact ⟨a, b, Address.parse_congr hfirst ▸ ha, Address.parse_congr hlast ▸ hb, rfl⟩
  · rintro ⟨a, b, ha, hb, rfl⟩
    rw [← Address.parse_congr hfirst] at ha
    rw [← Address.parse_congr hlast] at hb
    exact ⟨a, b, .corners htrim (Address.colon_notMem_of_parse ha) ha hb, rfl⟩

theorem parse_text (hfirst : r.first.InBounds) (hlast : r.last.InBounds) :
    parse r.text.toList = .ok r := by
  rw [text]
  split
  · next heq =>
      have hcolon : ':' ∉ r.first.text.toList :=
        Address.colon_notMem_of_parse (Address.parse_text hfirst)
      have htrim : trim r.first.text.toList = r.first.text.toList := Address.trim_text hfirst
      have hwrites : Writes r.first.text.toList r.first r.first :=
        .single (htrim.symm ▸ hcolon) (htrim.symm ▸ Address.parse_text hfirst)
      rw [parse_of_writes hwrites]
      conv_rhs => rw [← ofCorners_first_last r, ← heq]
  · have hlist : (r.first.text ++ ":" ++ r.last.text).toList =
        r.first.text.toList ++ ':' :: r.last.text.toList := by
      simp
    rw [hlist, parse_append_colon_iff]
    exact ⟨r.first, r.last, Address.parse_text hfirst, Address.parse_text hlast,
      (ofCorners_first_last r).symm⟩

/-- A text is read as a range if and only if it writes two corners, and then as the smallest
range that contains both; what is refused is named without the blanks around it. The two
sides of a colon may change places. What is printed of a range that a sheet has is read as this
range, and that is so of every range that was read. -/
theorem parse_and_print_range :
    (∀ cs r, parse cs = .ok r ↔ ∃ a b, Writes cs a b ∧ r = ofCorners a b) ∧
    (∀ cs fault, parse cs = .error fault → fault = .invalidRange (String.ofList (trim cs))) ∧
    (∀ first last r, parse (first ++ ':' :: last) = .ok r ↔
      parse (last ++ ':' :: first) = .ok r) ∧
    (∀ r : Range, r.first.InBounds → r.last.InBounds → parse r.text.toList = .ok r) ∧
    ∀ cs r, parse cs = .ok r → ∃ r', parse r.text.toList = .ok r' ∧ r'.text = r.text := by
  refine ⟨fun cs r => parse_eq_ok_iff, ?_, ?_, fun r => parse_text, ?_⟩
  · intro cs fault h
    rcases writes_or_refused cs with ⟨a, b, hwrites⟩ | hrefused
    · rw [parse_of_writes hwrites] at h
      cases h
    · rw [hrefused] at h
      exact (Except.error.inj h).symm
  · intro first last r
    rw [parse_append_colon_iff, parse_append_colon_iff]
    constructor
    · rintro ⟨a, b, ha, hb, rfl⟩
      exact ⟨b, a, hb, ha, ofCorners_comm a b⟩
    · rintro ⟨a, b, ha, hb, rfl⟩
      exact ⟨b, a, hb, ha, ofCorners_comm a b⟩
  · intro cs r h
    obtain ⟨a, b, ha, hb, rfl⟩ := eq_ofCorners_of_parse h
    obtain ⟨hfirst, hlast⟩ := inBounds_ofCorners ha hb
    exact ⟨_, parse_text hfirst hlast, rfl⟩

/-- Corners that are neither the first nor the last of their range; two colons. -/
theorem parse_and_print_range_antidiagonal :
    let r : Range := ⟨⟨1, 1⟩, ⟨3, 3⟩, by decide, by decide⟩
    parse " c1 : $A$3 ".toList = .ok r ∧
      (∃ a b, Writes " c1 : $A$3 ".toList a b ∧ r = ofCorners a b) ∧
      parse " $A$3 : c1 ".toList = .ok r ∧
      parse " A1:B2:C3".toList = .error (.invalidRange "A1:B2:C3") ∧
        String.ofList (trim " A1:B2:C3".toList) = "A1:B2:C3" ∧
      r.first.InBounds ∧ r.last.InBounds ∧ parse r.text.toList = .ok r ∧
        ∃ r', parse r.text.toList = .ok r' ∧ r'.text = r.text := by
  obtain ⟨hread, hrefused, hswap, hprinted, hagain⟩ := parse_and_print_range
  intro r
  have hparse : parse " c1 : $A$3 ".toList = .ok r := by decide
  have hcolons : parse " A1:B2:C3".toList = .error (.invalidRange "A1:B2:C3") := by decide
  have hfirst : r.first.InBounds := by decide
  have hlast : r.last.InBounds := by decide
  have hnamed := SheetFault.invalidRange.inj (hrefused _ _ hcolons)
  exact ⟨hparse, (hread _ _).mp hparse, (hswap " c1 ".toList " $A$3 ".toList r).mp hparse,
    hcolons, hnamed.symm, hfirst, hlast, hprinted r hfirst hlast, hagain _ _ hparse⟩

end Range

end TableBook
