import TableBook.Calendar.Format
import TableBook.Cell.Reading
import TableBook.Csv
import TableBook.Proofs.SerialRounding

namespace TableBook

namespace Text

variable {width n : Nat}

theorem padDigits_eq (width n : Nat) :
    padDigits width n = List.replicate (width - (Nat.toDigits 10 n).length) '0' ++
      Nat.toDigits 10 n := by
  simp only [padDigits, Nat.toString_eq_ofList_toDigits, String.toList_ofList]

theorem length_padDigits (hwidth : 0 < width) (h : n < 10 ^ width) :
    (padDigits width n).length = width := by
  have hlength := (Nat.length_toDigits_le_iff (by decide) hwidth).mpr h
  rw [padDigits_eq, List.length_append, List.length_replicate]
  omega

theorem isDigit_of_mem_padDigits {c : Char} (h : c ∈ padDigits width n) : c.isDigit = true := by
  rw [padDigits_eq, List.mem_append] at h
  rcases h with hzero | hdigit
  · rw [List.eq_of_mem_replicate hzero]
    rfl
  · exact Nat.isDigit_of_mem_toDigits (by decide) (by decide) hdigit

theorem natOfDigits_padDigits (width n : Nat) : natOfDigits (padDigits width n) = n := by
  change Nat.ofDigitChars 10 (padDigits width n) 0 = n
  rw [padDigits_eq, Nat.ofDigitChars_append, Nat.ofDigitChars_replicate_zero, Nat.mul_zero,
    Nat.ofDigitChars_ten_toDigits]

theorem padDigits_ne_nil (width n : Nat) : padDigits width n ≠ [] := by
  rw [padDigits_eq]
  exact List.append_ne_nil_of_right_ne_nil _ Nat.toDigits_ne_nil

theorem isBlank_of_isDigit {c : Char} (h : c.isDigit = true) : isBlank c = false :=
  isBlank_of_between (between_of_isDigit h) (by decide) (by decide)

theorem isDigit_of_padDigits_append {c : Char} {cs rest : List Char}
    (h : padDigits width n ++ rest = c :: cs) : c.isDigit = true := by
  suffices hmem : c ∈ padDigits width n from isDigit_of_mem_padDigits hmem
  cases hdigits : padDigits width n with
  | nil => exact absurd hdigits (padDigits_ne_nil width n)
  | cons d ds =>
      rw [hdigits, List.cons_append] at h
      rw [(List.cons.inj h).1]
      exact List.mem_cons_self

/-- Digits are not passed over as blanks are. -/
theorem dropWhile_isBlank_padDigits (width n : Nat) (rest : List Char) :
    (padDigits width n ++ rest).dropWhile isBlank = padDigits width n ++ rest := by
  cases hcs : padDigits width n ++ rest with
  | nil => rfl
  | cons c cs =>
      rw [List.dropWhile_cons, isBlank_of_isDigit (isDigit_of_padDigits_append hcs)]
      rfl

end Text

namespace Calendar

open Text

section Reading

variable {n least greatest : Nat} {rest : List Char}

theorem number_padDigits {width : Nat} (hwidth : 0 < width) (h : n < 10 ^ width)
    (rest : List Char) : number width (padDigits width n ++ rest) = some (n, rest) := by
  have hlength := length_padDigits hwidth h
  have htake : (padDigits width n ++ rest).take width = padDigits width n :=
    List.take_left' hlength
  have hdigits : (padDigits width n).takeWhile Char.isDigit = padDigits width n :=
    List.takeWhile_eq_self_iff.mpr fun _ => isDigit_of_mem_padDigits
  have hne : (padDigits width n).isEmpty = false :=
    List.isEmpty_eq_false_iff.mpr (padDigits_ne_nil width n)
  simp only [number]
  rw [htake, hdigits, hne, natOfDigits_padDigits, List.drop_left]
  rfl

theorem field_padDigits (h : least ≤ n ∧ n ≤ greatest) (hgreatest : greatest < 100)
    (rest : List Char) : field least greatest (padDigits 2 n ++ rest) = some (n, rest) := by
  have hn : n < 10 ^ 2 := Nat.lt_of_le_of_lt h.2 hgreatest
  rw [field, dropWhile_isBlank_padDigits, number_padDigits (by decide) hn, Option.filter_some]
  simp [h]

theorem year_padDigits (h : n < 10000) (rest : List Char) :
    year (padDigits 4 n ++ rest) = some ((n : Int), rest) := by
  have hnumber := number_padDigits (by decide : 0 < 4) h rest
  rw [year, dropWhile_isBlank_padDigits]
  split
  · next hsign => exact absurd (isDigit_of_padDigits_append hsign) (by decide)
  · next hsign => exact absurd (isDigit_of_padDigits_append hsign) (by decide)
  · rw [hnumber]
    rfl

theorem sign_cons (c : Char) (cs : List Char) : sign c (c :: cs) = some cs := if_pos rfl

end Reading

section Moment

variable {d : Date} {second : Nat}

/-- Year, month and day with dashes between them. -/
def dayText (d : Date) : List Char :=
  padDigits 4 d.year.toNat ++ '-' :: (padDigits 2 d.month ++ '-' :: padDigits 2 d.day)

/-- Hour, minute and second of a time of day with colons between them. -/
def clockText (second : Nat) : List Char :=
  padDigits 2 (second / 3600) ++
    ':' :: (padDigits 2 (second / 60 % 60) ++ ':' :: padDigits 2 (second % 60))

/-- A date, and the time of day unless it is midnight. -/
def momentText (d : Date) (second : Nat) : List Char :=
  if second = 0 then dayText d else dayText d ++ ' ' :: clockText second

example : String.ofList (momentText ⟨1900, 1, 1⟩ 0) = "1900-01-01" := by decide

example : String.ofList (momentText ⟨9999, 12, 31⟩ 3661) = "9999-12-31 01:01:01" := by decide

/-- A date whose year has four digits and no sign. -/
structure Plain (d : Date) : Prop where
  valid : d.isValid = true
  year_nonneg : 0 ≤ d.year
  year_le : d.year ≤ 9999

theorem dayText_append (d : Date) (rest : List Char) :
    dayText d ++ rest = padDigits 4 d.year.toNat ++
      '-' :: (padDigits 2 d.month ++ '-' :: (padDigits 2 d.day ++ rest)) := by
  simp [dayText]

namespace Plain

theorem month_bounds (h : Plain d) : 1 ≤ d.month ∧ d.month ≤ 12 :=
  have hcalendar := Date.inCalendar_of_isValid h.valid
  ⟨hcalendar.month_pos, hcalendar.month_le⟩

theorem day_bounds (h : Plain d) : 1 ≤ d.day ∧ d.day ≤ 31 := by
  have hcalendar := Date.inCalendar_of_isValid h.valid
  exact ⟨hcalendar.day_pos, hcalendar.day_le_31⟩

theorem year_toNat (h : Plain d) : (d.year.toNat : Int) = d.year ∧ d.year.toNat < 10000 := by
  have hnonneg := h.year_nonneg
  have hle := h.year_le
  omega

theorem date_dayText (h : Plain d) (rest : List Char) :
    date '-' (dayText d ++ rest) = some (d, rest) := by
  obtain ⟨hyear, hlt⟩ := h.year_toNat
  rw [date, dayText_append, year_padDigits hlt]
  simp only [bind, Option.bind, sign_cons, field_padDigits h.month_bounds (by decide),
    field_padDigits h.day_bounds (by decide)]
  rw [hyear, if_pos h.valid]

theorem date_dayText_of_ne (h : Plain d) {separator : Char} (hne : '-' ≠ separator)
    (rest : List Char) : date separator (dayText d ++ rest) = none := by
  rw [date, dayText_append, year_padDigits h.year_toNat.2]
  simp only [bind, Option.bind, sign, if_neg hne]

end Plain

theorem hourMinute_padDigits {hour minute : Nat} (hhour : hour < 24) (hminute : minute < 60)
    (rest : List Char) :
    hourMinute (padDigits 2 hour ++ ':' :: (padDigits 2 minute ++ rest)) =
      some ((hour, minute), rest) := by
  have hhour : 0 ≤ hour ∧ hour ≤ 23 := by omega
  have hminute : 0 ≤ minute ∧ minute ≤ 59 := by omega
  simp only [hourMinute, bind, Option.bind, sign_cons, field_padDigits hhour (by decide),
    field_padDigits hminute (by decide)]

theorem withSeconds_clockText (h : Plain d) (hsecond : second < DateTime.secondsInDay) :
    withSeconds ' ' (dayText d ++ ' ' :: clockText second) = some (⟨d, second, 0⟩, []) := by
  have hhour : second / 3600 < 24 := Nat.div_lt_of_lt_mul hsecond
  have hlast : 0 ≤ second % 60 ∧ second % 60 ≤ 60 := by omega
  have hmark : afterMark ' ' (' ' :: clockText second) = some (clockText second) := by
    have hblank : (' ' :: clockText second).dropWhile isBlank = clockText second := by
      rw [List.dropWhile_cons_of_pos (by decide), clockText, dropWhile_isBlank_padDigits]
    rw [afterMark, if_pos rfl, hblank]
  have hclock := hourMinute_padDigits hhour (Nat.mod_lt (second / 60) (by decide : 0 < 60))
    (':' :: padDigits 2 (second % 60))
  have hseconds := field_padDigits hlast (by decide) []
  rw [List.append_nil] at hseconds
  simp only [withSeconds, h.date_dayText, bind, Option.bind, hmark]
  rw [clockText, hclock]
  simp only [sign_cons, hseconds, fraction, clock]
  rw [if_neg (by omega)]
  have hsum : second / 3600 * 3600 + second / 60 % 60 * 60 + second % 60 = second := by omega
  rw [hsum]

/-- What is written of a moment of whole seconds is read as this moment. -/
theorem read_momentText (h : Plain d) (hsecond : second < DateTime.secondsInDay) :
    read (momentText d second) = some ⟨d, second, 0⟩ := by
  rw [momentText]
  split
  · next hzero =>
      have hday := h.date_dayText []
      rw [List.append_nil] at hday
      rw [hzero, read, hday]
      rfl
  · rw [read, h.date_dayText, h.date_dayText_of_ne (by decide),
      withSeconds_clockText h hsecond]
    rfl

section Writing

theorem Plain.yearText_eq (h : Plain d) : yearText d.year = padDigits 4 d.year.toNat := by
  have hnonneg := h.year_nonneg
  have hle := h.year_le
  have habs : d.year.natAbs = d.year.toNat := by omega
  simp only [yearText]
  rw [if_neg (by omega), if_neg (by omega), habs]

theorem Plain.format?_day (h : Plain d) (second : Nat) :
    format? ⟨d, second, 0⟩ "%Y-%m-%d".toList = some (dayText d) := by
  simp [format?, partText?, h.yearText_eq, dayText]

theorem Plain.format?_moment (h : Plain d) (second : Nat) :
    format? ⟨d, second, 0⟩ "%Y-%m-%d %H:%M:%S".toList =
      some (dayText d ++ ' ' :: clockText second) := by
  simp [format?, partText?, h.yearText_eq, dayText, clockText, DateTime.hour, DateTime.minute,
    DateTime.clockSecond]

end Writing

section Characters

theorem mem_dayText {c : Char} (h : c ∈ dayText d) : c.isDigit = true ∨ c = '-' := by
  simp only [dayText, List.mem_append, List.mem_cons] at h
  rcases h with hyear | rfl | hmonth | rfl | hday
  · exact .inl (isDigit_of_mem_padDigits hyear)
  · exact .inr rfl
  · exact .inl (isDigit_of_mem_padDigits hmonth)
  · exact .inr rfl
  · exact .inl (isDigit_of_mem_padDigits hday)

theorem mem_clockText {c : Char} (h : c ∈ clockText second) : c.isDigit = true ∨ c = ':' := by
  simp only [clockText, List.mem_append, List.mem_cons] at h
  rcases h with hhour | rfl | hminute | rfl | hlast
  · exact .inl (isDigit_of_mem_padDigits hhour)
  · exact .inr rfl
  · exact .inl (isDigit_of_mem_padDigits hminute)
  · exact .inr rfl
  · exact .inl (isDigit_of_mem_padDigits hlast)

theorem mem_momentText {c : Char} (h : c ∈ momentText d second) :
    c.isDigit = true ∨ c ∈ ['-', ':', ' '] := by
  rw [momentText] at h
  split at h
  · rcases mem_dayText h with hdigit | rfl
    · exact .inl hdigit
    · exact .inr (by decide)
  · rcases List.mem_append.mp h with hday | hclock
    · rcases mem_dayText hday with hdigit | rfl
      · exact .inl hdigit
      · exact .inr (by decide)
    · rcases List.mem_cons.mp hclock with rfl | hclock
      · exact .inr (by decide)
      · rcases mem_clockText hclock with hdigit | rfl
        · exact .inl hdigit
        · exact .inr (by decide)

/-- It begins with the day and ends in two digits. -/
theorem momentText_ends (d : Date) (second : Nat) :
    (∃ rest, momentText d second = dayText d ++ rest) ∧
      ∃ front n, momentText d second = front ++ padDigits 2 n := by
  rw [momentText]
  split
  · refine ⟨⟨[], (List.append_nil _).symm⟩,
      ⟨padDigits 4 d.year.toNat ++ '-' :: (padDigits 2 d.month ++ ['-']), d.day, ?_⟩⟩
    simp [dayText]
  · refine ⟨⟨_, rfl⟩, ⟨dayText d ++ ' ' :: (padDigits 2 (second / 3600) ++
      ':' :: (padDigits 2 (second / 60 % 60) ++ [':'])), second % 60, ?_⟩⟩
    simp [clockText]

theorem momentText_ne_nil (d : Date) (second : Nat) : momentText d second ≠ [] := by
  obtain ⟨-, front, n, hfront⟩ := momentText_ends d second
  rw [hfront]
  exact List.append_ne_nil_of_right_ne_nil _ (padDigits_ne_nil 2 n)

end Characters

end Moment

end Calendar

end TableBook
