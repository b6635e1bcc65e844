import Mathlib.Algebra.Order.Field.Rat
import Mathlib.Data.Rat.Floor
import Mathlib.Tactic.Linarith
import TableBook.Calendar.Serial
import TableBook.Proofs.DayNumber

namespace TableBook

/-- A moment on a day that is kept, other than in a leap second. -/
structure DateTime.Regular (t : DateTime) : Prop where
  date : t.date.isValid = true
  second : t.second < secondsInDay
  nano : t.nano < 1000000000

def DateTime.Before (t u : DateTime) : Prop :=
  t.date.Before u.date ∨
    t.date = u.date ∧ (t.second < u.second ∨ t.second = u.second ∧ t.nano < u.nano)

namespace Serial

section Days

variable {d e : Date}

/-- The whole days of the serials of a date. -/
def dayOf (d : Date) : Int := d.dayNumber - (startOf d).dayNumber

theorem earlyStart_dayNumber : earlyStart.dayNumber = march1900.dayNumber - 60 := by decide

theorem lateStart_dayNumber : lateStart.dayNumber = march1900.dayNumber - 61 := by decide

theorem start_lt_dayNumber_iff (hd : d.InCalendar) :
    earlyStart.dayNumber < d.dayNumber ↔ 1900 ≤ d.year := by
  have hfirst : (Date.mk 1900 1 1).InCalendar := by constructor <;> decide
  have hlast : earlyStart.InCalendar := by constructor <;> decide
  constructor
  · intro h
    by_contra hyear
    have hbefore : d.Before ⟨1900, 1, 1⟩ := .inl (Int.not_le.mp hyear)
    have hlt := hbefore.dayNumber_lt hd hfirst
    have hnext : (Date.mk 1900 1 1).dayNumber = earlyStart.dayNumber + 1 := by decide
    omega
  · intro hyear
    have hbefore : earlyStart.Before d := .inl (Int.lt_of_lt_of_le (by decide) hyear)
    exact hbefore.dayNumber_lt hlast hd

/-- No day has the whole number 60. -/
theorem startFor_dayOf (hd : d.InCalendar) (hyear : 1900 ≤ d.year) :
    1 ≤ dayOf d ∧ dayOf d ≠ 60 ∧ startFor (dayOf d).toNat = startOf d := by
  have hstart := (start_lt_dayNumber_iff hd).mpr hyear
  have hearly := earlyStart_dayNumber
  have hlate := lateStart_dayNumber
  rw [dayOf, startOf, startFor]
  split
  · refine ⟨by omega, by omega, if_neg (by omega)⟩
  · refine ⟨by omega, by omega, if_pos (by omega)⟩

theorem start_lt_startFor_add {n : Nat} (hn : 1 ≤ n) :
    earlyStart.dayNumber < (startFor n).dayNumber + n := by
  have hearly := earlyStart_dayNumber
  have hlate := lateStart_dayNumber
  rw [startFor]
  split <;> omega

theorem dayOf_eq_of_startFor {n : Nat} (hn : n ≠ 60)
    (h : d.dayNumber = (startFor n).dayNumber + n) : dayOf d = n := by
  have hearly := earlyStart_dayNumber
  have hlate := lateStart_dayNumber
  rw [dayOf, startOf]
  rw [startFor] at h
  split at h <;> split <;> omega

theorem dayOf_lt_dayOf (hd : d.InCalendar) (he : e.InCalendar) (h : d.Before e) :
    dayOf d < dayOf e := by
  have hlt := h.dayNumber_lt hd he
  have hearly := earlyStart_dayNumber
  have hlate := lateStart_dayNumber
  simp only [dayOf, startOf]
  split <;> split <;> omega

/-- The calendar ends long before the days are too many to be counted. -/
theorem dayOf_le_longestSpan (hd : d.isValid = true) : (dayOf d).toNat ≤ longestSpan := by
  obtain ⟨-, hyear, hcalendar⟩ := Date.isValid_iff.mp hd
  have hend : d.dayNumber < Date.marchStart (Date.maxYear + 1) := by
    have hday := hcalendar.marchStart_add_day_le
    have hmarch : d.marchYear < Date.maxYear + 1 := by
      rw [Date.marchYear]
      split <;> omega
    have hnext := Date.marchStart_succ_le hmarch
    rw [Date.dayNumber_eq]
    omega
  have hlong : Date.marchStart (Date.maxYear + 1) - lateStart.dayNumber ≤ longestSpan := by decide
  have hearly := earlyStart_dayNumber
  have hlate := lateStart_dayNumber
  rw [dayOf, startOf]
  split <;> omega

end Days

section Exact

variable {t u : DateTime}

/-- The part of the day that is over. -/
def partOf (t : DateTime) : Rat := (t.second + t.nano / 1000000000) / DateTime.secondsInDay

theorem partOf_nonneg (t : DateTime) : 0 ≤ partOf t := by
  rw [partOf]
  positivity

theorem nano_lt_second (h : t.Regular) : (t.nano : Rat) / 1000000000 < 1 := by
  rw [div_lt_one (by decide)]
  exact_mod_cast h.nano

theorem partOf_lt_one (h : t.Regular) : partOf t < 1 := by
  have hsecond : (t.second : Rat) + 1 ≤ DateTime.secondsInDay := by exact_mod_cast h.second
  have hday : (0 : Rat) < DateTime.secondsInDay := by decide
  have hnano := nano_lt_second h
  rw [partOf, div_lt_one hday]
  linarith

theorem partOf_lt_partOf (ht : t.Regular)
    (h : t.second < u.second ∨ t.second = u.second ∧ t.nano < u.nano) : partOf t < partOf u := by
  have hday : (0 : Rat) < DateTime.secondsInDay := by decide
  rw [partOf, partOf, div_lt_div_iff_of_pos_right hday]
  rcases h with hsecond | ⟨hsecond, hnano⟩
  · have hwhole : (t.second : Rat) + 1 ≤ u.second := by exact_mod_cast hsecond
    have hnano := nano_lt_second ht
    have hnonneg : 0 ≤ (u.nano : Rat) / 1000000000 := by positivity
    linarith
  · have hlt : (t.nano : Rat) < u.nano := by exact_mod_cast hnano
    rw [hsecond, add_lt_add_iff_left]
    exact div_lt_div_of_pos_right hlt (by decide)

theorem encodeWith_id (h : 1900 ≤ t.date.year) :
    encodeWith id t = some (dayOf t.date + partOf t) := by
  rw [encodeWith, if_neg (Int.not_lt.mpr h)]
  rfl

theorem floor_eq {x : Rat} {n : Nat} (hle : n ≤ x) (hlt : x < n + 1) : x.floor.toNat = n := by
  have hfloor : ⌊x⌋ = n := Int.floor_eq_iff.mpr ⟨by exact_mod_cast hle, by exact_mod_cast hlt⟩
  change ⌊x⌋.toNat = n
  rw [hfloor, Int.toNat_natCast]

/-- Whole seconds are found again. -/
theorem after?_startOf (hdate : t.date.isValid = true) (hyear : 1900 ≤ t.date.year)
    (hsecond : t.second < DateTime.secondsInDay) :
    DateTime.after? (startFor (dayOf t.date).toNat) (dayOf t.date).toNat t.second =
      some ⟨t.date, t.second, 0⟩ := by
  have hcalendar := Date.inCalendar_of_isValid hdate
  obtain ⟨hpos, -, hstart⟩ := startFor_dayOf hcalendar hyear
  have hreached : (startOf t.date).dayNumber + (dayOf t.date).toNat = t.date.dayNumber := by
    rw [Int.toNat_of_nonneg (by omega), dayOf]
    omega
  have hsame : (t.second : Int) / DateTime.secondsInDay = 0 := by
    exact_mod_cast Nat.div_eq_of_lt hsecond
  rw [DateTime.after?, hstart, hreached, hsame, Nat.mod_eq_of_lt hsecond, Int.add_zero,
    Date.ofDayNumber_dayNumber hcalendar, hdate]
  rfl

theorem decodeWith_id (hdate : t.date.isValid = true) (hyear : 1900 ≤ t.date.year)
    (hsecond : t.second < DateTime.secondsInDay) :
    decodeWith id ((dayOf t.date).toNat + (t.second : Rat) / DateTime.secondsInDay) =
      .moment ⟨t.date, t.second, 0⟩ := by
  have hday : (0 : Rat) < DateTime.secondsInDay := by decide
  have hlt : (t.second : Rat) < DateTime.secondsInDay := by exact_mod_cast hsecond
  have hpart : 0 ≤ (t.second : Rat) / DateTime.secondsInDay := by positivity
  have hone : (t.second : Rat) / DateTime.secondsInDay < 1 := by rwa [div_lt_one hday]
  have hdays (n : Nat) : ((n : Rat) + t.second / DateTime.secondsInDay).floor.toNat = n :=
    floor_eq (by linarith) (by linarith)
  have hseconds : ((t.second : Rat) + 1 / 2).floor.toNat = t.second :=
    floor_eq (by linarith) (by linarith)
  have hnonneg (n : Nat) : ¬(n : Rat) + t.second / DateTime.secondsInDay < 0 := by
    have hn : (0 : Rat) ≤ n := by positivity
    linarith
  have hspan : ¬longestSpan < (dayOf t.date).toNat :=
    Nat.not_lt.mpr (dayOf_le_longestSpan hdate)
  rw [decodeWith, if_neg (hnonneg _)]
  simp only [hdays, id, add_sub_cancel_left, div_mul_cancel₀ _ (ne_of_gt hday), hseconds,
    if_neg hspan, after?_startOf hdate hyear hsecond]

end Exact

/-- Without rounding, a moment of whole seconds is read back from its serial; a
later moment has a greater serial; and the day that a whole number other than 60
stands for has that number. -/
theorem exact_laws :
    (∀ t : DateTime, t.Regular → 1900 ≤ t.date.year → t.nano = 0 →
      ∃ x, encodeWith id t = some x ∧ decodeWith id x = .moment t) ∧
    (∀ t u : DateTime, t.Regular → u.Regular → 1900 ≤ t.date.year → 1900 ≤ u.date.year →
      t.Before u → ∃ x y, encodeWith id t = some x ∧ encodeWith id u = some y ∧ x < y) ∧
    ∀ (n : Nat) (d : Date), 1 ≤ n → n ≠ 60 → d.isValid = true →
      d.dayNumber = (startFor n).dayNumber + n →
        decodeWith id n = .moment ⟨d, 0, 0⟩ ∧ encodeWith id ⟨d, 0, 0⟩ = some (n : Rat) := by
  have hwhole (d : Date) (hdate : d.isValid = true) (hyear : 1900 ≤ d.year) :
      (dayOf d : Rat) = (dayOf d).toNat := by
    have hpos := (startFor_dayOf (Date.inCalendar_of_isValid hdate) hyear).1
    rw [← Int.cast_natCast, Int.toNat_of_nonneg (by omega)]
  refine ⟨?_, ?_, ?_⟩
  · rintro ⟨date, second, nano⟩ ht hyear rfl
    refine ⟨_, encodeWith_id hyear, ?_⟩
    rw [hwhole date ht.date hyear, partOf, Nat.cast_zero, zero_div, add_zero]
    exact decodeWith_id (t := ⟨date, second, 0⟩) ht.date hyear ht.second
  · intro t u ht hu hyear hyear' hbefore
    refine ⟨_, _, encodeWith_id hyear, encodeWith_id hyear', ?_⟩
    rcases hbefore with hdate | ⟨hdate, htime⟩
    · have hdays : (dayOf t.date : Rat) + 1 ≤ dayOf u.date := by
        exact_mod_cast dayOf_lt_dayOf (Date.inCalendar_of_isValid ht.date)
          (Date.inCalendar_of_isValid hu.date) hdate
      have hpart := partOf_lt_one ht
      have hnonneg := partOf_nonneg u
      linarith
    · have hpart := partOf_lt_partOf ht htime
      rw [hdate]
      linarith
  · intro n d hpos hn hdate hnumber
    have hday : dayOf d = n := dayOf_eq_of_startFor hn hnumber
    have hyear : 1900 ≤ d.year := by
      rw [← start_lt_dayNumber_iff (Date.inCalendar_of_isValid hdate), hnumber]
      exact start_lt_startFor_add hpos
    have hpart : partOf ⟨d, 0, 0⟩ = 0 := by simp [partOf]
    constructor
    · have hfirst : 0 < DateTime.secondsInDay := by decide
      have hread := decodeWith_id (t := ⟨d, 0, 0⟩) hdate hyear hfirst
      rw [hday, Int.toNat_natCast, Nat.cast_zero, zero_div, add_zero] at hread
      exact hread
    · rw [encodeWith_id hyear, hpart, hday, add_zero, Int.cast_natCast]

/-- The two sides of the missing day, and a noon. -/
theorem exact_laws_at_61 :
    (∃ x, encodeWith id ⟨⟨2024, 1, 15⟩, 43200, 0⟩ = some x ∧
      decodeWith id x = .moment ⟨⟨2024, 1, 15⟩, 43200, 0⟩) ∧
    (∃ x y, encodeWith id ⟨⟨1900, 2, 28⟩, 86399, 0⟩ = some x ∧
      encodeWith id ⟨⟨1900, 3, 1⟩, 0, 0⟩ = some y ∧ x < y) ∧
    decodeWith id 61 = .moment ⟨⟨1900, 3, 1⟩, 0, 0⟩ ∧
    encodeWith id ⟨⟨1900, 3, 1⟩, 0, 0⟩ = some 61 := by
  obtain ⟨hread, hless, hnumber⟩ := exact_laws
  refine ⟨?_, ?_, hnumber 61 ⟨1900, 3, 1⟩ (by decide) (by decide) (by decide) (by decide)⟩
  · exact hread ⟨⟨2024, 1, 15⟩, 43200, 0⟩ ⟨by decide, by decide, by decide⟩ (by decide) rfl
  · exact hless ⟨⟨1900, 2, 28⟩, 86399, 0⟩ ⟨⟨1900, 3, 1⟩, 0, 0⟩ ⟨by decide, by decide, by decide⟩
      ⟨by decide, by decide, by decide⟩ (by decide) (by decide)
      (.inl (.inr ⟨rfl, .inl (by decide)⟩))

section Span

variable {x : Binary64} {value : Rat} {t : DateTime} {round : Rat → Rat}

theorem regular_of_after? {start : Date} {days seconds : Nat}
    (h : DateTime.after? start days seconds = some t) : t.Regular := by
  rw [DateTime.after?] at h
  split at h
  · next hvalid =>
      cases h
      rw [Bool.and_eq_true] at hvalid
      exact ⟨hvalid.2, Nat.mod_lt _ (by decide), Nat.succ_pos _⟩
  · cases h

theorem regular_of_decodeWith (h : decodeWith round value = .moment t) : t.Regular := by
  simp only [decodeWith] at h
  split at h
  · cases h
  split at h
  · cases h
  split at h
  · next found =>
      cases h
      exact regular_of_after? found
  · cases h

theorem decodeWith_ne_spanTooLong (h : value < longestSpan + 1) :
    decodeWith round value ≠ .spanTooLong := by
  simp only [decodeWith]
  split
  · nofun
  have hspan : ¬longestSpan < value.floor.toNat := by
    have hfloor : ⌊value⌋ < longestSpan + 1 := Int.floor_lt.mpr (by exact_mod_cast h)
    change ¬longestSpan < ⌊value⌋.toNat
    omega
  rw [if_neg hspan]
  split <;> nofun

/-- A magnitude is less than the power of two that its block of ranks ends at. -/
theorem unitsOfRank_le (rank : Nat) :
    Binary64.unitsOfRank rank ≤
      2 * Nat.pow 2 52 * Nat.pow 2 (rank / Nat.pow 2 52 - 1) := by
  have hblock : 0 < Nat.pow 2 52 := Nat.two_pow_pos 52
  simp only [Binary64.unitsOfRank]
  generalize Nat.pow 2 52 = block at *
  have hpow : 0 < Nat.pow 2 (rank / block - 1) := Nat.two_pow_pos _
  split
  · next hlt => exact Nat.le_trans (Nat.le_of_lt hlt) (Nat.le_mul_of_pos_right _ hpow)
  · have hmod : rank % block < block := Nat.mod_lt _ hblock
    exact Nat.mul_le_mul_right _ (by omega)

theorem unitsOfRank_lt {rank : Nat} (h : rank < 1050 * Nat.pow 2 52) :
    Binary64.unitsOfRank rank < (longestSpan + 1) * Binary64.one := by
  have hblock : rank / Nat.pow 2 52 - 1 ≤ 1048 := by
    have hlt := Nat.div_lt_of_lt_mul (Nat.mul_comm _ _ ▸ h)
    omega
  obtain ⟨doublings, hle, hbound⟩ : ∃ doublings, rank / Nat.pow 2 52 - 1 ≤ doublings ∧
      2 * Nat.pow 2 52 * Nat.pow 2 doublings < (longestSpan + 1) * Binary64.one :=
    ⟨1048, hblock, by decide +kernel⟩
  have hpow : Nat.pow 2 (rank / Nat.pow 2 52 - 1) ≤ Nat.pow 2 doublings :=
    Nat.pow_le_pow_right (by decide) hle
  exact ((unitsOfRank_le rank).trans (Nat.mul_le_mul_left _ hpow)).trans_lt hbound

theorem toRat?_lt (h : (Binary64.ofInt 100000000).atMost x = false)
    (hvalue : x.toRat? = some value) : value < longestSpan + 1 := by
  have hone : (0 : Rat) < Binary64.one := Nat.cast_pos.mpr (by decide +kernel)
  rcases x with _ | _ | ⟨negative, rank⟩
  · cases hvalue
  · cases hvalue
  · obtain rfl := Option.some.inj hvalue
    cases negative with
    | true =>
        have hmagnitude : 0 ≤ (Binary64.unitsOfRank rank : Rat) / Binary64.one :=
          div_nonneg (Nat.cast_nonneg _) hone.le
        have hspan : (0 : Rat) ≤ longestSpan := Nat.cast_nonneg _
        dsimp only
        rw [if_pos rfl]
        linarith
    | false =>
        have hposition : (Binary64.ofInt 100000000).position < (1050 * Nat.pow 2 52 : Nat) := by
          decide +kernel
        have hnumber : (Binary64.ofInt 100000000).isNan = false := by decide +kernel
        have hbelow : (rank.val : Int) < (Binary64.ofInt 100000000).position := by
          rw [Binary64.atMost, hnumber] at h
          simpa [Binary64.isNan, Binary64.position] using h
        have hrank : rank.val < 1050 * Nat.pow 2 52 := by omega
        have hunits :
            (Binary64.unitsOfRank rank : Rat) < ((longestSpan + 1) * Binary64.one : Nat) :=
          Nat.cast_lt.mpr (unitsOfRank_lt hrank)
        rw [Nat.cast_mul, Nat.cast_add, Nat.cast_one] at hunits
        exact (div_lt_iff₀ hone).mpr hunits

theorem decode_ne_spanTooLong (h : (Binary64.ofInt 100000000).atMost x = false) :
    decode x ≠ .spanTooLong := by
  rw [decode]
  split
  · next hvalue => exact decodeWith_ne_spanTooLong (toRat?_lt h hvalue)
  · nofun

theorem regular_of_decode (h : decode x = .moment t) : t.Regular := by
  rw [decode] at h
  split at h
  · exact regular_of_decodeWith h
  · cases h

end Span

end Serial

end TableBook
