import TableBook.Proofs.SerialRounding

/-!
How far serials reach. Up to half a second before the end of the last day that is kept they
have a moment, after it they have none, and from the span on that is too long they are not
even counted. Where the calendar ends, the numbers of 64 bits are 2^-26 of a day apart, and
the arithmetic on the part of a day is exact.
-/

namespace TableBook

namespace Date

variable {d e : Date} {n : Int}

def firstKept : Date := ⟨minYear, 1, 1⟩

def lastKept : Date := ⟨maxYear, 12, 31⟩

theorem dayNumber_le_iff (hd : d.InCalendar) (he : e.InCalendar) :
    d.dayNumber ≤ e.dayNumber ↔ ¬e.Before d := by
  constructor
  · intro hle hbefore
    have hlt := hbefore.dayNumber_lt he hd
    omega
  · intro hnot
    rcases before_trichotomy d e with hbefore | rfl | hbefore
    · exact (hbefore.dayNumber_lt hd he).le
    · exact le_rfl
    · exact absurd hbefore hnot

/-- The days that are kept are those between the first and the last one. -/
theorem InCalendar.isValid_iff (h : d.InCalendar) :
    d.isValid = true ↔
      firstKept.dayNumber ≤ d.dayNumber ∧ d.dayNumber ≤ lastKept.dayNumber := by
  have hfirst : firstKept.InCalendar := by constructor <;> decide
  have hlast : lastKept.InCalendar := by constructor <;> decide
  have hmonth := h.month_pos
  have hmonth' := h.month_le
  have hday := h.day_pos
  have hday' := h.day_le_31
  rw [Date.isValid_iff, dayNumber_le_iff hfirst h, dayNumber_le_iff h hlast]
  simp only [Before, firstKept, lastKept, h, and_true]
  omega

theorem isValid_ofDayNumber_iff :
    (ofDayNumber n).isValid = true ↔ firstKept.dayNumber ≤ n ∧ n ≤ lastKept.dayNumber := by
  rw [(inCalendar_ofDayNumber n).isValid_iff, dayNumber_ofDayNumber]

end Date

namespace Binary64

section Exact

variable {num den scale : Nat}

theorem roundEven_mul_mul (h : 0 < scale) :
    roundEven (num * scale) (den * scale) = roundEven num den := by
  have hcompare (a b : Nat) : a * scale < b * scale ↔ a < b := Nat.mul_lt_mul_right h
  simp only [roundEven, Nat.mul_div_mul_right _ _ h, Nat.mul_mod_mul_right, ← Nat.mul_assoc,
    hcompare]

theorem nearestUnits_mul_mul (h : 0 < scale) :
    nearestUnits (num * scale) (den * scale) = nearestUnits num den := by
  have hbits : spacingBits (num * scale) (den * scale) = spacingBits num den := by
    rw [spacingBits, spacingBits, Nat.mul_div_mul_right _ _ h]
  simp only [nearestUnits, hbits, Nat.mul_right_comm den scale, roundEven_mul_mul h]

theorem nearest_nonneg {x : Rat} (h : 0 ≤ x) : 0 ≤ nearest x := by
  rw [nearest_of_nonneg h]
  exact div_nonneg (Nat.cast_nonneg _) one_pos.le

theorem exists_one_eq {bits : Nat} (h : bits ≤ 1074) :
    ∃ rest, one = Nat.pow 2 rest * Nat.pow 2 bits := by
  unfold one
  generalize 1074 = limit at *
  refine ⟨limit - bits, ?_⟩
  rw [Nat.pow_eq, Nat.pow_eq, Nat.pow_eq, ← Nat.pow_add, Nat.sub_add_cancel h]

/-- A fraction of at most 53 bits over a power of two is its own nearest number. -/
theorem nearest_div_pow {n bits : Nat} (hn : n < 2 ^ 53) (hbits : bits ≤ 1074) :
    nearest (n / 2 ^ bits) = n / 2 ^ bits := by
  have hpow : 0 < Nat.pow 2 bits := Nat.two_pow_pos bits
  obtain ⟨x, hx⟩ : ∃ x : Rat, x = n / 2 ^ bits := ⟨_, rfl⟩
  have hnonneg : 0 ≤ x := by
    rw [hx]
    positivity
  have hcross : x.num.natAbs * Nat.pow 2 bits = n * x.den := by
    have hden : (x.den : Rat) ≠ 0 := Nat.cast_ne_zero.mpr x.den_pos.ne'
    have hratio : (x.num.natAbs : Rat) / x.den = n / 2 ^ bits :=
      (eq_natAbs_div hnonneg).symm.trans hx
    rw [div_eq_div_iff hden (by positivity)] at hratio
    exact_mod_cast hratio
  obtain ⟨rest, hone⟩ := exists_one_eq hbits
  have hunits : nearestUnits (x.num.natAbs * one) x.den = n * Nat.pow 2 rest := by
    have hscale : x.num.natAbs * one * Nat.pow 2 bits =
        n * Nat.pow 2 rest * (x.den * Nat.pow 2 bits) := by
      calc x.num.natAbs * one * Nat.pow 2 bits
        _ = x.num.natAbs * Nat.pow 2 bits * one := Nat.mul_right_comm ..
        _ = n * x.den * (Nat.pow 2 rest * Nat.pow 2 bits) := by rw [hcross, hone]
        _ = n * Nat.pow 2 rest * (x.den * Nat.pow 2 bits) := Nat.mul_mul_mul_comm ..
    calc nearestUnits (x.num.natAbs * one) x.den
      _ = nearestUnits (x.num.natAbs * one * Nat.pow 2 bits) (x.den * Nat.pow 2 bits) :=
        (nearestUnits_mul_mul hpow).symm
      _ = nearestUnits (n * Nat.pow 2 rest * (x.den * Nat.pow 2 bits))
          (1 * (x.den * Nat.pow 2 bits)) := by rw [hscale, Nat.one_mul]
      _ = nearestUnits (n * Nat.pow 2 rest) 1 := nearestUnits_mul_mul (Nat.mul_pos x.den_pos hpow)
      _ = n * Nat.pow 2 rest := nearestUnits_mul_pow hn rest
  rw [← hx, nearest_of_nonneg hnonneg, hunits, hone, hx, Nat.pow_eq, Nat.pow_eq]
  push_cast
  rw [mul_comm (n : Rat), mul_div_mul_left _ _ (pow_ne_zero _ two_ne_zero)]

/-- A magnitude is a whole number of at most 53 bits, doubled some times. -/
theorem exists_unitsOfRank (rank : Nat) :
    ∃ n doublings, n < 2 * Nat.pow 2 52 ∧ unitsOfRank rank = n * Nat.pow 2 doublings := by
  have hblock : 0 < Nat.pow 2 52 := Nat.two_pow_pos 52
  simp only [unitsOfRank]
  generalize Nat.pow 2 52 = block at *
  split
  · next hsmall => exact ⟨rank, 0, hsmall, (Nat.mul_one rank).symm⟩
  · have hmod : rank % block < block := Nat.mod_lt _ hblock
    exact ⟨_, _, by omega, rfl⟩

theorem exists_units {x : Binary64} {value : Rat} (hvalue : x.toRat? = some value)
    (hpos : 0 < value) :
    ∃ n doublings, n < 2 * Nat.pow 2 52 ∧ value * one = (n * Nat.pow 2 doublings : Nat) := by
  rcases x with _ | _ | ⟨negative, rank⟩
  · cases hvalue
  · cases hvalue
  · obtain rfl := Option.some.inj hvalue
    obtain ⟨n, doublings, hn, hunits⟩ := exists_unitsOfRank rank
    refine ⟨n, doublings, hn, ?_⟩
    cases negative with
    | true =>
        have hmagnitude : 0 ≤ (unitsOfRank rank : Rat) / one :=
          div_nonneg (Nat.cast_nonneg _) one_pos.le
        dsimp only at hpos
        rw [if_pos rfl] at hpos
        linarith
    | false =>
        rw [← hunits]
        exact div_mul_cancel₀ _ one_pos.ne'

/-- A number far enough from zero is a fraction over a power of two. -/
theorem exists_eq_div_pow {x : Binary64} {value : Rat} {bits : Nat}
    (hvalue : x.toRat? = some value) (h : 2 ^ 52 ≤ value * 2 ^ bits) :
    ∃ n : Nat, value = n / 2 ^ bits := by
  have hpow : (0 : Rat) < 2 ^ bits := by positivity
  have hpos : 0 < value := pos_of_mul_pos_left (lt_of_lt_of_le (by positivity) h) hpow.le
  obtain ⟨n, doublings, hn, hunits⟩ := exists_units hvalue hpos
  have honePos := one_pos
  have hscaled : value * 2 ^ bits * one = (n * Nat.pow 2 doublings * Nat.pow 2 bits : Nat) := by
    rw [mul_right_comm, hunits, Nat.pow_eq, Nat.pow_eq]
    push_cast
    ring
  unfold one at *
  generalize 1074 = limit at *
  have hlimit : limit ≤ doublings + bits := by
    by_contra hlt
    have hle : 2 ^ 52 * Nat.pow 2 limit ≤ n * Nat.pow 2 doublings * Nat.pow 2 bits := by
      have hle := mul_le_mul_of_nonneg_right h honePos.le
      rw [hscaled] at hle
      exact_mod_cast hle
    have hsum : Nat.pow 2 doublings * Nat.pow 2 bits * 2 ≤ Nat.pow 2 limit := by
      rw [Nat.pow_eq, Nat.pow_eq, Nat.pow_eq, ← Nat.pow_add, ← Nat.pow_succ]
      exact Nat.pow_le_pow_right (by decide) (by omega)
    have hless : n * (Nat.pow 2 doublings * Nat.pow 2 bits) <
        2 * Nat.pow 2 52 * (Nat.pow 2 doublings * Nat.pow 2 bits) :=
      Nat.mul_lt_mul_of_pos_right hn (Nat.mul_pos (Nat.two_pow_pos _) (Nat.two_pow_pos _))
    simp only [Nat.pow_eq] at hless hle hsum
    linarith
  obtain ⟨extra, hextra⟩ := Nat.exists_eq_add_of_le hlimit
  refine ⟨n * 2 ^ extra, ?_⟩
  rw [eq_div_iff hpow.ne']
  refine mul_right_cancel₀ honePos.ne' ?_
  rw [hscaled, ← Nat.cast_mul, Nat.mul_assoc, Nat.pow_eq, Nat.pow_eq, Nat.pow_eq, ← Nat.pow_add,
    hextra, Nat.pow_add, Nat.mul_comm (2 ^ limit), Nat.mul_assoc]

end Exact

end Binary64

namespace Serial

/-- The whole number of the last day that is kept. -/
def lastDay : Nat := 95051805

/-- Half a second before the end of the last day that is kept. -/
def endOfDays : Rat := lastDay + 1 - 1 / 2 / 86400

variable {x : Binary64} {value : Rat} {round : Rat → Rat} {days : Nat}

theorem lastKept_dayNumber : Date.lastKept.dayNumber = lateStart.dayNumber + lastDay := by decide

/-- The second of the day that a serial is rounded to; with 86400 the next day begins. -/
def secondOf (round : Rat → Rat) (value : Rat) : Nat :=
  (round (round (value - value.floor.toNat) * DateTime.secondsInDay) + 1 / 2).floor.toNat

theorem decodeWith_of_nonneg (h : 0 ≤ value) :
    decodeWith round value =
      if longestSpan < value.floor.toNat then .spanTooLong
      else match DateTime.after? (startFor value.floor.toNat) value.floor.toNat
          (secondOf round value) with
        | some t => .moment t
        | none => .unrepresentable := by
  rw [decodeWith, if_neg (not_lt.mpr h)]
  rfl

theorem decodeWith_eq_spanTooLong_iff :
    decodeWith round value = .spanTooLong ↔ (longestSpan : Rat) + 1 ≤ value := by
  constructor
  · intro h
    by_contra hlt
    exact decodeWith_ne_spanTooLong (not_le.mp hlt) h
  · intro h
    have hnonneg : (0 : Rat) ≤ longestSpan := Nat.cast_nonneg _
    have hfloor : (longestSpan + 1 : Int) ≤ ⌊value⌋ := Int.le_floor.mpr (by exact_mod_cast h)
    have hspan : longestSpan < value.floor.toNat := by
      change longestSpan < ⌊value⌋.toNat
      omega
    rw [decodeWith_of_nonneg (by linarith), if_pos hspan]

theorem isSome_after?_iff {start : Date} {seconds : Nat}
    (hstart : Date.firstKept.dayNumber ≤ start.dayNumber) :
    (DateTime.after? start days seconds).isSome = true ↔
      start.dayNumber + days + seconds / DateTime.secondsInDay ≤ Date.lastKept.dayNumber := by
  have hnonneg : (0 : Int) ≤ seconds / DateTime.secondsInDay :=
    Int.ediv_nonneg (Int.natCast_nonneg _) (by decide)
  simp only [DateTime.after?, Option.isSome_ite, Bool.and_eq_true, Date.isValid_ofDayNumber_iff]
  omega

theorem exists_moment_iff_isSome (h : 0 ≤ value) (hspan : value.floor.toNat ≤ longestSpan) :
    (∃ t, decodeWith round value = .moment t) ↔
      (DateTime.after? (startFor value.floor.toNat) value.floor.toNat
        (secondOf round value)).isSome = true := by
  rw [decodeWith_of_nonneg h, if_neg (not_lt.mpr hspan)]
  split
  · next t ht => simp [ht]
  · next hnone => simp [hnone]

theorem floor_bounds (h : 0 ≤ value) :
    (value.floor.toNat : Rat) ≤ value ∧ value < value.floor.toNat + 1 := by
  have hfloor : (value.floor.toNat : Int) = ⌊value⌋ :=
    Int.toNat_of_nonneg (Int.floor_nonneg.mpr h)
  have hcast : (value.floor.toNat : Rat) = (⌊value⌋ : Rat) := by exact_mod_cast hfloor
  rw [hcast]
  exact ⟨Int.floor_le value, Int.lt_floor_add_one value⟩

/-- Rounding goes to the start of the next day at most. -/
theorem secondOf_le (h : 0 ≤ value) : secondOf Binary64.nearest value ≤ 86400 := by
  obtain ⟨hle, hlt⟩ := floor_bounds h
  obtain ⟨part, hpart⟩ : ∃ part, part = value - value.floor.toNat := ⟨_, rfl⟩
  have hpartNonneg := Binary64.nearest_nonneg (x := part) (by linarith)
  have hpartNear := abs_le.mp (close_nearest.near part (by linarith) (by linarith))
  have htimeNear := abs_le.mp
    (close_nearest.near (Binary64.nearest part * 86400) (by linarith) (by linarith))
  have htime : Binary64.nearest (Binary64.nearest part * 86400) + 1 / 2 < (86400 + 1 : Int) := by
    push_cast
    linarith
  have hfloor := Int.floor_lt.mpr htime
  rw [secondOf, ← hpart]
  change ⌊Binary64.nearest (Binary64.nearest part * 86400) + 1 / 2⌋.toNat ≤ 86400
  omega

/-- From `2 ^ 26` on a serial is so coarse that its time of day is exact. -/
theorem secondOf_eq_of_le (hvalue : x.toRat? = some value) (h : 2 ^ 26 ≤ value) :
    secondOf Binary64.nearest value =
      ((value - value.floor.toNat) * 86400 + 1 / 2).floor.toNat := by
  have hcoarse : (2 : Rat) ^ 52 ≤ value * 2 ^ 26 := by linarith
  obtain ⟨n, rfl⟩ := Binary64.exists_eq_div_pow hvalue hcoarse
  obtain ⟨whole, rest, hrest, hn⟩ : ∃ whole rest, rest < 2 ^ 26 ∧ n = whole * 2 ^ 26 + rest :=
    ⟨n / 2 ^ 26, n % 2 ^ 26, Nat.mod_lt _ (by decide), (Nat.div_add_mod' n _).symm⟩
  have hsplit : (n : Rat) / 2 ^ 26 = whole + rest / 2 ^ 26 := by
    rw [hn, Nat.cast_add, Nat.cast_mul, Nat.cast_pow, Nat.cast_ofNat, add_div,
      mul_div_cancel_right₀ _ (by norm_num)]
  have hpart : (rest : Rat) / 2 ^ 26 < 1 := by
    rw [div_lt_one (by positivity)]
    exact_mod_cast hrest
  have hnonneg : 0 ≤ (rest : Rat) / 2 ^ 26 := by positivity
  have hfloor : ((n : Rat) / 2 ^ 26).floor.toNat = whole :=
    floor_eq (by linarith) (by linarith)
  have htime : (rest : Rat) / 2 ^ 26 * 86400 = (rest * 86400 : Nat) / 2 ^ 26 := by
    push_cast
    ring
  have hpartExact : Binary64.nearest (rest / 2 ^ 26) = rest / 2 ^ 26 :=
    Binary64.nearest_div_pow (by omega) (by decide)
  have htimeExact : Binary64.nearest (rest / 2 ^ 26 * 86400) = rest / 2 ^ 26 * 86400 := by
    rw [htime]
    exact Binary64.nearest_div_pow (by omega) (by decide)
  rw [secondOf, hfloor, hsplit, add_sub_cancel_left, hpartExact]
  change (Binary64.nearest (rest / 2 ^ 26 * 86400) + 1 / 2).floor.toNat = _
  rw [htimeExact]

theorem startFor_add_le_iff (days : Nat) (hdays : days ≠ lastDay) {carry : Int}
    (hcarry : 0 ≤ carry ∧ carry ≤ 1) :
    (startFor days).dayNumber + days + carry ≤ Date.lastKept.dayNumber ↔ days < lastDay := by
  have hearly := earlyStart_dayNumber
  have hlate := lateStart_dayNumber
  have hlast : lastDay = 95051805 := rfl
  rw [lastKept_dayNumber, startFor]
  split <;> omega

/-- Of the last day all is kept whose nearest second still lies in it. -/
theorem secondOf_lt_iff (hvalue : x.toRat? = some value) (h : 0 ≤ value)
    (hlast : value.floor.toNat = lastDay) :
    secondOf Binary64.nearest value < 86400 ↔ value < endOfDays := by
  have hle := (floor_bounds h).1
  rw [hlast] at hle
  have hfar : (2 : Rat) ^ 26 ≤ value := by
    refine le_trans ?_ hle
    exact_mod_cast (by decide : 2 ^ 26 ≤ lastDay)
  have hexact := secondOf_eq_of_le hvalue hfar
  rw [hlast] at hexact
  have htime : ⌊(value - lastDay) * 86400 + 1 / 2⌋ < 86400 ↔
      (value - lastDay) * 86400 + 1 / 2 < 86400 := by
    exact_mod_cast Int.floor_lt
  have hfloor : secondOf Binary64.nearest value =
      ⌊(value - lastDay) * 86400 + 1 / 2⌋.toNat := hexact
  rw [endOfDays]
  constructor
  · intro hless
    have hbefore := htime.mp (by omega)
    linarith
  · intro hbefore
    have hless := htime.mpr (by linarith)
    omega

/-- A serial that can be counted has a moment up to the end of the last day that is kept. -/
theorem exists_moment_iff (hvalue : x.toRat? = some value) (h : 0 ≤ value)
    (hspan : value.floor.toNat ≤ longestSpan) :
    (∃ t, decodeWith Binary64.nearest value = .moment t) ↔ value < endOfDays := by
  have hstart : Date.firstKept.dayNumber ≤ (startFor value.floor.toNat).dayNumber := by
    have hearly : Date.firstKept.dayNumber ≤ earlyStart.dayNumber := by decide
    have hlate : Date.firstKept.dayNumber ≤ lateStart.dayNumber := by decide
    rw [startFor]
    split <;> assumption
  have hsecond := secondOf_le h
  have hday : DateTime.secondsInDay = 86400 := rfl
  obtain ⟨hle, hlt⟩ := floor_bounds h
  rw [exists_moment_iff_isSome h hspan, isSome_after?_iff hstart, hday]
  by_cases hlast : value.floor.toNat = lastDay
  · have hlate : startFor lastDay = lateStart := by decide
    rw [← secondOf_lt_iff hvalue h hlast, hlast, hlate, lastKept_dayNumber]
    omega
  · have hcarry : (0 : Int) ≤ secondOf Binary64.nearest value / (86400 : Nat) ∧
        (secondOf Binary64.nearest value : Int) / (86400 : Nat) ≤ 1 := by
      omega
    rw [startFor_add_le_iff _ hlast hcarry, endOfDays]
    constructor
    · intro hless
      have hnext : (value.floor.toNat : Rat) + 1 ≤ lastDay := by exact_mod_cast hless
      linarith
    · intro hbefore
      have hless : (value.floor.toNat : Rat) < lastDay + 1 := by linarith
      have hnat : value.floor.toNat < lastDay + 1 := by exact_mod_cast hless
      omega

/-- A finite serial from 0 to the end of the last day that is kept. -/
def Kept (x : Binary64) : Prop := ∃ value, x.toRat? = some value ∧ 0 ≤ value ∧ value < endOfDays

/-- A finite serial whose days are too many to be counted. -/
def PastSpan (x : Binary64) : Prop :=
  ∃ value, x.toRat? = some value ∧ (longestSpan : Rat) + 1 ≤ value

theorem endOfDays_lt_longestSpan : endOfDays < longestSpan := by
  have hspan : ((lastDay + 1 : Nat) : Rat) ≤ longestSpan := by
    exact_mod_cast (by decide : lastDay + 1 ≤ longestSpan)
  rw [Nat.cast_add, Nat.cast_one] at hspan
  rw [endOfDays]
  linarith

theorem decode_eq_spanTooLong_iff : decode x = .spanTooLong ↔ PastSpan x := by
  rw [decode]
  split
  · next value hvalue => simp [PastSpan, hvalue, decodeWith_eq_spanTooLong_iff]
  · next hnone => simp [PastSpan, hnone]

theorem decode_eq_moment_iff : (∃ t, decode x = .moment t) ↔ Kept x := by
  rw [decode]
  split
  · next value hvalue =>
      have hkept : Kept x ↔ 0 ≤ value ∧ value < endOfDays := by simp [Kept, hvalue]
      rw [hkept]
      rcases lt_or_ge value 0 with hnegative | hnonneg
      · rw [decodeWith, if_pos hnegative]
        apply iff_of_false
        · rintro ⟨t, ht⟩
          cases ht
        · rintro ⟨hnonneg, -⟩
          exact absurd hnegative (not_lt.mpr hnonneg)
      rcases Nat.lt_or_ge longestSpan value.floor.toNat with hspan | hspan
      · rw [decodeWith_of_nonneg hnonneg, if_pos hspan]
        apply iff_of_false
        · rintro ⟨t, ht⟩
          cases ht
        · rintro ⟨-, hlt⟩
          have hfar : (longestSpan : Rat) < value.floor.toNat := by exact_mod_cast hspan
          have hend := endOfDays_lt_longestSpan
          have hle := (floor_bounds hnonneg).1
          linarith
      · rw [exists_moment_iff hvalue hnonneg hspan]
        exact (and_iff_right hnonneg).symm
  · next hnone => simp [Kept, hnone]

/-- What has no moment and can be counted has no date: no number, what is negative, and what
lies after the last day that is kept. -/
theorem decode_eq_unrepresentable_iff : decode x = .unrepresentable ↔ ¬Kept x ∧ ¬PastSpan x := by
  rw [← decode_eq_moment_iff, ← decode_eq_spanTooLong_iff]
  cases decode x <;> simp

end Serial

end TableBook
