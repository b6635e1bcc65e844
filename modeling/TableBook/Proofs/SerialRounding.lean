import TableBook.Proofs.Rounding
import TableBook.Proofs.SerialDay

namespace TableBook.Serial

/-- Small whole numbers are kept, and other numbers of that size nearly are. -/
structure Close (round : Rat → Rat) : Prop where
  whole : ∀ n : Nat, n < 2 ^ 22 → round n = n
  near : ∀ x, 0 ≤ x → x < 2 ^ 22 → |round x - x| ≤ 1 / 2 ^ 30

theorem close_nearest : Close Binary64.nearest where
  whole n hn := Binary64.nearest_natCast (Nat.lt_trans hn (by decide))
  near := by
    intro x hx hlt
    refine (Binary64.abs_nearest_sub_le hx).trans (max_le ?_ ?_)
    · have hunits : (2 ^ 30 : Rat) ≤ Binary64.one := by
        exact_mod_cast (by decide +kernel : 2 ^ 30 ≤ Binary64.one)
      rw [div_div]
      exact one_div_le_one_div_of_le (by positivity) (by linarith)
    · linarith

section Close

variable {round : Rat → Rat} {n second : Nat} {d : Date}

/-- The day and the second of a serial that went through rounding. -/
theorem Close.parts (h : Close round) (hn : 1 ≤ n ∧ n + 1 < 2 ^ 22) (hsecond : second < 86400)
    {x : Rat} (hx : x = round (n + round (second / 86400))) :
    (0 ≤ x ∧ x < 2 ^ 22) ∧ n ≤ round x ∧ round x < n + 1 ∧
      (round (round (round x - n) * 86400) + 1 / 2).floor.toNat = second := by
  have hday : (1 : Rat) ≤ n := by exact_mod_cast hn.1
  have hlimit : (n : Rat) + 1 < 2 ^ 22 := by exact_mod_cast hn.2
  have hzero : round 0 = 0 := by exact_mod_cast h.whole 0 (by decide)
  rcases Nat.eq_zero_or_pos second with rfl | hpos
  · have hwhole : round n = n := h.whole n (by omega)
    obtain rfl : x = n := by
      rw [hx, Nat.cast_zero, zero_div, hzero, add_zero, hwhole]
    rw [hwhole, sub_self, hzero, zero_mul, hzero]
    refine ⟨⟨by linarith, by linarith⟩, le_rfl, lt_add_one _, ?_⟩
    exact floor_eq (by norm_num) (by norm_num)
  · have hfirst : (1 : Rat) ≤ second := by exact_mod_cast hpos
    have hlast : (second : Rat) ≤ 86399 := by exact_mod_cast (by omega : second ≤ 86399)
    obtain ⟨part, hpart⟩ : ∃ part : Rat, part = second / 86400 := ⟨_, rfl⟩
    have hwhole : part * 86400 = second := by
      rw [hpart, div_mul_cancel₀ _ (by norm_num)]
    rw [← hpart] at hx
    -- Each of the five roundings moves its number by a 2 ^ 30th of a day at most.
    have hpartNear := abs_le.mp (h.near part (by linarith) (by linarith))
    have hsumNear := abs_le.mp (h.near (n + round part) (by linarith) (by linarith))
    rw [← hx] at hsumNear
    have hserialNear := abs_le.mp (h.near x (by linarith) (by linarith))
    have hrestNear := abs_le.mp (h.near (round x - n) (by linarith) (by linarith))
    have htimeNear :=
      abs_le.mp (h.near (round (round x - n) * 86400) (by linarith) (by linarith))
    refine ⟨⟨by linarith, by linarith⟩, by linarith, by linarith, floor_eq ?_ ?_⟩
    · linarith
    · linarith

theorem dayOf_lt (hd : d.InCalendar) (hyear : d.year ≤ 9999) : dayOf d < 2958466 := by
  have hnext : (Date.mk 10000 1 1).InCalendar := by constructor <;> decide
  have hbefore : d.Before ⟨10000, 1, 1⟩ := .inl (Int.lt_add_one_of_le hyear)
  exact dayOf_lt_dayOf hd hnext hbefore

/-- A moment of whole seconds is read back from its serial. -/
theorem Close.decodeWith_encodeWith (h : Close round) (hd : d.isValid = true)
    (hyear : 1900 ≤ d.year) (hlast : d.year ≤ 9999) (hsecond : second < DateTime.secondsInDay) :
    ∃ x, encodeWith round ⟨d, second, 0⟩ = some x ∧ (0 ≤ x ∧ x < 2 ^ 22) ∧
      decodeWith round (round x) = .moment ⟨d, second, 0⟩ := by
  have hcalendar := Date.inCalendar_of_isValid hd
  obtain ⟨hpos, -, -⟩ := startFor_dayOf hcalendar hyear
  have hend := dayOf_lt hcalendar hlast
  obtain ⟨n, hn⟩ : ∃ n : Nat, dayOf d = n := ⟨(dayOf d).toNat, by omega⟩
  have hlimit : n + 1 < 2 ^ 22 := by omega
  have hsmall : second < 2 ^ 22 := Nat.lt_trans hsecond (by decide)
  obtain ⟨x, hx⟩ : ∃ x, x = round (n + round (second / 86400)) := ⟨_, rfl⟩
  obtain ⟨hrange, hle, hlt, htime⟩ := h.parts ⟨by omega, by omega⟩ hsecond hx
  refine ⟨x, ?_, hrange, ?_⟩
  · have hzero : round 0 = 0 := by exact_mod_cast h.whole 0 (by decide)
    have hdays : round ↑(d.dayNumber - (startOf d).dayNumber) = n := by
      change round ↑(dayOf d) = n
      rw [hn, Int.cast_natCast, h.whole n (by omega)]
    simp only [encodeWith]
    rw [if_neg (Int.not_lt.mpr hyear), hdays, Nat.cast_zero, zero_div, hzero, add_zero,
      h.whole second hsmall, hx]
    rfl
  · have hday : (round x).floor.toNat = n := floor_eq hle hlt
    have hnonneg : ¬round x < 0 := not_lt.mpr (le_trans (Nat.cast_nonneg n) hle)
    have hspan : ¬longestSpan < n := by
      have hlong := dayOf_le_longestSpan hd
      omega
    have hafter := after?_startOf (t := ⟨d, second, 0⟩) hd hyear hsecond
    have htime' : (round (round (round x - n) * DateTime.secondsInDay) + 1 / 2).floor.toNat =
        second := htime
    rw [hn, Int.toNat_natCast] at hafter
    simp only [decodeWith]
    rw [if_neg hnonneg, hday, htime', if_neg hspan, hafter]

/-- A moment of whole seconds in a year of four digits from 1900 on is read back
from the number that is stored for it. -/
theorem decode_encode (hd : d.isValid = true) (hyear : 1900 ≤ d.year) (hlast : d.year ≤ 9999)
    (hsecond : second < DateTime.secondsInDay) :
    ∃ serial, encode ⟨d, second, 0⟩ = some serial ∧ decode serial = .moment ⟨d, second, 0⟩ := by
  obtain ⟨x, hencode, ⟨hnonneg, hlt⟩, hdecode⟩ :=
    close_nearest.decodeWith_encodeWith hd hyear hlast hsecond
  refine ⟨.ofRat x, ?_, ?_⟩
  · rw [encode, hencode, Option.map_some]
  · rw [decode, Binary64.toRat?_ofRat hnonneg (by linarith)]
    exact hdecode

end Close

end TableBook.Serial
