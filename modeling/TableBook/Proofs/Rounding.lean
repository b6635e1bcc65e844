import Mathlib.Algebra.Order.Field.Rat
import Mathlib.Data.Nat.Cast.Order.Field
import Mathlib.Tactic.Linarith
import Mathlib.Tactic.Positivity
import Mathlib.Tactic.Ring
import TableBook.Proofs.Numeral

namespace TableBook.Binary64

section Units

variable {num den bits : Nat}

/-- Rounding to a whole number moves a quotient by one half at most. -/
theorem abs_roundEven_sub_le (num : Nat) (h : 0 < den) :
    |(roundEven num den : Rat) - num / den| ≤ 1 / 2 := by
  have hden : (0 : Rat) < den := by exact_mod_cast h
  have hsplit : (num : Rat) / den = (num / den : Nat) + (num % den : Nat) / (den : Rat) := by
    have hnum : (num : Rat) = den * (num / den : Nat) + (num % den : Nat) := by
      exact_mod_cast (Nat.div_add_mod num den).symm
    conv_lhs => rw [hnum, add_div, mul_div_cancel_left₀ _ hden.ne']
  have hlow : 0 ≤ ((num % den : Nat) : Rat) / den := by positivity
  have hhigh : ((num % den : Nat) : Rat) / den ≤ 1 := by
    rw [div_le_one hden]
    exact_mod_cast (Nat.mod_lt num h).le
  rw [hsplit, abs_le]
  simp only [roundEven]
  split
  · next hless =>
      have hhalf : ((num % den : Nat) : Rat) / den ≤ 1 / 2 := by
        rw [div_le_div_iff₀ hden two_pos]
        exact_mod_cast (by omega : num % den * 2 ≤ 1 * den)
      constructor <;> linarith
  split
  · next hmore =>
      have hhalf : 1 / 2 ≤ ((num % den : Nat) : Rat) / den := by
        rw [div_le_div_iff₀ two_pos hden]
        exact_mod_cast (by omega : 1 * den ≤ num % den * 2)
      push_cast
      constructor <;> linarith
  · next hless hmore =>
      have hhalf : ((num % den : Nat) : Rat) / den = 1 / 2 := by
        rw [div_eq_div_iff hden.ne' two_ne_zero]
        exact_mod_cast (by omega : num % den * 2 = 1 * den)
      have hparity : ((num / den % 2 : Nat) : Rat) ≤ 1 := by
        exact_mod_cast (by omega : num / den % 2 ≤ 1)
      have hnonneg : (0 : Rat) ≤ (num / den % 2 : Nat) := by positivity
      rw [hhalf]
      push_cast at hparity hnonneg ⊢
      constructor <;> linarith

theorem roundEven_mul_right (n : Nat) (h : 0 < den) : roundEven (n * den) den = n := by
  simp [roundEven, h]

theorem roundEven_le {n : Nat} (h : num < n * den) : roundEven num den ≤ n := by
  have hquotient : num / den < n := Nat.div_lt_of_lt_mul (Nat.mul_comm _ _ ▸ h)
  simp only [roundEven]
  split
  · omega
  split
  · omega
  · have hparity : num / den % 2 ≤ 1 := by omega
    omega

theorem le_roundEven {n : Nat} (hden : 0 < den) (h : n * den ≤ num) : n ≤ roundEven num den := by
  have hquotient : n ≤ num / den := (Nat.le_div_iff_mul_le hden).mpr h
  simp only [roundEven]
  split
  · exact hquotient
  split
  · omega
  · omega

/-- Counted in spacings, a magnitude has at most 53 bits, and just as many if the
spacing is more than one unit. -/
theorem spacing_bounds (num den : Nat) :
    num / den < 2 * Nat.pow 2 52 * Nat.pow 2 (spacingBits num den) ∧
      (spacingBits num den = 0 ∨
        Nat.pow 2 52 * Nat.pow 2 (spacingBits num den) ≤ num / den) := by
  simp only [spacingBits, Nat.pow_eq]
  rw [← Nat.pow_succ', ← Nat.pow_add, ← Nat.pow_add]
  rcases Nat.eq_zero_or_pos (num / den) with hzero | hpos
  · rw [hzero]
    exact ⟨Nat.two_pow_pos _, .inl rfl⟩
  · refine ⟨(Nat.log2_lt hpos.ne').mp (by omega), ?_⟩
    rcases Nat.lt_or_ge (num / den).log2 52 with hsmall | hgreat
    · left
      omega
    · right
      rw [Nat.add_sub_cancel' hgreat]
      exact (Nat.le_log2 hpos.ne').mp le_rfl

/-- A magnitude moves by half a unit, or by its 53rd part of a power of two. -/
theorem abs_nearestUnits_sub_le (num : Nat) (h : 0 < den) :
    |(nearestUnits num den : Rat) - num / den| ≤ max (1 / 2) ((num : Rat) / den / 2 ^ 53) := by
  have hspacing : 0 < Nat.pow 2 (spacingBits num den) := Nat.two_pow_pos _
  have hbound : |(nearestUnits num den : Rat) - num / den| ≤ 2 ^ spacingBits num den / 2 := by
    have hround := abs_roundEven_sub_le num (Nat.mul_pos h hspacing)
    have hpos : (0 : Rat) < 2 ^ spacingBits num den := by positivity
    have hscale : (nearestUnits num den : Rat) - num / den =
        (roundEven num (den * Nat.pow 2 (spacingBits num den)) -
          num / (den * Nat.pow 2 (spacingBits num den) : Nat)) * 2 ^ spacingBits num den := by
      rw [nearestUnits, Nat.pow_eq]
      push_cast
      rw [sub_mul, ← div_div, div_mul_cancel₀ _ hpos.ne']
    rw [hscale, abs_mul, abs_of_pos hpos]
    calc _ ≤ 1 / 2 * 2 ^ spacingBits num den := mul_le_mul_of_nonneg_right hround hpos.le
      _ = _ := by ring
  refine hbound.trans ?_
  rcases (spacing_bounds num den).2 with hzero | hle
  · rw [hzero]
    exact le_max_of_le_left (by norm_num)
  · have hquotient : (2 ^ 52 * 2 ^ spacingBits num den : Rat) ≤ num / den := by
      refine le_trans ?_ Nat.cast_div_le
      exact_mod_cast hle
    exact le_max_of_le_right (by linarith)

/-- A magnitude of at most 53 bits is kept, however many of its last bits are 0. -/
theorem nearestUnits_mul_pow {n : Nat} (h : n < 2 ^ 53) (e : Nat) :
    nearestUnits (n * Nat.pow 2 e) 1 = n * Nat.pow 2 e := by
  have hbits : spacingBits (n * Nat.pow 2 e) 1 ≤ e := by
    rw [spacingBits, Nat.div_one, Nat.pow_eq]
    rcases Nat.eq_zero_or_pos n with rfl | hpos
    · simp
    · have hne : n * 2 ^ e ≠ 0 := (Nat.mul_pos hpos (Nat.two_pow_pos e)).ne'
      have hlog : (n * 2 ^ e).log2 < 53 + e := by
        rw [Nat.log2_lt hne, Nat.pow_add]
        exact Nat.mul_lt_mul_of_pos_right h (Nat.two_pow_pos e)
      omega
  rw [nearestUnits]
  generalize spacingBits (n * Nat.pow 2 e) 1 = bits at hbits
  have hsplit : n * Nat.pow 2 e = n * Nat.pow 2 (e - bits) * Nat.pow 2 bits := by
    rw [Nat.mul_assoc, Nat.pow_eq, Nat.pow_eq, Nat.pow_eq, ← Nat.pow_add, Nat.sub_add_cancel hbits]
  have hpos : 0 < Nat.pow 2 bits := Nat.two_pow_pos bits
  rw [Nat.one_mul, hsplit, roundEven_mul_right _ hpos]

/-- The rank of a magnitude, by the block of its doublings. -/
theorem unitsOfRank_add {rest : Nat} (h : rest ≤ 2 * Nat.pow 2 52)
    (hbits : bits = 0 ∨ Nat.pow 2 52 ≤ rest) :
    unitsOfRank (bits * Nat.pow 2 52 + rest) = rest * Nat.pow 2 bits := by
  have hblock : 0 < Nat.pow 2 52 := Nat.two_pow_pos 52
  simp only [unitsOfRank]
  generalize Nat.pow 2 52 = block at *
  split
  · next hsmall =>
      have hzero : bits = 0 := by
        by_contra hne
        have hrest : block ≤ rest := hbits.resolve_left hne
        have hle : block ≤ bits * block := Nat.le_mul_of_pos_left _ (Nat.pos_of_ne_zero hne)
        omega
      rw [hzero]
      simp
  · next hgreat =>
      have hrest : block ≤ rest := by
        rcases hbits with rfl | hrest
        · omega
        · exact hrest
      obtain ⟨part, rfl⟩ := Nat.exists_eq_add_of_le hrest
      rw [← Nat.add_assoc, ← Nat.succ_mul]
      rcases Nat.lt_or_ge part block with hpart | hpart
      · rw [Nat.mul_comm bits.succ, Nat.mul_add_mod, Nat.mul_add_div hblock,
          Nat.mod_eq_of_lt hpart, Nat.div_eq_of_lt hpart]
        rfl
      · -- The doublings of the next block begin.
        obtain rfl : part = block := by omega
        rw [← Nat.succ_mul, Nat.mul_mod_left, Nat.mul_div_cancel _ hblock, Nat.add_zero]
        change part * 2 ^ (bits + 1) = (part + part) * 2 ^ bits
        rw [Nat.pow_succ]
        ring

theorem spacingBits_le {e : Nat} (h : num / den < 2 * Nat.pow 2 52 * Nat.pow 2 e) :
    spacingBits num den ≤ e := by
  rcases (spacing_bounds num den).2 with hzero | hle
  · omega
  · have hpow : Nat.pow 2 52 * 2 ^ spacingBits num den < Nat.pow 2 52 * 2 ^ (e + 1) := by
      refine Nat.lt_of_le_of_lt hle (Nat.lt_of_lt_of_eq h ?_)
      rw [Nat.pow_succ', ← Nat.mul_assoc, Nat.mul_comm 2]
      rfl
    have hbits := (Nat.pow_lt_pow_iff_right one_lt_two).mp (Nat.lt_of_mul_lt_mul_left hpow)
    omega

theorem roundEven_spacing_le (num : Nat) (h : 0 < den) :
    roundEven num (den * Nat.pow 2 (spacingBits num den)) ≤ 2 * Nat.pow 2 52 := by
  apply roundEven_le
  rw [Nat.mul_left_comm, Nat.mul_comm]
  exact (Nat.div_lt_iff_lt_mul h).mp (spacing_bounds num den).1

/-- A rank stands for the magnitude that was rounded to. -/
theorem unitsOfRank_nearestRank (num : Nat) (h : 0 < den) :
    unitsOfRank (nearestRank num den) = nearestUnits num den := by
  have hspacing : 0 < Nat.pow 2 (spacingBits num den) := Nat.two_pow_pos _
  apply unitsOfRank_add (roundEven_spacing_le num h)
  refine (spacing_bounds num den).2.imp_right ?_
  intro hle
  apply le_roundEven (Nat.mul_pos h hspacing)
  rw [Nat.mul_left_comm, Nat.mul_comm]
  exact (Nat.le_div_iff_mul_le h).mp hle

theorem nearestRank_le (num : Nat) (h : 0 < den) :
    nearestRank num den ≤ (spacingBits num den + 2) * Nat.pow 2 52 := by
  rw [Nat.add_mul]
  exact Nat.add_le_add_left (roundEven_spacing_le num h) _

end Units

section Value

variable {x : Rat}

theorem one_pos : (0 : Rat) < one := Nat.cast_pos.mpr (by decide +kernel)

theorem nearest_of_nonneg (h : 0 ≤ x) :
    nearest x = nearestUnits (x.num.natAbs * one) x.den / one := by
  simp only [nearest]
  rw [if_neg (not_lt.mpr h)]

theorem eq_natAbs_div (h : 0 ≤ x) : x = x.num.natAbs / x.den := by
  have hnum : (x.num.natAbs : Rat) = x.num := by
    rw [← Int.cast_natCast, Int.natAbs_of_nonneg (Rat.num_nonneg.mpr h)]
  rw [hnum, Rat.num_div_den]

/-- The relative error is at most one in 53 bits, the absolute one half a unit. -/
theorem abs_nearest_sub_le (h : 0 ≤ x) :
    |nearest x - x| ≤ max (1 / 2 / (one : Rat)) (x / 2 ^ 53) := by
  have hbound := abs_nearestUnits_sub_le (x.num.natAbs * one) x.den_pos
  have hunits : ((x.num.natAbs * one : Nat) : Rat) / x.den = x * one := by
    conv_rhs => rw [eq_natAbs_div h]
    push_cast
    ring
  rw [hunits] at hbound
  have hscale : nearest x - x =
      (nearestUnits (x.num.natAbs * one) x.den - x * one) / one := by
    rw [nearest_of_nonneg h, sub_div, mul_div_cancel_right₀ _ one_pos.ne']
  rw [hscale, abs_div, abs_of_pos one_pos, div_le_iff₀ one_pos]
  refine hbound.trans (le_of_eq ?_)
  rw [max_mul_of_nonneg _ _ one_pos.le, div_mul_cancel₀ _ one_pos.ne']
  ring_nf

theorem nearest_natCast {n : Nat} (h : n < 2 ^ 53) : nearest n = n := by
  have hunits : nearestUnits (n * one) 1 = n * one := by
    unfold one
    -- Unification would write the power out if it saw the number.
    generalize 1074 = bits
    exact nearestUnits_mul_pow h bits
  rw [nearest_of_nonneg (Nat.cast_nonneg n), Rat.num_natCast, Rat.den_natCast, Int.natAbs_natCast,
    hunits, Nat.cast_mul, mul_div_cancel_right₀ _ one_pos.ne']

/-- What is stored of a value far from the greatest number is its nearest one. -/
theorem toRat?_ofRat (h : 0 ≤ x) (hx : x < 2 ^ 53) : (ofRat x).toRat? = some (nearest x) := by
  have hvalue : x.num.natAbs < 2 ^ 53 * x.den := by
    rw [eq_natAbs_div h, div_lt_iff₀ (Nat.cast_pos.mpr x.den_pos)] at hx
    exact_mod_cast hx
  have hbits : spacingBits (x.num.natAbs * one) x.den ≤ 1074 := by
    unfold one
    generalize 1074 = bits
    apply spacingBits_le
    rw [Nat.div_lt_iff_lt_mul x.den_pos, Nat.mul_right_comm]
    exact Nat.mul_lt_mul_of_pos_right hvalue (Nat.two_pow_pos bits)
  have hrank : nearestRank (x.num.natAbs * one) x.den < magnitudes := by
    refine Nat.lt_of_le_of_lt (nearestRank_le _ x.den_pos) ?_
    exact Nat.mul_lt_mul_of_pos_right (by omega) (Nat.two_pow_pos 52)
  rw [ofRat, decide_eq_false (not_lt.mpr h), ofRatio, ofUnits, dif_pos hrank, nearest_of_nonneg h,
    ← unitsOfRank_nearestRank _ x.den_pos]
  rfl

end Value

end TableBook.Binary64
