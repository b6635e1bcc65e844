import Mathlib.Algebra.Order.Field.Power
import TableBook.Proofs.DecimalText
import TableBook.Proofs.Rounding

namespace TableBook

namespace Binary64

variable {num den m e : Nat}

/-- Between an odd number and the next one a tie goes up. -/
theorem roundEven_le_iff (hden : 0 < den) (hodd : m % 2 = 1) :
    roundEven num den ≤ m ↔ 2 * num < (2 * m + 1) * den := by
  have hsplit : den * (num / den) + num % den = num := Nat.div_add_mod num den
  rcases Nat.lt_trichotomy (num / den) m with hlt | heq | hgt
  · have hnum : num < m * den := (Nat.div_lt_iff_lt_mul hden).mp hlt
    refine iff_of_true (roundEven_le hnum) ?_
    rw [Nat.add_mul, Nat.mul_assoc]
    omega
  · rw [heq, Nat.mul_comm] at hsplit
    have hhalf : 2 * num < (2 * m + 1) * den ↔ 2 * (num % den) < den := by
      rw [Nat.add_mul, Nat.mul_assoc]
      omega
    rw [hhalf]
    simp only [roundEven, heq]
    split_ifs <;> omega
  · have hnum : (m + 1) * den ≤ num := (Nat.le_div_iff_mul_le hden).mp hgt
    have hround : m + 1 ≤ roundEven num den := le_roundEven hden hnum
    refine iff_of_false (Nat.not_le.mpr hround) ?_
    rw [Nat.add_mul, Nat.mul_assoc]
    rw [Nat.add_mul] at hnum
    omega

section Blocks

variable (h : 0 < den)

include h

theorem lt_of_spacingBits_le (hbits : spacingBits num den ≤ e) :
    nearestRank num den < (e + 3) * Nat.pow 2 52 ∧
      num < (4 * Nat.pow 2 52 - 1) * (Nat.pow 2 e * den) := by
  have hblock : 0 < Nat.pow 2 52 := Nat.two_pow_pos 52
  have hupper := (spacing_bounds num den).1
  rw [Nat.div_lt_iff_lt_mul h, Nat.mul_assoc] at hupper
  have hpow : Nat.pow 2 (spacingBits num den) * den ≤ Nat.pow 2 e * den :=
    Nat.mul_le_mul_right den (Nat.pow_le_pow_right two_pos hbits)
  constructor
  · calc nearestRank num den ≤ (spacingBits num den + 2) * Nat.pow 2 52 := nearestRank_le num h
      _ < (e + 3) * Nat.pow 2 52 := Nat.mul_lt_mul_of_pos_right (by omega) hblock
  · calc num < 2 * Nat.pow 2 52 * (Nat.pow 2 (spacingBits num den) * den) := hupper
      _ ≤ 2 * Nat.pow 2 52 * (Nat.pow 2 e * den) := Nat.mul_le_mul_left _ hpow
      _ ≤ (4 * Nat.pow 2 52 - 1) * (Nat.pow 2 e * den) :=
          Nat.mul_le_mul_right _ (by omega)

theorem le_of_lt_spacingBits (hbits : e + 1 < spacingBits num den) :
    (e + 3) * Nat.pow 2 52 ≤ nearestRank num den ∧
      (4 * Nat.pow 2 52 - 1) * (Nat.pow 2 e * den) ≤ num := by
  have hlower := (spacing_bounds num den).2.resolve_left (by omega)
  rw [Nat.le_div_iff_mul_le h, Nat.mul_assoc] at hlower
  have hpow : 4 * (Nat.pow 2 e * den) ≤ Nat.pow 2 (spacingBits num den) * den := by
    rw [← Nat.mul_assoc]
    refine Nat.mul_le_mul_right den ?_
    calc 4 * Nat.pow 2 e = 2 ^ (e + 2) := by rw [Nat.pow_eq, Nat.pow_add, Nat.mul_comm]
      _ ≤ Nat.pow 2 (spacingBits num den) := Nat.pow_le_pow_right two_pos hbits
  constructor
  · have hleast : Nat.pow 2 52 ≤ roundEven num (den * Nat.pow 2 (spacingBits num den)) := by
      refine le_roundEven (Nat.mul_pos h (Nat.two_pow_pos _)) ?_
      rwa [Nat.mul_comm den]
    calc (e + 3) * Nat.pow 2 52 = (e + 2) * Nat.pow 2 52 + Nat.pow 2 52 := Nat.succ_mul ..
      _ ≤ _ := Nat.add_le_add (Nat.mul_le_mul_right _ hbits) hleast
  · calc (4 * Nat.pow 2 52 - 1) * (Nat.pow 2 e * den)
        ≤ 4 * Nat.pow 2 52 * (Nat.pow 2 e * den) := Nat.mul_le_mul_right _ (Nat.sub_le _ _)
      _ = Nat.pow 2 52 * (4 * (Nat.pow 2 e * den)) := by ring
      _ ≤ Nat.pow 2 52 * (Nat.pow 2 (spacingBits num den) * den) := Nat.mul_le_mul_left _ hpow
      _ ≤ num := hlower

theorem nearestRank_lt_iff_of_spacingBits (hbits : spacingBits num den = e + 1) :
    nearestRank num den < (e + 3) * Nat.pow 2 52 ↔
      num < (4 * Nat.pow 2 52 - 1) * (Nat.pow 2 e * den) := by
  have hblock : 0 < Nat.pow 2 52 := Nat.two_pow_pos 52
  rw [nearestRank, hbits]
  generalize Nat.pow 2 52 = block at *
  have hodd : (2 * block - 1) % 2 = 1 := by omega
  have hscale : (2 * (2 * block - 1) + 1) * (den * 2 ^ (e + 1)) =
      2 * ((4 * block - 1) * (Nat.pow 2 e * den)) := by
    rw [show 2 * (2 * block - 1) + 1 = 4 * block - 1 by omega, Nat.pow_eq, Nat.pow_succ]
    ring
  have hround : roundEven num (den * 2 ^ (e + 1)) ≤ 2 * block - 1 ↔
      2 * num < 2 * ((4 * block - 1) * (Nat.pow 2 e * den)) := by
    rw [← hscale]
    exact roundEven_le_iff (Nat.mul_pos h (Nat.two_pow_pos (e + 1))) hodd
  change (e + 1) * block + roundEven num (den * 2 ^ (e + 1)) < _ ↔ _
  rw [show (e + 3) * block = (e + 1) * block + 2 * block by ring]
  omega

/-- The ranks of the first `e + 3` blocks are those of the numbers that lie nearer to one of
their magnitudes than to the first one after them. -/
theorem nearestRank_lt_iff (e : Nat) :
    nearestRank num den < (e + 3) * Nat.pow 2 52 ↔
      num < (4 * Nat.pow 2 52 - 1) * (Nat.pow 2 e * den) := by
  rcases Nat.lt_trichotomy (spacingBits num den) (e + 1) with hlt | heq | hgt
  · obtain ⟨hrank, hnum⟩ := lt_of_spacingBits_le h (Nat.le_of_lt_succ hlt)
    exact iff_of_true hrank hnum
  · exact nearestRank_lt_iff_of_spacingBits h heq
  · obtain ⟨hrank, hnum⟩ := le_of_lt_spacingBits h hgt
    exact iff_of_false hrank.not_gt hnum.not_gt

end Blocks

theorem lt_scaled_iff (k scale : Nat) :
    num * Nat.pow 2 scale < (4 * Nat.pow 2 52 - 1) * (Nat.pow 2 (k + scale) * den) ↔
      (num : Rat) < (2 ^ (k + 54) - 2 ^ k) * den := by
  have hscale : 0 < 2 ^ scale := Nat.two_pow_pos scale
  have hsplit : (4 * Nat.pow 2 52 - 1) * (Nat.pow 2 (k + scale) * den) =
      (4 * 2 ^ 52 - 1) * 2 ^ k * den * 2 ^ scale := by
    rw [Nat.pow_eq, Nat.pow_eq, Nat.pow_add]
    ring
  have hbound : (2 ^ (k + 54) - 2 ^ k : Rat) = ((4 * 2 ^ 52 - 1) * 2 ^ k : Nat) := by
    push_cast
    ring
  rw [hsplit, hbound, Nat.pow_eq, Nat.mul_lt_mul_right hscale]
  exact_mod_cast Iff.rfl

/-- The least magnitude that is rounded to none of the finite ones. -/
def overflowBound : Rat := 2 ^ 1024 - 2 ^ 970

theorem isFinite_ofRatio_iff (negative : Bool) (h : 0 < den) :
    (ofRatio negative num den).isFinite = true ↔ (num : Rat) / den < overflowBound := by
  have hrank : (ofRatio negative num den).isFinite = true ↔
      nearestRank (num * one) den < (970 + 1074 + 3) * Nat.pow 2 52 := by
    rw [ofRatio, ofUnits]
    split
    · next hfinite => exact iff_of_true rfl hfinite
    · next hinfinite => exact iff_of_false Bool.false_ne_true hinfinite
  rw [hrank, nearestRank_lt_iff h, div_lt_iff₀ (Nat.cast_pos.mpr h)]
  unfold one
  -- Unification would write the power out if it saw the number.
  generalize 1074 = scale
  exact lt_scaled_iff 970 scale

theorem pow_lt_overflowBound {k : Nat} (h : k ≤ 970) : 2 ^ k < overflowBound := by
  have hpow : (2 : Rat) ^ k ≤ 2 ^ 970 := pow_le_pow_right₀ one_le_two h
  rw [overflowBound, lt_sub_iff_add_lt']
  calc (2 ^ 970 + 2 ^ k : Rat) ≤ 2 ^ 970 + 2 ^ 970 := add_le_add_right hpow _
    _ = 2 ^ (970 + 1) := by rw [pow_succ 2 970, mul_two]
    _ < 2 ^ 1024 := pow_lt_pow_right₀ one_lt_two (by omega)

theorem one_lt_overflowBound : 1 < overflowBound :=
  (one_le_pow₀ one_le_two).trans_lt (pow_lt_overflowBound le_rfl)

end Binary64

namespace Decimal

/-- The value without its sign. -/
def magnitude (d : Decimal) : Rat := d.digits * 10 ^ d.exponent

/-- No finite number is the nearest one. -/
def Overflows (d : Decimal) : Prop := Binary64.overflowBound ≤ d.magnitude

variable {d : Decimal}

theorem not_overflows_of_digits (h : d.digits = 0) : ¬d.Overflows := by
  rw [Overflows, magnitude, h, Nat.cast_zero, zero_mul, not_le]
  exact zero_lt_one.trans Binary64.one_lt_overflowBound

theorem overflowBound_le : Binary64.overflowBound ≤ 10 ^ 400 := by
  calc Binary64.overflowBound ≤ 2 ^ 1024 := sub_le_self _ (by positivity)
    _ ≤ 2 ^ (3 * 400) := pow_le_pow_right₀ one_le_two (by omega)
    _ = (2 ^ 3) ^ 400 := pow_mul ..
    _ ≤ 10 ^ 400 := pow_le_pow_left₀ (by norm_num) (by norm_num) 400

theorem overflows_of_exponent (hdigits : d.digits ≠ 0) (h : exponentLimit < d.exponent) :
    d.Overflows := by
  have hone : (1 : Rat) ≤ d.digits := Nat.one_le_cast.mpr (Nat.pos_of_ne_zero hdigits)
  have hpower : (10 : Rat) ^ (400 : Int) ≤ 10 ^ d.exponent :=
    zpow_le_zpow_right₀ (by norm_num) h.le
  calc Binary64.overflowBound ≤ 10 ^ 400 := overflowBound_le
    _ = 10 ^ (400 : Int) := (zpow_natCast 10 400).symm
    _ ≤ 10 ^ d.exponent := hpower
    _ ≤ d.magnitude := le_mul_of_one_le_left (by positivity) hone

theorem not_overflows_of_small (h : d.exponent + (d.digits.log2 + 1) < -exponentLimit) :
    ¬d.Overflows := by
  have hdigits : (d.digits : Rat) ≤ 10 ^ (d.digits.log2 + 1) := by
    calc (d.digits : Rat) ≤ 2 ^ (d.digits.log2 + 1) := by exact_mod_cast Nat.lt_log2_self.le
      _ ≤ 10 ^ (d.digits.log2 + 1) := pow_le_pow_left₀ (by norm_num) (by norm_num) _
  have hexponent : d.exponent + (d.digits.log2 + 1 : Nat) ≤ 0 := by
    rw [exponentLimit] at h
    push_cast
    omega
  rw [Overflows, not_le]
  calc d.magnitude ≤ 10 ^ (d.digits.log2 + 1) * 10 ^ d.exponent :=
        mul_le_mul_of_nonneg_right hdigits (by positivity)
    _ = 10 ^ (d.exponent + (d.digits.log2 + 1 : Nat)) := by
        rw [zpow_add₀ (by norm_num), zpow_natCast, mul_comm]
    _ ≤ 1 := zpow_le_one_of_nonpos₀ (by norm_num) hexponent
    _ < Binary64.overflowBound := Binary64.one_lt_overflowBound

theorem magnitude_of_nonneg (h : 0 ≤ d.exponent) :
    d.magnitude = (d.digits * Nat.pow 10 d.exponent.toNat : Nat) / (1 : Nat) := by
  conv_lhs => rw [magnitude, ← Int.toNat_of_nonneg h, zpow_natCast]
  rw [Nat.pow_eq]
  push_cast
  rw [div_one]

theorem magnitude_of_neg (h : ¬0 ≤ d.exponent) :
    d.magnitude = d.digits / (Nat.pow 10 (-d.exponent).toNat : Nat) := by
  have hexponent : d.exponent = -((-d.exponent).toNat : Int) := by omega
  conv_lhs => rw [magnitude, hexponent, zpow_neg, zpow_natCast, ← div_eq_mul_inv]
  rw [Nat.pow_eq, Nat.cast_pow, Nat.cast_ofNat]

/-- A number is finite unless it is out of the range of the numbers of 64 bits. -/
theorem isFinite_nearest_iff (d : Decimal) : d.nearest.isFinite = true ↔ ¬d.Overflows := by
  rw [nearest]
  split_ifs with hdigits hgreat hsmall hwhole
  · exact iff_of_true rfl (not_overflows_of_digits hdigits)
  · exact iff_of_false Bool.false_ne_true (not_not.mpr (overflows_of_exponent hdigits hgreat))
  · exact iff_of_true rfl (not_overflows_of_small hsmall)
  · rw [Binary64.isFinite_ofRatio_iff _ one_pos, Overflows, magnitude_of_nonneg hwhole, not_le]
  · have hpower : 0 < Nat.pow 10 (-d.exponent).toNat := Nat.pow_pos (by decide)
    rw [Binary64.isFinite_ofRatio_iff _ hpower, Overflows, magnitude_of_neg hwhole, not_le]

theorem isFinite_or_infinite (d : Decimal) :
    d.nearest.isFinite = true ∨ d.nearest = .infinite d.negative := by
  have hratio : ∀ num den, (Binary64.ofRatio d.negative num den).isFinite = true ∨
      Binary64.ofRatio d.negative num den = .infinite d.negative := by
    intro num den
    rw [Binary64.ofRatio, Binary64.ofUnits]
    split
    · exact .inl rfl
    · exact .inr rfl
  rw [nearest]
  split_ifs
  · exact .inl rfl
  · exact .inr rfl
  · exact .inl rfl
  · exact hratio _ _
  · exact hratio _ _

theorem not_overflows_natural {n k : Nat} (hn : n ≤ 2 ^ k) (hk : k ≤ 970) :
    ¬Overflows ⟨false, n, 0⟩ := by
  rw [Overflows, magnitude, zpow_zero, mul_one, not_le]
  calc (n : Rat) ≤ 2 ^ k := by exact_mod_cast hn
    _ < Binary64.overflowBound := Binary64.pow_lt_overflowBound hk

/-- Out of that range only the sign is kept. -/
theorem nearest_of_overflows (h : d.Overflows) : d.nearest = .infinite d.negative := by
  refine d.isFinite_or_infinite.resolve_left ?_
  rw [isFinite_nearest_iff, not_not]
  exact h

/-- The bound lies between these two. -/
example :
    nearest ⟨false, 17976931348623158, 292⟩ =
        .finite false ⟨Binary64.magnitudes - 1, by decide⟩ ∧
      nearest ⟨false, 17976931348623159, 292⟩ = .infinite false := by
  decide +kernel

end Decimal

end TableBook
