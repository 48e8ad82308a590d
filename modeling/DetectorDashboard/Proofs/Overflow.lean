import DetectorDashboard.Proofs.Rounding

/-! The numbers for which there is a magnitude. Up to the greatest magnitude and half a unit in its
last place beyond it a number is rounded to a magnitude; at that midpoint the even neighbour is the
one that is no magnitude any more. -/

namespace DetectorDashboard

namespace Binary64

/-- A number is rounded below an even whole number just if it is less than half beneath it. -/
theorem roundHalfEven_lt_iff {n : Nat} (heven : n % 2 = 0) (hn : 0 < n) {num den : Nat}
    (hden : 0 < den) : roundHalfEven num den < n ↔ 2 * num + den < 2 * n * den := by
  have hrest : num % den < den := Nat.mod_lt num hden
  have hnum : num = num / den * den + num % den := by
    rw [Nat.mul_comm]
    exact (Nat.div_add_mod num den).symm
  unfold roundHalfEven
  dsimp only
  generalize num / den = quotient at *
  generalize num % den = rest at *
  subst hnum
  rcases Nat.lt_trichotomy (quotient + 1) n with hlt | rfl | hgt
  · have hroom : (quotient + 2) * den ≤ n * den := Nat.mul_le_mul_right den hlt
    rw [Nat.add_mul] at hroom
    refine iff_of_true ?_ (by rw [Nat.mul_assoc]; omega)
    split
    · omega
    · split <;> omega
  · -- The unit just below: here, and only here, the rest decides.
    have hodd : quotient % 2 = 1 := by omega
    rw [Nat.mul_assoc, Nat.add_mul, hodd]
    split
    · omega
    · split <;> omega
  · have hbeyond : n * den ≤ quotient * den := Nat.mul_le_mul_right den (by omega)
    refine iff_of_false ?_ (by rw [Nat.mul_assoc]; omega)
    split
    · omega
    · split <;> omega

/-- The quotient fits the 53 places that are kept of it. -/
theorem lt_two_pow_excess (n : Nat) : n < 2 ^ (53 + excess n) :=
  Nat.lt_log2_self.trans_le (Nat.pow_le_pow_right (by decide) (by unfold excess; omega))

theorem roundHalfEven_le_two_pow (num den : Nat) :
    roundHalfEven num (den * 2 ^ excess (num / den)) ≤ 2 ^ 53 := by
  have hlt := lt_two_pow_excess (num / den)
  rw [Nat.pow_add, ← Nat.div_lt_iff_lt_mul (Nat.two_pow_pos _), Nat.div_div_eq_div_mul] at hlt
  exact (roundHalfEven_le _ _).trans hlt

theorem excess_le {n e : Nat} (h : n < 2 ^ (53 + e)) : excess n ≤ e := by
  by_cases hzero : n = 0
  · rw [hzero]
    exact Nat.zero_le e
  · have hlog : n.log2 < 53 + e := (Nat.log2_lt hzero).mpr h
    unfold excess
    omega

/-- A number is rounded below a power of two just if it is less than half a unit in the last of 53
places beneath it. -/
theorem roundQuanta_lt_two_pow_iff {num den : Nat} (hden : 0 < den) (e : Nat) :
    roundQuanta num den < 2 ^ (53 + e) ↔ 2 * num + den * 2 ^ e < 2 * 2 ^ 53 * (den * 2 ^ e) := by
  have hunit : 0 < 2 ^ e := Nat.two_pow_pos e
  have hpow (n : Nat) : 2 ^ (n + e) * den = 2 ^ n * (den * 2 ^ e) := by
    rw [Nat.pow_add, Nat.mul_assoc, Nat.mul_comm (2 ^ e)]
  have hpositive : 0 < den * 2 ^ e := Nat.mul_pos hden hunit
  have hrounded : roundQuanta num den =
      roundHalfEven num (den * 2 ^ excess (num / den)) * 2 ^ excess (num / den) := rfl
  by_cases hlarge : 2 ^ (53 + e) * den ≤ num
  · have hreached := two_pow_le_roundQuanta (by omega) hden hlarge
    rw [hpow] at hlarge
    exact iff_of_false (Nat.not_lt.mpr hreached) (by omega)
  have hquotient : num / den < 2 ^ (53 + e) := by
    rw [Nat.div_lt_iff_lt_mul hden]
    exact Nat.lt_of_not_le hlarge
  rcases Nat.lt_or_eq_of_le (excess_le hquotient) with hless | hsame
  · -- One place fewer is in use, so that even rounding up does not reach the power.
    refine iff_of_true ?_ ?_
    · calc roundQuanta num den ≤ 2 ^ 53 * 2 ^ excess (num / den) :=
            Nat.mul_le_mul_right _ (roundHalfEven_le_two_pow num den)
        _ = 2 ^ (53 + excess (num / den)) := (Nat.pow_add ..).symm
        _ < 2 ^ (53 + e) := Nat.pow_lt_pow_right (by decide) (by omega)
    · have hbelow : num / den < 2 ^ (52 + e) :=
        (lt_two_pow_excess _).trans_le (Nat.pow_le_pow_right (by decide) (by omega))
      rw [Nat.div_lt_iff_lt_mul hden, hpow] at hbelow
      omega
  · rw [hrounded, hsame, Nat.pow_add, Nat.mul_lt_mul_right hunit]
    exact roundHalfEven_lt_iff (by decide) (by decide) hpositive

/-- A number of quanta is rounded to a magnitude just if it is below the midpoint between the
greatest magnitude and the power of two that comes after it. -/
theorem roundQuanta_lt_limit_iff {num den : Nat} (hden : 0 < den) :
    roundQuanta num den < limit ↔ (num / den : ℚ) < one * (2 ^ 1024 - 2 ^ 970) := by
  have hratio : (0 : ℚ) < den := by exact_mod_cast hden
  have hpower (n k : Nat) (hn : n = places + 1 + k) : 2 ^ n = one * (2 * 2 ^ k) := by
    rw [hn, Nat.pow_add, Nat.pow_succ, ← one_eq, Nat.mul_assoc]
  have hlimit : limit = 2 ^ (53 + 2045) :=
    limit_eq.trans (congrArg (2 ^ ·) (rfl : places + 1024 = 53 + 2045))
  have hlast : 2 ^ 2045 = one * (2 * 2 ^ 970) := hpower 2045 970 rfl
  have hscaled (half : Nat) :
      2 * num + den * (one * (2 * half)) < 2 * 2 ^ 53 * (den * (one * (2 * half))) ↔
        (num / den : ℚ) < one * (2 ^ 54 * half - half) := by
    rw [div_lt_iff₀ hratio, ← Nat.cast_lt (α := ℚ)]
    push_cast
    generalize (one : ℚ) = unit
    constructor <;> intro h <;> linarith
  have hhalf : ((2 ^ 970 : Nat) : ℚ) = 2 ^ 970 := by rw [Nat.cast_pow, Nat.cast_ofNat]
  have hbound : (2 : ℚ) ^ 1024 = 2 ^ 54 * 2 ^ 970 := pow_add 2 54 970
  rw [hlimit, roundQuanta_lt_two_pow_iff hden, hlast, hscaled, hhalf, hbound]

theorem Magnitude.isSome_ofRatio?_iff (num den : Nat) :
    (ofRatio? num den).isSome ↔ roundQuanta num den < limit := by
  rw [ofRatio?]
  split
  · rename_i hlt
    exact iff_of_true rfl hlt
  · rename_i hlarge
    exact iff_of_false Bool.false_ne_true hlarge

end Binary64

/-- There is a magnitude for a number just if it is below the midpoint. -/
theorem Decimal.isSome_magnitude?_iff (d : Decimal) :
    d.magnitude?.isSome ↔ d.value < 2 ^ 1024 - 2 ^ 970 := by
  obtain ⟨num, den, hden, hratio⟩ :=
    exists_ratio (mul_nonneg d.value_nonneg (Nat.cast_nonneg Binary64.one))
  have hone : (0 : ℚ) < Binary64.one := by exact_mod_cast Binary64.one_pos
  rw [magnitude?_eq_ofRatio? hden hratio, Binary64.Magnitude.isSome_ofRatio?_iff,
    Binary64.roundQuanta_lt_limit_iff hden, ← hratio, mul_comm, mul_lt_mul_iff_right₀ hone]

end DetectorDashboard
