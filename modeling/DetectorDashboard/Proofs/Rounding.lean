import Mathlib.Algebra.Order.Field.Basic
import Mathlib.Data.Rat.Cast.Order
import Mathlib.Tactic.FieldSimp
import Mathlib.Tactic.GCongr
import Mathlib.Tactic.Linarith
import Mathlib.Tactic.NormNum
import Mathlib.Tactic.Positivity
import Mathlib.Tactic.Ring
import DetectorDashboard.Decimal.Shortest

/-! Rounding to a magnitude. What a ratio is rounded to depends on its value only, and a magnitude is
rounded to itself. So a decimal number is rounded by its value: the ends between which its exponent
is brought make no difference, since beyond the one everything is too large and beyond the other
everything rounds to zero. In particular the shortest decimal number of a magnitude reads back. -/

namespace DetectorDashboard

namespace Binary64

theorem one_eq : one = 2 ^ places := by
  unfold one
  generalize places = n
  rfl

theorem limit_eq : limit = 2 ^ (places + 1024) := by
  unfold limit
  generalize places + 1024 = n
  rfl

theorem one_pos : 0 < one := by
  rw [one_eq]
  exact Nat.two_pow_pos places

/-- Four hundred decimal places before the point are too many for a magnitude. -/
theorem limit_le : limit ≤ one * 10 ^ 400 := by
  have hpart : 2 ^ 128 ≤ 10 ^ 50 := by decide
  have hparts (n bits digits : Nat) (hbits : bits = 128 * n) (hdigits : digits = 50 * n)
      (hlimit : limit = 2 ^ (places + bits)) : limit ≤ one * 10 ^ digits := by
    rw [hlimit, one_eq, Nat.pow_add, hbits, hdigits, Nat.pow_mul, Nat.pow_mul]
    exact Nat.mul_le_mul_left _ (Nat.pow_le_pow_left hpart n)
  exact hparts 8 1024 400 rfl rfl limit_eq

/-- Eleven hundred decimal places behind the point are too many for half a quantum. -/
theorem two_mul_one_le : 2 * one ≤ 10 ^ 1100 := by
  have hpower {bits digits : Nat} (h : bits ≤ digits) : 2 ^ bits ≤ 10 ^ digits :=
    (Nat.pow_le_pow_left (by decide) bits).trans (Nat.pow_le_pow_right (by decide) h)
  rw [one_eq, ← Nat.pow_succ']
  exact hpower (by decide)

theorem le_roundHalfEven (num den : Nat) : num / den ≤ roundHalfEven num den := by
  unfold roundHalfEven
  dsimp only
  split
  · exact le_rfl
  · split <;> omega

/-! ### Ratios -/

theorem roundHalfEven_mul {k : Nat} (hk : 0 < k) (num den : Nat) :
    roundHalfEven (k * num) (k * den) = roundHalfEven num den := by
  simp only [roundHalfEven, Nat.mul_div_mul_left _ _ hk, Nat.mul_mod_mul_left,
    Nat.mul_left_comm 2 k, Nat.mul_lt_mul_left hk]

theorem roundQuanta_mul {k : Nat} (hk : 0 < k) (num den : Nat) :
    roundQuanta (k * num) (k * den) = roundQuanta num den := by
  simp only [roundQuanta, Nat.mul_div_mul_left _ _ hk, Nat.mul_assoc, roundHalfEven_mul hk]

theorem roundQuanta_congr {num den num' den' : Nat} (hden : 0 < den) (hden' : 0 < den')
    (h : num * den' = num' * den) : roundQuanta num den = roundQuanta num' den' := by
  rw [← roundQuanta_mul hden' num den, ← roundQuanta_mul hden num' den', Nat.mul_comm den' num, h,
    Nat.mul_comm num' den, Nat.mul_comm den' den]

/-- Less than half a quantum is rounded to nothing. -/
theorem roundQuanta_of_small {num den : Nat} (h : 2 * num < den) : roundQuanta num den = 0 := by
  have hlt : num < den := by omega
  simp [roundQuanta, roundHalfEven, excess, Nat.div_eq_of_lt hlt, Nat.mod_eq_of_lt hlt, h]

theorem roundQuanta_of_representable {n : Nat} (h : Representable n) : roundQuanta n 1 = n := by
  have hrest : n % Nat.pow 2 (excess n) = 0 := Nat.mod_eq_zero_of_dvd h.2
  have hunit : 0 < Nat.pow 2 (excess n) := Nat.two_pow_pos _
  simp only [roundQuanta, Nat.div_one, Nat.one_mul, roundHalfEven, hrest, Nat.mul_zero, hunit,
    if_true]
  exact Nat.div_mul_cancel h.2

/-- What is beyond a power of two is still so when it has been rounded. -/
theorem two_pow_le_roundQuanta {n num den : Nat} (hn : 52 ≤ n) (hden : 0 < den)
    (h : 2 ^ n * den ≤ num) : 2 ^ n ≤ roundQuanta num den := by
  have hquotient : 2 ^ n ≤ num / den := (Nat.le_div_iff_mul_le hden).mpr h
  have hne : num / den ≠ 0 := ((Nat.two_pow_pos n).trans_le hquotient).ne'
  have hlog : n ≤ (num / den).log2 := (Nat.le_log2 hne).mpr hquotient
  have hexcess : 52 + excess (num / den) = (num / den).log2 :=
    Nat.add_sub_cancel' (hn.trans hlog)
  have hbits : 2 ^ 52 ≤ num / (den * 2 ^ excess (num / den)) := by
    rw [← Nat.div_div_eq_div_mul, Nat.le_div_iff_mul_le (Nat.two_pow_pos _), ← Nat.pow_add, hexcess]
    exact Nat.log2_self_le hne
  calc 2 ^ n ≤ 2 ^ (num / den).log2 := Nat.pow_le_pow_right (by decide) hlog
    _ = 2 ^ 52 * 2 ^ excess (num / den) := by rw [← Nat.pow_add, hexcess]
    _ ≤ roundQuanta num den := Nat.mul_le_mul_right _ (hbits.trans (le_roundHalfEven ..))

theorem limit_le_roundQuanta {num den : Nat} (hden : 0 < den) (h : limit * den ≤ num) :
    limit ≤ roundQuanta num den := by
  rw [limit_eq] at h ⊢
  exact two_pow_le_roundQuanta (by decide) hden h

namespace Magnitude

theorem ofRatio?_eq_some_iff {num den : Nat} {m : Magnitude} :
    ofRatio? num den = some m ↔ roundQuanta num den = m.quanta := by
  unfold ofRatio?
  split
  · constructor
    · intro heq
      exact congrArg quanta (Option.some.inj heq)
    · intro heq
      obtain ⟨quanta, hquanta⟩ := m
      subst heq
      rfl
  · rename_i hlarge
    exact iff_of_false nofun fun heq => hlarge (heq ▸ m.representable.1)

theorem ofRatio?_congr {num den num' den' : Nat} (h : roundQuanta num den = roundQuanta num' den') :
    ofRatio? num den = ofRatio? num' den' := by
  ext m
  rw [ofRatio?_eq_some_iff, ofRatio?_eq_some_iff, h]

theorem ofRatio?_of_large {num den : Nat} (hden : 0 < den) (h : limit * den ≤ num) :
    ofRatio? num den = none := by
  rw [ofRatio?, dif_neg (Nat.not_lt.mpr (limit_le_roundQuanta hden h))]

/-- A magnitude is rounded to itself. -/
theorem ofRatio?_quanta (m : Magnitude) : ofRatio? m.quanta 1 = some m :=
  ofRatio?_eq_some_iff.mpr (roundQuanta_of_representable m.representable)

end Magnitude

end Binary64

/-! ### Decimal numbers -/

namespace Decimal

open Binary64 (one one_pos limit)
open Binary64.Magnitude (ofRatio? ofRatio?_congr ofRatio?_of_large ofRatio?_quanta)

/-- The number itself. -/
def value (d : Decimal) : ℚ :=
  d.coefficient * 10 ^ d.exponent

/-- Zeros at the end of the coefficient count as well in the exponent. -/
theorem value_mul_pow (c k : Nat) (e : Int) :
    (⟨c * 10 ^ k, e⟩ : Decimal).value = (⟨c, e + k⟩ : Decimal).value := by
  rw [value, value, Nat.cast_mul, Nat.cast_pow, Nat.cast_ofNat, zpow_add₀ (by norm_num),
    zpow_natCast, mul_assoc, mul_comm (10 ^ e)]

variable {d : Decimal} {num den : Nat}

/-- Equal ratios are rounded alike. -/
theorem ofRatio?_congr_of_eq {num' den' : Nat} (hden : 0 < den) (hden' : 0 < den')
    (h : (num / den : ℚ) = num' / den') : ofRatio? num den = ofRatio? num' den' := by
  have hratio : (den : ℚ) ≠ 0 := by exact_mod_cast hden.ne'
  have hratio' : (den' : ℚ) ≠ 0 := by exact_mod_cast hden'.ne'
  rw [div_eq_div_iff hratio hratio'] at h
  exact ofRatio?_congr (Binary64.roundQuanta_congr hden hden' (by exact_mod_cast h))

/-- The number that is rounded, as a ratio. -/
theorem exists_magnitude?_eq (d : Decimal) :
    ∃ num den : Nat, 0 < den ∧ (d.coefficient : ℚ) * 10 ^ d.reach * one = num / den ∧
      d.magnitude? = ofRatio? num den := by
  unfold magnitude?
  cases d.reach with
  | ofNat e =>
      refine ⟨d.coefficient * 10 ^ e * one, 1, Nat.one_pos, ?_, rfl⟩
      rw [Int.ofNat_eq_natCast, zpow_natCast, Nat.cast_one, div_one, Nat.cast_mul, Nat.cast_mul,
        Nat.cast_pow, Nat.cast_ofNat]
  | negSucc e =>
      refine ⟨d.coefficient * one, 10 ^ (e + 1), Nat.pow_pos (by decide), ?_, rfl⟩
      rw [zpow_negSucc, mul_right_comm, Nat.cast_mul, Nat.cast_pow, Nat.cast_ofNat,
        div_eq_mul_inv]

section

variable {c e : Nat} {k : Int} (hden : 0 < den) (h : (c : ℚ) * 10 ^ k * one = num / den)

include hden h

/-- From the greater end on, everything but zero is too large. -/
theorem ofRatio?_of_reach_le (he : limit ≤ one * 10 ^ e) (hc : c ≠ 0) (hk : e ≤ k) :
    ofRatio? num den = none := by
  refine ofRatio?_of_large hden ?_
  have hratio : (0 : ℚ) < den := by exact_mod_cast hden
  have hone : (0 : ℚ) < one := by exact_mod_cast one_pos
  have hend : (limit : ℚ) ≤ one * 10 ^ e := by exact_mod_cast he
  have hcoefficient : (1 : ℚ) ≤ c := by exact_mod_cast Nat.one_le_iff_ne_zero.mpr hc
  have hpower : (10 : ℚ) ^ e ≤ 10 ^ k := by
    rw [← zpow_natCast]
    exact zpow_le_zpow_right₀ (by norm_num) hk
  rw [eq_div_iff hratio.ne'] at h
  have hcleared : (limit : ℚ) * den ≤ num := by
    rw [← h]
    generalize (one : ℚ) = unit at *
    calc (limit : ℚ) * den ≤ unit * 10 ^ e * den := by gcongr
      _ = 1 * 10 ^ e * unit * den := by ring
      _ ≤ c * 10 ^ k * unit * den := by gcongr
  exact_mod_cast hcleared

/-- Up to the lesser end everything rounds to zero. -/
theorem roundQuanta_of_le_reach (he : 2 * one ≤ 10 ^ e)
    (hk : k ≤ -((Text.digits c).length + e)) : Binary64.roundQuanta num den = 0 := by
  refine Binary64.roundQuanta_of_small ?_
  have hratio : (0 : ℚ) < den := by exact_mod_cast hden
  have hone : (0 : ℚ) < one := by exact_mod_cast one_pos
  have hend : (2 * one : ℚ) ≤ 10 ^ e := by exact_mod_cast he
  have hcoefficient : (c : ℚ) < 10 ^ (Text.digits c).length := by
    have hlength := (Nat.length_toDigits_le_iff (by decide) Nat.length_toDigits_pos).mp
      (le_refl (Text.digits c).length)
    exact_mod_cast hlength
  have hpower : (10 : ℚ) ^ k ≤ (10 ^ (Text.digits c).length * 10 ^ e)⁻¹ := by
    rw [← pow_add, ← zpow_natCast, ← zpow_neg]
    exact zpow_le_zpow_right₀ (by norm_num) (by exact_mod_cast hk)
  rw [eq_div_iff hratio.ne'] at h
  have hcleared : (2 : ℚ) * num < den := by
    rw [← h]
    generalize (one : ℚ) = unit at *
    have hplaces : (0 : ℚ) < 10 ^ (Text.digits c).length := by positivity
    generalize (10 : ℚ) ^ (Text.digits c).length = places at *
    calc (2 : ℚ) * (c * 10 ^ k * unit * den) = c * 10 ^ k * (2 * unit) * den := by ring
      _ ≤ c * (places * 10 ^ e)⁻¹ * 10 ^ e * den := by gcongr
      _ = c / places * den := by field_simp
      _ < 1 * den := by
          gcongr
          exact (div_lt_one hplaces).mpr hcoefficient
      _ = den := one_mul _
  exact_mod_cast hcleared

end

/-- The ends between which the exponent is brought make no difference. -/
theorem magnitude?_eq_ofRatio? (hden : 0 < den) (h : d.value * one = num / den) :
    d.magnitude? = ofRatio? num den := by
  obtain ⟨num', den', hden', h', hmagnitude⟩ := d.exists_magnitude?_eq
  rw [hmagnitude]
  by_cases hzero : d.coefficient = 0
  · rw [value, hzero, Nat.cast_zero, zero_mul, zero_mul] at h
    rw [hzero, Nat.cast_zero, zero_mul, zero_mul] at h'
    exact ofRatio?_congr_of_eq hden' hden (h'.symm.trans h)
  have hreach : d.reach =
      max (-((Text.digits d.coefficient).length + 1100 : Int)) (min d.exponent 400) := rfl
  rcases lt_or_ge 400 d.exponent with hlarge | hle
  · rw [ofRatio?_of_reach_le hden' h' Binary64.limit_le hzero (by omega),
      ofRatio?_of_reach_le hden h Binary64.limit_le hzero (by omega)]
  rcases lt_or_ge d.exponent (-((Text.digits d.coefficient).length + 1100 : Int)) with hsmall | hge
  · refine ofRatio?_congr ?_
    rw [roundQuanta_of_le_reach hden' h' Binary64.two_mul_one_le (by omega),
      roundQuanta_of_le_reach hden h Binary64.two_mul_one_le (by omega)]
  · have hsame : d.reach = d.exponent := by omega
    rw [hsame] at h'
    exact ofRatio?_congr_of_eq hden' hden (h'.symm.trans h)

theorem value_nonneg (d : Decimal) : 0 ≤ d.value :=
  mul_nonneg (Nat.cast_nonneg _) (zpow_nonneg (by norm_num) _)

theorem exists_ratio {q : ℚ} (h : 0 ≤ q) : ∃ num den : Nat, 0 < den ∧ q = num / den := by
  refine ⟨q.num.toNat, q.den, q.den_pos, ?_⟩
  rw [← Int.cast_natCast q.num.toNat, Int.toNat_of_nonneg (Rat.num_nonneg.mpr h), Rat.num_div_den]

/-- Decimal numbers are rounded by their values. -/
theorem magnitude?_congr {d d' : Decimal} (h : d.value = d'.value) :
    d.magnitude? = d'.magnitude? := by
  obtain ⟨num, den, hden, hratio⟩ :=
    exists_ratio (mul_nonneg d.value_nonneg (Nat.cast_nonneg one))
  rw [magnitude?_eq_ofRatio? hden hratio, magnitude?_eq_ofRatio? hden (by rw [← h, hratio])]

/-- The decimal number that a magnitude is has the quanta of the magnitude. -/
theorem value_ofMagnitude (m : Binary64.Magnitude) : (ofMagnitude m).value * one = m.quanta := by
  have hpowers (n : Nat) (quanta : ℚ) :
      quanta * 5 ^ n * 10 ^ (-n : Int) * 2 ^ n = quanta := by
    have hten : (10 : ℚ) ^ n = 5 ^ n * 2 ^ n := by
      rw [← mul_pow]
      norm_num
    rw [zpow_neg, zpow_natCast, hten]
    field_simp
  have hcoefficient : (ofMagnitude m).coefficient = m.quanta * 5 ^ Binary64.places := by
    unfold ofMagnitude
    generalize Binary64.places = n
    rfl
  have hexponent : (ofMagnitude m).exponent = -(Binary64.places : Int) := rfl
  rw [value, hcoefficient, hexponent, Binary64.one_eq, Nat.cast_mul, Nat.cast_pow, Nat.cast_pow,
    Nat.cast_ofNat, Nat.cast_ofNat]
  exact hpowers _ _

theorem magnitude?_ofMagnitude (m : Binary64.Magnitude) : (ofMagnitude m).magnitude? = some m := by
  have hvalue : (ofMagnitude m).value * one = m.quanta / (1 : Nat) := by
    rw [value_ofMagnitude, Nat.cast_one, div_one]
  rw [magnitude?_eq_ofRatio? Nat.one_pos hvalue, ofRatio?_quanta]

theorem magnitude?_shortest (tie : Tie) (m : Binary64.Magnitude) :
    (shortest tie m).magnitude? = some m := by
  rcases shortest_eq_or_readsBack tie m with hexact | hback
  · rw [hexact, magnitude?_ofMagnitude]
  · exact hback

end Decimal

end DetectorDashboard
