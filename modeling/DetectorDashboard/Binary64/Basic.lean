/-!
Floating-point numbers of 64 bits. A magnitude is a whole number of quanta of `2 ^ -1074`; it is
representable when at most 53 bits separate its highest and its lowest set bit and it stays below
`2 ^ 1024`. Rounding goes to the nearest representable magnitude, a tie to the even one.
-/

namespace DetectorDashboard.Binary64

/-- The binary places below one. -/
def places : Nat := 1074

/-- The quanta in one. -/
def one : Nat := Nat.pow 2 places

/-- The quanta of `2 ^ 1024`, the least power of two that is no magnitude. -/
def limit : Nat := Nat.pow 2 (places + 1024)

theorem limit_pos : 0 < limit := by
  unfold limit
  generalize places + 1024 = n
  exact Nat.two_pow_pos n

/-- How many low bits of a magnitude of `n` quanta have to be zero. -/
def excess (n : Nat) : Nat :=
  n.log2 - 52

def Representable (n : Nat) : Prop :=
  n < limit ∧ Nat.pow 2 (excess n) ∣ n

structure Magnitude where
  quanta : Nat
  representable : Representable quanta
deriving DecidableEq

/-- The whole number nearest to `num / den`, a tie going to the even one. -/
def roundHalfEven (num den : Nat) : Nat :=
  let quotient := num / den
  let rest := num % den
  if 2 * rest < den then quotient
  else if den < 2 * rest then quotient + 1
  else quotient + quotient % 2

/-- `num / den` quanta, rounded to 53 bits. -/
def roundQuanta (num den : Nat) : Nat :=
  let unit := Nat.pow 2 (excess (num / den))
  roundHalfEven num (den * unit) * unit

theorem roundHalfEven_le (num den : Nat) : roundHalfEven num den ≤ num / den + 1 := by
  have : num / den % 2 < 2 := Nat.mod_lt _ (by decide)
  unfold roundHalfEven
  dsimp only
  split
  · omega
  · split <;> omega

/-- A rounded number of quanta has at most 53 significant bits. -/
theorem roundQuanta_dvd (num den : Nat) :
    Nat.pow 2 (excess (roundQuanta num den)) ∣ roundQuanta num den := by
  have few : roundHalfEven num (den * Nat.pow 2 (excess (num / den))) ≤ Nat.pow 2 53 := by
    have h := roundHalfEven_le num (den * Nat.pow 2 (excess (num / den)))
    have lt : num / den < Nat.pow 2 (53 + excess (num / den)) :=
      Nat.lt_of_lt_of_le Nat.lt_log2_self
        (Nat.pow_le_pow_right (by decide) (by unfold excess; omega))
    have lt' : num / (den * Nat.pow 2 (excess (num / den))) < Nat.pow 2 53 := by
      rw [← Nat.div_div_eq_div_mul]
      exact (Nat.div_lt_iff_lt_mul (Nat.two_pow_pos _)).2
        (Nat.lt_of_lt_of_eq lt (Nat.pow_add 2 53 _))
    omega
  unfold roundQuanta
  dsimp only
  generalize roundHalfEven num (den * Nat.pow 2 (excess (num / den))) = k at few ⊢
  generalize excess (num / den) = e
  by_cases zero : k = 0
  · simp [zero]
  · rcases Nat.lt_or_eq_of_le few with lt | rfl
    · have small : excess (k * Nat.pow 2 e) ≤ e := by
        have nonzero : k * Nat.pow 2 e ≠ 0 :=
          Nat.mul_ne_zero zero (Nat.ne_of_gt (Nat.two_pow_pos e))
        have : (k * Nat.pow 2 e).log2 < 53 + e := by
          rw [Nat.log2_lt nonzero]
          exact Nat.lt_of_lt_of_eq (Nat.mul_lt_mul_of_pos_right lt (Nat.two_pow_pos e))
            (Nat.pow_add 2 53 e).symm
        unfold excess
        omega
      exact Nat.dvd_trans (Nat.pow_dvd_pow 2 small) (Nat.dvd_mul_left _ _)
    · have whole : Nat.pow 2 53 * Nat.pow 2 e = 2 ^ (53 + e) := (Nat.pow_add 2 53 e).symm
      rw [whole]
      refine Nat.pow_dvd_pow 2 ?_
      unfold excess
      rw [Nat.log2_two_pow]
      omega

namespace Magnitude

/-- The magnitude nearest to `num / den` quanta, unless that is too large for one. -/
def ofRatio? (num den : Nat) : Option Magnitude :=
  if h : roundQuanta num den < limit then some ⟨roundQuanta num den, h, roundQuanta_dvd num den⟩
  else none

def zero : Magnitude :=
  ⟨0, limit_pos, Nat.dvd_zero _⟩

def ofNat? (n : Nat) : Option Magnitude :=
  ofRatio? (n * one) 1

/-- The product with `num / den`, rounded. -/
def scale? (m : Magnitude) (num den : Nat) : Option Magnitude :=
  ofRatio? (m.quanta * num) den

/-- The nearest whole number, a half going up. -/
def nearestWhole (m : Magnitude) : Nat :=
  (2 * m.quanta + one) / (2 * one)

end Magnitude

/-- A number with a sign; zero has one too. -/
structure Finite where
  negative : Bool
  magnitude : Magnitude
deriving DecidableEq

end Binary64

/-- A 64-bit floating-point number. -/
inductive Binary64
  | finite (x : Binary64.Finite)
  | infinite (negative : Bool)
  | nan
deriving DecidableEq

namespace Binary64

/-- The number of this sign and magnitude, infinite where there is none. -/
def ofMagnitude? (negative : Bool) : Option Magnitude → Binary64
  | some m => .finite ⟨negative, m⟩
  | none => .infinite negative

/-- Applies an operation on magnitudes, keeping the sign. -/
def mapMagnitude (f : Magnitude → Option Magnitude) : Binary64 → Binary64
  | .finite x => ofMagnitude? x.negative (f x.magnitude)
  | x => x

/-- The product with `num / den`, rounded once. -/
def scale (num den : Nat) : Binary64 → Binary64 :=
  mapMagnitude (·.scale? num den)

/-- The nearest whole number, a half going away from zero. -/
def round : Binary64 → Binary64 :=
  mapMagnitude fun m => Magnitude.ofNat? m.nearestWhole

end Binary64

end DetectorDashboard
