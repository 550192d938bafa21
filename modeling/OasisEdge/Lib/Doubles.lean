import Mathlib.Data.Rat.Cast.Order
import Mathlib.Data.Rat.Floor
import Mathlib.Algebra.Order.Field.Rat
import Mathlib.Tactic.Linarith
import Mathlib.Tactic.NormNum
import Mathlib.Tactic.Positivity

/-! # Double-precision numbers as rationals

A double that is not a NaN is a rational, the negative zero or an infinity; the rational `0` is the
positive zero. Rounding to nearest, ties to even, goes to a multiple of the unit in the last place of
the result (`roundMag`); the unit is at least `2^-1074`, a magnitude that rounds to `2^1024` or more
overflows, and what rounds to zero keeps its sign (`ofRat`). An integer below `2^53` in magnitude is a
double (`ofRat_intCast`).

Conversions back to integers truncate toward zero. `toIntSat` saturates at the ends of a range;
`toNatBelow` is defined only where C defines the conversion to an unsigned type, that is where the
truncated value fits. -/

namespace OasisEdge.Lib.Doubles

/-- A double other than NaN. -/
inductive Double
  | negInf
  | negZero
  | fin (q : ℚ)
  | posInf
deriving DecidableEq

namespace Double

/-! ### Truncation -/

/-- The integer part, toward zero. -/
def trunc (q : ℚ) : ℤ := if 0 ≤ q then ⌊q⌋ else ⌈q⌉

@[simp] theorem trunc_intCast (z : ℤ) : trunc z = z := by simp [trunc]

theorem trunc_mem {lo hi : ℤ} {q : ℚ} (hlo : (lo : ℚ) < q) (hhi : q < hi) :
    lo ≤ trunc q ∧ trunc q ≤ hi := by
  unfold trunc
  split_ifs with h
  · exact ⟨Int.le_floor.mpr hlo.le, (Int.floor_lt.mpr hhi).le⟩
  · exact ⟨(Int.lt_ceil.mpr hlo).le, Int.ceil_le.mpr hhi.le⟩

/-- Conversion to an integer type with the ends `lo` and `hi`, saturating. -/
def toIntSat (lo hi : ℤ) : Double → ℤ
  | negInf => lo
  | posInf => hi
  | negZero => max lo (min hi 0)
  | fin q => if (hi : ℚ) ≤ q then hi else if q ≤ (lo : ℚ) then lo else trunc q

/-- Conversion to an unsigned type with `n` values, where it is defined. -/
def toNatBelow (n : ℕ) : Double → Option ℕ
  | fin q => if -1 < q ∧ q < n then some (trunc q).toNat else none
  | negZero => if 0 < n then some 0 else none
  | _ => none

theorem toIntSat_intCast {lo hi : ℤ} (h : lo ≤ hi) (z : ℤ) :
    toIntSat lo hi (fin z) = max lo (min hi z) := by
  simp only [toIntSat, Int.cast_le, trunc_intCast]
  split_ifs <;> omega

theorem toIntSat_mem {lo hi : ℤ} (h : lo ≤ hi) (d : Double) :
    lo ≤ toIntSat lo hi d ∧ toIntSat lo hi d ≤ hi := by
  cases d with
  | negInf => exact ⟨le_rfl, h⟩
  | posInf => exact ⟨h, le_rfl⟩
  | negZero => simp only [toIntSat]; omega
  | fin q =>
    simp only [toIntSat]
    split_ifs with h1 h2
    · exact ⟨h, le_rfl⟩
    · exact ⟨le_rfl, h⟩
    · exact trunc_mem (not_le.mp h2) (not_le.mp h1)

/-! ### Rounding -/

/-- `2^k ≤ n / d`. -/
def PowLe (k : ℤ) (n d : ℕ) : Prop :=
  if 0 ≤ k then d * 2 ^ k.toNat ≤ n else d ≤ n * 2 ^ (-k).toNat

instance (k : ℤ) (n d : ℕ) : Decidable (PowLe k n d) := by unfold PowLe; infer_instance

/-- The binary exponent of `n / d`. -/
def ilog2 (n d : ℕ) : ℤ :=
  if PowLe ((n.log2 : ℤ) - d.log2) n d then (n.log2 : ℤ) - d.log2 else (n.log2 : ℤ) - d.log2 - 1

/-- `n / d` to the nearest integer, ties to even. -/
def roundDiv (n d : ℕ) : ℕ :=
  if 2 * (n % d) < d then n / d
  else if d < 2 * (n % d) then n / d + 1
  else n / d + n / d % 2

/-- `n / d` to the nearest multiple of `2^e`. -/
def roundAt (e : ℤ) (n d : ℕ) : ℚ :=
  if 0 ≤ e then (roundDiv n (d * 2 ^ e.toNat) * 2 ^ e.toNat : ℕ)
  else (roundDiv (n * 2 ^ (-e).toNat) d : ℕ) / (2 ^ (-e).toNat : ℕ)

/-- `n / d` to the nearest double, if there were no largest one. -/
def roundMag (n d : ℕ) : ℚ := roundAt (max (ilog2 n d - 52) (-1074)) n d

/-- **Rounding to the nearest double.** -/
def ofRat (q : ℚ) : Double :=
  let m := roundMag q.num.natAbs q.den
  if 2 ^ 1024 ≤ m then if q < 0 then negInf else posInf
  else if q < 0 then if m = 0 then negZero else fin (-m)
  else fin m

/-- Conversion of an integer. -/
def ofInt (z : ℤ) : Double := ofRat z

theorem roundDiv_one (n : ℕ) : roundDiv n 1 = n := by
  unfold roundDiv
  rw [Nat.mod_one, if_pos (by omega), Nat.div_one]

theorem roundAt_one {e : ℤ} (he : e ≤ 0) (n : ℕ) : roundAt e n 1 = n := by
  unfold roundAt
  by_cases h0 : 0 ≤ e
  · obtain rfl : e = 0 := by omega
    simp [roundDiv_one]
  · rw [if_neg h0, roundDiv_one]
    push_cast
    rw [mul_div_assoc, div_self (by positivity), mul_one]

theorem ilog2_one_le {n k : ℕ} (h : n < 2 ^ (k + 1)) : ilog2 n 1 ≤ k := by
  have hk : n.log2 ≤ k := by
    rcases Nat.eq_zero_or_pos n with rfl | hn
    · simp
    · have := (Nat.log2_lt (by omega : n ≠ 0)).mpr h; omega
  unfold ilog2
  have h1 : Nat.log2 1 = 0 := by decide
  rw [h1]
  split_ifs <;> omega

/-- **Integers below `2^53` are doubles.** -/
theorem ofRat_intCast {z : ℤ} (h : z.natAbs < 2 ^ 53) : ofRat z = fin z := by
  have hm : roundMag z.natAbs 1 = z.natAbs := by
    refine roundAt_one ?_ _
    have := ilog2_one_le (k := 52) h
    omega
  unfold ofRat
  simp only [Rat.num_intCast, Rat.den_intCast, hm]
  have hlt : ¬ ((2 : ℚ) ^ 1024 ≤ z.natAbs) := by
    rw [not_le]
    calc ((z.natAbs : ℕ) : ℚ) < (2 ^ 53 : ℕ) := by exact_mod_cast h
      _ ≤ (2 ^ 1024 : ℕ) := by exact_mod_cast Nat.pow_le_pow_right (by norm_num) (by norm_num)
      _ = 2 ^ 1024 := by rw [Nat.cast_pow, Nat.cast_ofNat]
  rw [if_neg hlt]
  have habs : ((z.natAbs : ℕ) : ℚ) = |(z : ℚ)| := by rw [← Int.cast_abs, Int.abs_eq_natAbs]; simp
  rw [habs]
  split_ifs with hz h0
  · exact absurd (abs_eq_zero.mp h0) hz.ne
  · rw [abs_of_neg hz, neg_neg]
  · rw [abs_of_nonneg (not_lt.mp hz)]

theorem le_roundDiv (n d : ℕ) : n / d ≤ roundDiv n d := by
  unfold roundDiv
  split_ifs <;> omega

theorem ilog2_one_le_log2 (n : ℕ) : ilog2 n 1 ≤ n.log2 := by
  unfold ilog2
  have h1 : Nat.log2 1 = 0 := by decide
  rw [h1]
  split_ifs <;> omega

theorem le_two_mul_roundMag {n : ℕ} (hn : n ≠ 0) : (n : ℚ) ≤ 2 * roundMag n 1 := by
  unfold roundMag
  have hlog := ilog2_one_le_log2 n
  rcases le_or_gt (max (ilog2 n 1 - 52) (-1074)) 0 with he | he
  · rw [roundAt_one he]
    have : (0 : ℚ) ≤ n := Nat.cast_nonneg n
    linarith
  · -- the unit is a power of two not above `n`, so the quotient is at least one
    obtain ⟨k, hk⟩ := Int.eq_ofNat_of_zero_le he.le
    have hkn : 2 ^ k ≤ n := by
      calc 2 ^ k ≤ 2 ^ n.log2 := Nat.pow_le_pow_right (by norm_num) (by omega)
        _ ≤ n := Nat.log2_self_le hn
    rw [hk, roundAt, if_pos (Int.natCast_nonneg k), one_mul, Int.toNat_natCast]
    have hq : 1 ≤ n / 2 ^ k := Nat.div_pos hkn (by positivity)
    have hr := Nat.mod_lt n (show 0 < 2 ^ k by positivity)
    have hdiv := Nat.div_add_mod n (2 ^ k)
    have hle := Nat.mul_le_mul_right (2 ^ k) (le_roundDiv n (2 ^ k))
    have hone := Nat.mul_le_mul_right (2 ^ k) hq
    rw [mul_comm] at hdiv
    have : n ≤ 2 * (roundDiv n (2 ^ k) * 2 ^ k) := by omega
    exact_mod_cast this

theorem ofInt_eq {z : ℤ} (h : z.natAbs < 2 ^ 53) : ofInt z = fin z := ofRat_intCast h

/-- **Saturation of a converted integer**: what does not fit into the range is not below its end
after rounding either. -/
theorem toIntSat_ofInt {lo hi z : ℤ} (hlo : lo ≤ 0) (hhi : 0 ≤ hi) (hhi' : hi < 2 ^ 52)
    (hz : 0 ≤ z) : toIntSat lo hi (ofInt z) = min hi z := by
  rcases lt_or_ge z.natAbs (2 ^ 53) with hlt | hge
  · rw [ofInt_eq hlt, toIntSat_intCast (by omega)]
    omega
  · have hround := le_two_mul_roundMag (show z.natAbs ≠ 0 by omega)
    have hbig : (hi : ℚ) ≤ roundMag z.natAbs 1 := by
      have h1 : ((2 ^ 53 : ℕ) : ℚ) ≤ z.natAbs := by exact_mod_cast hge
      have h2 : (hi : ℚ) ≤ 2 ^ 52 := by exact_mod_cast hhi'.le
      push_cast at h1
      linarith
    have hneg : ¬ ((z : ℚ) < 0) := not_lt.mpr (by exact_mod_cast hz)
    have hsat : toIntSat lo hi (ofInt z) = hi := by
      unfold ofInt ofRat
      simp only [Rat.num_intCast, Rat.den_intCast]
      split_ifs with hover
      · rfl
      · rw [toIntSat, if_pos hbig]
    rw [hsat]
    omega

end Double

end OasisEdge.Lib.Doubles
