import OasisEdge.Lib.Nearest
import OasisEdge.Lib.Decimal
import Mathlib.Data.Int.Log
import Mathlib.Data.List.DropRight

/-! # Significant digits

`significand p q` is the positive rational `q` to `p` significant digits, ties to even: the digits as
one number and the exponent of the first of them. It is off by at most half a unit of the last digit,
so by at most `q / (2 * 10 ^ (p - 1))` (`significand_near`). Since `10 ^ 16 > 2 ^ 53`, seventeen
digits are enough to tell a double from all others (`ofRat_significand`).

`formatG p` is the conversion `%1.<p>g` of `printf`. It writes the digits with a point among or
before them, or with an exponent where the point would be too far away, and leaves out the zeros at
the end of the fraction. -/

namespace OasisEdge.Lib.Significant

open OasisEdge.Lib.Doubles OasisEdge.Lib.Doubles.Double OasisEdge.Lib.Nearest OasisEdge.Lib.Decimal

/-! ### Rounding to significant digits -/

/-- `q` to `p` significant digits: the digits as a number, and the exponent of the first digit. -/
def significand (p : ℕ) (q : ℚ) : ℕ × ℤ :=
  let x := Int.log 10 q
  let r := q * 10 ^ ((p : ℤ) - 1 - x)
  let m := roundDiv r.num.natAbs r.den
  -- rounding up may give one more digit, a power of ten
  if m < 10 ^ p then (m, x) else (10 ^ (p - 1), x + 1)

theorem ten_zpow_pos (x : ℤ) : (0 : ℚ) < 10 ^ x := zpow_pos (by norm_num) x

theorem log10_spec {q : ℚ} (hq : 0 < q) : (10 : ℚ) ^ Int.log 10 q ≤ q ∧ q < 10 ^ (Int.log 10 q + 1) := by
  have hlo := Int.zpow_log_le_self (b := 10) (by norm_num) hq
  have hhi := Int.lt_zpow_succ_log_self (b := 10) (by norm_num) q
  push_cast at hlo hhi
  exact ⟨hlo, hhi⟩

/-- **The significand** has `p` digits and is off by at most half a unit of the last. -/
theorem significand_spec {p : ℕ} (hp : 0 < p) {q : ℚ} (hq : 0 < q) :
    10 ^ (p - 1) ≤ (significand p q).1 ∧ (significand p q).1 < 10 ^ p ∧
      |((significand p q).1 : ℚ) * 10 ^ ((significand p q).2 - (p - 1 : ℕ)) - q| ≤
        10 ^ (Int.log 10 q - (p - 1 : ℕ)) / 2 := by
  obtain ⟨hlo, hhi⟩ := log10_spec hq
  have hten : (10 : ℚ) ≠ 0 := by norm_num
  unfold significand
  simp only
  generalize Int.log 10 q = x at hlo hhi
  generalize hr : q * 10 ^ ((p : ℤ) - 1 - x) = r
  have hrpos : 0 < r := by rw [← hr]; exact mul_pos hq (ten_zpow_pos _)
  have hunit := ten_zpow_pos (x - (p - 1 : ℕ))
  -- the scaled number lies between the powers of ten that have `p` digits
  have hq' : q = r * 10 ^ (x - (p - 1 : ℕ)) := by
    rw [← hr, mul_assoc, ← zpow_add₀ hten, show (p : ℤ) - 1 - x + (x - (p - 1 : ℕ)) = 0 by omega,
      zpow_zero, mul_one]
  have hrlo : (10 : ℚ) ^ (p - 1) ≤ r := by
    rw [hq', show x = ((p - 1 : ℕ) : ℤ) + (x - (p - 1 : ℕ)) by omega, zpow_add₀ hten, zpow_natCast,
      show ((p - 1 : ℕ) : ℤ) + (x - (p - 1 : ℕ)) - (p - 1 : ℕ) = x - (p - 1 : ℕ) by omega] at hlo
    exact le_of_mul_le_mul_right hlo hunit
  have hrhi : r < (10 : ℚ) ^ p := by
    rw [hq', show x + 1 = (p : ℤ) + (x - (p - 1 : ℕ)) by omega, zpow_add₀ hten, zpow_natCast] at hhi
    exact lt_of_mul_lt_mul_right hhi hunit.le
  have hoff := abs_roundDiv_sub_le (n := r.num.natAbs) r.den_pos
  rw [natAbs_num_div_den, abs_of_pos hrpos] at hoff
  obtain ⟨hoff1, hoff2⟩ := abs_le.mp hoff
  generalize roundDiv r.num.natAbs r.den = m at hoff hoff1 hoff2
  have hscale : ∀ k : ℚ, |k * 10 ^ (x - (p - 1 : ℕ)) - q| = |k - r| * 10 ^ (x - (p - 1 : ℕ)) := by
    intro k
    rw [hq', ← sub_mul, abs_mul, abs_of_pos hunit]
  have hmlo : 10 ^ (p - 1) ≤ m := by
    have hlt : ((10 ^ (p - 1) : ℕ) : ℚ) < (m + 1 : ℕ) := by
      push_cast
      linarith
    have := Nat.cast_lt.mp hlt
    omega
  split_ifs with hm
  · refine ⟨hmlo, hm, ?_⟩
    rw [hscale]
    nlinarith
  · -- the digits are `10 ^ p`, one digit too many
    have hmeq : m = 10 ^ p := by
      have hlt : (m : ℚ) < (10 ^ p + 1 : ℕ) := by
        push_cast
        linarith
      have := Nat.cast_lt.mp hlt
      omega
    have hpow : (10 : ℕ) ^ (p - 1) < 10 ^ p := Nat.pow_lt_pow_right (by norm_num) (by omega)
    refine ⟨le_rfl, hpow, ?_⟩
    have hsame : ((10 ^ (p - 1) : ℕ) : ℚ) * 10 ^ (x + 1 - (p - 1 : ℕ)) =
        m * 10 ^ (x - (p - 1 : ℕ)) := by
      rw [hmeq, show x + 1 - ((p - 1 : ℕ) : ℤ) = 1 + (x - (p - 1 : ℕ)) by omega, zpow_add₀ hten,
        zpow_one, ← mul_assoc]
      congr 1
      have hsucc : p - 1 + 1 = p := by omega
      push_cast
      rw [← pow_succ, hsucc]
    rw [hsame, hscale]
    nlinarith

/-- The value of a significand of `p` digits. -/
def scaled (p m : ℕ) (x : ℤ) : ℚ := m * 10 ^ (x - (p - 1 : ℕ))

/-- The number to `p` significant digits. -/
def toSignificant (p : ℕ) (q : ℚ) : ℚ := scaled p (significand p q).1 (significand p q).2

/-- **The relative error** of `p` significant digits. -/
theorem toSignificant_near {p : ℕ} (hp : 0 < p) {q : ℚ} (hq : 0 < q) :
    |toSignificant p q - q| ≤ q / (2 * 10 ^ (p - 1)) := by
  obtain ⟨-, -, hoff⟩ := significand_spec hp hq
  have hlo := (log10_spec hq).1
  refine hoff.trans ?_
  rw [zpow_sub₀ (by norm_num), zpow_natCast, div_div, mul_comm ((10 : ℚ) ^ (p - 1)) 2]
  exact div_le_div_of_nonneg_right hlo (by positivity)

/-- A number of either sign to `p` significant digits. -/
def toSignificantSigned (p : ℕ) (q : ℚ) : ℚ :=
  if q < 0 then -toSignificant p |q| else toSignificant p |q|

/-- **Seventeen significant digits tell a double from all others.** -/
theorem ofRat_toSignificant {q : ℚ} (hq : IsDouble q) (hne : q ≠ 0) :
    ofRat (toSignificantSigned 17 q) = .fin q := by
  have hpos : 0 < |q| := abs_pos.mpr hne
  have hoff := toSignificant_near (p := 17) (by norm_num) hpos
  have hstrict : |q| / (2 * 10 ^ (17 - 1)) < |q| / 2 ^ 54 :=
    div_lt_div_of_pos_left hpos (by norm_num) (by norm_num)
  refine ofRat_of_near hq (lt_of_eq_of_lt ?_ (hoff.trans_lt hstrict))
  unfold toSignificantSigned
  split_ifs with hneg
  · rw [abs_of_neg hneg, ← neg_add', abs_neg, sub_neg_eq_add]
  · rw [abs_of_nonneg (not_lt.mp hneg)]

/-- The exponents of doubles have at most three digits. -/
theorem significand_exponent {p : ℕ} {q : ℚ} (hq : IsDouble q) (hpos : 0 < q) :
    -324 ≤ (significand p q).2 ∧ (significand p q).2 ≤ 309 := by
  obtain ⟨⟨m, e, -, he, rfl⟩, hover⟩ := hq
  rw [abs_of_pos hpos] at hover
  have hm : 1 ≤ m := by
    have hepos := two_zpow_pos e
    have hmq : (0 : ℚ) < m := by
      by_contra hneg
      have := mul_nonpos_of_nonpos_of_nonneg (not_lt.mp hneg) hepos.le
      linarith
    exact_mod_cast hmq
  have hmq : (1 : ℚ) ≤ m := by exact_mod_cast hm
  have hsmall : (10 : ℚ) ^ (-324 : ℤ) ≤ 2 ^ (-1074 : ℤ) := by
    have hnat : 2 ^ 1074 ≤ 10 ^ 324 := by decide +kernel
    rw [zpow_neg, zpow_neg]
    refine inv_anti₀ (by positivity) ?_
    exact_mod_cast hnat
  have hlarge : (2 : ℚ) ^ 1024 < ((10 : ℕ) : ℚ) ^ (309 : ℤ) := by
    have hnat : 2 ^ 1024 < 10 ^ 309 := by decide +kernel
    exact_mod_cast hnat
  have hlow : (10 : ℚ) ^ (-324 : ℤ) ≤ m * 2 ^ e := by
    calc (10 : ℚ) ^ (-324 : ℤ) ≤ 2 ^ (-1074 : ℤ) := hsmall
      _ ≤ 2 ^ e := zpow_le_zpow_right₀ (by norm_num) he
      _ ≤ m * 2 ^ e := le_mul_of_one_le_left (two_zpow_pos e).le hmq
  have hlog1 : -324 ≤ Int.log 10 ((m : ℚ) * 2 ^ e) := by
    rw [← Int.zpow_le_iff_le_log (by norm_num) hpos]
    exact_mod_cast hlow
  have hlog2 : Int.log 10 ((m : ℚ) * 2 ^ e) < 309 := by
    rw [← Int.lt_zpow_iff_log_lt (by norm_num) hpos]
    exact hover.trans hlarge
  unfold significand
  simp only
  split_ifs <;> constructor <;> omega

/-! ### `%g` -/

/-- Digits after a decimal point, with the point if there are any. -/
def withPoint (fs : List UInt8) : List UInt8 := if fs = [] then [] else 46 :: fs

/-- The fraction without the zeros at its end. -/
def fraction (fs : List UInt8) : List UInt8 := withPoint (fs.rdropWhile (· = 48))

/-- The exponent of `%e`: at least two digits after its sign. -/
def exponent (x : ℤ) : List UInt8 := 101 :: (if x < 0 then 45 else 43) :: paddedTo 2 x.natAbs

/-- A number of `p` digits whose first has the exponent `x`, as `%g` writes it. -/
def formatMag (p m : ℕ) (x : ℤ) : List UInt8 :=
  if x < -4 ∨ p ≤ x then (fixedWidth p m).take 1 ++ fraction ((fixedWidth p m).drop 1) ++ exponent x
  else if 0 ≤ x then
    (fixedWidth p m).take (x.toNat + 1) ++ fraction ((fixedWidth p m).drop (x.toNat + 1))
  else 48 :: fraction (List.replicate (-x - 1).toNat 48 ++ fixedWidth p m)

/-- The conversion `%1.<p>g`. -/
def formatG (p : ℕ) (q : ℚ) : List UInt8 :=
  if q = 0 then [48]
  else
    (if q < 0 then [45] else []) ++
      formatMag p (significand p |q|).1 (significand p |q|).2

example : formatG 15 (1 / 10) = [48, 46, 49] := by decide +kernel

example : formatG 15 (-123456789012345678) =
    [45, 49, 46, 50, 51, 52, 53, 54, 55, 56, 57, 48, 49, 50, 51, 52, 54, 101, 43, 49, 55] := by
  decide +kernel

end OasisEdge.Lib.Significant
