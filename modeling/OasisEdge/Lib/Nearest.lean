import OasisEdge.Lib.Doubles
import Mathlib.Algebra.Order.Field.Power

/-! # Rounding recovers what is near

A finite double is an integer below `2^53` in magnitude times a power of two that is at least
`2^-1074`, and is below `2^1024` in magnitude (`IsDouble`). Rounding gives such a number
(`isDouble_of_ofRat`) and leaves it alone. More: every rational that is closer to a double `x` than
`|x| / 2^54` rounds to `x` (`ofRat_of_near`), since half a unit in the last place of a double is
never less. -/

namespace OasisEdge.Lib.Nearest

open OasisEdge.Lib.Doubles OasisEdge.Lib.Doubles.Double

/-! ### Quotients of natural numbers -/

theorem roundDiv_half {n d : ℕ} (hd : 0 < d) :
    2 * (roundDiv n d * d) ≤ 2 * n + d ∧ 2 * n ≤ 2 * (roundDiv n d * d) + d := by
  have hdiv := Nat.div_add_mod n d
  have hmod := Nat.mod_lt n hd
  have hbit := Nat.mod_two_eq_zero_or_one (n / d)
  unfold roundDiv
  generalize n / d = q at *
  generalize n % d = r at *
  rw [mul_comm] at hdiv
  have hsucc : (q + 1) * d = q * d + d := by rw [Nat.add_mul, Nat.one_mul]
  split_ifs with h1 h2
  · omega
  · rw [hsucc]
    omega
  · rcases hbit with hbit | hbit
    · rw [hbit, Nat.add_zero]
      omega
    · rw [hbit, hsucc]
      omega

theorem roundDiv_of_near {n d k : ℕ} (hd : 0 < d) (h : |(n : ℚ) / d - k| < 1 / 2) :
    roundDiv n d = k := by
  have hdq : (0 : ℚ) < d := by exact_mod_cast hd
  have hmul : (n : ℚ) / d * d = n := div_mul_cancel₀ _ hdq.ne'
  obtain ⟨hlo, hhi⟩ := abs_lt.mp h
  have h1 : 2 * (k * d) < 2 * n + d := by
    have hq : (2 * (k * d) : ℚ) < 2 * n + d := by nlinarith
    exact_mod_cast hq
  have h2 : 2 * n < 2 * (k * d) + d := by
    have hq : (2 * n : ℚ) < 2 * (k * d) + d := by nlinarith
    exact_mod_cast hq
  obtain ⟨h3, h4⟩ := roundDiv_half (n := n) hd
  -- two integers whose distances from the quotient add up to less than one
  have hlt1 : roundDiv n d * d < (k + 1) * d := by rw [Nat.add_mul]; omega
  have hlt2 : k * d < (roundDiv n d + 1) * d := by rw [Nat.add_mul]; omega
  have hle1 := Nat.lt_of_mul_lt_mul_right hlt1
  have hle2 := Nat.lt_of_mul_lt_mul_right hlt2
  omega

theorem abs_roundDiv_sub_le {n d : ℕ} (hd : 0 < d) :
    |(roundDiv n d : ℚ) - (n : ℚ) / d| ≤ 1 / 2 := by
  have hdq : (0 : ℚ) < d := by exact_mod_cast hd
  have hmul : (n : ℚ) / d * d = n := div_mul_cancel₀ _ hdq.ne'
  obtain ⟨h1, h2⟩ := roundDiv_half (n := n) hd
  have hq1 : (2 * (roundDiv n d * d) : ℚ) ≤ 2 * n + d := by exact_mod_cast h1
  have hq2 : (2 * n : ℚ) ≤ 2 * (roundDiv n d * d) + d := by exact_mod_cast h2
  rw [abs_le]
  constructor <;> nlinarith

/-! ### Multiples of a power of two -/

theorem two_zpow_pos (e : ℤ) : (0 : ℚ) < 2 ^ e := zpow_pos (by norm_num) e

/-- Rounding to a multiple of `2^e` is rounding a quotient. -/
theorem roundAt_eq_roundDiv {e : ℤ} {n d : ℕ} (hd : 0 < d) : ∃ n' d' : ℕ, 0 < d' ∧
    roundAt e n d = roundDiv n' d' * 2 ^ e ∧ (n' : ℚ) / d' = (n : ℚ) / d / 2 ^ e := by
  have hdq : (d : ℚ) ≠ 0 := by exact_mod_cast hd.ne'
  unfold roundAt
  by_cases he : 0 ≤ e
  · obtain ⟨k, rfl⟩ := Int.eq_ofNat_of_zero_le he
    refine ⟨n, d * 2 ^ k, by positivity, ?_, ?_⟩
    · rw [if_pos he, Int.toNat_natCast]
      push_cast
      rw [zpow_natCast]
    · push_cast
      rw [zpow_natCast, div_div]
  · obtain ⟨k, hk⟩ := Int.eq_ofNat_of_zero_le (show 0 ≤ -e by omega)
    obtain rfl : e = -(k : ℤ) := by omega
    refine ⟨n * 2 ^ k, d, hd, ?_, ?_⟩
    · rw [if_neg he, neg_neg, Int.toNat_natCast]
      push_cast
      rw [zpow_neg, zpow_natCast, div_eq_mul_inv]
    · push_cast
      rw [zpow_neg, zpow_natCast, div_inv_eq_mul]
      ring

/-- A multiple of `2^e` is what everything rounds to that is closer than half of `2^e`. -/
theorem roundAt_of_near {e : ℤ} {n d k : ℕ} (hd : 0 < d)
    (h : |(n : ℚ) / d - k * 2 ^ e| < 2 ^ e / 2) : roundAt e n d = k * 2 ^ e := by
  obtain ⟨n', d', hd', hround, hquot⟩ := roundAt_eq_roundDiv (e := e) (n := n) hd
  have hpos := two_zpow_pos e
  have hnear : |(n' : ℚ) / d' - k| < 1 / 2 := by
    have hscale : (n' : ℚ) / d' - k = ((n : ℚ) / d - k * 2 ^ e) / 2 ^ e := by
      rw [hquot, sub_div, mul_div_cancel_right₀ _ hpos.ne']
    rw [hscale, abs_div, abs_of_pos hpos, div_lt_iff₀ hpos]
    linarith
  rw [hround, roundDiv_of_near hd' hnear]

theorem roundAt_half {e : ℤ} {n d : ℕ} (hd : 0 < d) :
    ∃ k : ℕ, roundAt e n d = k * 2 ^ e ∧ |roundAt e n d - (n : ℚ) / d| ≤ 2 ^ e / 2 := by
  obtain ⟨n', d', hd', hround, hquot⟩ := roundAt_eq_roundDiv (e := e) (n := n) hd
  have hpos := two_zpow_pos e
  have hoff := abs_roundDiv_sub_le (n := n') hd'
  refine ⟨roundDiv n' d', hround, ?_⟩
  have hscale : roundAt e n d - (n : ℚ) / d = ((roundDiv n' d' : ℚ) - (n' : ℚ) / d') * 2 ^ e := by
    rw [hround, hquot, sub_mul, div_mul_cancel₀ _ hpos.ne']
  rw [hscale, abs_mul, abs_of_pos hpos]
  calc |(roundDiv n' d' : ℚ) - (n' : ℚ) / d'| * 2 ^ e ≤ 1 / 2 * 2 ^ e :=
        mul_le_mul_of_nonneg_right hoff hpos.le
    _ = 2 ^ e / 2 := by ring

/-! ### The binary exponent -/

theorem powLe_iff {k : ℤ} {n d : ℕ} (hd : 0 < d) : PowLe k n d ↔ (2 : ℚ) ^ k ≤ (n : ℚ) / d := by
  have hdq : (0 : ℚ) < d := by exact_mod_cast hd
  rw [le_div_iff₀ hdq]
  unfold PowLe
  by_cases hk : 0 ≤ k
  · obtain ⟨j, rfl⟩ := Int.eq_ofNat_of_zero_le hk
    rw [if_pos hk, Int.toNat_natCast, zpow_natCast, mul_comm]
    exact_mod_cast Iff.rfl
  · obtain ⟨j, hj⟩ := Int.eq_ofNat_of_zero_le (show 0 ≤ -k by omega)
    obtain rfl : k = -(j : ℤ) := by omega
    have hpos : (0 : ℚ) < 2 ^ j := by positivity
    rw [if_neg hk, neg_neg, Int.toNat_natCast, zpow_neg, zpow_natCast, inv_mul_le_iff₀ hpos, mul_comm]
    exact_mod_cast Iff.rfl

/-- **The binary exponent** of a positive quotient. -/
theorem ilog2_spec {n d : ℕ} (hn : 0 < n) (hd : 0 < d) :
    (2 : ℚ) ^ ilog2 n d ≤ (n : ℚ) / d ∧ (n : ℚ) / d < 2 ^ (ilog2 n d + 1) := by
  have hdq : (0 : ℚ) < d := by exact_mod_cast hd
  have hbounds : ∀ {a : ℕ}, 0 < a → (2 : ℚ) ^ (a.log2 : ℤ) ≤ a ∧ (a : ℚ) < 2 ^ ((a.log2 : ℤ) + 1) := by
    intro a ha
    have h1 := Nat.log2_self_le ha.ne'
    have h2 := Nat.lt_log2_self (n := a)
    rw [zpow_natCast, ← Int.natCast_succ, zpow_natCast]
    exact ⟨by exact_mod_cast h1, by exact_mod_cast h2⟩
  obtain ⟨hn1, hn2⟩ := hbounds hn
  obtain ⟨hd1, hd2⟩ := hbounds hd
  have htwo : (2 : ℚ) ≠ 0 := by norm_num
  -- the exponent is the difference of the two logarithms, or one less
  have hhi : (n : ℚ) / d < 2 ^ ((n.log2 : ℤ) - d.log2 + 1) := by
    rw [div_lt_iff₀ hdq]
    calc (n : ℚ) < 2 ^ ((n.log2 : ℤ) + 1) := hn2
      _ = 2 ^ ((n.log2 : ℤ) - d.log2 + 1) * 2 ^ (d.log2 : ℤ) := by
        rw [← zpow_add₀ htwo]
        congr 1
        omega
      _ ≤ 2 ^ ((n.log2 : ℤ) - d.log2 + 1) * d := mul_le_mul_of_nonneg_left hd1 (two_zpow_pos _).le
  have hlo : (2 : ℚ) ^ ((n.log2 : ℤ) - d.log2 - 1) ≤ (n : ℚ) / d := by
    rw [le_div_iff₀ hdq]
    calc (2 : ℚ) ^ ((n.log2 : ℤ) - d.log2 - 1) * d
        ≤ 2 ^ ((n.log2 : ℤ) - d.log2 - 1) * 2 ^ ((d.log2 : ℤ) + 1) :=
          mul_le_mul_of_nonneg_left hd2.le (two_zpow_pos _).le
      _ = 2 ^ (n.log2 : ℤ) := by
        rw [← zpow_add₀ htwo]
        congr 1
        omega
      _ ≤ n := hn1
  unfold ilog2
  split_ifs with h
  · exact ⟨(powLe_iff hd).mp h, hhi⟩
  · rw [powLe_iff hd, not_le] at h
    rw [sub_add_cancel]
    exact ⟨hlo, h⟩

/-! ### Doubles -/

/-- The rationals that are doubles. -/
def IsDouble (x : ℚ) : Prop :=
  (∃ m e : ℤ, m.natAbs < 2 ^ 53 ∧ -1074 ≤ e ∧ x = m * 2 ^ e) ∧ |x| < 2 ^ 1024

/-- **The finite doubles**, the negative zero among them. -/
def IsFinite : Double → Prop
  | .fin q => IsDouble q
  | .negZero => True
  | .negInf | .posInf => False

theorem IsDouble.abs {x : ℚ} (h : IsDouble x) : IsDouble |x| := by
  obtain ⟨⟨m, e, hm, he, rfl⟩, hover⟩ := h
  refine ⟨⟨|m|, e, by rwa [Int.natAbs_abs], he, ?_⟩, by rwa [abs_abs]⟩
  rw [abs_mul, abs_of_pos (two_zpow_pos e), Int.cast_abs]

theorem zpow_succ_two (e : ℤ) : (2 : ℚ) ^ (e + 1) = 2 ^ e * 2 := by
  rw [zpow_add₀ (by norm_num), zpow_one]

theorem zpow_add_nat (e : ℤ) (k : ℕ) : (2 : ℚ) ^ (e + k) = 2 ^ k * 2 ^ e := by
  rw [zpow_add₀ (by norm_num), zpow_natCast, mul_comm]

section
variable {n d m : ℕ} {e E : ℤ}

/-- What is near to a double is in its binade, or at the upper end of the one below. -/
theorem le_of_near (hm : m < 2 ^ 53) (hy : (n : ℚ) / d < 2 ^ 53 * 2 ^ E)
    (h : |(n : ℚ) / d - m * 2 ^ e| < m * 2 ^ e / 2 ^ 54) : (m * 2 ^ e : ℚ) ≤ 2 ^ 53 * 2 ^ E := by
  by_contra hgt
  rw [not_le] at hgt
  have hE := two_zpow_pos E
  have hmq : (m : ℚ) < 2 ^ 53 := by exact_mod_cast hm
  obtain ⟨hlo, -⟩ := abs_lt.mp h
  have heE : E < e := by
    by_contra hle
    have hpow : (2 : ℚ) ^ e ≤ 2 ^ E := zpow_le_zpow_right₀ (by norm_num) (not_lt.mp hle)
    have he := two_zpow_pos e
    nlinarith
  -- both sides are multiples of `2 ^ (E + 1)`, so they are at least that far apart
  obtain ⟨k, hk⟩ := Int.eq_ofNat_of_zero_le (show 0 ≤ e - E - 1 by omega)
  have hpow : (2 : ℚ) ^ e = 2 ^ k * (2 ^ E * 2) := by
    rw [← zpow_succ_two, ← zpow_add_nat]
    congr 1
    omega
  have hstep : 2 ^ 52 + 1 ≤ m * 2 ^ k := by
    have hq : (2 ^ 52 : ℚ) < m * 2 ^ k := by
      rw [hpow] at hgt
      nlinarith
    exact_mod_cast hq
  have hstepq : (2 ^ 52 + 1 : ℚ) ≤ m * 2 ^ k := by exact_mod_cast hstep
  rw [hpow] at hlo
  nlinarith

/-- What is near to a double does not have a larger unit in the last place. -/
theorem exponent_le_of_near (hm : m < 2 ^ 53) (hy : E = -1074 ∨ 2 ^ 52 * 2 ^ E ≤ (n : ℚ) / d)
    (he : -1074 ≤ e) (h : |(n : ℚ) / d - m * 2 ^ e| < m * 2 ^ e / 2 ^ 54) : E ≤ e := by
  by_contra hlt
  have hpos := two_zpow_pos e
  have hmq : (m : ℚ) ≤ 2 ^ 53 - 1 := by
    have : m + 1 ≤ 2 ^ 53 := hm
    have hq : (m + 1 : ℚ) ≤ 2 ^ 53 := by exact_mod_cast this
    linarith
  obtain ⟨-, hhi⟩ := abs_lt.mp h
  rcases hy with rfl | hy
  · omega
  · have hpow : (2 : ℚ) ^ e * 2 ≤ 2 ^ E := by
      rw [← zpow_succ_two]
      exact zpow_le_zpow_right₀ (by norm_num) (by omega)
    nlinarith

/-- **What is near to a double rounds to it.** -/
theorem roundMag_of_near (hn : 0 < n) (hd : 0 < d) (hm : m < 2 ^ 53) (he : -1074 ≤ e)
    (h : |(n : ℚ) / d - m * 2 ^ e| < m * 2 ^ e / 2 ^ 54) : roundMag n d = m * 2 ^ e := by
  obtain ⟨hlo, hhi⟩ := ilog2_spec hn hd
  unfold roundMag
  generalize hE : max (ilog2 n d - 52) (-1074) = E
  have hy : (n : ℚ) / d < 2 ^ 53 * 2 ^ E := by
    rw [← zpow_add_nat]
    exact hhi.trans_le (zpow_le_zpow_right₀ (by norm_num) (by push_cast; omega))
  have hy' : E = -1074 ∨ 2 ^ 52 * 2 ^ E ≤ (n : ℚ) / d := by
    rcases le_total (ilog2 n d - 52) (-1074) with hsub | hsub
    · exact Or.inl (by omega)
    · right
      rw [← zpow_add_nat]
      exact le_trans (zpow_le_zpow_right₀ (by norm_num) (by push_cast; omega)) hlo
  have hle := le_of_near hm hy h
  obtain ⟨k, hk⟩ := Int.eq_ofNat_of_zero_le
    (show 0 ≤ e - E by have := exponent_le_of_near hm hy' he h; omega)
  have hx : (m * 2 ^ e : ℚ) = (m * 2 ^ k : ℕ) * 2 ^ E := by
    push_cast
    rw [mul_assoc, ← zpow_add_nat]
    congr 2
    omega
  rw [hx] at h hle ⊢
  refine roundAt_of_near hd (h.trans_le ?_)
  have hE := two_zpow_pos E
  linarith

end

theorem natAbs_num_div_den (y : ℚ) : ((y.num.natAbs : ℕ) : ℚ) / y.den = |y| := by
  have hden : (0 : ℚ) < y.den := by exact_mod_cast y.den_pos
  conv_rhs => rw [← Rat.num_div_den y, abs_div, abs_of_pos hden]
  rw [Nat.cast_natAbs, Int.cast_abs]

/-- **A rational near to a double is converted to it.** -/
theorem ofRat_of_near {x y : ℚ} (hx : IsDouble x) (h : |y - x| < |x| / 2 ^ 54) :
    ofRat y = .fin x := by
  obtain ⟨⟨m, e, hm, he, hme⟩, hover⟩ := hx
  have habs : |x| = m.natAbs * 2 ^ e := by
    rw [hme, abs_mul, abs_of_pos (two_zpow_pos e), Nat.cast_natAbs, Int.cast_abs]
  have hpos : 0 < |x| := by
    have hnonneg := abs_nonneg (y - x)
    have hlt := hnonneg.trans_lt h
    linarith
  have hmag : |(|y| - |x|)| ≤ |y - x| := abs_abs_sub_abs_le y x
  have hynum : 0 < y.num.natAbs := by
    rw [Int.natAbs_pos, ne_eq, Rat.num_eq_zero]
    rintro rfl
    rw [zero_sub, abs_neg] at h
    linarith
  have hround : roundMag y.num.natAbs y.den = |x| := by
    rw [habs]
    refine roundMag_of_near hynum y.den_pos hm he ?_
    rw [natAbs_num_div_den, ← habs]
    exact hmag.trans_lt h
  have hsign : y < 0 ↔ x < 0 := by
    obtain ⟨hlo, hhi⟩ := abs_lt.mp h
    rcases abs_cases x with ⟨hx, hx0⟩ | ⟨hx, hx0⟩ <;> rw [hx] at hlo hhi
    · constructor <;> intro hlt <;> linarith
    · constructor <;> intro hlt <;> linarith
  unfold ofRat
  rw [hround]
  simp only [if_neg (not_le.mpr hover), if_neg hpos.ne']
  split_ifs with hneg
  · rw [abs_of_neg (hsign.mp hneg), neg_neg]
  · rw [abs_of_nonneg (not_lt.mp fun hlt => hneg (hsign.mpr hlt))]

theorem roundMag_eq (n : ℕ) {d : ℕ} (hd : 0 < d) :
    ∃ m e : ℤ, m.natAbs < 2 ^ 53 ∧ -1074 ≤ e ∧ roundMag n d = m * 2 ^ e := by
  unfold roundMag
  generalize hE : max (ilog2 n d - 52) (-1074) = E
  have hEpos := two_zpow_pos E
  have hy : (n : ℚ) / d < 2 ^ 53 * 2 ^ E := by
    rcases Nat.eq_zero_or_pos n with rfl | hn
    · rw [Nat.cast_zero, zero_div]
      positivity
    · rw [← zpow_add_nat]
      exact (ilog2_spec hn hd).2.trans_le (zpow_le_zpow_right₀ (by norm_num) (by push_cast; omega))
  obtain ⟨k, hk, hoff⟩ := roundAt_half (e := E) (n := n) hd
  have hle : k ≤ 2 ^ 53 := by
    obtain ⟨-, hhi⟩ := abs_le.mp hoff
    rw [hk] at hhi
    have hlt : (k : ℚ) < (2 ^ 53 + 1 : ℕ) := by
      push_cast
      nlinarith
    have := Nat.cast_lt.mp hlt
    omega
  rcases Nat.lt_or_ge k (2 ^ 53) with hlt | hge
  · exact ⟨k, E, by simpa using hlt, by omega, by rw [hk]; norm_cast⟩
  · -- the upper end of the binade is the lower end of the next
    obtain rfl : k = 2 ^ 53 := by omega
    refine ⟨2 ^ 52, E + 1, by norm_num, by omega, ?_⟩
    rw [hk, zpow_succ_two]
    push_cast
    ring

/-- **A converted rational is a double** if it does not overflow. -/
theorem isDouble_of_ofRat {x y : ℚ} (h : ofRat y = .fin x) : IsDouble x := by
  unfold ofRat at h
  obtain ⟨m, e, hm, he, hround⟩ := roundMag_eq y.num.natAbs y.den_pos
  have hnonneg : 0 ≤ roundMag y.num.natAbs y.den := by
    obtain ⟨k, hk, -⟩ := roundAt_half (e := max (ilog2 y.num.natAbs y.den - 52) (-1074))
      (n := y.num.natAbs) y.den_pos
    unfold roundMag
    rw [hk]
    have := two_zpow_pos (max (ilog2 y.num.natAbs y.den - 52) (-1074))
    positivity
  simp only at h
  split_ifs at h with hover hneg hneg h0
  · obtain rfl := Double.fin.inj h
    refine ⟨⟨-m, e, by rwa [Int.natAbs_neg], he, by rw [hround]; push_cast; ring⟩, ?_⟩
    rw [abs_neg, abs_of_nonneg hnonneg]
    exact not_le.mp hover
  · obtain rfl := Double.fin.inj h
    refine ⟨⟨m, e, hm, he, hround⟩, ?_⟩
    rw [abs_of_nonneg hnonneg]
    exact not_le.mp hover

theorem isDouble_intCast {z : ℤ} (h : z.natAbs < 2 ^ 53) : IsDouble z :=
  isDouble_of_ofRat (ofRat_intCast h)

end OasisEdge.Lib.Nearest
