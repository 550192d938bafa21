import OasisEdge.CJson.Scalars
import OasisEdge.Lib.Significant

/-! # Numbers as text

`print_number` writes a number to 15 significant digits if `sscanf` reads the same number back from
that, and to 17 otherwise. What it writes is a numeral: digits, a fraction and an exponent
(`IsNumeral`), which `strtod` reads whole (`strtod_numeral`). So the text of every finite double is
read back as that double (`strtod_printNumber`), whatever makes the number stop
(`parseNumber_printNumber`). The negative zero is written `-0`, and read back with its sign. -/

namespace OasisEdge.CJson.Numbers

open OasisEdge.Lib.Doubles OasisEdge.Lib.Nearest OasisEdge.Lib.Decimal OasisEdge.Lib.Significant
open OasisEdge.CJson.Value OasisEdge.CJson.Parse OasisEdge.CJson.Scalars

def printNumber : Double → List UInt8
  | .fin d =>
    let numberBuffer := formatG 15 d
    if (strtod numberBuffer).map Prod.fst = some (.fin d) then numberBuffer else formatG 17 d
  | .negZero => [45, 48]
  | .negInf | .posInf => [110, 117, 108, 108]

/-! ### Digits -/

theorem isDigit_digit {d : ℕ} (h : d < 10) : isDigit (digit d) = true := by
  have hall : ∀ d < 10, isDigit (digit d) = true := by decide
  exact hall d h

theorem isDigit_fixedWidth {w n : ℕ} : ∀ b ∈ fixedWidth w n, isDigit b = true := by
  induction w generalizing n with
  | zero => intro b hb; cases hb
  | succ w ih =>
    intro b hb
    rw [fixedWidth, List.mem_append, List.mem_singleton] at hb
    rcases hb with hb | rfl
    · exact ih b hb
    · exact isDigit_digit (Nat.mod_lt _ (by omega))

theorem natOfDigits_append_singleton (ds : List UInt8) (d : UInt8) :
    natOfDigits (ds ++ [d]) = 10 * natOfDigits ds + (d.toNat - 48) := by
  unfold natOfDigits
  rw [List.foldl_append, List.foldl_cons, List.foldl_nil]

theorem natOfDigits_zeros_append (k : ℕ) (ds : List UInt8) :
    natOfDigits (List.replicate k 48 ++ ds) = natOfDigits ds := by
  unfold natOfDigits
  rw [List.foldl_append]
  congr 1
  induction k with
  | zero => rfl
  | succ k ih => rw [List.replicate_succ', List.foldl_append, ih]; rfl

theorem natOfDigits_append_zeros (ds : List UInt8) (k : ℕ) :
    natOfDigits (ds ++ List.replicate k 48) = natOfDigits ds * 10 ^ k := by
  induction k with
  | zero => rw [List.replicate_zero, List.append_nil, pow_zero, mul_one]
  | succ k ih =>
    rw [List.replicate_succ', ← List.append_assoc, natOfDigits_append_singleton, ih, pow_succ,
      show (48 : UInt8).toNat = 48 from rfl, Nat.sub_self, Nat.add_zero, mul_left_comm,
      mul_comm 10]

theorem natOfDigits_fixedWidth {w n : ℕ} (h : n < 10 ^ w) : natOfDigits (fixedWidth w n) = n := by
  induction w generalizing n with
  | zero =>
    have hn : n = 0 := by simpa using h
    rw [hn]
    rfl
  | succ w ih =>
    have hdiv : n / 10 < 10 ^ w := by rw [pow_succ] at h; omega
    rw [fixedWidth, natOfDigits_append_singleton, ih hdiv, toNat_digit (Nat.mod_lt _ (by omega))]
    omega

theorem paddedTo_spec (n : ℕ) : paddedTo 2 n ≠ [] ∧ (∀ b ∈ paddedTo 2 n, isDigit b = true) ∧
    natOfDigits (paddedTo 2 n) = n ∧ (n < 1000 → (paddedTo 2 n).length ≤ 3) := by
  have hfits : n < 10 ^ (Nat.log 10 n + 1) := Nat.lt_pow_succ_log_self (by norm_num) n
  unfold paddedTo
  split_ifs with h
  · refine ⟨?_, isDigit_fixedWidth, natOfDigits_fixedWidth h, fun _ => ?_⟩
    · rw [← List.length_pos_iff, length_fixedWidth]
      omega
    · rw [length_fixedWidth]
      omega
  · refine ⟨?_, isDigit_fixedWidth, natOfDigits_fixedWidth hfits, fun hn => ?_⟩
    · rw [← List.length_pos_iff, length_fixedWidth]
      omega
    · have hlog : Nat.log 10 n < 3 := Nat.log_lt_of_lt_pow (by omega) (by omega)
      rw [length_fixedWidth]
      omega

/-! ### Numerals -/

/-- The text of an exponent, or none. -/
def IsExponent (ex : List UInt8) (e : ℤ) : Prop := ex = [] ∧ e = 0 ∨ ex = exponent e

/-- Digits, a fraction and an exponent of the value `v`, within what `strtod` reads exactly before it
rounds. -/
def IsNumeral (t : List UInt8) (v : ℚ) : Prop :=
  ∃ ds fs ex e, t = ds ++ withPoint fs ++ ex ∧ ds ≠ [] ∧ (∀ b ∈ ds ++ fs, isDigit b = true) ∧
    IsExponent ex e ∧ -500 ≤ e - fs.length ∧ e ≤ 400 ∧
      (natOfDigits (ds ++ fs) : ℚ) * 10 ^ (e - fs.length) = v

/-- The sign of a number. -/
def sign (neg : Bool) : List UInt8 := if neg then [45] else []

theorem span_digits {ds r : List UInt8} (hds : ∀ b ∈ ds, isDigit b = true)
    (hr : ∀ b, r.head? = some b → isDigit b = false) :
    (ds ++ r).takeWhile isDigit = ds ∧ (ds ++ r).dropWhile isDigit = r := by
  have hnil : r.takeWhile isDigit = [] ∧ r.dropWhile isDigit = r := by
    rcases r with _ | ⟨b, r⟩
    · exact ⟨rfl, rfl⟩
    · have hb := hr b rfl
      simp [hb]
  rw [List.takeWhile_append_of_pos hds, List.dropWhile_append_of_pos hds, hnil.1, hnil.2,
    List.append_nil]
  exact ⟨rfl, rfl⟩

theorem takeExponent_eq {ex : List UInt8} {e : ℤ} (h : IsExponent ex e) :
    takeExponent ex = (e, []) := by
  rcases h with ⟨rfl, rfl⟩ | rfl
  · rfl
  · obtain ⟨hne, hdigits, hval, -⟩ := paddedTo_spec e.natAbs
    obtain ⟨htake, hdrop⟩ := span_digits (r := []) hdigits (by simp)
    rw [List.append_nil] at htake hdrop
    unfold exponent takeExponent takeSign
    rcases lt_or_ge e 0 with he | he
    · simp only [if_pos he, htake, hne, hdrop, hval, true_or, if_true, if_false]
      congr 1
      omega
    · have hne45 : (43 : UInt8) ≠ 45 := by decide
      simp only [if_neg (not_lt.mpr he), htake, hne, hdrop, hval, true_or, hne45, if_true, if_false,
        Bool.false_eq_true]
      congr 1
      omega

theorem head_exponent {ex : List UInt8} {e : ℤ} (h : IsExponent ex e) :
    ∀ b, ex.head? = some b → b = 101 := by
  intro b hb
  rcases h with ⟨rfl, -⟩ | rfl
  · cases hb
  · exact (Option.some.inj hb).symm

theorem takeFraction_eq {fs ex : List UInt8} {e : ℤ} (hfs : ∀ b ∈ fs, isDigit b = true)
    (h : IsExponent ex e) : takeFraction (withPoint fs ++ ex) = (fs, ex) := by
  have hhead := head_exponent h
  unfold withPoint
  by_cases hnil : fs = []
  · subst hnil
    rw [if_pos rfl, List.nil_append]
    rcases ex with _ | ⟨b, ex⟩
    · rfl
    · obtain rfl := hhead b rfl
      rfl
  · obtain ⟨htake, hdrop⟩ := span_digits hfs fun b hb => by rw [hhead b hb]; rfl
    rw [if_neg hnil, List.cons_append, takeFraction, if_pos rfl, htake, hdrop]

theorem takeSign_eq {neg : Bool} {ds r : List UInt8} (hne : ds ≠ [])
    (hds : ∀ b ∈ ds, isDigit b = true) : takeSign (sign neg ++ (ds ++ r)) = (neg, ds ++ r) := by
  rcases ds with _ | ⟨d, ds⟩
  · exact absurd rfl hne
  · have hd : isDigit d = true := hds d (List.mem_cons_self ..)
    have h45 : d ≠ 45 := by rintro rfl; revert hd; decide
    have h43 : d ≠ 43 := by rintro rfl; revert hd; decide
    rcases neg with _ | _
    · simp only [sign, Bool.false_eq_true, if_false, List.nil_append, List.cons_append, takeSign,
        if_neg h45, if_neg h43]
    · rfl

theorem decimal_eq {neg : Bool} {m : ℕ} {e : ℤ} (hm : m ≠ 0) (hlo : -500 ≤ e) (hhi : e ≤ 400) :
    decimal neg m e = .ofRat (if neg then -(m * 10 ^ e) else m * 10 ^ e) := by
  have hq : (if 0 ≤ e then ((m * 10 ^ e.toNat : ℕ) : ℚ) else mkRat m (10 ^ (-e).toNat)) =
      m * 10 ^ e := by
    by_cases he : 0 ≤ e
    · obtain ⟨k, rfl⟩ := Int.eq_ofNat_of_zero_le he
      rw [if_pos he, Int.toNat_natCast, zpow_natCast]
      push_cast
      rfl
    · obtain ⟨k, hk⟩ := Int.eq_ofNat_of_zero_le (show 0 ≤ -e by omega)
      obtain rfl : e = -(k : ℤ) := by omega
      rw [if_neg he, neg_neg, Int.toNat_natCast, Rat.mkRat_eq_div, zpow_neg, zpow_natCast,
        div_eq_mul_inv]
      push_cast
      rfl
  unfold decimal
  rw [if_neg (by omega), if_neg (by omega)]
  simp only [hq]

/-- **`strtod` reads a numeral** whole and rounds its value. -/
theorem strtod_numeral {t : List UInt8} {v : ℚ} (neg : Bool) (h : IsNumeral t v) (hv : v ≠ 0) :
    strtod (sign neg ++ t) = some (.ofRat (if neg then -v else v), (sign neg ++ t).length) := by
  obtain ⟨ds, fs, ex, e, rfl, hne, hdigits, hex, hlo, hhi, rfl⟩ := h
  have hds : ∀ b ∈ ds, isDigit b = true := fun b hb => hdigits b (List.mem_append_left _ hb)
  have hfs : ∀ b ∈ fs, isDigit b = true := fun b hb => hdigits b (List.mem_append_right _ hb)
  have hm : natOfDigits (ds ++ fs) ≠ 0 := by
    intro h0
    rw [h0, Nat.cast_zero, zero_mul] at hv
    exact hv rfl
  have hrest : ∀ b, (withPoint fs ++ ex).head? = some b → isDigit b = false := by
    intro b hb
    unfold withPoint at hb
    split_ifs at hb with hnil
    · rw [head_exponent hex b hb]
      rfl
    · obtain rfl := Option.some.inj hb
      rfl
  obtain ⟨htake, hdrop⟩ := span_digits hds hrest
  rw [List.append_assoc]
  unfold strtod
  simp only [takeSign_eq hne hds, htake, hdrop, takeFraction_eq hfs hex, takeExponent_eq hex, hne,
    false_and, if_false, List.length_nil, Nat.sub_zero]
  rw [decimal_eq hm hlo (by omega)]

/-! ### `%g` writes numerals -/

theorem isNumeral_fraction (ds fs : List UInt8) {ex : List UInt8} {e : ℤ} (hne : ds ≠ [])
    (hdigits : ∀ b ∈ ds ++ fs, isDigit b = true) (hex : IsExponent ex e)
    (hlo : -500 ≤ e - fs.length) (hhi : e ≤ 400) :
    IsNumeral (ds ++ fraction fs ++ ex) (natOfDigits (ds ++ fs) * 10 ^ (e - fs.length)) := by
  have hsplit := List.rdropWhile_append_rtakeWhile (p := fun b : UInt8 => decide (b = 48)) (l := fs)
  have hzeros := List.eq_replicate_of_mem (a := (48 : UInt8))
    (l := fs.rtakeWhile fun b => decide (b = 48)) fun b hb => by
      simpa using List.mem_rtakeWhile_imp hb
  generalize (fs.rtakeWhile fun b => decide (b = 48)).length = k at hzeros
  rw [hzeros] at hsplit
  unfold fraction
  generalize fs.rdropWhile (fun b => decide (b = 48)) = fs' at hsplit
  subst hsplit
  have hlen : (fs' ++ List.replicate k 48).length = fs'.length + k := by
    rw [List.length_append, List.length_replicate]
  rw [hlen] at hlo ⊢
  refine ⟨ds, fs', ex, e, rfl, hne, fun b hb => ?_, hex, by push_cast at hlo ⊢; omega, hhi, ?_⟩
  · rw [← List.append_assoc] at hdigits
    exact hdigits b (List.mem_append_left _ hb)
  · rw [← List.append_assoc, natOfDigits_append_zeros, Nat.cast_mul, Nat.cast_pow, mul_assoc]
    congr 1
    rw [← zpow_natCast, Nat.cast_ofNat, ← zpow_add₀ (by norm_num)]
    congr 1
    push_cast
    omega

theorem isNumeral_formatMag {p m : ℕ} {x : ℤ} (hp : 0 < p) (hp' : p ≤ 100) (hm : m < 10 ^ p)
    (hlo : -324 ≤ x) (hhi : x ≤ 309) : IsNumeral (formatMag p m x) (scaled p m x) := by
  have hlen : (fixedWidth p m).length = p := length_fixedWidth p m
  have hval := natOfDigits_fixedWidth hm
  have hdigits : ∀ b ∈ fixedWidth p m, isDigit b = true := isDigit_fixedWidth
  unfold formatMag
  generalize fixedWidth p m = ds at hlen hval hdigits
  -- the digits are cut at the point
  have hcut : ∀ (k : ℕ) (ex : List UInt8) (e : ℤ), 0 < k → k ≤ p → IsExponent ex e → -324 ≤ e →
      e ≤ 309 → x = e + k - 1 → IsNumeral (ds.take k ++ fraction (ds.drop k) ++ ex) (scaled p m x) := by
    intro k ex e hk hkp hex he1 he2 hx
    have hdrop : (ds.drop k).length = p - k := by rw [List.length_drop, hlen]
    have hne : ds.take k ≠ [] := by
      rw [← List.length_pos_iff, List.length_take, hlen]
      omega
    have hnum := isNumeral_fraction _ _ hne (by rwa [List.take_append_drop]) hex
      (by rw [hdrop]; omega) (by omega)
    rw [List.take_append_drop, hval, hdrop] at hnum
    unfold scaled
    rwa [show x - ((p - 1 : ℕ) : ℤ) = e - (p - k : ℕ) by omega]
  split_ifs with h1 h2
  · exact hcut 1 _ x (by omega) (by omega) (Or.inr rfl) hlo hhi (by omega)
  · have hnum := hcut (x.toNat + 1) [] 0 (by omega) (by omega) (Or.inl ⟨rfl, rfl⟩) (by omega)
      (by omega) (by omega)
    rwa [List.append_nil] at hnum
  · have hnum := isNumeral_fraction [48] (List.replicate (-x - 1).toNat 48 ++ ds)
      (e := 0) (by simp) (fun b hb => ?_) (show IsExponent [] 0 from Or.inl ⟨rfl, rfl⟩)
      (by rw [List.length_append, List.length_replicate, hlen]; push_cast; omega) (by omega)
    · have hzero := natOfDigits_zeros_append ((-x - 1).toNat + 1) ds
      rw [List.replicate_succ, List.cons_append] at hzero
      rw [List.append_nil, List.singleton_append, List.singleton_append, hzero, hval,
        List.length_append, List.length_replicate, hlen] at hnum
      unfold scaled
      rwa [show x - ((p - 1 : ℕ) : ℤ) = 0 - ((-x - 1).toNat + p : ℕ) by push_cast; omega]
    · rw [List.singleton_append, List.mem_cons, List.mem_append, List.mem_replicate] at hb
      rcases hb with rfl | ⟨-, rfl⟩ | hb
      · rfl
      · rfl
      · exact hdigits b hb

theorem strtod_formatG {p : ℕ} {q : ℚ} (hp : 0 < p) (hp' : p ≤ 100) (hq : IsDouble q) (hne : q ≠ 0) :
    strtod (formatG p q) =
      some (.ofRat (toSignificantSigned p q), (formatG p q).length) := by
  have hpos : 0 < |q| := abs_pos.mpr hne
  obtain ⟨hlo, hm, -⟩ := significand_spec hp hpos
  obtain ⟨hx1, hx2⟩ := significand_exponent (p := p) hq.abs hpos
  have hnum := isNumeral_formatMag hp hp' hm hx1 hx2
  have hv : toSignificant p |q| ≠ 0 := by
    have hmpos : 0 < (significand p |q|).1 := lt_of_lt_of_le (by positivity) hlo
    unfold toSignificant scaled
    have hten := ten_zpow_pos ((significand p |q|).2 - (p - 1 : ℕ))
    positivity
  have hread := strtod_numeral (decide (q < 0)) hnum hv
  unfold formatG toSignificantSigned toSignificant
  rw [if_neg hne]
  unfold sign at hread
  simpa only [decide_eq_true_eq] using hread

/-- **The text of a finite double is read back** as the same double. -/
theorem strtod_printNumber {d : Double} (hd : IsFinite d) :
    strtod (printNumber d) = some (d, (printNumber d).length) := by
  rcases d with _ | _ | q | _
  · exact hd.elim
  · decide
  swap
  · exact hd.elim
  have hq : IsDouble q := hd
  rcases eq_or_ne q 0 with rfl | hne
  · decide
  have hshort := strtod_formatG (p := 15) (by norm_num) (by norm_num) hq hne
  have hlong := strtod_formatG (p := 17) (by norm_num) (by norm_num) hq hne
  unfold printNumber
  simp only
  split_ifs with hsame
  · rw [hshort] at hsame ⊢
    rw [show Double.ofRat _ = .fin q from Option.some.inj hsame]
  · rw [hlong, ofRat_toSignificant hq hne]

/-! ### The text among others -/

theorem isNumberChar_of_isDigit {b : UInt8} (h : isDigit b = true) : isNumberChar b = true := by
  unfold isNumberChar
  rw [h]
  rfl

theorem IsNumeral.chars {t : List UInt8} {v : ℚ} (h : IsNumeral t v) :
    (∃ b, t.head? = some b ∧ isDigit b = true) ∧ ∀ b ∈ t, isNumberChar b = true := by
  obtain ⟨ds, fs, ex, e, rfl, hne, hdigits, hex, -⟩ := h
  constructor
  · rcases ds with _ | ⟨d, ds⟩
    · exact absurd rfl hne
    · exact ⟨d, rfl, hdigits d (by simp)⟩
  · intro b hb
    rw [List.mem_append, List.mem_append] at hb
    rcases hb with (hb | hb) | hb
    · exact isNumberChar_of_isDigit (hdigits b (List.mem_append_left _ hb))
    · unfold withPoint at hb
      split_ifs at hb with hnil
      · cases hb
      · rcases List.mem_cons.mp hb with rfl | hb
        · rfl
        · exact isNumberChar_of_isDigit (hdigits b (List.mem_append_right _ hb))
    · rcases hex with ⟨rfl, -⟩ | rfl
      · cases hb
      · unfold exponent at hb
        rcases List.mem_cons.mp hb with rfl | hb
        · rfl
        rcases List.mem_cons.mp hb with rfl | hb
        · split_ifs <;> rfl
        · exact isNumberChar_of_isDigit ((paddedTo_spec e.natAbs).2.1 b hb)

theorem length_fraction_le (fs : List UInt8) : (fraction fs).length ≤ fs.length + 1 := by
  have hle := (List.rdropWhile_prefix (p := fun b : UInt8 => decide (b = 48)) fs).length_le
  unfold fraction withPoint
  split_ifs
  · exact Nat.zero_le _
  · rw [List.length_cons]
    omega

theorem length_formatMag_le {p m : ℕ} {x : ℤ} (hp : 0 < p) (hlo : -324 ≤ x) (hhi : x ≤ 309) :
    (formatMag p m x).length ≤ p + 6 := by
  have hlen : (fixedWidth p m).length = p := length_fixedWidth p m
  have hexp := (paddedTo_spec x.natAbs).2.2.2 (by omega)
  unfold formatMag
  split_ifs with h1 h2
  · have hfrac := length_fraction_le ((fixedWidth p m).drop 1)
    rw [List.length_drop, hlen] at hfrac
    unfold exponent
    simp only [List.length_append, List.length_take, List.length_cons, hlen]
    omega
  · have hfrac := length_fraction_le ((fixedWidth p m).drop (x.toNat + 1))
    rw [List.length_drop, hlen] at hfrac
    simp only [List.length_append, List.length_take, hlen]
    omega
  · have hfrac := length_fraction_le (List.replicate (-x - 1).toNat 48 ++ fixedWidth p m)
    rw [List.length_append, List.length_replicate, hlen] at hfrac
    rw [List.length_cons]
    omega

/-- What `print_number` writes for a double: a number, and never more than its buffer holds. -/
structure NumberText (t : List UInt8) : Prop where
  head : ∃ b, t.head? = some b ∧ (b = 45 ∨ isDigit b = true)
  chars : ∀ b ∈ t, isNumberChar b = true
  length : t.length ≤ 24

theorem numberText_formatG {p : ℕ} {q : ℚ} (hp : 0 < p) (hp' : p ≤ 17) (hq : IsDouble q) :
    NumberText (formatG p q) := by
  unfold formatG
  split_ifs with h0 hneg
  · exact ⟨⟨48, rfl, by decide⟩, List.forall_mem_singleton.mpr rfl, by decide⟩
  all_goals
    have hpos : 0 < |q| := abs_pos.mpr h0
    obtain ⟨-, hm, -⟩ := significand_spec hp hpos
    obtain ⟨hx1, hx2⟩ := significand_exponent (p := p) hq.abs hpos
    have hnum := isNumeral_formatMag hp (by omega) hm hx1 hx2
    have hlen := length_formatMag_le (m := (significand p |q|).1) hp hx1 hx2
    obtain ⟨⟨b, hhead, hb⟩, hchars⟩ := hnum.chars
  · refine ⟨⟨45, rfl, Or.inl rfl⟩, fun c hc => ?_, ?_⟩
    · rcases List.mem_cons.mp hc with rfl | hc
      · rfl
      · exact hchars c hc
    · rw [List.length_append, List.length_singleton]
      omega
  · exact ⟨⟨b, hhead, Or.inr hb⟩, hchars, by rw [List.nil_append]; omega⟩

theorem numberText_printNumber {d : Double} (hd : IsFinite d) : NumberText (printNumber d) := by
  rcases d with _ | _ | q | _
  · exact hd.elim
  · exact ⟨⟨45, rfl, Or.inl rfl⟩, by decide +kernel, by decide⟩
  · have hq : IsDouble q := hd
    unfold printNumber
    simp only
    split_ifs
    · exact numberText_formatG (by norm_num) (by norm_num) hq
    · exact numberText_formatG (by norm_num) (by norm_num) hq
  · exact hd.elim

/-- A rest that does not go on with the number. -/
def Ends (r : List UInt8) : Prop := ∀ b, r.head? = some b → isNumberChar b = false

/-- **The printed number is parsed back**, whatever makes it end. -/
theorem parseNumber_printNumber {d : Double} (hd : IsFinite d) {r : List UInt8} (hr : Ends r) :
    parseNumber (printNumber d ++ r) = some (.num d, r) := by
  have hread := strtod_printNumber hd
  obtain ⟨⟨b, hhead, -⟩, hchars, hlen⟩ := numberText_printNumber hd
  generalize printNumber d = t at hread hhead hchars hlen
  have htext : numberText (t ++ r) = t := by
    rcases r with _ | ⟨c, r⟩
    · unfold numberText
      rw [List.append_nil, List.take_of_length_le (by omega), List.takeWhile_eq_self_iff]
      exact hchars
    · exact numberText_append hchars (by omega) ⟨c, r, rfl, hr c rfl⟩
  have hne : t.length ≠ 0 := by
    intro h0
    rw [List.length_eq_zero_iff.mp h0] at hhead
    cases hhead
  unfold parseNumber
  rw [htext, hread, Option.bind_some, if_neg hne, List.drop_left]

/-- **A printed number** fits the buffer of `print_number`, which has 26 bytes, and `parse_number`
reads it back as the same double, whatever comes behind it that is no part of a number. -/
theorem number_round_trip {d : Double} (hd : IsFinite d) :
    (printNumber d).length + 1 ≤ 26 ∧
      ∀ r, Ends r → parseNumber (printNumber d ++ r) = some (.num d, r) := by
  have hlen := (numberText_printNumber hd).length
  exact ⟨by omega, fun r hr => parseNumber_printNumber hd hr⟩

theorem number_round_trip_third :
    (printNumber (.fin (6004799503160661 / 2 ^ 54))).length + 1 ≤ 26 ∧
      ∀ r, Ends r → parseNumber (printNumber (.fin (6004799503160661 / 2 ^ 54)) ++ r) =
        some (.num (.fin (6004799503160661 / 2 ^ 54)), r) := by
  have hsmall : |(6004799503160661 / 2 ^ 54 : ℚ)| < 2 ^ 1 := by norm_num
  refine number_round_trip (d := .fin _) ⟨⟨6004799503160661, -54, ?_, ?_, ?_⟩, hsmall.trans_le ?_⟩
  · norm_num
  · norm_num
  · norm_num
  · exact pow_le_pow_right₀ (by norm_num) (by norm_num)

end OasisEdge.CJson.Numbers
