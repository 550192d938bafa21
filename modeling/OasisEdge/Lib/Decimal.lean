import OasisEdge.Lib.Chars
import Mathlib.Data.List.Forall2
import Mathlib.Data.List.Lex
import Mathlib.Data.Nat.Log

/-! # Decimal fields of a fixed width

A number below `10 ^ w` is written with exactly `w` digits, zeros in front (`fixedWidth`). A record
of such fields, each followed by a separator, is written one after the other (`render`). Byte by byte
the texts of two records compare as the records do field by field (`cmpBytes_render`), so the text
determines the record (`render_inj`).

`formatInt` is the conversion `%0wd` of `printf`, which writes more digits if the number needs them,
and a sign if it is negative. -/

namespace OasisEdge.Lib.Decimal

open OasisEdge.Lib.Chars

/-! ### Digits -/

/-- The character of a digit. -/
def digit (d : ℕ) : UInt8 := UInt8.ofNat (48 + d)

/-- The last `w` digits of a number. -/
def fixedWidth : ℕ → ℕ → List UInt8
  | 0, _ => []
  | w + 1, n => fixedWidth w (n / 10) ++ [digit (n % 10)]

theorem toNat_digit {d : ℕ} (h : d < 10) : (digit d).toNat = 48 + d := by
  unfold digit
  rw [UInt8.toNat_ofNat']
  omega

@[simp] theorem length_fixedWidth (w n : ℕ) : (fixedWidth w n).length = w := by
  induction w generalizing n with
  | zero => rfl
  | succ w ih => rw [fixedWidth, List.length_append, ih, List.length_singleton]

theorem digit_ne_zero {d : ℕ} (h : d < 10) : digit d ≠ 0 := by
  intro h0
  have hnat := toNat_digit h
  rw [h0, UInt8.toNat_zero] at hnat
  omega

theorem fixedWidth_ne_zero {w n : ℕ} : ∀ b ∈ fixedWidth w n, b ≠ 0 := by
  induction w generalizing n with
  | zero => intro b hb; cases hb
  | succ w ih =>
    intro b hb
    rw [fixedWidth, List.mem_append, List.mem_singleton] at hb
    rcases hb with hb | rfl
    · exact ih b hb
    · exact digit_ne_zero (Nat.mod_lt _ (by omega))

/-! ### Comparison -/

/-- Texts that start alike compare as their rests do. -/
theorem cmpBytes_append_left (l s t : List UInt8) : cmpBytes (l ++ s) (l ++ t) = cmpBytes s t := by
  induction l with
  | nil => rfl
  | cons b l ih => rw [List.cons_append, List.cons_append, cmpBytes, if_pos rfl, ih]

theorem cmpBytes_cons_self (b : UInt8) (s t : List UInt8) :
    cmpBytes (b :: s) (b :: t) = cmpBytes s t := if_pos rfl

theorem cmpBytes_self (s : List UInt8) : cmpBytes s s = 0 := by
  have happ := cmpBytes_append_left s [] []
  rw [List.append_nil] at happ
  exact happ

theorem cmpBytes_digit {a b : ℕ} (ha : a < 10) (hb : b < 10) (s t : List UInt8) :
    cmpBytes (digit a :: s) (digit b :: t) < 0 ↔ a < b ∨ a = b ∧ cmpBytes s t < 0 := by
  have hda := toNat_digit ha
  have hdb := toNat_digit hb
  rcases eq_or_ne a b with rfl | hne
  · rw [cmpBytes_cons_self]
    simp
  · have hdne : digit a ≠ digit b := fun h => hne (by rw [h] at hda; omega)
    rw [cmpBytes, if_neg hdne, hda, hdb]
    omega

/-- **Fields of one width compare as numbers**, and equal ones leave it to what follows. -/
theorem cmpBytes_fixedWidth {w a b : ℕ} (ha : a < 10 ^ w) (hb : b < 10 ^ w) (s t : List UInt8) :
    cmpBytes (fixedWidth w a ++ s) (fixedWidth w b ++ t) < 0 ↔ a < b ∨ a = b ∧ cmpBytes s t < 0 := by
  induction w generalizing a b s t with
  | zero =>
    have ha0 : a = 0 := by simpa using ha
    have hb0 : b = 0 := by simpa using hb
    subst ha0 hb0
    simp [fixedWidth]
  | succ w ih =>
    have ha' : a / 10 < 10 ^ w := by rw [pow_succ] at ha; omega
    have hb' : b / 10 < 10 ^ w := by rw [pow_succ] at hb; omega
    have hda : a % 10 < 10 := Nat.mod_lt _ (by omega)
    have hdb : b % 10 < 10 := Nat.mod_lt _ (by omega)
    -- the last digit is read after the others
    simp only [fixedWidth, List.append_assoc, List.singleton_append]
    rw [ih ha' hb', cmpBytes_digit hda hdb]
    omega

/-! ### Records -/

/-- The widths of the fields of a record, each with the separator after it. -/
abbrev Format := List (ℕ × UInt8)

/-- The text of a record. -/
def render : Format → List ℕ → List UInt8
  | (w, sep) :: fmt, x :: xs => fixedWidth w x ++ sep :: render fmt xs
  | _, _ => []

/-- Every field of the record fits into its width. -/
def Fits (fmt : Format) (xs : List ℕ) : Prop := List.Forall₂ (fun f x => x < 10 ^ f.1) fmt xs

instance (fmt : Format) (xs : List ℕ) : Decidable (Fits fmt xs) := by unfold Fits; infer_instance

/-- **Texts of records compare as the records**, field by field. -/
theorem cmpBytes_render {fmt : Format} {xs ys : List ℕ} (hx : Fits fmt xs) (hy : Fits fmt ys) :
    cmpBytes (render fmt xs) (render fmt ys) < 0 ↔ xs < ys := by
  induction fmt generalizing xs ys with
  | nil =>
    have hxs : xs = [] := List.forall₂_nil_left_iff.mp hx
    have hys : ys = [] := List.forall₂_nil_left_iff.mp hy
    subst hxs hys
    simp [render, cmpBytes]
  | cons f fmt ih =>
    obtain ⟨x, xs', hx₀, hxs, rfl⟩ := List.forall₂_cons_left_iff.mp hx
    obtain ⟨y, ys', hy₀, hys, rfl⟩ := List.forall₂_cons_left_iff.mp hy
    have hrest : cmpBytes (render fmt xs') (render fmt ys') < 0 ↔ xs' < ys' := ih hxs hys
    rw [render, render, cmpBytes_fixedWidth hx₀ hy₀, cmpBytes_cons_self, hrest,
      List.cons_lt_cons_iff]

theorem render_inj {fmt : Format} {xs ys : List ℕ} (hx : Fits fmt xs) (hy : Fits fmt ys)
    (h : render fmt xs = render fmt ys) : xs = ys := by
  have hzero : cmpBytes (render fmt xs) (render fmt ys) = 0 := by rw [h, cmpBytes_self]
  have hzero' : cmpBytes (render fmt ys) (render fmt xs) = 0 := by rw [h, cmpBytes_self]
  rcases lt_trichotomy xs ys with hlt | heq | hgt
  · have hneg := (cmpBytes_render hx hy).mpr hlt
    omega
  · exact heq
  · have hneg := (cmpBytes_render hy hx).mpr hgt
    omega

theorem length_render {fmt : Format} {xs : List ℕ} (h : Fits fmt xs) :
    (render fmt xs).length = (fmt.map fun f => f.1 + 1).sum := by
  induction fmt generalizing xs with
  | nil => rfl
  | cons f fmt ih =>
    obtain ⟨x, xs', -, hxs, rfl⟩ := List.forall₂_cons_left_iff.mp h
    have hrest := ih hxs
    rw [render, List.length_append, length_fixedWidth, List.length_cons, hrest, List.map_cons,
      List.sum_cons]
    omega

theorem render_ne_zero : ∀ {fmt : Format} (xs : List ℕ), (∀ f ∈ fmt, f.2 ≠ 0) →
    ∀ b ∈ render fmt xs, b ≠ 0
  | [], _, _, b, hb => by simp [render] at hb
  | (_, _) :: _, [], _, b, hb => by simp [render] at hb
  | (w, sep) :: fmt, x :: xs, hsep, b, hb => by
    rw [List.forall_mem_cons] at hsep
    rw [render, List.mem_append, List.mem_cons] at hb
    rcases hb with hb | rfl | hb
    · exact fixedWidth_ne_zero b hb
    · exact hsep.1
    · exact render_ne_zero xs hsep.2 b hb

/-! ### `printf` -/

/-- The digits of a number, at least `w` of them. -/
def paddedTo (w n : ℕ) : List UInt8 :=
  if n < 10 ^ w then fixedWidth w n else fixedWidth (Nat.log 10 n + 1) n

/-- The conversion `%0wd`. -/
def formatInt (w : ℕ) (z : ℤ) : List UInt8 :=
  if z < 0 then 45 :: paddedTo (w - 1) z.natAbs else paddedTo w z.natAbs

theorem formatInt_natCast {w n : ℕ} (h : n < 10 ^ w) : formatInt w n = fixedWidth w n := by
  have hpos : ¬ ((n : ℤ) < 0) := by omega
  unfold formatInt paddedTo
  rw [if_neg hpos, Int.natAbs_natCast, if_pos h]

end OasisEdge.Lib.Decimal
