import Mathlib.Algebra.Order.Ring.Nat
import Mathlib.Data.Nat.Log

/-! # Hexadecimal numbers

`formatHex w` is the conversion `%0wx` of `printf`: at least `w` lower-case digits, zeros in front. A
number below `16 ^ w` gets exactly `w` of them (`length_formatHex`). -/

namespace OasisEdge.Lib.Hexadecimal

/-- A lower-case hexadecimal digit. -/
def IsLowerHex (b : UInt8) : Prop := 48 ≤ b ∧ b ≤ 57 ∨ 97 ≤ b ∧ b ≤ 102

instance (b : UInt8) : Decidable (IsLowerHex b) := by unfold IsLowerHex; infer_instance

/-- The character of a digit. -/
def hexDigit (d : ℕ) : UInt8 := if d < 10 then .ofNat (48 + d) else .ofNat (87 + d)

/-- The last `w` digits of a number. -/
def hexDigits : ℕ → ℕ → List UInt8
  | 0, _ => []
  | w + 1, n => hexDigits w (n / 16) ++ [hexDigit (n % 16)]

/-- The conversion `%0wx`. -/
def formatHex (w n : ℕ) : List UInt8 :=
  if n < 16 ^ w then hexDigits w n else hexDigits (Nat.log 16 n + 1) n

theorem isLowerHex_hexDigit {d : ℕ} (h : d < 16) : IsLowerHex (hexDigit d) := by
  have hall : ∀ d < 16, IsLowerHex (hexDigit d) := by decide
  exact hall d h

@[simp] theorem length_hexDigits (w n : ℕ) : (hexDigits w n).length = w := by
  induction w generalizing n with
  | zero => rfl
  | succ w ih => rw [hexDigits, List.length_append, ih, List.length_singleton]

theorem isLowerHex_hexDigits {w n : ℕ} : ∀ b ∈ hexDigits w n, IsLowerHex b := by
  induction w generalizing n with
  | zero => intro b hb; cases hb
  | succ w ih =>
    intro b hb
    rw [hexDigits, List.mem_append, List.mem_singleton] at hb
    rcases hb with hb | rfl
    · exact ih b hb
    · exact isLowerHex_hexDigit (Nat.mod_lt _ (by omega))

theorem isLowerHex_formatHex {w n : ℕ} : ∀ b ∈ formatHex w n, IsLowerHex b := by
  unfold formatHex
  split_ifs
  · exact isLowerHex_hexDigits
  · exact isLowerHex_hexDigits

theorem length_formatHex {w n : ℕ} (h : n < 16 ^ w) : (formatHex w n).length = w := by
  unfold formatHex
  rw [if_pos h, length_hexDigits]

end OasisEdge.Lib.Hexadecimal
