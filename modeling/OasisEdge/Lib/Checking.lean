import Mathlib.Algebra.Order.Ring.Int
import Mathlib.Tactic.SplitIfs

/-! # Computations that may be undefined

A C expression whose evaluation is undefined ends in a `Fault`; a computation that reaches one has
no result (`Checked`). `deref` is the use of a pointer that may be NULL, `checkedInt` the result of
a signed operation, defined when it is in the range of its type. -/

namespace OasisEdge.Lib.Checking

universe u v

/-- What makes an operation undefined. -/
inductive Fault
  | nullPointer
  | nullString
  | floatRange
  | signedOverflow
deriving DecidableEq

/-- The result of a computation, or the fault it hits. -/
abbrev Checked (α : Type u) := Except Fault α

variable {α β : Type u}

/-- The use of a value that may be missing: `f` is the fault of using it then. -/
def need (f : Fault) : Option α → Checked α
  | some a => .ok a
  | none => .error f

/-- A signed result, in the range `[lo, hi]` of its type. -/
def checkedInt (lo hi z : ℤ) : Checked ℤ :=
  if lo ≤ z ∧ z ≤ hi then .ok z else .error .signedOverflow

@[simp] theorem need_some (f : Fault) (a : α) : need f (some a) = .ok a := rfl

@[simp] theorem need_none (f : Fault) : need f (none : Option α) = .error f := rfl

theorem need_eq_ok {f : Fault} {o : Option α} {a : α} : need f o = .ok a ↔ o = some a := by
  cases o <;> simp [need]

theorem checkedInt_eq_ok {lo hi z w : ℤ} :
    checkedInt lo hi z = .ok w ↔ lo ≤ z ∧ z ≤ hi ∧ w = z := by
  unfold checkedInt
  split_ifs with h
  · simp only [Except.ok.injEq]
    exact ⟨fun e => ⟨h.1, h.2, e.symm⟩, fun e => e.2.2.symm⟩
  · simp only [false_iff]
    exact fun e => h ⟨e.1, e.2.1⟩

@[simp] theorem ok_bind (a : α) (f : α → Checked β) : (Except.ok a >>= f : Checked β) = f a := rfl

@[simp] theorem error_bind (e : Fault) (f : α → Checked β) :
    (Except.error e >>= f : Checked β) = .error e := rfl

section
variable {ε : Type v}

/-- A sequence has a result exactly when both parts have, whatever the errors are. -/
theorem bind_eq_ok {x : Except ε α} {f : α → Except ε β} {b : β} :
    (x >>= f) = .ok b ↔ ∃ a, x = .ok a ∧ f a = .ok b := by
  cases x with
  | error e => exact iff_of_false (fun h => by cases h) (by rintro ⟨a, h, -⟩; cases h)
  | ok a =>
    constructor
    · intro h
      exact ⟨a, rfl, h⟩
    · rintro ⟨a', h, hf⟩
      obtain rfl := Except.ok.inj h
      exact hf

/-- A result that is passed on through a function. -/
theorem map_eq_ok {x : Except ε α} {f : α → β} {b : β} :
    Except.map f x = .ok b ↔ ∃ a, x = .ok a ∧ f a = b := by
  cases x <;> simp [Except.map]

end

/-- The computation hits no fault. -/
def Defined (x : Checked α) : Prop := ∃ a, x = .ok a

@[simp] theorem defined_ok (a : α) : Defined (.ok a : Checked α) := ⟨a, rfl⟩

@[simp] theorem not_defined_error (e : Fault) : ¬ Defined (.error e : Checked α) := by
  rintro ⟨a, h⟩; cases h

instance decidableDefined : (x : Checked α) → Decidable (Defined x)
  | .ok a => isTrue (defined_ok a)
  | .error e => isFalse (not_defined_error e)

theorem defined_bind {x : Checked α} {f : α → Checked β} :
    Defined (x >>= f) ↔ ∃ a, x = .ok a ∧ Defined (f a) := by
  cases x <;> simp

end OasisEdge.Lib.Checking
