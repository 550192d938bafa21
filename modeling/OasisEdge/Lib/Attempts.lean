import Mathlib.Logic.Basic

/-! # Computations that may give up

A computation in `Except ε` that ends in one error only, the one by which it gives up, and that is
sure not to give up under a condition (`Attempt`). Two attempts one after the other are one
(`Attempt.bind`), so the conditions of a long run of steps come down to that of the last step if it
is the strongest. -/

namespace OasisEdge.Lib.Attempts

universe u v

variable {ε : Type v} {α β : Type u} {stop : ε} {granted granted' : Prop}

/-- A result has the property `Q`, the only error is `stop`, and `granted` is enough for a result. -/
structure Attempt (stop : ε) (granted : Prop) (Q : α → Prop) (x : Except ε α) : Prop where
  result : ∀ a, x = .ok a → Q a
  error : ∀ e, x = .error e → e = stop
  grant : granted → ∃ a, x = .ok a

variable {Q : α → Prop} {R : β → Prop}

theorem Attempt.of_ok {x : Except ε α} {a : α} (hx : x = .ok a) (hQ : Q a) :
    Attempt stop granted Q x := by
  subst hx
  refine ⟨fun b hb => ?_, fun e he => ?_, fun _ => ⟨a, rfl⟩⟩
  · rw [← Except.ok.inj hb]
    exact hQ
  · cases he

theorem Attempt.of_stop {x : Except ε α} (hx : x = .error stop) (hno : ¬ granted) :
    Attempt stop granted Q x := by
  subst hx
  refine ⟨fun b hb => ?_, fun e he => ?_, fun h => absurd h hno⟩
  · cases hb
  · exact (Except.error.inj he).symm

/-- **One attempt after another**: the condition of the second has to be enough for the first. -/
theorem Attempt.bind {x : Except ε α} {f : α → Except ε β} (hx : Attempt stop granted Q x)
    (hf : ∀ a, Q a → Attempt stop granted' R (f a)) (himp : granted' → granted) :
    Attempt stop granted' R (x >>= f) := by
  rcases x with e | a
  · refine ⟨fun b hb => ?_, fun e' he => ?_, fun h => ?_⟩
    · cases hb
    · exact (Except.error.inj he).symm.trans (hx.error e rfl)
    · obtain ⟨a, ha⟩ := hx.grant (himp h)
      cases ha
  · exact hf a (hx.result a rfl)

theorem Attempt.mono {x : Except ε α} (hx : Attempt stop granted Q x) {Q' : α → Prop}
    (hQ : ∀ a, Q a → Q' a) (himp : granted' → granted) : Attempt stop granted' Q' x :=
  ⟨fun a ha => hQ a (hx.result a ha), hx.error, fun h => hx.grant (himp h)⟩

end OasisEdge.Lib.Attempts
