import Mathlib.Data.List.Basic
import Mathlib.Tactic.SplitIfs

/-! # Readers

A reader takes items from the front of a list, and may end in an error (`Reader`). It *reads* a value
from a list if it takes exactly this list and gives the value, whatever comes behind (`Reads`). What a
sequence of readers reads is one list after the other (`Reads.bind`), so a format that is written piece
by piece is read back piece by piece. -/

namespace OasisEdge.Lib.Readers

universe u v

variable {σ : Type u} {ε : Type v} {α β : Type u}

/-- A reader of items `σ`. -/
abbrev Reader (σ : Type u) (ε : Type v) (α : Type u) := StateT (List σ) (Except ε) α

/-- **`f` reads `a` from `l`**: it takes `l` and nothing of what is behind. -/
def Reads (f : Reader σ ε α) (l : List σ) (a : α) : Prop :=
  ∀ rest, f.run (l ++ rest) = .ok (a, rest)

theorem Reads.pure (a : α) : Reads (pure a : Reader σ ε α) [] a := fun _ => rfl

theorem Reads.bind {f : Reader σ ε α} {g : α → Reader σ ε β} {l m : List σ} {a : α} {b : β}
    (hf : Reads f l a) (hg : Reads (g a) m b) : Reads (f >>= g) (l ++ m) b := by
  intro rest
  rw [StateT.run_bind, List.append_assoc, hf (m ++ rest)]
  exact hg rest

/-- The second reader of two goes on behind what the first has read. -/
theorem Reads.run_bind {f : Reader σ ε α} {l : List σ} {a : α} (hf : Reads f l a)
    (g : α → Reader σ ε β) (rest : List σ) : (f >>= g).run (l ++ rest) = (g a).run rest := by
  rw [StateT.run_bind, hf rest]
  rfl

theorem Reads.bind_nil {f : Reader σ ε α} {g : α → Reader σ ε β} {l : List σ} {a : α} {b : β}
    (hf : Reads f l a) (hg : Reads (g a) [] b) : Reads (f >>= g) l b := by
  have h := hf.bind hg
  rwa [List.append_nil] at h

theorem Reads.run_eq {f : Reader σ ε α} {l : List σ} {a : α} (h : Reads f l a) :
    f.run l = .ok (a, []) := by
  have hrun := h []
  rwa [List.append_nil] at hrun

/-- The next item, or the error `e` at the end. -/
def next (e : ε) : Reader σ ε σ := fun l =>
  match l with
  | [] => .error e
  | x :: l => .ok (x, l)

/-- The next `n` items. -/
def nextMany (e : ε) (n : ℕ) : Reader σ ε (List σ) := fun l =>
  if n ≤ l.length then .ok (l.take n, l.drop n) else .error e

theorem reads_next (e : ε) (x : σ) : Reads (next e) [x] x := fun _ => rfl

theorem reads_nextMany (e : ε) (l : List σ) : Reads (nextMany e l.length) l l := by
  intro rest
  show (if l.length ≤ (l ++ rest).length then _ else _) = _
  rw [if_pos (by rw [List.length_append]; omega), List.take_left, List.drop_left]

/-! ### Readers that look at nothing behind -/

/-- What is behind what a reader takes makes no difference to it. -/
def Stable (f : Reader σ ε α) : Prop :=
  ∀ ⦃l r : List σ⦄ ⦃a : α⦄ (m : List σ), f.run l = .ok (a, r) → f.run (l ++ m) = .ok (a, r ++ m)

theorem stable_pure (a : α) : Stable (pure a : Reader σ ε α) := by
  intro l r b m h
  obtain ⟨rfl, rfl⟩ := Prod.mk.inj (Except.ok.inj h)
  rfl

theorem run_bind_eq_ok {f : Reader σ ε α} {g : α → Reader σ ε β} {l r : List σ} {b : β} :
    (f >>= g).run l = .ok (b, r) ↔ ∃ a m, f.run l = .ok (a, m) ∧ (g a).run m = .ok (b, r) := by
  rw [StateT.run_bind]
  rcases f.run l with e | ⟨a, m⟩
  · refine ⟨fun h => ?_, fun ⟨a, m, h, _⟩ => ?_⟩
    · cases h
    · cases h
  · refine ⟨fun h => ⟨a, m, rfl, h⟩, fun ⟨a', m', h, h'⟩ => ?_⟩
    obtain ⟨rfl, rfl⟩ := Prod.mk.inj (Except.ok.inj h)
    exact h'

theorem Stable.bind {f : Reader σ ε α} {g : α → Reader σ ε β} (hf : Stable f)
    (hg : ∀ a, Stable (g a)) : Stable (f >>= g) := by
  intro l r b m h
  obtain ⟨a, l', h₁, h₂⟩ := run_bind_eq_ok.mp h
  exact run_bind_eq_ok.mpr ⟨a, l' ++ m, hf m h₁, hg a m h₂⟩

theorem stable_next (e : ε) : Stable (next e : Reader σ ε σ) := by
  intro l r a m h
  rcases l with _ | ⟨x, l⟩
  · cases h
  · obtain ⟨rfl, rfl⟩ := Prod.mk.inj (Except.ok.inj h)
    rfl

theorem nextMany_eq_ok {e : ε} {n : ℕ} {l r a : List σ} :
    (nextMany e n).run l = .ok (a, r) ↔ l = a ++ r ∧ a.length = n := by
  show (if n ≤ l.length then _ else _) = _ ↔ _
  split_ifs with hn
  · rw [Except.ok.injEq, Prod.mk.injEq]
    refine ⟨fun ⟨ha, hr⟩ => ?_, fun ⟨hl, ha⟩ => ?_⟩
    · rw [← ha, ← hr, List.take_append_drop, List.length_take]
      exact ⟨rfl, by omega⟩
    · rw [hl, ← ha, List.take_left, List.drop_left]
      exact ⟨rfl, rfl⟩
  · refine ⟨fun h => ?_, fun ⟨hl, ha⟩ => ?_⟩
    · cases h
    · rw [hl, List.length_append] at hn
      omega

theorem stable_nextMany (e : ε) (n : ℕ) : Stable (nextMany e n : Reader σ ε (List σ)) := by
  intro l r a m h
  obtain ⟨rfl, ha⟩ := nextMany_eq_ok.mp h
  exact nextMany_eq_ok.mpr ⟨List.append_assoc _ _ _, ha⟩

/-! ### Streams of items -/

/-- A stream starts with the items `as`, and `rest` is behind them. -/
inductive Split (f : Reader σ ε α) : List σ → List α → List σ → Prop
  | nil (l : List σ) : Split f l [] l
  | cons {l r rest : List σ} {a : α} {as : List α} (h : f.run l = .ok (a, r))
      (hs : Split f r as rest) : Split f l (a :: as) rest

theorem Split.flatMap {γ : Type u} {f : Reader σ ε α} {enc : γ → List σ} {val : γ → α} {cs : List γ}
    (h : ∀ c ∈ cs, Reads f (enc c) (val c)) (rest : List σ) :
    Split f (cs.flatMap enc ++ rest) (cs.map val) rest := by
  induction cs with
  | nil => exact .nil rest
  | cons c cs ih =>
    rw [List.flatMap_cons, List.append_assoc]
    exact .cons (h c List.mem_cons_self _) (ih fun c' hc' => h c' (List.mem_cons_of_mem c hc'))

section
variable {f : Reader σ ε α} {l r rest : List σ} {as bs : List α}

theorem Split.snoc {a : α} (h : Split f l as r) (ha : f.run r = .ok (a, rest)) :
    Split f l (as ++ [a]) rest := by
  induction h with
  | nil l => exact .cons ha (.nil rest)
  | cons h _ ih => exact .cons h (ih ha)

/-- More of a stream makes no difference to the items at its start. -/
theorem Split.append (hf : Stable f) (h : Split f l as r) (m : List σ) :
    Split f (l ++ m) as (r ++ m) := by
  induction h with
  | nil l => exact .nil (l ++ m)
  | cons h _ ih => exact .cons (hf m h) ih

/-- Where no item starts, the stream has no more of them. -/
theorem Split.prefix_of_error (h : Split f l as r) (h' : Split f l bs rest) {e : ε}
    (herr : f.run r = .error e) : bs <+: as := by
  induction h generalizing bs with
  | nil l =>
    rcases h' with _ | ⟨hb, hs⟩
    · exact List.nil_prefix
    · rw [herr] at hb
      cases hb
  | cons ha _ ih =>
    rcases h' with _ | ⟨hb, hs⟩
    · exact List.nil_prefix
    · rw [ha] at hb
      obtain ⟨rfl, rfl⟩ := Prod.mk.inj (Except.ok.inj hb)
      exact List.prefix_cons_inj _ |>.mpr (ih hs herr)

end

end OasisEdge.Lib.Readers
