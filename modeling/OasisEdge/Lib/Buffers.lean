import Mathlib.Data.List.Basic

/-! # Arrays that are filled from the start

An array of a fixed size, and stores into it. A store outside the array is an error (`OutOfBounds`),
so a sequence of stores that has a result lies within the array.

What has been filled in is a prefix of the array (`Begins`). A store at the end of it makes it longer
by one (`store_begins`), and a store of several values at places one after the other makes it longer
by these (`storeAll_begins`). What lies behind the prefix is open: it may be overwritten by the next
store. -/

namespace OasisEdge.Lib.Buffers

universe u

variable {α : Type u} {n : ℕ}

/-- A store outside the array, at the place `index`. -/
structure OutOfBounds where
  index : ℕ
deriving DecidableEq

/-- One store. -/
def store (i : ℕ) (a : α) (buf : Vector α n) : Except OutOfBounds (Vector α n) :=
  if h : i < n then .ok (buf.set i a h) else .error ⟨i⟩

/-- Stores at places one after the other. -/
def storeAll : ℕ → List α → Vector α n → Except OutOfBounds (Vector α n)
  | _, [], buf => .ok buf
  | i, a :: as, buf =>
    match store i a buf with
    | .error e => .error e
    | .ok buf => storeAll (i + 1) as buf

/-- The array starts with these values. -/
def Begins (buf : Vector α n) (as : List α) : Prop := as <+: buf.toList

theorem begins_nil (buf : Vector α n) : Begins buf [] := List.nil_prefix

theorem Begins.left {buf : Vector α n} {as bs : List α} (h : Begins buf (as ++ bs)) :
    Begins buf as :=
  (List.prefix_append as bs).trans h

theorem Begins.toList_eq {buf : Vector α n} {as : List α} (h : Begins buf as)
    (hlen : as.length = n) : buf.toList = as :=
  (h.eq_of_length (hlen.trans buf.length_toList.symm)).symm

theorem store_lt {i : ℕ} {a : α} {buf buf' : Vector α n} (h : store i a buf = .ok buf') : i < n := by
  unfold store at h
  split_ifs at h with hlt
  exact hlt

/-- A store at the end of the prefix. -/
theorem store_begins {buf : Vector α n} {as : List α} (a : α) (h : Begins buf as)
    (hlt : as.length < n) :
    ∃ buf', store as.length a buf = .ok buf' ∧ Begins buf' (as ++ [a]) := by
  refine ⟨buf.set as.length a hlt, dif_pos hlt, ?_⟩
  obtain ⟨rest, hrest⟩ := h
  have hset : (buf.set as.length a hlt).toList = (as ++ rest).set as.length a := by
    rw [Vector.toList_set, hrest]
  have hlen : as.length + rest.length = n := by
    rw [← List.length_append, hrest, Vector.length_toList]
  rcases rest with _ | ⟨b, rest⟩
  · rw [List.length_nil] at hlen
    omega
  · unfold Begins
    rw [hset, List.set_append_right _ _ (Nat.le_refl _), Nat.sub_self, List.set_cons_zero,
      List.append_cons as a rest]
    exact List.prefix_append _ _

/-- **Stores at the end of the prefix** make it longer, if there is room. -/
theorem storeAll_begins {buf : Vector α n} {as : List α} (bs : List α) (h : Begins buf as)
    (hroom : as.length + bs.length ≤ n) :
    ∃ buf', storeAll as.length bs buf = .ok buf' ∧ Begins buf' (as ++ bs) := by
  induction bs generalizing buf as with
  | nil => exact ⟨buf, rfl, by rwa [List.append_nil]⟩
  | cons b bs ih =>
    rw [List.length_cons] at hroom
    obtain ⟨buf₁, hstore, h₁⟩ := store_begins b h (by omega)
    have hlen : (as ++ [b]).length = as.length + 1 := by
      rw [List.length_append, List.length_singleton]
    obtain ⟨buf₂, hrest, h₂⟩ := ih h₁ (by omega)
    rw [hlen] at hrest
    rw [← List.append_cons] at h₂
    refine ⟨buf₂, ?_, h₂⟩
    rw [storeAll, hstore]
    exact hrest

end OasisEdge.Lib.Buffers
