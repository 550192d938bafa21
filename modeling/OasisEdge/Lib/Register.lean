import Mathlib.Order.Lattice
import Mathlib.Tactic.SplitIfs
import Mathlib.Data.List.Basic

/-! # Registers that keep the newest entry

A register holds an entry: a stamp and a value. An entry that is offered replaces it unless its
stamp is behind (`offer`), so an entry with the *same* stamp wins over the one that is there.
Offering a list of entries (`offers`) in any order leaves a greatest stamp; which of the values with
that stamp is left depends on the order. Hence the order does not matter exactly when entries with
one stamp agree (`Agree`): `offers_eq_of_agree` and `offers_pair`. -/

namespace OasisEdge.Lib.Register

universe u v

variable {K : Type u} {V : Type v} [LinearOrder K]

/-- A stamped value. -/
@[ext]
structure Entry (K : Type u) (V : Type v) where
  stamp : K
  value : V
deriving DecidableEq

/-- The register after an entry was offered. -/
def offer (r x : Entry K V) : Entry K V := if x.stamp < r.stamp then r else x

/-- The register after some entries were offered one after the other. -/
def offers (r : Entry K V) (xs : List (Entry K V)) : Entry K V := xs.foldl offer r

theorem offer_of_lt {r x : Entry K V} (h : x.stamp < r.stamp) : offer r x = r := if_pos h

theorem offer_of_le {r x : Entry K V} (h : r.stamp ≤ x.stamp) : offer r x = x := if_neg (not_lt.mpr h)

theorem le_offer (r x : Entry K V) : r.stamp ≤ (offer r x).stamp := by
  unfold offer
  split_ifs with h
  · exact le_rfl
  · exact not_lt.mp h

theorem stamp_le_offer (r x : Entry K V) : x.stamp ≤ (offer r x).stamp := by
  unfold offer
  split_ifs with h
  · exact h.le
  · exact le_rfl

@[simp] theorem offers_nil (r : Entry K V) : offers r [] = r := rfl

@[simp] theorem offers_cons (r x : Entry K V) (xs : List (Entry K V)) :
    offers r (x :: xs) = offers (offer r x) xs := rfl

theorem offers_append (r : Entry K V) (xs ys : List (Entry K V)) :
    offers r (xs ++ ys) = offers (offers r xs) ys := List.foldl_append ..

theorem le_offers (r : Entry K V) (xs : List (Entry K V)) : r.stamp ≤ (offers r xs).stamp := by
  induction xs generalizing r with
  | nil => exact le_rfl
  | cons x xs ih => exact (le_offer r x).trans (ih _)

theorem stamp_le_offers {r x : Entry K V} {xs : List (Entry K V)} (h : x ∈ xs) :
    x.stamp ≤ (offers r xs).stamp := by
  induction xs generalizing r with
  | nil => cases h
  | cons y xs ih =>
    rcases List.mem_cons.mp h with rfl | h
    · exact (stamp_le_offer r x).trans (le_offers _ xs)
    · exact ih h

/-- The register holds what it held at first or one of the entries offered. -/
theorem offers_mem (r : Entry K V) (xs : List (Entry K V)) : offers r xs = r ∨ offers r xs ∈ xs := by
  induction xs generalizing r with
  | nil => exact Or.inl rfl
  | cons x xs ih =>
    rw [offers_cons]
    rcases ih (offer r x) with h | h
    · rw [h]
      unfold offer
      split_ifs
      · exact Or.inl rfl
      · exact Or.inr (List.mem_cons_self ..)
    · exact Or.inr (List.mem_cons_of_mem _ h)

theorem offers_mem_of_le {r x : Entry K V} {xs : List (Entry K V)} (hx : x ∈ xs)
    (hle : r.stamp ≤ x.stamp) : offers r xs ∈ xs := by
  obtain ⟨ys, zs, rfl⟩ := List.append_of_mem hx
  rw [offers_append, offers_cons]
  rcases offers_mem r ys with h | h
  · rw [h, offer_of_le hle]
    rcases offers_mem x zs with h' | h'
    · rw [h']; simp
    · simp [h']
  · rcases offers_mem (offer (offers r ys) x) zs with h' | h'
    · rw [h']
      unfold offer
      split_ifs <;> simp [h]
    · simp [h']

/-- Entries with one stamp, if it is not behind `k`, have one value. -/
def Agree (k : K) (xs : List (Entry K V)) : Prop :=
  ∀ x ∈ xs, ∀ y ∈ xs, k ≤ x.stamp → x.stamp = y.stamp → x = y

/-- **The order does not matter** if entries with one stamp agree: the entry with the greatest stamp
is what is left. -/
theorem offers_eq_of_agree {r x : Entry K V} {xs : List (Entry K V)} (hagree : Agree r.stamp xs)
    (hx : x ∈ xs) (hle : r.stamp ≤ x.stamp) (hmax : ∀ y ∈ xs, y.stamp ≤ x.stamp) :
    offers r xs = x := by
  have hmem := offers_mem_of_le hx hle
  have hs : (offers r xs).stamp = x.stamp := le_antisymm (hmax _ hmem) (stamp_le_offers hx)
  exact (hagree x hx _ hmem hle hs.symm).symm

/-- An entry with the stamp of an earlier one takes its place. -/
theorem offers_pair {r x y : Entry K V} (hle : r.stamp ≤ x.stamp) (hxy : x.stamp = y.stamp) :
    offers r [x, y] = y := by
  rw [offers_cons, offer_of_le hle, offers_cons, offer_of_le hxy.le, offers_nil]

end OasisEdge.Lib.Register
