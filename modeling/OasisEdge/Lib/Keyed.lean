import Mathlib.Algebra.BigOperators.Group.Finset.Piecewise
import Mathlib.Data.List.Nodup

/-! # Lists of records with a key

The list of a program that is searched from the front: the first record with a key is found, replaced or
removed, and a record with a new key goes to the end. With distinct keys each of the three changes what is
found at that key only. -/

namespace OasisEdge.Lib.Keyed

variable {α : Type*} (key : α → ℕ)

/-- The first record with the key. -/
def find (k : ℕ) (l : List α) : Option α := l.find? fun x => key x = k

/-- The first record with the key is taken out. -/
def remove (k : ℕ) (l : List α) : List α := l.eraseP fun x => key x = k

/-- The first record with the key is changed. -/
def change (k : ℕ) (f : α → α) (l : List α) : List α :=
  l.replaceF fun x => if key x = k then some (f x) else none

/-- No two records have the same key. -/
def Distinct (l : List α) : Prop := (l.map key).Nodup

variable {key}

@[simp] theorem find_nil (k : ℕ) : find key k [] = none := rfl

theorem find_cons (k : ℕ) (x : α) (l : List α) :
    find key k (x :: l) = if key x = k then some x else find key k l := by
  unfold find
  rw [List.find?_cons]
  split_ifs with h
  · rw [decide_eq_true h]
  · rw [decide_eq_false h]

theorem find_eq_none {k : ℕ} {l : List α} : find key k l = none ↔ ∀ x ∈ l, key x ≠ k := by
  unfold find
  rw [List.find?_eq_none]
  simp only [decide_eq_true_eq, ne_eq]

theorem mem_of_find {k : ℕ} {l : List α} {x : α} (h : find key k l = some x) : x ∈ l :=
  List.mem_of_find?_eq_some h

theorem find_append (k : ℕ) (l l' : List α) :
    find key k (l ++ l') = (find key k l).or (find key k l') := List.find?_append

theorem find_snoc (k : ℕ) (l : List α) (x : α) (h : find key (key x) l = none) :
    find key k (l ++ [x]) = if key x = k then some x else find key k l := by
  rw [find_append, find_cons]
  split_ifs with hk
  · subst hk
    rw [h]
    rfl
  · exact Option.or_none

theorem Distinct.snoc {l : List α} (h : Distinct key l) {x : α} (hx : find key (key x) l = none) :
    Distinct key (l ++ [x]) := by
  unfold Distinct at h ⊢
  rw [List.map_append, List.map_singleton, ← List.concat_eq_append, List.nodup_concat]
  refine ⟨fun hmem => ?_, h⟩
  obtain ⟨y, hy, hkey⟩ := List.mem_map.mp hmem
  exact find_eq_none.mp hx y hy hkey

theorem Distinct.tail {x : α} {l : List α} (h : Distinct key (x :: l)) :
    find key (key x) l = none ∧ Distinct key l := by
  unfold Distinct at h
  rw [List.map_cons, List.nodup_cons] at h
  exact ⟨find_eq_none.mpr fun y hy hkey => h.1 (List.mem_map.mpr ⟨y, hy, hkey⟩), h.2⟩

theorem find_of_mem {l : List α} (h : Distinct key l) {x : α} (hx : x ∈ l) : find key (key x) l = some x := by
  induction l with
  | nil => cases hx
  | cons y l ih =>
    rw [find_cons]
    rcases List.mem_cons.mp hx with rfl | hx
    · exact if_pos rfl
    · have hne : key y ≠ key x := fun heq => find_eq_none.mp h.tail.1 x hx heq.symm
      rw [if_neg hne, ih h.tail.2 hx]

theorem Distinct.remove {l : List α} (h : Distinct key l) (k : ℕ) : Distinct key (remove key k l) :=
  List.Nodup.sublist (List.Sublist.map key List.eraseP_sublist) h

theorem find_remove {l : List α} (h : Distinct key l) (k j : ℕ) :
    find key j (remove key k l) = if k = j then none else find key j l := by
  induction l with
  | nil =>
    split_ifs
    · rfl
    · rfl
  | cons x l ih =>
    obtain ⟨hx, hl⟩ := h.tail
    unfold remove at ih ⊢
    rw [List.eraseP_cons]
    by_cases hk : key x = k
    · rw [decide_eq_true hk, cond_true, find_cons]
      subst hk
      split_ifs with hj
      · subst hj
        exact hx
      · rfl
    · rw [decide_eq_false hk, cond_false, find_cons, find_cons, ih hl]
      split_ifs with hj hkj
      · exact absurd (hj.trans hkj.symm) hk
      · rfl
      · rfl
      · rfl

theorem find_change {f : α → α} {k : ℕ} (hf : ∀ x, key x = k → key (f x) = k) (j : ℕ) (l : List α) :
    find key j (change key k f l) = if k = j then (find key k l).map f else find key j l := by
  induction l with
  | nil =>
    split_ifs
    · rfl
    · rfl
  | cons x l ih =>
    unfold change at ih ⊢
    rw [List.replaceF_cons]
    by_cases hk : key x = k
    · rw [if_pos hk]
      simp only
      rw [find_cons, find_cons, find_cons, if_pos hk, hf x hk, hk]
      split_ifs
      · rfl
      · rfl
    · rw [if_neg hk]
      simp only
      rw [find_cons, find_cons, find_cons, if_neg hk, ih]
      split_ifs with hj hkj
      · exact absurd (hj.trans hkj.symm) hk
      · rfl
      · rfl
      · rfl

theorem map_change {f : α → α} {k : ℕ} (hf : ∀ x, key x = k → key (f x) = k) (l : List α) :
    (change key k f l).map key = l.map key := by
  induction l with
  | nil => rfl
  | cons x l ih =>
    unfold change at ih ⊢
    rw [List.replaceF_cons]
    by_cases hk : key x = k
    · rw [if_pos hk, List.map_cons, List.map_cons, hf x hk, hk]
    · rw [if_neg hk]
      exact congrArg (key x :: ·) ih

theorem mem_change {f : α → α} {k : ℕ} {l : List α} {y : α} (h : y ∈ change key k f l) :
    y ∈ l ∨ ∃ x ∈ l, key x = k ∧ y = f x := by
  induction l with
  | nil => cases h
  | cons x l ih =>
    unfold change at ih h
    rw [List.replaceF_cons] at h
    by_cases hk : key x = k
    · rw [if_pos hk] at h
      rcases List.mem_cons.mp h with rfl | h
      · exact .inr ⟨x, List.mem_cons_self, hk, rfl⟩
      · exact .inl (List.mem_cons_of_mem _ h)
    · rw [if_neg hk] at h
      rcases List.mem_cons.mp h with rfl | h
      · exact .inl List.mem_cons_self
      · rcases ih h with h | ⟨z, hz, hkz, rfl⟩
        · exact .inl (List.mem_cons_of_mem _ h)
        · exact .inr ⟨z, List.mem_cons_of_mem _ hz, hkz, rfl⟩

theorem mem_of_mem_remove {k : ℕ} {l : List α} {y : α} (h : y ∈ remove key k l) : y ∈ l :=
  List.mem_of_mem_eraseP h

theorem Distinct.change {l : List α} (h : Distinct key l) {f : α → α} {k : ℕ}
    (hf : ∀ x, key x = k → key (f x) = k) : Distinct key (change key k f l) := by
  unfold Distinct
  rw [map_change hf]
  exact h

/-- A sum over the keys is a sum over the records. -/
theorem sum_find {N : Type*} [AddCommMonoid N] {g : Option α → N} (hg : g none = 0) {s : Finset ℕ}
    {l : List α} (h : Distinct key l) (hs : ∀ x ∈ l, key x ∈ s) :
    ∑ j ∈ s, g (find key j l) = (l.map fun x => g (some x)).sum := by
  induction l with
  | nil => exact (Finset.sum_congr rfl fun _ _ => hg).trans Finset.sum_const_zero
  | cons x l ih =>
    obtain ⟨hx, hl⟩ := h.tail
    have hsplit : ∀ j, g (find key j (x :: l)) = (if key x = j then g (some x) else 0) + g (find key j l) := by
      intro j
      rw [find_cons]
      split_ifs with hj
      · rw [← hj, hx, hg, add_zero]
      · rw [zero_add]
    rw [Finset.sum_congr rfl fun j _ => hsplit j, Finset.sum_add_distrib, Finset.sum_ite_eq,
      if_pos (hs x List.mem_cons_self), ih hl fun y hy => hs y (List.mem_cons_of_mem _ hy), List.map_cons,
      List.sum_cons]

end OasisEdge.Lib.Keyed
