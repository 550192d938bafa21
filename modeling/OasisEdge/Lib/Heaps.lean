import Mathlib.Data.Finset.Card

/-! # A heap of blocks

A heap is a set of live blocks with their contents. The outcomes of the calls of `malloc` are given
as a stream, call `k` returning the block `k` or NULL, so a block is never handed out twice, and a
pointer to a block that was freed stays distinct from all others. A use of NULL, of a block that is
not live, or of a block as something it does not hold, is a `Misuse`; so is freeing a block that is
not live.

A block that is live and `Holds` a value can be loaded, stored and freed; the lemmas on `Holds` say
which other blocks keep their values. `Grown` and `Shrunk` count the blocks; `Spares` says which blocks
keep what they hold, whatever is handed out and freed. -/

namespace OasisEdge.Lib.Heaps

/-- A pointer, `none` being NULL. -/
abbrev Ptr := Option ℕ

/-- What must not happen to a pointer. -/
inductive Misuse
  | nullPointer
  | notLive
  | wrongContent
deriving DecidableEq

/-- A heap, with the outcomes of all calls of `malloc` and their number so far. -/
structure Heap (β : Type) where
  outcomes : ℕ → Bool
  mallocs : ℕ
  live : Finset ℕ
  content : ℕ → β

namespace Heap

variable {β : Type} {h : Heap β} {a b : ℕ} {v w : β}

/-- The heap before the first allocation. -/
def empty (outcomes : ℕ → Bool) (v : β) : Heap β := ⟨outcomes, 0, ∅, fun _ => v⟩

/-- The block `a` holds `v`. -/
def put (h : Heap β) (a : ℕ) (v : β) : Heap β :=
  { h with content := Function.update h.content a v }

/-- The next block is live. -/
def grow (h : Heap β) (v : β) : Heap β :=
  { h with
    mallocs := h.mallocs + 1
    live := insert h.mallocs h.live
    content := Function.update h.content h.mallocs v }

/-- The next block is skipped. -/
def skip (h : Heap β) : Heap β := { h with mallocs := h.mallocs + 1 }

/-- The block `a` is not live. -/
def drop (h : Heap β) (a : ℕ) : Heap β := { h with live := h.live.erase a }

/-- `malloc`: a block with content `v`, or NULL. -/
def malloc (h : Heap β) (v : β) : Ptr × Heap β :=
  if h.outcomes h.mallocs then (some h.mallocs, h.grow v) else (none, h.skip)

/-- The block behind a pointer that is used. -/
def deref (h : Heap β) : Ptr → Except Misuse ℕ
  | none => .error .nullPointer
  | some a => if a ∈ h.live then .ok a else .error .notLive

/-- The content of the block behind the pointer. -/
def load (h : Heap β) (p : Ptr) : Except Misuse β := do
  let a ← h.deref p
  .ok (h.content a)

/-- A write to the block behind the pointer. -/
def store (h : Heap β) (p : Ptr) (v : β) : Except Misuse (Heap β) := do
  let a ← h.deref p
  .ok (h.put a v)

def free (h : Heap β) : Ptr → Except Misuse (Heap β)
  | none => .ok h
  | some a => do
    let a ← h.deref (some a)
    .ok (h.drop a)

/-! ### What the operations do -/

theorem ok_bind {α γ : Type} (x : α) (f : α → Except Misuse γ) :
    (Except.ok x >>= f : Except Misuse γ) = f x := rfl

theorem malloc_eq (hout : h.outcomes h.mallocs = true) : h.malloc v = (some h.mallocs, h.grow v) := by
  unfold malloc
  rw [if_pos hout]

theorem malloc_fails (hout : h.outcomes h.mallocs = false) : h.malloc v = (none, h.skip) := by
  unfold malloc
  rw [if_neg (by rw [hout]; decide)]

theorem deref_some (ha : a ∈ h.live) : h.deref (some a) = .ok a := if_pos ha

theorem deref_dangling (ha : a ∉ h.live) : h.deref (some a) = .error .notLive := if_neg ha

theorem load_some (ha : a ∈ h.live) : h.load (some a) = .ok (h.content a) := by
  unfold load
  rw [deref_some ha]
  rfl

theorem store_some (ha : a ∈ h.live) : h.store (some a) v = .ok (h.put a v) := by
  unfold store
  rw [deref_some ha]
  rfl

theorem free_some (ha : a ∈ h.live) : h.free (some a) = .ok (h.drop a) := by
  simp only [free, deref_some ha]
  rfl

/-- The use of a pointer to no live block. -/
theorem load_error {p : Ptr} (hp : ∀ a, p = some a → a ∉ h.live) : ∃ e, h.load p = .error e := by
  cases p with
  | none => exact ⟨_, rfl⟩
  | some a =>
    refine ⟨.notLive, ?_⟩
    unfold load
    rw [deref_dangling (hp a rfl)]
    rfl

/-! ### What becomes of the blocks -/

/-- The blocks that are live were handed out. -/
def Bounded (h : Heap β) : Prop := ∀ a ∈ h.live, a < h.mallocs

/-- The block `a` is live and holds `v`. -/
def Holds (h : Heap β) (a : ℕ) (v : β) : Prop := a ∈ h.live ∧ h.content a = v

theorem bounded_empty (outcomes : ℕ → Bool) (v : β) : (empty outcomes v).Bounded := by
  intro a ha
  exact absurd ha (Finset.notMem_empty a)

theorem Bounded.not_live (hb : h.Bounded) : h.mallocs ∉ h.live :=
  fun hmem => Nat.lt_irrefl _ (hb _ hmem)

theorem Holds.lt (hv : h.Holds a v) (hb : h.Bounded) : a < h.mallocs := hb a hv.1

theorem Holds.load (hv : h.Holds a v) : h.load (some a) = .ok v := by
  rw [load_some hv.1, hv.2]

theorem Holds.store (hv : h.Holds a v) : h.store (some a) w = .ok (h.put a w) := store_some hv.1

theorem Holds.free (hv : h.Holds a v) : h.free (some a) = .ok (h.drop a) := free_some hv.1

theorem Holds.put_self (hv : h.Holds a v) : (h.put a w).Holds a w :=
  ⟨hv.1, Function.update_self ..⟩

theorem Holds.put (hv : h.Holds b v) (hne : b ≠ a) : (h.put a w).Holds b v :=
  ⟨hv.1, (Function.update_of_ne hne ..).trans hv.2⟩

theorem holds_grow_self : (h.grow v).Holds h.mallocs v :=
  ⟨Finset.mem_insert_self .., Function.update_self ..⟩

theorem Holds.grow (hv : h.Holds b v) (hb : h.Bounded) : (h.grow w).Holds b v :=
  ⟨Finset.mem_insert_of_mem hv.1, (Function.update_of_ne (hv.lt hb).ne ..).trans hv.2⟩

theorem Holds.drop (hv : h.Holds b v) (hne : b ≠ a) : (h.drop a).Holds b v :=
  ⟨Finset.mem_erase.mpr ⟨hne, hv.1⟩, hv.2⟩

/-- `h'` is `h` after `n` allocations that succeeded. -/
structure Grown (n : ℕ) (h h' : Heap β) : Prop where
  outcomes : h'.outcomes = h.outcomes
  mallocs : h'.mallocs = h.mallocs + n
  card : h'.live.card = h.live.card + n
  bounded : h'.Bounded

theorem Grown.trans {m n : ℕ} {h₁ h₂ h₃ : Heap β} (g₁ : Grown m h₁ h₂) (g₂ : Grown n h₂ h₃) :
    Grown (m + n) h₁ h₃ where
  outcomes := g₂.outcomes.trans g₁.outcomes
  mallocs := by rw [g₂.mallocs, g₁.mallocs, Nat.add_assoc]
  card := by rw [g₂.card, g₁.card, Nat.add_assoc]
  bounded := g₂.bounded

/-- The outcomes of the allocations to come. -/
theorem Grown.outcomes_add {n : ℕ} {h h' : Heap β} (g : Grown n h h') (i : ℕ) :
    h'.outcomes (h'.mallocs + i) = h.outcomes (h.mallocs + (n + i)) := by
  rw [g.outcomes, g.mallocs, Nat.add_assoc]

/-- A write hands out no block. -/
theorem Grown.put {n : ℕ} {h h' : Heap β} (g : Grown n h h') : Grown n h (h'.put a v) :=
  ⟨g.outcomes, g.mallocs, g.card, g.bounded⟩

theorem grown_put (hb : h.Bounded) : Grown 0 h (h.put a v) := ⟨rfl, rfl, rfl, hb⟩

theorem grown_grow (hb : h.Bounded) : Grown 1 h (h.grow v) where
  outcomes := rfl
  mallocs := rfl
  card := Finset.card_insert_of_notMem hb.not_live
  bounded := by
    intro a ha
    rcases Finset.mem_insert.mp ha with rfl | ha
    · exact Nat.lt_succ_self _
    · exact Nat.lt_succ_of_lt (hb a ha)

/-- `h'` is `h` after `n` blocks were freed. -/
structure Shrunk (n : ℕ) (h h' : Heap β) : Prop where
  outcomes : h'.outcomes = h.outcomes
  mallocs : h'.mallocs = h.mallocs
  card : h'.live.card + n = h.live.card
  bounded : h'.Bounded

theorem Shrunk.trans {m n : ℕ} {h₁ h₂ h₃ : Heap β} (g₁ : Shrunk m h₁ h₂) (g₂ : Shrunk n h₂ h₃) :
    Shrunk (m + n) h₁ h₃ where
  outcomes := g₂.outcomes.trans g₁.outcomes
  mallocs := g₂.mallocs.trans g₁.mallocs
  card := by rw [← g₁.card, ← g₂.card, Nat.add_right_comm, Nat.add_assoc]
  bounded := g₂.bounded

/-- A write frees no block. -/
theorem Shrunk.put {n : ℕ} {h h' : Heap β} (s : Shrunk n h h') : Shrunk n h (h'.put a v) :=
  ⟨s.outcomes, s.mallocs, s.card, s.bounded⟩

theorem Holds.shrunk_drop (hv : h.Holds a v) (hb : h.Bounded) : Shrunk 1 h (h.drop a) where
  outcomes := rfl
  mallocs := rfl
  card := Finset.card_erase_add_one hv.1
  bounded := fun b hmem => hb b (Finset.mem_of_mem_erase hmem)

/-! ### What is spared -/

/-- `free` of some blocks, one after the other. -/
def freeAll (h : Heap β) : List ℕ → Except Misuse (Heap β)
  | [] => .ok h
  | a :: as => do
    let h ← h.free (some a)
    freeAll h as

/-- `h'` is `h` after blocks were handed out and blocks were freed, of those in `h` only `freed`. -/
structure Spares (freed : List ℕ) (h h' : Heap β) : Prop where
  mallocs_le : h.mallocs ≤ h'.mallocs
  bounded : h'.Bounded
  holds : ∀ ⦃a : ℕ⦄ ⦃v : β⦄, a ∉ freed → h.Holds a v → h'.Holds a v

theorem Spares.refl (hb : h.Bounded) : Spares [] h h := ⟨Nat.le_refl _, hb, fun _ _ _ hv => hv⟩

theorem Spares.trans {f g : List ℕ} {h₁ h₂ h₃ : Heap β} (s₁ : Spares f h₁ h₂) (s₂ : Spares g h₂ h₃) :
    Spares (f ++ g) h₁ h₃ := by
  refine ⟨s₁.mallocs_le.trans s₂.mallocs_le, s₂.bounded, fun a v ha hv => ?_⟩
  obtain ⟨hf, hg⟩ := not_or.mp (mt List.mem_append.mpr ha)
  exact s₂.holds hg (s₁.holds hf hv)

/-- Blocks that were handed out since need not be named. -/
theorem Spares.of_fresh {f g : List ℕ} {h h' : Heap β} (s : Spares (f ++ g) h h') (hb : h.Bounded)
    (hfresh : ∀ a ∈ g, h.mallocs ≤ a) : Spares f h h' := by
  refine ⟨s.mallocs_le, s.bounded, fun a v ha hv => s.holds (fun hmem => ?_) hv⟩
  rcases List.mem_append.mp hmem with hf | hg
  · exact ha hf
  · exact absurd (hv.lt hb) (Nat.not_lt.mpr (hfresh a hg))

theorem spares_grow (hb : h.Bounded) : Spares [] h (h.grow v) :=
  ⟨Nat.le_succ _, (grown_grow hb).bounded, fun _ _ _ hv => hv.grow hb⟩

theorem spares_drop (hb : h.Bounded) (a : ℕ) : Spares [a] h (h.drop a) :=
  ⟨Nat.le_refl _, fun b hmem => hb b (Finset.mem_of_mem_erase hmem),
    fun _ _ hne hv => hv.drop fun heq => hne (heq ▸ List.mem_singleton_self a)⟩

/-- **Blocks that are live and different can be freed**, and the others are spared. -/
theorem exists_freeAll {as : List ℕ} (hb : h.Bounded) (hnodup : as.Nodup) (hlive : ∀ a ∈ as, ∃ v, h.Holds a v) :
    ∃ h', h.freeAll as = .ok h' ∧ Spares as h h' := by
  induction as generalizing h with
  | nil => exact ⟨h, rfl, .refl hb⟩
  | cons a as ih =>
    obtain ⟨hnot, hnodup⟩ := List.nodup_cons.mp hnodup
    obtain ⟨v, hv⟩ := hlive a List.mem_cons_self
    have hdrop := spares_drop hb a
    obtain ⟨h', hfree, hspares⟩ := ih hdrop.bounded hnodup fun b hmem => by
      obtain ⟨w, hw⟩ := hlive b (List.mem_cons_of_mem a hmem)
      exact ⟨w, hw.drop fun heq => hnot (heq ▸ hmem)⟩
    refine ⟨h', ?_, hdrop.trans hspares⟩
    rw [freeAll, hv.free]
    exact hfree

end Heap

end OasisEdge.Lib.Heaps
