import Mathlib.Data.List.Perm.Basic
import Mathlib.Data.List.Nodup
import OasisEdge.Lib.Checking

/-! # Ledgers of what a call obtains and releases

A call obtains handles, may attach one to another, and releases them; what is attached to a handle
is released with it. The ledger of a list of such operations holds what is live and the log of what
was released (`ledger`). The operations are balanced if every handle obtained is released exactly
once.

In operations that are legal (`Proper`) nothing gets lost: what was obtained is live or released,
and once (`Proper.conserves`). So they are balanced exactly if nothing is live in the end
(`Proper.balanced_iff_held`).

`Traced` is a computation that notes its operations, and `Traced.erase` forgets them. -/

namespace OasisEdge.Lib.Ledgers

open OasisEdge.Lib.Checking

/-- An operation on handles. -/
inductive Op (κ : Type) where
  | obtain (h : κ)
  | attach (child parent : κ)
  | release (h : κ)
deriving DecidableEq

/-- The handles that are live, the one each of them is released with, and those released. -/
structure Ledger (κ : Type) where
  live : List κ
  root : κ → κ
  released : List κ

variable {κ : Type}

/-- The handles obtained, in order. -/
def obtained : List (Op κ) → List κ
  | [] => []
  | .obtain h :: ops => h :: obtained ops
  | .attach _ _ :: ops => obtained ops
  | .release _ :: ops => obtained ops

theorem obtained_cons (op : Op κ) (ops : List (Op κ)) :
    obtained (op :: ops) = obtained [op] ++ obtained ops := by
  cases op <;> rfl

section
variable [DecidableEq κ]

/-- The empty ledger. -/
def Ledger.empty : Ledger κ := ⟨[], id, []⟩

/-- The ledger after an operation. The release of a handle that is not live is logged too. -/
def Ledger.step (l : Ledger κ) : Op κ → Ledger κ
  | .obtain h => { l with live := h :: l.live, root := Function.update l.root h h }
  | .attach child parent =>
    { l with root := fun h => if l.root h = child then l.root parent else l.root h }
  | .release h =>
    if h ∈ l.live then
      { l with
        live := l.live.filter (l.root · ≠ h)
        released := l.released ++ l.live.filter (l.root · = h) }
    else { l with released := l.released ++ [h] }

/-- The ledger after a list of operations. -/
def Ledger.run (l : Ledger κ) : List (Op κ) → Ledger κ
  | [] => l
  | op :: ops => (l.step op).run ops

/-- The ledger of a list of operations. -/
def ledger (ops : List (Op κ)) : Ledger κ := Ledger.empty.run ops

/-- **The operations are balanced**: every handle obtained is released exactly once. -/
def Balanced (ops : List (Op κ)) : Prop :=
  ∀ h ∈ obtained ops, (ledger ops).released.count h = 1

instance (ops : List (Op κ)) : Decidable (Balanced ops) := by unfold Balanced; infer_instance

/-- The number of handles still live. -/
def held (ops : List (Op κ)) : ℕ := (ledger ops).live.length

/-! ### Conservation -/

/-- The operation may be made: a new handle is obtained, a live root is attached to a live handle of
another root, and a live root is released. -/
def Legal (l : Ledger κ) : Op κ → Prop
  | .obtain h => h ∉ l.live ++ l.released
  | .attach child parent =>
    child ∈ l.live ∧ l.root child = child ∧ parent ∈ l.live ∧ l.root parent ≠ child
  | .release h => h ∈ l.live ∧ l.root h = h

instance (l : Ledger κ) (op : Op κ) : Decidable (Legal l op) := by
  cases op <;> unfold Legal <;> infer_instance

/-- Every operation is legal when it is made. -/
def Proper : Ledger κ → List (Op κ) → Prop
  | _, [] => True
  | l, op :: ops => Legal l op ∧ Proper (l.step op) ops

instance decidableProper : (l : Ledger κ) → (ops : List (Op κ)) → Decidable (Proper l ops)
  | _, [] => isTrue trivial
  | l, op :: ops =>
    have := decidableProper (l.step op) ops
    inferInstanceAs (Decidable (Legal l op ∧ Proper (l.step op) ops))

theorem run_append (l : Ledger κ) (ops ops' : List (Op κ)) :
    l.run (ops ++ ops') = (l.run ops).run ops' := by
  induction ops generalizing l with
  | nil => rfl
  | cons op ops ih => exact ih (l.step op)

theorem proper_append {l : Ledger κ} {ops ops' : List (Op κ)} :
    Proper l (ops ++ ops') ↔ Proper l ops ∧ Proper (l.run ops) ops' := by
  induction ops generalizing l with
  | nil => exact (and_iff_right trivial).symm
  | cons op ops ih =>
    show (Legal l op ∧ Proper (l.step op) (ops ++ ops')) ↔ _
    rw [ih, ← and_assoc]
    rfl

/-- The handles in the ledger, live or released. -/
def Ledger.all (l : Ledger κ) : List κ := l.live ++ l.released

theorem live_release {l : Ledger κ} {a : κ} (ha : a ∈ l.live) :
    (l.step (.release a)).live = l.live.filter (l.root · ≠ a) := by
  simp only [Ledger.step, if_pos ha]

theorem released_release {l : Ledger κ} {a : κ} (ha : a ∈ l.live) :
    (l.step (.release a)).released = l.released ++ l.live.filter (l.root · = a) := by
  simp only [Ledger.step, if_pos ha]

theorem Legal.conserves {l : Ledger κ} {op : Op κ} (h : Legal l op) :
    (l.step op).all.Perm (obtained [op] ++ l.all) := by
  cases op with
  | obtain a => exact List.Perm.refl _
  | attach child parent => exact List.Perm.refl _
  | release a =>
    obtain ⟨ha, -⟩ := h
    have hfilter : (l.live.filter (l.root · ≠ a) ++ l.live.filter (l.root · = a)).Perm l.live := by
      have hp := List.filter_append_perm (fun x => decide (l.root x = a)) l.live
      refine List.perm_append_comm.trans ?_
      simpa using hp
    show ((l.step (.release a)).live ++ (l.step (.release a)).released).Perm
      (l.live ++ l.released)
    rw [live_release ha, released_release ha]
    refine (List.Perm.append_left _ List.perm_append_comm).trans ?_
    rw [← List.append_assoc]
    exact hfilter.append_right _

theorem Legal.nodup {l : Ledger κ} {op : Op κ} (h : Legal l op) (hl : l.all.Nodup) :
    (l.step op).all.Nodup := by
  refine h.conserves.nodup_iff.mpr ?_
  cases op with
  | obtain a => exact List.nodup_cons.mpr ⟨h, hl⟩
  | attach child parent => exact hl
  | release a => exact hl

/-- **Nothing gets lost**: what was obtained is live or released, each once. -/
theorem Proper.conserves {ops : List (Op κ)} : ∀ {l : Ledger κ}, Proper l ops → l.all.Nodup →
    (l.run ops).all.Perm (obtained ops ++ l.all) ∧ (l.run ops).all.Nodup := by
  induction ops with
  | nil => intro l _ hl; exact ⟨List.Perm.refl _, hl⟩
  | cons op ops ih =>
    intro l hp hl
    obtain ⟨hperm, hnodup⟩ := ih hp.2 (hp.1.nodup hl)
    refine ⟨hperm.trans ?_, hnodup⟩
    rw [obtained_cons]
    refine (List.Perm.append_left _ hp.1.conserves).trans ?_
    rw [← List.append_assoc]
    exact List.perm_append_comm.append_right _

/-- **When operations are balanced**: exactly if nothing is live in the end. -/
theorem Proper.balanced_iff_held {ops : List (Op κ)} (hp : Proper Ledger.empty ops) :
    Balanced ops ↔ held ops = 0 := by
  obtain ⟨hperm, hnodup⟩ := hp.conserves List.nodup_nil
  have hmem : ∀ h, h ∈ (ledger ops).live ∨ h ∈ (ledger ops).released ↔ h ∈ obtained ops := by
    intro h
    rw [← List.mem_append]
    have hobt : obtained ops ++ (Ledger.empty : Ledger κ).all = obtained ops := List.append_nil _
    rw [← hobt]
    exact hperm.mem_iff
  unfold held
  rw [List.length_eq_zero_iff]
  constructor
  · intro hb
    refine List.eq_nil_iff_forall_not_mem.mpr fun h hlive => ?_
    have hcount := hb h ((hmem h).mp (Or.inl hlive))
    have hreleased : h ∈ (ledger ops).released := List.count_pos_iff.mp (by omega)
    exact (List.nodup_append.mp hnodup).2.2 h hlive h hreleased rfl
  · intro hnil h hobt
    have hreleased : h ∈ (ledger ops).released := by
      rcases (hmem h).mpr hobt with hlive | hreleased
      · rw [hnil] at hlive; cases hlive
      · exact hreleased
    exact List.count_eq_one_of_mem (List.nodup_append.mp hnodup).2.1 hreleased

/-! ### Handles obtained one after the other -/

/-- New handles, all different, are live in the end, each its own root. -/
theorem run_obtains {hs : List κ} : ∀ {l : Ledger κ}, hs.Nodup → (∀ h ∈ hs, h ∉ l.all) →
    Proper l (hs.map .obtain) ∧ (l.run (hs.map .obtain)).live = hs.reverse ++ l.live ∧
      (l.run (hs.map .obtain)).released = l.released ∧
      (∀ h ∈ hs, (l.run (hs.map .obtain)).root h = h) ∧
      ∀ h, h ∉ hs → (l.run (hs.map .obtain)).root h = l.root h := by
  induction hs with
  | nil =>
    intro l _ _
    exact ⟨trivial, rfl, rfl, (fun h hh => by cases hh), fun h _ => rfl⟩
  | cons a hs ih =>
    intro l hnd hnew
    obtain ⟨ha, hnd⟩ := List.nodup_cons.mp hnd
    have hnew' : ∀ h ∈ hs, h ∉ (l.step (.obtain a)).all := by
      intro h hh hmem
      rcases List.mem_cons.mp hmem with rfl | hmem
      · exact ha hh
      · exact hnew h (.tail _ hh) hmem
    obtain ⟨hp, hlive, hrel, hroot, hother⟩ := ih hnd hnew'
    refine ⟨⟨hnew a (.head _), hp⟩, ?_, hrel, fun h hh => ?_, fun h hh => ?_⟩
    · show ((l.step (.obtain a)).run (hs.map .obtain)).live = _
      rw [hlive, List.reverse_cons, List.append_assoc]
      rfl
    · rcases List.mem_cons.mp hh with rfl | hh
      · exact (hother h ha).trans (Function.update_self ..)
      · exact hroot h hh
    · obtain ⟨hne, hh⟩ := not_or.mp (mt List.mem_cons.mpr hh)
      exact (hother h hh).trans (Function.update_of_ne hne ..)

/-- A handle that is released leaves those obtained after it, if nothing is attached to it. -/
theorem release_obtains {a : κ} {hs : List κ} (hnd : hs.Nodup) (ha : a ∉ hs) :
    Proper Ledger.empty (.obtain a :: (hs.map .obtain ++ [.release a])) ∧
      (ledger (.obtain a :: (hs.map .obtain ++ [.release a]))).live = hs.reverse := by
  have hnew : ∀ h ∈ hs, h ∉ ((Ledger.empty : Ledger κ).step (.obtain a)).all := by
    intro h hh hmem
    rw [List.mem_singleton.mp hmem] at hh
    exact ha hh
  have hfirst : ((Ledger.empty : Ledger κ).step (.obtain a)).root a = a := Function.update_self ..
  obtain ⟨hp, hlive, -, hself, hother⟩ := run_obtains hnd hnew
  have hroot := (hother a ha).trans hfirst
  have hmem : a ∈ (((Ledger.empty : Ledger κ).step (.obtain a)).run (hs.map .obtain)).live := by
    rw [hlive]
    exact List.mem_append_right _ (List.mem_singleton_self a)
  refine ⟨⟨List.not_mem_nil, proper_append.mpr ⟨hp, ⟨hmem, hroot⟩, trivial⟩⟩, ?_⟩
  show (Ledger.run _ (hs.map .obtain ++ [.release a])).live = _
  rw [run_append]
  show (Ledger.step _ (.release a)).live = _
  rw [live_release hmem, hlive, List.filter_append]
  have hkeep : hs.reverse.filter (fun h => decide (((Ledger.empty.step (.obtain a)).run
      (hs.map .obtain)).root h ≠ a)) = hs.reverse := by
    refine List.filter_eq_self.mpr fun h hh => ?_
    have hh' := List.mem_reverse.mp hh
    rw [decide_eq_true_eq, hself h hh']
    rintro rfl
    exact ha hh'
  have hdrop : [a].filter (fun h => decide (((Ledger.empty.step (.obtain a)).run
      (hs.map .obtain)).root h ≠ a)) = [] := by
    refine List.filter_eq_nil_iff.mpr fun h hh => ?_
    rw [List.mem_singleton.mp hh, decide_eq_true_eq, hroot]
    exact not_not.mpr rfl
  show _ ++ [a].filter _ = _
  rw [hkeep, hdrop, List.append_nil]

end

/-! ### Traced computations -/

/-- A computation that may be undefined and notes its operations on handles. -/
def Traced (κ α : Type) := Checked (α × List (Op κ))

namespace Traced

variable {α β : Type}

/-- An operation. -/
def note (op : Op κ) : Traced κ Unit := .ok ((), [op])

/-- A computation with no operations. -/
def lift (x : Checked α) : Traced κ α := x.map fun a => (a, [])

/-- The result alone. -/
def erase (x : Traced κ α) : Checked α := x.map Prod.fst

/-- The operations alone. -/
def ops (x : Traced κ α) : Checked (List (Op κ)) := x.map Prod.snd

theorem ops_eq_ok {x : Traced κ α} {os : List (Op κ)} :
    x.ops = .ok os ↔ ∃ a, x = .ok (a, os) := by
  have hmap : x.ops = .ok os ↔ ∃ r, x = .ok r ∧ Prod.snd r = os := map_eq_ok
  rw [hmap]
  constructor
  · rintro ⟨⟨a, os'⟩, hx, rfl⟩
    exact ⟨a, hx⟩
  · rintro ⟨a, hx⟩
    exact ⟨(a, os), hx, rfl⟩

/-- The operations are defined when the result is. -/
theorem defined_ops {x : Traced κ α} : Defined x.ops ↔ Defined x.erase := by
  rcases x with e | ⟨a, os⟩
  · exact iff_of_false (not_defined_error e) (not_defined_error e)
  · exact iff_of_true (defined_ok os) (defined_ok a)

instance : Monad (Traced κ) where
  pure a := .ok (a, [])
  bind x f := Except.bind x fun r => Except.map (fun r' => (r'.1, r.2 ++ r'.2)) (f r.1)

theorem bind_ok (a : α) (ops : List (Op κ)) (f : α → Traced κ β) :
    Bind.bind (m := Traced κ) (.ok (a, ops)) f =
      Except.map (fun r => (r.1, ops ++ r.2)) (f a) := rfl

@[simp] theorem erase_lift (x : Checked α) : erase (lift x : Traced κ α) = x := by
  cases x <;> rfl

/-- Forgetting the operations of a sequence. -/
@[simp] theorem erase_bind (x : Traced κ α) (f : α → Traced κ β) :
    erase (x >>= f) = erase x >>= fun a => erase (f a) := by
  rcases x with e | ⟨a, ops⟩
  · rfl
  · rw [bind_ok]
    show _ = erase (f a)
    cases f a <;> rfl

/-- A sequence returns when both parts do, with the operations of the first and then the second. -/
theorem bind_returns {x : Traced κ α} {f : α → Traced κ β} {b : β} {ops : List (Op κ)} :
    (x >>= f) = .ok (b, ops) ↔
      ∃ a ops₁ ops₂, x = .ok (a, ops₁) ∧ f a = .ok (b, ops₂) ∧ ops = ops₁ ++ ops₂ := by
  rcases x with e | ⟨a, ops₁⟩
  · constructor
    · intro h; cases h
    · rintro ⟨_, _, _, h, -⟩; cases h
  · rw [bind_ok]
    constructor
    · intro h
      rcases hf : f a with e | ⟨b', ops₂⟩
      · rw [hf] at h; cases h
      · rw [hf] at h
        obtain ⟨rfl, rfl⟩ := Prod.mk.inj (Except.ok.inj h)
        exact ⟨a, ops₁, ops₂, rfl, hf, rfl⟩
    · rintro ⟨a', ops₁', ops₂, hx, hf, rfl⟩
      obtain ⟨rfl, rfl⟩ := Prod.mk.inj (Except.ok.inj hx)
      rw [hf]
      rfl

end Traced

end OasisEdge.Lib.Ledgers
