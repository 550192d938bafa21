import Mathlib.Data.List.Basic

/-! # Runs of a deterministic system with faults

A system is a step function `step : S → E → Except F (S × List O)`: on an event it goes to a new
state and emits outputs, or it stops with a fault. `exec` runs a list of events and collects the
outputs; a run exists only if no step faults.

`exec_invariant` is the induction every safety property is proved by: an invariant kept by each step
holds after the run. `exec_outputs` is its companion for the outputs. Both take a condition `C` that
every step of the run meets (`Meets`), for properties that hold only of runs of a certain kind;
`exec_keeps` does without. `always_iff_meets` says when a property holds in every state of a run. -/

namespace OasisEdge.Lib.Runs

universe u

variable {S E F O : Type u} {step : S → E → Except F (S × List O)}

/-- Outputs put before those of a run. -/
def emit (o : List O) : Except F (S × List O) → Except F (S × List O)
  | .error f => .error f
  | .ok (s, os) => .ok (s, o ++ os)

/-- The run of a list of events: the last state, and all outputs in order. -/
def exec (step : S → E → Except F (S × List O)) : S → List E → Except F (S × List O)
  | s, [] => .ok (s, [])
  | s, e :: es =>
    match step s e with
    | .error f => .error f
    | .ok (s', o) => emit o (exec step s' es)

theorem emit_eq_ok {o os : List O} {r : Except F (S × List O)} {t : S} :
    emit o r = .ok (t, os) ↔ ∃ os', r = .ok (t, os') ∧ os = o ++ os' := by
  rcases r with f | ⟨s, os'⟩
  · simp [emit]
  · simp only [emit, Except.ok.injEq, Prod.mk.injEq]
    constructor
    · rintro ⟨rfl, rfl⟩; exact ⟨os', ⟨rfl, rfl⟩, rfl⟩
    · rintro ⟨os'', ⟨rfl, rfl⟩, rfl⟩; exact ⟨rfl, rfl⟩

/-- The run exists, and its last state and its outputs satisfy `P`. -/
def Ends (r : Except F (S × List O)) (P : S → List O → Prop) : Prop :=
  ∃ s os, r = .ok (s, os) ∧ P s os

theorem ends_ok {s : S} {os : List O} {P : S → List O → Prop} :
    Ends (.ok (s, os) : Except F (S × List O)) P ↔ P s os := by
  constructor
  · rintro ⟨s', os', h, hP⟩
    obtain ⟨rfl, rfl⟩ := Prod.mk.inj (Except.ok.inj h)
    exact hP
  · intro h; exact ⟨s, os, rfl, h⟩

instance decidableEnds (P : S → List O → Prop) [∀ s os, Decidable (P s os)] :
    (r : Except F (S × List O)) → Decidable (Ends r P)
  | .error f => isFalse (by rintro ⟨s, os, h, -⟩; cases h)
  | .ok (s, os) => decidable_of_iff (P s os) ends_ok.symm

@[simp] theorem exec_nil (s : S) : exec step s [] = .ok (s, []) := rfl

theorem exec_cons_eq_ok {s t : S} {e : E} {es : List E} {os : List O} :
    exec step s (e :: es) = .ok (t, os) ↔
      ∃ s' o os', step s e = .ok (s', o) ∧ exec step s' es = .ok (t, os') ∧ os = o ++ os' := by
  rw [exec]
  rcases step s e with f | ⟨s', o⟩
  · simp
  · simp only [emit_eq_ok, Except.ok.injEq, Prod.mk.injEq]
    constructor
    · rintro ⟨os', hx, rfl⟩; exact ⟨s', o, os', ⟨rfl, rfl⟩, hx, rfl⟩
    · rintro ⟨_, _, os', ⟨rfl, rfl⟩, hx, rfl⟩; exact ⟨os', hx, rfl⟩

/-- A run of two parts is a run of the first and a run of the second. -/
theorem exec_append_eq_ok {s t : S} {es es' : List E} {os : List O} :
    exec step s (es ++ es') = .ok (t, os) ↔
      ∃ s' o o', exec step s es = .ok (s', o) ∧ exec step s' es' = .ok (t, o') ∧ os = o ++ o' := by
  induction es generalizing s os with
  | nil => simp
  | cons e es ih =>
    rw [List.cons_append, exec_cons_eq_ok]
    constructor
    · rintro ⟨s₁, o₁, os₁, hs, hx, rfl⟩
      obtain ⟨s', o, o', h1, h2, rfl⟩ := ih.mp hx
      exact ⟨s', o₁ ++ o, o', exec_cons_eq_ok.mpr ⟨s₁, o₁, o, hs, h1, rfl⟩, h2,
        (List.append_assoc ..).symm⟩
    · rintro ⟨s', o, o', h1, h2, rfl⟩
      obtain ⟨s₁, o₁, os₁, hs, hx, rfl⟩ := exec_cons_eq_ok.mp h1
      exact ⟨s₁, o₁, os₁ ++ o', hs, ih.mpr ⟨s', os₁, o', hx, h2, rfl⟩, List.append_assoc ..⟩

/-- Every step of the run from `s` meets the condition `C`. -/
def Meets (step : S → E → Except F (S × List O)) (C : S → E → Prop) : S → List E → Prop
  | _, [] => True
  | s, e :: es => C s e ∧ ∀ s' o, step s e = .ok (s', o) → Meets step C s' es

theorem meets_cons {C : S → E → Prop} {s s' : S} {e : E} {es : List E} {o : List O}
    (h : step s e = .ok (s', o)) : Meets step C s (e :: es) ↔ C s e ∧ Meets step C s' es := by
  refine and_congr_right fun _ => ⟨fun hm => hm s' o h, fun hm t o' ht => ?_⟩
  obtain ⟨rfl, rfl⟩ := Prod.mk.inj (Except.ok.inj (h.symm.trans ht))
  exact hm

/-- A condition that can be decided at each step can be decided for the run. -/
instance decidableMeets (C : S → E → Prop) [∀ s e, Decidable (C s e)] :
    ∀ (s : S) (es : List E), Decidable (Meets step C s es)
  | _, [] => isTrue trivial
  | s, e :: es =>
    match hr : step s e with
    | .error f => decidable_of_iff (C s e) (by simp [Meets, hr])
    | .ok (s', o) =>
      have := decidableMeets C s' es
      decidable_of_iff (C s e ∧ Meets step C s' es) (by simp [Meets, hr])

/-- Conditions that agree wherever an invariant holds are met by the same runs. -/
theorem meets_congr {C D : S → E → Prop} (I : S → Prop)
    (hstep : ∀ s e s' o, I s → step s e = .ok (s', o) → I s')
    (hCD : ∀ s e, I s → (C s e ↔ D s e)) :
    ∀ {s : S} {es : List E}, I s → (Meets step C s es ↔ Meets step D s es)
  | _, [], _ => Iff.rfl
  | s, e :: es, hI => by
    refine and_congr (hCD s e hI) (forall_congr' fun s' => forall_congr' fun o => ?_)
    exact forall_congr' fun h => meets_congr I hstep hCD (hstep s e s' o hI h)

/-- **The induction on runs.** -/
theorem exec_invariant {C : S → E → Prop} (I : S → Prop)
    (hstep : ∀ s e s' o, I s → C s e → step s e = .ok (s', o) → I s') :
    ∀ {s t : S} {es : List E} {os : List O}, I s → Meets step C s es →
      exec step s es = .ok (t, os) → I t
  | s, t, [], os, hI, _, h => by
    obtain ⟨rfl, -⟩ := Prod.mk.inj (Except.ok.inj h); exact hI
  | s, t, e :: es, os, hI, hC, h => by
    obtain ⟨s', o, os', hs, hx, -⟩ := exec_cons_eq_ok.mp h
    exact exec_invariant I hstep (hstep s e s' o hI hC.1 hs) (hC.2 s' o hs) hx

theorem meets_true : ∀ (s : S) (es : List E), Meets step (fun _ _ => True) s es
  | _, [] => trivial
  | _, _ :: es => ⟨trivial, fun s' _ _ => meets_true s' es⟩

/-- The induction on all runs. -/
theorem exec_keeps (I : S → Prop) (hstep : ∀ s e s' o, I s → step s e = .ok (s', o) → I s')
    {s t : S} {es : List E} {os : List O} (hI : I s) (h : exec step s es = .ok (t, os)) : I t :=
  exec_invariant I (fun s e s' o hI _ hs => hstep s e s' o hI hs) hI (meets_true s es) h

theorem meets_of_forall {C : S → E → Prop} {es : List E} (h : ∀ e ∈ es, ∀ s, C s e) (s : S) :
    Meets step C s es := by
  induction es generalizing s with
  | nil => trivial
  | cons e es ih =>
    exact ⟨h e List.mem_cons_self s, fun s' _ _ => ih (fun e' hmem => h e' (List.mem_cons_of_mem _ hmem)) s'⟩

/-- **Where no step that meets the condition faults, every such run ends**, and what every step keeps holds
at its end. -/
theorem exec_total {C : S → E → Prop} (I : S → Prop)
    (hstep : ∀ s e, I s → C s e → ∃ s' o, step s e = .ok (s', o) ∧ I s') :
    ∀ {s : S} {es : List E}, I s → Meets step C s es → ∃ t os, exec step s es = .ok (t, os) ∧ I t
  | s, [], hI, _ => ⟨s, [], rfl, hI⟩
  | s, e :: es, hI, hC => by
    obtain ⟨s', o, hs, hI'⟩ := hstep s e hI hC.1
    obtain ⟨t, os, hrun, ht⟩ := exec_total I hstep hI' (hC.2 s' o hs)
    exact ⟨t, o ++ os, exec_cons_eq_ok.mpr ⟨s', o, os, hs, hrun, rfl⟩, ht⟩

/-- `P` holds in every state of the run. -/
def Always (step : S → E → Except F (S × List O)) (P : S → Prop) (s : S) (es : List E) : Prop :=
  ∀ es' t os, es' <+: es → exec step s es' = .ok (t, os) → P t

theorem always_nil {P : S → Prop} {s : S} : Always step P s [] ↔ P s := by
  constructor
  · intro h
    exact h [] s [] List.nil_prefix rfl
  · intro h es' t os hpre hrun
    obtain rfl := List.prefix_nil.mp hpre
    obtain ⟨rfl, -⟩ := Prod.mk.inj (Except.ok.inj hrun)
    exact h

theorem always_cons {P : S → Prop} {s : S} {e : E} {es : List E} :
    Always step P s (e :: es) ↔
      P s ∧ ∀ s' o, step s e = .ok (s', o) → Always step P s' es := by
  constructor
  · intro h
    refine ⟨h [] s [] List.nil_prefix rfl, fun s' o hstep es' t os hpre hrun => ?_⟩
    have hrun' : exec step s (e :: es') = .ok (t, o ++ os) :=
      exec_cons_eq_ok.mpr ⟨s', o, os, hstep, hrun, rfl⟩
    exact h (e :: es') t _ (List.cons_prefix_cons.mpr ⟨rfl, hpre⟩) hrun'
  · rintro ⟨hs, h⟩ es' t os hpre hrun
    rcases es' with _ | ⟨e', es'⟩
    · obtain ⟨rfl, -⟩ := Prod.mk.inj (Except.ok.inj hrun)
      exact hs
    · obtain ⟨rfl, hpre'⟩ := List.cons_prefix_cons.mp hpre
      obtain ⟨s', o, os', hstep, hrun', -⟩ := exec_cons_eq_ok.mp hrun
      exact h s' o hstep es' t os' hpre' hrun'

/-- The state of a run that is always in `P` satisfies `P`. -/
theorem Always.now {P : S → Prop} {s : S} {es : List E} (h : Always step P s es) : P s :=
  h [] s [] List.nil_prefix rfl

/-- **When a property holds throughout a run**: exactly if each step meets the condition under which
it leads from the invariant to the property, and the invariant is kept under the condition. -/
theorem always_iff_meets {C : S → E → Prop} {P : S → Prop} (I : S → Prop) (hP : ∀ s, I s → P s)
    (hC : ∀ s e, I s → (C s e ↔ ∀ s' o, step s e = .ok (s', o) → P s'))
    (hI : ∀ s e s' o, I s → C s e → step s e = .ok (s', o) → I s') :
    ∀ {s : S} {es : List E}, I s → (Always step P s es ↔ Meets step C s es)
  | s, [], hs => by
    rw [always_nil]
    exact iff_of_true (hP s hs) trivial
  | s, e :: es, hs => by
    rw [always_cons, and_iff_right (hP s hs)]
    constructor
    · intro h
      have hc : C s e := (hC s e hs).mpr fun s' o hstep => (h s' o hstep).now
      refine ⟨hc, fun s' o hstep => ?_⟩
      exact (always_iff_meets I hP hC hI (hI s e s' o hs hc hstep)).mp (h s' o hstep)
    · rintro ⟨hc, hrest⟩ s' o hstep
      exact (always_iff_meets I hP hC hI (hI s e s' o hs hc hstep)).mpr (hrest s' o hstep)

/-- **What every output of a run satisfies**, if the outputs of each step do. -/
theorem exec_outputs {C : S → E → Prop} (I : S → Prop) (P : O → Prop)
    (hstep : ∀ s e s' o, I s → C s e → step s e = .ok (s', o) → I s' ∧ ∀ x ∈ o, P x) :
    ∀ {s t : S} {es : List E} {os : List O}, I s → Meets step C s es →
      exec step s es = .ok (t, os) → ∀ x ∈ os, P x
  | s, t, [], os, _, _, h => by
    obtain ⟨-, rfl⟩ := Prod.mk.inj (Except.ok.inj h); simp
  | s, t, e :: es, os, hI, hC, h => by
    obtain ⟨s', o, os', hs, hx, rfl⟩ := exec_cons_eq_ok.mp h
    obtain ⟨hI', hP⟩ := hstep s e s' o hI hC.1 hs
    intro x hx'
    rcases List.mem_append.mp hx' with hx' | hx'
    · exact hP x hx'
    · exact exec_outputs I P hstep hI' (hC.2 s' o hs) hx x hx'

/-- What `f` says of the steps of a run, in order. -/
def collect {X : Type*} (step : S → E → Except F (S × List O)) (f : S → E → List X) :
    S → List E → List X
  | _, [] => []
  | s, e :: es =>
    f s e ++ match step s e with
    | .error _ => []
    | .ok (s', _) => collect step f s' es

/-- **What is collected over a run and its outputs as a whole** stand in every relation in which they
stand at each step, if the relation is kept by appending. -/
theorem exec_collect {X : Type*} {f : S → E → List X} (I : S → Prop) (R : List X → List O → Prop)
    (hnil : R [] [])
    (happend : ∀ xs os xs' os', R xs os → R xs' os' → R (xs ++ xs') (os ++ os'))
    (hstep : ∀ s e s' o, I s → step s e = .ok (s', o) → I s' ∧ R (f s e) o) :
    ∀ {s t : S} {es : List E} {os : List O}, I s → exec step s es = .ok (t, os) →
      R (collect step f s es) os
  | s, t, [], os, _, h => by
    obtain ⟨-, rfl⟩ := Prod.mk.inj (Except.ok.inj h); exact hnil
  | s, t, e :: es, os, hI, h => by
    obtain ⟨s', o, os', hs, hx, rfl⟩ := exec_cons_eq_ok.mp h
    obtain ⟨hI', hR⟩ := hstep s e s' o hI hs
    rw [collect, hs]
    exact happend _ _ _ _ hR (exec_collect I R hnil happend hstep hI' hx)

end OasisEdge.Lib.Runs
