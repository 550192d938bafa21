import OasisEdge.System.Client

/-! # Waiting for the subscription

`main` waits for `subscribed` and looks at nothing else, while a failure to connect or to subscribe
sets `finished`, and a subscription that cannot be started sets nothing. So `main` waits for good
(`Stuck`) as soon as one of the three happens, and in no other way: until then it waits only while
the library still owes it a callback (`WaitInv`). -/

namespace OasisEdge.System.Waiting

open OasisEdge.Lib.Runs OasisEdge.Shadow.State OasisEdge.Led.Driver OasisEdge.Sample.EdgeClient
open OasisEdge.System.Steps OasisEdge.System.Client

/-- The library may still call one of its callbacks. -/
def Pending (p : Program) : Prop := p.phase = .connecting ∨ p.phase = .subscribing

instance (p : Program) : Decidable (Pending p) := by unfold Pending; infer_instance

/-- **`main` waits for `subscribed` in vain**: a failure was recorded, or no callback can occur any
more. -/
def Stuck (p : Program) : Prop :=
  p.pc = .awaitSubscribed ∧ p.subscribed = false ∧ (p.finished = true ∨ ¬ Pending p)

instance (p : Program) : Decidable (Stuck p) := by unfold Stuck; infer_instance

/-- The step is none of the three failures: of the connection, of starting the subscription, and of
the subscription. -/
def NoFailure (p : Program) : Act → Prop
  | .onConnect false | .onConnectFailure => p.phase ≠ .connecting
  | .onSubscribeFailure => p.phase ≠ .subscribing
  | _ => True

instance (p : Program) (a : Act) : Decidable (NoFailure p a) := by
  unfold NoFailure; split <;> infer_instance

/-! ### The invariant -/

/-- **The invariant of the wait**: the library calls back only while `main` waits, and `main` waits
only for a callback or with the subscription made. -/
structure WaitInv (p : Program) : Prop where
  main : MainInv p
  awaits : Pending p → p.pc = .awaitSubscribed
  owed : p.pc = .awaitSubscribed → Pending p ∨ p.subscribed = true

theorem WaitInv.not_stuck {p : Program} (h : WaitInv p) : ¬ Stuck p := by
  rintro ⟨hpc, hsub, hstuck⟩
  have hpending : Pending p := by
    rcases h.owed hpc with hp | hs
    · exact hp
    · rw [hsub] at hs; cases hs
  have hphase : p.phase ≠ .settled := by
    rcases hpending with hp | hp <;> rw [hp] <;> decide
  have hfin := (h.main.1.pending hphase).2
  rcases hstuck with hf | hno
  · rw [hfin] at hf; cases hf
  · exact hno hpending

theorem waitInv_launch : WaitInv launch where
  main := mainInv_launch
  awaits := by rintro (h | h) <;> cases h
  owed := by intro h; cases h

/-- A step of `main` that does not lead into the wait and leaves the library, taken while the library
is at rest. -/
theorem WaitInv.moves {p p' : Program} (pc : Pc) (hmain : MainInv p') (hrest : ¬ Pending p)
    (hphase : p'.phase = p.phase) (hpc : p'.pc = pc) (hne : pc ≠ .awaitSubscribed) :
    WaitInv p' where
  main := hmain
  awaits := by
    unfold Pending
    rw [hphase]
    exact fun h => absurd h hrest
  owed h := absurd (hpc.symm.trans h) hne

theorem not_pending_of_subscribed {p : Program} (h : LibInv p) (hsub : p.subscribed = true) :
    ¬ Pending p := by
  have hphase := (h.subscribed hsub).1
  unfold Pending
  rw [hphase]
  decide

/-- Elsewhere than in the wait the library is at rest. -/
theorem WaitInv.rest {p : Program} (h : WaitInv p) (hpc : p.pc ≠ .awaitSubscribed) : ¬ Pending p :=
  fun hp => hpc (h.awaits hp)

/-- **A step that is no failure keeps the invariant.** -/
theorem waitInv_step {p p' : Program} {a : Act} {out : List Output} (hi : WaitInv p)
    (hok : NoFailure p a) (h : programStep p a = .ok (p', out)) : WaitInv p' := by
  have hmain := mainInv_step hi.main h
  cases a with
  | create ok =>
    obtain ⟨hpc, rfl, -⟩ := takes_eq_ok.mp h
    have hrest := hi.rest (by rw [hpc]; decide)
    rcases ok with _ | _
    · exact .moves .uninstall hmain hrest rfl rfl (by decide)
    · exact .moves .setCallbacks hmain hrest rfl rfl (by decide)
  | setCallbacks ok =>
    obtain ⟨hpc, rfl, -⟩ := takes_eq_ok.mp h
    have hrest := hi.rest (by rw [hpc]; decide)
    rcases ok with _ | _
    · exact .moves .uninstall hmain hrest rfl rfl (by decide)
    · exact .moves .connect hmain hrest rfl rfl (by decide)
  | connect ok =>
    obtain ⟨hpc, rfl, -⟩ := takes_eq_ok.mp h
    have hrest := hi.rest (by rw [hpc]; decide)
    rcases ok with _ | _
    · exact .moves .uninstall hmain hrest rfl rfl (by decide)
    · exact ⟨hmain, fun _ => rfl, fun _ => Or.inl (Or.inl rfl)⟩
  | onConnect subscribeOk =>
    obtain ⟨hphase, rfl, -⟩ := takes_eq_ok.mp h
    have hpc := hi.awaits (Or.inl hphase)
    rcases subscribeOk with _ | _
    · exact absurd hphase hok
    · exact ⟨hmain, fun _ => hpc, fun _ => Or.inl (Or.inr rfl)⟩
  | onConnectFailure =>
    obtain ⟨hphase, -⟩ := takes_eq_ok.mp h
    exact absurd hphase hok
  | onSubscribe =>
    obtain ⟨hphase, rfl, -⟩ := takes_eq_ok.mp h
    have hpc := hi.awaits (Or.inr hphase)
    exact ⟨hmain, fun _ => hpc, fun _ => Or.inr rfl⟩
  | onSubscribeFailure =>
    obtain ⟨hphase, -⟩ := takes_eq_ok.mp h
    exact absurd hphase hok
  | seeSubscribed =>
    obtain ⟨⟨-, hsub⟩, rfl, -⟩ := takes_eq_ok.mp h
    exact .moves .install hmain (not_pending_of_subscribed hi.main.1 hsub) rfl rfl (by decide)
  | install dev =>
    obtain ⟨dev, -, h⟩ := onDevice_eq_ok.mp h
    obtain ⟨hpc, rfl, -⟩ := takes_eq_ok.mp h
    have hpc' : p.pc = .install := hpc
    exact .moves .onlineReq hmain (hi.rest (by rw [hpc']; decide)) rfl rfl (by decide)
  | onlineReq env =>
    obtain ⟨dev, -, h⟩ := onDevice_eq_ok.mp h
    obtain ⟨hpc, rfl, -⟩ := takes_eq_ok.mp h
    exact .moves .startThreads hmain (hi.rest (by rw [hpc]; decide)) rfl rfl (by decide)
  | startThreads loops =>
    obtain ⟨hpc, rfl, -⟩ := takes_eq_ok.mp h
    exact .moves .awaitFinished hmain (hi.rest (by rw [hpc]; decide)) rfl rfl (by decide)
  | device e =>
    obtain ⟨dev, dev', -, -, rfl⟩ := programStep_device h
    exact ⟨hmain, hi.awaits, hi.owed⟩
  | seeFinished =>
    obtain ⟨⟨hpc, -⟩, rfl, -⟩ := takes_eq_ok.mp h
    exact .moves .uninstall hmain (hi.rest (by rw [hpc]; decide)) rfl rfl (by decide)
  | uninstall =>
    obtain ⟨dev, -, h⟩ := onDevice_eq_ok.mp h
    obtain ⟨hpc, rfl, -⟩ := takes_eq_ok.mp h
    exact .moves .destroy hmain (hi.rest (by rw [hpc]; decide)) rfl rfl (by decide)
  | destroy =>
    obtain ⟨hpc, rfl, -⟩ := takes_eq_ok.mp h
    exact .moves .done hmain (hi.rest (by rw [hpc]; decide)) rfl rfl (by decide)

/-- **A failure leaves `main` stuck.** -/
theorem stuck_of_failure {p : Program} {a : Act} (hi : WaitInv p) (hfail : ¬ NoFailure p a) :
    ∃ p' out, programStep p a = .ok (p', out) ∧ Stuck p' := by
  have hsettled : ∀ f, ¬ Pending { p with phase := .settled, finished := f } := by
    rintro f (h | h) <;> cases h
  -- the three failures, each in the phase in which the library reports it
  have hwaits : Pending p → p.pc = .awaitSubscribed ∧ p.subscribed = false := by
    intro hp
    have hphase : p.phase ≠ .settled := by
      rcases hp with hp | hp <;> rw [hp] <;> decide
    exact ⟨hi.awaits hp, (hi.main.1.pending hphase).1⟩
  unfold NoFailure at hfail
  split at hfail
  · have hphase : p.phase = .connecting := not_not.mp hfail
    obtain ⟨hpc, hsub⟩ := hwaits (Or.inl hphase)
    exact ⟨_, _, takes_eq_ok.mpr ⟨hphase, rfl, rfl⟩, hpc, hsub, Or.inr (hsettled _)⟩
  · have hphase : p.phase = .connecting := not_not.mp hfail
    obtain ⟨hpc, hsub⟩ := hwaits (Or.inl hphase)
    exact ⟨_, _, takes_eq_ok.mpr ⟨hphase, rfl, rfl⟩, hpc, hsub, Or.inl rfl⟩
  · have hphase : p.phase = .subscribing := not_not.mp hfail
    obtain ⟨hpc, hsub⟩ := hwaits (Or.inr hphase)
    exact ⟨_, _, takes_eq_ok.mpr ⟨hphase, rfl, rfl⟩, hpc, hsub, Or.inl rfl⟩
  · exact absurd trivial hfail

/-! ### Runs -/

/-- **`main` is never stuck in its first wait** exactly in the runs without a failure of the
connection, of starting the subscription, or of the subscription. -/
theorem neverStuck_iff (acts : List Act) :
    Always programStep (fun p => ¬ Stuck p) launch acts ↔
      Meets programStep NoFailure launch acts := by
  refine always_iff_meets WaitInv (fun p hi => hi.not_stuck) ?_ ?_ waitInv_launch
  · intro p a hi
    constructor
    · intro hok p' out h
      exact (waitInv_step hi hok h).not_stuck
    · intro hnever
      by_contra hfail
      obtain ⟨p', out, h, hstuck⟩ := stuck_of_failure hi hfail
      exact hnever p' out h hstuck
  · intro p a p' out hi hok h
    exact waitInv_step hi hok h

/-- The connection fails, and `main` waits for the subscription. -/
theorem stuck_connectFailure : ¬ Always programStep (fun p => ¬ Stuck p) launch
    [.create true, .setCallbacks true, .connect true, .onConnectFailure] := by
  intro h
  have hrun : Ends (exec programStep launch
      [.create true, .setCallbacks true, .connect true, .onConnectFailure])
      fun p _ => Stuck p := by decide +kernel
  obtain ⟨p, out, hexec, hstuck⟩ := hrun
  exact h _ p out (List.prefix_refl _) hexec hstuck

end OasisEdge.System.Waiting
