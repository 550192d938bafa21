import OasisEdge.Led.Driver
import OasisEdge.Lib.Runs

/-! # Reading back the state of the LED

Sequences of `Led_Update_State` commands on the register map. A command that succeeds should leave
exactly its state in the masked bit of `LED_REG` and nothing else changed (`ReadsBack`). What it
writes is `value & ~state | state`: the mask is built from the state, not from `LED_STATE_MASK`, so
`LED_OFF` sets the bit and `LED_ON` leaves the register as it is (`newValue_and_mask`). The other
bits and registers are always kept, and a sequence reads back exactly if no command turns the LED on
after the bit was set (`readsBack_run_iff`). -/

namespace OasisEdge.Led.Registers

open OasisEdge.Lib.Checking OasisEdge.Lib.Runs OasisEdge.Shadow.State OasisEdge.Led.Driver

abbrev RegisterMap := UInt8 → UInt8

/-- A call of `Led_Update_State`, and whether its accesses succeed. -/
structure Command where
  spi : SpiEnv
  state : UInt8

/-- The step: one command. The output is what it returns. -/
def commandStep (regs : RegisterMap) (c : Command) : Checked (RegisterMap × List Ret) :=
  let (ret, regs, _) := ledUpdateState c.spi c.state regs
  .ok (regs, [ret])

/-- The command returns `SUCCESS`: it knows the state, and both accesses succeed. -/
def Command.Succeeds (c : Command) : Prop :=
  (c.state = LED_ON ∨ c.state = LED_OFF) ∧ c.spi.readOk = true ∧ c.spi.writeOk = true

instance (c : Command) : Decidable c.Succeeds := by unfold Command.Succeeds; infer_instance

/-- The bits of `LED_REG` that hold the state. -/
def stateBit (regs : RegisterMap) : UInt8 := regs LED_REG &&& LED_STATE_MASK

/-- All else is as in the map `regs₀`: the other bits of `LED_REG`, and the other registers. -/
structure SameElse (regs₀ regs : RegisterMap) : Prop where
  bits : regs LED_REG &&& ~~~LED_STATE_MASK = regs₀ LED_REG &&& ~~~LED_STATE_MASK
  registers : ∀ reg, reg ≠ LED_REG → regs reg = regs₀ reg

/-- **The law for one command**: after `SUCCESS` a read that succeeds gives the state that was
commanded and all else is as it was initially; after `ERROR` the map is the one before. -/
structure ReadsBack (regs₀ regs : RegisterMap) (c : Command) : Prop where
  success : ∀ regs', commandStep regs c = .ok (regs', [.success]) →
    (∀ spi, spi.readOk = true → ledGetState spi regs' = some c.state) ∧ SameElse regs₀ regs'
  error : ∀ regs', commandStep regs c = .ok (regs', [.error]) → regs' = regs

/-! ### What a command writes -/

/-- The value `Led_Update_State` computes for a state. -/
def newValue (value state : UInt8) : UInt8 := value &&& ~~~state ||| state

theorem newValue_and_mask (value : UInt8) :
    newValue value LED_OFF &&& LED_STATE_MASK = LED_OFF ∧
      newValue value LED_ON &&& LED_STATE_MASK = value &&& LED_STATE_MASK := by
  have hbits : ∀ v : BitVec 8, (v &&& ~~~1#8 ||| 1#8) &&& 1#8 = 1#8 ∧
      (v &&& ~~~0#8 ||| 0#8) &&& 1#8 = v &&& 1#8 := by decide
  obtain ⟨hoff, hon⟩ := hbits value.toBitVec
  exact ⟨UInt8.toBitVec_inj.mp hoff, UInt8.toBitVec_inj.mp hon⟩

theorem newValue_and_not_mask {value state : UInt8} (h : state = LED_ON ∨ state = LED_OFF) :
    newValue value state &&& ~~~LED_STATE_MASK = value &&& ~~~LED_STATE_MASK := by
  have hbits : ∀ v : BitVec 8, (v &&& ~~~0#8 ||| 0#8) &&& ~~~1#8 = v &&& ~~~1#8 ∧
      (v &&& ~~~1#8 ||| 1#8) &&& ~~~1#8 = v &&& ~~~1#8 := by decide
  obtain ⟨hon, hoff⟩ := hbits value.toBitVec
  rcases h with rfl | rfl
  · exact UInt8.toBitVec_inj.mp hon
  · exact UInt8.toBitVec_inj.mp hoff

theorem stateBit_cases (regs : RegisterMap) : stateBit regs = LED_ON ∨ stateBit regs = LED_OFF := by
  have hbits : ∀ v : BitVec 8, v &&& 1#8 = 0#8 ∨ v &&& 1#8 = 1#8 := by decide
  rcases hbits (regs LED_REG).toBitVec with h | h
  · exact Or.inl (UInt8.toBitVec_inj.mp h)
  · exact Or.inr (UInt8.toBitVec_inj.mp h)

/-! ### What a command does -/

theorem commandStep_succeeds {c : Command} (regs : RegisterMap) (h : c.Succeeds) :
    commandStep regs c =
      .ok (Function.update regs LED_REG (newValue (regs LED_REG) c.state), [.success]) := by
  obtain ⟨hs, hr, hw⟩ := h
  unfold commandStep
  rw [ledUpdateState_completes regs hs hr hw]
  rfl

theorem commandStep_fails {c : Command} (regs : RegisterMap) (h : ¬ c.Succeeds) :
    commandStep regs c = .ok (regs, [.error]) := by
  unfold commandStep
  by_cases hs : c.state = LED_ON ∨ c.state = LED_OFF
  · by_cases hr : c.spi.readOk = true
    · have hw : ¬ c.spi.writeOk = true := fun hw => h ⟨hs, hr, hw⟩
      rw [ledUpdateState_writeFails regs hs hr hw]
    · rw [ledUpdateState_readFails regs hs hr]
  · rw [ledUpdateState_unknown c.spi regs hs]

theorem stateBit_update (regs : RegisterMap) (value : UInt8) :
    stateBit (Function.update regs LED_REG value) = value &&& LED_STATE_MASK := by
  unfold stateBit
  rw [Function.update_self]

/-- The bit after a command that succeeds: commands can set it, and none clears it. -/
theorem stateBit_newValue {c : Command} (regs : RegisterMap) (h : c.Succeeds) :
    stateBit (Function.update regs LED_REG (newValue (regs LED_REG) c.state)) = c.state ↔
      stateBit regs ≤ c.state := by
  obtain ⟨hoff, hon⟩ := newValue_and_mask (regs LED_REG)
  rw [stateBit_update]
  rcases h.1 with hs | hs
  · rw [hs, hon]
    have hle : stateBit regs ≤ LED_ON ↔ stateBit regs = LED_ON := by
      rcases stateBit_cases regs with hb | hb <;> rw [hb] <;> decide
    exact hle.symm
  · rw [hs, hoff]
    refine iff_of_true rfl ?_
    rcases stateBit_cases regs with hb | hb <;> rw [hb] <;> decide

theorem SameElse.updated {regs₀ regs : RegisterMap} {c : Command} (h : SameElse regs₀ regs)
    (hc : c.Succeeds) :
    SameElse regs₀ (Function.update regs LED_REG (newValue (regs LED_REG) c.state)) where
  bits := by
    rw [Function.update_self, newValue_and_not_mask hc.1]
    exact h.bits
  registers := fun reg hreg => by
    rw [Function.update_of_ne hreg]
    exact h.registers reg hreg

theorem ledGetState_eq {regs : RegisterMap} {state : UInt8} :
    (∀ spi, spi.readOk = true → ledGetState spi regs = some state) ↔ stateBit regs = state := by
  constructor
  · intro h
    have hread := h ⟨true, true⟩ rfl
    exact Option.some.inj hread
  · rintro rfl spi hr
    exact if_pos hr

/-- **One command**: it reads back unless it succeeds in turning on an LED whose bit is set. -/
theorem readsBack_iff {regs₀ regs : RegisterMap} (c : Command) (h : SameElse regs₀ regs) :
    ReadsBack regs₀ regs c ↔ (c.Succeeds → stateBit regs ≤ c.state) := by
  by_cases hc : c.Succeeds
  · have hstep := commandStep_succeeds regs hc
    rw [← stateBit_newValue regs hc]
    constructor
    · intro hback _
      exact ledGetState_eq.mp (hback.success _ hstep).1
    · intro hbit
      refine ⟨fun regs' hs => ?_, fun regs' hs => ?_⟩
      · obtain ⟨rfl, -⟩ := Prod.mk.inj (Except.ok.inj (hstep.symm.trans hs))
        exact ⟨ledGetState_eq.mpr (hbit hc), h.updated hc⟩
      · obtain ⟨-, hret⟩ := Prod.mk.inj (Except.ok.inj (hstep.symm.trans hs))
        simp at hret
  · have hstep := commandStep_fails regs hc
    refine iff_of_true ⟨fun regs' hs => ?_, fun regs' hs => ?_⟩ fun hs => absurd hs hc
    · obtain ⟨-, hret⟩ := Prod.mk.inj (Except.ok.inj (hstep.symm.trans hs))
      simp at hret
    · exact (Prod.mk.inj (Except.ok.inj (hstep.symm.trans hs))).1.symm

/-! ### Sequences of commands -/

/-- The states commanded with success, in order. -/
def commanded (cs : List Command) : List UInt8 :=
  cs.filterMap fun c => if c.Succeeds then some c.state else none

theorem commanded_cons_pos {c : Command} {cs : List Command} (h : c.Succeeds) :
    commanded (c :: cs) = c.state :: commanded cs :=
  List.filterMap_cons_some (if_pos h)

theorem commanded_cons_neg {c : Command} {cs : List Command} (h : ¬ c.Succeeds) :
    commanded (c :: cs) = commanded cs :=
  List.filterMap_cons_none (if_neg h)

/-- The induction on the sequence, from any map that differs from the first in the bit alone. -/
theorem readsBack_from_iff {regs₀ : RegisterMap} : ∀ {regs : RegisterMap} (cs : List Command),
    SameElse regs₀ regs → (Meets commandStep (ReadsBack regs₀) regs cs ↔
      List.IsChain (· ≤ ·) (stateBit regs :: commanded cs))
  | regs, [], _ => iff_of_true trivial (List.isChain_singleton _)
  | regs, c :: cs, h => by
    by_cases hc : c.Succeeds
    · have hsame := h.updated hc
      rw [meets_cons (commandStep_succeeds regs hc), readsBack_iff c h,
        readsBack_from_iff cs hsame, commanded_cons_pos hc, List.isChain_cons_cons]
      constructor
      · rintro ⟨hle, hrest⟩
        have hbit := (stateBit_newValue regs hc).mpr (hle hc)
        rw [hbit] at hrest
        exact ⟨hle hc, hrest⟩
      · rintro ⟨hle, hrest⟩
        have hbit := (stateBit_newValue regs hc).mpr hle
        rw [hbit]
        exact ⟨fun _ => hle, hrest⟩
    · rw [meets_cons (commandStep_fails regs hc), readsBack_iff c h, readsBack_from_iff cs h,
        commanded_cons_neg hc]
      exact and_iff_right fun hs => absurd hs hc

/-- **The read-back law holds for a sequence of commands** exactly if its successful commands never
turn the LED on after it was off: the state found initially and the states commanded are in order
(`LED_ON` is 0, `LED_OFF` is 1). -/
theorem readsBack_run_iff (regs : RegisterMap) (cs : List Command) :
    Meets commandStep (ReadsBack regs) regs cs ↔
      List.IsChain (· ≤ ·) (stateBit regs :: commanded cs) :=
  readsBack_from_iff cs ⟨rfl, fun _ _ => rfl⟩

/-- The LED is off, and the command to turn it on does nothing. -/
theorem not_readsBack_turnOn :
    let regs : RegisterMap := fun reg => if reg = LED_REG then LED_OFF else 0
    let turnOn : Command := ⟨⟨true, true⟩, LED_ON⟩
    ¬ Meets commandStep (ReadsBack regs) regs [turnOn] ∧
      ∃ regs', commandStep regs turnOn = .ok (regs', [.success]) ∧ stateBit regs' = LED_OFF := by
  intro regs turnOn
  have hsucc : turnOn.Succeeds := by decide
  have hstep := commandStep_succeeds regs hsucc
  have hbit : stateBit (Function.update regs LED_REG (newValue (regs LED_REG) LED_ON)) = LED_OFF := by
    decide
  refine ⟨fun h => ?_, _, hstep, hbit⟩
  have hback := (h.1.success _ hstep).1
  exact absurd (hbit.symm.trans (ledGetState_eq.mp hback)) (by decide)

end OasisEdge.Led.Registers
