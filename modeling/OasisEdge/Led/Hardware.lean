import OasisEdge.Hal.Spi
import OasisEdge.Led.Driver
import OasisEdge.Lib.Runs

/-! # The LED on the bus

`Led_Get_State` and `Led_Update_State` over the bus, and the runs of calls that use it. A call is
`Balanced` if it returns with the lock free and the descriptors as they were, and gives up nothing
it was handed when it returns `ERROR`. It is exactly if all its accesses complete
(`balanced_iff_completes`): both error exits of an access leave before the lock is released, and
after that no call that uses the bus returns (`busStep_blocks`).

Seen from the register map, the functions here are those of `Led.Driver`
(`ledUpdateState_ret`). -/

namespace OasisEdge.Led.Hardware

open OasisEdge.Lib.Runs OasisEdge.Shadow.State OasisEdge.Hal.Spi OasisEdge.Led.Driver

/-! ### The functions -/

/-- `Led_Get_State`; `state` is what `*state` holds before the call. -/
def ledGetState (env : Access) (state : UInt8) (bus : Bus) :
    Except Blocked (Ret × UInt8 × Bus × List Frame) :=
  match spiRead env LED_REG 0 bus with
  | .error e => .error e
  | .ok (.error, _, bus, sent) => .ok (.error, state, bus, sent)
  | .ok (.success, value, bus, sent) => .ok (.success, value &&& LED_STATE_MASK, bus, sent)

/-- `Led_Update_State`, with what the calls of its read and its write return. -/
def ledUpdateState (read write : Access) (state : UInt8) (bus : Bus) :
    Except Blocked (Ret × Bus × List Frame) :=
  if state ≠ LED_ON ∧ state ≠ LED_OFF then .ok (.error, bus, [])
  else
    let setValue := state
    match spiRead read LED_REG 0 bus with
    | .error e => .error e
    | .ok (.error, _, bus, sent) => .ok (.error, bus, sent)
    | .ok (.success, value, bus, sent) =>
      match spiWrite write LED_REG (value &&& ~~~setValue ||| setValue) bus with
      | .error e => .error e
      | .ok (ret, bus, sent') => .ok (ret, bus, sent ++ sent')

/-! ### Runs of calls -/

/-- A call that uses the bus. A call with an output is given what the output holds before. -/
inductive Call
  | spiRead (env : Access) (reg value : UInt8)
  | spiWrite (env : Access) (reg value : UInt8)
  | ledGetState (env : Access) (state : UInt8)
  | ledUpdateState (read write : Access) (state : UInt8)

/-- What the output of a call holds before it. -/
def Call.output : Call → Option UInt8
  | .spiRead _ _ value => some value
  | .ledGetState _ state => some state
  | .spiWrite _ _ _ | .ledUpdateState _ _ _ => none

/-- What a call returns, what its output holds then, and the frames it has sent. -/
structure Return where
  ret : Ret
  output : Option UInt8
  sent : List Frame
deriving DecidableEq

/-- The step: one call. -/
def busStep (bus : Bus) : Call → Except Blocked (Bus × List Return)
  | .spiRead env reg value =>
    (spiRead env reg value bus).map fun (ret, out, bus, sent) => (bus, [⟨ret, some out, sent⟩])
  | .spiWrite env reg value =>
    (spiWrite env reg value bus).map fun (ret, bus, sent) => (bus, [⟨ret, none, sent⟩])
  | .ledGetState env state =>
    (ledGetState env state bus).map fun (ret, out, bus, sent) => (bus, [⟨ret, some out, sent⟩])
  | .ledUpdateState read write state =>
    (ledUpdateState read write state bus).map fun (ret, bus, sent) => (bus, [⟨ret, none, sent⟩])

/-- A free lock, and no descriptor open. -/
def idleBus : Bus := ⟨false, ∅⟩

/-- The call returns with the lock free and every descriptor it opened closed, and if it returns
`ERROR` its output holds what it held before. -/
def Balanced (bus : Bus) (c : Call) : Prop :=
  ∃ bus' r, busStep bus c = .ok (bus', [r]) ∧ bus'.held = false ∧ bus'.fds = bus.fds ∧
    (r.ret = .error → r.output = c.output)

/-- Every access the call makes completes. `Led_Update_State` makes none for a state it does not
know. -/
def Call.Completes : Call → Prop
  | .spiRead env _ _ | .spiWrite env _ _ | .ledGetState env _ => env.Completes
  | .ledUpdateState read write state =>
    (state = LED_ON ∨ state = LED_OFF) → read.Completes ∧ write.Completes

instance : (c : Call) → Decidable c.Completes
  | .spiRead env _ _ | .spiWrite env _ _ | .ledGetState env _ =>
    inferInstanceAs (Decidable env.Completes)
  | .ledUpdateState _ _ state =>
    inferInstanceAs (Decidable ((state = LED_ON ∨ state = LED_OFF) → _))

/-! ### What a call does -/

theorem ledGetState_completes {env : Access} {bus : Bus} (state : UInt8) (hfree : bus.held = false)
    (h : env.Completes) : ∃ rx, env.ioctl = some rx ∧ ledGetState env state bus =
      .ok (.success, receivedValue rx &&& LED_STATE_MASK, bus, env.sent (readFrame LED_REG)) := by
  obtain ⟨rx, hrx, hread⟩ := spiRead_completes LED_REG 0 hfree h
  exact ⟨rx, hrx, by unfold ledGetState; rw [hread]⟩

theorem ledGetState_fails {env : Access} {bus : Bus} (state : UInt8) (hfree : bus.held = false)
    (h : ¬ env.Completes) : ∃ bus', bus'.held = true ∧
      ledGetState env state bus = .ok (.error, state, bus', env.sent (readFrame LED_REG)) := by
  obtain ⟨bus', hheld, hread⟩ := spiRead_fails LED_REG 0 hfree h
  exact ⟨bus', hheld, by unfold ledGetState; rw [hread]⟩

theorem ledUpdateState_unknown {state : UInt8} (read write : Access) (bus : Bus)
    (h : ¬ (state = LED_ON ∨ state = LED_OFF)) :
    ledUpdateState read write state bus = .ok (.error, bus, []) :=
  if_pos (not_or.mp h)

theorem ledUpdateState_known {state : UInt8} (read write : Access) (bus : Bus)
    (h : state = LED_ON ∨ state = LED_OFF) :
    ledUpdateState read write state bus =
      match spiRead read LED_REG 0 bus with
      | .error e => .error e
      | .ok (.error, _, bus, sent) => .ok (.error, bus, sent)
      | .ok (.success, value, bus, sent) =>
        match spiWrite write LED_REG (value &&& ~~~state ||| state) bus with
        | .error e => .error e
        | .ok (ret, bus, sent') => .ok (ret, bus, sent ++ sent') :=
  if_neg fun hne => h.elim hne.1 hne.2

theorem ledUpdateState_readFails {read : Access} {state : UInt8} {bus : Bus} (write : Access)
    (hfree : bus.held = false) (hs : state = LED_ON ∨ state = LED_OFF) (hr : ¬ read.Completes) :
    ∃ bus', bus'.held = true ∧ ledUpdateState read write state bus =
      .ok (.error, bus', read.sent (readFrame LED_REG)) := by
  obtain ⟨bus', hheld, hread⟩ := spiRead_fails LED_REG 0 hfree hr
  refine ⟨bus', hheld, ?_⟩
  rw [ledUpdateState_known read write bus hs, hread]

theorem ledUpdateState_writeFails {read write : Access} {state : UInt8} {bus : Bus}
    (hfree : bus.held = false) (hs : state = LED_ON ∨ state = LED_OFF) (hr : read.Completes)
    (hw : ¬ write.Completes) : ∃ rx, read.ioctl = some rx ∧ ∃ bus', bus'.held = true ∧
      ledUpdateState read write state bus = .ok (.error, bus', read.sent (readFrame LED_REG) ++
        write.sent (writeFrame LED_REG (receivedValue rx &&& ~~~state ||| state))) := by
  obtain ⟨rx, hrx, hread⟩ := spiRead_completes LED_REG 0 hfree hr
  obtain ⟨bus', hheld, hwrite⟩ :=
    spiWrite_fails LED_REG (receivedValue rx &&& ~~~state ||| state) hfree hw
  refine ⟨rx, hrx, bus', hheld, ?_⟩
  rw [ledUpdateState_known read write bus hs, hread]
  dsimp only
  rw [hwrite]

theorem ledUpdateState_completes {read write : Access} {state : UInt8} {bus : Bus}
    (hfree : bus.held = false) (hs : state = LED_ON ∨ state = LED_OFF) (hr : read.Completes)
    (hw : write.Completes) : ∃ rx, read.ioctl = some rx ∧
      ledUpdateState read write state bus = .ok (.success, bus, read.sent (readFrame LED_REG) ++
        write.sent (writeFrame LED_REG (receivedValue rx &&& ~~~state ||| state))) := by
  obtain ⟨rx, hrx, hread⟩ := spiRead_completes LED_REG 0 hfree hr
  refine ⟨rx, hrx, ?_⟩
  rw [ledUpdateState_known read write bus hs, hread]
  dsimp only
  rw [spiWrite_completes LED_REG _ hfree hw]

/-- **A call from a free lock**: if its accesses complete it leaves the bus as it was, else it
returns `ERROR` and keeps the lock. -/
theorem busStep_free {bus : Bus} (c : Call) (hfree : bus.held = false) :
    (c.Completes ∧ ∃ r, busStep bus c = .ok (bus, [r]) ∧ (r.ret = .error → r.output = c.output)) ∨
      (¬ c.Completes ∧ ∃ bus' r, busStep bus c = .ok (bus', [r]) ∧ r.ret = .error ∧
        bus'.held = true) := by
  cases c with
  | spiRead env reg value =>
    by_cases h : env.Completes
    · obtain ⟨rx, -, hread⟩ := spiRead_completes reg value hfree h
      exact Or.inl ⟨h, _, by rw [busStep, hread]; rfl, fun he => by cases he⟩
    · obtain ⟨bus', hheld, hread⟩ := spiRead_fails reg value hfree h
      exact Or.inr ⟨h, bus', _, by rw [busStep, hread]; rfl, rfl, hheld⟩
  | spiWrite env reg value =>
    by_cases h : env.Completes
    · have hwrite := spiWrite_completes reg value hfree h
      exact Or.inl ⟨h, _, by rw [busStep, hwrite]; rfl, fun he => by cases he⟩
    · obtain ⟨bus', hheld, hwrite⟩ := spiWrite_fails reg value hfree h
      exact Or.inr ⟨h, bus', _, by rw [busStep, hwrite]; rfl, rfl, hheld⟩
  | ledGetState env state =>
    by_cases h : env.Completes
    · obtain ⟨rx, -, hget⟩ := ledGetState_completes state hfree h
      exact Or.inl ⟨h, _, by rw [busStep, hget]; rfl, fun he => by cases he⟩
    · obtain ⟨bus', hheld, hget⟩ := ledGetState_fails state hfree h
      exact Or.inr ⟨h, bus', _, by rw [busStep, hget]; rfl, rfl, hheld⟩
  | ledUpdateState read write state =>
    by_cases hs : state = LED_ON ∨ state = LED_OFF
    · by_cases hr : read.Completes
      · by_cases hw : write.Completes
        · obtain ⟨rx, -, hup⟩ := ledUpdateState_completes hfree hs hr hw
          exact Or.inl ⟨fun _ => ⟨hr, hw⟩, _, by rw [busStep, hup]; rfl, fun _ => rfl⟩
        · obtain ⟨rx, -, bus', hheld, hup⟩ := ledUpdateState_writeFails hfree hs hr hw
          exact Or.inr ⟨fun h => hw (h hs).2, bus', _, by rw [busStep, hup]; rfl, rfl, hheld⟩
      · obtain ⟨bus', hheld, hup⟩ := ledUpdateState_readFails write hfree hs hr
        exact Or.inr ⟨fun h => hr (h hs).1, bus', _, by rw [busStep, hup]; rfl, rfl, hheld⟩
    · have hup := ledUpdateState_unknown read write bus hs
      exact Or.inl ⟨fun h => absurd h hs, _, by rw [busStep, hup]; rfl, fun _ => rfl⟩

/-- Every call but the update to a state that is neither on nor off uses the bus. -/
def Call.UsesBus : Call → Prop
  | .spiRead _ _ _ | .spiWrite _ _ _ | .ledGetState _ _ => True
  | .ledUpdateState _ _ state => state = LED_ON ∨ state = LED_OFF

theorem busStep_held {bus : Bus} {c : Call} (hheld : bus.held = true) (h : c.UsesBus) :
    busStep bus c = .error .spinlock := by
  have hread : ∀ env reg value, spiRead env reg value bus = .error .spinlock := by
    intro env reg value
    unfold spiRead
    rw [transfer_held _ hheld]
  have hwrite : ∀ env reg value, spiWrite env reg value bus = .error .spinlock := by
    intro env reg value
    unfold spiWrite
    rw [transfer_held _ hheld]
  cases c with
  | spiRead env reg value => rw [busStep, hread]; rfl
  | spiWrite env reg value => rw [busStep, hwrite]; rfl
  | ledGetState env state => rw [busStep, ledGetState, hread]; rfl
  | ledUpdateState read write state => rw [busStep, ledUpdateState_known read write bus h, hread]; rfl

/-- **One failure blocks the bus**: a call that fails in an access returns `ERROR`, and no call that
uses the bus returns after it. -/
theorem busStep_blocks {bus : Bus} {c : Call} (hfree : bus.held = false) (hc : ¬ c.Completes) :
    ∃ bus' r, busStep bus c = .ok (bus', [r]) ∧ r.ret = .error ∧
      ∀ next : Call, next.UsesBus → busStep bus' next = .error .spinlock := by
  rcases busStep_free c hfree with ⟨hcompletes, -⟩ | ⟨-, bus', r, hstep, hret, hheld⟩
  · exact absurd hcompletes hc
  · exact ⟨bus', r, hstep, hret, fun next hnext => busStep_held hheld hnext⟩

/-- From a free lock exactly the calls whose accesses complete are balanced. -/
theorem balanced_iff_completes {bus : Bus} {c : Call} (hfree : bus.held = false) :
    Balanced bus c ↔ c.Completes := by
  rcases busStep_free c hfree with ⟨hc, r, hstep, hout⟩ | ⟨hc, bus', r, hstep, -, hheld⟩
  · exact iff_of_true ⟨bus, r, hstep, hfree, rfl, hout⟩ hc
  · refine iff_of_false ?_ hc
    rintro ⟨bus'', r', hstep', hfree', -⟩
    obtain ⟨rfl, -⟩ := Prod.mk.inj (Except.ok.inj (hstep.symm.trans hstep'))
    rw [hheld] at hfree'
    cases hfree'

/-- **When no call leaves the bus blocked**: every call of the sequence is balanced exactly if all
the accesses made by all of them complete. -/
theorem calls_balanced_iff {bus : Bus} (hfree : bus.held = false) : ∀ calls : List Call,
    Meets busStep Balanced bus calls ↔ ∀ c ∈ calls, c.Completes
  | [] => iff_of_true trivial (by simp)
  | c :: calls => by
    rw [List.forall_mem_cons]
    rcases busStep_free c hfree with ⟨hc, r, hstep, -⟩ | ⟨hc, -⟩
    · rw [meets_cons hstep, balanced_iff_completes hfree, calls_balanced_iff hfree calls]
    · refine iff_of_false (fun h => hc ((balanced_iff_completes hfree).mp h.1)) fun h => hc h.1

/-- **A sequence of calls never blocks the bus** exactly if all the accesses it makes complete: from
a free lock and no open descriptor, each call returns with the lock free and its descriptors closed,
and a call that returns `ERROR` has not touched its output. -/
theorem busCalls_balanced_iff (calls : List Call) :
    Meets busStep Balanced idleBus calls ↔ ∀ c ∈ calls, c.Completes :=
  calls_balanced_iff rfl calls

/-- One read whose `open` fails, and every later access waits for the lock. -/
theorem busCalls_openFails :
    let failed := Call.spiRead ⟨none, none⟩ LED_REG 0
    let next := Call.spiRead ⟨some 3, some (Vector.replicate _ 0)⟩ LED_REG 0
    ¬ Meets busStep Balanced idleBus [failed, next] ∧
      ∃ bus r, busStep idleBus failed = .ok (bus, [r]) ∧ busStep bus next = .error .spinlock := by
  intro failed next
  refine ⟨fun h => ?_, ⟨true, ∅⟩, _, rfl, rfl⟩
  have hc : failed.Completes := (balanced_iff_completes rfl).mp h.1
  exact absurd hc (by decide)

/-! ### The register map -/

/-- The device answers a read with the content of the register. -/
def Answers (regs : UInt8 → UInt8) (reg : UInt8) (env : Access) : Prop :=
  ∀ rx, env.ioctl = some rx → receivedValue rx = regs reg

/-- Which accesses succeed. -/
def spiOutcome (read write : Access) : SpiEnv := ⟨decide read.Completes, decide write.Completes⟩

/-- The frames by which the writes among the effects reach the bus. -/
def writesSent (write : Access) (out : List Output) : List Frame :=
  out.flatMap fun
    | .spiWrite reg value => write.sent (writeFrame reg value)
    | _ => []

/-- **`Led_Update_State` on the bus is the one on the register map**, if the device answers with its
registers: it returns the same, and sends the frames of the same writes after that of its read. -/
theorem ledUpdateState_ret {regs : UInt8 → UInt8} {read : Access} {bus : Bus} (write : Access)
    (state : UInt8) (hfree : bus.held = false) (hregs : Answers regs LED_REG read) :
    ∃ bus' first, ledUpdateState read write state bus =
      .ok ((Driver.ledUpdateState (spiOutcome read write) state regs).1, bus', first ++
        writesSent write (Driver.ledUpdateState (spiOutcome read write) state regs).2.2) := by
  by_cases hs : state = LED_ON ∨ state = LED_OFF
  · by_cases hr : read.Completes
    · have hreads : (spiOutcome read write).readOk = true := decide_eq_true hr
      by_cases hw : write.Completes
      · obtain ⟨rx, hrx, hup⟩ := ledUpdateState_completes hfree hs hr hw
        have hwrites : (spiOutcome read write).writeOk = true := decide_eq_true hw
        refine ⟨bus, read.sent (readFrame LED_REG), ?_⟩
        rw [hup, hregs rx hrx, Driver.ledUpdateState_completes regs hs hreads hwrites]
        simp [writesSent]
      · obtain ⟨rx, hrx, bus', -, hup⟩ := ledUpdateState_writeFails hfree hs hr hw
        have hwrites : ¬ (spiOutcome read write).writeOk = true := decide_eq_true_iff.not.mpr hw
        refine ⟨bus', read.sent (readFrame LED_REG), ?_⟩
        rw [hup, hregs rx hrx, Driver.ledUpdateState_writeFails regs hs hreads hwrites]
        simp [writesSent]
    · obtain ⟨bus', -, hup⟩ := ledUpdateState_readFails write hfree hs hr
      have hreads : ¬ (spiOutcome read write).readOk = true := decide_eq_true_iff.not.mpr hr
      refine ⟨bus', read.sent (readFrame LED_REG), ?_⟩
      rw [hup, Driver.ledUpdateState_readFails regs hs hreads]
      simp [writesSent]
  · refine ⟨bus, [], ?_⟩
    rw [ledUpdateState_unknown read write bus hs, Driver.ledUpdateState_unknown _ regs hs]
    rfl

end OasisEdge.Led.Hardware
