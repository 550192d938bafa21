import OasisEdge.System.Platform
import OasisEdge.System.Steps

/-! # The MQTT client over a run of the program

`main` creates the client, waits for the subscription, installs the LED, sends an online request and
starts the three loops, which all hold the same handle. A request builder whose send fails destroys
the client through its own copy of the handle; `main` destroys it at the end. The library calls at
most one of `onConnect` and `onConnectFailure`, and after `onConnect` at most one of `onSubscribe`
and `onSubscribeFailure` (`Phase`).

`main` never gets to its own destroy: it waits for a failure after the subscription has succeeded,
and the exits before that run into `SHADOW_Destroy(NULL)` (`mainInv_step`). So the client is
destroyed by failed sends alone, and a run uses it properly exactly if every send but the last
succeeds (`usedProperly_iff`). -/

namespace OasisEdge.System.Client

open OasisEdge.Lib.Chars OasisEdge.Lib.Checking OasisEdge.Lib.Runs OasisEdge.CJson.Value
open OasisEdge.Shadow.State
open OasisEdge.Shadow.Connect OasisEdge.Shadow.Set OasisEdge.App.Func OasisEdge.Led.Driver
open OasisEdge.Sample.EdgeClient OasisEdge.System.Platform OasisEdge.System.Steps

/-! ### The program -/

/-- Where `main` is. -/
inductive Pc
  | create
  | setCallbacks
  | connect
  | awaitSubscribed
  | install
  | onlineReq
  | startThreads
  | awaitFinished
  | uninstall
  | destroy
  | done
deriving DecidableEq

/-- Which callback of the connection the library may call next. -/
inductive Phase
  | idle
  | connecting
  | subscribing
  | settled
deriving DecidableEq

/-- The loops that run. -/
structure Loops where
  monitor : Bool
  keepalive : Bool
  func : Bool

/-- The program: `main`, the library, the two globals, the device once it is installed, and the
loops. -/
structure Program where
  pc : Pc
  phase : Phase
  subscribed : Bool
  finished : Bool
  dev : Option Device
  loops : Loops

/-- A step of `main`, a callback, or a step of the device. An outcome is that of the library call of
the step. -/
inductive Act
  | create (ok : Bool)
  | setCallbacks (ok : Bool)
  | connect (ok : Bool)
  | onConnect (subscribeOk : Bool)
  | onConnectFailure
  | onSubscribe
  | onSubscribeFailure
  | seeSubscribed
  | install (dev : Option Device)
  | onlineReq (env : ReqEnv)
  | startThreads (loops : Loops)
  | device (e : Event)
  | seeFinished
  | uninstall
  | destroy

/-- The event is a message, or a turn of a loop that runs. -/
def Loops.Runs (loops : Loops) : Event → Prop
  | .message _ _ _ => True
  | .monitorTick _ => loops.monitor
  | .keepaliveTick _ => loops.keepalive
  | .funcTick _ => loops.func

instance (loops : Loops) : (e : Event) → Decidable (loops.Runs e)
  | .message _ _ _ => isTrue trivial
  | .monitorTick _ => inferInstanceAs (Decidable (loops.monitor = true))
  | .keepaliveTick _ => inferInstanceAs (Decidable (loops.keepalive = true))
  | .funcTick _ => inferInstanceAs (Decidable (loops.func = true))

/-- A step that can be taken if `c` holds. -/
def takes (c : Prop) [Decidable c] (r : Program × List Output) :
    Except Stop (Program × List Output) :=
  if c then .ok r else .error .impossible

theorem takes_eq_ok {c : Prop} [Decidable c] {p p' : Program} {out out' : List Output} :
    takes c (p, out) = .ok (p', out') ↔ c ∧ p = p' ∧ out = out' := by
  unfold takes
  split_ifs with h
  · simp [h]
  · simp [h]

/-- A step of the device, `none` being a NULL `ledShadow`. -/
def onDevice (p : Program) (f : Device → Except Stop (Program × List Output)) :
    Except Stop (Program × List Output) :=
  match p.dev with
  | none => .error (.fault .nullPointer)
  | some dev => f dev

/-- One step of the program, with the operations on the client among its effects. `LED_Install`
uninstalls a shadow it could not allocate, and `SHADOW_Destroy` reads the members of its argument.
-/
def programStep (p : Program) : Act → Except Stop (Program × List Output)
  | .create ok =>
    takes (p.pc = .create) ({ p with pc := if ok then .setCallbacks else .uninstall }, [])
  | .setCallbacks ok =>
    takes (p.pc = .setCallbacks) ({ p with pc := if ok then .connect else .uninstall }, [])
  | .connect ok =>
    takes (p.pc = .connect) (if ok then { p with pc := .awaitSubscribed, phase := .connecting }
      else { p with pc := .uninstall }, [])
  | .onConnect subscribeOk =>
    takes (p.phase = .connecting)
      ({ p with phase := if subscribeOk then .subscribing else .settled }, [])
  | .onConnectFailure =>
    takes (p.phase = .connecting) ({ p with phase := .settled, finished := true }, [])
  | .onSubscribe =>
    takes (p.phase = .subscribing) ({ p with phase := .settled, subscribed := true }, [])
  | .onSubscribeFailure =>
    takes (p.phase = .subscribing) ({ p with phase := .settled, finished := true }, [])
  | .seeSubscribed =>
    takes (p.pc = .awaitSubscribed ∧ p.subscribed = true) ({ p with pc := .install }, [])
  | .install dev => onDevice { p with dev := dev } fun dev =>
    takes (p.pc = .install) ({ p with pc := .onlineReq, dev := some dev }, [])
  | .onlineReq env => onDevice p fun dev =>
    let (_, shadow, out) := shadowConnectReq env TOPIC_REQ_ONLINE dev.ledShadow
    takes (p.pc = .onlineReq)
      ({ p with pc := .startThreads, dev := some { dev with ledShadow := shadow } }, out)
  | .startThreads loops =>
    takes (p.pc = .startThreads) ({ p with pc := .awaitFinished, loops := loops }, [])
  | .device e => onDevice p fun dev =>
    match deviceStep dev e with
    | .error f => .error (.fault f)
    | .ok (dev, out) => takes (p.loops.Runs e) ({ p with dev := some dev }, out)
  | .seeFinished =>
    takes (p.pc = .awaitFinished ∧ p.finished = true) ({ p with pc := .uninstall }, [])
  | .uninstall => onDevice p fun _ =>
    takes (p.pc = .uninstall) ({ p with pc := .destroy, dev := none }, [])
  | .destroy => takes (p.pc = .destroy) ({ p with pc := .done }, [.destroy])

/-- The program at the start of `main`. -/
def launch : Program := ⟨.create, .idle, false, false, none, ⟨false, false, false⟩⟩

theorem onDevice_eq_ok {p : Program} {f : Device → Except Stop (Program × List Output)}
    {r : Program × List Output} :
    onDevice p f = .ok r ↔ ∃ dev, p.dev = some dev ∧ f dev = .ok r := by
  unfold onDevice
  cases p.dev <;> simp

/-- **A step of the device** within the program. -/
theorem programStep_device {p p' : Program} {e : Event} {out : List Output}
    (h : programStep p (.device e) = .ok (p', out)) :
    ∃ dev dev', p.dev = some dev ∧ deviceStep dev e = .ok (dev', out) ∧
      p' = { p with dev := some dev' } := by
  obtain ⟨dev, hdev, h⟩ := onDevice_eq_ok.mp h
  rcases hstep : deviceStep dev e with f | ⟨dev', out'⟩
  · rw [hstep] at h
    cases h
  · rw [hstep] at h
    obtain ⟨-, rfl, rfl⟩ := takes_eq_ok.mp h
    exact ⟨dev, dev', hdev, hstep, rfl⟩

/-! ### `main` does not get to its end -/

/-- The subscription succeeds or a failure is reported, not both. -/
structure LibInv (p : Program) : Prop where
  subscribed : p.subscribed = true → p.phase = .settled ∧ p.finished = false
  finished : p.finished = true → p.phase = .settled

/-- What holds at each place of `main`: from the installation on the subscription has succeeded, and
before it and at the exit there is no device. -/
def PcInv (p : Program) : Prop :=
  match p.pc with
  | .create | .setCallbacks | .connect => p.phase = .idle ∧ p.dev = none
  | .awaitSubscribed | .uninstall => p.dev = none
  | .install => p.dev = none ∧ p.subscribed = true
  | .onlineReq | .startThreads | .awaitFinished => p.subscribed = true
  | .destroy | .done => False

/-- **The invariant of `main`.** -/
def MainInv (p : Program) : Prop := LibInv p ∧ PcInv p

theorem mainInv_launch : MainInv launch :=
  ⟨⟨(by simp [launch]), (by simp [launch])⟩, rfl, rfl⟩

/-- A callback of the library moves neither `main` nor the device. -/
theorem pcInv_callback {p p' : Program} (hi : PcInv p) (hphase : p.phase ≠ .idle)
    (hpc : p'.pc = p.pc) (hdev : p'.dev = p.dev)
    (hsub : p.subscribed = true → p'.subscribed = true) : PcInv p' := by
  unfold PcInv at hi ⊢
  rw [hpc, hdev]
  cases h : p.pc with
  | create | setCallbacks | connect => rw [h] at hi; exact absurd hi.1 hphase
  | awaitSubscribed | uninstall => rw [h] at hi; exact hi
  | install => rw [h] at hi; exact ⟨hi.1, hsub hi.2⟩
  | onlineReq | startThreads | awaitFinished => rw [h] at hi; exact hsub hi
  | destroy | done => rw [h] at hi; exact hi

theorem pcInv_device {p : Program} {dev dev' : Device} (hi : PcInv p) (hdev : p.dev = some dev) :
    PcInv { p with dev := some dev' } := by
  unfold PcInv at hi ⊢
  cases h : p.pc with
  | create | setCallbacks | connect => rw [h, hdev] at hi; cases hi.2
  | awaitSubscribed | uninstall => rw [h, hdev] at hi; cases hi
  | install => rw [h, hdev] at hi; cases hi.1
  | onlineReq | startThreads | awaitFinished => rw [h] at hi; exact hi
  | destroy | done => rw [h] at hi; exact hi

/-- What the invariant says at a known place of `main`. -/
theorem PcInv.here {p : Program} {pc : Pc} (hi : PcInv p) (h : p.pc = pc) :
    PcInv { p with pc := pc } := by
  subst h; exact hi

/-- Neither global is set before the library has settled. -/
theorem LibInv.pending {p : Program} (hi : LibInv p) (hphase : p.phase ≠ .settled) :
    p.subscribed = false ∧ p.finished = false := by
  refine ⟨Bool.eq_false_iff.mpr fun h => ?_, Bool.eq_false_iff.mpr fun h => ?_⟩
  · exact hphase (hi.subscribed h).1
  · exact hphase (hi.finished h)

/-- While neither global is set, nothing is known of the library. -/
theorem LibInv.of_pending {p : Program} (hsub : p.subscribed = false) (hfin : p.finished = false) :
    LibInv p :=
  ⟨by simp [hsub], by simp [hfin]⟩

theorem LibInv.failed {p : Program} (hsub : p.subscribed = false) :
    LibInv { p with phase := .settled, finished := true } :=
  ⟨by simp [hsub], fun _ => rfl⟩

theorem mainInv_step {p p' : Program} {a : Act} {out : List Output} (hi : MainInv p)
    (h : programStep p a = .ok (p', out)) : MainInv p' := by
  obtain ⟨hlib, hpci⟩ := hi
  -- the library is untouched by every step but the callbacks and a successful connect
  have hlib' : ∀ pc dev loops, LibInv { p with pc := pc, dev := dev, loops := loops } :=
    fun _ _ _ => ⟨hlib.subscribed, hlib.finished⟩
  cases a with
  | create ok =>
    obtain ⟨hpc, rfl, -⟩ := takes_eq_ok.mp h
    have hidle : p.phase = .idle ∧ p.dev = none := hpci.here hpc
    refine ⟨hlib' _ _ _, ?_⟩
    cases ok
    · exact hidle.2
    · exact hidle
  | setCallbacks ok =>
    obtain ⟨hpc, rfl, -⟩ := takes_eq_ok.mp h
    have hidle : p.phase = .idle ∧ p.dev = none := hpci.here hpc
    refine ⟨hlib' _ _ _, ?_⟩
    cases ok
    · exact hidle.2
    · exact hidle
  | connect ok =>
    obtain ⟨hpc, rfl, -⟩ := takes_eq_ok.mp h
    have hidle : p.phase = .idle ∧ p.dev = none := hpci.here hpc
    cases ok
    · exact ⟨hlib' _ _ _, hidle.2⟩
    · obtain ⟨hsub, hfin⟩ := hlib.pending (by rw [hidle.1]; decide)
      exact ⟨.of_pending hsub hfin, hidle.2⟩
  | onConnect subscribeOk =>
    obtain ⟨hphase, rfl, -⟩ := takes_eq_ok.mp h
    obtain ⟨hsub, hfin⟩ := hlib.pending (by rw [hphase]; decide)
    exact ⟨.of_pending hsub hfin, pcInv_callback hpci (by rw [hphase]; decide) rfl rfl id⟩
  | onConnectFailure =>
    obtain ⟨hphase, rfl, -⟩ := takes_eq_ok.mp h
    obtain ⟨hsub, -⟩ := hlib.pending (by rw [hphase]; decide)
    exact ⟨.failed hsub, pcInv_callback hpci (by rw [hphase]; decide) rfl rfl id⟩
  | onSubscribe =>
    obtain ⟨hphase, rfl, -⟩ := takes_eq_ok.mp h
    obtain ⟨-, hfin⟩ := hlib.pending (by rw [hphase]; decide)
    refine ⟨⟨fun _ => ⟨rfl, hfin⟩, fun _ => rfl⟩, ?_⟩
    exact pcInv_callback hpci (by rw [hphase]; decide) rfl rfl fun _ => rfl
  | onSubscribeFailure =>
    obtain ⟨hphase, rfl, -⟩ := takes_eq_ok.mp h
    obtain ⟨hsub, -⟩ := hlib.pending (by rw [hphase]; decide)
    exact ⟨.failed hsub, pcInv_callback hpci (by rw [hphase]; decide) rfl rfl id⟩
  | seeSubscribed =>
    obtain ⟨⟨hpc, hsub⟩, rfl, -⟩ := takes_eq_ok.mp h
    have hdev : p.dev = none := hpci.here hpc
    exact ⟨hlib' _ _ _, hdev, hsub⟩
  | install dev =>
    obtain ⟨dev, -, h⟩ := onDevice_eq_ok.mp h
    obtain ⟨hpc, rfl, -⟩ := takes_eq_ok.mp h
    have hsub : p.dev = none ∧ p.subscribed = true := hpci.here hpc
    exact ⟨hlib' _ _ _, hsub.2⟩
  | onlineReq env =>
    obtain ⟨dev, -, h⟩ := onDevice_eq_ok.mp h
    obtain ⟨hpc, rfl, -⟩ := takes_eq_ok.mp h
    have hsub : p.subscribed = true := hpci.here hpc
    exact ⟨hlib' _ _ _, hsub⟩
  | startThreads loops =>
    obtain ⟨hpc, rfl, -⟩ := takes_eq_ok.mp h
    have hsub : p.subscribed = true := hpci.here hpc
    exact ⟨hlib' _ _ _, hsub⟩
  | device e =>
    obtain ⟨dev, dev', hdev, -, rfl⟩ := programStep_device h
    exact ⟨hlib' _ _ _, pcInv_device hpci hdev⟩
  | seeFinished =>
    -- the subscription has succeeded, so no failure is reported
    obtain ⟨⟨hpc, hfin⟩, -⟩ := takes_eq_ok.mp h
    have hsub : p.subscribed = true := hpci.here hpc
    exact absurd (hfin.symm.trans (hlib.subscribed hsub).2) (by decide)
  | uninstall =>
    -- there is no device at the exit
    obtain ⟨dev, hdev, h⟩ := onDevice_eq_ok.mp h
    obtain ⟨hpc, -⟩ := takes_eq_ok.mp h
    have hnone : p.dev = none := hpci.here hpc
    exact absurd (hdev.symm.trans hnone) (by simp)
  | destroy =>
    obtain ⟨hpc, -⟩ := takes_eq_ok.mp h
    exact (hpci.here hpc : False).elim

/-! ### Uses of the client -/

/-- The operation is a send or a destroy. -/
def UsesClient : Output → Prop
  | .publish _ _ | .sendFailed _ _ | .destroy => True
  | .ledUpdateState _ | .spiWrite _ _ => False

instance (o : Output) : Decidable (UsesClient o) := by
  cases o <;> unfold UsesClient <;> infer_instance

/-- No use of the client follows its destruction. -/
def UsedProperly (out : List Output) : Prop :=
  ∀ xs ys, out = xs ++ .destroy :: ys → ∀ o ∈ ys, ¬ UsesClient o

theorem usedProperly_cons {o : Output} {out : List Output} :
    UsedProperly (o :: out) ↔ (o = .destroy → ∀ o' ∈ out, ¬ UsesClient o') ∧ UsedProperly out := by
  constructor
  · intro h
    refine ⟨?_, fun xs ys hout => h (o :: xs) ys (by rw [hout]; rfl)⟩
    rintro rfl
    exact h [] out rfl
  · rintro ⟨h1, h2⟩ xs ys hout
    rcases xs with _ | ⟨x, xs⟩
    · obtain ⟨rfl, rfl⟩ := List.cons.inj hout
      exact h1 rfl
    · exact h2 xs ys (List.cons.inj hout).2

instance decidableUsedProperly : (out : List Output) → Decidable (UsedProperly out)
  | [] => isTrue (by intro xs ys h; simp at h)
  | o :: out =>
    have := decidableUsedProperly out
    decidable_of_iff _ (usedProperly_cons (o := o)).symm

/-- The operations `out` come from sends with the outcomes `sents`: one that fails is followed by a
destroy, and there are no other destroys. -/
inductive Traces : List Bool → List Output → Prop
  | nil : Traces [] []
  | sent {sents : List Bool} {out : List Output} (topic : CString) (payload : Json)
      (h : Traces sents out) : Traces (true :: sents) (.publish topic payload :: out)
  | failed {sents : List Bool} {out : List Output} (topic : CString) (payload : Json)
      (h : Traces sents out) : Traces (false :: sents) (.sendFailed topic payload :: .destroy :: out)
  | other {sents : List Bool} {o : Output} {out : List Output} (ho : ¬ UsesClient o)
      (h : Traces sents out) : Traces sents (o :: out)

theorem Traces.append {sents sents' : List Bool} {out out' : List Output} (h : Traces sents out)
    (h' : Traces sents' out') : Traces (sents ++ sents') (out ++ out') := by
  induction h with
  | nil => exact h'
  | sent topic payload _ ih => exact .sent topic payload ih
  | failed topic payload _ ih => exact .failed topic payload ih
  | other ho _ ih => exact .other ho ih

theorem Traces.no_use_iff {sents : List Bool} {out : List Output} (h : Traces sents out) :
    (∀ o ∈ out, ¬ UsesClient o) ↔ sents = [] := by
  induction h with
  | nil => simp
  | sent topic payload _ _ => simp [UsesClient]
  | failed topic payload _ _ => simp [UsesClient]
  | other ho _ ih => rw [List.forall_mem_cons, ih, and_iff_right ho]

/-- **The client is used properly** exactly if every send but the last succeeds. -/
theorem Traces.proper_iff {sents : List Bool} {out : List Output} (h : Traces sents out) :
    UsedProperly out ↔ ∀ sent ∈ sents.dropLast, sent = true := by
  induction h with
  | nil => simp [UsedProperly]
  | @sent sents out topic payload h ih =>
    rw [usedProperly_cons, ih, and_iff_right (by rintro ⟨⟩)]
    cases sents with
    | nil => simp
    | cons b sents => simp
  | @failed sents out topic payload h ih =>
    rw [usedProperly_cons, and_iff_right (by rintro ⟨⟩), usedProperly_cons, ih, h.no_use_iff]
    cases sents with
    | nil => simp
    | cons b sents => simp
  | @other sents o out ho h ih =>
    rw [usedProperly_cons, ih, and_iff_right]
    rintro rfl
    exact absurd trivial ho

/-! ### The sends of a run -/

/-- The outcomes of the sends that an event makes the device attempt. -/
def attempts (dev : Device) : Event → List Bool
  | .message _ _ _ => []
  | .monitorTick env =>
    if dev.monitor.ret = .success ∧ MonitorGuard dev.monitor.ledState dev.ledShadow then [env.req.sent]
    else []
  | .keepaliveTick env =>
    if OnlineAnswered dev.ledShadow ∧ dev.ledShadow.flag.setShadow ≠ .rsp then
      [env.setReq.sent, env.connectReq.sent]
    else [env.connectReq.sent]
  | .funcTick env =>
    if OnlineAnswered dev.ledShadow ∧ dev.funcFlag = .req then [env.req.sent] else []

/-- The outcomes of the sends that a step of the program attempts. -/
def Act.attempts (p : Program) : Act → List Bool
  | .onlineReq env => [env.sent]
  | .device e =>
    match p.dev with
    | none => []
    | some dev => Client.attempts dev e
  | _ => []

/-- The outcomes of all sends of a run. -/
def sendOutcomes (acts : List Act) : List Bool :=
  collect programStep Act.attempts launch acts

theorem traces_of_no_use {out : List Output} (h : ∀ o ∈ out, ¬ UsesClient o) : Traces [] out := by
  induction out with
  | nil => exact .nil
  | cons o out ih =>
    rw [List.forall_mem_cons] at h
    exact .other h.1 (ih h.2)

theorem traces_send (env : ReqEnv) (topic : CString) (payload : Json) :
    Traces [env.sent] (send env topic payload).2 := by
  unfold send
  rcases hsent : env.sent with _ | _
  · exact .failed topic payload .nil
  · exact .sent topic payload .nil

theorem traces_setReq (env : ReqEnv) (shadow : DevShadow) :
    Traces [env.sent] (shadowSetReq env shadow).2.2 := by
  rw [shadowSetReq_out]; exact traces_send ..

theorem traces_connectReq (env : ReqEnv) (topic : CString) (shadow : DevShadow) :
    Traces [env.sent] (shadowConnectReq env topic shadow).2.2 := by
  rw [shadowConnectReq_out]; exact traces_send ..

theorem traces_driveLed (spi : SpiEnv) (dev : Device) : Traces [] (driveLed spi dev).2.2 := by
  refine traces_of_no_use fun o ho => ?_
  rcases mem_driveLed ho with ⟨state, rfl⟩ | ⟨value, rfl⟩
  · exact id
  · exact id

theorem ledMonitorTick_traces {env : MonitorEnv} {dev dev' : Device} {out : List Output}
    (h : ledMonitorTick env dev = .ok (dev', out)) : Traces (attempts dev (.monitorTick env)) out := by
  unfold ledMonitorTick at h
  rw [attempts]
  by_cases hret : dev.monitor.ret = .success
  · rw [if_neg (not_not.mpr hret)] at h
    split_ifs at h with hguard
    · obtain ⟨shadow, -, h⟩ := bind_eq_ok.mp h
      obtain ⟨-, rfl⟩ := Prod.mk.inj (Except.ok.inj h)
      rw [if_pos ⟨hret, hguard⟩]
      exact traces_setReq env.req shadow
    · obtain ⟨-, rfl⟩ := Prod.mk.inj (Except.ok.inj h)
      rw [if_neg fun hc => hguard hc.2]
      exact .nil
  · rw [if_pos hret] at h
    obtain ⟨-, rfl⟩ := Prod.mk.inj (Except.ok.inj h)
    rw [if_neg fun hc => hret hc.1]
    exact .nil

/-- A turn of the keepalive loop repeats a report that was not answered, and sends its own request. -/
theorem keepaliveShadow_traces (env : KeepaliveEnv) (dev : Device) :
    Traces (attempts dev (.keepaliveTick env)) (keepaliveShadow env dev.ledShadow).2 := by
  rw [attempts]
  by_cases honline : OnlineAnswered dev.ledShadow
  · rw [keepaliveShadow_online honline, keepaliveRetry_eq]
    by_cases hset : dev.ledShadow.flag.setShadow ≠ .rsp
    · rw [if_pos ⟨honline, hset⟩, if_pos hset]
      exact (traces_setReq env.setReq _).append (traces_connectReq env.connectReq _ _)
    · rw [if_neg fun hc => hset hc.2, if_neg hset]
      exact traces_connectReq env.connectReq _ _
  · rw [keepaliveShadow_offline honline, if_neg fun hc => honline hc.1]
    exact traces_connectReq env.connectReq _ _

/-- **The operations of a step of the device** come from the sends it attempts. -/
theorem deviceStep_traces {dev dev' : Device} {e : Event} {out : List Output}
    (h : deviceStep dev e = .ok (dev', out)) : Traces (attempts dev e) out := by
  cases e with
  | message spi topicName payload =>
    cases messageArrived_effect h with
    | nothing _ => exact .nil
    | connect _ => exact .nil
    | acknowledged _ _ _ _ => exact .nil
    | updated _ _ _ => exact traces_driveLed _ _
    | otherDevice _ _ _ => exact traces_driveLed _ _
  | monitorTick env => exact ledMonitorTick_traces h
  | keepaliveTick env =>
    obtain ⟨-, rfl⟩ := keepaliveTick_eq_ok h
    exact keepaliveShadow_traces env dev
  | funcTick env =>
    obtain ⟨-, rfl⟩ := funcTick_eq_ok h
    rw [attempts, ledFuncTick]
    by_cases honline : OnlineAnswered dev.ledShadow
    · by_cases hflag : dev.funcFlag = .req
      · rw [if_pos honline, if_pos hflag, if_pos ⟨honline, hflag⟩]
        exact traces_send ..
      · rw [if_pos honline, if_neg hflag, if_neg fun hc => hflag hc.2]
        exact .nil
    · rw [if_neg honline, if_neg fun hc => honline hc.1]
      exact .nil

theorem programStep_traces {p p' : Program} {a : Act} {out : List Output} (hi : MainInv p)
    (h : programStep p a = .ok (p', out)) : Traces (a.attempts p) out := by
  cases a with
  | create ok | setCallbacks ok | connect ok | onConnect subscribeOk | onConnectFailure | onSubscribe
  | onSubscribeFailure | seeSubscribed | startThreads loops | seeFinished =>
    obtain ⟨-, -, rfl⟩ := takes_eq_ok.mp h
    exact .nil
  | install dev | uninstall =>
    obtain ⟨dev, -, h⟩ := onDevice_eq_ok.mp h
    obtain ⟨-, -, rfl⟩ := takes_eq_ok.mp h
    exact .nil
  | onlineReq env =>
    obtain ⟨dev, -, h⟩ := onDevice_eq_ok.mp h
    obtain ⟨-, -, rfl⟩ := takes_eq_ok.mp h
    exact traces_connectReq ..
  | device e =>
    obtain ⟨dev, dev', hdev, hstep, -⟩ := programStep_device h
    rw [Act.attempts, hdev]
    exact deviceStep_traces hstep
  | destroy =>
    -- `main` does not get here
    obtain ⟨hpc, -⟩ := takes_eq_ok.mp h
    have hpci := hi.2
    unfold PcInv at hpci
    rw [hpc] at hpci
    exact hpci.elim

/-- **When the client is used properly**: in a run of the program no send and no destroy is applied
to the destroyed client exactly if every `MQTTAsync_send` of the run but the last succeeds. -/
theorem usedProperly_iff {acts : List Act} {p : Program} {out : List Output}
    (hrun : exec programStep launch acts = .ok (p, out)) :
    UsedProperly out ↔ ∀ sent ∈ (sendOutcomes acts).dropLast, sent = true := by
  refine Traces.proper_iff ?_
  refine exec_collect MainInv Traces .nil (fun _ _ _ _ => Traces.append) ?_ mainInv_launch hrun
  intro s a s' o hi hs
  exact ⟨mainInv_step hi hs, programStep_traces hi hs⟩

/-- The program up to the online request. -/
def boot : List Act :=
  [.create true, .setCallbacks true, .connect true, .onConnect true, .onSubscribe, .seeSubscribed,
    .install (some (ledInstall LED_OFF (.zero _) 0 fun _ => 0))]

theorem usedProperly_iff_boot :
    Ends (exec programStep launch (boot ++ [.onlineReq sentEnv, .startThreads ⟨true, true, true⟩,
      .device (.keepaliveTick ⟨sentEnv, unsentEnv⟩)])) fun _ out => out.length = 3 ∧ UsedProperly out := by
  have hends : Ends (exec programStep launch (boot ++ [.onlineReq sentEnv,
      .startThreads ⟨true, true, true⟩, .device (.keepaliveTick ⟨sentEnv, unsentEnv⟩)]))
      fun _ out => out.length = 3 := by decide +kernel
  obtain ⟨p, out, hrun, hlen⟩ := hends
  exact ⟨p, out, hrun, hlen, (usedProperly_iff hrun).mpr (by decide +kernel)⟩

/-- **A use after a failed send**: the online request of `main` fails and destroys the client, and
the keepalive loop sends its own. -/
theorem not_usedProperly_boot :
    Ends (exec programStep launch (boot ++ [.onlineReq unsentEnv, .startThreads ⟨true, true, true⟩,
      .device (.keepaliveTick ⟨sentEnv, sentEnv⟩)])) fun _ out => ¬ UsedProperly out := by
  decide +kernel

end OasisEdge.System.Client
