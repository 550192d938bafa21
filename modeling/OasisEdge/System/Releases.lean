import OasisEdge.Sample.Resources
import OasisEdge.System.Platform
import OasisEdge.System.Steps

/-! # Trees and strings over a run

Each step of the device makes the calls of `callsOf`, and what one of them does not release stays
live for good (`bookStep`). So nothing is live between the steps of a run exactly if every call made
in it is clean (`released_iff`): there is no turn of the function-call loop that calls, no connection
response with an entry, and every notification that parses is taken over. -/

namespace OasisEdge.System.Releases

open OasisEdge.Lib.Chars OasisEdge.Lib.Checking OasisEdge.Lib.Runs OasisEdge.Lib.Ledgers
open OasisEdge.Lib.Ledgers.Traced OasisEdge.CJson.Value OasisEdge.CJson.Parse OasisEdge.App.Func
open OasisEdge.Shadow.State OasisEdge.Shadow.Connect OasisEdge.Shadow.Set OasisEdge.Shadow.Update
open OasisEdge.Led.Driver OasisEdge.Sample.EdgeClient OasisEdge.Sample.Resources
open OasisEdge.System.Platform OasisEdge.System.Steps

/-! ### The calls of a step -/

/-- The call a message leads to. -/
def messageCalls (topicName payload : CString) (shadow : DevShadow) : List Call :=
  if topicName ∈ connectTopics then [.connectRsp payload topicName shadow]
  else if topicName = TOPIC_UPDATE_SHADOW then [.update payload shadow]
  else if topicName = TOPIC_RSP_SET_SHADOW then [.setRsp payload shadow]
  else if topicName = TOPIC_RSP_CALL_FUNCTION then [.callRsp payload]
  else []

/-- The calls of a turn of the monitor: the report. -/
def monitorCalls (env : MonitorEnv) (dev : Device) : List Call :=
  if dev.monitor.ret ≠ .success then []
  else if MonitorGuard dev.monitor.ledState dev.ledShadow then
    match monitorReport env (stateName dev.monitor.ledState) dev.ledShadow with
    | .error _ => []
    | .ok shadow => [.setReq env.req shadow]
  else []

/-- The calls of a turn of the keepalive loop. -/
def keepaliveCalls (env : KeepaliveEnv) (shadow : DevShadow) : List Call :=
  if OnlineAnswered shadow then
    (if shadow.flag.setShadow ≠ .rsp then [.setReq env.setReq shadow] else []) ++
      [.connectReq env.connectReq TOPIC_REQ_KEEPALIVE (keepaliveRetry env shadow).1]
  else [.connectReq env.connectReq TOPIC_REQ_ONLINE (declareOffline shadow)]

/-- The calls of a turn of the function-call loop. -/
def funcCalls (env : FuncEnv) (dev : Device) : List Call :=
  if OnlineAnswered dev.ledShadow then
    if dev.funcFlag = .req then
      [.callReq env.req ((env.rand₀ % 128 : ℕ), (env.rand₁ % 128 : ℕ))]
    else []
  else []

/-- The calls of a step. -/
def callsOf (dev : Device) : Event → List Call
  | .message _ topicName payload => messageCalls topicName payload dev.ledShadow
  | .monitorTick env => monitorCalls env dev
  | .keepaliveTick env => keepaliveCalls env dev.ledShadow
  | .funcTick env => funcCalls env dev

/-- What a call makes the device put out: the requests send. -/
def outputsOf : Call → List Output
  | .connectReq env topic shadow => (shadowConnectReq env topic shadow).2.2
  | .setReq env shadow => (shadowSetReq env shadow).2.2
  | .callReq env payload => (funcCallReq env payload).2
  | _ => []

/-- **The calls of a turn of a loop** put out what the turn puts out. -/
theorem outputs_callsOf {dev dev' : Device} {e : Event} {out : List Output}
    (he : ∀ spi topicName payload, e ≠ .message spi topicName payload)
    (h : deviceStep dev e = .ok (dev', out)) : (callsOf dev e).flatMap outputsOf = out := by
  cases e with
  | message spi topicName payload => exact absurd rfl (he spi topicName payload)
  | monitorTick env =>
    show (monitorCalls env dev).flatMap outputsOf = out
    unfold monitorCalls
    change ledMonitorTick env dev = .ok (dev', out) at h
    unfold ledMonitorTick at h
    split_ifs at h ⊢ with hret hguard
    · obtain ⟨-, rfl⟩ := Prod.mk.inj (Except.ok.inj h); rfl
    · obtain ⟨shadow, hrep, h⟩ := bind_eq_ok.mp h
      obtain ⟨-, rfl⟩ := Prod.mk.inj (Except.ok.inj h)
      rw [hrep]
      exact List.flatMap_singleton ..
    · obtain ⟨-, rfl⟩ := Prod.mk.inj (Except.ok.inj h); rfl
  | keepaliveTick env =>
    obtain ⟨-, rfl⟩ := keepaliveTick_eq_ok h
    show (keepaliveCalls env dev.ledShadow).flatMap outputsOf = _
    unfold keepaliveCalls
    by_cases honline : OnlineAnswered dev.ledShadow
    · rw [if_pos honline, keepaliveShadow_online honline, List.flatMap_append, keepaliveRetry_eq]
      split_ifs <;> simp [outputsOf]
    · rw [if_neg honline, keepaliveShadow_offline honline]
      exact List.flatMap_singleton ..
  | funcTick env =>
    obtain ⟨-, rfl⟩ := funcTick_eq_ok h
    show (funcCalls env dev).flatMap outputsOf = _
    unfold funcCalls ledFuncTick
    split_ifs
    · exact List.flatMap_singleton ..
    · rfl
    · rfl

theorem returns_of_erase {α : Type} {x : Noted α} {y : Checked α} (hx : erase x = y)
    (hy : Defined y) : Defined x.ops := by
  rw [defined_ops, hx]
  exact hy

theorem defined_of_onShadow {dev dev' : Device} {r : Checked (Ret × DevShadow)} {out : List Output}
    (h : onShadow dev r = .ok (dev', out)) : Defined r := by
  obtain ⟨ret, shadow, hr, -⟩ := onShadow_eq_ok.mp h
  exact ⟨_, hr⟩

/-- The calls of a message return if the message is handled without a fault. -/
theorem messageCalls_return {spi : SpiEnv} {topicName payload : CString} {dev dev' : Device}
    {out : List Output} (h : messageArrived spi topicName payload dev = .ok (dev', out)) :
    ∀ c ∈ messageCalls topicName payload dev.ledShadow, c.Returns := by
  intro c hc
  unfold messageCalls at hc
  split_ifs at hc with h1 h2 h3 h4
  · obtain rfl := List.mem_singleton.mp hc
    rw [messageArrived_connect h1] at h
    exact returns_of_erase (erase_connectRsp ..) (defined_of_onShadow h)
  · obtain rfl := List.mem_singleton.mp hc
    rw [h2, messageArrived_update] at h
    obtain ⟨r, hr, -⟩ := bind_eq_ok.mp h
    obtain ⟨r', hr', -⟩ := bind_eq_ok.mp hr
    exact returns_of_erase (erase_update ..) ⟨r', hr'⟩
  · obtain rfl := List.mem_singleton.mp hc
    rw [h3, messageArrived_setShadow] at h
    exact returns_of_erase (erase_setRsp ..) (defined_of_onShadow h)
  · obtain rfl := List.mem_singleton.mp hc
    exact returns_of_erase (erase_callRsp ..) (defined_ok _)
  · cases hc

/-- **The calls of a step return** if the step reaches no fault. -/
theorem callsOf_return {dev dev' : Device} {e : Event} {out : List Output}
    (h : deviceStep dev e = .ok (dev', out)) : ∀ c ∈ callsOf dev e, c.Returns := by
  have hsetReq : ∀ env shadow, (Call.setReq env shadow).Returns := fun env shadow =>
    returns_of_erase (erase_setReq env shadow) (defined_ok _)
  have hconnectReq : ∀ env topic shadow, (Call.connectReq env topic shadow).Returns :=
    fun env topic shadow => returns_of_erase (erase_connectReq env topic shadow) (defined_ok _)
  intro c hc
  cases e with
  | message spi topicName payload => exact messageCalls_return h c hc
  | monitorTick env =>
    change c ∈ monitorCalls env dev at hc
    unfold monitorCalls at hc
    split_ifs at hc
    · cases hc
    · split at hc
      · cases hc
      · obtain rfl := List.mem_singleton.mp hc
        exact hsetReq _ _
    · cases hc
  | keepaliveTick env =>
    change c ∈ keepaliveCalls env dev.ledShadow at hc
    unfold keepaliveCalls at hc
    split_ifs at hc
    · rcases List.mem_append.mp hc with hc | hc
      · obtain rfl := List.mem_singleton.mp hc
        exact hsetReq _ _
      · obtain rfl := List.mem_singleton.mp hc
        exact hconnectReq _ _ _
    · obtain rfl := List.mem_singleton.mp hc
      exact hconnectReq _ _ _
    · obtain rfl := List.mem_singleton.mp hc
      exact hconnectReq _ _ _
  | funcTick env =>
    change c ∈ funcCalls env dev at hc
    unfold funcCalls at hc
    split_ifs at hc
    · obtain rfl := List.mem_singleton.mp hc
      exact returns_of_erase (erase_callReq ..) (defined_ok _)
    · cases hc
    · cases hc

/-! ### What is live between the steps -/

/-- The device, and the number of trees and strings that are live. -/
structure Books where
  dev : Device
  live : ℕ

/-- What a call leaves live. -/
def leak (c : Call) : ℕ :=
  match c.trace with
  | .error _ => 0
  | .ok os => held os

/-- A step of the device, with the books kept. -/
def bookStep (b : Books) (e : Event) : Checked (Books × List Output) := do
  let (dev, out) ← deviceStep b.dev e
  .ok (⟨dev, b.live + ((callsOf b.dev e).map leak).sum⟩, out)

theorem bookStep_eq_ok {b b' : Books} {e : Event} {out : List Output} :
    bookStep b e = .ok (b', out) ↔ deviceStep b.dev e = .ok (b'.dev, out) ∧
      b'.live = b.live + ((callsOf b.dev e).map leak).sum := by
  obtain ⟨dev', live'⟩ := b'
  unfold bookStep
  rw [bind_eq_ok]
  constructor
  · rintro ⟨⟨dev, o⟩, hstep, h⟩
    obtain ⟨hb, rfl⟩ := Prod.mk.inj (Except.ok.inj h)
    obtain ⟨rfl, rfl⟩ := Books.mk.inj hb
    exact ⟨hstep, rfl⟩
  · rintro ⟨hstep, rfl⟩
    exact ⟨_, hstep, rfl⟩

/-- Nothing is live. -/
def NothingLive (b : Books) : Prop := b.live = 0

/-- The calls of a step that reaches no fault are clean. -/
def CleanStep (b : Books) (e : Event) : Prop :=
  Defined (deviceStep b.dev e) → ∀ c ∈ callsOf b.dev e, c.Clean

/-- A call that returns leaves nothing exactly if it is clean. -/
theorem leak_eq_zero {c : Call} (hc : c.Returns) : leak c = 0 ↔ c.Clean := by
  obtain ⟨os, hos⟩ := hc
  obtain ⟨n, hl, hn⟩ := Call.leaves hos
  unfold leak
  rw [hos, ← hn]
  show held os = 0 ↔ _
  rw [hl.held]

theorem cleanStep_iff {b : Books} {e : Event} (hb : NothingLive b) :
    CleanStep b e ↔ ∀ b' out, bookStep b e = .ok (b', out) → NothingLive b' := by
  have hsum : ∀ {dev' : Device} {out : List Output}, deviceStep b.dev e = .ok (dev', out) →
      (((callsOf b.dev e).map leak).sum = 0 ↔ ∀ c ∈ callsOf b.dev e, c.Clean) := by
    intro dev' out hstep
    rw [List.sum_eq_zero_iff, List.forall_mem_map]
    exact forall₂_congr fun c hc => leak_eq_zero (callsOf_return hstep c hc)
  constructor
  · intro hclean b' out hstep
    obtain ⟨hdev, hlive⟩ := bookStep_eq_ok.mp hstep
    show b'.live = 0
    rw [hlive, (hsum hdev).mpr (hclean ⟨_, hdev⟩), Nat.add_zero]
    exact hb
  · rintro h ⟨⟨dev', out⟩, hdev⟩
    have hlive : b.live + ((callsOf b.dev e).map leak).sum = 0 :=
      h ⟨dev', _⟩ out (bookStep_eq_ok.mpr ⟨hdev, rfl⟩)
    exact (hsum hdev).mp (Nat.eq_zero_of_add_eq_zero_left hlive)

/-- **When what is obtained is released**: a call that returns releases everything exactly if it is
clean, and nothing is live between the steps of a run exactly if all its calls are. -/
theorem released_iff (c : Call) (dev : Device) (es : List Event) :
    (c.Releases ↔ (c.Returns → c.Clean)) ∧
      (Always bookStep NothingLive ⟨dev, 0⟩ es ↔ Meets bookStep CleanStep ⟨dev, 0⟩ es) := by
  refine ⟨c.releases_iff, ?_⟩
  refine always_iff_meets NothingLive (fun b hb => hb) (fun b e hb => cleanStep_iff hb) ?_ rfl
  intro b e b' out hb hclean hstep
  exact (cleanStep_iff hb).mp hclean b' out hstep

/-- The response that lists the LED as online, at the installed LED. -/
def onlineResponse : Call :=
  .connectRsp onlineText TOPIC_RSP_ONLINE (ledInit LED_OFF (.zero _) 0)

/-- **A connection response with one entry** releases neither the text of the entry nor the tree it
is parsed to. -/
theorem not_releases_onlineResponse : ¬ onlineResponse.Releases := by
  intro h
  have htrace : onlineResponse.trace = .ok [.obtain .root, .obtain (.devinfoFmt 0),
      .obtain (.devinfoItem 0), .release .root] := by
    decide +kernel
  have hno : ¬ Balanced [.obtain Handle.root, .obtain (.devinfoFmt 0), .obtain (.devinfoItem 0),
      .release .root] := by
    decide
  exact hno (h _ htrace)

end OasisEdge.System.Releases
