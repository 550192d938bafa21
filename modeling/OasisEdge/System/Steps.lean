import OasisEdge.Lib.Runs
import OasisEdge.Sample.EdgeClient

/-! # What a step of the device keeps

Whatever the event, a step keeps the identity of the device and its reported switch, and the version
does not fall (`deviceStep_kept`). The reported switch stays because the monitor writes it only when
it has that value already. A run keeps what its steps keep (`exec_kept`). The facts come from what
each kind of step does to the shadow: a message (`messageArrived_effect`), a turn of the monitor
(`ledMonitorTick_eq_ok`) and a turn of the keepalive loop (`keepaliveShadow_same`). -/

namespace OasisEdge.System.Steps

open OasisEdge.Lib.Chars OasisEdge.Lib.Checking OasisEdge.Lib.Runs OasisEdge.CJson.Value
open OasisEdge.CJson.Parse OasisEdge.Shadow.State OasisEdge.Shadow.Connect OasisEdge.Shadow.Set
open OasisEdge.Shadow.Update
open OasisEdge.Led.Driver OasisEdge.Sample.EdgeClient

/-- Why a system does not step: the device hits a fault, or the event cannot happen in this
state. -/
inductive Stop
  | fault (f : Fault)
  | impossible

/-! ### Requests -/

theorem shadowSetReq_shadow (env : ReqEnv) (shadow : DevShadow) :
    (shadowSetReq env shadow).2.1 =
      { shadow with flag := if env.sent then setReqFlag shadow.flag else shadow.flag } := by
  unfold shadowSetReq send
  cases env.sent <;> rfl

theorem shadowSetReq_out (env : ReqEnv) (shadow : DevShadow) :
    (shadowSetReq env shadow).2.2 =
      (send env TOPIC_REQ_SET_SHADOW (setReqMessage env shadow)).2 := by
  unfold shadowSetReq send
  cases env.sent <;> rfl

theorem shadowConnectReq_shadow (env : ReqEnv) (topic : CString) (shadow : DevShadow) :
    (shadowConnectReq env topic shadow).2.1 =
      { shadow with
        flag := if env.sent then connectReqFlag topic shadow.flag else shadow.flag } := by
  unfold shadowConnectReq send
  cases env.sent <;> rfl

theorem shadowConnectReq_out (env : ReqEnv) (topic : CString) (shadow : DevShadow) :
    (shadowConnectReq env topic shadow).2.2 =
    (send env topic (connectReqMessage env shadow)).2 := by
  unfold shadowConnectReq send
  cases env.sent <;> rfl

/-! ### The loops -/

/-- Everything but the flags and the status is the same. -/
def SameButStatus (shadow shadow' : DevShadow) : Prop :=
  ∃ flag status, shadow' = { shadow with flag := flag, status := status }

theorem SameButStatus.refl (shadow : DevShadow) : SameButStatus shadow shadow := ⟨_, _, rfl⟩

theorem SameButStatus.trans {s₁ s₂ s₃ : DevShadow} (h₁ : SameButStatus s₁ s₂)
    (h₂ : SameButStatus s₂ s₃) : SameButStatus s₁ s₃ := by
  obtain ⟨f₁, st₁, rfl⟩ := h₁
  obtain ⟨f₂, st₂, rfl⟩ := h₂
  exact ⟨f₂, st₂, rfl⟩

theorem keepaliveRetry_eq (env : KeepaliveEnv) (shadow : DevShadow) :
    keepaliveRetry env shadow =
    if shadow.flag.setShadow ≠ .rsp then (shadowSetReq env.setReq shadow).2
      else (shadow, []) := rfl

theorem keepaliveShadow_online {env : KeepaliveEnv} {shadow : DevShadow}
    (h : OnlineAnswered shadow) :
    keepaliveShadow env shadow =
      ((shadowConnectReq env.connectReq TOPIC_REQ_KEEPALIVE (keepaliveRetry env shadow).1).2.1,
        (keepaliveRetry env shadow).2 ++
          (shadowConnectReq env.connectReq TOPIC_REQ_KEEPALIVE
          (keepaliveRetry env shadow).1).2.2) := by
  unfold keepaliveShadow
  rw [if_pos h]

theorem keepaliveShadow_offline {env : KeepaliveEnv} {shadow : DevShadow}
    (h : ¬ OnlineAnswered shadow) : keepaliveShadow env shadow =
      (shadowConnectReq env.connectReq TOPIC_REQ_ONLINE (declareOffline shadow)).2 := by
  unfold keepaliveShadow
  rw [if_neg h]

theorem keepaliveRetry_same (env : KeepaliveEnv) (shadow : DevShadow) :
    SameButStatus shadow (keepaliveRetry env shadow).1 := by
  rw [keepaliveRetry_eq]
  split_ifs
  · exact ⟨_, _, shadowSetReq_shadow env.setReq shadow⟩
  · exact .refl shadow

theorem keepaliveShadow_same (env : KeepaliveEnv) (shadow : DevShadow) :
    SameButStatus shadow (keepaliveShadow env shadow).1 := by
  by_cases h : OnlineAnswered shadow
  · rw [keepaliveShadow_online h]
    refine (keepaliveRetry_same env shadow).trans ?_
    exact ⟨_, _, shadowConnectReq_shadow env.connectReq TOPIC_REQ_KEEPALIVE _⟩
  · rw [keepaliveShadow_offline h]
    exact ⟨_, _, shadowConnectReq_shadow env.connectReq TOPIC_REQ_ONLINE (declareOffline shadow)⟩

/-- **What a turn of the monitor does** that reaches no fault: nothing, or it reports under the next
version. -/
theorem ledMonitorTick_eq_ok {env : MonitorEnv} {dev dev' : Device} {out : List Output}
    (h : ledMonitorTick env dev = .ok (dev', out)) :
    dev' = dev ∧ out = [] ∨
      MonitorGuard dev.monitor.ledState dev.ledShadow ∧
        ∃ shadow, monitorReport env (stateName dev.monitor.ledState) dev.ledShadow = .ok shadow ∧
          dev' = { dev with
            ledShadow := (shadowSetReq env.req shadow).2.1
            monitor := { dev.monitor with ret := (shadowSetReq env.req shadow).1 } } ∧
          out = (shadowSetReq env.req shadow).2.2 := by
  unfold ledMonitorTick at h
  split_ifs at h with hret hguard
  · obtain ⟨rfl, rfl⟩ := Prod.mk.inj (Except.ok.inj h); exact Or.inl ⟨rfl, rfl⟩
  · obtain ⟨shadow, hrep, h⟩ := bind_eq_ok.mp h
    obtain ⟨rfl, rfl⟩ := Prod.mk.inj (Except.ok.inj h)
    exact Or.inr ⟨hguard, shadow, hrep, rfl, rfl⟩
  · obtain ⟨rfl, rfl⟩ := Prod.mk.inj (Except.ok.inj h); exact Or.inl ⟨rfl, rfl⟩

theorem monitorReport_eq_ok {env : MonitorEnv} {state : CString} {shadow shadow' : DevShadow}
    (h : monitorReport env state shadow = .ok shadow') :
    shadow.version + 1 ≤ LONG_MAX ∧ shadow' =
      { shadow with
        state := { shadow.state with
          reported := ⟨snprintf LENGTH_SWITCH state, env.reportedTime⟩
          delta := monitorDelta env state (snprintf LENGTH_SWITCH state) shadow.state.desired.sw }
        token := snprintf LENGTH_TOKEN env.uuid.str
        version := shadow.version + 1 } := by
  obtain ⟨version, hv, h⟩ := bind_eq_ok.mp h
  obtain ⟨-, hmax, rfl⟩ := checkedInt_eq_ok.mp hv
  exact ⟨hmax, (Except.ok.inj h).symm⟩

theorem keepaliveTick_eq_ok {env : KeepaliveEnv} {dev dev' : Device} {out : List Output}
    (h : deviceStep dev (.keepaliveTick env) = .ok (dev', out)) :
    dev' = { dev with ledShadow := (keepaliveShadow env dev.ledShadow).1 } ∧
      out = (keepaliveShadow env dev.ledShadow).2 := by
  have hstep : ledKeepaliveTick env dev = (dev', out) := Except.ok.inj h
  exact ⟨(congrArg Prod.fst hstep).symm, (congrArg Prod.snd hstep).symm⟩

theorem funcTick_eq_ok {env : FuncEnv} {dev dev' : Device} {out : List Output}
    (h : deviceStep dev (.funcTick env) = .ok (dev', out)) :
    dev' = (ledFuncTick env dev).1 ∧ out = (ledFuncTick env dev).2 := by
  have hstep : ledFuncTick env dev = (dev', out) := Except.ok.inj h
  exact ⟨(congrArg Prod.fst hstep).symm, (congrArg Prod.snd hstep).symm⟩

theorem ledFuncTick_shadow (env : FuncEnv) (dev : Device) :
    (ledFuncTick env dev).1.ledShadow = dev.ledShadow := by
  unfold ledFuncTick
  split_ifs <;> rfl

/-! ### Messages -/

theorem driveLed_shadow (spi : SpiEnv) (dev : Device) :
    (driveLed spi dev).2.1.ledShadow = dev.ledShadow := by
  unfold driveLed
  dsimp only
  split_ifs <;> rfl

/-! ### Accepted updates -/

/-- The version under which a step accepts an update. -/
def acceptedUpdate (dev : Device) : Event → Option ℤ
  | .message _ topicName payload =>
    if topicName = TOPIC_UPDATE_SHADOW then
      (cjsonParse payload).bind fun root =>
        match readUpdate root dev.ledShadow with
        | .ok (.accepted _ _ version) => some version
        | _ => none
    else none
  | _ => none

theorem acceptedUpdate_message {dev : Device} {spi : SpiEnv} {topicName payload : CString} {v : ℤ} :
    acceptedUpdate dev (.message spi topicName payload) = some v ↔
      topicName = TOPIC_UPDATE_SHADOW ∧ ∃ root sw swTimestamp, cjsonParse payload = some root ∧
        Accepts root dev.ledShadow sw swTimestamp v := by
  simp only [acceptedUpdate]
  by_cases ht : topicName = TOPIC_UPDATE_SHADOW
  · rw [if_pos ht, and_iff_right ht, Option.bind_eq_some_iff]
    refine exists_congr fun root => ?_
    constructor
    · rintro ⟨hroot, h⟩
      split at h
      · next sw swTimestamp version hread =>
        obtain rfl := Option.some.inj h
        exact ⟨sw, swTimestamp, hroot, readUpdate_accepted.mp hread⟩
      · cases h
    · rintro ⟨sw, swTimestamp, hroot, hacc⟩
      rw [readUpdate_accepted.mpr hacc]
      exact ⟨hroot, rfl⟩
  · rw [if_neg ht]
    exact ⟨(fun h => by cases h), fun h => absurd h.1 ht⟩

theorem messageArrived_accepts {spi : SpiEnv} {payload sw : CString} {dev : Device} {root : Json}
    {swTimestamp : UInt64} {v : ℤ} (hroot : cjsonParse payload = some root)
    (hacc : Accepts root dev.ledShadow sw swTimestamp v) :
    messageArrived spi TOPIC_UPDATE_SHADOW payload dev =
      .ok (driveLed spi { dev with ledShadow := takeOver dev.ledShadow sw swTimestamp v }).2 := by
  rw [messageArrived_verdict hroot, readUpdate_accepted.mpr hacc]
  rfl

theorem accepted_version {dev dev' : Device} {e : Event} {out : List Output} {v : ℤ}
    (h : deviceStep dev e = .ok (dev', out)) (hacc : acceptedUpdate dev e = some v) :
    dev'.ledShadow.version = v := by
  cases e with
  | message spi topicName payload =>
    obtain ⟨rfl, root, sw, swTimestamp, hroot, hacc⟩ := acceptedUpdate_message.mp hacc
    have hd := h.symm.trans (messageArrived_accepts hroot hacc)
    rw [(Prod.mk.inj (Except.ok.inj hd)).1, driveLed_shadow]
    rfl
  | monitorTick env => cases hacc
  | keepaliveTick env => cases hacc
  | funcTick env => cases hacc

/-! ### What every step keeps -/

/-- The identity and the reported switch are the same, and the version has not fallen. -/
structure Kept (shadow shadow' : DevShadow) : Prop where
  productKey : shadow'.productKey = shadow.productKey
  deviceID : shadow'.deviceID = shadow.deviceID
  timestamp : shadow'.timestamp = shadow.timestamp
  reported_sw : shadow'.state.reported.sw = shadow.state.reported.sw
  version_le : shadow.version ≤ shadow'.version

theorem Kept.refl (shadow : DevShadow) : Kept shadow shadow := ⟨rfl, rfl, rfl, rfl, le_rfl⟩

theorem Kept.trans {s₁ s₂ s₃ : DevShadow} (h₁ : Kept s₁ s₂) (h₂ : Kept s₂ s₃) : Kept s₁ s₃ where
  productKey := h₂.productKey.trans h₁.productKey
  deviceID := h₂.deviceID.trans h₁.deviceID
  timestamp := h₂.timestamp.trans h₁.timestamp
  reported_sw := h₂.reported_sw.trans h₁.reported_sw
  version_le := h₁.version_le.trans h₂.version_le

theorem SameButStatus.kept {s s' : DevShadow} (h : SameButStatus s s') : Kept s s' := by
  obtain ⟨flag, status, rfl⟩ := h
  exact ⟨rfl, rfl, rfl, rfl, le_rfl⟩

theorem Kept.installed {s s' : DevShadow} (h : Kept s s') (hi : Installed s) : Installed s' where
  productKey := by rw [h.productKey]; exact hi.productKey
  deviceID := by rw [h.deviceID]; exact hi.deviceID
  timestamp := by rw [h.timestamp]; exact hi.timestamp

theorem connectRspShadow_same (payload topic : CString) (shadow : DevShadow) :
    SameButStatus shadow (connectRspShadow payload topic shadow) := by
  unfold connectRspShadow
  cases connectEntries payload with
  | none => exact .refl shadow
  | some entries => exact ⟨_, _, rfl⟩

theorem messageEffect_kept {spi : SpiEnv} {topicName payload : CString} {dev dev' : Device}
    {out : List Output} (h : MessageEffect spi topicName payload dev dev' out) :
    Kept dev.ledShadow dev'.ledShadow := by
  cases h with
  | nothing _ => exact .refl _
  | connect _ => exact (connectRspShadow_same ..).kept
  | acknowledged _ _ _ _ => exact ⟨rfl, rfl, rfl, rfl, le_rfl⟩
  | updated _ _ hacc =>
    rw [driveLed_shadow]
    obtain ⟨item, hf, rfl⟩ := hacc.fresh
    exact ⟨rfl, rfl, rfl, rfl, hf.2.2⟩
  | otherDevice _ _ _ => rw [driveLed_shadow]; exact .refl _

theorem monitor_kept {env : MonitorEnv} {dev dev' : Device} {out : List Output}
    (h : ledMonitorTick env dev = .ok (dev', out)) : Kept dev.ledShadow dev'.ledShadow := by
  rcases ledMonitorTick_eq_ok h with ⟨rfl, -⟩ | ⟨⟨-, hsw, -⟩, shadow, hrep, rfl, -⟩
  · exact .refl _
  · obtain ⟨-, rfl⟩ := monitorReport_eq_ok hrep
    have hname := strcmp_eq_zero.mp hsw
    show Kept _ (shadowSetReq _ _).2.1
    rw [shadowSetReq_shadow]
    refine ⟨rfl, rfl, rfl, ?_, ?_⟩
    · show snprintf LENGTH_SWITCH (stateName dev.monitor.ledState) = _
      rw [hname]; exact snprintf_str _
    · show dev.ledShadow.version ≤ dev.ledShadow.version + 1
      omega

/-- **What every step keeps.** -/
theorem deviceStep_kept {dev dev' : Device} {e : Event} {out : List Output}
    (h : deviceStep dev e = .ok (dev', out)) : Kept dev.ledShadow dev'.ledShadow := by
  cases e with
  | message spi topicName payload => exact messageEffect_kept (messageArrived_effect h)
  | monitorTick env => exact monitor_kept h
  | keepaliveTick env =>
    obtain ⟨rfl, -⟩ := keepaliveTick_eq_ok h
    exact (keepaliveShadow_same env dev.ledShadow).kept
  | funcTick env =>
    obtain ⟨rfl, -⟩ := funcTick_eq_ok h
    rw [ledFuncTick_shadow]
    exact .refl _

/-- **What every run keeps.** -/
theorem exec_kept {dev dev' : Device} {es : List Event} {out : List Output}
    (h : exec deviceStep dev es = .ok (dev', out)) : Kept dev.ledShadow dev'.ledShadow := by
  refine exec_keeps (fun d => Kept dev.ledShadow d.ledShadow) ?_ (.refl _) h
  intro d e d' o hkept hstep
  exact hkept.trans (deviceStep_kept hstep)

end OasisEdge.System.Steps
