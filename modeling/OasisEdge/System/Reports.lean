import OasisEdge.System.Steps

/-! # The reports of the device

The `updateShadow` requests among the effects of a step (`published`). Only the monitor and the
keepalive loop send them, and what they carry is the shadow after the step (`published_report`). An
answer to a report carries its identity and its version (`AnswerTo`). -/

namespace OasisEdge.System.Reports

open OasisEdge.Lib.Chars OasisEdge.Lib.Checking OasisEdge.CJson.Value OasisEdge.CJson.Parse
open OasisEdge.App.Func OasisEdge.Shadow.State OasisEdge.Shadow.Connect OasisEdge.Shadow.Set
open OasisEdge.Led.Driver OasisEdge.Sample.EdgeClient OasisEdge.System.Steps

/-- The reports among the effects of a step. -/
def published (out : List Output) : List Json :=
  out.filterMap fun
    | .publish topic payload => if topic = TOPIC_REQ_SET_SHADOW then some payload else none
    | _ => none

theorem messageEffect_published {spi : SpiEnv} {topicName payload : CString} {dev dev' : Device}
    {out : List Output} (h : MessageEffect spi topicName payload dev dev' out) :
    published out = [] := by
  have hdrive : ∀ d : Device, published (driveLed spi d).2.2 = [] := by
    intro d
    refine List.filterMap_eq_nil_iff.mpr fun o ho => ?_
    rcases mem_driveLed ho with ⟨state, rfl⟩ | ⟨value, rfl⟩
    · rfl
    · rfl
  cases h with
  | nothing _ => rfl
  | connect _ => rfl
  | acknowledged _ _ _ _ => rfl
  | updated _ _ _ => exact hdrive _
  | otherDevice _ _ _ => exact hdrive _

@[simp] theorem published_nil : published [] = [] := rfl

theorem published_append (out₁ out₂ : List Output) :
    published (out₁ ++ out₂) = published out₁ ++ published out₂ := List.filterMap_append ..

theorem published_setReq (env : ReqEnv) (shadow : DevShadow) :
    published (shadowSetReq env shadow).2.2 = if env.sent then [setReqMessage env shadow] else [] := by
  rw [shadowSetReq_out, send]
  cases env.sent <;> simp [published]

theorem published_connectReq (env : ReqEnv) (shadow : DevShadow) {topic : CString}
    (h : topic ≠ TOPIC_REQ_SET_SHADOW) : published (shadowConnectReq env topic shadow).2.2 = [] := by
  rw [shadowConnectReq_out, send]
  cases env.sent <;> simp [published, h]

theorem published_keepalive (env : KeepaliveEnv) (shadow : DevShadow) :
    published (keepaliveShadow env shadow).2 =
      if OnlineAnswered shadow ∧ shadow.flag.setShadow ≠ .rsp ∧ env.setReq.sent then
        [setReqMessage env.setReq shadow] else [] := by
  by_cases h : OnlineAnswered shadow
  · rw [keepaliveShadow_online h, published_append, published_connectReq _ _ (by decide),
      keepaliveRetry_eq]
    by_cases hflag : shadow.flag.setShadow = .rsp
    · simp [h, hflag]
    · rw [if_pos hflag, published_setReq]
      simp [h, hflag]
  · rw [keepaliveShadow_offline h, published_connectReq _ _ (by decide)]
    simp [h]

theorem published_func (env : FuncEnv) (dev : Device) : published (ledFuncTick env dev).2 = [] := by
  have htopic : TOPIC_REQ_CALL_FUNCTION ≠ TOPIC_REQ_SET_SHADOW := by decide
  unfold ledFuncTick funcCallReq send
  split_ifs <;> simp [published, htopic]

/-- **A report is made of the shadow after the step.** -/
theorem published_report {dev dev' : Device} {e : Event} {out : List Output} {message : Json}
    (h : deviceStep dev e = .ok (dev', out)) (hm : message ∈ published out) :
    ∃ env shadow, message = setReqMessage env shadow ∧ SameButStatus shadow dev'.ledShadow := by
  cases e with
  | message spi topicName payload =>
    rw [messageEffect_published (messageArrived_effect h)] at hm
    cases hm
  | monitorTick env =>
    rcases ledMonitorTick_eq_ok h with ⟨-, rfl⟩ | ⟨-, shadow, -, rfl, rfl⟩
    · cases hm
    · rw [published_setReq] at hm
      split_ifs at hm
      · exact ⟨env.req, shadow, List.mem_singleton.mp hm, _, _, shadowSetReq_shadow env.req shadow⟩
      · cases hm
  | keepaliveTick env =>
    obtain ⟨rfl, rfl⟩ := keepaliveTick_eq_ok h
    rw [published_keepalive] at hm
    split_ifs at hm
    · exact ⟨env.setReq, dev.ledShadow, List.mem_singleton.mp hm, keepaliveShadow_same env _⟩
    · cases hm
  | funcTick env =>
    obtain ⟨-, rfl⟩ := funcTick_eq_ok h
    rw [published_func] at hm
    cases hm

theorem setReqMessage_version (env : ReqEnv) (shadow : DevShadow) :
    cjsonGetObjectItem (setReqMessage env shadow) (.lit "version") =
      some (.num (.ofInt shadow.version)) := by
  rfl

theorem published_version {dev dev' : Device} {e : Event} {out : List Output} {message : Json}
    (h : deviceStep dev e = .ok (dev', out)) (hm : message ∈ published out) :
    cjsonGetObjectItem message (.lit "version") = some (.num (.ofInt dev'.ledShadow.version)) := by
  obtain ⟨env, shadow, rfl, flag, status, hs⟩ := published_report h hm
  rw [setReqMessage_version, hs]

/-- `state.reported.switch`. -/
def reportedSwitch (message : Json) : Option CString :=
  stringField (cjsonGetObjectItem (cjsonGetObjectItem message (.lit "state")) (.lit "reported"))
    (.lit "switch")

theorem setReqMessage_switch (env : ReqEnv) (shadow : DevShadow) :
    reportedSwitch (setReqMessage env shadow) = some shadow.state.reported.sw.str := by
  rfl

/-- **A report carries the reported switch**, which the step has not changed. -/
theorem published_switch {dev dev' : Device} {e : Event} {out : List Output} {message : Json}
    (h : deviceStep dev e = .ok (dev', out)) (hm : message ∈ published out) :
    reportedSwitch message = some dev.ledShadow.state.reported.sw.str := by
  obtain ⟨env, shadow, rfl, flag, status, hs⟩ := published_report h hm
  rw [setReqMessage_switch, ← (deviceStep_kept h).reported_sw, hs]

/-- The payload answers the request: its identity and its version, with status `200`. -/
def AnswerTo (message : Json) (payload : CString) : Prop :=
  match (cjsonParse payload).bind readAnswer with
  | none => False
  | some a =>
    cjsonGetObjectItem message (.lit "productKey") = some a.productKey ∧
      cjsonGetObjectItem message (.lit "deviceID") = some a.deviceID ∧
      cjsonGetObjectItem message (.lit "version") = some a.version ∧ a.statusCode.valueint = 200

instance (message : Json) (payload : CString) : Decidable (AnswerTo message payload) :=
  decidable_of_iff (((cjsonParse payload).bind readAnswer).any fun a =>
      cjsonGetObjectItem message (.lit "productKey") = some a.productKey ∧
        cjsonGetObjectItem message (.lit "deviceID") = some a.deviceID ∧
        cjsonGetObjectItem message (.lit "version") = some a.version ∧ a.statusCode.valueint = 200)
    (by unfold AnswerTo; cases (cjsonParse payload).bind readAnswer <;> simp)

theorem AnswerTo.exists_answer {env : ReqEnv} {shadow : DevShadow} {payload : CString}
    (h : AnswerTo (setReqMessage env shadow) payload) :
    ∃ root a, cjsonParse payload = some root ∧ readAnswer root = some a ∧
      a.productKey = .str shadow.productKey.str ∧ a.deviceID = .str shadow.deviceID.str ∧
      a.version = .num (.ofInt shadow.version) ∧ a.statusCode.valueint = 200 := by
  unfold AnswerTo at h
  cases hread : (cjsonParse payload).bind readAnswer with
  | none => rw [hread] at h; cases h
  | some a =>
    rw [hread] at h
    obtain ⟨root, hroot, ha⟩ := Option.bind_eq_some_iff.mp hread
    obtain ⟨hp, hd, hv, hs⟩ := h
    exact ⟨root, a, hroot, ha, (Option.some.inj hp).symm, (Option.some.inj hd).symm,
      (Option.some.inj hv).symm, hs⟩

end OasisEdge.System.Reports
