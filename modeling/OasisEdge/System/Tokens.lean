import OasisEdge.System.Steps
import OasisEdge.Utils.Uuid

/-! # The tokens of the requests

The token of a request is what `TOOLS_Get_UUID` leaves in the array `uuid` of the builder, and the
monitor keeps one in the shadow (`Drawn`). In a run whose calls draw their tokens like this, every
message the device sends, or fails to send, carries a version-4 identifier (`exec_carriesToken`), and
so does the shadow in every state (`exec_token`). -/

namespace OasisEdge.System.Tokens

open OasisEdge.Lib.Chars OasisEdge.Lib.Runs OasisEdge.CJson.Value OasisEdge.CJson.Parse
open OasisEdge.App.Func OasisEdge.Shadow.State OasisEdge.Shadow.Connect OasisEdge.Shadow.Set
open OasisEdge.Led.Driver OasisEdge.Sample.EdgeClient OasisEdge.System.Steps OasisEdge.Utils.Uuid

/-! ### Drawing a token -/

/-- The token was built by `TOOLS_Get_UUID` in an array of its size. -/
def Drawn (token : CBuf LENGTH_TOKEN) : Prop :=
  ∃ (rand rand' : Stream' Int32) (buf buf' : Vector UInt8 LOG_LENGTH_UUID), NonNegative rand ∧
    toolsGetUUID rand buf = .ok (.success, buf', rand') ∧ token.str = .ofBytes buf'.toList

theorem Drawn.isUuidV4 {token : CBuf LENGTH_TOKEN} (h : Drawn token) : IsUuidV4 token.str := by
  obtain ⟨rand, rand', buf, buf', hrand, hcall, htoken⟩ := h
  obtain ⟨buf₁, rand₁, text, hcall', htext, hbegins⟩ := toolsGetUUID_follows hrand buf le_rfl
  obtain ⟨-, hbuf⟩ := Prod.mk.inj (Except.ok.inj (hcall.symm.trans hcall'))
  rw [htoken, (Prod.mk.inj hbuf).1]
  exact isUuidV4_of_begins htext hbegins

/-- **Every call draws a token**: what it builds fits into the array of a token. -/
theorem exists_drawn {rand : Stream' Int32} (hrand : NonNegative rand)
    (buf : Vector UInt8 LOG_LENGTH_UUID) : ∃ token buf' rand', Drawn token ∧
      toolsGetUUID rand buf = .ok (.success, buf', rand') ∧ token.str = .ofBytes buf'.toList := by
  obtain ⟨buf', rand', text, hcall, htext, hbegins⟩ := toolsGetUUID_follows hrand buf le_rfl
  have hlen := (isUuidV4_of_begins htext hbegins).length
  let token : CBuf LENGTH_TOKEN := ⟨.ofBytes buf'.toList, by rw [hlen]; decide⟩
  exact ⟨token, buf', rand', ⟨rand, rand', buf, buf', hrand, hcall, rfl⟩, hcall, rfl⟩

/-! ### Messages -/

/-- The message an operation sends, or fails to send. -/
def messageOf : Output → Option Json
  | .publish _ message | .sendFailed _ message => some message
  | .destroy | .ledUpdateState _ | .spiWrite _ _ => none

/-- The message of the operation, if it has one, carries a version-4 identifier. -/
def CarriesToken (o : Output) : Prop :=
  ∀ message, messageOf o = some message →
    ∃ token, cjsonGetObjectItem message (.lit "token") = some (.str token) ∧ IsUuidV4 token

theorem send_carriesToken {env : ReqEnv} {topic token : CString} {message : Json}
    (h : cjsonGetObjectItem message (.lit "token") = some (.str token)) (htoken : IsUuidV4 token) :
    ∀ o ∈ (send env topic message).2, CarriesToken o := by
  intro o ho message' hmessage
  have hsame : message' = message := by
    unfold send at ho
    split_ifs at ho
    · rw [List.mem_singleton.mp ho] at hmessage
      exact (Option.some.inj hmessage).symm
    · rcases List.mem_pair.mp ho with rfl | rfl
      · exact (Option.some.inj hmessage).symm
      · cases hmessage
  rw [hsame]
  exact ⟨token, h, htoken⟩

theorem setReq_carriesToken {env : ReqEnv} (shadow : DevShadow) (h : Drawn env.uuid) :
    ∀ o ∈ (shadowSetReq env shadow).2.2, CarriesToken o := by
  rw [shadowSetReq_out]
  exact send_carriesToken rfl h.isUuidV4

theorem connectReq_carriesToken {env : ReqEnv} (topic : CString) (shadow : DevShadow)
    (h : Drawn env.uuid) : ∀ o ∈ (shadowConnectReq env topic shadow).2.2, CarriesToken o := by
  rw [shadowConnectReq_out]
  exact send_carriesToken rfl h.isUuidV4

theorem callReq_carriesToken {env : ReqEnv} (payload : ℤ × ℤ) (h : Drawn env.uuid) :
    ∀ o ∈ (funcCallReq env payload).2, CarriesToken o :=
  send_carriesToken rfl h.isUuidV4

theorem driveLed_carriesToken (spi : SpiEnv) (dev : Device) :
    ∀ o ∈ (driveLed spi dev).2.2, CarriesToken o := by
  intro o ho message hmessage
  rcases mem_driveLed ho with ⟨state, rfl⟩ | ⟨value, rfl⟩
  · cases hmessage
  · cases hmessage

/-! ### Steps and runs -/

/-- The tokens the calls of a step return. -/
def tokensOf : Event → List (CBuf LENGTH_TOKEN)
  | .message _ _ _ => []
  | .monitorTick env => [env.uuid, env.req.uuid]
  | .keepaliveTick env => [env.setReq.uuid, env.connectReq.uuid]
  | .funcTick env => [env.req.uuid]

theorem messageEffect_carriesToken {spi : SpiEnv} {topicName payload : CString} {dev dev' : Device}
    {out : List Output} (h : MessageEffect spi topicName payload dev dev' out) :
    ∀ o ∈ out, CarriesToken o := by
  cases h with
  | nothing _ => simp
  | connect _ => simp
  | acknowledged _ _ _ _ => simp
  | updated _ _ _ => exact driveLed_carriesToken _ _
  | otherDevice _ _ _ => exact driveLed_carriesToken _ _

theorem keepalive_carriesToken {env : KeepaliveEnv} (shadow : DevShadow) (hset : Drawn env.setReq.uuid)
    (hconnect : Drawn env.connectReq.uuid) : ∀ o ∈ (keepaliveShadow env shadow).2, CarriesToken o := by
  by_cases h : OnlineAnswered shadow
  · rw [keepaliveShadow_online h]
    intro o ho
    rcases List.mem_append.mp ho with ho | ho
    · rw [keepaliveRetry_eq] at ho
      split_ifs at ho
      · exact setReq_carriesToken shadow hset o ho
      · cases ho
    · exact connectReq_carriesToken _ _ hconnect o ho
  · rw [keepaliveShadow_offline h]
    exact connectReq_carriesToken _ _ hconnect

/-- **Every message of a step** carries an identifier, if the step draws its tokens. -/
theorem deviceStep_carriesToken {dev dev' : Device} {e : Event} {out : List Output}
    (htokens : ∀ token ∈ tokensOf e, Drawn token) (h : deviceStep dev e = .ok (dev', out)) :
    ∀ o ∈ out, CarriesToken o := by
  cases e with
  | message spi topicName payload => exact messageEffect_carriesToken (messageArrived_effect h)
  | monitorTick env =>
    rcases ledMonitorTick_eq_ok h with ⟨-, rfl⟩ | ⟨-, shadow, -, -, rfl⟩
    · simp
    · exact setReq_carriesToken shadow (htokens _ (by simp [tokensOf]))
  | keepaliveTick env =>
    obtain ⟨-, rfl⟩ := keepaliveTick_eq_ok h
    exact keepalive_carriesToken _ (htokens _ (by simp [tokensOf])) (htokens _ (by simp [tokensOf]))
  | funcTick env =>
    obtain ⟨-, rfl⟩ := funcTick_eq_ok h
    unfold ledFuncTick
    split_ifs
    · exact callReq_carriesToken _ (htokens _ (by simp [tokensOf]))
    · simp
    · simp

/-- A step leaves the token of the shadow, or stores one it has drawn. -/
theorem deviceStep_token {dev dev' : Device} {e : Event} {out : List Output}
    (htokens : ∀ token ∈ tokensOf e, Drawn token) (htoken : Drawn dev.ledShadow.token)
    (h : deviceStep dev e = .ok (dev', out)) : Drawn dev'.ledShadow.token := by
  cases e with
  | message spi topicName payload =>
    have hsame : dev'.ledShadow.token = dev.ledShadow.token := by
      cases messageArrived_effect h with
      | nothing _ => rfl
      | connect _ =>
        obtain ⟨flag, status, hshadow⟩ := connectRspShadow_same payload topicName dev.ledShadow
        show (connectRspShadow _ _ _).token = _
        rw [hshadow]
      | acknowledged _ _ _ _ => rfl
      | updated _ _ _ => rw [driveLed_shadow]; rfl
      | otherDevice _ _ _ => rw [driveLed_shadow]
    rwa [hsame]
  | monitorTick env =>
    rcases ledMonitorTick_eq_ok h with ⟨rfl, -⟩ | ⟨-, shadow, hreport, rfl, -⟩
    · exact htoken
    · obtain ⟨-, rfl⟩ := monitorReport_eq_ok hreport
      show Drawn (shadowSetReq _ _).2.1.token
      rw [shadowSetReq_shadow]
      show Drawn (snprintf LENGTH_TOKEN env.uuid.str)
      rw [snprintf_str]
      exact htokens _ (by simp [tokensOf])
  | keepaliveTick env =>
    obtain ⟨rfl, -⟩ := keepaliveTick_eq_ok h
    obtain ⟨flag, status, hshadow⟩ := keepaliveShadow_same env dev.ledShadow
    show Drawn (keepaliveShadow env dev.ledShadow).1.token
    rw [hshadow]
    exact htoken
  | funcTick env =>
    obtain ⟨rfl, -⟩ := funcTick_eq_ok h
    rw [ledFuncTick_shadow]
    exact htoken

/-- Every step of the run draws its tokens. -/
def AllDrawn (es : List Event) : Prop := ∀ e ∈ es, ∀ token ∈ tokensOf e, Drawn token

/-- A condition on the events of a run, as one on its steps. -/
theorem AllDrawn.meets {es : List Event} (h : AllDrawn es) (dev : Device) :
    Meets deviceStep (fun _ e => ∀ token ∈ tokensOf e, Drawn token) dev es := by
  induction es generalizing dev with
  | nil => trivial
  | cons e es ih =>
    obtain ⟨he, hes⟩ := List.forall_mem_cons.mp h
    exact ⟨he, fun dev' _ _ => ih hes dev'⟩

/-- **Every message of a run** carries a version-4 identifier. -/
theorem exec_carriesToken {dev dev' : Device} {es : List Event} {out : List Output}
    (h : AllDrawn es) (hrun : exec deviceStep dev es = .ok (dev', out)) :
    ∀ o ∈ out, CarriesToken o :=
  exec_outputs (fun _ => True) CarriesToken
    (fun _ _ _ _ _ hC hstep => ⟨trivial, deviceStep_carriesToken hC hstep⟩) trivial (h.meets dev) hrun

/-- **The token of the shadow** after a run of an LED that was installed with one. -/
theorem exec_token {ledState : UInt8} {uuid : CBuf LENGTH_TOKEN} {unixTime : UInt64}
    {regs : UInt8 → UInt8} {dev : Device} {es : List Event} {out : List Output} (huuid : Drawn uuid)
    (h : AllDrawn es) (hrun : exec deviceStep (ledInstall ledState uuid unixTime regs) es =
      .ok (dev, out)) : IsUuidV4 dev.ledShadow.token.str := by
  have hstart : Drawn (ledInstall ledState uuid unixTime regs).ledShadow.token := by
    show Drawn (snprintf LENGTH_TOKEN uuid.str)
    rwa [snprintf_str]
  have hdrawn : Drawn dev.ledShadow.token :=
    exec_invariant (fun d => Drawn d.ledShadow.token)
      (fun _ _ _ _ htoken hC hstep => deviceStep_token hC htoken hstep) hstart (h.meets _) hrun
  exact hdrawn.isUuidV4

end OasisEdge.System.Tokens
