import OasisEdge.System.Heartbeat

/-! # Online means the platform said so last

The status is written by the entries of connection responses that name the device and have a string
state, and by the turns of the keepalive loop that declare the device offline. Each step is run
together with what was said about the device in it (`statusStep`), and the status is what was said
last (`exec_status`), cut to ten bytes. No longer string is cut to `online`, so a device that
considers itself online was called exactly that (`online_said`). -/

namespace OasisEdge.System.Presence

open OasisEdge.Lib.Chars OasisEdge.Lib.Checking OasisEdge.Lib.Runs OasisEdge.CJson.Value
open OasisEdge.Shadow.State OasisEdge.Shadow.Connect OasisEdge.Led.Driver
open OasisEdge.Sample.EdgeClient OasisEdge.System.Platform OasisEdge.System.Steps
open OasisEdge.System.Heartbeat

/-- What is said about the device: the state an entry of a response gives to it, or that the
keepalive loop declares it offline. -/
inductive Said
  | entry (state : CString)
  | declaredOffline
deriving DecidableEq

/-- The status that is stored then. -/
def Said.status : Said → CBuf LENGTH_STATUS
  | .entry state => snprintf LENGTH_STATUS state
  | .declaredOffline => snprintf LENGTH_STATUS DEV_OFFLINE

/-- What is said in a step. -/
def saidBy (dev : Device) : Event → List Said
  | .keepaliveTick _ => if OnlineAnswered dev.ledShadow then [] else [.declaredOffline]
  | e => (statesOf dev.ledShadow e).map .entry

/-- A step of the device, with what is said in it. -/
def statusStep (dev : Device) (e : Event) : Except Fault (Device × List Said) :=
  (deviceStep dev e).map fun r => (r.1, saidBy dev e)

theorem statusStep_eq_ok {dev dev' : Device} {e : Event} {said : List Said} :
    statusStep dev e = .ok (dev', said) ↔
      (∃ out, deviceStep dev e = .ok (dev', out)) ∧ said = saidBy dev e := by
  unfold statusStep
  rw [map_eq_ok]
  constructor
  · rintro ⟨⟨d, out⟩, hstep, h⟩
    obtain ⟨rfl, rfl⟩ := Prod.mk.inj h
    exact ⟨⟨out, hstep⟩, rfl⟩
  · rintro ⟨⟨out, hstep⟩, rfl⟩
    exact ⟨(dev', out), hstep, rfl⟩

/-- The status after something was said. -/
def lastStatus (status : CBuf LENGTH_STATUS) (said : List Said) : CBuf LENGTH_STATUS :=
  match said.getLast? with
  | none => status
  | some x => x.status

theorem lastStatus_append (status : CBuf LENGTH_STATUS) (xs ys : List Said) :
    lastStatus status (xs ++ ys) = lastStatus (lastStatus status xs) ys := by
  unfold lastStatus
  rw [List.getLast?_append]
  cases ys.getLast? <;> rfl

/-- The states of a response are said in their order. -/
theorem lastStatus_entries (status : CBuf LENGTH_STATUS) (states : List CString) :
    lastStatus status (states.map .entry) = statusAfter status states := by
  rw [statusAfter_eq, lastStatus, List.getLast?_map]
  cases states.getLast? <;> rfl

theorem keepaliveShadow_status (env : KeepaliveEnv) (dev : Device) :
    (keepaliveShadow env dev.ledShadow).1.status =
      lastStatus dev.ledShadow.status (saidBy dev (.keepaliveTick env)) := by
  simp only [saidBy]
  by_cases h : OnlineAnswered dev.ledShadow
  · rw [if_pos h, keepaliveShadow_online h, shadowConnectReq_shadow]
    show (keepaliveRetry env dev.ledShadow).1.status = dev.ledShadow.status
    rw [keepaliveRetry_eq]
    split_ifs
    · rw [shadowSetReq_shadow]
    · rfl
  · rw [if_neg h, keepaliveShadow_offline h, shadowConnectReq_shadow]
    rfl

/-- **The status after a step is what was said last.** -/
theorem deviceStep_status {dev dev' : Device} {e : Event} {out : List Output}
    (h : deviceStep dev e = .ok (dev', out)) :
    dev'.ledShadow.status = lastStatus dev.ledShadow.status (saidBy dev e) := by
  by_cases hk : IsKeepaliveTick e
  · cases e with
    | keepaliveTick env =>
      obtain ⟨rfl, -⟩ := keepaliveTick_eq_ok h
      exact keepaliveShadow_status env dev
    | message _ _ _ | monitorTick _ | funcTick _ => exact hk.elim
  · have hsaid : saidBy dev e = (statesOf dev.ledShadow e).map .entry := by
      cases e with
      | keepaliveTick env => exact absurd trivial hk
      | message _ _ _ | monitorTick _ | funcTick _ => rfl
    rw [hsaid, lastStatus_entries]
    exact (deviceStep_keepalive h hk).2

/-- **The status after a run is what was said last.** -/
theorem exec_status {es : List Event} : ∀ {dev dev' : Device} {said : List Said},
    exec statusStep dev es = .ok (dev', said) →
      dev'.ledShadow.status = lastStatus dev.ledShadow.status said := by
  induction es with
  | nil =>
    intro dev dev' said h
    obtain ⟨rfl, rfl⟩ := Prod.mk.inj (Except.ok.inj h)
    rfl
  | cons e es ih =>
    intro dev dev' said h
    obtain ⟨dev₁, s₁, ss, hstep, hrun, rfl⟩ := exec_cons_eq_ok.mp h
    obtain ⟨⟨out, hdev⟩, rfl⟩ := statusStep_eq_ok.mp hstep
    rw [lastStatus_append, ← deviceStep_status hdev]
    exact ih hrun

/-- What is stored as `online` was exactly that. -/
theorem said_online {x : Said} (h : x.status.str = DEV_ONLINE) : x = .entry DEV_ONLINE := by
  cases x with
  | entry state => rw [(str_snprintf_eq (by decide)).mp h]
  | declaredOffline =>
    have hoff : (Said.declaredOffline).status.str = DEV_OFFLINE := str_snprintf (by decide)
    rw [hoff] at h
    exact absurd h (by decide)

/-- **A device that considers itself online was said to be, last**, by an entry of a response that
names it. -/
theorem online_said {ledState : UInt8} {uuid : CBuf LENGTH_TOKEN} {unixTime : UInt64}
    {regs : UInt8 → UInt8} {es : List Event} {dev : Device} {said : List Said}
    (h : exec statusStep (ledInstall ledState uuid unixTime regs) es = .ok (dev, said))
    (honline : strcmp DEV_ONLINE dev.ledShadow.status.str = 0) :
    said.getLast? = some (.entry DEV_ONLINE) := by
  have hstatus := exec_status h
  rw [hstatus, strcmp_eq_zero, lastStatus] at honline
  cases hlast : said.getLast? with
  | none =>
    -- the status starts as the empty string
    have hempty : (ledInstall ledState uuid unixTime regs).ledShadow.status.str = .empty := rfl
    rw [hlast, hempty] at honline
    exact absurd honline (by decide)
  | some x =>
    rw [hlast] at honline
    rw [said_online honline.symm]

/-- The device is called offline, then another device and this one online. -/
def namedRun : List Event :=
  [.keepaliveTick ⟨sentEnv, sentEnv⟩,
    .message spiOk TOPIC_RSP_OFFLINE (connectText PRODUCTKEY (.lit "1") DEV_ONLINE),
    .message spiOk TOPIC_RSP_ONLINE onlineText]

theorem online_said_namedRun : ∃ dev said,
    exec statusStep (ledInstall LED_OFF (.zero _) 0 fun _ => 0) namedRun = .ok (dev, said) ∧
      said.length = 2 ∧ said.getLast? = some (.entry DEV_ONLINE) := by
  have hends : Ends (exec statusStep (ledInstall LED_OFF (.zero _) 0 fun _ => 0) namedRun)
      fun dev said => said.length = 2 ∧ strcmp DEV_ONLINE dev.ledShadow.status.str = 0 := by
    decide +kernel
  obtain ⟨dev, said, hrun, hlen, honline⟩ := hends
  exact ⟨dev, said, hrun, hlen, online_said hrun honline⟩

end OasisEdge.System.Presence
