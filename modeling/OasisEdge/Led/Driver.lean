import OasisEdge.App.Func
import OasisEdge.Shadow.Connect
import OasisEdge.Shadow.Set
import OasisEdge.Shadow.Update

/-! # The LED device

The functions of `oasis_led.c` over one `Device`: the shadow behind `ledShadow`, the flag of the
function call, the register map behind the SPI bus, and the locals of the monitor loop that live
from one turn to the next. A turn of each endless loop is a function (`ledMonitorTick`,
`ledKeepaliveTick`, `ledFuncTick`); its argument holds what the calls outside the program return in
that turn.

Each function gives the device afterwards and its effects in order. -/

namespace OasisEdge.Led.Driver

open OasisEdge.Lib.Chars OasisEdge.Lib.Checking OasisEdge.CJson.Value OasisEdge.App.Func
open OasisEdge.Shadow.State OasisEdge.Shadow.Connect OasisEdge.Shadow.Set OasisEdge.Shadow.Update

def PRODUCTKEY : CString := .lit "PhGITmeS"
def DEVICEID : CString := .lit "986753"
def LED_OFF : UInt8 := 1
def LED_ON : UInt8 := 0
def LED_REG : UInt8 := 0x34
def LED_STATE_MASK : UInt8 := 1

/-- The locals of `LED_Monitor_State` that outlive a turn of its loop. -/
structure Monitor where
  ledState : UInt8
  ret : Ret
deriving DecidableEq

/-- The device. -/
structure Device where
  ledShadow : DevShadow
  funcFlag : Flag
  monitor : Monitor
  regs : UInt8 → UInt8

/-! ### The hardware -/

/-- Whether the next `SPI_Read` and the next `SPI_Write` succeed. -/
structure SpiEnv where
  readOk : Bool
  writeOk : Bool

/-- `Led_Get_State`: the state read, or `none` for `ERROR`. -/
def ledGetState (spi : SpiEnv) (regs : UInt8 → UInt8) : Option UInt8 :=
  if spi.readOk then some (regs LED_REG &&& LED_STATE_MASK) else none

def ledUpdateState (spi : SpiEnv) (state : UInt8) (regs : UInt8 → UInt8) :
    Ret × (UInt8 → UInt8) × List Output :=
  let call := Output.ledUpdateState state
  if state ≠ LED_ON ∧ state ≠ LED_OFF then (.error, regs, [call])
  else
    let setValue := state
    if spi.readOk then
      let value := regs LED_REG &&& ~~~setValue ||| setValue
      if spi.writeOk then
        (.success, Function.update regs LED_REG value, [call, .spiWrite LED_REG value])
      else (.error, regs, [call, .spiWrite LED_REG value])
    else (.error, regs, [call])

theorem ledUpdateState_unknown {state : UInt8} (spi : SpiEnv) (regs : UInt8 → UInt8)
    (h : ¬ (state = LED_ON ∨ state = LED_OFF)) :
    ledUpdateState spi state regs = (.error, regs, [.ledUpdateState state]) :=
  if_pos (not_or.mp h)

theorem ledUpdateState_readFails {spi : SpiEnv} {state : UInt8} (regs : UInt8 → UInt8)
    (hs : state = LED_ON ∨ state = LED_OFF) (hr : ¬ spi.readOk = true) :
    ledUpdateState spi state regs = (.error, regs, [.ledUpdateState state]) := by
  have hknown : ¬ (state ≠ LED_ON ∧ state ≠ LED_OFF) := fun hne => hs.elim hne.1 hne.2
  unfold ledUpdateState
  dsimp only
  rw [if_neg hknown, if_neg hr]

theorem ledUpdateState_writeFails {spi : SpiEnv} {state : UInt8} (regs : UInt8 → UInt8)
    (hs : state = LED_ON ∨ state = LED_OFF) (hr : spi.readOk = true) (hw : ¬ spi.writeOk = true) :
    ledUpdateState spi state regs = (.error, regs,
      [.ledUpdateState state, .spiWrite LED_REG (regs LED_REG &&& ~~~state ||| state)]) := by
  have hknown : ¬ (state ≠ LED_ON ∧ state ≠ LED_OFF) := fun hne => hs.elim hne.1 hne.2
  unfold ledUpdateState
  dsimp only
  rw [if_neg hknown, if_pos hr, if_neg hw]

theorem ledUpdateState_completes {spi : SpiEnv} {state : UInt8} (regs : UInt8 → UInt8)
    (hs : state = LED_ON ∨ state = LED_OFF) (hr : spi.readOk = true) (hw : spi.writeOk = true) :
    ledUpdateState spi state regs =
      (.success, Function.update regs LED_REG (regs LED_REG &&& ~~~state ||| state),
        [.ledUpdateState state, .spiWrite LED_REG (regs LED_REG &&& ~~~state ||| state)]) := by
  have hknown : ¬ (state ≠ LED_ON ∧ state ≠ LED_OFF) := fun hne => hs.elim hne.1 hne.2
  unfold ledUpdateState
  dsimp only
  rw [if_neg hknown, if_pos hr, if_pos hw]

/-- `Led_Trans_State`: an unknown status leaves the state as it was. -/
def ledTransState (status : CString) (state : UInt8) : UInt8 :=
  if strcmp (.lit "on") status = 0 then LED_ON
  else if strcmp (.lit "off") status = 0 then LED_OFF
  else state

/-! ### The handlers -/

/-- A handler that works on the shadow alone. -/
def onShadow (dev : Device) (r : Checked (Ret × DevShadow)) : Checked (Device × List Output) := do
  let (_, shadow) ← r
  .ok ({ dev with ledShadow := shadow }, [])

def ledOnlineRsp (payload : CString) (dev : Device) : Checked (Device × List Output) :=
  onShadow dev (shadowConnectRsp payload TOPIC_RSP_ONLINE dev.ledShadow)

def ledOfflineRsp (payload : CString) (dev : Device) : Checked (Device × List Output) :=
  onShadow dev (shadowConnectRsp payload TOPIC_RSP_OFFLINE dev.ledShadow)

def ledKeepaliveRsp (payload : CString) (dev : Device) : Checked (Device × List Output) :=
  onShadow dev (shadowConnectRsp payload TOPIC_RSP_KEEPALIVE dev.ledShadow)

def ledSetShadowRsp (payload : CString) (dev : Device) : Checked (Device × List Output) :=
  onShadow dev (shadowSetRsp payload dev.ledShadow)

def ledFuncRsp (payload : CString) (dev : Device) : Checked (Device × List Output) :=
  match funcCallRsp payload with
  | .success => .ok ({ dev with funcFlag := .rsp }, [])
  | .error => .ok (dev, [])

/-- The hardware part of `LED_Update_Shadow`, after an update that returned `SUCCESS`: the LED is
touched if the desired switch differs from the reported one. -/
def driveLed (spi : SpiEnv) (dev : Device) : Ret × Device × List Output :=
  let state := dev.ledShadow.state
  if strcmp state.desired.sw.str state.reported.sw.str ≠ 0 then
    let (ret, regs, out) := ledUpdateState spi (ledTransState state.desired.sw.str 0) dev.regs
    (ret, { dev with regs := regs }, out)
  else (.success, dev, [])

theorem driveLed_same {spi : SpiEnv} {dev : Device}
    (h : dev.ledShadow.state.desired.sw.str = dev.ledShadow.state.reported.sw.str) :
    driveLed spi dev = (.success, dev, []) := by
  unfold driveLed
  simp only [ne_eq, strcmp_eq_zero]
  rw [if_neg (not_not.mpr h)]

theorem driveLed_differs {spi : SpiEnv} {dev : Device}
    (h : dev.ledShadow.state.desired.sw.str ≠ dev.ledShadow.state.reported.sw.str) :
    driveLed spi dev =
      ((ledUpdateState spi (ledTransState dev.ledShadow.state.desired.sw.str 0) dev.regs).1,
        { dev with regs := (ledUpdateState spi
          (ledTransState dev.ledShadow.state.desired.sw.str 0) dev.regs).2.1 },
        (ledUpdateState spi (ledTransState dev.ledShadow.state.desired.sw.str 0) dev.regs).2.2) := by
  unfold driveLed
  simp only [ne_eq, strcmp_eq_zero]
  rw [if_pos h]

theorem mem_driveLed {spi : SpiEnv} {dev : Device} {o : Output} (h : o ∈ (driveLed spi dev).2.2) :
    (∃ state, o = .ledUpdateState state) ∨ ∃ value, o = .spiWrite LED_REG value := by
  unfold driveLed ledUpdateState at h
  dsimp only at h
  split_ifs at h <;> simp only [List.mem_cons, List.not_mem_nil, or_false] at h
  · exact Or.inl ⟨_, h⟩
  · rcases h with h | h
    · exact Or.inl ⟨_, h⟩
    · exact Or.inr ⟨_, h⟩
  · rcases h with h | h
    · exact Or.inl ⟨_, h⟩
    · exact Or.inr ⟨_, h⟩
  · exact Or.inl ⟨_, h⟩

def ledUpdateShadow (spi : SpiEnv) (payload : CString) (dev : Device) :
    Checked (Ret × Device × List Output) := do
  match ← shadowUpdate payload dev.ledShadow with
  | (.error, shadow) => .ok (.error, { dev with ledShadow := shadow }, [])
  | (.success, shadow) => .ok (driveLed spi { dev with ledShadow := shadow })

/-! ### The loops -/

/-- What the calls of one turn of the monitor loop return: the token, the two readings of the clock
and what the request needs. -/
structure MonitorEnv where
  uuid : CBuf LENGTH_TOKEN
  reportedTime : UInt64
  deltaTime : UInt64
  req : ReqEnv

/-- The name of a state of the LED. -/
def stateName (ledState : UInt8) : CString := if ledState = LED_OFF then .lit "off" else .lit "on"

/-- The delta attribute the monitor stores. -/
def monitorDelta (env : MonitorEnv) (state : CString) (reported desired : CBuf LENGTH_SWITCH) :
    DevShadowAttribute :=
  if strcmp reported.str desired.str ≠ 0 then ⟨snprintf LENGTH_SWITCH state, env.deltaTime⟩
  else ⟨.zero _, 0⟩

/-- The assignments of the monitor before it sends. -/
def monitorReport (env : MonitorEnv) (state : CString) (shadow : DevShadow) :
    Checked DevShadow := do
  let version ← incrVersion shadow.version
  let sw := snprintf LENGTH_SWITCH state
  .ok { shadow with
    state := { shadow.state with
      reported := ⟨sw, env.reportedTime⟩
      delta := monitorDelta env state sw shadow.state.desired.sw }
    token := snprintf LENGTH_TOKEN env.uuid.str
    version := version }

/-- The condition under which the monitor reports. -/
def MonitorGuard (ledState : UInt8) (shadow : DevShadow) : Prop :=
  strcmp DEV_ONLINE shadow.status.str = 0 ∧
    strcmp (stateName ledState) shadow.state.reported.sw.str = 0 ∧ shadow.flag.keepalive = .rsp

instance (ledState : UInt8) (shadow : DevShadow) : Decidable (MonitorGuard ledState shadow) := by
  unfold MonitorGuard; infer_instance

/-- One turn of the loop of `LED_Monitor_State`. The call of `Led_Get_State` is commented out, so
`ledState` keeps its value, and so does a `ret` that is not `SUCCESS`, after which no turn does
anything. -/
def ledMonitorTick (env : MonitorEnv) (dev : Device) : Checked (Device × List Output) :=
  if dev.monitor.ret ≠ .success then .ok (dev, [])
  else if MonitorGuard dev.monitor.ledState dev.ledShadow then do
    let shadow ← monitorReport env (stateName dev.monitor.ledState) dev.ledShadow
    let (ret, shadow, out) := shadowSetReq env.req shadow
    .ok ({ dev with ledShadow := shadow, monitor := { dev.monitor with ret := ret } }, out)
  else .ok (dev, [])

/-- The test both the keepalive loop and the function-call loop make. -/
def OnlineAnswered (shadow : DevShadow) : Prop :=
  strcmp DEV_ONLINE shadow.status.str = 0 ∧ shadow.flag.keepalive = .rsp

instance (shadow : DevShadow) : Decidable (OnlineAnswered shadow) := by
  unfold OnlineAnswered; infer_instance

/-- What the calls of one turn of the keepalive loop return. -/
structure KeepaliveEnv where
  setReq : ReqEnv
  connectReq : ReqEnv

/-- The repetition of a report that was not answered. -/
def keepaliveRetry (env : KeepaliveEnv) (shadow : DevShadow) : DevShadow × List Output :=
  if shadow.flag.setShadow ≠ .rsp then
    let (_, shadow, out) := shadowSetReq env.setReq shadow
    (shadow, out)
  else (shadow, [])

/-- The assignments of the other branch: the device counts as offline. -/
def declareOffline (shadow : DevShadow) : DevShadow :=
  { shadow with
    flag := { shadow.flag with keepalive := .rsp }
    status := snprintf LENGTH_STATUS DEV_OFFLINE }

/-- One turn of the loop of `LED_Keepalive_Status` on the shadow. -/
def keepaliveShadow (env : KeepaliveEnv) (shadow : DevShadow) : DevShadow × List Output :=
  if OnlineAnswered shadow then
    let (shadow, out₁) := keepaliveRetry env shadow
    let (_, shadow, out₂) := shadowConnectReq env.connectReq TOPIC_REQ_KEEPALIVE shadow
    (shadow, out₁ ++ out₂)
  else
    let (_, shadow, out) := shadowConnectReq env.connectReq TOPIC_REQ_ONLINE (declareOffline shadow)
    (shadow, out)

/-- One turn of the loop of `LED_Keepalive_Status`. -/
def ledKeepaliveTick (env : KeepaliveEnv) (dev : Device) : Device × List Output :=
  let (shadow, out) := keepaliveShadow env dev.ledShadow
  ({ dev with ledShadow := shadow }, out)

/-- What the calls of one turn of the function-call loop return: two random numbers, and what the
request needs. -/
structure FuncEnv where
  rand₀ : ℕ
  rand₁ : ℕ
  req : ReqEnv

/-- One turn of the loop of `LED_Func_Req`. -/
def ledFuncTick (env : FuncEnv) (dev : Device) : Device × List Output :=
  if OnlineAnswered dev.ledShadow then
    if dev.funcFlag = .req then
      (dev, (funcCallReq env.req ((env.rand₀ % 128 : ℕ), (env.rand₁ % 128 : ℕ))).2)
    else ({ dev with funcFlag := .req }, [])
  else (dev, [])

/-! ### Installation -/

/-- `Led_Init` on the zeroed shadow. `ledState` is the content of a local variable that is never
set. -/
def ledInit (ledState : UInt8) (uuid : CBuf LENGTH_TOKEN) (unixTime : UInt64) : DevShadow :=
  { shadowInit with
    version := 0
    flag := ⟨.rsp, .rsp, .rsp, .rsp⟩
    productKey := snprintf LENGTH_PRODUCTKEY PRODUCTKEY
    deviceID := snprintf LENGTH_DEVICEID DEVICEID
    token := snprintf LENGTH_TOKEN uuid.str
    state := { shadowInit.state with
      reported := ⟨snprintf LENGTH_SWITCH (stateName ledState), unixTime⟩ } }

/-- The device after `LED_Install`, with the loops about to start. -/
def ledInstall (ledState : UInt8) (uuid : CBuf LENGTH_TOKEN) (unixTime : UInt64)
    (regs : UInt8 → UInt8) : Device where
  ledShadow := ledInit ledState uuid unixTime
  funcFlag := .req
  monitor := ⟨LED_OFF, .success⟩
  regs := regs

/-- The shadow carries the identity of the LED, and no time stamp. No step changes this: the time
stamp of the shadow is only read. -/
structure Installed (shadow : DevShadow) : Prop where
  productKey : shadow.productKey.str = PRODUCTKEY
  deviceID : shadow.deviceID.str = DEVICEID
  timestamp : shadow.timestamp.str = .empty

theorem installed_ledInit (ledState : UInt8) (uuid : CBuf LENGTH_TOKEN) (unixTime : UInt64) :
    Installed (ledInit ledState uuid unixTime) where
  productKey := str_snprintf (by decide)
  deviceID := str_snprintf (by decide)
  timestamp := rfl

end OasisEdge.Led.Driver
