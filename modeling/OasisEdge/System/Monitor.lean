import OasisEdge.System.Platform
import OasisEdge.System.Reports

/-! # When the monitor reports

A turn of the monitor that has read the state of the LED (`sampledTick`). While the device is online
and its keepalive is answered, it should report the state exactly if that differs from the reported
switch (`ReportsChange`). The guard tests `0 == strcmp`, so it reports exactly the states that are
reported already: a change is never reported, and without a change each turn raises the version
(`sampledTick_same`, `sampledTick_differs`). So the law holds exactly for the turns taken while the
device is not online or its keepalive is not answered (`reportsChange_iff`), and for the runs with no
other turns (`monitorLaw_iff`). -/

namespace OasisEdge.System.Monitor

open OasisEdge.Lib.Chars OasisEdge.Lib.Checking OasisEdge.Lib.Runs OasisEdge.CJson.Value
open OasisEdge.Shadow.State OasisEdge.Shadow.Connect OasisEdge.Shadow.Set OasisEdge.Led.Driver
open OasisEdge.Sample.EdgeClient OasisEdge.System.Platform OasisEdge.System.Steps
open OasisEdge.System.Reports

/-! ### A turn with a state that was read -/

/-- A turn of the monitor in which `Led_Get_State` succeeds and gives `ledState`. -/
def sampledTick (ledState : UInt8) (env : MonitorEnv) (dev : Device) :
    Checked (Device × List Output) :=
  ledMonitorTick env { dev with monitor := ⟨ledState, .success⟩ }

/-- The state that was read is not the reported one. -/
def Differs (ledState : UInt8) (dev : Device) : Prop :=
  stateName ledState ≠ dev.ledShadow.state.reported.sw.str

instance (ledState : UInt8) (dev : Device) : Decidable (Differs ledState dev) := by
  unfold Differs; infer_instance

/-- The version goes up by one, and one report is published. -/
def Reported (dev dev' : Device) (out : List Output) : Prop :=
  dev'.ledShadow.version = dev.ledShadow.version + 1 ∧ (published out).length = 1

/-- **The law of a turn**: online and answered, it reports exactly a state that differs, and the
reported switch is the state then; any other turn leaves the shadow and publishes nothing. -/
structure ReportsChange (ledState : UInt8) (env : MonitorEnv) (dev : Device) : Prop where
  online : OnlineAnswered dev.ledShadow → ∃ dev' out, sampledTick ledState env dev = .ok (dev', out) ∧
    (Reported dev dev' out ↔ Differs ledState dev) ∧
    dev'.ledShadow.state.reported.sw.str = stateName ledState
  otherwise : ¬ (OnlineAnswered dev.ledShadow ∧ Differs ledState dev) →
    ∃ dev' out, sampledTick ledState env dev = .ok (dev', out) ∧
      dev'.ledShadow = dev.ledShadow ∧ published out = []

/-- The guard is the test of the other loops, and that the state is the reported one. -/
theorem monitorGuard_iff {ledState : UInt8} {dev : Device} :
    MonitorGuard ledState dev.ledShadow ↔ OnlineAnswered dev.ledShadow ∧ ¬ Differs ledState dev := by
  unfold MonitorGuard OnlineAnswered Differs
  rw [strcmp_eq_zero, strcmp_eq_zero, not_not]
  constructor
  · rintro ⟨hstatus, hsw, hflag⟩
    exact ⟨⟨hstatus, hflag⟩, hsw⟩
  · rintro ⟨⟨hstatus, hflag⟩, hsw⟩
    exact ⟨hstatus, hsw, hflag⟩

/-- A turn taken while the device is not online or not answered, or when the state differs, does
nothing. -/
theorem sampledTick_idle (ledState : UInt8) (env : MonitorEnv) {dev : Device}
    (h : ¬ (OnlineAnswered dev.ledShadow ∧ ¬ Differs ledState dev)) :
    sampledTick ledState env dev = .ok ({ dev with monitor := ⟨ledState, .success⟩ }, []) := by
  unfold sampledTick ledMonitorTick
  rw [if_neg (not_not.mpr rfl), if_neg fun hguard => h (monitorGuard_iff.mp hguard)]

/-- A change is passed over in silence. -/
theorem sampledTick_differs {ledState : UInt8} {dev : Device} (env : MonitorEnv)
    (h : Differs ledState dev) :
    sampledTick ledState env dev = .ok ({ dev with monitor := ⟨ledState, .success⟩ }, []) :=
  sampledTick_idle ledState env fun hboth => hboth.2 h

/-- Without a change the version goes up. -/
theorem sampledTick_same {ledState : UInt8} {env : MonitorEnv} {dev dev' : Device}
    {out : List Output} (hon : OnlineAnswered dev.ledShadow) (hsame : ¬ Differs ledState dev)
    (h : sampledTick ledState env dev = .ok (dev', out)) :
    dev'.ledShadow.version = dev.ledShadow.version + 1 := by
  unfold sampledTick ledMonitorTick at h
  rw [if_neg (not_not.mpr rfl), if_pos (monitorGuard_iff.mpr ⟨hon, hsame⟩)] at h
  obtain ⟨shadow, hreport, h⟩ := bind_eq_ok.mp h
  have hversion : shadow.version = dev.ledShadow.version + 1 := by
    rw [(monitorReport_eq_ok hreport).2]
  have hdev := congrArg (fun r => r.1.ledShadow) (Except.ok.inj h)
  have hsent : (shadowSetReq env.req shadow).2.1 = dev'.ledShadow := hdev
  rw [← hsent, shadowSetReq_shadow]
  exact hversion

/-- **A turn obeys the law** exactly if the device is not online, or its keepalive not answered. -/
theorem reportsChange_iff (ledState : UInt8) (env : MonitorEnv) (dev : Device) :
    ReportsChange ledState env dev ↔ ¬ OnlineAnswered dev.ledShadow := by
  constructor
  · intro h hon
    by_cases hdiff : Differs ledState dev
    · obtain ⟨dev', out, htick, hreport, -⟩ := h.online hon
      obtain ⟨rfl, rfl⟩ := Prod.mk.inj (Except.ok.inj
        ((sampledTick_differs env hdiff).symm.trans htick))
      have hnone := (hreport.mpr hdiff).2
      cases hnone
    · obtain ⟨dev', out, htick, hsame, -⟩ := h.otherwise fun hboth => hdiff hboth.2
      have hversion := sampledTick_same hon hdiff htick
      rw [hsame] at hversion
      omega
  · intro hoff
    have htick := sampledTick_idle ledState env fun hboth => hoff hboth.1
    exact ⟨fun hon => absurd hon hoff, fun _ => ⟨_, [], htick, rfl, rfl⟩⟩

/-! ### Runs -/

/-- What can happen to a device whose monitor reads the LED. -/
inductive Sampled
  | tick (ledState : UInt8) (env : MonitorEnv)
  | message (spi : SpiEnv) (topicName payload : CString)
  | keepaliveTick (env : KeepaliveEnv)
  | funcTick (env : FuncEnv)

/-- What a turn of the monitor did: the reports it published, and by how much the version went
up. -/
structure Turn where
  reports : ℕ
  growth : ℤ
deriving DecidableEq

/-- One step; its output is what the turn of the monitor did, if it is one. -/
def sampledStep (dev : Device) : Sampled → Checked (Device × List Turn)
  | .tick ledState env =>
    (sampledTick ledState env dev).map fun r =>
      (r.1, [⟨(published r.2).length, r.1.ledShadow.version - dev.ledShadow.version⟩])
  | .message spi topicName payload => (messageArrived spi topicName payload dev).map fun r => (r.1, [])
  | .keepaliveTick env => .ok ((ledKeepaliveTick env dev).1, [])
  | .funcTick env => .ok ((ledFuncTick env dev).1, [])

/-- A turn of the monitor obeys the law. -/
def TickReports (dev : Device) : Sampled → Prop
  | .tick ledState env => ReportsChange ledState env dev
  | _ => True

/-- A turn of the monitor is taken while the device is not online, or its keepalive not answered. -/
def TickOffline (dev : Device) : Sampled → Prop
  | .tick _ _ => ¬ OnlineAnswered dev.ledShadow
  | _ => True

instance (dev : Device) : (e : Sampled) → Decidable (TickOffline dev e)
  | .tick _ _ => inferInstanceAs (Decidable (¬ OnlineAnswered dev.ledShadow))
  | .message _ _ _ | .keepaliveTick _ | .funcTick _ => isTrue trivial

/-- Every turn of the monitor reads the same state. -/
def Constant (ledState : UInt8) (es : List Sampled) : Prop :=
  ∀ e ∈ es, ∀ s env, e = .tick s env → s = ledState

/-- The changes of a run in which the monitor reads one state: one if that is not reported yet. -/
def changes (ledState : UInt8) (dev : Device) : ℕ := if Differs ledState dev then 1 else 0

/-- **The law of a run**: each turn of the monitor obeys its law, and in a run with a constant state
there is at most one report for each change and the version does not grow further. -/
structure MonitorLaw (dev : Device) (es : List Sampled) : Prop where
  turns : Meets sampledStep TickReports dev es
  constant : ∀ ledState dev' os, Constant ledState es → exec sampledStep dev es = .ok (dev', os) →
    (os.map Turn.reports).sum ≤ changes ledState dev ∧
      (os.map Turn.growth).sum ≤ changes ledState dev

theorem tickReports_iff (dev : Device) (e : Sampled) : TickReports dev e ↔ TickOffline dev e := by
  cases e with
  | tick ledState env => exact reportsChange_iff ledState env dev
  | message _ _ _ | keepaliveTick _ | funcTick _ => exact Iff.rfl

theorem sampledStep_offline {dev dev' : Device} {e : Sampled} {os : List Turn}
    (hoff : TickOffline dev e) (h : sampledStep dev e = .ok (dev', os)) : ∀ x ∈ os, x = ⟨0, 0⟩ := by
  cases e with
  | tick ledState env =>
    have htick := sampledTick_idle ledState env fun hboth => hoff hboth.1
    obtain ⟨r, hr, h⟩ := map_eq_ok.mp h
    obtain rfl := Except.ok.inj (htick.symm.trans hr)
    obtain ⟨-, rfl⟩ := Prod.mk.inj h
    simp
  | message spi topicName payload =>
    obtain ⟨r, -, h⟩ := map_eq_ok.mp h
    obtain ⟨-, rfl⟩ := Prod.mk.inj h
    simp
  | keepaliveTick env =>
    obtain ⟨-, rfl⟩ := Prod.mk.inj (Except.ok.inj h)
    simp
  | funcTick env =>
    obtain ⟨-, rfl⟩ := Prod.mk.inj (Except.ok.inj h)
    simp

theorem sum_idle {os : List Turn} (h : ∀ x ∈ os, x = ⟨0, 0⟩) :
    (os.map Turn.reports).sum = 0 ∧ (os.map Turn.growth).sum = 0 := by
  have hos : os = List.replicate os.length ⟨0, 0⟩ := List.eq_replicate_of_mem h
  rw [hos]
  simp

/-- **A run obeys the law** exactly if no turn of the monitor is taken while the device is online and
its keepalive answered. -/
theorem monitorLaw_iff (dev : Device) (es : List Sampled) :
    MonitorLaw dev es ↔ Meets sampledStep TickOffline dev es := by
  have hturns : Meets sampledStep TickReports dev es ↔ Meets sampledStep TickOffline dev es :=
    meets_congr (fun _ => True) (fun _ _ _ _ _ _ => trivial)
      (fun dev e _ => tickReports_iff dev e) trivial
  constructor
  · intro h
    exact hturns.mp h.turns
  · intro hoff
    refine ⟨hturns.mpr hoff, fun ledState dev' os _ hrun => ?_⟩
    have hidle : ∀ x ∈ os, x = ⟨0, 0⟩ :=
      exec_outputs (fun _ => True) (fun x => x = ⟨0, 0⟩)
        (fun _ _ _ _ _ hC hstep => ⟨trivial, sampledStep_offline hC hstep⟩) trivial hoff hrun
    obtain ⟨hreports, hgrowth⟩ := sum_idle hidle
    rw [hreports, hgrowth]
    exact ⟨Nat.zero_le _, Int.natCast_nonneg _⟩

/-- The LED goes online, stays off, and is reported off again and again. -/
def steadyRun : List Sampled :=
  [.message spiOk TOPIC_RSP_ONLINE onlineText, .tick LED_OFF sentMonitor, .tick LED_OFF sentMonitor]

/-- **The version grows without a change**, and a change is not reported. -/
theorem not_monitorLaw_steadyRun :
    let led := ledInstall LED_OFF (.zero _) 0 fun _ => LED_OFF
    ¬ MonitorLaw led steadyRun ∧
      Ends (exec sampledStep led steadyRun) (fun _ os => os = [⟨1, 1⟩, ⟨1, 1⟩]) ∧
      Ends (exec sampledStep led [.message spiOk TOPIC_RSP_ONLINE onlineText,
        .tick LED_ON sentMonitor]) (fun dev os => Differs LED_ON dev ∧ os = [⟨0, 0⟩]) := by
  intro led
  have hsteady : Ends (exec sampledStep led steadyRun) fun _ os => os = [⟨1, 1⟩, ⟨1, 1⟩] := by
    decide +kernel
  refine ⟨fun h => ?_, hsteady, by decide +kernel⟩
  obtain ⟨dev', os, hrun, rfl⟩ := hsteady
  have hconst : Constant LED_OFF steadyRun := by
    intro e he s env heq
    subst heq
    simp only [steadyRun, List.mem_cons, List.not_mem_nil, or_false, reduceCtorEq, false_or,
      Sampled.tick.injEq, or_self] at he
    exact he.1
  have hle := (h.constant LED_OFF dev' _ hconst hrun).1
  exact absurd hle (by decide)

end OasisEdge.System.Monitor
