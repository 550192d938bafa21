import OasisEdge.System.Platform
import OasisEdge.System.Steps

/-! # The version never falls

The version of the shadow has two writers: the monitor adds one, and an accepted update stores the
version of the notification, which is an `int` and not behind the shadow (`version_le_max`). So the
version stays below `INT_MAX` plus the number of turns the monitor has taken, and the increment never
leaves the range of `long` (`exec_defined`). As no run lowers the version (`exec_kept`), a
notification behind any version the shadow ever had is behind the present one, and is refused
(`update_behind`). -/

namespace OasisEdge.System.Replay

open OasisEdge.Lib.Chars OasisEdge.Lib.Checking OasisEdge.Lib.Runs OasisEdge.CJson.Value
open OasisEdge.CJson.Parse OasisEdge.Shadow.State OasisEdge.Shadow.Connect OasisEdge.Shadow.Set
open OasisEdge.Shadow.Update OasisEdge.Led.Driver OasisEdge.Sample.EdgeClient
open OasisEdge.System.Platform OasisEdge.System.Steps

/-- The event is a turn of the monitor. -/
def isMonitorTick : Event → Bool
  | .monitorTick _ => true
  | _ => false

/-- How many turns the monitor takes. -/
def monitorTicks (es : List Event) : ℕ := es.countP isMonitorTick

/-- The handling of a message reaches no fault. -/
def HandledSafely (dev : Device) : Event → Prop
  | .message spi topicName payload => Defined (messageArrived spi topicName payload dev)
  | _ => True

instance (dev : Device) : (e : Event) → Decidable (HandledSafely dev e)
  | .message spi topicName payload =>
    inferInstanceAs (Decidable (Defined (messageArrived spi topicName payload dev)))
  | .monitorTick _ | .keepaliveTick _ | .funcTick _ => isTrue trivial

/-- The version a notification carries, as the handler reads it. -/
def decodedVersion : Event → Option ℤ
  | .message _ topicName payload =>
    if topicName = TOPIC_UPDATE_SHADOW then
      (cjsonGetObjectItem (cjsonParse payload) (.lit "version")).map Json.valueint
    else none
  | _ => none

/-! ### What a step does to the version -/

theorem messageEffect_version_le {spi : SpiEnv} {topicName payload : CString} {dev dev' : Device}
    {out : List Output} (h : MessageEffect spi topicName payload dev dev' out) :
    dev'.ledShadow.version ≤ max INT_MAX dev.ledShadow.version := by
  cases h with
  | nothing _ => exact le_max_right ..
  | connect _ =>
    obtain ⟨flag, status, hs⟩ := connectRspShadow_same payload topicName dev.ledShadow
    rw [hs]
    exact le_max_right ..
  | acknowledged _ _ _ _ => exact le_max_right ..
  | updated _ _ hacc =>
    obtain ⟨item, -, rfl⟩ := hacc.fresh
    have hint : item.valueint ≤ INT_MAX := (valueint_mem item).2
    rw [driveLed_shadow]
    exact hint.trans (le_max_left ..)
  | otherDevice _ _ _ =>
    rw [driveLed_shadow]
    exact le_max_right ..

/-- **A step raises the version** by one in a turn of the monitor, or to the version of an update,
which is an `int`. -/
theorem version_le_max {dev dev' : Device} {e : Event} {out : List Output}
    (h : deviceStep dev e = .ok (dev', out)) :
    dev'.ledShadow.version ≤ max INT_MAX (dev.ledShadow.version + monitorTicks [e]) := by
  cases e with
  | message spi topicName payload =>
    have hle := messageEffect_version_le (messageArrived_effect h)
    have hticks : monitorTicks [.message spi topicName payload] = 0 := rfl
    rw [hticks]
    simpa using hle
  | monitorTick env =>
    have hticks : monitorTicks [.monitorTick env] = 1 := rfl
    rw [hticks]
    rcases ledMonitorTick_eq_ok h with ⟨rfl, -⟩ | ⟨-, shadow, hrep, rfl, -⟩
    · omega
    · obtain ⟨-, rfl⟩ := monitorReport_eq_ok hrep
      rw [shadowSetReq_shadow]
      show dev.ledShadow.version + 1 ≤ _
      omega
  | keepaliveTick env =>
    obtain ⟨rfl, -⟩ := keepaliveTick_eq_ok h
    obtain ⟨flag, status, hs⟩ := keepaliveShadow_same env dev.ledShadow
    have hv : (keepaliveShadow env dev.ledShadow).1.version = dev.ledShadow.version := by rw [hs]
    show (keepaliveShadow env dev.ledShadow).1.version ≤ _
    omega
  | funcTick env =>
    obtain ⟨rfl, -⟩ := funcTick_eq_ok h
    rw [ledFuncTick_shadow]
    omega

theorem monitorTick_defined (env : MonitorEnv) {dev : Device} (h0 : 0 ≤ dev.ledShadow.version)
    (hmax : dev.ledShadow.version < LONG_MAX) : Defined (ledMonitorTick env dev) := by
  have hmin : LONG_MIN ≤ 0 := by decide
  have hincr : incrVersion dev.ledShadow.version = .ok (dev.ledShadow.version + 1) :=
    checkedInt_eq_ok.mpr ⟨by omega, by omega, rfl⟩
  unfold ledMonitorTick
  split_ifs
  · exact defined_ok _
  · refine defined_bind.mpr ⟨_, bind_eq_ok.mpr ⟨_, hincr, rfl⟩, defined_ok _⟩
  · exact defined_ok _

theorem deviceStep_defined {dev : Device} {e : Event} (hsafe : HandledSafely dev e)
    (h0 : 0 ≤ dev.ledShadow.version) (hmax : dev.ledShadow.version < LONG_MAX) :
    Defined (deviceStep dev e) := by
  cases e with
  | message spi topicName payload => exact hsafe
  | monitorTick env => exact monitorTick_defined env h0 hmax
  | keepaliveTick env => exact defined_ok _
  | funcTick env => exact defined_ok _

theorem update_behind {dev dev' : Device} {e : Event} {out : List Output} {w : ℤ}
    (h : deviceStep dev e = .ok (dev', out)) (hw : decodedVersion e = some w)
    (hlt : w < dev.ledShadow.version) : dev' = dev ∧ out = [] := by
  cases e with
  | message spi topicName payload =>
    simp only [decodedVersion] at hw
    split_ifs at hw with ht
    obtain ⟨item, hitem, rfl⟩ := Option.map_eq_some_iff.mp hw
    obtain ⟨root, hroot, -⟩ := Option.bind_eq_some_iff.mp hitem
    rw [hroot] at hitem
    change messageArrived spi topicName payload dev = .ok (dev', out) at h
    rw [ht, messageArrived_verdict hroot] at h
    obtain ⟨v, hv, h⟩ := bind_eq_ok.mp h
    obtain ⟨o, ho, hv⟩ := bind_eq_ok.mp hv
    have hnone : o = none := by
      rw [Option.eq_none_iff_forall_ne_some]
      rintro version rfl
      obtain ⟨-, hversion, hle⟩ := checkFresh_some.mp ho
      obtain rfl := Option.some.inj (hitem.symm.trans hversion)
      omega
    subst hnone
    obtain rfl := Except.ok.inj hv
    obtain ⟨rfl, rfl⟩ := Prod.mk.inj (Except.ok.inj h)
    exact ⟨rfl, rfl⟩
  | monitorTick env => cases hw
  | keepaliveTick env => cases hw
  | funcTick env => cases hw

/-- An accepted update leaves the version it carries. -/
theorem accepted_decoded {dev dev' : Device} {e : Event} {out : List Output} {v : ℤ}
    (h : deviceStep dev e = .ok (dev', out)) (hacc : acceptedUpdate dev e = some v) :
    decodedVersion e = some v ∧ dev'.ledShadow.version = v := by
  refine ⟨?_, accepted_version h hacc⟩
  cases e with
  | message spi topicName payload =>
    obtain ⟨ht, root, sw, swTimestamp, hroot, hupd⟩ := acceptedUpdate_message.mp hacc
    obtain ⟨item, hf, rfl⟩ := hupd.fresh
    have hitem : cjsonGetObjectItem (cjsonParse payload) (.lit "version") = some item := by
      rw [hroot]; exact hf.2.1
    simp only [decodedVersion, if_pos ht, hitem, Option.map_some]
  | monitorTick env => cases hacc
  | keepaliveTick env => cases hacc
  | funcTick env => cases hacc

/-! ### Runs -/

theorem monitorTicks_cons (e : Event) (es : List Event) :
    monitorTicks (e :: es) = monitorTicks [e] + monitorTicks es := by
  unfold monitorTicks
  rw [← List.countP_append]
  rfl

/-- **A run hits no overflow**: `INT_MAX` and the turns of the monitor bound the version. -/
theorem exec_defined {es : List Event} : ∀ {dev : Device} {k : ℕ}, 0 ≤ dev.ledShadow.version →
    dev.ledShadow.version ≤ INT_MAX + k → k + monitorTicks es < 2 ^ 62 →
      Meets deviceStep HandledSafely dev es → Defined (exec deviceStep dev es) := by
  induction es with
  | nil => intro dev k _ _ _ _; exact defined_ok _
  | cons e es ih =>
    intro dev k h0 hle hk hsafe
    rw [monitorTicks_cons] at hk
    have hmax : INT_MAX + 2 ^ 62 < LONG_MAX := by decide
    obtain ⟨⟨dev', o⟩, hstep⟩ := deviceStep_defined hsafe.1 h0 (by omega)
    have hkept := (deviceStep_kept hstep).version_le
    have hup := version_le_max hstep
    have hle' : dev'.ledShadow.version ≤ INT_MAX + (k + monitorTicks [e] : ℕ) := by
      push_cast
      omega
    obtain ⟨⟨t, os⟩, hrun⟩ := ih (h0.trans hkept) hle' (by omega) (hsafe.2 dev' o hstep)
    exact ⟨(t, o ++ os), exec_cons_eq_ok.mpr ⟨dev', o, os, hstep, hrun, rfl⟩⟩

/-- **The version never falls.** Any run of fewer than `2 ^ 62` turns of the monitor exists; take two
states of it and the step after the second one. The version has not fallen between the three states;
an accepted update leaves the version it carries; a notification behind the first state changes
nothing. -/
theorem version_never_falls {ledState : UInt8} {uuid : CBuf LENGTH_TOKEN} {unixTime : UInt64}
    {regs : UInt8 → UInt8} {es₁ es₂ : List Event} {e : Event}
    (hticks : monitorTicks (es₁ ++ (es₂ ++ [e])) < 2 ^ 62)
    (hsafe : Meets deviceStep HandledSafely (ledInstall ledState uuid unixTime regs)
      (es₁ ++ (es₂ ++ [e]))) :
    ∃ d₁ o₁ d₂ o₂ d₃ o₃,
      exec deviceStep (ledInstall ledState uuid unixTime regs) es₁ = .ok (d₁, o₁) ∧
      exec deviceStep d₁ es₂ = .ok (d₂, o₂) ∧ deviceStep d₂ e = .ok (d₃, o₃) ∧
      d₁.ledShadow.version ≤ d₂.ledShadow.version ∧ d₂.ledShadow.version ≤ d₃.ledShadow.version ∧
      (∀ v, acceptedUpdate d₂ e = some v →
        decodedVersion e = some v ∧ d₃.ledShadow.version = v) ∧
      ∀ w, decodedVersion e = some w → w < d₁.ledShadow.version → d₃ = d₂ ∧ o₃ = [] := by
  have h0 : (0 : ℤ) ≤ INT_MAX + (0 : ℕ) := by decide
  have hversion : (ledInstall ledState uuid unixTime regs).ledShadow.version = 0 := rfl
  have hdefined := exec_defined hversion.ge (hversion.trans_le h0) (by omega) hsafe
  obtain ⟨⟨t, os⟩, hrun⟩ := hdefined
  obtain ⟨d₁, o₁, os₁, h1, hrun, -⟩ := exec_append_eq_ok.mp hrun
  obtain ⟨d₂, o₂, os₂, h2, hrun, -⟩ := exec_append_eq_ok.mp hrun
  obtain ⟨d₃, o₃, os₃, h3, -, -⟩ := exec_cons_eq_ok.mp hrun
  have hle := (exec_kept h2).version_le
  refine ⟨d₁, o₁, d₂, o₂, d₃, o₃, h1, h2, h3, hle, (deviceStep_kept h3).version_le, ?_, ?_⟩
  · intro v hacc
    exact accepted_decoded h3 hacc
  · intro w hw hlt
    exact update_behind h3 hw (hlt.trans_le hle)

/-- The LED goes online and reports, and takes over version `5`. -/
def raisingRun : List Event :=
  [.message spiOk TOPIC_RSP_ONLINE onlineText, .monitorTick sentMonitor,
    .message spiOk TOPIC_UPDATE_SHADOW
      (notificationText PRODUCTKEY (.lit "1") (.lit "5") (.lit "on") (.lit "1"))]

/-- A notification of version `3`. -/
def behindUpdate : Event :=
  .message spiOk TOPIC_UPDATE_SHADOW
    (notificationText PRODUCTKEY (.lit "2") (.lit "3") (.lit "off") (.lit "2"))

theorem version_never_falls_raisingRun : ∃ d o,
    exec deviceStep (ledInstall LED_OFF (.zero _) 0 fun _ => 0) raisingRun = .ok (d, o) ∧
      d.ledShadow.version = 5 ∧ deviceStep d behindUpdate = .ok (d, []) := by
  have hends : Ends (exec deviceStep (ledInstall LED_OFF (.zero _) 0 fun _ => 0) raisingRun)
      fun d _ => d.ledShadow.version = 5 := by
    decide +kernel
  obtain ⟨d, o, hd, hv⟩ := hends
  have hticks : monitorTicks (raisingRun ++ ([] ++ [behindUpdate])) < 2 ^ 62 := by decide
  have hsafe : Meets deviceStep HandledSafely (ledInstall LED_OFF (.zero _) 0 fun _ => 0)
      (raisingRun ++ ([] ++ [behindUpdate])) := by
    decide +kernel
  obtain ⟨d₁, o₁, d₂, o₂, d₃, o₃, h1, h2, h3, -, -, -, hbehind⟩ :=
    version_never_falls hticks hsafe
  obtain ⟨rfl, -⟩ := Prod.mk.inj (Except.ok.inj (h1.symm.trans hd))
  obtain ⟨rfl, -⟩ := Prod.mk.inj (Except.ok.inj h2)
  have hlt : (3 : ℤ) < d₁.ledShadow.version := by rw [hv]; decide
  obtain ⟨rfl, rfl⟩ := hbehind 3 (by decide +kernel) hlt
  exact ⟨d₃, o₁, h1, hv, h3⟩

end OasisEdge.System.Replay
