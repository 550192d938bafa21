import OasisEdge.System.Platform
import OasisEdge.System.Steps

/-! # The variable `Led_Init` does not set

`Led_Init` names the state of the LED by a local variable that nothing sets, its call of
`Led_Get_State` being commented out. The name is `off` if the variable happens to hold `LED_OFF`, and
`on` otherwise, and it is all that is left of the variable (`ledInstall_congr`). Two contents with
one name make no difference; two with different names do: the monitor reports a device that reports
the LED off, and never one that reports it on (`sameBehaviour_iff`). -/

namespace OasisEdge.System.Uninitialised

open OasisEdge.Lib.Chars OasisEdge.Lib.Checking OasisEdge.Lib.Runs OasisEdge.Shadow.State
open OasisEdge.Led.Driver OasisEdge.Sample.EdgeClient OasisEdge.System.Platform

/-- What is seen of the device: the messages it publishes and its commands to the LED. -/
def isVisible : Output → Bool
  | .publish _ _ | .ledUpdateState _ | .spiWrite _ _ => true
  | .sendFailed _ _ | .destroy => false

/-- What is seen of a run. -/
def visible (r : Checked (Device × List Output)) : Checked (List Output) :=
  r.map fun r => r.2.filter isVisible

/-- The run of a device that is installed while the variable holds `ledState`. -/
def runFrom (ledState : UInt8) (uuid : CBuf LENGTH_TOKEN) (unixTime : UInt64) (regs : UInt8 → UInt8)
    (es : List Event) : Checked (Device × List Output) :=
  exec deviceStep (ledInstall ledState uuid unixTime regs) es

/-- Two contents of the variable make no difference, whatever the device then meets. -/
def SameBehaviour (a b : UInt8) : Prop :=
  ∀ uuid unixTime regs es,
    visible (runFrom a uuid unixTime regs es) = visible (runFrom b uuid unixTime regs es)

theorem stateName_congr {a b : UInt8} (h : a = LED_OFF ↔ b = LED_OFF) :
    stateName a = stateName b := by
  unfold stateName
  simp only [h]

/-- All that is left of the variable is the name. -/
theorem ledInstall_congr {a b : UInt8} (h : stateName a = stateName b) (uuid : CBuf LENGTH_TOKEN)
    (unixTime : UInt64) (regs : UInt8 → UInt8) :
    ledInstall a uuid unixTime regs = ledInstall b uuid unixTime regs := by
  unfold ledInstall ledInit
  rw [h]

/-- The device goes online and the monitor takes a turn. -/
def reportRun : List Event := [.message spiOk TOPIC_RSP_ONLINE onlineText, .monitorTick sentMonitor]

theorem reportRun_differs : visible (runFrom LED_OFF (.zero _) 0 (fun _ => 0) reportRun) ≠
    visible (runFrom LED_ON (.zero _) 0 (fun _ => 0) reportRun) := by
  decide +kernel

/-- A content that is not `LED_OFF` counts as `LED_ON`. -/
theorem runFrom_on {a : UInt8} (h : a ≠ LED_OFF) (uuid : CBuf LENGTH_TOKEN) (unixTime : UInt64)
    (regs : UInt8 → UInt8) (es : List Event) :
    runFrom a uuid unixTime regs es = runFrom LED_ON uuid unixTime regs es := by
  have hname : stateName a = stateName LED_ON :=
    stateName_congr (iff_of_false h (by decide))
  unfold runFrom
  rw [ledInstall_congr hname]

/-- **When the content of the variable makes no difference**: both contents are `LED_OFF`, or
neither is. -/
theorem sameBehaviour_iff (a b : UInt8) : SameBehaviour a b ↔ (a = LED_OFF ↔ b = LED_OFF) := by
  constructor
  · intro hsame
    have h := hsame (.zero _) 0 (fun _ => 0) reportRun
    constructor
    · rintro rfl
      by_contra hb
      rw [runFrom_on hb] at h
      exact reportRun_differs h
    · rintro rfl
      by_contra ha
      rw [runFrom_on ha] at h
      exact reportRun_differs h.symm
  · intro h uuid unixTime regs es
    unfold runFrom
    rw [ledInstall_congr (stateName_congr h)]

/-- **Two contents that make a difference**: the device whose variable held `LED_OFF` reports, the
other one stays silent. -/
theorem not_sameBehaviour : ¬ SameBehaviour 1 0 := fun hsame =>
  reportRun_differs (hsame (.zero _) 0 (fun _ => 0) reportRun)

end OasisEdge.System.Uninitialised
