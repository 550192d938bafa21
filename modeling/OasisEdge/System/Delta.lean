import OasisEdge.System.Platform
import OasisEdge.System.Steps

/-! # The delta attribute

`delta` tells whether the desired switch differs from the reported one: it is empty if they are
equal, and holds a switch otherwise (`Consistent`). The monitor computes it whenever it reports. An
update replaces the desired switch and leaves `delta` as it was, so `delta` is right after the update
exactly if it is empty where the new switch equals the reported one, and only there (`KeepsDelta`).
It is right in every state from the first update or report on if that is so of every update
(`alwaysConsistent_iff`). -/

namespace OasisEdge.System.Delta

open OasisEdge.Lib.Chars OasisEdge.Lib.Checking OasisEdge.Lib.Runs OasisEdge.CJson.Value
open OasisEdge.CJson.Parse OasisEdge.Shadow.State OasisEdge.Shadow.Connect OasisEdge.Shadow.Set
open OasisEdge.Shadow.Update OasisEdge.Led.Driver OasisEdge.Sample.EdgeClient
open OasisEdge.System.Platform OasisEdge.System.Steps

/-- The delta attribute agrees with the other two. -/
def Consistent (state : DevShadowState) : Prop :=
  if state.desired.sw.str = state.reported.sw.str then
    state.delta.sw.str = .empty ∧ state.delta.swTimestamp = 0
  else state.delta.sw.str ≠ .empty

instance (state : DevShadowState) : Decidable (Consistent state) := by
  unfold Consistent; infer_instance

/-- An empty delta has no time stamp. -/
def Stamped (state : DevShadowState) : Prop :=
  state.delta.sw.str = .empty → state.delta.swTimestamp = 0

/-- The switch of an update that a step accepts. -/
def acceptedSwitch (dev : Device) : Event → Option CString
  | .message _ topicName payload =>
    if topicName = TOPIC_UPDATE_SHADOW then
      (cjsonParse payload).bind fun root =>
        match readUpdate root dev.ledShadow with
        | .ok (.accepted sw _ _) => some sw
        | _ => none
    else none
  | _ => none

/-- The turn of the monitor publishes a report. -/
def Reports (dev : Device) : Event → Prop
  | .monitorTick env => dev.monitor.ret = .success ∧
      MonitorGuard dev.monitor.ledState dev.ledShadow ∧ env.req.sent = true
  | _ => False

instance (dev : Device) : (e : Event) → Decidable (Reports dev e)
  | .monitorTick env => inferInstanceAs (Decidable (dev.monitor.ret = .success ∧
      MonitorGuard dev.monitor.ledState dev.ledShadow ∧ env.req.sent = true))
  | .message _ _ _ | .keepaliveTick _ | .funcTick _ => isFalse id

/-- An update that is accepted, or a report. -/
def Checkpoint (dev : Device) (e : Event) : Prop := (acceptedSwitch dev e).isSome ∨ Reports dev e

instance (dev : Device) (e : Event) : Decidable (Checkpoint dev e) := by
  unfold Checkpoint; infer_instance

/-- The new switch of an update equals the reported one exactly if delta is empty. -/
def KeepsDelta (dev : Device) (e : Event) : Prop :=
  ∀ sw, acceptedSwitch dev e = some sw →
    ((snprintf LENGTH_SWITCH sw).str = dev.ledShadow.state.reported.sw.str ↔
      dev.ledShadow.state.delta.sw.str = .empty)

instance (dev : Device) (e : Event) : Decidable (KeepsDelta dev e) :=
  match h : acceptedSwitch dev e with
  | none => isTrue fun sw hsw => by rw [h] at hsw; cases hsw
  | some sw => decidable_of_iff
      ((snprintf LENGTH_SWITCH sw).str = dev.ledShadow.state.reported.sw.str ↔
        dev.ledShadow.state.delta.sw.str = .empty) (by simp [KeepsDelta, h])

/-! ### Steps -/

theorem acceptedSwitch_message {dev : Device} {spi : SpiEnv} {topicName payload sw : CString} :
    acceptedSwitch dev (.message spi topicName payload) = some sw ↔
      topicName = TOPIC_UPDATE_SHADOW ∧ ∃ root swTimestamp version, cjsonParse payload = some root ∧
        Accepts root dev.ledShadow sw swTimestamp version := by
  simp only [acceptedSwitch]
  by_cases ht : topicName = TOPIC_UPDATE_SHADOW
  · rw [if_pos ht, and_iff_right ht, Option.bind_eq_some_iff]
    refine exists_congr fun root => ?_
    constructor
    · rintro ⟨hroot, h⟩
      split at h
      · next sw' swTimestamp version hread =>
        obtain rfl := Option.some.inj h
        exact ⟨swTimestamp, version, hroot, readUpdate_accepted.mp hread⟩
      · cases h
    · rintro ⟨swTimestamp, version, hroot, hacc⟩
      rw [readUpdate_accepted.mpr hacc]
      exact ⟨hroot, rfl⟩
  · rw [if_neg ht]
    exact ⟨(fun h => by cases h), fun h => absurd h.1 ht⟩

theorem consistent_report (env : MonitorEnv) (ledState : UInt8) (shadow : DevShadow) :
    Consistent { shadow.state with
      reported := ⟨snprintf LENGTH_SWITCH (stateName ledState), env.reportedTime⟩
      delta := monitorDelta env (stateName ledState) (snprintf LENGTH_SWITCH (stateName ledState))
        shadow.state.desired.sw } := by
  have hname : (snprintf LENGTH_SWITCH (stateName ledState)).str ≠ .empty := by
    unfold stateName
    split_ifs <;> decide
  unfold Consistent monitorDelta
  simp only [ne_eq, strcmp_eq_zero]
  by_cases heq : shadow.state.desired.sw.str = (snprintf LENGTH_SWITCH (stateName ledState)).str
  · rw [if_pos heq, if_neg (not_not.mpr heq.symm)]
    exact ⟨rfl, rfl⟩
  · rw [if_neg heq, if_pos (Ne.symm heq)]
    exact hname

theorem Consistent.stamped {state : DevShadowState} (h : Consistent state) : Stamped state := by
  intro hempty
  unfold Consistent at h
  split_ifs at h
  · exact h.2
  · exact absurd hempty h

/-- **What a step does to the three attributes**: an accepted update replaces the desired one, a
report leaves them consistent, and other steps leave them alone. -/
inductive StateEffect (dev : Device) (e : Event) (state : DevShadowState) : Prop
  | updated {sw : CString} {swTimestamp : UInt64} (hacc : acceptedSwitch dev e = some sw)
      (hstate : state = { dev.ledShadow.state with
        desired := ⟨snprintf LENGTH_SWITCH sw, swTimestamp⟩ })
  | reported (hacc : acceptedSwitch dev e = none) (hstate : Consistent state)
  | same (hacc : ¬ Checkpoint dev e) (hstate : state = dev.ledShadow.state)

theorem not_checkpoint {dev : Device} {e : Event} (h : acceptedSwitch dev e = none)
    (hrep : ¬ Reports dev e) : ¬ Checkpoint dev e := by
  rintro (hsome | hrep')
  · rw [h] at hsome; cases hsome
  · exact hrep hrep'

theorem messageArrived_state {spi : SpiEnv} {topicName payload : CString} {dev dev' : Device}
    {out : List Output} (h : messageArrived spi topicName payload dev = .ok (dev', out)) :
    StateEffect dev (.message spi topicName payload) dev'.ledShadow.state := by
  cases hacc : acceptedSwitch dev (.message spi topicName payload) with
  | some sw =>
    obtain ⟨rfl, root, swTimestamp, version, hroot, hupd⟩ := acceptedSwitch_message.mp hacc
    rw [messageArrived_accepts hroot hupd] at h
    have hdev := (Prod.mk.inj (Except.ok.inj h)).1
    have hstate : dev'.ledShadow.state =
        { dev.ledShadow.state with desired := ⟨snprintf LENGTH_SWITCH sw, swTimestamp⟩ } := by
      rw [← hdev, driveLed_shadow]
      rfl
    exact .updated hacc hstate
  | none =>
    refine .same (not_checkpoint hacc id) ?_
    cases messageArrived_effect h with
    | nothing _ => rfl
    | connect _ =>
      obtain ⟨flag, status, hs⟩ := connectRspShadow_same payload topicName dev.ledShadow
      show (connectRspShadow payload topicName dev.ledShadow).state = _
      rw [hs]
    | acknowledged _ _ _ _ => rfl
    | updated htopic hroot hupd =>
      have hsome : acceptedSwitch dev (.message spi topicName payload) = some _ :=
        acceptedSwitch_message.mpr ⟨htopic, _, _, _, hroot, hupd⟩
      exact absurd (hacc.symm.trans hsome) (by simp)
    | otherDevice _ _ _ => rw [driveLed_shadow]

@[inherit_doc StateEffect]
theorem deviceStep_state {dev dev' : Device} {e : Event} {out : List Output}
    (h : deviceStep dev e = .ok (dev', out)) : StateEffect dev e dev'.ledShadow.state := by
  cases e with
  | message spi topicName payload => exact messageArrived_state h
  | monitorTick env =>
    change ledMonitorTick env dev = .ok (dev', out) at h
    unfold ledMonitorTick at h
    split_ifs at h with hret hguard
    · obtain ⟨rfl, -⟩ := Prod.mk.inj (Except.ok.inj h)
      exact .same (not_checkpoint rfl fun hrep => hret hrep.1) rfl
    · obtain ⟨shadow, hrep, h⟩ := bind_eq_ok.mp h
      obtain ⟨rfl, -⟩ := Prod.mk.inj (Except.ok.inj h)
      obtain ⟨-, rfl⟩ := monitorReport_eq_ok hrep
      refine .reported rfl ?_
      show Consistent (shadowSetReq env.req _).2.1.state
      rw [shadowSetReq_shadow]
      exact consistent_report env dev.monitor.ledState dev.ledShadow
    · obtain ⟨rfl, -⟩ := Prod.mk.inj (Except.ok.inj h)
      exact .same (not_checkpoint rfl fun hrep => hguard hrep.2.1) rfl
  | keepaliveTick env =>
    obtain ⟨rfl, -⟩ := keepaliveTick_eq_ok h
    obtain ⟨flag, status, hs⟩ := keepaliveShadow_same env dev.ledShadow
    refine .same (not_checkpoint rfl id) ?_
    show (keepaliveShadow env dev.ledShadow).1.state = _
    rw [hs]
  | funcTick env =>
    obtain ⟨rfl, -⟩ := funcTick_eq_ok h
    refine .same (not_checkpoint rfl id) ?_
    rw [ledFuncTick_shadow]

/-! ### Runs -/

/-- The device, and whether an update or a report has gone by. -/
structure Watched where
  dev : Device
  passed : Bool

/-- A step of the device, watched. -/
def watchStep (w : Watched) (e : Event) : Except Fault (Watched × List Output) :=
  (deviceStep w.dev e).map fun r => (⟨r.1, w.passed || decide (Checkpoint w.dev e)⟩, r.2)

theorem watchStep_eq_ok {w w' : Watched} {e : Event} {out : List Output} :
    watchStep w e = .ok (w', out) ↔ deviceStep w.dev e = .ok (w'.dev, out) ∧
      w'.passed = (w.passed || decide (Checkpoint w.dev e)) := by
  obtain ⟨dev', passed'⟩ := w'
  unfold watchStep
  rw [map_eq_ok]
  constructor
  · rintro ⟨⟨dev, o⟩, hstep, h⟩
    obtain ⟨hw, rfl⟩ := Prod.mk.inj h
    obtain ⟨rfl, rfl⟩ := Watched.mk.inj hw
    exact ⟨hstep, rfl⟩
  · rintro ⟨hstep, rfl⟩
    exact ⟨(dev', out), hstep, rfl⟩

/-- Delta is consistent, from the first update or report on. -/
def ConsistentNow (w : Watched) : Prop := w.passed = true → Consistent w.dev.ledShadow.state

/-- **Delta is consistent** in every state of the run, from the first update or report on. -/
def AlwaysConsistent (w : Watched) (es : List Event) : Prop := Always watchStep ConsistentNow w es

/-- The new switch of every update of the run equals the reported one exactly if delta is empty. -/
def KeepsDeltaStep (w : Watched) (e : Event) : Prop := KeepsDelta w.dev e

instance (w : Watched) (e : Event) : Decidable (KeepsDeltaStep w e) := by
  unfold KeepsDeltaStep; infer_instance

/-- What holds of a state so far. -/
structure Watching (w : Watched) : Prop where
  stamped : Stamped w.dev.ledShadow.state
  consistent : w.passed = true → Consistent w.dev.ledShadow.state

/-- Where delta has its form, it is right after an update exactly if the update keeps it. -/
theorem consistent_updated {state : DevShadowState} (hst : Stamped state) (sw : CBuf LENGTH_SWITCH)
    (swTimestamp : UInt64) : Consistent { state with desired := ⟨sw, swTimestamp⟩ } ↔
      (sw.str = state.reported.sw.str ↔ state.delta.sw.str = .empty) := by
  unfold Consistent
  by_cases heq : sw.str = state.reported.sw.str
  · simp only [heq, if_true, true_iff]
    exact and_iff_left_of_imp hst
  · simp only [heq, if_false, false_iff, ne_eq]

/-- **A step that keeps delta** leads to a state where it is right. -/
theorem watching_step {w w' : Watched} {e : Event} {out : List Output} (hw : Watching w)
    (hstep : watchStep w e = .ok (w', out)) (hk : KeepsDelta w.dev e) : Watching w' := by
  obtain ⟨hdev, hpassed⟩ := watchStep_eq_ok.mp hstep
  cases deviceStep_state hdev with
  | @updated sw swTimestamp hacc hstate =>
    have hcons : Consistent w'.dev.ledShadow.state := by
      rw [hstate, consistent_updated hw.stamped]
      exact hk sw hacc
    exact ⟨hcons.stamped, fun _ => hcons⟩
  | reported hacc hstate => exact ⟨hstate.stamped, fun _ => hstate⟩
  | same hno hstate =>
    rw [decide_eq_false hno, Bool.or_false] at hpassed
    refine ⟨by rw [hstate]; exact hw.stamped, fun hp => ?_⟩
    rw [hstate]
    exact hw.consistent (hpassed ▸ hp)

theorem watchStep_accepts {w : Watched} {e : Event} {sw : CString}
    (hacc : acceptedSwitch w.dev e = some sw) :
    ∃ w' out, watchStep w e = .ok (w', out) ∧ w'.passed = true := by
  have hcheck : Checkpoint w.dev e := Or.inl (by rw [hacc]; rfl)
  cases e with
  | message spi topicName payload =>
    obtain ⟨rfl, root, swTimestamp, version, hroot, hupd⟩ := acceptedSwitch_message.mp hacc
    have hstep : messageArrived spi TOPIC_UPDATE_SHADOW payload w.dev = .ok _ :=
      messageArrived_accepts hroot hupd
    refine ⟨⟨_, true⟩, _, watchStep_eq_ok.mpr ⟨hstep, ?_⟩, rfl⟩
    rw [decide_eq_true hcheck, Bool.or_true]
  | monitorTick env => cases hacc
  | keepaliveTick env => cases hacc
  | funcTick env => cases hacc

/-- An update keeps delta exactly if it leads to a state where delta is right. -/
theorem keepsDelta_iff {w : Watched} {e : Event} (hw : Watching w) :
    KeepsDeltaStep w e ↔ ∀ w' out, watchStep w e = .ok (w', out) → ConsistentNow w' := by
  constructor
  · intro hk w' out hstep
    exact (watching_step hw hstep hk).consistent
  · intro h sw hacc
    obtain ⟨w', out, hstep, hpassed⟩ := watchStep_accepts hacc
    have hcons : Consistent w'.dev.ledShadow.state := h w' out hstep hpassed
    cases deviceStep_state (watchStep_eq_ok.mp hstep).1 with
    | @updated sw' swTimestamp hacc' hstate =>
      obtain rfl := Option.some.inj (hacc.symm.trans hacc')
      rw [hstate, consistent_updated hw.stamped] at hcons
      exact hcons
    | reported hno _ => rw [hacc] at hno; cases hno
    | same hno _ => exact absurd (Or.inl (by rw [hacc]; rfl)) hno

/-- **When delta is consistent throughout a run** of the installed device: the new switch of every
update equals the reported one exactly if delta is empty before it. -/
theorem alwaysConsistent_iff (ledState : UInt8) (uuid : CBuf LENGTH_TOKEN) (unixTime : UInt64)
    (regs : UInt8 → UInt8) (es : List Event) :
    AlwaysConsistent ⟨ledInstall ledState uuid unixTime regs, false⟩ es ↔
      Meets watchStep KeepsDeltaStep ⟨ledInstall ledState uuid unixTime regs, false⟩ es := by
  refine always_iff_meets Watching (fun w hw => hw.consistent) (fun w e hw => keepsDelta_iff hw)
    (fun w e w' out hw hk hstep => watching_step hw hstep hk) ⟨fun _ => rfl, fun h => ?_⟩
  cases h

/-- The LED is installed, and told to switch on. -/
def installedOff : Watched := ⟨ledInstall LED_OFF (.zero _) 0 fun _ => 0, false⟩

@[inherit_doc installedOff]
def switchOn : Event :=
  .message spiOk TOPIC_UPDATE_SHADOW
    (notificationText PRODUCTKEY (.lit "1") (.lit "0") (.lit "on") (.lit "1"))

/-- **The first update leaves delta empty** although it desires another switch. -/
theorem not_alwaysConsistent_switchOn : ¬ AlwaysConsistent installedOff [switchOn] := by
  intro h
  have hends : Ends (exec watchStep installedOff [switchOn]) fun w _ =>
      w.passed = true ∧ ¬ Consistent w.dev.ledShadow.state := by
    decide +kernel
  obtain ⟨w, out, hrun, hpassed, hno⟩ := hends
  exact hno (h _ w out (List.prefix_refl _) hrun hpassed)

end OasisEdge.System.Delta
