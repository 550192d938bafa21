import OasisEdge.System.Platform
import OasisEdge.System.Reports

/-! # The LED and its shadow

The device together with the state the LED was last put in (`LedState`). An LED is put in a state by
the calls of `Led_Update_State` alone, which are taken to succeed; an output is emitted with the
state of the LED at that moment.

No step changes the reported switch (`deviceStep_kept`), so an update whose switch is the reported
one never drives the LED, and one with the other switch drives it away from what is reported for
good. From this:

* `UpdateRun.driven_iff`: the LED follows the desired switch through a run of updates exactly if
  none of them asks for the reported switch after one that asked for the other.
* `report_truthful`: what is reported is the state of the LED as long as no update drives it to the
  other one. -/

namespace OasisEdge.System.Actuation

open OasisEdge.Lib.Chars OasisEdge.Lib.Checking OasisEdge.Lib.Runs OasisEdge.CJson.Value
open OasisEdge.CJson.Parse OasisEdge.App.Func OasisEdge.Shadow.State OasisEdge.Shadow.Connect
open OasisEdge.Shadow.Set OasisEdge.Shadow.Update OasisEdge.Led.Driver OasisEdge.Sample.EdgeClient
open OasisEdge.System.Platform OasisEdge.System.Steps OasisEdge.System.Reports

/-! ### The system -/

/-- The device, and the state its LED was put in. -/
structure LedState where
  dev : Device
  led : UInt8

/-- The state of the LED after an effect. -/
def ledAfter (led : UInt8) : Output → UInt8
  | .ledUpdateState state => state
  | _ => led

/-- Each effect with the state of the LED at that moment. -/
def ledTrace (led : UInt8) : List Output → List (Output × UInt8)
  | [] => []
  | o :: out => (o, ledAfter led o) :: ledTrace (ledAfter led o) out

/-- A step of the device, with the LED. -/
def ledStep (s : LedState) (e : Event) : Except Fault (LedState × List (Output × UInt8)) :=
  (deviceStep s.dev e).map fun r => (⟨r.1, r.2.foldl ledAfter s.led⟩, ledTrace s.led r.2)

/-- The name of a state as a switch. -/
def Names (sw : CString) (led : UInt8) : Prop :=
  sw = .lit "on" ∧ led = LED_ON ∨ sw = .lit "off" ∧ led = LED_OFF

instance (sw : CString) (led : UInt8) : Decidable (Names sw led) := by unfold Names; infer_instance

/-- What the shadow reports is the state of the LED. -/
def Truthful (s : LedState) : Prop := Names s.dev.ledShadow.state.reported.sw.str s.led

instance (s : LedState) : Decidable (Truthful s) := by unfold Truthful; infer_instance

theorem Names.trans {sw : CString} {led : UInt8} (h : Names sw led) (k : UInt8) :
    ledTransState sw k = led := by
  rcases h with ⟨rfl, rfl⟩ | ⟨rfl, rfl⟩ <;> rfl

theorem names_trans {sw : CString} (h : sw = .lit "on" ∨ sw = .lit "off") (k : UInt8) :
    Names sw (ledTransState sw k) := by
  rcases h with rfl | rfl
  · exact Or.inl ⟨rfl, rfl⟩
  · exact Or.inr ⟨rfl, rfl⟩

theorem Names.inj {sw sw' : CString} {led : UInt8} (h : Names sw led) (h' : Names sw' led) :
    sw = sw' := by
  rcases h with ⟨rfl, rfl⟩ | ⟨rfl, rfl⟩ <;> rcases h' with ⟨rfl, h⟩ | ⟨rfl, h⟩
  · rfl
  · exact absurd h (by decide)
  · exact absurd h (by decide)
  · rfl

theorem ledStep_eq_ok {s s' : LedState} {e : Event} {os : List (Output × UInt8)} :
    ledStep s e = .ok (s', os) ↔ ∃ out, deviceStep s.dev e = .ok (s'.dev, out) ∧
      s'.led = out.foldl ledAfter s.led ∧ os = ledTrace s.led out := by
  obtain ⟨dev', led'⟩ := s'
  unfold ledStep
  rw [map_eq_ok]
  constructor
  · rintro ⟨⟨dev, out⟩, hstep, h⟩
    obtain ⟨hs, rfl⟩ := Prod.mk.inj h
    obtain ⟨rfl, rfl⟩ := LedState.mk.inj hs
    exact ⟨out, hstep, rfl, rfl⟩
  · rintro ⟨out, hstep, rfl, rfl⟩
    exact ⟨(dev', out), hstep, rfl⟩

theorem ledStep_reported {s s' : LedState} {e : Event} {os : List (Output × UInt8)}
    (h : ledStep s e = .ok (s', os)) :
    s'.dev.ledShadow.state.reported.sw = s.dev.ledShadow.state.reported.sw := by
  obtain ⟨out, hdev, -, -⟩ := ledStep_eq_ok.mp h
  exact (deviceStep_kept hdev).reported_sw

/-! ### Steps that leave the LED alone -/

/-- Effects without a command for the LED. -/
def Quiet (out : List Output) : Prop := ∀ o ∈ out, ∀ led, ledAfter led o = led

theorem quiet_nil : Quiet [] := by simp [Quiet]

theorem Quiet.append {xs ys : List Output} (hx : Quiet xs) (hy : Quiet ys) : Quiet (xs ++ ys) :=
  fun o ho => (List.mem_append.mp ho).elim (hx o) (hy o)

theorem quiet_send (env : ReqEnv) (topic : CString) (payload : Json) :
    Quiet (send env topic payload).2 := by
  unfold send
  split_ifs <;> simp [Quiet, ledAfter]

theorem Quiet.foldl {out : List Output} (h : Quiet out) (led : UInt8) :
    out.foldl ledAfter led = led := by
  induction out with
  | nil => rfl
  | cons o out ih =>
    rw [List.foldl_cons, h o (by simp)]
    exact ih fun x hx => h x (List.mem_cons_of_mem _ hx)

theorem Quiet.trace {out : List Output} (h : Quiet out) {led : UInt8} :
    ∀ x ∈ ledTrace led out, x.1 ∈ out ∧ x.2 = led := by
  induction out with
  | nil => simp [ledTrace]
  | cons o out ih =>
    intro x hx
    have ho := h o (by simp) led
    rw [ledTrace, ho] at hx
    rcases List.mem_cons.mp hx with rfl | hx
    · exact ⟨by simp, rfl⟩
    · obtain ⟨h1, h2⟩ := ih (fun y hy => h y (List.mem_cons_of_mem _ hy)) x hx
      exact ⟨List.mem_cons_of_mem _ h1, h2⟩

theorem quiet_keepalive (env : KeepaliveEnv) (shadow : DevShadow) :
    Quiet (keepaliveShadow env shadow).2 := by
  by_cases h : OnlineAnswered shadow
  · rw [keepaliveShadow_online h, keepaliveRetry_eq]
    refine Quiet.append ?_ (by rw [shadowConnectReq_out]; exact quiet_send _ _ _)
    split_ifs
    · rw [shadowSetReq_out]; exact quiet_send _ _ _
    · exact quiet_nil
  · rw [keepaliveShadow_offline h, shadowConnectReq_out]
    exact quiet_send _ _ _

theorem quiet_func (env : FuncEnv) (dev : Device) : Quiet (ledFuncTick env dev).2 := by
  unfold ledFuncTick
  split_ifs
  · exact quiet_send _ _ _
  · exact quiet_nil
  · exact quiet_nil

theorem quiet_monitor {env : MonitorEnv} {dev dev' : Device} {out : List Output}
    (h : ledMonitorTick env dev = .ok (dev', out)) : Quiet out := by
  rcases ledMonitorTick_eq_ok h with ⟨-, rfl⟩ | ⟨-, shadow, -, -, rfl⟩
  · exact quiet_nil
  · rw [shadowSetReq_out]; exact quiet_send _ _ _

/-! ### Steps that drive the LED -/

/-- The switch the shadow desires after an update, unless the update returns `ERROR`. -/
def desiredAfter (shadow : DevShadow) : Verdict → Option CString
  | .error => none
  | .ignored => some shadow.state.desired.sw.str
  | .accepted sw _ _ => some (snprintf LENGTH_SWITCH sw).str

/-- The switch the shadow desires when `LED_Update_Shadow` gets to drive the LED, if it does. -/
def drivenBy (shadow : DevShadow) : Event → Option CString
  | .message _ topicName payload =>
    if topicName = TOPIC_UPDATE_SHADOW then
      (cjsonParse payload).bind fun root => (readUpdate root shadow).toOption.bind (desiredAfter shadow)
    else none
  | _ => none

theorem drivenBy_update (spi : SpiEnv) (payload : CString) (shadow : DevShadow) :
    drivenBy shadow (.message spi TOPIC_UPDATE_SHADOW payload) = (cjsonParse payload).bind fun root =>
      (readUpdate root shadow).toOption.bind (desiredAfter shadow) := by
  simp only [drivenBy, if_true]

theorem driveLed_out (spi : SpiEnv) (dev : Device) (led : UInt8) :
    (driveLed spi dev).2.2.foldl ledAfter led =
      if dev.ledShadow.state.desired.sw.str = dev.ledShadow.state.reported.sw.str then led
      else ledTransState dev.ledShadow.state.desired.sw.str 0 := by
  by_cases h : dev.ledShadow.state.desired.sw.str = dev.ledShadow.state.reported.sw.str
  · rw [driveLed_same h, if_pos h]
    rfl
  · rw [driveLed_differs h, if_neg h]
    unfold ledUpdateState
    split_ifs <;> rfl

/-- An update drives the LED unless it is refused. -/
theorem update_led {spi : SpiEnv} {payload : CString} {dev dev' : Device} {out : List Output}
    (h : messageArrived spi TOPIC_UPDATE_SHADOW payload dev = .ok (dev', out)) (led : UInt8) :
    (drivenBy dev.ledShadow (.message spi TOPIC_UPDATE_SHADOW payload) = none ∧ Quiet out) ∨
      ∃ sw, drivenBy dev.ledShadow (.message spi TOPIC_UPDATE_SHADOW payload) = some sw ∧
        out.foldl ledAfter led =
          if sw = dev.ledShadow.state.reported.sw.str then led else ledTransState sw 0 := by
  rw [drivenBy_update]
  cases hroot : cjsonParse payload with
  | none =>
    rw [messageArrived_unparsed hroot] at h
    obtain ⟨-, rfl⟩ := Prod.mk.inj (Except.ok.inj h)
    exact Or.inl ⟨rfl, quiet_nil⟩
  | some root =>
    rw [messageArrived_verdict hroot] at h
    obtain ⟨v, hv, h⟩ := bind_eq_ok.mp h
    have hout : out = (afterVerdict spi dev v).2 := by rw [Except.ok.inj h]
    rw [Option.bind_some, hv, hout]
    cases v with
    | error => exact Or.inl ⟨rfl, quiet_nil⟩
    | ignored => exact Or.inr ⟨_, rfl, driveLed_out spi dev led⟩
    | accepted sw swTimestamp version => exact Or.inr ⟨_, rfl, driveLed_out spi _ led⟩

/-- **What a step does to the LED**: it is put in the state the desired switch stands for, unless
that switch is the reported one; other steps give it no command. -/
theorem deviceStep_led {dev dev' : Device} {e : Event} {out : List Output}
    (h : deviceStep dev e = .ok (dev', out)) (led : UInt8) :
    (drivenBy dev.ledShadow e = none ∧ Quiet out) ∨
      ∃ sw, drivenBy dev.ledShadow e = some sw ∧
        out.foldl ledAfter led =
          if sw = dev.ledShadow.state.reported.sw.str then led else ledTransState sw 0 := by
  cases e with
  | monitorTick env => exact Or.inl ⟨rfl, quiet_monitor h⟩
  | keepaliveTick env =>
    obtain ⟨-, rfl⟩ := keepaliveTick_eq_ok h
    exact Or.inl ⟨rfl, quiet_keepalive env dev.ledShadow⟩
  | funcTick env =>
    obtain ⟨-, rfl⟩ := funcTick_eq_ok h
    exact Or.inl ⟨rfl, quiet_func env dev⟩
  | message spi topicName payload =>
    by_cases ht : topicName = TOPIC_UPDATE_SHADOW
    · subst ht
      exact update_led h led
    · refine Or.inl ⟨by simp only [drivenBy, if_neg ht], ?_⟩
      cases messageArrived_effect h with
      | nothing _ => exact quiet_nil
      | connect _ => exact quiet_nil
      | acknowledged _ _ _ _ => exact quiet_nil
      | updated htopic _ _ => exact absurd htopic ht
      | otherDevice htopic _ _ => exact absurd htopic ht

theorem ledStep_led {s s' : LedState} {e : Event} {os : List (Output × UInt8)}
    (h : ledStep s e = .ok (s', os)) :
    (drivenBy s.dev.ledShadow e = none ∧ s'.led = s.led) ∨
      ∃ sw, drivenBy s.dev.ledShadow e = some sw ∧
        s'.led = if sw = s.dev.ledShadow.state.reported.sw.str then s.led else ledTransState sw 0 := by
  obtain ⟨out, hdev, hled, -⟩ := ledStep_eq_ok.mp h
  rcases deviceStep_led hdev s.led with ⟨hn, hq⟩ | ⟨sw, hsw, hout⟩
  · exact Or.inl ⟨hn, by rw [hled, hq.foldl]⟩
  · exact Or.inr ⟨sw, hsw, by rw [hled, hout]⟩

/-! ### The LED follows the desired switch -/

/-- The switch an update asks for. -/
def switchOf : Event → Option CString
  | .message _ topicName payload =>
    if topicName = TOPIC_UPDATE_SHADOW then
      (cjsonParse payload).bind fun root => (desiredSwitch root).bind Json.valuestring
    else none
  | _ => none

/-- An update is taken over and asks for one of the two states. -/
def OnOff : Checked Verdict → Prop
  | .ok (.accepted sw _ _) => sw = .lit "on" ∨ sw = .lit "off"
  | _ => False

instance : (v : Checked Verdict) → Decidable (OnOff v)
  | .ok (.accepted sw _ _) => inferInstanceAs (Decidable (sw = .lit "on" ∨ sw = .lit "off"))
  | .ok .error | .ok .ignored | .error _ => isFalse id

/-- Every update is of that kind. -/
def OnOffUpdate (s : LedState) : Event → Prop
  | .message _ topicName payload => topicName = TOPIC_UPDATE_SHADOW →
    ∃ root, cjsonParse payload = some root ∧ OnOff (readUpdate root s.dev.ledShadow)
  | _ => True

instance (payload : CString) (shadow : DevShadow) :
    Decidable (∃ root, cjsonParse payload = some root ∧ OnOff (readUpdate root shadow)) :=
  decidable_of_iff ((cjsonParse payload).any fun root => OnOff (readUpdate root shadow))
    (by simp [Option.any_eq_true])

instance (s : LedState) : (e : Event) → Decidable (OnOffUpdate s e)
  | .message _ topicName payload => inferInstanceAs (Decidable (topicName = TOPIC_UPDATE_SHADOW →
      ∃ root, cjsonParse payload = some root ∧ OnOff (readUpdate root s.dev.ledShadow)))
  | .monitorTick _ | .keepaliveTick _ | .funcTick _ => isTrue trivial

theorem OnOff.accepts {root : Json} {shadow : DevShadow} (h : OnOff (readUpdate root shadow)) :
    ∃ sw swTimestamp version, Accepts root shadow sw swTimestamp version ∧
      (sw = .lit "on" ∨ sw = .lit "off") := by
  cases hread : readUpdate root shadow with
  | error f => rw [hread] at h; cases h
  | ok v =>
    rw [hread] at h
    cases v with
    | error => cases h
    | ignored => cases h
    | accepted sw swTimestamp version => exact ⟨sw, swTimestamp, version, readUpdate_accepted.mp hread, h⟩

/-- After an update the LED has been told to take the state the update asks for. -/
def Obeys (s : LedState) (e : Event) : Prop :=
  ∀ s' os, ledStep s e = .ok (s', os) → ∀ sw, switchOf e = some sw → s'.led = ledTransState sw 0

/-- A run of accepted updates, with any turns of the loops and answers to requests in between, from
a device that reports the state of its LED. -/
structure UpdateRun where
  start : LedState
  events : List Event
  truthful : Truthful start
  updates : Meets ledStep OnOffUpdate start events
  runs : Defined (exec ledStep start events)

/-- The switch that is reported throughout the run. -/
def UpdateRun.reported (r : UpdateRun) : CString := r.start.dev.ledShadow.state.reported.sw.str

/-- After every update the LED has been told to take the state the update asks for. -/
def UpdateRun.Driven (r : UpdateRun) : Prop := Meets ledStep Obeys r.start r.events

/-- The switches the updates ask for, in order. -/
def UpdateRun.wanted (r : UpdateRun) : List CString := r.events.filterMap switchOf

theorem OnOffUpdate.cases {s s' : LedState} {e : Event} {os : List (Output × UInt8)}
    (hon : OnOffUpdate s e) (h : ledStep s e = .ok (s', os)) :
    (switchOf e = none ∧ s'.led = s.led) ∨
      ∃ sw, switchOf e = some sw ∧ (sw = .lit "on" ∨ sw = .lit "off") ∧
        s'.led = if sw = s.dev.ledShadow.state.reported.sw.str then s.led else ledTransState sw 0 := by
  by_cases hupd : ∃ spi payload, e = .message spi TOPIC_UPDATE_SHADOW payload
  · obtain ⟨spi, payload, rfl⟩ := hupd
    obtain ⟨root, hroot, honOff⟩ := hon rfl
    obtain ⟨sw, swTimestamp, version, hacc, hsw⟩ := honOff.accepts
    have hdriven : drivenBy s.dev.ledShadow (.message spi TOPIC_UPDATE_SHADOW payload) = some sw := by
      have hfits : (snprintf LENGTH_SWITCH sw).str = sw := by
        rcases hsw with rfl | rfl <;> exact str_snprintf (by decide)
      rw [drivenBy_update, hroot, Option.bind_some, readUpdate_accepted.mpr hacc]
      exact congrArg some hfits
    have hwant : switchOf (.message spi TOPIC_UPDATE_SHADOW payload) = some sw := by
      simp only [switchOf, if_true, hroot, Option.bind_some]
      exact hacc.desires.1
    rcases ledStep_led h with ⟨hn, -⟩ | ⟨sw', hsw', hled⟩
    · rw [hdriven] at hn; cases hn
    · obtain rfl := Option.some.inj (hdriven.symm.trans hsw')
      exact Or.inr ⟨sw, hwant, hsw, hled⟩
  · -- no update: nothing drives the LED
    have hnone : ∀ shadow, drivenBy shadow e = none ∧ switchOf e = none := by
      intro shadow
      cases e with
      | message spi topicName payload =>
        have ht : topicName ≠ TOPIC_UPDATE_SHADOW := by
          rintro rfl; exact hupd ⟨spi, payload, rfl⟩
        simp only [drivenBy, switchOf, if_neg ht, and_self]
      | monitorTick env => exact ⟨rfl, rfl⟩
      | keepaliveTick env => exact ⟨rfl, rfl⟩
      | funcTick env => exact ⟨rfl, rfl⟩
    rcases ledStep_led h with ⟨-, hled⟩ | ⟨sw, hsw, -⟩
    · exact Or.inl ⟨(hnone s.dev.ledShadow).2, hled⟩
    · rw [(hnone s.dev.ledShadow).1] at hsw; cases hsw

theorem trans_inj {a b : CString} (ha : a = .lit "on" ∨ a = .lit "off")
    (hb : b = .lit "on" ∨ b = .lit "off") (h : ledTransState a 0 = ledTransState b 0) : a = b := by
  have hn := names_trans ha 0
  rw [h] at hn
  exact hn.inj (names_trans hb 0)

section
variable {s t : LedState} {es : List Event} {os : List (Output × UInt8)} {sw₀ : CString}

/-- Once the LED has been driven away from what is reported, it follows exactly the updates that do
not ask for the reported switch. -/
theorem obeys_untruthful (h₀ : sw₀ = .lit "on" ∨ sw₀ = .lit "off")
    (hrep : s.dev.ledShadow.state.reported.sw.str = sw₀) (hled : s.led ≠ ledTransState sw₀ 0)
    (hon : Meets ledStep OnOffUpdate s es) (h : exec ledStep s es = .ok (t, os)) :
    Meets ledStep Obeys s es ↔ ∀ sw ∈ es.filterMap switchOf, sw ≠ sw₀ := by
  induction es generalizing s os with
  | nil => simp [Meets]
  | cons e es ih =>
    obtain ⟨s', o, os', hs, hx, -⟩ := exec_cons_eq_ok.mp h
    have hrep' : s'.dev.ledShadow.state.reported.sw.str = sw₀ := by
      rw [ledStep_reported hs]; exact hrep
    rw [meets_cons hs] at hon ⊢
    have hstep := hon.1.cases hs
    rw [hrep] at hstep
    rcases hstep with ⟨hn, hled'⟩ | ⟨sw, hsw, hsw', hled'⟩
    · rw [List.filterMap_cons_none hn, ← ih hrep' (by rw [hled']; exact hled) hon.2 hx]
      exact and_iff_right fun _ _ _ sw hsw => by rw [hn] at hsw; cases hsw
    · rw [List.filterMap_cons_some hsw, List.forall_mem_cons]
      by_cases heq : sw = sw₀
      · -- the update is skipped, and the LED stays in the other state
        rw [if_pos heq] at hled'
        refine ⟨fun hm => absurd (hm.1 s' o hs sw hsw) ?_, fun hm => absurd heq hm.1⟩
        rw [hled', heq]
        exact hled
      · rw [if_neg heq] at hled'
        have hne : s'.led ≠ ledTransState sw₀ 0 := by
          rw [hled']; exact fun h => heq (trans_inj hsw' h₀ h)
        rw [← ih hrep' hne hon.2 hx]
        refine and_congr_left fun _ => ⟨fun _ => heq, fun _ s'' o' hs' sw' hw' => ?_⟩
        obtain ⟨rfl, -⟩ := Prod.mk.inj (Except.ok.inj (hs.symm.trans hs'))
        obtain rfl := Option.some.inj (hsw.symm.trans hw')
        exact hled'

/-- As long as what is reported is the state of the LED, an update for the reported switch may be
skipped; the first one for the other switch ends this. -/
theorem obeys_truthful (hrep : s.dev.ledShadow.state.reported.sw.str = sw₀) (htrue : Truthful s)
    (hon : Meets ledStep OnOffUpdate s es) (h : exec ledStep s es = .ok (t, os)) :
    Meets ledStep Obeys s es ↔
      (es.filterMap switchOf).Pairwise fun sw sw' => sw' = sw₀ → sw = sw₀ := by
  induction es generalizing s os with
  | nil => simp [Meets]
  | cons e es ih =>
    obtain ⟨s', o, os', hs, hx, -⟩ := exec_cons_eq_ok.mp h
    have hnames : Names sw₀ s.led := by rw [← hrep]; exact htrue
    have h₀ : sw₀ = .lit "on" ∨ sw₀ = .lit "off" := hnames.imp And.left And.left
    have hrep' : s'.dev.ledShadow.state.reported.sw.str = sw₀ := by
      rw [ledStep_reported hs]; exact hrep
    rw [meets_cons hs] at hon ⊢
    have hobeys : ∀ sw, switchOf e = some sw → s'.led = ledTransState sw 0 → Obeys s e := by
      intro sw hsw hled s'' o' hs' sw' hw'
      obtain ⟨rfl, -⟩ := Prod.mk.inj (Except.ok.inj (hs.symm.trans hs'))
      obtain rfl := Option.some.inj (hsw.symm.trans hw')
      exact hled
    have hstep := hon.1.cases hs
    rw [hrep] at hstep
    rcases hstep with ⟨hn, hled'⟩ | ⟨sw, hsw, hsw', hled'⟩
    · have hnames' : Names sw₀ s'.led := by rw [hled']; exact hnames
      have htrue' : Truthful s' := by unfold Truthful; rw [hrep']; exact hnames'
      rw [List.filterMap_cons_none hn, ← ih hrep' htrue' hon.2 hx]
      exact and_iff_right fun _ _ _ sw hsw => by rw [hn] at hsw; cases hsw
    · rw [List.filterMap_cons_some hsw, List.pairwise_cons]
      by_cases heq : sw = sw₀
      · rw [if_pos heq] at hled'
        have hnames' : Names sw₀ s'.led := by rw [hled']; exact hnames
        have hfollow : s'.led = ledTransState sw 0 := by rw [heq, hnames'.trans]
        have htrue' : Truthful s' := by unfold Truthful; rw [hrep']; exact hnames'
        rw [← ih hrep' htrue' hon.2 hx]
        exact and_congr_left fun _ => ⟨fun _ _ _ _ => heq, fun _ => hobeys sw hsw hfollow⟩
      · rw [if_neg heq] at hled'
        have hne : s'.led ≠ ledTransState sw₀ 0 := by
          rw [hled']; exact fun h => heq (trans_inj hsw' h₀ h)
        rw [obeys_untruthful h₀ hrep' hne hon.2 hx, and_iff_right (hobeys sw hsw hled')]
        constructor
        · intro hall
          refine ⟨fun sw' hmem he => absurd he (hall sw' hmem), ?_⟩
          refine List.pairwise_of_forall_sublist fun {_ sw'} hsub he => absurd he (hall sw' ?_)
          exact hsub.subset (by simp)
        · rintro ⟨hfirst, -⟩ sw' hmem he
          exact heq (hfirst sw' hmem he)

end

/-- **When the LED follows the desired switch**: no update asks for the reported switch after one
that asked for the other. -/
theorem UpdateRun.driven_iff (r : UpdateRun) :
    r.Driven ↔ r.wanted.Pairwise fun sw sw' => sw' = r.reported → sw = r.reported := by
  obtain ⟨⟨t, os⟩, h⟩ := r.runs
  exact obeys_truthful rfl r.truthful r.updates h

/-- The LED and its freshly installed shadow, which reports it off. -/
def installedLed : LedState := ⟨ledInstall LED_OFF (.zero _) 0 fun _ => 1, LED_OFF⟩

/-- An update for the LED. -/
def updateTo (timestamp sw : CString) : Event :=
  .message spiOk TOPIC_UPDATE_SHADOW
    (notificationText PRODUCTKEY timestamp (.lit "0") sw timestamp)

/-- The LED is switched on and off again. -/
def onOffRun : UpdateRun where
  start := installedLed
  events := [updateTo (.lit "1") (.lit "on"), updateTo (.lit "2") (.lit "off")]
  truthful := by decide
  updates := by decide +kernel
  runs := by decide +kernel

/-- **The second update of this run is skipped**: the LED stays on. -/
theorem not_driven_onOffRun : ¬ onOffRun.Driven := by
  obtain ⟨⟨t, os⟩, h⟩ := onOffRun.runs
  rw [UpdateRun.Driven, obeys_truthful rfl onOffRun.truthful onOffRun.updates h]
  decide +kernel

/-! ### Reports of the state of the LED -/

/-- An update leaves the LED in the state that is reported: the switch it leaves desired, if the
update is not refused, stands for the same state as the reported one. -/
def KeepsLed (s : LedState) (e : Event) : Prop :=
  ∀ sw, drivenBy s.dev.ledShadow e = some sw →
    ledTransState sw 0 = ledTransState s.dev.ledShadow.state.reported.sw.str 0

instance (s : LedState) (e : Event) : Decidable (KeepsLed s e) :=
  match h : drivenBy s.dev.ledShadow e with
  | none => isTrue fun sw hsw => by rw [h] at hsw; cases hsw
  | some sw => decidable_of_iff
      (ledTransState sw 0 = ledTransState s.dev.ledShadow.state.reported.sw.str 0)
      (by simp [KeepsLed, h])

/-- An effect is truthful if a report it publishes names the state of the LED. -/
def TruthfulReport : Output × UInt8 → Prop
  | (.publish topic message, led) => topic = TOPIC_REQ_SET_SHADOW →
    ∃ sw, reportedSwitch message = some sw ∧ Names sw led
  | _ => True

instance : (x : Output × UInt8) → Decidable (TruthfulReport x)
  | (.publish topic message, led) => decidable_of_iff
      (topic = TOPIC_REQ_SET_SHADOW → (reportedSwitch message).any fun sw => Names sw led)
      (by simp [TruthfulReport, Option.any_eq_true])
  | (.sendFailed _ _, _) | (.destroy, _) | (.ledUpdateState _, _) | (.spiWrite _ _, _) => isTrue trivial

theorem KeepsLed.truthful {s s' : LedState} {e : Event} {os : List (Output × UInt8)}
    (hk : KeepsLed s e) (htrue : Truthful s) (h : ledStep s e = .ok (s', os)) : Truthful s' := by
  unfold Truthful
  rw [ledStep_reported h]
  rcases ledStep_led h with ⟨-, hled⟩ | ⟨sw, hsw, hled⟩
  · rw [hled]; exact htrue
  · by_cases heq : sw = s.dev.ledShadow.state.reported.sw.str
    · rw [hled, if_pos heq]; exact htrue
    · rw [hled, if_neg heq, hk sw hsw, htrue.trans]; exact htrue

/-- A step that reports gives the LED no command. -/
theorem quiet_of_published {dev dev' : Device} {e : Event} {out : List Output}
    (h : deviceStep dev e = .ok (dev', out)) (hp : published out ≠ []) : Quiet out := by
  rcases deviceStep_led h 0 with ⟨-, hq⟩ | ⟨sw, hsw, -⟩
  · exact hq
  · cases e with
    | message spi topicName payload =>
      exact absurd (messageEffect_published (messageArrived_effect h)) hp
    | monitorTick env => cases hsw
    | keepaliveTick env => cases hsw
    | funcTick env => cases hsw

theorem mem_published {out : List Output} {message : Json} :
    message ∈ published out ↔ .publish TOPIC_REQ_SET_SHADOW message ∈ out := by
  unfold published
  rw [List.mem_filterMap]
  constructor
  · rintro ⟨o, ho, h⟩
    cases o with
    | publish topic payload =>
      simp only at h
      split_ifs at h with ht
      obtain rfl := Option.some.inj h
      rw [ht] at ho
      exact ho
    | sendFailed _ _ | destroy | ledUpdateState _ | spiWrite _ _ => cases h
  · intro h
    exact ⟨_, h, if_pos rfl⟩

theorem mem_of_mem_ledTrace {out : List Output} {led : UInt8} {x : Output × UInt8}
    (h : x ∈ ledTrace led out) : x.1 ∈ out := by
  induction out generalizing led with
  | nil => cases h
  | cons o out ih =>
    rcases List.mem_cons.mp h with rfl | h
    · exact List.mem_cons_self
    · exact List.mem_cons_of_mem _ (ih h)

/-- **A step from a truthful device reports the state of the LED.** -/
theorem Truthful.report {s s' : LedState} {e : Event} {os : List (Output × UInt8)}
    (htrue : Truthful s) (h : ledStep s e = .ok (s', os)) : ∀ x ∈ os, TruthfulReport x := by
  obtain ⟨out, hdev, -, rfl⟩ := ledStep_eq_ok.mp h
  rintro ⟨o, led⟩ hx
  cases o with
  | publish topic message =>
    rintro rfl
    have hp : message ∈ published out := mem_published.mpr (mem_of_mem_ledTrace hx)
    have hq := quiet_of_published hdev (List.ne_nil_of_mem hp)
    refine ⟨_, published_switch hdev hp, ?_⟩
    rw [show led = s.led from (hq.trace _ hx).2]
    exact htrue
  | sendFailed _ _ | destroy | ledUpdateState _ | spiWrite _ _ => trivial

/-- **Reports are truthful** as long as no update drives the LED away from what is reported. -/
theorem report_truthful {s t : LedState} {es : List Event} {os : List (Output × UInt8)}
    (htrue : Truthful s) (hk : Meets ledStep KeepsLed s es) (h : exec ledStep s es = .ok (t, os)) :
    ∀ x ∈ os, TruthfulReport x :=
  exec_outputs Truthful TruthfulReport
    (fun _ _ _ _ hs hC hstep => ⟨hC.truthful hs hstep, hs.report hstep⟩) htrue hk h

/-- The LED goes online, is told to stay off, and reports. -/
def keptRun : List Event :=
  [.message spiOk TOPIC_RSP_ONLINE onlineText, updateTo (.lit "1") (.lit "off"),
    .monitorTick sentMonitor, .keepaliveTick ⟨sentEnv, sentEnv⟩]

theorem report_truthful_keptRun : ∃ t os, exec ledStep installedLed keptRun = .ok (t, os) ∧
    os.length = 3 ∧ ∀ x ∈ os, TruthfulReport x := by
  have hends : Ends (exec ledStep installedLed keptRun) fun _ os => os.length = 3 := by decide +kernel
  obtain ⟨t, os, h, hlen⟩ := hends
  exact ⟨t, os, h, hlen, report_truthful (by decide) (by decide +kernel) h⟩

/-- **A report that is not truthful**: the LED was switched on, and is reported off. -/
theorem report_untruthful : Truthful installedLed ∧
    Ends (exec ledStep installedLed [.message spiOk TOPIC_RSP_ONLINE onlineText,
      updateTo (.lit "1") (.lit "on"), .monitorTick sentMonitor])
      fun _ os => ∃ x ∈ os, ¬ TruthfulReport x := by
  decide +kernel

end OasisEdge.System.Actuation
