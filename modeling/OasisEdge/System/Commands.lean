import OasisEdge.System.Platform
import OasisEdge.System.Steps

/-! # What an update does to the hardware

`LED_Update_Shadow` first takes the notification over into the shadow, and then commands the LED if
the desired switch differs from the reported one. The command is translated from the switch into a
variable that starts as `0`, which is `LED_ON`; so a switch that is neither `on` nor `off` turns the
LED on (`ledTransState_unknown`), and the check of the state in `Led_Update_State` never refuses
one.

What was taken over stays when the command fails: the notification is the desired state, and the
reported state is as before (`ledUpdateShadow_error`). -/

namespace OasisEdge.System.Commands

open OasisEdge.Lib.Chars OasisEdge.Lib.Checking OasisEdge.CJson.Value OasisEdge.CJson.Parse
open OasisEdge.Shadow.State OasisEdge.Shadow.Update OasisEdge.Led.Driver
open OasisEdge.System.Platform OasisEdge.System.Steps

/-! ### The command -/

theorem ledTransState_unknown {sw : CString} (state : UInt8) (hon : sw ≠ .lit "on")
    (hoff : sw ≠ .lit "off") : ledTransState sw state = state := by
  unfold ledTransState
  simp only [strcmp_eq_zero]
  rw [if_neg (Ne.symm hon), if_neg (Ne.symm hoff)]

theorem ledTransState_known (sw : CString) :
    ledTransState sw 0 = LED_ON ∨ ledTransState sw 0 = LED_OFF := by
  unfold ledTransState
  split_ifs
  · exact Or.inl rfl
  · exact Or.inr rfl
  · exact Or.inl rfl

/-- The effects hold a write to the register of the LED. -/
def WritesLed (out : List Output) : Prop := ∃ value, .spiWrite LED_REG value ∈ out

theorem writesLed_ledUpdateState {state : UInt8} (spi : SpiEnv) (regs : UInt8 → UInt8)
    (hs : state = LED_ON ∨ state = LED_OFF) :
    WritesLed (ledUpdateState spi state regs).2.2 ↔ spi.readOk = true := by
  unfold WritesLed
  by_cases hr : spi.readOk = true
  · by_cases hw : spi.writeOk = true
    · rw [ledUpdateState_completes regs hs hr hw]
      simp [hr]
    · rw [ledUpdateState_writeFails regs hs hr hw]
      simp [hr]
  · rw [ledUpdateState_readFails regs hs hr]
    simp [hr]

/-- A command that returns `ERROR` leaves the registers; one that is known returns it only if an
access fails. -/
theorem ledUpdateState_error {state : UInt8} {spi : SpiEnv} {regs : UInt8 → UInt8}
    (hs : state = LED_ON ∨ state = LED_OFF) (h : (ledUpdateState spi state regs).1 = .error) :
    ¬ (spi.readOk = true ∧ spi.writeOk = true) ∧ (ledUpdateState spi state regs).2.1 = regs := by
  by_cases hr : spi.readOk = true
  · by_cases hw : spi.writeOk = true
    · rw [ledUpdateState_completes regs hs hr hw] at h
      cases h
    · rw [ledUpdateState_writeFails regs hs hr hw]
      exact ⟨fun hrw => hw hrw.2, rfl⟩
  · rw [ledUpdateState_readFails regs hs hr]
    exact ⟨fun hrw => hr hrw.1, rfl⟩

/-! ### Driving the LED -/

/-- Driving the LED writes to it if the switch is not the reported one and the register can be
read. -/
theorem writesLed_driveLed (spi : SpiEnv) (dev : Device) :
    WritesLed (driveLed spi dev).2.2 ↔
      dev.ledShadow.state.desired.sw.str ≠ dev.ledShadow.state.reported.sw.str ∧
        spi.readOk = true := by
  by_cases h : dev.ledShadow.state.desired.sw.str = dev.ledShadow.state.reported.sw.str
  · rw [driveLed_same h]
    simp [WritesLed, h]
  · rw [driveLed_differs h, writesLed_ledUpdateState spi dev.regs (ledTransState_known _)]
    exact (and_iff_right h).symm

theorem driveLed_commands (spi : SpiEnv) {dev : Device}
    (h : dev.ledShadow.state.desired.sw.str ≠ dev.ledShadow.state.reported.sw.str) :
    .ledUpdateState (ledTransState dev.ledShadow.state.desired.sw.str 0) ∈
      (driveLed spi dev).2.2 := by
  rw [driveLed_differs h]
  unfold ledUpdateState
  split_ifs <;> simp

/-- Driving the LED returns `ERROR` only if an access fails, and leaves the registers then. -/
theorem driveLed_error {spi : SpiEnv} {dev : Device} (h : (driveLed spi dev).1 = .error) :
    ¬ (spi.readOk = true ∧ spi.writeOk = true) ∧ (driveLed spi dev).2.1.regs = dev.regs := by
  by_cases hsw : dev.ledShadow.state.desired.sw.str = dev.ledShadow.state.reported.sw.str
  · rw [driveLed_same hsw] at h
    cases h
  · rw [driveLed_differs hsw] at h ⊢
    exact ledUpdateState_error (ledTransState_known _) h

theorem ledUpdateShadow_accepts (spi : SpiEnv) {payload sw : CString} {dev : Device} {root : Json}
    {swTimestamp : UInt64} {version : ℤ} (hroot : cjsonParse payload = some root)
    (hacc : Accepts root dev.ledShadow sw swTimestamp version) :
    ledUpdateShadow spi payload dev =
      .ok (driveLed spi { dev with ledShadow := takeOver dev.ledShadow sw swTimestamp version }) := by
  have hupdate : shadowUpdate payload dev.ledShadow =
      .ok (.success, takeOver dev.ledShadow sw swTimestamp version) := by
    unfold shadowUpdate
    rw [hroot]
    exact updateRoot_of_accepts hacc
  unfold ledUpdateShadow
  rw [hupdate]
  rfl

/-! ### Unknown switches -/

/-- The call reaches no fault and does not write to the LED. -/
def LeavesLed (spi : SpiEnv) (payload : CString) (dev : Device) : Prop :=
  ∃ ret dev' out, ledUpdateShadow spi payload dev = .ok (ret, dev', out) ∧ ¬ WritesLed out

theorem kept_ne {sw name : CString} (hname : name.length < 9) (h : sw ≠ name) :
    (snprintf LENGTH_SWITCH sw).str ≠ name := fun hkept =>
  h ((str_snprintf_eq hname).mp hkept)

/-- **An unknown switch leaves the LED alone** exactly if what is kept of it is the reported switch,
or the register of the LED cannot be read. Otherwise the LED is commanded to turn on. -/
theorem unknownSwitch_iff {payload sw : CString} {dev : Device} {root : Json}
    {swTimestamp : UInt64} {version : ℤ} (spi : SpiEnv) (hroot : cjsonParse payload = some root)
    (hacc : Accepts root dev.ledShadow sw swTimestamp version) (hon : sw ≠ .lit "on")
    (hoff : sw ≠ .lit "off") :
    (LeavesLed spi payload dev ↔
      sw.take 9 = dev.ledShadow.state.reported.sw.str ∨ spi.readOk = false) ∧
    (¬ LeavesLed spi payload dev → ∃ ret dev' out,
      ledUpdateShadow spi payload dev = .ok (ret, dev', out) ∧ .ledUpdateState LED_ON ∈ out) := by
  have hcall := ledUpdateShadow_accepts spi hroot hacc
  have hwrites : WritesLed (driveLed spi
      { dev with ledShadow := takeOver dev.ledShadow sw swTimestamp version }).2.2 ↔
        ¬ sw.take 9 = dev.ledShadow.state.reported.sw.str ∧ spi.readOk = true :=
    writesLed_driveLed spi _
  have hleaves : LeavesLed spi payload dev ↔
      sw.take 9 = dev.ledShadow.state.reported.sw.str ∨ spi.readOk = false := by
    rw [← Bool.not_eq_true, or_iff_not_and_not, not_not, ← hwrites]
    constructor
    · rintro ⟨ret, dev', out, h, hno⟩
      have hout := Except.ok.inj (hcall.symm.trans h)
      rw [hout]
      exact hno
    · intro hno
      exact ⟨_, _, _, hcall, hno⟩
  refine ⟨hleaves, fun hmoves => ?_⟩
  have hsw : (snprintf LENGTH_SWITCH sw).str ≠ dev.ledShadow.state.reported.sw.str :=
    fun h => hmoves (hleaves.mpr (Or.inl h))
  have htrans : ledTransState (snprintf LENGTH_SWITCH sw).str 0 = LED_ON :=
    ledTransState_unknown 0 (kept_ne (by decide) hon) (kept_ne (by decide) hoff)
  have hcommand : .ledUpdateState (ledTransState (snprintf LENGTH_SWITCH sw).str 0) ∈
      (driveLed spi
        { dev with ledShadow := takeOver dev.ledShadow sw swTimestamp version }).2.2 :=
    driveLed_commands spi hsw
  rw [htrans] at hcommand
  exact ⟨_, _, _, hcall, hcommand⟩

/-- A current notification for the LED with a switch it does not know. -/
def dimText : CString := notificationText PRODUCTKEY (.lit "1") (.lit "0") (.lit "dim") (.lit "1")

/-- The installed LED, turned off. -/
def darkLed : Device := ledInstall LED_OFF (.zero _) 0 fun _ => 1

theorem accepts_dimText : ∃ root, cjsonParse dimText = some root ∧
    Accepts root darkLed.ledShadow (.lit "dim") 1 0 := by
  have hparsed : cjsonParse dimText =
      some (notificationRoot PRODUCTKEY (.lit "1") 0 (.lit "dim") 1) := by decide +kernel
  refine ⟨_, hparsed, ⟨_, ⟨⟨_, rfl, by decide⟩, rfl, by decide⟩, by decide⟩, ⟨rfl, rfl⟩, rfl, by decide⟩

/-- With a bus that cannot be read. -/
theorem unknownSwitch_iff_unread : LeavesLed ⟨false, true⟩ dimText darkLed := by
  obtain ⟨root, hroot, hacc⟩ := accepts_dimText
  exact (unknownSwitch_iff ⟨false, true⟩ hroot hacc (by decide) (by decide)).1.mpr (Or.inr rfl)

/-- **A switch that is neither on nor off turns the LED on.** -/
theorem not_leavesLed_dimText : ¬ LeavesLed spiOk dimText darkLed := by
  obtain ⟨root, hroot, hacc⟩ := accepts_dimText
  rintro ⟨ret, dev', out, h, hno⟩
  have hcall := ledUpdateShadow_accepts spiOk hroot hacc
  have hout := Except.ok.inj (hcall.symm.trans h)
  have hwrites : WritesLed (driveLed spiOk
      { darkLed with ledShadow := takeOver darkLed.ledShadow (.lit "dim") 1 0 }).2.2 :=
    (writesLed_driveLed spiOk _).mpr ⟨by decide, rfl⟩
  rw [hout] at hwrites
  exact hno hwrites

/-! ### Updates that fail -/

/-- The fields an update takes over are as they were. -/
def SameDesired (shadow shadow' : DevShadow) : Prop :=
  shadow'.state.desired = shadow.state.desired ∧ shadow'.version = shadow.version ∧
    shadow'.flag.setShadow = shadow.flag.setShadow

instance (shadow shadow' : DevShadow) : Decidable (SameDesired shadow shadow') := by
  unfold SameDesired; infer_instance

/-- The notification is one that `SHADOW_Update` takes over. -/
def Accepted (payload : CString) (shadow : DevShadow) (sw : CString) (swTimestamp : UInt64)
    (version : ℤ) : Prop :=
  ∃ root, cjsonParse payload = some root ∧ Accepts root shadow sw swTimestamp version

/-- A call that reaches no fault: what `SHADOW_Update` does, and then what the LED does. -/
theorem ledUpdateShadow_eq_ok {spi : SpiEnv} {payload : CString} {dev : Device}
    {r : Ret × Device × List Output} (h : ledUpdateShadow spi payload dev = .ok r) :
    ∃ ret shadow, shadowUpdate payload dev.ledShadow = .ok (ret, shadow) ∧
      r = match ret with
        | .error => (.error, { dev with ledShadow := shadow }, [])
        | .success => driveLed spi { dev with ledShadow := shadow } := by
  obtain ⟨⟨ret, shadow⟩, hupdate, h⟩ := bind_eq_ok.mp h
  refine ⟨ret, shadow, hupdate, ?_⟩
  rcases ret with _ | _
  · exact (Except.ok.inj h).symm
  · exact (Except.ok.inj h).symm

theorem ledUpdateShadow_shadow {spi : SpiEnv} {payload : CString} {dev : Device}
    {r : Ret × Device × List Output} (h : ledUpdateShadow spi payload dev = .ok r) :
    ∃ ret, shadowUpdate payload dev.ledShadow = .ok (ret, r.2.1.ledShadow) := by
  obtain ⟨ret, shadow, hupdate, rfl⟩ := ledUpdateShadow_eq_ok h
  refine ⟨ret, ?_⟩
  rcases ret with _ | _
  · dsimp only
    rw [driveLed_shadow]
    exact hupdate
  · exact hupdate

theorem ledUpdateShadow_regs {spi : SpiEnv} {payload : CString} {dev dev' : Device}
    {out : List Output} (h : ledUpdateShadow spi payload dev = .ok (.error, dev', out)) :
    dev'.regs = dev.regs := by
  obtain ⟨ret, shadow, -, hcall⟩ := ledUpdateShadow_eq_ok h
  rcases ret with _ | _
  · have herror : (driveLed spi { dev with ledShadow := shadow }).1 = .error :=
      congrArg Prod.fst hcall.symm
    have hdev : (driveLed spi { dev with ledShadow := shadow }).2.1 = dev' :=
      congrArg (fun r => r.2.1) hcall.symm
    rw [← hdev]
    exact (driveLed_error herror).2
  · have hdev : dev' = { dev with ledShadow := shadow } := congrArg (fun r => r.2.1) hcall
    rw [hdev]

/-- **What stays of an update that fails.** A notification that is not taken over leaves the shadow
as it was. One that is taken over fails in the hardware; the shadow is then the one with the desired
state of the notification, and the rest of it, the reported state among it, is as before. The
registers are as before in both cases. -/
theorem ledUpdateShadow_error {spi : SpiEnv} {payload : CString} {dev dev' : Device}
    {out : List Output} (h : ledUpdateShadow spi payload dev = .ok (.error, dev', out)) :
    ((∀ sw swTimestamp version, ¬ Accepted payload dev.ledShadow sw swTimestamp version) →
      dev'.ledShadow = dev.ledShadow) ∧
    (∀ sw swTimestamp version, Accepted payload dev.ledShadow sw swTimestamp version →
      dev'.ledShadow = takeOver dev.ledShadow sw swTimestamp version ∧
        ¬ (spi.readOk = true ∧ spi.writeOk = true)) ∧
    dev'.regs = dev.regs := by
  refine ⟨fun hno => ?_, ?_, ledUpdateShadow_regs h⟩
  · obtain ⟨ret, hupdate⟩ := ledUpdateShadow_shadow h
    rcases shadowUpdate_eq_ok hupdate with hsame | ⟨-, root, sw, ts, v, hroot, hacc, -⟩
    · exact hsame
    · exact absurd ⟨root, hroot, hacc⟩ (hno sw ts v)
  · rintro sw swTimestamp version ⟨root, hroot, hacc⟩
    have hcall := ledUpdateShadow_accepts spi hroot hacc
    have hdrive := Except.ok.inj (hcall.symm.trans h)
    have herror := driveLed_error (congrArg Prod.fst hdrive)
    have hshadow := driveLed_shadow spi
      { dev with ledShadow := takeOver dev.ledShadow sw swTimestamp version }
    rw [hdrive] at hshadow
    exact ⟨hshadow, herror.1⟩

/-- A current notification that turns the LED on. -/
def onText : CString := notificationText PRODUCTKEY (.lit "1") (.lit "1") (.lit "on") (.lit "7")

theorem accepted_onText : Accepted onText darkLed.ledShadow (.lit "on") 7 1 := by
  have hparsed : cjsonParse onText =
      some (notificationRoot PRODUCTKEY (.lit "1") 1 (.lit "on") 7) := by decide +kernel
  exact ⟨_, hparsed, ⟨_, ⟨⟨_, rfl, by decide⟩, rfl, by decide⟩, by decide⟩, ⟨rfl, rfl⟩, rfl,
    by decide⟩

/-- The bus fails, and the notification stays. -/
theorem ledUpdateShadow_error_unread : ∃ dev' out,
    ledUpdateShadow ⟨false, true⟩ onText darkLed = .ok (.error, dev', out) ∧
      dev'.ledShadow = takeOver darkLed.ledShadow (.lit "on") 7 1 := by
  obtain ⟨root, hroot, hacc⟩ := accepted_onText
  have hcall : ∃ dev' out,
      ledUpdateShadow ⟨false, true⟩ onText darkLed = .ok (.error, dev', out) :=
    ⟨_, _, ledUpdateShadow_accepts _ hroot hacc⟩
  obtain ⟨dev', out, h⟩ := hcall
  exact ⟨dev', out, h, ((ledUpdateShadow_error h).2.1 _ _ _ ⟨root, hroot, hacc⟩).1⟩

/-- **A failed update is recorded as desired.** -/
theorem failedUpdate_recorded : ∃ dev' out,
    ledUpdateShadow ⟨false, true⟩ onText darkLed = .ok (.error, dev', out) ∧
      ¬ SameDesired darkLed.ledShadow dev'.ledShadow := by
  obtain ⟨root, hroot, hacc⟩ := accepted_onText
  refine ⟨_, _, ledUpdateShadow_accepts _ hroot hacc, ?_⟩
  decide

end OasisEdge.System.Commands
