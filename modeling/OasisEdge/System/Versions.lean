import OasisEdge.System.Platform
import OasisEdge.System.Reports

/-! # Versions on the wire

A report carries the version, a `long`, as a number; both handlers read the version of a message as
an `int`, which saturates. So a version survives the way to the platform and back, and the way from
the platform, exactly up to `INT_MAX` (`version_survives`). The monitor counts past it. -/

namespace OasisEdge.System.Versions

open OasisEdge.Lib.Chars OasisEdge.Lib.Doubles OasisEdge.Lib.Checking OasisEdge.Lib.Runs
open OasisEdge.CJson.Value OasisEdge.CJson.Parse OasisEdge.Shadow.State OasisEdge.Shadow.Set
open OasisEdge.Shadow.Update OasisEdge.Led.Driver OasisEdge.Sample.EdgeClient
open OasisEdge.System.Platform OasisEdge.System.Reports OasisEdge.System.Steps

/-- The call returns `SUCCESS`, and the shadow afterwards satisfies `P`. -/
def Succeeds (r : Checked (Ret × DevShadow)) (P : DevShadow → Prop) : Prop :=
  ∃ shadow, r = .ok (.success, shadow) ∧ P shadow

instance (P : DevShadow → Prop) [DecidablePred P] : (r : Checked (Ret × DevShadow)) →
    Decidable (Succeeds r P)
  | .ok (.success, shadow) => decidable_of_iff (P shadow) (by simp [Succeeds])
  | .ok (.error, _) | .error _ => isFalse (by simp [Succeeds])

theorem succeeds_ok {shadow : DevShadow} {P : DevShadow → Prop} :
    Succeeds (.ok (.success, shadow)) P ↔ P shadow := by
  simp [Succeeds]

/-- The answer to a report that was sent clears the flag the report raised. -/
def Acknowledged (env : ReqEnv) (payload : CString) (shadow : DevShadow) : Prop :=
  Succeeds (shadowSetRsp payload (shadowSetReq env shadow).2.1) fun s => s.flag.setShadow = .rsp

instance (env : ReqEnv) (payload : CString) (shadow : DevShadow) :
    Decidable (Acknowledged env payload shadow) := by
  unfold Acknowledged; infer_instance

/-- The notification is accepted, and its version taken over. -/
def TakenOver (payload : CString) (shadow : DevShadow) (version : ℤ) : Prop :=
  Succeeds (shadowUpdate payload shadow) fun s => s.flag.setShadow = .req ∧ s.version = version

instance (payload : CString) (shadow : DevShadow) (version : ℤ) :
    Decidable (TakenOver payload shadow version) := by
  unfold TakenOver; infer_instance

/-- The notification has all its members, is for this device, and not earlier than the time stamp of
the shadow; its version is the integer `version`. -/
structure Notifies (payload : CString) (shadow : DevShadow) (version : ℤ) (root : Json) : Prop where
  parses : cjsonParse payload = some root
  timestamp : ∃ ts, stringField root (.lit "timestamp") = some ts ∧
    0 ≤ strcmp ts shadow.timestamp.str
  version : cjsonGetObjectItem root (.lit "version") = some (.num (.fin version))
  forDevice : ForDevice root shadow
  desires : ∃ sw swTimestamp, Desires root sw swTimestamp

/-! ### The two directions -/

/-- The version of a report comes back as it is exactly up to `INT_MAX`. -/
theorem acknowledged_iff {env : ReqEnv} {payload : CString} {shadow : DevShadow}
    (h0 : 0 ≤ shadow.version) (hsent : env.sent = true)
    (hans : AnswerTo (setReqMessage env shadow) payload) :
    Acknowledged env payload shadow ↔ shadow.version ≤ INT_MAX := by
  obtain ⟨root, a, hroot, ha, hp, hd, hv, hs⟩ := hans.exists_answer
  set sent := (shadowSetReq env shadow).2.1 with hsent'
  have heq : sent = { shadow with flag := setReqFlag shadow.flag } := by
    rw [hsent', shadowSetReq_shadow, if_pos hsent]
  have hint : a.version.valueint = min INT_MAX shadow.version := by rw [hv]; exact valueint_ofInt h0
  have hack : a.Acknowledges sent ↔ shadow.version ≤ INT_MAX := by
    unfold Answer.Acknowledges
    rw [heq, hp, hd, hint]
    simp only [Json.valuestring, hs, true_and]
    omega
  unfold Acknowledged shadowSetRsp
  rw [← hsent', hroot]
  by_cases hle : a.Acknowledges sent
  · show Succeeds (setRspRoot root sent) _ ↔ _
    rw [setRspRoot_of_acknowledges ha hle, succeeds_ok]
    exact iff_of_true rfl (hack.mp hle)
  · refine iff_of_false ?_ fun h => hle (hack.mpr h)
    rintro ⟨shadow', hrsp, hflag⟩
    rcases setRspRoot_eq_ok hrsp with ⟨⟨a', ha', hack'⟩, -⟩ | ⟨-, rfl⟩
    · obtain rfl := Option.some.inj (ha.symm.trans ha')
      exact hle hack'
    · rw [heq] at hflag
      cases hflag

/-- The version of a notification is taken over as it is exactly up to `INT_MAX`. -/
theorem takenOver_iff {payload : CString} {shadow : DevShadow} {version : ℤ} {root : Json}
    (h0 : 0 ≤ shadow.version) (hle : shadow.version ≤ version)
    (hn : Notifies payload shadow version root) :
    TakenOver payload shadow version ↔ version ≤ INT_MAX := by
  obtain ⟨ts, hts, hfresh⟩ := hn.timestamp
  obtain ⟨sw, swTimestamp, hdes⟩ := hn.desires
  have hint : (Json.num (.fin version)).valueint = min INT_MAX version := by
    have hmin : INT_MIN ≤ 0 := by decide
    have hmax : 0 ≤ INT_MAX := by decide
    rw [Json.valueint, Double.toIntSat_intCast (by decide)]
    exact max_eq_right (by omega)
  unfold TakenOver shadowUpdate
  rw [hn.parses]
  show Succeeds (updateRoot root shadow) _ ↔ _
  by_cases hbehind : INT_MAX < shadow.version
  · -- the version reads as `INT_MAX`, which is behind that of the shadow
    rw [updateRoot_of_behind hts hn.version (by rw [hint]; omega)]
    refine iff_of_false ?_ (by omega)
    rintro ⟨shadow', h, -⟩
    cases h
  · have hacc : Accepts root shadow sw swTimestamp (min INT_MAX version) :=
      ⟨⟨_, ⟨⟨ts, hts, hfresh⟩, hn.version, by rw [hint]; omega⟩, hint⟩, hn.forDevice, hdes⟩
    rw [updateRoot_of_accepts hacc, succeeds_ok]
    show Flag.req = Flag.req ∧ min INT_MAX version = version ↔ _
    rw [and_iff_right rfl]
    omega

/-- **When a version survives**: reported and answered up to `INT_MAX`, and notified up to
`INT_MAX`. -/
theorem version_survives (shadow : DevShadow) (h0 : 0 ≤ shadow.version) :
    (∀ env payload, env.sent = true → AnswerTo (setReqMessage env shadow) payload →
      (Acknowledged env payload shadow ↔ shadow.version ≤ INT_MAX)) ∧
    ∀ payload version root, shadow.version ≤ version → Notifies payload shadow version root →
      (TakenOver payload shadow version ↔ version ≤ INT_MAX) :=
  ⟨fun _ _ hsent hans => acknowledged_iff h0 hsent hans,
    fun _ _ _ hle hn => takenOver_iff h0 hle hn⟩

/-- The freshly installed shadow. -/
def installedShadow : DevShadow := ledInit LED_OFF (.zero _) 0

theorem version_survives_installedShadow :
    Acknowledged sentEnv (answerText PRODUCTKEY DEVICEID (.lit "200") (.lit "0")) installedShadow ∧
      TakenOver (notificationText PRODUCTKEY (.lit "1") (.lit "2147483647") (.lit "on") (.lit "1"))
        installedShadow 2147483647 := by
  obtain ⟨hack, htake⟩ := version_survives installedShadow (by decide)
  refine ⟨(hack _ _ rfl (by decide +kernel)).mpr (by decide), ?_⟩
  refine (htake _ _ (notificationRoot PRODUCTKEY (.lit "1") 2147483647 (.lit "on") 1) (by decide)
    ⟨by decide +kernel, ⟨.lit "1", rfl, by decide⟩, rfl, ⟨rfl, rfl⟩, ?_⟩).mpr (by decide)
  exact ⟨.lit "on", 1, rfl, by decide +kernel⟩

/-- A notification of a version that is no `int`. -/
def wideText : CString :=
  notificationText PRODUCTKEY (.lit "1") (.lit "2147483648") (.lit "on") (.lit "1")

/-- The LED goes online, accepts the notification, and reports under the next version. -/
def wideRun : List Event :=
  [.message spiOk TOPIC_RSP_ONLINE onlineText, .message spiOk TOPIC_UPDATE_SHADOW wideText,
    .monitorTick sentMonitor]

/-- **Versions that do not survive**: the version of a well-formed notification is not taken over,
and after one more report the answer to the version of the shadow is not recognised. -/
theorem version_lost :
    (∃ root, Notifies wideText installedShadow 2147483648 root) ∧
      ¬ TakenOver wideText installedShadow 2147483648 ∧
      Ends (exec deviceStep (ledInstall LED_OFF (.zero _) 0 fun _ => 0) wideRun) fun dev _ =>
        dev.ledShadow.version = 2147483648 ∧
          AnswerTo (setReqMessage sentEnv dev.ledShadow)
            (answerText PRODUCTKEY DEVICEID (.lit "200") (.lit "2147483648")) ∧
          ¬ Acknowledged sentEnv (answerText PRODUCTKEY DEVICEID (.lit "200") (.lit "2147483648"))
            dev.ledShadow := by
  refine ⟨⟨notificationRoot PRODUCTKEY (.lit "1") 2147483648 (.lit "on") 1, by decide +kernel,
    ⟨.lit "1", rfl, by decide⟩, rfl, ⟨rfl, rfl⟩, .lit "on", 1, rfl, by decide +kernel⟩, ?_, ?_⟩
  · decide +kernel
  · decide +kernel

end OasisEdge.System.Versions
