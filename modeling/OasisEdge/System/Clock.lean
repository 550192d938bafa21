import OasisEdge.System.Platform
import OasisEdge.System.Reports
import OasisEdge.Utils.Tools

/-! # Milliseconds on the wire

The time stamp of the reported switch is read from the clock as milliseconds, sent as a number, and a
time stamp of that size comes back from the platform as the desired one. Below `2^53` milliseconds
the numbers on the wire are exact in both directions (`reportedTimestamp_setReqMessage`,
`toULong_intCast`). The clock itself is right only while its seconds fit into an `int`, so a time
stamp survives exactly until then (`survives_iff`). -/

namespace OasisEdge.System.Clock

open OasisEdge.Lib.Chars OasisEdge.Lib.Doubles OasisEdge.Lib.Checking OasisEdge.CJson.Value
open OasisEdge.CJson.Parse OasisEdge.Shadow.State OasisEdge.Shadow.Set OasisEdge.Shadow.Update
open OasisEdge.Led.Driver OasisEdge.System.Platform OasisEdge.System.Reports OasisEdge.Utils.Tools

/-! ### Sending and receiving -/

def reportedTimestamp (message : Json) : Option Json :=
  cjsonGetObjectItem (cjsonGetObjectItem (cjsonGetObjectItem
    (cjsonGetObjectItem message (.lit "metadata")) (.lit "reported")) (.lit "switch"))
      (.lit "timestamp")

/-- The calls of a request that is sent, with the clock at `t`. -/
def clockAt (t : ℤ) (env : ReqEnv) : ReqEnv :=
  { env with unixTime := toolsGetTimeUnix t, sent := true }

theorem reportedTimestamp_setReqMessage (env : ReqEnv) (shadow : DevShadow) :
    reportedTimestamp (setReqMessage env shadow) = some (.num (.ofInt env.unixTime.toNat)) := rfl

theorem toULong_intCast {z : ℤ} (h0 : 0 ≤ z) (hlt : z < 2 ^ 64) :
    toULong (.fin z) = some (UInt64.ofNat z.toNat) := by
  have hlo : (-1 : ℚ) < z := by exact_mod_cast (by omega : -1 < z)
  have hhi : (z : ℚ) < (2 ^ 64 : ℕ) := by exact_mod_cast hlt
  unfold toULong Double.toNatBelow
  dsimp only
  rw [if_pos ⟨hlo, hhi⟩, Double.trunc_intCast]
  rfl

/-- The notification is current, for this device, and complete; its time stamp of the desired switch
is the integer `z`. -/
structure Carries (payload : CString) (shadow : DevShadow) (z : ℤ) (root : Json) : Prop where
  parses : cjsonParse payload = some root
  fresh : ∃ version, Fresh root shadow version
  forDevice : ForDevice root shadow
  switch : ∃ sw, (desiredSwitch root).bind Json.valuestring = some sw
  timestamp : desiredSwitchTimestamp root = some (.num (.fin z))

theorem Carries.stored {payload : CString} {shadow : DevShadow} {z : ℤ} {root : Json}
    (h : Carries payload shadow z root) (h0 : 0 ≤ z) (hlt : z < 2 ^ 53) :
    ∃ shadow', shadowUpdate payload shadow = .ok (.success, shadow') ∧
      (shadow'.state.desired.swTimestamp.toNat : ℤ) = z := by
  obtain ⟨version, hfresh⟩ := h.fresh
  obtain ⟨sw, hsw⟩ := h.switch
  have hstamp : (desiredSwitchTimestamp root).bind (fun j => toULong j.valuedouble) =
      some (UInt64.ofNat z.toNat) := by
    rw [h.timestamp]
    exact toULong_intCast h0 (by omega)
  have hacc : Accepts root shadow sw (UInt64.ofNat z.toNat) version.valueint :=
    ⟨⟨version, hfresh, rfl⟩, h.forDevice, hsw, hstamp⟩
  refine ⟨takeOver shadow sw (UInt64.ofNat z.toNat) version.valueint, ?_, ?_⟩
  · unfold shadowUpdate
    rw [h.parses]
    exact updateRoot_of_accepts hacc
  · show ((UInt64.ofNat z.toNat).toNat : ℤ) = z
    rw [UInt64.toNat_ofNat']
    omega

/-! ### The time of a reading -/

/-- **A reading of the clock survives**: it is given in milliseconds, reported as that number, stored
when that number is notified, and no earlier reading is given a larger one. -/
structure Survives (t : ℤ) : Prop where
  value : ((toolsGetTimeUnix t).toNat : ℤ) = 1000 * t
  reported : ∀ env shadow, ∃ message,
    published (shadowSetReq (clockAt t env) shadow).2.2 = [message] ∧
      reportedTimestamp message = some (.num (.fin (1000 * t : ℤ)))
  stored : ∀ payload shadow root, Carries payload shadow (1000 * t) root →
    ∃ shadow', shadowUpdate payload shadow = .ok (.success, shadow') ∧
      (shadow'.state.desired.swTimestamp.toNat : ℤ) = 1000 * t
  ordered : ∀ t', 0 ≤ t' → t' ≤ t → toolsGetTimeUnix t' ≤ toolsGetTimeUnix t

/-- **Readings survive** exactly as long as the seconds fit into an `int`. -/
theorem survives_iff {t : ℤ} (h0 : 0 ≤ t) (hlt : 1000 * t < 2 ^ 53) : Survives t ↔ t < 2 ^ 31 := by
  have hvalue := toNat_toolsGetTimeUnix h0 hlt
  constructor
  · intro h
    exact hvalue.mp h.value
  · intro hint
    have hunix := hvalue.mpr hint
    refine ⟨hunix, fun env shadow => ?_, fun payload shadow root h => ?_, fun t' h0' hle => ?_⟩
    · refine ⟨setReqMessage (clockAt t env) shadow, ?_, ?_⟩
      · rw [published_setReq]
        rfl
      · rw [reportedTimestamp_setReqMessage]
        show some (Json.num (.ofInt ((toolsGetTimeUnix t).toNat : ℤ))) = _
        rw [hunix, Double.ofInt_eq (by omega)]
    · exact h.stored (by omega) hlt
    · have hunix' := (toNat_toolsGetTimeUnix h0' (by omega)).mpr (by omega)
      rw [UInt64.le_iff_toNat_le]
      omega

theorem survives_iff_lastSecond : Survives 2147483647 :=
  (survives_iff (by decide) (by decide)).mpr (by decide)

/-- **The second after it** is given as a time near the end of `unsigned long`, and when the `int`
comes round to `0` so does the clock. -/
theorem not_survives_nextSecond : ¬ Survives 2147483648 ∧
    toolsGetTimeUnix 2147483648 = 18446741926225903616 ∧
    toolsGetTimeUnix 4294967296 < toolsGetTimeUnix 2147483647 := by
  refine ⟨fun h => ?_, by decide, by decide⟩
  have hvalue := h.value
  revert hvalue
  decide

end OasisEdge.System.Clock
