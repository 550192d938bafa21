import OasisEdge.CJson.Parse
import OasisEdge.Shadow.State

/-! # Reporting the shadow: `SHADOW_Set_Req` and `SHADOW_Set_Rsp`

The request publishes the version and the reported switch and raises `flag->setShadow` after a
successful send. The response clears the flag if it names this device, carries status `200` and its
version, as an `int`, equals the version of the shadow; the version is all that ties an answer to a
request. -/

namespace OasisEdge.Shadow.Set

open OasisEdge.Lib.Chars OasisEdge.Lib.Doubles OasisEdge.Lib.Checking OasisEdge.CJson.Value
open OasisEdge.CJson.Parse OasisEdge.Shadow.State

/-! ### The request -/

/-- The item an `updateShadow` request prints. -/
def setReqMessage (env : ReqEnv) (shadow : DevShadow) : Json :=
  .obj [(.lit "productKey", .str shadow.productKey.str), (.lit "deviceID", .str shadow.deviceID.str),
    (.lit "version", .num (.ofInt shadow.version)), (.lit "timestamp", .str env.timestamp.str),
    (.lit "token", .str env.uuid.str),
    (.lit "state", .obj [(.lit "reported",
      .obj [(.lit "switch", .str shadow.state.reported.sw.str)])]),
    (.lit "metadata", .obj [(.lit "reported",
      .obj [(.lit "switch", .obj [(.lit "timestamp", .num (.ofInt env.unixTime.toNat))])])])]

/-- The assignment of the flag after a successful send. -/
def setReqFlag (flag : DevShadowFlag) : DevShadowFlag := { flag with setShadow := .req }

def shadowSetReq (env : ReqEnv) (shadow : DevShadow) : Ret × DevShadow × List Output :=
  match send env TOPIC_REQ_SET_SHADOW (setReqMessage env shadow) with
  | (.error, out) => (.error, shadow, out)
  | (.success, out) => (.success, { shadow with flag := setReqFlag shadow.flag }, out)

/-! ### The response -/

/-- The effect of an answer to this device. -/
def setRspShadow (shadow : DevShadow) : DevShadow :=
  { shadow with flag := { shadow.flag with setShadow := .rsp } }

/-- The members of an answer the call looks up. -/
structure Answer where
  productKey : Json
  deviceID : Json
  statusCode : Json
  statusStr : Json
  version : Json

/-- The lookups; the call returns `ERROR` at the first that fails. The member `deviceID` is looked
up a second time for the text of the status. -/
def readAnswer (root : Json) : Option Answer := do
  let productKey ← cjsonGetObjectItem root (.lit "productKey")
  let deviceID ← cjsonGetObjectItem root (.lit "deviceID")
  let statusCode ← cjsonGetObjectItem root (.lit "statusCode")
  let statusStr ← cjsonGetObjectItem root (.lit "deviceID")
  let version ← cjsonGetObjectItem root (.lit "version")
  some ⟨productKey, deviceID, statusCode, statusStr, version⟩

/-- The comparisons and the effect. -/
def applyAnswer (a : Answer) (shadow : DevShadow) : Checked (Ret × DevShadow) := do
  let productKey ← need .nullString a.productKey.valuestring
  if strcmp shadow.productKey.str productKey = 0 then
    let deviceID ← need .nullString a.deviceID.valuestring
    if strcmp shadow.deviceID.str deviceID = 0 then
      if 200 = a.statusCode.valueint then
        if a.version.valueint = shadow.version then .ok (.success, setRspShadow shadow)
        else .ok (.success, shadow)
      else
        -- the warning prints the text of the status
        let _ ← need .nullString a.statusStr.valuestring
        .ok (.success, shadow)
    else .ok (.success, shadow)
  else .ok (.success, shadow)

/-- `SHADOW_Set_Rsp` on a payload that parses to `root`. -/
def setRspRoot (root : Json) (shadow : DevShadow) : Checked (Ret × DevShadow) :=
  match readAnswer root with
  | none => .ok (.error, shadow)
  | some a => applyAnswer a shadow

def shadowSetRsp (payload : CString) (shadow : DevShadow) : Checked (Ret × DevShadow) :=
  match cjsonParse payload with
  | none => .ok (.error, shadow)
  | some root => setRspRoot root shadow

/-! ### What the call does -/

/-- The answer acknowledges a report of this device at its present version. -/
def Answer.Acknowledges (a : Answer) (shadow : DevShadow) : Prop :=
  a.productKey.valuestring = some shadow.productKey.str ∧
    a.deviceID.valuestring = some shadow.deviceID.str ∧
      a.statusCode.valueint = 200 ∧ a.version.valueint = shadow.version

instance (a : Answer) (shadow : DevShadow) : Decidable (a.Acknowledges shadow) := by
  unfold Answer.Acknowledges; infer_instance

/-- The comparisons the answer leads to have strings to compare. -/
def Answer.Safe (a : Answer) (shadow : DevShadow) : Prop :=
  ∃ productKey, a.productKey.valuestring = some productKey ∧
    (productKey = shadow.productKey.str → ∃ deviceID, a.deviceID.valuestring = some deviceID)

theorem readAnswer_statusStr {root : Json} {a : Answer} (h : readAnswer root = some a) :
    a.statusStr = a.deviceID := by
  simp only [readAnswer, Option.bind_eq_bind, Option.bind_eq_some_iff] at h
  obtain ⟨productKey, -, deviceID, hd, statusCode, -, statusStr, hs, version, -, h⟩ := h
  rw [hd] at hs
  obtain rfl := Option.some.inj hs
  obtain rfl := Option.some.inj h
  rfl

/-- **The effect of an answer**: the flag is cleared if the answer acknowledges the present version,
and nothing else changes. -/
theorem applyAnswer_eq {a : Answer} (hstr : a.statusStr = a.deviceID) (shadow : DevShadow) :
    applyAnswer a shadow = (do
      let productKey ← need .nullString a.productKey.valuestring
      if productKey = shadow.productKey.str then
        let _ ← need .nullString a.deviceID.valuestring
        .ok (.success, if a.Acknowledges shadow then setRspShadow shadow else shadow)
      else .ok (.success, shadow)) := by
  unfold applyAnswer
  simp only [strcmp_eq_zero, hstr]
  cases hp : a.productKey.valuestring with
  | none => rfl
  | some productKey =>
    simp only [need_some, ok_bind]
    by_cases hpk : shadow.productKey.str = productKey
    · rw [if_pos hpk, if_pos hpk.symm]
      cases hd : a.deviceID.valuestring with
      | none => rfl
      | some deviceID =>
        simp only [need_some, ok_bind]
        have hack : a.Acknowledges shadow ↔ shadow.deviceID.str = deviceID ∧
            200 = a.statusCode.valueint ∧ a.version.valueint = shadow.version := by
          unfold Answer.Acknowledges
          rw [hp, hd, hpk]
          simp only [true_and, Option.some.injEq, eq_comm]
        by_cases hdi : shadow.deviceID.str = deviceID
        · by_cases hc : 200 = a.statusCode.valueint
          · by_cases hv : a.version.valueint = shadow.version
            · rw [if_pos hdi, if_pos hc, if_pos hv, if_pos (hack.mpr ⟨hdi, hc, hv⟩)]
            · rw [if_pos hdi, if_pos hc, if_neg hv, if_neg fun h => hv (hack.mp h).2.2]
          · rw [if_pos hdi, if_neg hc, if_neg fun h => hc (hack.mp h).2.1]
        · rw [if_neg hdi, if_neg fun h => hdi (hack.mp h).1]
    · rw [if_neg hpk, if_neg (Ne.symm hpk)]

theorem setRspRoot_eq_ok {root : Json} {shadow shadow' : DevShadow} {r : Ret}
    (h : setRspRoot root shadow = .ok (r, shadow')) :
    (∃ a, readAnswer root = some a ∧ a.Acknowledges shadow) ∧ shadow' = setRspShadow shadow ∨
      (¬ ∃ a, readAnswer root = some a ∧ a.Acknowledges shadow) ∧ shadow' = shadow := by
  unfold setRspRoot at h
  cases ha : readAnswer root with
  | none =>
    rw [ha] at h
    exact Or.inr ⟨(by simp), ((Prod.mk.inj (Except.ok.inj h)).2).symm⟩
  | some a =>
    rw [ha] at h
    simp only [Option.some.injEq, exists_eq_left'] at h ⊢
    rw [applyAnswer_eq (readAnswer_statusStr ha)] at h
    obtain ⟨productKey, hp, h⟩ := bind_eq_ok.mp h
    rw [need_eq_ok] at hp
    by_cases hpk : productKey = shadow.productKey.str
    · rw [if_pos hpk] at h
      obtain ⟨deviceID, -, h⟩ := bind_eq_ok.mp h
      have hs := (Prod.mk.inj (Except.ok.inj h)).2
      by_cases hack : a.Acknowledges shadow
      · rw [if_pos hack] at hs; exact Or.inl ⟨hack, hs.symm⟩
      · rw [if_neg hack] at hs; exact Or.inr ⟨hack, hs.symm⟩
    · rw [if_neg hpk] at h
      refine Or.inr ⟨fun hack => hpk ?_, ((Prod.mk.inj (Except.ok.inj h)).2).symm⟩
      exact Option.some.inj (hp.symm.trans hack.1)

theorem setRspRoot_of_acknowledges {root : Json} {a : Answer} {shadow : DevShadow}
    (ha : readAnswer root = some a) (hack : a.Acknowledges shadow) :
    setRspRoot root shadow = .ok (.success, setRspShadow shadow) := by
  unfold setRspRoot
  rw [ha]
  show applyAnswer a shadow = _
  rw [applyAnswer_eq (readAnswer_statusStr ha), hack.1, hack.2.1, if_pos hack]
  simp

theorem shadowSetRsp_eq_ok {payload : CString} {shadow shadow' : DevShadow} {r : Ret}
    (h : shadowSetRsp payload shadow = .ok (r, shadow')) :
    shadow' = shadow ∨ r = .success ∧ ∃ root a, cjsonParse payload = some root ∧
      readAnswer root = some a ∧ a.Acknowledges shadow ∧ shadow' = setRspShadow shadow := by
  unfold shadowSetRsp at h
  cases hroot : cjsonParse payload with
  | none =>
    rw [hroot] at h
    exact Or.inl ((Prod.mk.inj (Except.ok.inj h)).2).symm
  | some root =>
    rw [hroot] at h
    rcases setRspRoot_eq_ok h with ⟨⟨a, ha, hack⟩, hs⟩ | ⟨-, hs⟩
    · have hsuccess := h.symm.trans (setRspRoot_of_acknowledges ha hack)
      exact Or.inr ⟨(Prod.mk.inj (Except.ok.inj hsuccess)).1, root, a, rfl, ha, hack, hs⟩
    · exact Or.inl hs

/-- **When the call reaches no fault.** -/
theorem setRspRoot_defined {root : Json} {shadow : DevShadow} :
    Defined (setRspRoot root shadow) ↔ ∀ a, readAnswer root = some a → a.Safe shadow := by
  unfold setRspRoot
  cases ha : readAnswer root with
  | none => simp
  | some a =>
    simp only [Option.some.injEq, forall_eq']
    rw [applyAnswer_eq (readAnswer_statusStr ha), defined_bind]
    unfold Answer.Safe
    refine exists_congr fun productKey => ?_
    rw [need_eq_ok]
    refine and_congr_right fun _ => ?_
    by_cases hpk : productKey = shadow.productKey.str
    · simp [defined_bind, need_eq_ok, hpk]
    · simp [hpk]

end OasisEdge.Shadow.Set
