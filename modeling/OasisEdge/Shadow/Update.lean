import OasisEdge.CJson.Parse
import OasisEdge.Shadow.State

/-! # Taking over the desired state: `SHADOW_Update`

The call looks at a notification in three stages: is it current (`checkFresh`), is it for this
device (`checkIdentity`), and what does it ask for (`readDesired`). Nothing is written before all
three are passed; then the desired switch, its time stamp and the version are taken over and
`flag->setShadow` is raised. The time stamp of the notification itself is compared with
`shadow->timestamp` but stored nowhere.

`readUpdate_accepted` says which notifications are taken over and with what values
(`Accepts`), and `updateRoot_defined` which ones reach no fault (`UpdateSafe`). -/

namespace OasisEdge.Shadow.Update

open OasisEdge.Lib.Chars OasisEdge.Lib.Doubles OasisEdge.Lib.Checking OasisEdge.CJson.Value
open OasisEdge.CJson.Parse OasisEdge.Shadow.State

/-! ### The stages -/

/-- The checks of the time stamp and the version: the version item, or `none` to return `ERROR`. -/
def checkFresh (root : Json) (shadow : DevShadow) : Checked (Option Json) :=
  match cjsonGetObjectItem root (.lit "timestamp") with
  | none => .ok none
  | some timestamp => do
    let ts ← need .nullString timestamp.valuestring
    if strcmp ts shadow.timestamp.str < 0 then .ok none
    else
      match cjsonGetObjectItem root (.lit "version") with
      | none => .ok none
      | some version => .ok (if version.valueint < shadow.version then none else some version)

/-- Whose notification it is; `missing` means that a field is not there. -/
inductive Identity
  | missing
  | other
  | this
deriving DecidableEq

/-- The checks of the product key and the device. -/
def checkIdentity (root : Json) (shadow : DevShadow) : Checked Identity :=
  match cjsonGetObjectItem root (.lit "productKey") with
  | none => .ok .missing
  | some productKey => do
    let pk ← need .nullString productKey.valuestring
    if strcmp pk shadow.productKey.str ≠ 0 then .ok .other
    else
      match cjsonGetObjectItem root (.lit "deviceID") with
      | none => .ok .missing
      | some deviceID => do
        let did ← need .nullString deviceID.valuestring
        .ok (if strcmp did shadow.deviceID.str ≠ 0 then .other else .this)

/-- `state.desired.switch`. -/
def desiredSwitch (root : Json) : Option Json :=
  cjsonGetObjectItem (cjsonGetObjectItem (cjsonGetObjectItem root (.lit "state")) (.lit "desired"))
    (.lit "switch")

/-- `metadata.desired.switch.timestamp`. -/
def desiredSwitchTimestamp (root : Json) : Option Json :=
  cjsonGetObjectItem (cjsonGetObjectItem (cjsonGetObjectItem
    (cjsonGetObjectItem root (.lit "metadata")) (.lit "desired")) (.lit "switch"))
      (.lit "timestamp")

/-- The conversion of a number to `unsigned long`. -/
def toULong (d : Double) : Option UInt64 := (d.toNatBelow (2 ^ 64)).map UInt64.ofNat

/-- The desired switch and its time stamp, or `none` to return `ERROR`. Below `state` and `metadata`
a missing member is only logged, and the item used all the same. -/
def readDesired (root : Json) : Checked (Option (CString × UInt64)) :=
  match cjsonGetObjectItem root (.lit "state") with
  | none => .ok none
  | some _ =>
    match cjsonGetObjectItem root (.lit "metadata") with
    | none => .ok none
    | some _ => do
      let switchItem ← need .nullPointer (desiredSwitch root)
      let sw ← need .nullString switchItem.valuestring
      let timestampItem ← need .nullPointer (desiredSwitchTimestamp root)
      let swTimestamp ← need .floatRange (toULong timestampItem.valuedouble)
      .ok (some (sw, swTimestamp))

/-- What becomes of a notification. -/
inductive Verdict
  | error
  | ignored
  | accepted (sw : CString) (swTimestamp : UInt64) (version : ℤ)
deriving DecidableEq

/-- The part of `SHADOW_Update` that reads. -/
def readUpdate (root : Json) (shadow : DevShadow) : Checked Verdict := do
  match ← checkFresh root shadow with
  | none => .ok .error
  | some version =>
    match ← checkIdentity root shadow with
    | .missing => .ok .error
    | .other => .ok .ignored
    | .this =>
      match ← readDesired root with
      | none => .ok .error
      | some (sw, swTimestamp) => .ok (.accepted sw swTimestamp version.valueint)

/-- The four assignments at the end. -/
def takeOver (shadow : DevShadow) (sw : CString) (swTimestamp : UInt64) (version : ℤ) :
    DevShadow :=
  { shadow with
    state := { shadow.state with desired := ⟨snprintf LENGTH_SWITCH sw, swTimestamp⟩ }
    version := version
    flag := { shadow.flag with setShadow := .req } }

/-- The part of `SHADOW_Update` that writes. -/
def applyVerdict (shadow : DevShadow) : Verdict → Ret × DevShadow
  | .error => (.error, shadow)
  | .ignored => (.success, shadow)
  | .accepted sw swTimestamp version => (.success, takeOver shadow sw swTimestamp version)

/-- `SHADOW_Update` on a payload that parses to `root`. -/
def updateRoot (root : Json) (shadow : DevShadow) : Checked (Ret × DevShadow) := do
  let v ← readUpdate root shadow
  .ok (applyVerdict shadow v)

def shadowUpdate (payload : CString) (shadow : DevShadow) : Checked (Ret × DevShadow) :=
  match cjsonParse payload with
  | none => .ok (.error, shadow)
  | some root => updateRoot root shadow

/-! ### What each stage lets through -/

/-- The notification is current: its version item, not behind the version of the shadow. -/
def Fresh (root : Json) (shadow : DevShadow) (version : Json) : Prop :=
  (∃ ts, stringField root (.lit "timestamp") = some ts ∧ 0 ≤ strcmp ts shadow.timestamp.str) ∧
    cjsonGetObjectItem root (.lit "version") = some version ∧ shadow.version ≤ version.valueint

/-- The notification is for this device. -/
def ForDevice (root : Json) (shadow : DevShadow) : Prop :=
  stringField root (.lit "productKey") = some shadow.productKey.str ∧
    stringField root (.lit "deviceID") = some shadow.deviceID.str

/-- The notification asks for the switch `sw` as of `swTimestamp`. -/
def Desires (root : Json) (sw : CString) (swTimestamp : UInt64) : Prop :=
  (desiredSwitch root).bind Json.valuestring = some sw ∧
    (desiredSwitchTimestamp root).bind (fun j => toULong j.valuedouble) = some swTimestamp

/-- **The notifications that are taken over**, and the values taken from them. -/
structure Accepts (root : Json) (shadow : DevShadow) (sw : CString) (swTimestamp : UInt64)
    (version : ℤ) : Prop where
  fresh : ∃ item, Fresh root shadow item ∧ item.valueint = version
  forDevice : ForDevice root shadow
  desires : Desires root sw swTimestamp

theorem checkFresh_some {root version : Json} {shadow : DevShadow} :
    checkFresh root shadow = .ok (some version) ↔ Fresh root shadow version := by
  unfold checkFresh Fresh stringField
  cases cjsonGetObjectItem root (.lit "timestamp") with
  | none => simp
  | some timestamp =>
    simp only [bind_eq_ok, need_eq_ok, Option.bind_some]
    rw [exists_and_right.symm]
    refine exists_congr fun ts => ?_
    rw [and_assoc]
    refine and_congr_right fun _ => ?_
    by_cases hlt : strcmp ts shadow.timestamp.str < 0
    · simp only [if_pos hlt, Except.ok.injEq, reduceCtorEq, false_iff]
      omega
    · rw [if_neg hlt, and_iff_right (by omega)]
      cases cjsonGetObjectItem root (.lit "version") with
      | none => simp
      | some v =>
        simp only [Except.ok.injEq, Option.some.injEq]
        by_cases hv : v.valueint < shadow.version
        · rw [if_pos hv]
          simp only [reduceCtorEq, false_iff]
          rintro ⟨rfl, h⟩; omega
        · rw [if_neg hv]
          simp only [Option.some.injEq]
          exact ⟨(by rintro rfl; exact ⟨rfl, by omega⟩), And.left⟩

theorem checkIdentity_this {root : Json} {shadow : DevShadow} :
    checkIdentity root shadow = .ok .this ↔ ForDevice root shadow := by
  unfold checkIdentity ForDevice stringField
  cases cjsonGetObjectItem root (.lit "productKey") with
  | none => simp
  | some productKey =>
    simp only [bind_eq_ok, need_eq_ok, Option.bind_some, ne_eq, strcmp_eq_zero]
    constructor
    · rintro ⟨pk, hpk, h⟩
      by_cases he : pk = shadow.productKey.str
      · rw [if_neg (not_not.mpr he)] at h
        refine ⟨by rw [hpk, he], ?_⟩
        cases hd : cjsonGetObjectItem root (.lit "deviceID") with
        | none => rw [hd] at h; simp at h
        | some deviceID =>
          rw [hd] at h
          obtain ⟨did, hdid, h⟩ := bind_eq_ok.mp h
          by_cases hde : did = shadow.deviceID.str
          · rw [Option.bind_some, need_eq_ok.mp hdid, hde]
          · rw [if_pos hde] at h; simp at h
      · rw [if_pos he] at h; simp at h
    · rintro ⟨hpk, hd⟩
      refine ⟨_, hpk, ?_⟩
      rw [if_neg (not_not.mpr rfl)]
      obtain ⟨deviceID, hdi, hds⟩ := Option.bind_eq_some_iff.mp hd
      rw [hdi]
      exact bind_eq_ok.mpr ⟨_, need_eq_ok.mpr hds, by rw [if_neg (not_not.mpr rfl)]⟩

theorem desiredSwitch_state {root : Json} (h : cjsonGetObjectItem root (.lit "state") = none) :
    desiredSwitch root = none := by simp [desiredSwitch, h]

theorem desiredSwitchTimestamp_metadata {root : Json}
    (h : cjsonGetObjectItem root (.lit "metadata") = none) : desiredSwitchTimestamp root = none := by
  simp [desiredSwitchTimestamp, h]

theorem readDesired_some {root : Json} {sw : CString} {swTimestamp : UInt64} :
    readDesired root = .ok (some (sw, swTimestamp)) ↔ Desires root sw swTimestamp := by
  unfold readDesired Desires
  cases hs : cjsonGetObjectItem root (.lit "state") with
  | none => simp [desiredSwitch_state hs]
  | some state =>
    cases hm : cjsonGetObjectItem root (.lit "metadata") with
    | none => simp [desiredSwitchTimestamp_metadata hm]
    | some metadata =>
      simp only [bind_eq_ok, need_eq_ok, Except.ok.injEq, Option.some.injEq, Prod.mk.injEq,
        Option.bind_eq_some_iff]
      constructor
      · rintro ⟨i, hi, s, hs, j, hj, t, ht, rfl, rfl⟩; exact ⟨⟨i, hi, hs⟩, j, hj, ht⟩
      · rintro ⟨⟨i, hi, hs⟩, j, hj, ht⟩; exact ⟨i, hi, sw, hs, j, hj, swTimestamp, ht, rfl, rfl⟩

/-- **Exactly the notifications of `Accepts` are taken over.** -/
theorem readUpdate_accepted {root : Json} {shadow : DevShadow} {sw : CString}
    {swTimestamp : UInt64} {version : ℤ} :
    readUpdate root shadow = .ok (.accepted sw swTimestamp version) ↔
      Accepts root shadow sw swTimestamp version := by
  unfold readUpdate
  simp only [bind_eq_ok]
  constructor
  · rintro ⟨o, ho, h⟩
    cases o with
    | none => simp at h
    | some item =>
      obtain ⟨i, hi, h⟩ := bind_eq_ok.mp h
      cases i with
      | missing => simp at h
      | other => simp at h
      | this =>
        obtain ⟨d, hd, h⟩ := bind_eq_ok.mp h
        cases d with
        | none => simp at h
        | some d =>
          obtain ⟨s, t⟩ := d
          simp only [Except.ok.injEq, Verdict.accepted.injEq] at h
          obtain ⟨rfl, rfl, rfl⟩ := h
          exact ⟨⟨item, checkFresh_some.mp ho, rfl⟩, checkIdentity_this.mp hi,
            readDesired_some.mp hd⟩
  · rintro ⟨⟨item, hf, rfl⟩, hi, hd⟩
    refine ⟨_, checkFresh_some.mpr hf, bind_eq_ok.mpr ⟨_, checkIdentity_this.mpr hi, ?_⟩⟩
    exact bind_eq_ok.mpr ⟨_, readDesired_some.mpr hd, rfl⟩

/-! ### What the call does -/

theorem updateRoot_of_accepts {root : Json} {shadow : DevShadow} {sw : CString}
    {swTimestamp : UInt64} {version : ℤ} (h : Accepts root shadow sw swTimestamp version) :
    updateRoot root shadow = .ok (.success, takeOver shadow sw swTimestamp version) :=
  bind_eq_ok.mpr ⟨_, readUpdate_accepted.mpr h, rfl⟩

/-- A notification behind the version of the shadow is refused. -/
theorem updateRoot_of_behind {root item : Json} {shadow : DevShadow} {ts : CString}
    (hts : stringField root (.lit "timestamp") = some ts)
    (hv : cjsonGetObjectItem root (.lit "version") = some item)
    (hlt : item.valueint < shadow.version) : updateRoot root shadow = .ok (.error, shadow) := by
  obtain ⟨timestamp, ht, hs⟩ := Option.bind_eq_some_iff.mp hts
  have hfresh : checkFresh root shadow = .ok none := by
    unfold checkFresh
    rw [ht]
    refine bind_eq_ok.mpr ⟨ts, need_eq_ok.mpr hs, ?_⟩
    rw [hv]
    by_cases hlate : strcmp ts shadow.timestamp.str < 0
    · rw [if_pos hlate]
    · rw [if_neg hlate]; simp only [if_pos hlt]
  exact bind_eq_ok.mpr ⟨.error, bind_eq_ok.mpr ⟨none, hfresh, rfl⟩, rfl⟩

/-- A call that reaches no fault takes an accepted notification over, and changes nothing else. -/
theorem shadowUpdate_eq_ok {payload : CString} {shadow shadow' : DevShadow} {r : Ret}
    (h : shadowUpdate payload shadow = .ok (r, shadow')) :
    shadow' = shadow ∨ r = .success ∧ ∃ root sw swTimestamp version, cjsonParse payload = some root ∧
      Accepts root shadow sw swTimestamp version ∧
        shadow' = takeOver shadow sw swTimestamp version := by
  unfold shadowUpdate at h
  cases hroot : cjsonParse payload with
  | none =>
    rw [hroot] at h
    exact Or.inl ((Prod.mk.inj (Except.ok.inj h)).2).symm
  | some root =>
    rw [hroot] at h
    obtain ⟨v, hv, h⟩ := bind_eq_ok.mp h
    have hverdict : applyVerdict shadow v = (r, shadow') := Except.ok.inj h
    cases v with
    | error => exact Or.inl ((Prod.mk.inj hverdict).2).symm
    | ignored => exact Or.inl ((Prod.mk.inj hverdict).2).symm
    | accepted sw swTimestamp version =>
      obtain ⟨rfl, rfl⟩ := Prod.mk.inj hverdict
      exact Or.inr ⟨rfl, root, sw, swTimestamp, version, rfl, readUpdate_accepted.mp hv, rfl⟩

/-! ### When the call reaches no fault -/

/-- Some version item of the notification is current. -/
def IsFresh (root : Json) (shadow : DevShadow) : Prop := ∃ version, Fresh root shadow version

/-- Every field the call gets to has the type it needs. The fields below `state` and `metadata` have
to be there as well, and the time stamp has to be in the range of `unsigned long`. -/
structure UpdateSafe (root : Json) (shadow : DevShadow) : Prop where
  timestamp : StringIfPresent root (.lit "timestamp")
  productKey : IsFresh root shadow → StringIfPresent root (.lit "productKey")
  deviceID : IsFresh root shadow →
    stringField root (.lit "productKey") = some shadow.productKey.str →
      StringIfPresent root (.lit "deviceID")
  desires : IsFresh root shadow → ForDevice root shadow →
    (cjsonGetObjectItem root (.lit "state")).isSome →
      (cjsonGetObjectItem root (.lit "metadata")).isSome → ∃ sw swTimestamp,
        Desires root sw swTimestamp

theorem checkFresh_defined {root : Json} {shadow : DevShadow} :
    Defined (checkFresh root shadow) ↔ StringIfPresent root (.lit "timestamp") := by
  unfold checkFresh StringIfPresent
  cases cjsonGetObjectItem root (.lit "timestamp") with
  | none => simp
  | some timestamp =>
    simp only [defined_bind, need_eq_ok, Option.some.injEq, forall_eq']
    refine exists_congr fun ts => and_iff_left ?_
    by_cases hlate : strcmp ts shadow.timestamp.str < 0
    · rw [if_pos hlate]; exact defined_ok _
    · rw [if_neg hlate]
      cases cjsonGetObjectItem root (.lit "version") <;> exact defined_ok _

theorem checkIdentity_defined {root : Json} {shadow : DevShadow} :
    Defined (checkIdentity root shadow) ↔ StringIfPresent root (.lit "productKey") ∧
      (stringField root (.lit "productKey") = some shadow.productKey.str →
        StringIfPresent root (.lit "deviceID")) := by
  unfold checkIdentity StringIfPresent stringField
  cases cjsonGetObjectItem root (.lit "productKey") with
  | none => simp
  | some productKey =>
    simp only [defined_bind, need_eq_ok, Option.some.injEq, forall_eq', Option.bind_some, ne_eq,
      strcmp_eq_zero]
    rw [← exists_and_right]
    refine exists_congr fun pk => and_congr_right fun hpk => ?_
    rw [hpk, Option.some.injEq]
    by_cases he : pk = shadow.productKey.str
    · rw [if_neg (not_not.mpr he)]
      cases cjsonGetObjectItem root (.lit "deviceID") with
      | none => simp
      | some deviceID => simp [defined_bind, he, need_eq_ok]
    · rw [if_pos he]
      simp [he]

theorem readDesired_defined {root : Json} :
    Defined (readDesired root) ↔ ((cjsonGetObjectItem root (.lit "state")).isSome →
      (cjsonGetObjectItem root (.lit "metadata")).isSome →
        ∃ sw swTimestamp, Desires root sw swTimestamp) := by
  constructor
  · rintro ⟨o, ho⟩ hs hm
    cases o with
    | some r => exact ⟨r.1, r.2, readDesired_some.mp ho⟩
    | none =>
      -- without a result although both members are there: the last line of the call gives `some`
      exfalso
      unfold readDesired at ho
      obtain ⟨state, hs⟩ := Option.isSome_iff_exists.mp hs
      obtain ⟨metadata, hm⟩ := Option.isSome_iff_exists.mp hm
      simp only [hs, hm, bind_eq_ok] at ho
      obtain ⟨_, -, _, -, _, -, _, -, h⟩ := ho
      cases h
  · intro h
    by_cases hs : (cjsonGetObjectItem root (.lit "state")).isSome
    · by_cases hm : (cjsonGetObjectItem root (.lit "metadata")).isSome
      · obtain ⟨sw, swTimestamp, hd⟩ := h hs hm
        exact ⟨_, readDesired_some.mpr hd⟩
      · obtain ⟨state, hs⟩ := Option.isSome_iff_exists.mp hs
        simp only [readDesired, hs, Option.not_isSome_iff_eq_none.mp hm]
        exact defined_ok _
    · simp only [readDesired, Option.not_isSome_iff_eq_none.mp hs]
      exact defined_ok _

/-- **When the call reaches no fault.** -/
theorem updateRoot_defined {root : Json} {shadow : DevShadow} :
    Defined (updateRoot root shadow) ↔ UpdateSafe root shadow := by
  have hread : Defined (updateRoot root shadow) ↔ Defined (readUpdate root shadow) := by
    unfold updateRoot
    rw [defined_bind]
    exact exists_congr fun v => and_iff_left (defined_ok _)
  rw [hread]
  unfold readUpdate
  rw [defined_bind]
  constructor
  · rintro ⟨o, ho, h⟩
    refine ⟨checkFresh_defined.mp ⟨_, ho⟩, ?_, ?_, ?_⟩ <;> rintro ⟨version, hf⟩ <;>
      obtain rfl := Except.ok.inj (ho.symm.trans (checkFresh_some.mpr hf)) <;>
      obtain ⟨i, hi, h⟩ := defined_bind.mp h
    · exact (checkIdentity_defined.mp ⟨_, hi⟩).1
    · exact (checkIdentity_defined.mp ⟨_, hi⟩).2
    · intro hdev
      obtain rfl := Except.ok.inj (hi.symm.trans (checkIdentity_this.mpr hdev))
      obtain ⟨d, hd, -⟩ := defined_bind.mp h
      exact readDesired_defined.mp ⟨_, hd⟩
  · rintro ⟨h1, h2, h3, h4⟩
    obtain ⟨o, ho⟩ := checkFresh_defined.mpr h1
    refine ⟨o, ho, ?_⟩
    cases o with
    | none => exact defined_ok _
    | some version =>
      have hf : IsFresh root shadow := ⟨version, checkFresh_some.mp ho⟩
      obtain ⟨i, hi⟩ := checkIdentity_defined.mpr ⟨h2 hf, h3 hf⟩
      refine defined_bind.mpr ⟨i, hi, ?_⟩
      cases i with
      | missing => exact defined_ok _
      | other => exact defined_ok _
      | this =>
        obtain ⟨d, hd⟩ := readDesired_defined.mpr (h4 hf (checkIdentity_this.mp hi))
        refine defined_bind.mpr ⟨d, hd, ?_⟩
        cases d <;> exact defined_ok _

end OasisEdge.Shadow.Update
