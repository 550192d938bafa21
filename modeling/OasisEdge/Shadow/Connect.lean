import OasisEdge.CJson.Parse
import OasisEdge.Shadow.State

/-! # Changing the connection status: `SHADOW_Connect_Req` and `SHADOW_Connect_Rsp`

The request names this device and raises the flag of its topic, after the send and only if the send
succeeded. The response carries a list `deviceInfo`; each entry that names this device and has a
string `state` overwrites the status, in the order of the list, and an entry without one of the
three fields ends the call with `ERROR`, the entries before it having been applied. The flag of the
topic is cleared once the whole list is read, whichever devices it names.

What a call does that reaches no fault is `shadowConnectRsp_eq_ok`: the entries before the first
incomplete one are applied (`applyEntries`), and the flag is cleared exactly if none is incomplete.
A fault is a NULL `productKey` or `deviceID` string that gets compared (`EntrySafe`). -/

namespace OasisEdge.Shadow.Connect

open OasisEdge.Lib.Chars OasisEdge.Lib.Checking OasisEdge.CJson.Value OasisEdge.CJson.Parse
open OasisEdge.Shadow.State

/-! ### The request -/

/-- The item a connection request prints. -/
def connectReqMessage (env : ReqEnv) (shadow : DevShadow) : Json :=
  .obj [(.lit "timestamp", .str env.timestamp.str), (.lit "token", .str env.uuid.str),
    (.lit "deviceInfo", .arr [.obj [(.lit "productKey", .str shadow.productKey.str),
      (.lit "deviceID", .str shadow.deviceID.str)]])]

/-- The assignment of the flag after a successful send. -/
def connectReqFlag (topic : CString) (flag : DevShadowFlag) : DevShadowFlag :=
  if strcmp topic TOPIC_REQ_ONLINE = 0 then { flag with online := .req }
  else if strcmp topic TOPIC_REQ_OFFLINE = 0 then { flag with offline := .req }
  else if strcmp topic TOPIC_REQ_KEEPALIVE = 0 then { flag with keepalive := .req }
  else flag

theorem connectReqFlag_online (flag : DevShadowFlag) :
    connectReqFlag TOPIC_REQ_ONLINE flag = { flag with online := .req } := by
  unfold connectReqFlag
  rw [if_pos (by decide)]

theorem connectReqFlag_offline (flag : DevShadowFlag) :
    connectReqFlag TOPIC_REQ_OFFLINE flag = { flag with offline := .req } := by
  unfold connectReqFlag
  rw [if_neg (by decide), if_pos (by decide)]

theorem connectReqFlag_keepalive (flag : DevShadowFlag) :
    connectReqFlag TOPIC_REQ_KEEPALIVE flag = { flag with keepalive := .req } := by
  unfold connectReqFlag
  rw [if_neg (by decide), if_neg (by decide), if_pos (by decide)]

def shadowConnectReq (env : ReqEnv) (topic : CString) (shadow : DevShadow) :
    Ret × DevShadow × List Output :=
  match send env topic (connectReqMessage env shadow) with
  | (.error, out) => (.error, shadow, out)
  | (.success, out) => (.success, { shadow with flag := connectReqFlag topic shadow.flag }, out)

/-! ### The response -/

/-- One turn of the loop over `deviceInfo`; `none` is its `return ERROR`. -/
def connectEntry (entry : Json) (shadow : DevShadow) : Checked (Option DevShadow) :=
  let devinfoItem := reparse entry
  match cjsonGetObjectItem devinfoItem (.lit "productKey") with
  | none => .ok none
  | some rspProductKey =>
    match cjsonGetObjectItem devinfoItem (.lit "deviceID") with
    | none => .ok none
    | some rspDeviceID =>
      match cjsonGetObjectItem devinfoItem (.lit "state") with
      | none => .ok none
      | some state => do
        let productKey ← need .nullString rspProductKey.valuestring
        if strcmp shadow.productKey.str productKey = 0 then
          let deviceID ← need .nullString rspDeviceID.valuestring
          if strcmp shadow.deviceID.str deviceID = 0 then
            match state.valuestring with
            | some status => .ok (some { shadow with status := snprintf LENGTH_STATUS status })
            | none => .ok (some shadow)
          else .ok (some shadow)
        else .ok (some shadow)

/-- The loop over `deviceInfo`. Every index it uses is below the size, so `cJSON_GetArrayItem` gives
the entries one after the other, and none of them is NULL. -/
def connectLoop : List Json → DevShadow → Checked (Ret × DevShadow)
  | [], shadow => .ok (.success, shadow)
  | entry :: entries, shadow => do
    match ← connectEntry entry shadow with
    | none => .ok (.error, shadow)
    | some shadow => connectLoop entries shadow

/-- The assignment of the flag at the end of a response. -/
def connectRspFlag (topic : CString) (flag : DevShadowFlag) : DevShadowFlag :=
  if strcmp topic TOPIC_RSP_ONLINE = 0 then { flag with online := .rsp }
  else if strcmp topic TOPIC_RSP_OFFLINE = 0 then { flag with offline := .rsp }
  else if strcmp topic TOPIC_RSP_KEEPALIVE = 0 then { flag with keepalive := .rsp }
  else flag

theorem connectRspFlag_online (flag : DevShadowFlag) :
    connectRspFlag TOPIC_RSP_ONLINE flag = { flag with online := .rsp } := by
  unfold connectRspFlag
  rw [if_pos (by decide)]

theorem connectRspFlag_offline (flag : DevShadowFlag) :
    connectRspFlag TOPIC_RSP_OFFLINE flag = { flag with offline := .rsp } := by
  unfold connectRspFlag
  rw [if_neg (by decide), if_pos (by decide)]

theorem connectRspFlag_keepalive (flag : DevShadowFlag) :
    connectRspFlag TOPIC_RSP_KEEPALIVE flag = { flag with keepalive := .rsp } := by
  unfold connectRspFlag
  rw [if_neg (by decide), if_neg (by decide), if_pos (by decide)]

theorem keepalive_connectRspFlag (topic : CString) (flag : DevShadowFlag) :
    (connectRspFlag topic flag).keepalive =
      if topic = TOPIC_RSP_KEEPALIVE then .rsp else flag.keepalive := by
  unfold connectRspFlag
  simp only [strcmp_eq_zero]
  by_cases h1 : topic = TOPIC_RSP_ONLINE
  · rw [if_pos h1, if_neg (by rw [h1]; decide)]
  · rw [if_neg h1]
    by_cases h2 : topic = TOPIC_RSP_OFFLINE
    · rw [if_pos h2, if_neg (by rw [h2]; decide)]
    · rw [if_neg h2]
      split_ifs <;> rfl

/-- `SHADOW_Connect_Rsp` on a payload that parses to `root`. -/
def connectRspRoot (root : Json) (topic : CString) (shadow : DevShadow) :
    Checked (Ret × DevShadow) :=
  match cjsonGetObjectItem root (.lit "deviceInfo") with
  | none => .ok (.error, shadow)
  | some devinfo => do
    match ← connectLoop devinfo.children shadow with
    | (.error, shadow) => .ok (.error, shadow)
    | (.success, shadow) =>
      .ok (.success, { shadow with flag := connectRspFlag topic shadow.flag })

def shadowConnectRsp (payload topic : CString) (shadow : DevShadow) : Checked (Ret × DevShadow) :=
  match cjsonParse payload with
  | none => .ok (.error, shadow)
  | some root => connectRspRoot root topic shadow

/-! ### What one entry does -/

/-- The entry has all three fields. -/
def entryComplete (entry : Json) : Bool :=
  (cjsonGetObjectItem entry (.lit "productKey")).isSome &&
    (cjsonGetObjectItem entry (.lit "deviceID")).isSome &&
      (cjsonGetObjectItem entry (.lit "state")).isSome

/-- The entry names this device. -/
def NamesDevice (shadow : DevShadow) (entry : Json) : Prop :=
  stringField entry (.lit "productKey") = some shadow.productKey.str ∧
    stringField entry (.lit "deviceID") = some shadow.deviceID.str

instance (shadow : DevShadow) (entry : Json) : Decidable (NamesDevice shadow entry) := by
  unfold NamesDevice; infer_instance

/-- What a complete entry does to the shadow. -/
def applyEntry (shadow : DevShadow) (entry : Json) : DevShadow :=
  if NamesDevice shadow entry then
    match stringField entry (.lit "state") with
    | some status => { shadow with status := snprintf LENGTH_STATUS status }
    | none => shadow
  else shadow

/-- The comparisons an entry leads to have strings to compare. -/
def EntrySafe (shadow : DevShadow) (entry : Json) : Prop :=
  entryComplete entry → ∃ productKey, stringField entry (.lit "productKey") = some productKey ∧
    (productKey = shadow.productKey.str → ∃ deviceID, stringField entry (.lit "deviceID") =
      some deviceID)

theorem field_reparse (entry : Json) (name : CString) :
    cjsonGetObjectItem (reparse entry) name = none ∧ cjsonGetObjectItem entry name = none ∨
      ∃ j, cjsonGetObjectItem (reparse entry) name = some (reparse j) ∧
        cjsonGetObjectItem entry name = some j := by
  rw [cjsonGetObjectItem_reparse]
  cases cjsonGetObjectItem entry name with
  | none => left; exact ⟨rfl, rfl⟩
  | some j => right; exact ⟨j, rfl, rfl⟩

/-- **One turn of the loop**, as a function of the fields of the entry. -/
theorem connectEntry_eq (entry : Json) (shadow : DevShadow) :
    connectEntry entry shadow =
      if entryComplete entry then do
        let productKey ← need .nullString (stringField entry (.lit "productKey"))
        if productKey = shadow.productKey.str then
          let _ ← need .nullString (stringField entry (.lit "deviceID"))
          .ok (some (applyEntry shadow entry))
        else .ok (some shadow)
      else .ok none := by
  unfold connectEntry entryComplete stringField
  rcases field_reparse entry (.lit "productKey") with ⟨h1, h1'⟩ | ⟨jp, h1, h1'⟩
  · simp [h1, h1']
  rcases field_reparse entry (.lit "deviceID") with ⟨h2, h2'⟩ | ⟨jd, h2, h2'⟩
  · simp [h1, h2, h2']
  rcases field_reparse entry (.lit "state") with ⟨h3, h3'⟩ | ⟨js, h3, h3'⟩
  · simp [h1, h2, h3, h3']
  simp only [h1, h2, h3, h1', h2', h3', Option.bind_some, Option.isSome_some, Bool.and_self, if_true,
    valuestring_reparse, strcmp_eq_zero]
  cases hp : jp.valuestring with
  | none => rfl
  | some productKey =>
    simp only [need_some, ok_bind]
    by_cases hpk : shadow.productKey.str = productKey
    · subst hpk
      rw [if_pos rfl, if_pos rfl]
      cases hd : jd.valuestring with
      | none => rfl
      | some deviceID =>
        simp only [need_some, ok_bind, applyEntry, NamesDevice, stringField, h1', h2', h3',
          Option.bind_some, hp, hd, true_and, Option.some.injEq]
        by_cases hdv : shadow.deviceID.str = deviceID
        · subst hdv; simp only [if_true]
          cases js.valuestring <;> rfl
        · rw [if_neg hdv, if_neg (Ne.symm hdv)]
    · rw [if_neg hpk, if_neg (Ne.symm hpk)]

theorem applyEntry_of_productKey {shadow : DevShadow} {entry : Json} {productKey : CString}
    (h : stringField entry (.lit "productKey") = some productKey)
    (hne : productKey ≠ shadow.productKey.str) : applyEntry shadow entry = shadow := by
  unfold applyEntry
  rw [if_neg]
  rintro ⟨h', -⟩
  rw [h] at h'
  exact hne (Option.some.inj h')

theorem connectEntry_eq_ok {entry : Json} {shadow : DevShadow} {r : Option DevShadow}
    (h : connectEntry entry shadow = .ok r) :
    r = if entryComplete entry then some (applyEntry shadow entry) else none := by
  rw [connectEntry_eq] at h
  split_ifs at h ⊢ with hc
  · obtain ⟨productKey, hp, h⟩ := bind_eq_ok.mp h
    rw [need_eq_ok] at hp
    split_ifs at h with hpk
    · obtain ⟨deviceID, -, h⟩ := bind_eq_ok.mp h
      exact (Except.ok.inj h).symm
    · rw [applyEntry_of_productKey hp hpk]
      exact (Except.ok.inj h).symm
  · exact (Except.ok.inj h).symm

/-- **When a turn reaches no fault.** -/
theorem connectEntry_defined {entry : Json} {shadow : DevShadow} :
    Defined (connectEntry entry shadow) ↔ EntrySafe shadow entry := by
  rw [connectEntry_eq]
  unfold EntrySafe
  split_ifs with hc
  · simp only [hc, forall_const, defined_bind, need_eq_ok]
    refine exists_congr fun productKey => and_congr_right fun _ => ?_
    split_ifs with hpk
    · simp [defined_bind, need_eq_ok, hpk]
    · simp [hpk]
  · simp [hc]

/-! ### What the list does -/

/-- The entries applied in order. -/
def applyEntries (shadow : DevShadow) (entries : List Json) : DevShadow :=
  entries.foldl applyEntry shadow

theorem applyEntry_eq (shadow : DevShadow) (entry : Json) :
    applyEntry shadow entry = { shadow with status := (applyEntry shadow entry).status } := by
  unfold applyEntry
  split_ifs
  · cases stringField entry (.lit "state") <;> rfl
  · rfl

theorem applyEntries_eq (shadow : DevShadow) (entries : List Json) :
    applyEntries shadow entries =
      { shadow with status := (applyEntries shadow entries).status } := by
  induction entries generalizing shadow with
  | nil => rfl
  | cons entry entries ih =>
    have hst : ∀ st, { applyEntry shadow entry with status := st } =
        { shadow with status := st } := fun st => by rw [applyEntry_eq]
    exact (ih (applyEntry shadow entry)).trans (hst _)

/-- **The loop**: the entries before the first incomplete one are applied, and the call goes on
exactly if there is none. -/
theorem connectLoop_eq_ok {entries : List Json} {shadow shadow' : DevShadow} {r : Ret}
    (h : connectLoop entries shadow = .ok (r, shadow')) :
    r = (if entries.all entryComplete then .success else .error) ∧
      shadow' = applyEntries shadow (entries.takeWhile entryComplete) := by
  induction entries generalizing shadow with
  | nil =>
    obtain ⟨rfl, rfl⟩ := Prod.mk.inj (Except.ok.inj h)
    exact ⟨rfl, rfl⟩
  | cons entry entries ih =>
    obtain ⟨o, ho, h⟩ := bind_eq_ok.mp h
    have hr := connectEntry_eq_ok ho
    by_cases hc : entryComplete entry = true
    · rw [if_pos hc] at hr
      subst hr
      obtain ⟨h1, h2⟩ := ih h
      rw [List.all_cons, hc, Bool.true_and, List.takeWhile_cons_of_pos hc]
      exact ⟨h1, h2⟩
    · rw [if_neg hc] at hr
      subst hr
      obtain ⟨rfl, rfl⟩ := Prod.mk.inj (Except.ok.inj h)
      rw [List.takeWhile_cons_of_neg hc]
      exact ⟨by simp [hc], rfl⟩

/-- The identity of the device is the same after an entry. -/
theorem entrySafe_applyEntry {shadow : DevShadow} (e entry : Json) :
    EntrySafe (applyEntry shadow e) entry ↔ EntrySafe shadow entry := by
  rw [applyEntry_eq]; rfl

/-- **When the loop reaches no fault**: every entry up to the first incomplete one is safe. -/
theorem connectLoop_defined {entries : List Json} {shadow : DevShadow} :
    Defined (connectLoop entries shadow) ↔
      ∀ entry ∈ entries.takeWhile entryComplete, EntrySafe shadow entry := by
  induction entries generalizing shadow with
  | nil => simp [connectLoop]
  | cons entry entries ih =>
    unfold connectLoop
    rw [defined_bind]
    by_cases hc : entryComplete entry = true
    · rw [List.takeWhile_cons_of_pos hc, List.forall_mem_cons, ← connectEntry_defined]
      constructor
      · rintro ⟨o, ho, hd⟩
        have hr := connectEntry_eq_ok ho
        rw [if_pos hc] at hr
        subst hr
        refine ⟨⟨_, ho⟩, fun e he => ?_⟩
        exact (entrySafe_applyEntry entry e).mp (ih.mp hd e he)
      · rintro ⟨⟨o, ho⟩, hs⟩
        have hr := connectEntry_eq_ok ho
        rw [if_pos hc] at hr
        subst hr
        exact ⟨_, ho, ih.mpr fun e he => (entrySafe_applyEntry entry e).mpr (hs e he)⟩
    · rw [List.takeWhile_cons_of_neg hc, connectEntry_eq, if_neg hc]
      simp

/-! ### What the call does -/

/-- The entries of `deviceInfo`, if the payload has a list under that name. -/
def connectEntries (payload : CString) : Option (List Json) :=
  (cjsonGetObjectItem (cjsonParse payload) (.lit "deviceInfo")).map Json.children

/-- The payload is a list of complete entries: what the call answers with `SUCCESS`. -/
def ListComplete (payload : CString) : Prop :=
  ∃ entries, connectEntries payload = some entries ∧ entries.all entryComplete

theorem listComplete_some {payload : CString} {entries : List Json}
    (h : connectEntries payload = some entries) : ListComplete payload ↔ entries.all entryComplete := by
  unfold ListComplete
  rw [h]
  simp

instance (payload : CString) : Decidable (ListComplete payload) :=
  match h : connectEntries payload with
  | none => isFalse (by rintro ⟨entries, he, -⟩; rw [h] at he; cases he)
  | some entries => decidable_of_iff (entries.all entryComplete) (listComplete_some h).symm

/-- The shadow after a response. -/
def connectRspShadow (payload topic : CString) (shadow : DevShadow) : DevShadow :=
  match connectEntries payload with
  | none => shadow
  | some entries =>
    { shadow with
      status := (applyEntries shadow (entries.takeWhile entryComplete)).status
      flag := if entries.all entryComplete then connectRspFlag topic shadow.flag else shadow.flag }

theorem shadowConnectRsp_eq (payload topic : CString) (shadow : DevShadow) :
    shadowConnectRsp payload topic shadow =
      match connectEntries payload with
      | none => .ok (.error, shadow)
      | some entries =>
        connectLoop entries shadow >>= fun
          | (.error, shadow) => .ok (.error, shadow)
          | (.success, shadow) =>
            .ok (.success, { shadow with flag := connectRspFlag topic shadow.flag }) := by
  unfold shadowConnectRsp connectEntries
  cases cjsonParse payload with
  | none => rfl
  | some root =>
    show connectRspRoot root topic shadow = _
    unfold connectRspRoot
    cases cjsonGetObjectItem (some root) (.lit "deviceInfo") <;> rfl

/-- **What a call does that reaches no fault.** -/
theorem shadowConnectRsp_eq_ok {payload topic : CString} {shadow shadow' : DevShadow} {r : Ret}
    (h : shadowConnectRsp payload topic shadow = .ok (r, shadow')) :
    (r = .success ↔ ListComplete payload) ∧ shadow' = connectRspShadow payload topic shadow := by
  rw [shadowConnectRsp_eq] at h
  unfold ListComplete connectRspShadow
  cases hentries : connectEntries payload with
  | none =>
    rw [hentries] at h
    obtain ⟨rfl, rfl⟩ := Prod.mk.inj (Except.ok.inj h)
    simp
  | some entries =>
    rw [hentries] at h
    obtain ⟨⟨r', s⟩, hl, h⟩ := bind_eq_ok.mp h
    obtain ⟨hr, hs⟩ := connectLoop_eq_ok hl
    rw [applyEntries_eq] at hs
    by_cases hall : entries.all entryComplete = true
    · rw [if_pos hall] at hr
      subst hr hs
      obtain ⟨rfl, rfl⟩ := Prod.mk.inj (Except.ok.inj h)
      refine ⟨⟨fun _ => ⟨entries, rfl, hall⟩, fun _ => rfl⟩, ?_⟩
      simp only [if_pos hall]
    · rw [if_neg hall] at hr
      subst hr hs
      obtain ⟨rfl, rfl⟩ := Prod.mk.inj (Except.ok.inj h)
      refine ⟨⟨(fun h => by cases h), ?_⟩, ?_⟩
      · rintro ⟨entries', he, hall'⟩
        obtain rfl := Option.some.inj he
        exact absurd hall' hall
      · simp only [if_neg hall]

/-- **When the call reaches no fault.** -/
theorem shadowConnectRsp_defined {payload topic : CString} {shadow : DevShadow} :
    Defined (shadowConnectRsp payload topic shadow) ↔
      ∀ entries, connectEntries payload = some entries →
        ∀ entry ∈ entries.takeWhile entryComplete, EntrySafe shadow entry := by
  rw [shadowConnectRsp_eq]
  cases connectEntries payload with
  | none => simp
  | some entries =>
    simp only [Option.some.injEq, forall_eq']
    rw [← connectLoop_defined, defined_bind]
    constructor
    · rintro ⟨a, ha, -⟩; exact ⟨a, ha⟩
    · rintro ⟨⟨r, s⟩, ha⟩
      refine ⟨_, ha, ?_⟩
      cases r <;> simp

end OasisEdge.Shadow.Connect
