import OasisEdge.System.Heartbeat

/-! # A connection response stores the last state given to the device

A response whose list is complete stores the state of its last entry that names the device and has a
string state, cut to the size of the status (`StoresLast`), and clears the flag of its topic alone
(`answeredFlag`); a response that lacks a field leaves every flag (`shadowConnectRsp_outcome`).

An entry is printed and parsed again before it is read. What is read from it is the same as from the
entry itself (`connectEntry_eq_direct`). -/

namespace OasisEdge.System.LastState

open OasisEdge.Lib.Chars OasisEdge.Lib.Checking OasisEdge.CJson.Value OasisEdge.CJson.Parse
open OasisEdge.Shadow.State OasisEdge.Shadow.Connect OasisEdge.Led.Driver
open OasisEdge.System.Platform OasisEdge.System.Heartbeat

/-! ### Reading an entry directly -/

/-- One turn of the loop over `deviceInfo` that reads the entry it is given, without printing it. -/
def connectEntryDirect (entry : Json) (shadow : DevShadow) : Checked (Option DevShadow) :=
  match cjsonGetObjectItem entry (.lit "productKey") with
  | none => .ok none
  | some rspProductKey =>
    match cjsonGetObjectItem entry (.lit "deviceID") with
    | none => .ok none
    | some rspDeviceID =>
      match cjsonGetObjectItem entry (.lit "state") with
      | none => .ok none
      | some state => do
        let productKey ← need .nullString rspProductKey.valuestring
        if strcmp shadow.productKey.str productKey = 0 then
          let deviceID ← need .nullString rspDeviceID.valuestring
          if strcmp shadow.deviceID.str deviceID = 0 then
            match state.valuestring with
            | some status => .ok (some { shadow with status := snprintf LENGTH_STATUS status })
            | none => .ok (some shadow)
          else .ok (some shadow)
        else .ok (some shadow)

/-- **The detour changes nothing**: an entry that was printed and parsed again has the same fields,
with the same strings in them. -/
theorem connectEntry_eq_direct (entry : Json) (shadow : DevShadow) :
    connectEntry entry shadow = connectEntryDirect entry shadow := by
  have hdetour : connectEntry entry shadow = connectEntryDirect (reparse entry) shadow := rfl
  rw [hdetour]
  unfold connectEntryDirect
  rcases field_reparse entry (.lit "productKey") with ⟨h1, h1'⟩ | ⟨jp, h1, h1'⟩
  · simp only [h1, h1']
  rcases field_reparse entry (.lit "deviceID") with ⟨h2, h2'⟩ | ⟨jd, h2, h2'⟩
  · simp only [h1, h1', h2, h2']
  rcases field_reparse entry (.lit "state") with ⟨h3, h3'⟩ | ⟨js, h3, h3'⟩
  · simp only [h1, h1', h2, h2', h3, h3']
  simp only [h1, h1', h2, h2', h3, h3', valuestring_reparse]

/-! ### The last state given -/

/-- The state an entry gives to the device. -/
def stateGiven (shadow : DevShadow) (entry : Json) : Option CString :=
  if NamesDevice shadow entry then stringField entry (.lit "state") else none

/-- The entry is the last one that gives the device a state. -/
def GivesLast (shadow : DevShadow) (entries : List Json) (state : CString) : Prop :=
  ∃ before entry after, entries = before ++ entry :: after ∧ stateGiven shadow entry = some state ∧
    ∀ e ∈ after, stateGiven shadow e = none

/-- The status after the list: the first bytes of the last state given to the device, and the one
before if none is given. -/
structure StoresLast (shadow : DevShadow) (entries : List Json) (status : CBuf LENGTH_STATUS) :
    Prop where
  given : ∀ state, GivesLast shadow entries state → status.str = state.take 10
  unchanged : (∀ entry ∈ entries, stateGiven shadow entry = none) → status = shadow.status

theorem storesLast_applyEntries (shadow : DevShadow) (entries : List Json) :
    StoresLast shadow entries (applyEntries shadow entries).status := by
  have hstatus : (applyEntries shadow entries).status =
      statusAfter shadow.status (entries.filterMap (stateGiven shadow)) :=
    applyEntries_status shadow entries
  refine ⟨?_, fun hnone => ?_⟩
  · rintro state ⟨before, entry, after, rfl, hgiven, hafter⟩
    have hlast : ((before ++ entry :: after).filterMap (stateGiven shadow)).getLast? =
        some state := by
      rw [List.filterMap_append, List.filterMap_cons_some hgiven,
        List.filterMap_eq_nil_iff.mpr hafter, List.getLast?_concat]
    rw [hstatus, statusAfter_eq, hlast]
    rfl
  · rw [hstatus, List.filterMap_eq_nil_iff.mpr hnone]
    rfl

/-! ### The outcome of a response -/

/-- The flags after a response on a topic that was answered. -/
def answeredFlag (topic : CString) (flag : DevShadowFlag) : DevShadowFlag where
  online := if topic = TOPIC_RSP_ONLINE then .rsp else flag.online
  offline := if topic = TOPIC_RSP_OFFLINE then .rsp else flag.offline
  keepalive := if topic = TOPIC_RSP_KEEPALIVE then .rsp else flag.keepalive
  setShadow := flag.setShadow

theorem connectRspFlag_eq (topic : CString) (flag : DevShadowFlag) :
    connectRspFlag topic flag = answeredFlag topic flag := by
  have hoff : TOPIC_RSP_OFFLINE ≠ TOPIC_RSP_ONLINE := by decide
  have hkeep : TOPIC_RSP_KEEPALIVE ≠ TOPIC_RSP_ONLINE := by decide
  have hkeep' : TOPIC_RSP_KEEPALIVE ≠ TOPIC_RSP_OFFLINE := by decide
  unfold connectRspFlag answeredFlag
  simp only [strcmp_eq_zero]
  by_cases h1 : topic = TOPIC_RSP_ONLINE
  · subst h1
    simp [hoff.symm, hkeep.symm]
  · by_cases h2 : topic = TOPIC_RSP_OFFLINE
    · subst h2
      simp [hoff, hkeep'.symm]
    · by_cases h3 : topic = TOPIC_RSP_KEEPALIVE
      · subst h3
        simp [hkeep, hkeep']
      · simp [h1, h2, h3]

/-- The identifiers of an entry are strings where they are there. -/
structure StringIdentity (entry : Json) : Prop where
  productKey : StringIfPresent entry (.lit "productKey")
  deviceID : StringIfPresent entry (.lit "deviceID")

theorem stringIfPresent_of_isSome {entry : Json} {name : CString}
    (h : (stringField entry name).isSome) : StringIfPresent entry name := by
  intro item hitem
  unfold stringField at h
  rw [hitem] at h
  exact Option.isSome_iff_exists.mp h

/-- The fields that are there are strings, so the comparisons have strings to compare. -/
theorem StringIdentity.entrySafe {entry : Json} (h : StringIdentity entry) (shadow : DevShadow) :
    EntrySafe shadow entry := by
  intro hc
  simp only [entryComplete, Bool.and_eq_true, Option.isSome_iff_exists] at hc
  obtain ⟨⟨⟨jp, hp⟩, jd, hd⟩, -⟩ := hc
  obtain ⟨productKey, hpk⟩ := h.productKey jp hp
  obtain ⟨deviceID, hdv⟩ := h.deviceID jd hd
  unfold stringField
  rw [hp, hd]
  exact ⟨productKey, hpk, fun _ => ⟨deviceID, hdv⟩⟩

theorem connectRspShadow_complete {payload : CString} {entries : List Json}
    (he : connectEntries payload = some entries) (hall : entries.all entryComplete = true)
    (topic : CString) (shadow : DevShadow) : connectRspShadow payload topic shadow =
      { shadow with
        status := (applyEntries shadow entries).status
        flag := answeredFlag topic shadow.flag } := by
  unfold connectRspShadow
  rw [he]
  dsimp only
  rw [if_pos hall, List.takeWhile_eq_self_iff.mpr (List.all_eq_true.mp hall), connectRspFlag_eq]

/-- A list that is not complete leaves the flags. -/
theorem connectRspShadow_flag {payload : CString} (h : ¬ ListComplete payload) (topic : CString)
    (shadow : DevShadow) : (connectRspShadow payload topic shadow).flag = shadow.flag := by
  unfold connectRspShadow
  cases he : connectEntries payload with
  | none => rfl
  | some entries =>
    rw [listComplete_some he] at h
    exact if_neg h

/-- **What a connection response does**, whatever its topic: a complete list stores the last state
it gives to the device and clears the flag of the topic; without `deviceInfo`, or with an entry that
lacks a field, the answer is `ERROR` and no flag changes. Reading an entry after printing it is
reading the entry. -/
theorem shadowConnectRsp_outcome {payload : CString}
    (hstr : ∀ entries, connectEntries payload = some entries →
      ∀ entry ∈ entries, StringIdentity entry) (topic : CString) (shadow : DevShadow) :
    (∀ entries, connectEntries payload = some entries → entries.all entryComplete →
      ∃ status, StoresLast shadow entries status ∧ shadowConnectRsp payload topic shadow =
        .ok (.success, { shadow with
          status := status
          flag := answeredFlag topic shadow.flag })) ∧
    (¬ ListComplete payload → ∃ shadow', shadowConnectRsp payload topic shadow =
      .ok (.error, shadow') ∧ shadow'.flag = shadow.flag) ∧
    ∀ entry, connectEntry entry shadow = connectEntryDirect entry shadow := by
  have hdef : Defined (shadowConnectRsp payload topic shadow) :=
    shadowConnectRsp_defined.mpr fun entries he entry hmem =>
      (hstr entries he entry ((List.takeWhile_sublist _).subset hmem)).entrySafe shadow
  obtain ⟨⟨r, shadow'⟩, hok⟩ := hdef
  obtain ⟨hr, rfl⟩ := shadowConnectRsp_eq_ok hok
  refine ⟨fun entries he hall => ?_, fun hno => ?_, fun entry => connectEntry_eq_direct entry shadow⟩
  · have hsucc : r = .success := hr.mpr ((listComplete_some he).mpr hall)
    refine ⟨_, storesLast_applyEntries shadow entries, ?_⟩
    rw [hok, hsucc, connectRspShadow_complete he hall]
  · cases r with
    | success => exact absurd (hr.mp rfl) hno
    | error => exact ⟨_, hok, connectRspShadow_flag hno topic shadow⟩

/-- An entry of a response. -/
def listEntry (productKey deviceID state : CString) : Json :=
  .obj [(.lit "productKey", .str productKey), (.lit "deviceID", .str deviceID),
    (.lit "state", .str state)]

/-- A response that lists another device and, twice, the LED. -/
def threeText : CString :=
  .lit "\x7b\"deviceInfo\":[\x7b\"productKey\":\"other\",\"deviceID\":\"1\",\"state\":\"offline\"\x7d," ++
    .lit "\x7b\"productKey\":\"PhGITmeS\",\"deviceID\":\"986753\",\"state\":\"offline\"\x7d," ++
    .lit "\x7b\"productKey\":\"PhGITmeS\",\"deviceID\":\"986753\",\"state\":\"online\"\x7d]\x7d"

/-- The entries of that response. -/
def threeEntries : List Json :=
  [listEntry (.lit "other") (.lit "1") DEV_OFFLINE, listEntry PRODUCTKEY DEVICEID DEV_OFFLINE,
    listEntry PRODUCTKEY DEVICEID DEV_ONLINE]

theorem shadowConnectRsp_outcome_three :
    let shadow := ledInit LED_OFF (.zero _) 0
    ∃ status, StoresLast shadow threeEntries status ∧
      shadowConnectRsp threeText TOPIC_RSP_ONLINE shadow =
        .ok (.success, { shadow with
          status := status
          flag := answeredFlag TOPIC_RSP_ONLINE shadow.flag }) := by
  have hentries : connectEntries threeText = some threeEntries := by decide +kernel
  have hstr : ∀ entries, connectEntries threeText = some entries →
      ∀ entry ∈ entries, StringIdentity entry := by
    intro entries he entry hmem
    obtain rfl := Option.some.inj (hentries.symm.trans he)
    have hall : ∀ entry ∈ threeEntries, (stringField entry (.lit "productKey")).isSome = true ∧
        (stringField entry (.lit "deviceID")).isSome = true := by decide
    exact ⟨stringIfPresent_of_isSome (hall entry hmem).1, stringIfPresent_of_isSome (hall entry hmem).2⟩
  exact (shadowConnectRsp_outcome hstr TOPIC_RSP_ONLINE _).1 _ hentries (by decide)

end OasisEdge.System.LastState
