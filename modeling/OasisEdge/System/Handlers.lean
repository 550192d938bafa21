import OasisEdge.System.Heartbeat

/-! # What the handlers leave alone

The handlers of the messages (`Handler`) decide in three ways whom a message concerns:
`SHADOW_Update` and `SHADOW_Set_Rsp` compare the identity before they write anything, and
`SHADOW_Connect_Rsp` compares it for each entry of a list, stores the state of an entry before it
looks at the next one, and clears the flag of the topic after a complete list.

So a message about other devices changes nothing, unless it is a complete list on the topic of a
request that is under way (`unchanged_iff`); and a message that is answered with `ERROR` changes
nothing, unless it is a list with an entry that gives the device a new state and an incomplete entry
behind it (`rejected_iff`). -/

namespace OasisEdge.System.Handlers

open OasisEdge.Lib.Chars OasisEdge.Lib.Checking OasisEdge.CJson.Value OasisEdge.CJson.Parse
open OasisEdge.Shadow.State OasisEdge.Shadow.Connect OasisEdge.Shadow.Set OasisEdge.Shadow.Update
open OasisEdge.Led.Driver OasisEdge.System.Platform OasisEdge.System.Heartbeat

/-- The handlers, that of a connection response with the topic it is called with. -/
inductive Handler
  | connectRsp (topic : CString)
  | setRsp
  | update

def Handler.call (payload : CString) (shadow : DevShadow) : Handler → Checked (Ret × DevShadow)
  | .connectRsp topic => shadowConnectRsp payload topic shadow
  | .setRsp => shadowSetRsp payload shadow
  | .update => shadowUpdate payload shadow

/-- No record of the message names this device. -/
def Handler.NamesNone (payload : CString) (shadow : DevShadow) : Handler → Prop
  | .connectRsp _ => ∀ entries ∈ connectEntries payload, ∀ entry ∈ entries, ¬ NamesDevice shadow entry
  | .setRsp | .update => ∀ root ∈ cjsonParse payload, ¬ ForDevice root shadow

/-- The flag that a response on the topic clears. -/
def pendingFlag (topic : CString) (flag : DevShadowFlag) : Flag :=
  if topic = TOPIC_RSP_ONLINE then flag.online
  else if topic = TOPIC_RSP_OFFLINE then flag.offline
  else if topic = TOPIC_RSP_KEEPALIVE then flag.keepalive
  else .rsp

/-- The message is not a complete list on the topic of a request that is under way. -/
def Handler.NothingPending (payload : CString) (shadow : DevShadow) : Handler → Prop
  | .connectRsp topic => ListComplete payload → pendingFlag topic shadow.flag = .rsp
  | .setRsp | .update => True

/-- The last state that the list gives to the device, up to an incomplete entry, is the status it
has. -/
def Handler.NothingNew (payload : CString) (shadow : DevShadow) : Handler → Prop
  | .connectRsp _ => ∀ state, (namedStates shadow payload).getLast? = some state →
      snprintf LENGTH_STATUS state = shadow.status
  | .setRsp | .update => True

/-! ### Messages about other devices -/

theorem connectRspFlag_eq_self {topic : CString} {flag : DevShadowFlag} :
    connectRspFlag topic flag = flag ↔ pendingFlag topic flag = .rsp := by
  unfold connectRspFlag pendingFlag
  simp only [strcmp_eq_zero]
  split_ifs
  · rw [DevShadowFlag.ext_iff]; simp [eq_comm]
  · rw [DevShadowFlag.ext_iff]; simp [eq_comm]
  · rw [DevShadowFlag.ext_iff]; simp [eq_comm]
  · simp

theorem namedStates_eq_nil {payload : CString} {shadow : DevShadow}
    (hno : ∀ entries ∈ connectEntries payload, ∀ entry ∈ entries, ¬ NamesDevice shadow entry) :
    namedStates shadow payload = [] := by
  unfold namedStates
  cases he : connectEntries payload with
  | none => rfl
  | some entries =>
    rw [List.filterMap_eq_nil_iff]
    intro entry hentry
    have hmem : entry ∈ entries := (List.takeWhile_prefix _).subset hentry
    exact if_neg (hno entries he entry hmem)

theorem connectRspShadow_eq_self {payload topic : CString} {shadow : DevShadow} :
    connectRspShadow payload topic shadow = shadow ↔
      statusAfter shadow.status (namedStates shadow payload) = shadow.status ∧
        (ListComplete payload → pendingFlag topic shadow.flag = .rsp) := by
  have hstatus := (connectRspShadow_keepalive payload topic shadow).2
  rw [← hstatus, ← connectRspFlag_eq_self]
  unfold connectRspShadow
  cases he : connectEntries payload with
  | none =>
    have hlist : ¬ ListComplete payload := by
      rintro ⟨entries, hs, -⟩
      rw [he] at hs
      cases hs
    simp [hlist]
  | some entries =>
    rw [listComplete_some he, DevShadow.ext_iff]
    by_cases hall : entries.all entryComplete = true
    · simp [hall]
    · simp [hall]

theorem forDevice_of_acknowledges {root : Json} {a : Answer} {shadow : DevShadow}
    (ha : readAnswer root = some a) (hack : a.Acknowledges shadow) : ForDevice root shadow := by
  simp only [readAnswer, Option.bind_eq_bind, Option.bind_eq_some_iff] at ha
  obtain ⟨productKey, hp, deviceID, hd, statusCode, -, statusStr, -, version, -, ha⟩ := ha
  obtain rfl := Option.some.inj ha
  refine ⟨?_, ?_⟩
  · rw [stringField, hp]; exact hack.1
  · rw [stringField, hd]; exact hack.2.1

/-- **When a message about other devices changes nothing**: it is no complete list on the topic of a
request that is under way. -/
theorem unchanged_iff {handler : Handler} {payload : CString} {shadow shadow' : DevShadow} {r : Ret}
    (h : handler.call payload shadow = .ok (r, shadow')) (hno : handler.NamesNone payload shadow) :
    shadow' = shadow ↔ handler.NothingPending payload shadow := by
  cases handler with
  | connectRsp topic =>
    obtain ⟨-, rfl⟩ := shadowConnectRsp_eq_ok h
    have hnil : namedStates shadow payload = [] := namedStates_eq_nil hno
    rw [connectRspShadow_eq_self, hnil]
    exact and_iff_right rfl
  | setRsp =>
    refine iff_of_true ?_ trivial
    rcases shadowSetRsp_eq_ok h with hs | ⟨-, root, a, hroot, ha, hack, -⟩
    · exact hs
    · exact absurd (forDevice_of_acknowledges ha hack) (hno root hroot)
  | update =>
    refine iff_of_true ?_ trivial
    rcases shadowUpdate_eq_ok h with hs | ⟨-, root, sw, swTimestamp, version, hroot, hacc, -⟩
    · exact hs
    · exact absurd hacc.forDevice (hno root hroot)

/-- The shadow while an online request is under way. -/
def requestedShadow : DevShadow :=
  (shadowConnectReq sentEnv TOPIC_REQ_ONLINE (ledInit LED_OFF (.zero _) 0)).2.1

def neighbourText : CString := connectText (.lit "other") (.lit "1") DEV_ONLINE

theorem unchanged_iff_neighbourText : ∃ r shadow',
    Handler.call neighbourText requestedShadow (.connectRsp TOPIC_RSP_OFFLINE) =
      .ok (r, shadow') ∧ shadow' = requestedShadow := by
  have hcall : Defined
      (Handler.call neighbourText requestedShadow (.connectRsp TOPIC_RSP_OFFLINE)) := by
    decide +kernel
  obtain ⟨⟨r, shadow'⟩, h⟩ := hcall
  have hno : (Handler.connectRsp TOPIC_RSP_OFFLINE).NamesNone neighbourText requestedShadow := by
    unfold Handler.NamesNone
    decide +kernel
  exact ⟨r, shadow', h, (unchanged_iff h hno).mpr fun _ => by decide +kernel⟩

/-- **The answer to a neighbour cancels the request of this device.** -/
theorem changed_by_neighbour :
    (Handler.connectRsp TOPIC_RSP_ONLINE).NamesNone neighbourText requestedShadow ∧
      ∃ r shadow', Handler.call neighbourText requestedShadow (.connectRsp TOPIC_RSP_ONLINE) =
        .ok (r, shadow') ∧ shadow' ≠ requestedShadow := by
  refine ⟨by unfold Handler.NamesNone; decide +kernel, .success,
    { requestedShadow with flag := { requestedShadow.flag with online := .rsp } }, ?_⟩
  decide +kernel

/-! ### Messages that are answered with `ERROR` -/

theorem statusAfter_eq_self {status : CBuf LENGTH_STATUS} {states : List CString} :
    statusAfter status states = status ↔
      ∀ state, states.getLast? = some state → snprintf LENGTH_STATUS state = status := by
  rw [statusAfter_eq]
  cases states.getLast? with
  | none => simp
  | some state => simp

/-- **When a message that is answered with `ERROR` changes nothing**: the list gives the device no
new state before its incomplete entry. -/
theorem rejected_iff {handler : Handler} {payload : CString} {shadow shadow' : DevShadow}
    (h : handler.call payload shadow = .ok (.error, shadow')) :
    shadow' = shadow ↔ handler.NothingNew payload shadow := by
  cases handler with
  | connectRsp topic =>
    obtain ⟨hret, rfl⟩ := shadowConnectRsp_eq_ok h
    have hlist : ¬ ListComplete payload := fun hl => by cases hret.mpr hl
    rw [connectRspShadow_eq_self, statusAfter_eq_self]
    exact and_iff_left fun hl => absurd hl hlist
  | setRsp =>
    refine iff_of_true ?_ trivial
    rcases shadowSetRsp_eq_ok h with hs | ⟨hret, -⟩
    · exact hs
    · cases hret
  | update =>
    refine iff_of_true ?_ trivial
    rcases shadowUpdate_eq_ok h with hs | ⟨hret, -⟩
    · exact hs
    · cases hret

def brokenText : CString :=
  .lit "\x7b\"deviceInfo\":[\x7b\"productKey\":\"PhGITmeS\",\"deviceID\":\"986753\"," ++
    .lit "\"state\":\"online\"\x7d,\x7b\x7d]\x7d"

/-- The device is online already, so the entry before the incomplete one gives it nothing new. -/
theorem rejected_iff_brokenText : ∃ shadow',
    Handler.call brokenText { requestedShadow with status := snprintf LENGTH_STATUS DEV_ONLINE }
        (.connectRsp TOPIC_RSP_ONLINE) = .ok (.error, shadow') ∧
      shadow' = { requestedShadow with status := snprintf LENGTH_STATUS DEV_ONLINE } := by
  generalize hs : { requestedShadow with status := snprintf LENGTH_STATUS DEV_ONLINE } = shadow
  have hcall : Handler.call brokenText shadow (.connectRsp TOPIC_RSP_ONLINE) = .ok (.error, shadow) := by
    subst hs
    decide +kernel
  refine ⟨_, hcall, (rejected_iff hcall).mpr fun state hstate => ?_⟩
  subst hs
  have hone : (namedStates { requestedShadow with status := snprintf LENGTH_STATUS DEV_ONLINE }
      brokenText).getLast? = some DEV_ONLINE := by
    decide +kernel
  obtain rfl := Option.some.inj (hone.symm.trans hstate)
  rfl

/-- **A list that is answered with `ERROR` sets the device online.** -/
theorem changed_by_rejected :
    Handler.call brokenText requestedShadow (.connectRsp TOPIC_RSP_ONLINE) =
      .ok (.error, { requestedShadow with status := snprintf LENGTH_STATUS DEV_ONLINE }) ∧
        { requestedShadow with status := snprintf LENGTH_STATUS DEV_ONLINE } ≠ requestedShadow := by
  decide +kernel

end OasisEdge.System.Handlers
