import OasisEdge.Led.Driver

/-! # The sample client: `messageArrived` and the steps of the device

`messageArrived` hands the payload to the handler of its topic. The payload it is given is a buffer
of `payloadlen` bytes; the handlers read it as a C string, so what they see are the bytes up to the
first NUL in the buffer or in the memory behind it (`messageArrivedAt`). `onConnect` subscribes the
topics it is given messages on (`subscribedTopics`), all of `topics` but the last.

The device takes one step at a time: a message, or a turn of one of the three loops (`deviceStep`).
`messageArrived_effect` lists what a message can do. -/

namespace OasisEdge.Sample.EdgeClient

open OasisEdge.Lib.Chars OasisEdge.Lib.Checking OasisEdge.CJson.Value OasisEdge.CJson.Parse
open OasisEdge.App.Func OasisEdge.Shadow.State OasisEdge.Shadow.Connect OasisEdge.Shadow.Set
open OasisEdge.Shadow.Update OasisEdge.Led.Driver

/-! ### Subscriptions -/

/-- The array of topics in `onConnect`. -/
def topics : List CString :=
  [TOPIC_RSP_ONLINE, TOPIC_RSP_OFFLINE, TOPIC_RSP_SET_SHADOW, TOPIC_RSP_KEEPALIVE,
    TOPIC_UPDATE_SHADOW, TOPIC_RSP_CALL_FUNCTION]

def TOPIC_SUB_CNT : ℕ := 5

/-- The topics `MQTTAsync_subscribeMany` is told to subscribe: the first `TOPIC_SUB_CNT`. -/
def subscribedTopics : List CString := topics.take TOPIC_SUB_CNT

/-! ### Messages -/

/-- The dispatch of `messageArrived`. -/
def messageArrived (spi : SpiEnv) (topicName payload : CString) (dev : Device) :
    Checked (Device × List Output) :=
  if strcmp TOPIC_RSP_ONLINE topicName = 0 then ledOnlineRsp payload dev
  else if strcmp TOPIC_RSP_OFFLINE topicName = 0 then ledOfflineRsp payload dev
  else if strcmp TOPIC_UPDATE_SHADOW topicName = 0 then do
    let (_, dev, out) ← ledUpdateShadow spi payload dev
    .ok (dev, out)
  else if strcmp TOPIC_RSP_SET_SHADOW topicName = 0 then ledSetShadowRsp payload dev
  else if strcmp TOPIC_RSP_KEEPALIVE topicName = 0 then ledKeepaliveRsp payload dev
  else if strcmp TOPIC_RSP_CALL_FUNCTION topicName = 0 then ledFuncRsp payload dev
  else .ok (dev, [])

/-- `messageArrived` on a buffer, with the memory that follows the buffer. -/
def messageArrivedAt (spi : SpiEnv) (topicName : CString) (payload memory : List UInt8)
    (dev : Device) : Checked (Device × List Output) :=
  messageArrived spi topicName (.ofBytes (payload ++ memory)) dev

/-! ### Steps -/

/-- What can happen to the device. -/
inductive Event
  | message (spi : SpiEnv) (topicName payload : CString)
  | monitorTick (env : MonitorEnv)
  | keepaliveTick (env : KeepaliveEnv)
  | funcTick (env : FuncEnv)

/-- One step of the device: the new device, and the effects in order. -/
def deviceStep (dev : Device) : Event → Checked (Device × List Output)
  | .message spi topicName payload => messageArrived spi topicName payload dev
  | .monitorTick env => ledMonitorTick env dev
  | .keepaliveTick env => .ok (ledKeepaliveTick env dev)
  | .funcTick env => .ok (ledFuncTick env dev)

/-! ### The dispatch by topic -/

/-- The topics of the connection responses. -/
def connectTopics : List CString := [TOPIC_RSP_ONLINE, TOPIC_RSP_OFFLINE, TOPIC_RSP_KEEPALIVE]

section
variable {spi : SpiEnv} {topicName payload : CString} {dev : Device}

/-- The three connection responses differ in the topic they pass on. -/
theorem messageArrived_connect (h : topicName ∈ connectTopics) :
    messageArrived spi topicName payload dev =
      onShadow dev (shadowConnectRsp payload topicName dev.ledShadow) := by
  unfold messageArrived
  simp only [connectTopics, List.mem_cons, List.not_mem_nil, or_false] at h
  rcases h with rfl | rfl | rfl
  · rw [if_pos (by decide)]; rfl
  · rw [if_neg (by decide), if_pos (by decide)]; rfl
  · rw [if_neg (by decide), if_neg (by decide), if_neg (by decide), if_neg (by decide),
      if_pos (by decide)]
    rfl

theorem messageArrived_update : messageArrived spi TOPIC_UPDATE_SHADOW payload dev = (do
    let (_, dev, out) ← ledUpdateShadow spi payload dev
    .ok (dev, out)) := by
  unfold messageArrived
  rw [if_neg (by decide), if_neg (by decide), if_pos (by decide)]

theorem messageArrived_unparsed (h : cjsonParse payload = none) :
    messageArrived spi TOPIC_UPDATE_SHADOW payload dev = .ok (dev, []) := by
  rw [messageArrived_update, ledUpdateShadow, shadowUpdate, h]
  rfl

/-- What a notification leaves, by what became of it. -/
def afterVerdict (spi : SpiEnv) (dev : Device) : Verdict → Device × List Output
  | .error => (dev, [])
  | .ignored => (driveLed spi dev).2
  | .accepted sw swTimestamp version =>
    (driveLed spi { dev with ledShadow := takeOver dev.ledShadow sw swTimestamp version }).2

/-- **The update**, as what becomes of the notification and what that leaves. -/
theorem messageArrived_verdict {root : Json} (h : cjsonParse payload = some root) :
    messageArrived spi TOPIC_UPDATE_SHADOW payload dev = (do
      let v ← readUpdate root dev.ledShadow
      .ok (afterVerdict spi dev v)) := by
  rw [messageArrived_update, ledUpdateShadow, shadowUpdate, h]
  show (updateRoot root dev.ledShadow >>= _) >>= _ = _
  unfold updateRoot
  cases readUpdate root dev.ledShadow with
  | error f => rfl
  | ok v => cases v <;> rfl

theorem messageArrived_setShadow :
    messageArrived spi TOPIC_RSP_SET_SHADOW payload dev = ledSetShadowRsp payload dev := by
  unfold messageArrived
  rw [if_neg (by decide), if_neg (by decide), if_neg (by decide), if_pos (by decide)]

/-- On every other topic nothing happens, a reply to a function call being no success. -/
theorem messageArrived_other (hc : topicName ∉ connectTopics) (hu : topicName ≠ TOPIC_UPDATE_SHADOW)
    (hs : topicName ≠ TOPIC_RSP_SET_SHADOW) :
    messageArrived spi topicName payload dev = .ok (dev, []) := by
  simp only [connectTopics, List.mem_cons, List.not_mem_nil, or_false, not_or] at hc
  obtain ⟨h1, h2, h3⟩ := hc
  unfold messageArrived
  simp only [strcmp_eq_zero]
  rw [if_neg (Ne.symm h1), if_neg (Ne.symm h2), if_neg (Ne.symm hu), if_neg (Ne.symm hs),
    if_neg (Ne.symm h3), ledFuncRsp, funcCallRsp_eq]
  split_ifs <;> rfl

end

/-! ### What a message can do -/

/-- What a message that reaches no fault does: `MessageEffect spi topic payload dev dev' out`. -/
inductive MessageEffect (spi : SpiEnv) (topicName payload : CString) (dev : Device) :
    Device → List Output → Prop
  /-- Nothing changes. -/
  | nothing (htopic : topicName ∉ connectTopics) : MessageEffect spi topicName payload dev dev []
  /-- A connection response. -/
  | connect (htopic : topicName ∈ connectTopics) :
      MessageEffect spi topicName payload dev
        { dev with ledShadow := connectRspShadow payload topicName dev.ledShadow } []
  /-- An answer that acknowledges the present version. -/
  | acknowledged {root : Json} {a : Answer} (htopic : topicName = TOPIC_RSP_SET_SHADOW)
      (hroot : cjsonParse payload = some root) (ha : readAnswer root = some a)
      (hack : a.Acknowledges dev.ledShadow) :
      MessageEffect spi topicName payload dev
        { dev with ledShadow := setRspShadow dev.ledShadow } []
  /-- An update for this device. -/
  | updated {root : Json} {sw : CString} {swTimestamp : UInt64} {version : ℤ}
      (htopic : topicName = TOPIC_UPDATE_SHADOW) (hroot : cjsonParse payload = some root)
      (hacc : Accepts root dev.ledShadow sw swTimestamp version) :
      MessageEffect spi topicName payload dev
        (driveLed spi { dev with ledShadow := takeOver dev.ledShadow sw swTimestamp version }).2.1
        (driveLed spi { dev with ledShadow := takeOver dev.ledShadow sw swTimestamp version }).2.2
  /-- An update for another device: the LED is driven all the same. -/
  | otherDevice {root : Json} (htopic : topicName = TOPIC_UPDATE_SHADOW)
      (hroot : cjsonParse payload = some root)
      (hread : readUpdate root dev.ledShadow = .ok .ignored) :
      MessageEffect spi topicName payload dev (driveLed spi dev).2.1 (driveLed spi dev).2.2

theorem setShadow_not_connect : TOPIC_RSP_SET_SHADOW ∉ connectTopics := by decide

theorem update_not_connect : TOPIC_UPDATE_SHADOW ∉ connectTopics := by decide

theorem onShadow_eq_ok {dev dev' : Device} {r : Checked (Ret × DevShadow)} {out : List Output} :
    onShadow dev r = .ok (dev', out) ↔
      ∃ ret shadow, r = .ok (ret, shadow) ∧ dev' = { dev with ledShadow := shadow } ∧ out = [] := by
  unfold onShadow
  rw [bind_eq_ok]
  constructor
  · rintro ⟨⟨ret, shadow⟩, hr, h⟩
    obtain ⟨rfl, rfl⟩ := Prod.mk.inj (Except.ok.inj h)
    exact ⟨ret, shadow, hr, rfl, rfl⟩
  · rintro ⟨ret, shadow, hr, rfl, rfl⟩
    exact ⟨(ret, shadow), hr, rfl⟩

theorem connect_effect {spi : SpiEnv} {topicName payload : CString} {dev dev' : Device}
    {out : List Output} (htopic : topicName ∈ connectTopics)
    (h : onShadow dev (shadowConnectRsp payload topicName dev.ledShadow) = .ok (dev', out)) :
    MessageEffect spi topicName payload dev dev' out := by
  obtain ⟨ret, shadow, hr, rfl, rfl⟩ := onShadow_eq_ok.mp h
  rw [(shadowConnectRsp_eq_ok hr).2]
  exact .connect htopic

theorem setRsp_effect {spi : SpiEnv} {topicName payload : CString} {dev dev' : Device}
    {out : List Output} (htopic : topicName = TOPIC_RSP_SET_SHADOW)
    (h : ledSetShadowRsp payload dev = .ok (dev', out)) :
    MessageEffect spi topicName payload dev dev' out := by
  obtain ⟨ret, shadow, hr, rfl, rfl⟩ := onShadow_eq_ok.mp h
  unfold shadowSetRsp at hr
  cases hroot : cjsonParse payload with
  | none =>
    rw [hroot] at hr
    obtain ⟨-, rfl⟩ := Prod.mk.inj (Except.ok.inj hr)
    exact .nothing (by rw [htopic]; exact setShadow_not_connect)
  | some root =>
    rw [hroot] at hr
    rcases setRspRoot_eq_ok hr with ⟨⟨a, ha, hack⟩, rfl⟩ | ⟨-, rfl⟩
    · exact .acknowledged htopic hroot ha hack
    · exact .nothing (by rw [htopic]; exact setShadow_not_connect)

theorem update_effect {spi : SpiEnv} {payload : CString} {dev dev' : Device} {out : List Output}
    (h : messageArrived spi TOPIC_UPDATE_SHADOW payload dev = .ok (dev', out)) :
    MessageEffect spi TOPIC_UPDATE_SHADOW payload dev dev' out := by
  cases hroot : cjsonParse payload with
  | none =>
    rw [messageArrived_unparsed hroot] at h
    obtain ⟨rfl, rfl⟩ := Prod.mk.inj (Except.ok.inj h)
    exact .nothing update_not_connect
  | some root =>
    rw [messageArrived_verdict hroot] at h
    obtain ⟨v, hv, h⟩ := bind_eq_ok.mp h
    have hafter : afterVerdict spi dev v = (dev', out) := Except.ok.inj h
    have heffect : MessageEffect spi TOPIC_UPDATE_SHADOW payload dev (afterVerdict spi dev v).1
        (afterVerdict spi dev v).2 := by
      cases v with
      | error => exact .nothing update_not_connect
      | ignored => exact .otherDevice rfl hroot hv
      | accepted sw swTimestamp version => exact .updated rfl hroot (readUpdate_accepted.mp hv)
    rw [hafter] at heffect
    exact heffect

/-- **What a message can do.** -/
theorem messageArrived_effect {spi : SpiEnv} {topicName payload : CString} {dev dev' : Device}
    {out : List Output} (h : messageArrived spi topicName payload dev = .ok (dev', out)) :
    MessageEffect spi topicName payload dev dev' out := by
  by_cases hc : topicName ∈ connectTopics
  · rw [messageArrived_connect hc] at h
    exact connect_effect hc h
  by_cases hu : topicName = TOPIC_UPDATE_SHADOW
  · subst hu
    exact update_effect h
  by_cases hs : topicName = TOPIC_RSP_SET_SHADOW
  · rw [hs, messageArrived_setShadow] at h
    exact setRsp_effect hs h
  · rw [messageArrived_other hc hu hs] at h
    obtain ⟨rfl, rfl⟩ := Prod.mk.inj (Except.ok.inj h)
    exact .nothing hc

end OasisEdge.Sample.EdgeClient
