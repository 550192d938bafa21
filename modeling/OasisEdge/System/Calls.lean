import OasisEdge.System.Platform
import OasisEdge.System.Steps

/-! # Replies to function calls

The LED and a broker that delivers, in any order, the messages published on the topics `onConnect`
subscribes, and no others. The platform and other devices publish what they like; a run in which the
platform replies to a function call of the LED is a `CallRun`.

No such run completes its call (`not_completed`), for two reasons, each of which is enough. The
count `onConnect` passes leaves out the last of its topics, the one of the replies, so no reply is
queued for the LED (`not_delivered`). And a reply that arrived would be no success: `FUNC_Call_Rsp`
compares the keys of the members `name` and `service`, and `func_flag` stays `FLAG_REQ` whatever
arrives (`deviceStep_funcFlag`). Of all texts the handler treats rightly exactly those that are no
successful reply (`acceptsExactly_iff`). -/

namespace OasisEdge.System.Calls

open OasisEdge.Lib.Chars OasisEdge.Lib.Checking OasisEdge.Lib.Runs OasisEdge.CJson.Value
open OasisEdge.CJson.Parse OasisEdge.App.Func OasisEdge.Shadow.State OasisEdge.Led.Driver
open OasisEdge.Sample.EdgeClient OasisEdge.System.Platform OasisEdge.System.Steps

/-! ### The system -/

/-- A message the broker will deliver. -/
structure Queued where
  id : ℕ
  topicName : CString
  payload : CString
deriving DecidableEq

/-- The device, the number of messages published to it so far, and those not delivered yet. -/
structure Site where
  dev : Device
  published : ℕ
  queue : List Queued

/-- What can happen: a turn of a loop, a message is published, the broker delivers message `id`. -/
inductive SiteEvent
  | turn (e : Event)
  | publish (topicName payload : CString)
  | deliver (spi : SpiEnv) (id : ℕ)

/-- The event is a turn of a loop. -/
def IsTurn : Event → Prop
  | .message _ _ _ => False
  | _ => True

instance : (e : Event) → Decidable (IsTurn e)
  | .message _ _ _ => isFalse id
  | .monitorTick _ | .keepaliveTick _ | .funcTick _ => isTrue trivial

/-- The site after a step of its device. -/
def Site.onDevice (site : Site) (r : Checked (Device × List Output)) :
    Except Stop (Site × List Output) :=
  match r with
  | .error f => .error (.fault f)
  | .ok (dev, out) => .ok ({ site with dev := dev }, out)

/-- The queue after a message was published: the broker keeps it if its topic is subscribed. -/
def Site.enqueue (site : Site) (topicName payload : CString) : Site :=
  { site with
    published := site.published + 1
    queue := if topicName ∈ subscribedTopics then site.queue ++ [⟨site.published, topicName, payload⟩]
      else site.queue }

/-- The queue without message `id`. -/
def Site.dequeue (site : Site) (id : ℕ) : Site :=
  { site with queue := site.queue.filter (·.id ≠ id) }

/-- One step of the system. -/
def siteStep (site : Site) : SiteEvent → Except Stop (Site × List Output)
  | .turn e =>
    if IsTurn e then site.onDevice (deviceStep site.dev e) else .error .impossible
  | .publish topicName payload => .ok (site.enqueue topicName payload, [])
  | .deliver spi id =>
    match site.queue.find? (·.id = id) with
    | none => .error .impossible
    | some m =>
      (site.dequeue id).onDevice (messageArrived spi m.topicName m.payload site.dev)

/-- The installed LED, with no message under way. -/
def installedSite (ledState : UInt8) (uuid : CBuf LENGTH_TOKEN) (unixTime : UInt64)
    (regs : UInt8 → UInt8) : Site :=
  ⟨ledInstall ledState uuid unixTime regs, 0, []⟩

/-! ### Replies -/

/-- The fields of a request that a reply repeats. -/
def echoedFields : List CString :=
  [.lit "name", .lit "service", .lit "token", .lit "timestamp"]

/-- **A successful reply** to a function call: it repeats the fields of the request, and has status
`200` and a text of the status. -/
structure Answers (request reply : Json) : Prop where
  echoes : ∀ field ∈ echoedFields, (stringField request field).isSome ∧
    stringField reply field = stringField request field
  statusCode : (cjsonGetObjectItem reply (.lit "statusCode")).map Json.valueint = some 200
  statusStr : (cjsonGetObjectItem reply (.lit "statusStr")).isSome

/-- **A run in which the platform replies** to a function call of the LED: the run up to the reply,
the request published in it, the reply, and the run from there on. -/
structure CallRun where
  ledState : UInt8
  uuid : CBuf LENGTH_TOKEN
  unixTime : UInt64
  regs : UInt8 → UInt8
  before : List SiteEvent
  site : Site
  out : List Output
  runs : exec siteStep (installedSite ledState uuid unixTime regs) before = .ok (site, out)
  request : Json
  requested : .publish TOPIC_REQ_CALL_FUNCTION request ∈ out
  payload : CString
  reply : Json
  parsed : cjsonParse payload = some reply
  answers : Answers request reply
  after : List SiteEvent
  last : Site
  lastOut : List Output
  continues : exec siteStep site (.publish TOPIC_RSP_CALL_FUNCTION payload :: after) =
    .ok (last, lastOut)

namespace CallRun

/-- The reply is delivered by the first event of `rest`, and `site'` is the site right after. -/
def DeliveredAt (r : CallRun) (mid rest : List SiteEvent) (site' : Site) : Prop :=
  ∃ spi out, r.after = mid ++ .deliver spi r.site.published :: rest ∧
    exec siteStep (r.site.enqueue TOPIC_RSP_CALL_FUNCTION r.payload)
      (mid ++ [.deliver spi r.site.published]) = .ok (site', out)

/-- **The call completes**: the reply is delivered, and `func_flag` is `FLAG_RSP` right after. -/
def Completed (r : CallRun) : Prop :=
  ∃ mid rest site', r.DeliveredAt mid rest site' ∧ site'.dev.funcFlag = .rsp

/-- The broker has delivered all there is to deliver. -/
def Settled (r : CallRun) : Prop := r.last.queue = []

end CallRun

/-! ### No reply is delivered -/

theorem reply_not_subscribed : TOPIC_RSP_CALL_FUNCTION ∉ subscribedTopics := by decide

theorem enqueue_subscribed (site : Site) {topicName : CString} (payload : CString)
    (h : topicName ∈ subscribedTopics) : (site.enqueue topicName payload).queue =
      site.queue ++ [⟨site.published, topicName, payload⟩] := by
  unfold Site.enqueue
  rw [if_pos h]

theorem enqueue_unsubscribed (site : Site) {topicName : CString} (payload : CString)
    (h : topicName ∉ subscribedTopics) : (site.enqueue topicName payload).queue = site.queue := by
  unfold Site.enqueue
  rw [if_neg h]

/-- The message is published already, and is not in the queue. -/
structure Gone (id : ℕ) (site : Site) : Prop where
  published : id < site.published
  absent : ∀ m ∈ site.queue, m.id ≠ id

theorem gone_enqueue_reply (site : Site) (payload : CString)
    (hqueue : ∀ m ∈ site.queue, m.id < site.published) :
    Gone site.published (site.enqueue TOPIC_RSP_CALL_FUNCTION payload) where
  published := Nat.lt_succ_self _
  absent := by
    intro m hm
    rw [enqueue_unsubscribed site payload reply_not_subscribed] at hm
    exact (hqueue m hm).ne

theorem onDevice_eq_ok {site site' : Site} {r : Checked (Device × List Output)}
    {out : List Output} (h : site.onDevice r = .ok (site', out)) :
    ∃ dev, r = .ok (dev, out) ∧ site' = { site with dev := dev } := by
  cases r with
  | error f => cases h
  | ok r =>
    obtain ⟨rfl, rfl⟩ := Prod.mk.inj (Except.ok.inj h)
    exact ⟨r.1, rfl, rfl⟩

/-- **What a step does to the queue.** -/
theorem siteStep_queue {site site' : Site} {e : SiteEvent} {out : List Output}
    (h : siteStep site e = .ok (site', out)) :
    site.published ≤ site'.published ∧
      ∀ m ∈ site'.queue, m ∈ site.queue ∨ m.id = site.published ∧ site.published < site'.published := by
  cases e with
  | turn e =>
    simp only [siteStep] at h
    split_ifs at h
    obtain ⟨dev, -, rfl⟩ := onDevice_eq_ok h
    exact ⟨le_rfl, fun m hm => Or.inl hm⟩
  | publish topicName payload =>
    obtain ⟨rfl, -⟩ := Prod.mk.inj (Except.ok.inj h)
    refine ⟨Nat.le_succ _, fun m hm => ?_⟩
    by_cases ht : topicName ∈ subscribedTopics
    · rw [enqueue_subscribed site payload ht, List.mem_append, List.mem_singleton] at hm
      rcases hm with hm | rfl
      · exact Or.inl hm
      · exact Or.inr ⟨rfl, Nat.lt_succ_self _⟩
    · rw [enqueue_unsubscribed site payload ht] at hm
      exact Or.inl hm
  | deliver spi id =>
    simp only [siteStep] at h
    split at h
    · cases h
    · obtain ⟨dev, -, rfl⟩ := onDevice_eq_ok h
      exact ⟨le_rfl, fun m hm => Or.inl (List.mem_of_mem_filter hm)⟩

theorem Gone.step {id : ℕ} {site site' : Site} {e : SiteEvent} {out : List Output}
    (hg : Gone id site) (h : siteStep site e = .ok (site', out)) : Gone id site' := by
  obtain ⟨hle, hmem⟩ := siteStep_queue h
  refine ⟨hg.published.trans_le hle, fun m hm => ?_⟩
  rcases hmem m hm with hold | ⟨hid, -⟩
  · exact hg.absent m hold
  · rw [hid]
    exact hg.published.ne'

/-- The numbers in the queue have been used. -/
def Numbered (site : Site) : Prop := ∀ m ∈ site.queue, m.id < site.published

theorem numbered_step {site site' : Site} {e : SiteEvent} {out : List Output}
    (hn : Numbered site) (h : siteStep site e = .ok (site', out)) : Numbered site' := by
  obtain ⟨hle, hmem⟩ := siteStep_queue h
  intro m hm
  rcases hmem m hm with hold | ⟨hid, hlt⟩
  · exact (hn m hold).trans_le hle
  · rw [hid]; exact hlt

/-- A message that is not in the queue is not delivered. -/
theorem Gone.not_delivered {id : ℕ} {site site' : Site} {spi : SpiEnv} {out : List Output}
    (hg : Gone id site) : siteStep site (.deliver spi id) ≠ .ok (site', out) := by
  have hnone : site.queue.find? (·.id = id) = none := by
    rw [List.find?_eq_none]
    intro m hm
    rw [decide_eq_true_eq]
    exact hg.absent m hm
  simp only [siteStep, hnone]
  exact fun h => by cases h

/-- **No reply is delivered.** -/
theorem not_delivered (r : CallRun) (mid rest : List SiteEvent) (site' : Site) :
    ¬ r.DeliveredAt mid rest site' := by
  rintro ⟨spi, out, -, hrun⟩
  have hnum : Numbered r.site := by
    refine exec_keeps Numbered (fun s e s' o hn hs => numbered_step hn hs) ?_ r.runs
    intro m hm
    cases hm
  have hgone : Gone r.site.published (r.site.enqueue TOPIC_RSP_CALL_FUNCTION r.payload) :=
    gone_enqueue_reply r.site r.payload hnum
  obtain ⟨site₁, out₁, out₂, hmid, hlast, -⟩ := exec_append_eq_ok.mp hrun
  have hgone₁ : Gone r.site.published site₁ :=
    exec_keeps (Gone r.site.published) (fun s e s' o hg hs => hg.step hs) hgone hmid
  obtain ⟨site₂, o, os, hstep, -, -⟩ := exec_cons_eq_ok.mp hlast
  exact hgone₁.not_delivered hstep

/-! ### No reply is a success -/

theorem driveLed_funcFlag (spi : SpiEnv) (dev : Device) :
    (driveLed spi dev).2.1.funcFlag = dev.funcFlag := by
  unfold driveLed
  dsimp only
  split_ifs <;> rfl

/-- **`func_flag` stays `FLAG_REQ`**, whatever arrives. -/
theorem deviceStep_funcFlag {dev dev' : Device} {e : Event} {out : List Output}
    (hreq : dev.funcFlag = .req) (h : deviceStep dev e = .ok (dev', out)) :
    dev'.funcFlag = .req := by
  cases e with
  | message spi topicName payload =>
    cases messageArrived_effect h with
    | nothing _ => exact hreq
    | connect _ => exact hreq
    | acknowledged _ _ _ _ => exact hreq
    | updated _ _ _ => rw [driveLed_funcFlag]; exact hreq
    | otherDevice _ _ _ => rw [driveLed_funcFlag]; exact hreq
  | monitorTick env =>
    rcases ledMonitorTick_eq_ok h with ⟨rfl, -⟩ | ⟨-, shadow, -, rfl, -⟩
    · exact hreq
    · exact hreq
  | keepaliveTick env =>
    obtain ⟨rfl, -⟩ := keepaliveTick_eq_ok h
    exact hreq
  | funcTick env =>
    obtain ⟨rfl, -⟩ := funcTick_eq_ok h
    unfold ledFuncTick
    -- a turn that calls again, and one while the device is not online
    split_ifs
    · exact hreq
    · exact hreq

theorem exec_funcFlag {ledState : UInt8} {uuid : CBuf LENGTH_TOKEN} {unixTime : UInt64}
    {regs : UInt8 → UInt8} {es : List SiteEvent} {site : Site} {out : List Output}
    (hrun : exec siteStep (installedSite ledState uuid unixTime regs) es = .ok (site, out)) :
    site.dev.funcFlag = .req := by
  refine exec_keeps (fun site => site.dev.funcFlag = .req) ?_ rfl hrun
  intro s e s' o hreq hs
  cases e with
  | turn e =>
    simp only [siteStep] at hs
    split_ifs at hs
    obtain ⟨dev, hdev, rfl⟩ := onDevice_eq_ok hs
    exact deviceStep_funcFlag hreq hdev
  | publish topicName payload =>
    obtain ⟨rfl, -⟩ := Prod.mk.inj (Except.ok.inj hs)
    exact hreq
  | deliver spi id =>
    simp only [siteStep] at hs
    split at hs
    · cases hs
    · next m _ =>
      obtain ⟨dev, hdev, rfl⟩ := onDevice_eq_ok hs
      exact deviceStep_funcFlag hreq (e := .message spi m.topicName m.payload) hdev

/-- **No function call completes.** -/
theorem not_completed (r : CallRun) : ¬ r.Completed := by
  rintro ⟨mid, rest, site', hdel, -⟩
  exact not_delivered r mid rest site' hdel

/-! ### A run with a reply -/

/-- The LED comes online and calls its function. -/
def callEvents : List SiteEvent :=
  [.publish TOPIC_RSP_ONLINE onlineText, .deliver spiOk 0, .turn (.funcTick ⟨0, 0, sentEnv⟩)]

/-- The request it publishes. -/
def callRequest : Json := callReqMessage sentEnv (0, 0)

/-- A reply to it. -/
def replyText : CString :=
  .lit "\x7b\"name\":\"test_demo\",\"service\":\"python3\",\"token\":\"\",\"timestamp\":\"\"," ++
    .lit "\"statusCode\":200,\"statusStr\":\"ok\"\x7d"

@[inherit_doc replyText]
def replyRoot : Json :=
  .obj [(.lit "name", .str FUNC_NAME), (.lit "service", .str FUNC_TYPE_PYTHON3),
    (.lit "token", .str .empty), (.lit "timestamp", .str .empty),
    (.lit "statusCode", .num (.fin 200)), (.lit "statusStr", .str (.lit "ok"))]

/-- **A reply that is lost**: the platform has answered the call, the broker has delivered all
there is to deliver, and the call is not completed. -/
theorem lost_reply : ∃ r : CallRun, r.Settled ∧ ¬ r.Completed := by
  have hbefore : Ends (exec siteStep (installedSite LED_OFF (.zero _) 0 fun _ => 0) callEvents)
      fun site out => .publish TOPIC_REQ_CALL_FUNCTION callRequest ∈ out ∧ site.queue = [] := by
    decide +kernel
  obtain ⟨site, out, hruns, hrequested, hqueue⟩ := hbefore
  have hparsed : cjsonParse replyText = some replyRoot := by decide +kernel
  have hanswers : Answers callRequest replyRoot := ⟨by decide, by decide, by decide⟩
  refine ⟨⟨LED_OFF, .zero _, 0, fun _ => 0, callEvents, site, out, hruns, callRequest, hrequested,
    replyText, replyRoot, hparsed, hanswers, [], _, [], rfl⟩, ?_, ?_⟩
  · exact (enqueue_unsubscribed site replyText reply_not_subscribed).trans hqueue
  · -- the run ends with the queue empty
    rintro ⟨mid, rest, site', ⟨spi, o, hafter, -⟩, -⟩
    cases mid <;> cases hafter

/-! ### What the handler accepts -/

/-- The members a reply must have. -/
def replyFields : List CString :=
  [.lit "name", .lit "service", .lit "statusCode", .lit "statusStr", .lit "token",
    .lit "timestamp"]

/-- The text is an object with all members of a reply, the name and the service in it are those
`FUNC_Call_Req` sends, and the status is `200`. -/
def SuccessfulReply (payload : CString) : Prop :=
  ∃ members, cjsonParse payload = some (.obj members) ∧
    (∀ field ∈ replyFields, (cjsonGetObjectItem (some (.obj members)) field).isSome) ∧
    stringField (some (.obj members)) (.lit "name") = some FUNC_NAME ∧
    stringField (some (.obj members)) (.lit "service") = some FUNC_TYPE_PYTHON3 ∧
    cjsonGetObjectItem (some (.obj members)) (.lit "statusCode") = some (.num (.fin 200))

/-- The call succeeds exactly on a successful reply, and the flag of the function call is cleared
exactly if it succeeds. -/
structure AcceptsExactly (payload : CString) : Prop where
  call : funcCallRsp payload = .success ↔ SuccessfulReply payload
  flag : ∀ dev, ledFuncRsp payload dev = .ok ({ dev with
    funcFlag := if funcCallRsp payload = .success then .rsp else dev.funcFlag }, [])

/-- The flag follows the call. -/
theorem ledFuncRsp_eq (payload : CString) (dev : Device) :
    ledFuncRsp payload dev = .ok ({ dev with
      funcFlag := if funcCallRsp payload = .success then .rsp else dev.funcFlag }, []) := by
  unfold ledFuncRsp
  cases h : funcCallRsp payload with
  | success => rfl
  | error => rfl

/-- **The handler decides rightly** on the texts that are no successful reply, and on no others. -/
theorem acceptsExactly_iff (payload : CString) :
    AcceptsExactly payload ↔ ¬ SuccessfulReply payload := by
  have herror : funcCallRsp payload ≠ .success := by
    rw [funcCallRsp_eq]; decide
  constructor
  · intro h hreply
    exact herror (h.call.mpr hreply)
  · intro hno
    exact ⟨iff_of_false herror hno, ledFuncRsp_eq payload⟩

/-- The reply to the call of the LED is refused. -/
theorem not_acceptsExactly_replyText : ¬ AcceptsExactly replyText := by
  have hparsed : cjsonParse replyText = some replyRoot := by decide +kernel
  have hreply : SuccessfulReply replyText :=
    ⟨_, hparsed, by decide, by decide, by decide, by decide⟩
  intro h
  have hsucc := h.call.mpr hreply
  rw [funcCallRsp_eq] at hsucc
  cases hsucc

end OasisEdge.System.Calls
