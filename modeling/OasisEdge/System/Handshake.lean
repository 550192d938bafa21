import OasisEdge.System.Platform
import OasisEdge.System.Steps

/-! # Requests and their answers on two threads

A request is two steps of its thread: `MQTTAsync_send`, and the assignment of the flag after it. The
callback thread may process an answer at any point after the send (`threadStep`). Any number of
requests are under way; besides, the monitor and the keepalive loop write the shadow between
requests.

If the answer comes between the two steps of a request of its kind, the assignment raises the flag
again, and it stays raised. In runs without that, a kind whose last request was answered has its
flag cleared, so that the keepalive loop does not declare the device offline (`answered_rsp`). -/

namespace OasisEdge.System.Handshake

open OasisEdge.Lib.Chars OasisEdge.Lib.Checking OasisEdge.Lib.Runs OasisEdge.CJson.Value
open OasisEdge.CJson.Parse OasisEdge.Shadow.State OasisEdge.Shadow.Connect OasisEdge.Shadow.Set
open OasisEdge.Led.Driver OasisEdge.System.Platform OasisEdge.System.Steps

/-! ### Kinds of requests -/

/-- What a request asks for; each kind has its flag. -/
inductive Kind
  | online
  | offline
  | keepalive
  | setShadow
deriving DecidableEq

/-- The flag of a kind. -/
def flagOf (flag : DevShadowFlag) : Kind → Flag
  | .online => flag.online
  | .offline => flag.offline
  | .keepalive => flag.keepalive
  | .setShadow => flag.setShadow

/-- The flags with that of one kind replaced. -/
def setFlag (flag : DevShadowFlag) (v : Flag) : Kind → DevShadowFlag
  | .online => { flag with online := v }
  | .offline => { flag with offline := v }
  | .keepalive => { flag with keepalive := v }
  | .setShadow => { flag with setShadow := v }

theorem flagOf_setFlag (flag : DevShadowFlag) (v : Flag) (k j : Kind) :
    flagOf (setFlag flag v k) j = if j = k then v else flagOf flag j := by
  cases k <;> cases j <;> rfl

/-- The topic of a request. -/
def reqTopic : Kind → CString
  | .online => TOPIC_REQ_ONLINE
  | .offline => TOPIC_REQ_OFFLINE
  | .keepalive => TOPIC_REQ_KEEPALIVE
  | .setShadow => TOPIC_REQ_SET_SHADOW

/-- The message of a request. -/
def reqMessage (env : ReqEnv) (shadow : DevShadow) : Kind → Json
  | .setShadow => setReqMessage env shadow
  | _ => connectReqMessage env shadow

/-- The assignment after the send. -/
def raise (flag : DevShadowFlag) : Kind → DevShadowFlag
  | .setShadow => setReqFlag flag
  | k => connectReqFlag (reqTopic k) flag

/-- The handler of an answer. -/
def handle (payload : CString) (shadow : DevShadow) : Kind → Checked (Ret × DevShadow)
  | .online => shadowConnectRsp payload TOPIC_RSP_ONLINE shadow
  | .offline => shadowConnectRsp payload TOPIC_RSP_OFFLINE shadow
  | .keepalive => shadowConnectRsp payload TOPIC_RSP_KEEPALIVE shadow
  | .setShadow => shadowSetRsp payload shadow

/-- The request a thread makes. -/
def request (env : ReqEnv) (shadow : DevShadow) : Kind → Ret × DevShadow × List Output
  | .setShadow => shadowSetReq env shadow
  | k => shadowConnectReq env (reqTopic k) shadow

theorem raise_eq (flag : DevShadowFlag) (k : Kind) : raise flag k = setFlag flag .req k := by
  cases k with
  | online => exact connectReqFlag_online flag
  | offline => exact connectReqFlag_offline flag
  | keepalive => exact connectReqFlag_keepalive flag
  | setShadow => rfl

/-- A request that is sent is a send and then the assignment. -/
theorem request_eq {env : ReqEnv} (hsent : env.sent = true) (shadow : DevShadow) (k : Kind) :
    request env shadow k =
      (.success, { shadow with flag := raise shadow.flag k },
        [.publish (reqTopic k) (reqMessage env shadow k)]) := by
  cases k <;> simp [request, shadowSetReq, shadowConnectReq, send, hsent, raise, reqMessage, reqTopic]

/-- A successful answer: it names this device, and the answer to a report has status `200` and the
present version. -/
def Matches (payload : CString) (shadow : DevShadow) : Kind → Prop
  | .setShadow =>
    match (cjsonParse payload).bind readAnswer with
    | none => False
    | some a => a.Acknowledges shadow
  | _ =>
    match connectEntries payload with
    | none => False
    | some entries => entries.all entryComplete ∧ ∃ entry ∈ entries, NamesDevice shadow entry

instance (payload : CString) (shadow : DevShadow) (k : Kind) :
    Decidable (Matches payload shadow k) := by
  cases k <;> unfold Matches
  case setShadow => cases (cjsonParse payload).bind readAnswer <;> infer_instance
  all_goals cases connectEntries payload <;> infer_instance

/-- The flags after a connection response: the flag of the kind is cleared, or nothing changes. -/
theorem connectRspShadow_flag (payload : CString) (shadow : DevShadow) {topic : CString} {k : Kind}
    (hflag : ∀ flag, connectRspFlag topic flag = setFlag flag .rsp k) :
    (connectRspShadow payload topic shadow).flag = setFlag shadow.flag .rsp k ∨
      (connectRspShadow payload topic shadow).flag = shadow.flag ∧ ¬ ListComplete payload := by
  unfold connectRspShadow ListComplete
  cases connectEntries payload with
  | none => exact Or.inr ⟨rfl, by simp⟩
  | some entries =>
    by_cases hall : entries.all entryComplete = true
    · left
      show (if _ then connectRspFlag topic shadow.flag else shadow.flag) = _
      rw [if_pos hall, hflag]
    · right
      refine ⟨if_neg hall, ?_⟩
      rintro ⟨entries', he, hall'⟩
      obtain rfl := Option.some.inj he
      exact hall hall'

theorem listComplete_of_matches {payload : CString} {shadow : DevShadow} {k : Kind}
    (hk : k ≠ .setShadow) (h : Matches payload shadow k) : ListComplete payload := by
  unfold ListComplete
  cases k with
  | setShadow => exact absurd rfl hk
  | online | offline | keepalive =>
    unfold Matches at h
    cases he : connectEntries payload with
    | none => rw [he] at h; exact h.elim
    | some entries => rw [he] at h; exact ⟨entries, rfl, h.1⟩

/-- **What a handler does to the flags**: it clears that of its kind or none, and a successful
answer clears it. -/
theorem handle_flag {payload : CString} {shadow shadow' : DevShadow} {k : Kind} {r : Ret}
    (h : handle payload shadow k = .ok (r, shadow')) :
    shadow'.flag = setFlag shadow.flag .rsp k ∨
      shadow'.flag = shadow.flag ∧ ¬ Matches payload shadow k := by
  have hconnect : ∀ topic, (∀ flag, connectRspFlag topic flag = setFlag flag .rsp k) →
      k ≠ .setShadow → shadowConnectRsp payload topic shadow = .ok (r, shadow') →
      shadow'.flag = setFlag shadow.flag .rsp k ∨
        shadow'.flag = shadow.flag ∧ ¬ Matches payload shadow k := by
    intro topic hflag hk hrsp
    obtain ⟨-, rfl⟩ := shadowConnectRsp_eq_ok hrsp
    rcases connectRspShadow_flag payload shadow hflag with h | ⟨h, hlist⟩
    · exact Or.inl h
    · exact Or.inr ⟨h, fun hm => hlist (listComplete_of_matches hk hm)⟩
  cases k with
  | online => exact hconnect TOPIC_RSP_ONLINE connectRspFlag_online (by decide) h
  | offline => exact hconnect TOPIC_RSP_OFFLINE connectRspFlag_offline (by decide) h
  | keepalive => exact hconnect TOPIC_RSP_KEEPALIVE connectRspFlag_keepalive (by decide) h
  | setShadow =>
    change shadowSetRsp payload shadow = .ok (r, shadow') at h
    unfold shadowSetRsp at h
    unfold Matches
    cases hroot : cjsonParse payload with
    | none =>
      rw [hroot] at h
      obtain ⟨-, rfl⟩ := Prod.mk.inj (Except.ok.inj h)
      exact Or.inr ⟨rfl, by simp⟩
    | some root =>
      rw [hroot] at h
      rcases setRspRoot_eq_ok h with ⟨-, rfl⟩ | ⟨hno, rfl⟩
      · exact Or.inl rfl
      · refine Or.inr ⟨rfl, fun hm => hno ?_⟩
        rw [Option.bind_some] at hm
        cases ha : readAnswer root with
        | none => rw [ha] at hm; exact hm.elim
        | some a => rw [ha] at hm; exact ⟨a, rfl, hm⟩

/-! ### The threads -/

/-- The shadow; the requests that are sent and wait for their assignment; how many requests of each
kind were sent, and the numbers of those that a successful answer came for. -/
structure Threads where
  shadow : DevShadow
  assigning : List Kind
  sent : Kind → ℕ
  answered : Kind → List ℕ

/-- A step of a thread: the two steps of a request, an answer, and what the monitor and the
keepalive loop write before they send. -/
inductive Act
  | send (env : ReqEnv) (k : Kind)
  | assign (k : Kind)
  | answer (k : Kind) (number : ℕ) (payload : CString)
  | report (env : MonitorEnv) (ledState : UInt8)
  | declareOffline

/-- The numbers answered after an answer. -/
def answeredAfter (t : Threads) (k : Kind) (number : ℕ) (payload : CString) : Kind → List ℕ :=
  if Matches payload t.shadow k then Function.update t.answered k (number :: t.answered k)
  else t.answered

/-- One step. A request that is not sent leaves everything as it is and is left out. -/
def threadStep (t : Threads) : Act → Except Stop (Threads × List Output)
  | .send env k =>
    .ok ({ t with
      assigning := k :: t.assigning
      sent := Function.update t.sent k (t.sent k + 1) },
      [.publish (reqTopic k) (reqMessage env t.shadow k)])
  | .assign k =>
    if k ∈ t.assigning then
      .ok ({ t with
        shadow := { t.shadow with flag := raise t.shadow.flag k }
        assigning := t.assigning.erase k }, [])
    else .error .impossible
  | .answer k number payload =>
    if 0 < number ∧ number ≤ t.sent k then
      match handle payload t.shadow k with
      | .error f => .error (.fault f)
      | .ok (_, shadow) =>
        .ok ({ t with shadow := shadow, answered := answeredAfter t k number payload }, [])
    else .error .impossible
  | .report env ledState =>
    match monitorReport env (stateName ledState) t.shadow with
    | .error f => .error (.fault f)
    | .ok shadow => .ok ({ t with shadow := shadow }, [])
  | .declareOffline => .ok ({ t with shadow := declareOffline t.shadow }, [])

/-- No request was made yet. -/
def idle (shadow : DevShadow) : Threads := ⟨shadow, [], fun _ => 0, fun _ => []⟩

/-- The last request of the kind was answered. -/
def Answered (t : Threads) (k : Kind) : Prop := t.sent k ∈ t.answered k

instance (t : Threads) (k : Kind) : Decidable (Answered t k) := by unfold Answered; infer_instance

/-- An answer to the last request of a kind comes after every assignment of the kind. -/
def InTime (t : Threads) : Act → Prop
  | .answer k number payload =>
    number = t.sent k → Matches payload t.shadow k → k ∉ t.assigning
  | _ => True

instance (t : Threads) (a : Act) : Decidable (InTime t a) := by
  cases a <;> unfold InTime <;> infer_instance

/-- **The invariant**: a kind whose last request was answered has no assignment to come, and its
flag is cleared. -/
structure Settled (t : Threads) : Prop where
  answered_le : ∀ k, ∀ number ∈ t.answered k, number ≤ t.sent k
  cleared : ∀ k, Answered t k → k ∉ t.assigning ∧ flagOf t.shadow.flag k = .rsp

/-- No handler raises a flag. -/
theorem handle_rsp {payload : CString} {shadow shadow' : DevShadow} {k j : Kind} {r : Ret}
    (h : handle payload shadow k = .ok (r, shadow')) (hj : flagOf shadow.flag j = .rsp) :
    flagOf shadow'.flag j = .rsp := by
  rcases handle_flag h with h' | ⟨h', -⟩
  · rw [h', flagOf_setFlag]
    split_ifs
    · rfl
    · exact hj
  · rw [h']; exact hj

theorem handle_matches {payload : CString} {shadow shadow' : DevShadow} {k : Kind} {r : Ret}
    (h : handle payload shadow k = .ok (r, shadow')) (hm : Matches payload shadow k) :
    flagOf shadow'.flag k = .rsp := by
  rcases handle_flag h with h' | ⟨-, hno⟩
  · rw [h', flagOf_setFlag, if_pos rfl]
  · exact absurd hm hno

theorem settled_send {t : Threads} (hs : Settled t) (k : Kind) :
    Settled { t with
      assigning := k :: t.assigning
      sent := Function.update t.sent k (t.sent k + 1) } := by
  have hsent : ∀ j, t.sent j ≤ Function.update t.sent k (t.sent k + 1) j := by
    intro j
    by_cases hj : j = k
    · subst hj; rw [Function.update_self]; omega
    · rw [Function.update_of_ne hj]
  refine ⟨fun j number hn => (hs.answered_le j number hn).trans (hsent j), ?_⟩
  intro j hj
  change Function.update t.sent k (t.sent k + 1) j ∈ t.answered j at hj
  by_cases hjk : j = k
  · -- the request just sent was not answered
    subst hjk
    rw [Function.update_self] at hj
    have := hs.answered_le j _ hj
    omega
  · rw [Function.update_of_ne hjk] at hj
    obtain ⟨hna, hflag⟩ := hs.cleared j hj
    exact ⟨List.not_mem_cons_of_ne_of_not_mem hjk hna, hflag⟩

theorem settled_assign {t : Threads} (hs : Settled t) {k : Kind} (hk : k ∈ t.assigning) :
    Settled { t with
      shadow := { t.shadow with flag := raise t.shadow.flag k }
      assigning := t.assigning.erase k } := by
  refine ⟨hs.answered_le, fun j hj => ?_⟩
  obtain ⟨hna, hflag⟩ := hs.cleared j hj
  have hjk : j ≠ k := by
    rintro rfl; exact hna hk
  refine ⟨fun h => hna (List.mem_of_mem_erase h), ?_⟩
  show flagOf (raise t.shadow.flag k) j = .rsp
  rw [raise_eq, flagOf_setFlag, if_neg hjk]
  exact hflag

theorem settled_answer {t : Threads} (hs : Settled t) {k : Kind} {number : ℕ} {payload : CString}
    {shadow : DevShadow} {r : Ret} (hin : InTime t (.answer k number payload))
    (hle : number ≤ t.sent k) (h : handle payload t.shadow k = .ok (r, shadow)) :
    Settled { t with shadow := shadow, answered := answeredAfter t k number payload } := by
  -- a kind that was settled before stays settled
  have hold : ∀ j, Answered t j → j ∉ t.assigning ∧ flagOf shadow.flag j = .rsp := by
    intro j hj
    obtain ⟨hna, hflag⟩ := hs.cleared j hj
    exact ⟨hna, handle_rsp h hflag⟩
  unfold answeredAfter
  by_cases hm : Matches payload t.shadow k
  · rw [if_pos hm]
    refine ⟨?_, ?_⟩
    · intro j n hn
      by_cases hjk : j = k
      · subst hjk
        change n ∈ Function.update t.answered j (number :: t.answered j) j at hn
        rw [Function.update_self] at hn
        rcases List.mem_cons.mp hn with rfl | hn
        · exact hle
        · exact hs.answered_le j n hn
      · change n ∈ Function.update t.answered k (number :: t.answered k) j at hn
        rw [Function.update_of_ne hjk] at hn
        exact hs.answered_le j n hn
    · intro j hj
      change t.sent j ∈ Function.update t.answered k (number :: t.answered k) j at hj
      by_cases hjk : j = k
      · subst hjk
        rw [Function.update_self] at hj
        rcases List.mem_cons.mp hj with hlast | hj
        · exact ⟨hin hlast.symm hm, handle_matches h hm⟩
        · exact hold j hj
      · rw [Function.update_of_ne hjk] at hj
        exact hold j hj
  · rw [if_neg hm]
    exact ⟨hs.answered_le, hold⟩

/-- **Every step keeps the invariant**, an answer if it is in time. -/
theorem settled_step {t t' : Threads} {a : Act} {out : List Output} (hs : Settled t)
    (hin : InTime t a) (h : threadStep t a = .ok (t', out)) : Settled t' := by
  cases a with
  | send env k =>
    obtain ⟨rfl, -⟩ := Prod.mk.inj (Except.ok.inj h)
    exact settled_send hs k
  | assign k =>
    simp only [threadStep] at h
    split_ifs at h with hk
    obtain ⟨rfl, -⟩ := Prod.mk.inj (Except.ok.inj h)
    exact settled_assign hs hk
  | answer k number payload =>
    simp only [threadStep] at h
    split_ifs at h with hnum
    cases hh : handle payload t.shadow k with
    | error f => rw [hh] at h; cases h
    | ok r =>
      rw [hh] at h
      obtain ⟨rfl, -⟩ := Prod.mk.inj (Except.ok.inj h)
      exact settled_answer hs hin hnum.2 hh
  | report env ledState =>
    simp only [threadStep] at h
    cases hr : monitorReport env (stateName ledState) t.shadow with
    | error f => rw [hr] at h; cases h
    | ok shadow =>
      rw [hr] at h
      obtain ⟨rfl, -⟩ := Prod.mk.inj (Except.ok.inj h)
      obtain ⟨-, rfl⟩ := monitorReport_eq_ok hr
      exact ⟨hs.answered_le, hs.cleared⟩
  | declareOffline =>
    obtain ⟨rfl, -⟩ := Prod.mk.inj (Except.ok.inj h)
    refine ⟨hs.answered_le, fun j hj => ?_⟩
    obtain ⟨hna, hflag⟩ := hs.cleared j hj
    refine ⟨hna, ?_⟩
    cases j with
    | keepalive => rfl
    | online | offline | setShadow => exact hflag

theorem settled_idle (shadow : DevShadow) : Settled (idle shadow) :=
  ⟨(by simp [idle]), (by simp [Answered, idle])⟩

/-- **An answer is not forgotten** in a run where every answer to a last request is in time: the
flag of each kind whose last request was answered is cleared, and if that is the keepalive, the next
turn of the keepalive loop does not declare the device offline. -/
theorem answered_rsp {shadow : DevShadow} {acts : List Act} {t : Threads} {out : List Output}
    (hin : Meets threadStep InTime (idle shadow) acts)
    (hrun : exec threadStep (idle shadow) acts = .ok (t, out)) :
    (∀ k, Answered t k → k ∉ t.assigning → flagOf t.shadow.flag k = .rsp) ∧
      (Answered t .keepalive → .keepalive ∉ t.assigning → t.shadow.status.str = DEV_ONLINE →
        ∀ env, (keepaliveShadow env t.shadow).1.status.str = DEV_ONLINE) := by
  have hs : Settled t := by
    refine exec_invariant Settled ?_ (settled_idle shadow) hin hrun
    intro s a s' o hI hC hstep
    exact settled_step hI hC hstep
  refine ⟨fun k hk _ => (hs.cleared k hk).2, fun hk _ hst env => ?_⟩
  have honline : OnlineAnswered t.shadow :=
    ⟨strcmp_eq_zero.mpr hst.symm, (hs.cleared .keepalive hk).2⟩
  rw [keepaliveShadow_online honline, shadowConnectReq_shadow]
  show (keepaliveRetry env t.shadow).1.status.str = DEV_ONLINE
  rw [keepaliveRetry_eq]
  split_ifs
  · rw [shadowSetReq_shadow]; exact hst
  · exact hst

/-- A keepalive answered after its assignment. -/
def inTimeRun : List Act :=
  [.send sentEnv .keepalive, .assign .keepalive, .answer .keepalive 1 onlineText]

theorem answered_rsp_inTimeRun :
    ∃ t out, exec threadStep (idle (ledInit LED_OFF (.zero _) 0)) inTimeRun = .ok (t, out) ∧
      flagOf t.shadow.flag .keepalive = .rsp := by
  have hends : Ends (exec threadStep (idle (ledInit LED_OFF (.zero _) 0)) inTimeRun) fun t _ =>
      t.sent .keepalive ∈ t.answered .keepalive ∧ .keepalive ∉ t.assigning := by decide +kernel
  obtain ⟨t, out, hrun, hans, hna⟩ := hends
  exact ⟨t, out, hrun, (answered_rsp (by decide +kernel) hrun).1 .keepalive hans hna⟩

/-- A keepalive answered before its assignment. -/
def earlyRun : List Act :=
  [.send sentEnv .keepalive, .answer .keepalive 1 onlineText, .assign .keepalive]

/-- **An answer between the send and the assignment is forgotten**: the flag stays raised, and the
next turn of the keepalive loop declares the device offline. -/
theorem answered_forgotten :
    Ends (exec threadStep (idle (ledInit LED_OFF (.zero _) 0)) earlyRun) fun t _ =>
      Answered t .keepalive ∧ .keepalive ∉ t.assigning ∧ flagOf t.shadow.flag .keepalive = .req ∧
        t.shadow.status.str = DEV_ONLINE ∧
          (keepaliveShadow ⟨sentEnv, sentEnv⟩ t.shadow).1.status.str = DEV_OFFLINE := by
  decide +kernel

end OasisEdge.System.Handshake
