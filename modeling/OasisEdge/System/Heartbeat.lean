import OasisEdge.System.Platform
import OasisEdge.System.Steps

/-! # Missed heartbeats

Between two turns of the keepalive loop only two things decide what the second turn does: whether
`flag->keepalive` is raised, and whether the status is still `online`. The first turn raises the
flag if its send succeeds; any complete list on the topic of the keepalive responses clears it,
whichever devices it names (`ClearsKeepalive`); nothing else writes it (`exec_keepalive`). The
status is the last one a connection response gave to the device (`statusAfter`).

So a heartbeat that no response answers is detected if the send succeeded and no complete list came,
or if the status is no longer `online` (`declaresOffline_iff`), and is not detected otherwise. -/

namespace OasisEdge.System.Heartbeat

open OasisEdge.Lib.Chars OasisEdge.Lib.Checking OasisEdge.Lib.Runs OasisEdge.CJson.Value
open OasisEdge.CJson.Parse OasisEdge.Shadow.State OasisEdge.Shadow.Connect OasisEdge.Shadow.Set
open OasisEdge.Shadow.Update OasisEdge.Led.Driver OasisEdge.Sample.EdgeClient
open OasisEdge.System.Platform OasisEdge.System.Steps

/-! ### What the responses say -/

/-- The states a connection response gives to the device, in order. -/
def namedStates (shadow : DevShadow) (payload : CString) : List CString :=
  match connectEntries payload with
  | none => []
  | some entries => (entries.takeWhile entryComplete).filterMap fun entry =>
      if NamesDevice shadow entry then stringField entry (.lit "state") else none

/-- The status after some states were stored one after the other. -/
def statusAfter (status : CBuf LENGTH_STATUS) (states : List CString) : CBuf LENGTH_STATUS :=
  states.foldl (fun _ state => snprintf LENGTH_STATUS state) status

/-- The states an event gives to the device. -/
def statesOf (shadow : DevShadow) : Event → List CString
  | .message _ topicName payload =>
    if topicName ∈ connectTopics then namedStates shadow payload else []
  | _ => []

/-- The event is a response that clears the flag of the keepalive. -/
def ClearsKeepalive : Event → Prop
  | .message _ topicName payload => topicName = TOPIC_RSP_KEEPALIVE ∧ ListComplete payload
  | _ => False

instance : (e : Event) → Decidable (ClearsKeepalive e)
  | .message _ topicName payload =>
    inferInstanceAs (Decidable (topicName = TOPIC_RSP_KEEPALIVE ∧ ListComplete payload))
  | .monitorTick _ | .keepaliveTick _ | .funcTick _ => isFalse id

/-- The event is a turn of the keepalive loop. -/
def IsKeepaliveTick : Event → Prop
  | .keepaliveTick _ => True
  | _ => False

theorem statusAfter_append (status : CBuf LENGTH_STATUS) (xs ys : List CString) :
    statusAfter status (xs ++ ys) = statusAfter (statusAfter status xs) ys := List.foldl_append ..

/-- The last state counts. -/
theorem statusAfter_eq (status : CBuf LENGTH_STATUS) (states : List CString) :
    statusAfter status states =
      match states.getLast? with
      | none => status
      | some state => snprintf LENGTH_STATUS state := by
  rcases List.eq_nil_or_concat states with rfl | ⟨init, state, rfl⟩
  · rfl
  · rw [List.concat_eq_append, statusAfter_append, List.getLast?_append]
    rfl

theorem namesDevice_congr {s s' : DevShadow} (hk : s'.productKey = s.productKey)
    (hd : s'.deviceID = s.deviceID) (entry : Json) : NamesDevice s' entry ↔ NamesDevice s entry := by
  unfold NamesDevice
  rw [hk, hd]

theorem statesOf_congr {s s' : DevShadow} (hk : s'.productKey = s.productKey)
    (hd : s'.deviceID = s.deviceID) (e : Event) : statesOf s' e = statesOf s e := by
  cases e with
  | message spi topicName payload =>
    unfold statesOf namedStates
    simp only [namesDevice_congr hk hd]
  | monitorTick _ | keepaliveTick _ | funcTick _ => rfl

theorem applyEntries_status (shadow : DevShadow) (entries : List Json) :
    (applyEntries shadow entries).status =
      statusAfter shadow.status (entries.filterMap fun entry =>
        if NamesDevice shadow entry then stringField entry (.lit "state") else none) := by
  induction entries generalizing shadow with
  | nil => rfl
  | cons entry entries ih =>
    have hnames : ∀ e, NamesDevice (applyEntry shadow entry) e ↔ NamesDevice shadow e := by
      intro e
      rw [applyEntry_eq]; rfl
    show (applyEntries (applyEntry shadow entry) entries).status = _
    rw [ih, List.filterMap_cons]
    simp only [hnames]
    unfold applyEntry
    by_cases hn : NamesDevice shadow entry
    · rw [if_pos hn, if_pos hn]
      cases stringField entry (.lit "state") <;> rfl
    · rw [if_neg hn, if_neg hn]

/-! ### What a step does to the flag and the status -/

/-- A connection response clears the flag of the keepalive if it is a complete list on that topic,
and stores the states it gives to the device. -/
theorem connectRspShadow_keepalive (payload topic : CString) (shadow : DevShadow) :
    (connectRspShadow payload topic shadow).flag.keepalive =
        (if topic = TOPIC_RSP_KEEPALIVE ∧ ListComplete payload then .rsp
          else shadow.flag.keepalive) ∧
      (connectRspShadow payload topic shadow).status =
        statusAfter shadow.status (namedStates shadow payload) := by
  unfold connectRspShadow namedStates
  cases he : connectEntries payload with
  | none =>
    have hno : ¬ ListComplete payload := by
      rintro ⟨entries, hs, -⟩; rw [he] at hs; cases hs
    exact ⟨(if_neg fun h => hno h.2).symm, rfl⟩
  | some entries =>
    refine ⟨?_, applyEntries_status shadow _⟩
    simp only [listComplete_some he]
    by_cases hall : entries.all entryComplete = true
    · simp only [hall, and_true, if_true, keepalive_connectRspFlag]
    · simp only [hall, and_false, if_false, Bool.false_eq_true]

theorem messageEffect_keepalive {spi : SpiEnv} {topicName payload : CString} {dev dev' : Device}
    {out : List Output} (h : MessageEffect spi topicName payload dev dev' out) :
    dev'.ledShadow.flag.keepalive =
        (if ClearsKeepalive (.message spi topicName payload) then .rsp
          else dev.ledShadow.flag.keepalive) ∧
      dev'.ledShadow.status = statusAfter dev.ledShadow.status
        (statesOf dev.ledShadow (.message spi topicName payload)) := by
  have hkeep : TOPIC_RSP_KEEPALIVE ∈ connectTopics := by simp [connectTopics]
  -- on the other topics neither is touched
  have hother : topicName ∉ connectTopics →
      dev'.ledShadow.flag.keepalive = dev.ledShadow.flag.keepalive →
      dev'.ledShadow.status = dev.ledShadow.status →
      dev'.ledShadow.flag.keepalive = (if ClearsKeepalive (.message spi topicName payload) then .rsp
          else dev.ledShadow.flag.keepalive) ∧
        dev'.ledShadow.status = statusAfter dev.ledShadow.status
          (statesOf dev.ledShadow (.message spi topicName payload)) := by
    intro htopic hflag hstatus
    have hno : ¬ ClearsKeepalive (.message spi topicName payload) := by
      rintro ⟨rfl, -⟩; exact htopic hkeep
    rw [if_neg hno, statesOf, if_neg htopic]
    exact ⟨hflag, hstatus⟩
  cases h with
  | nothing htopic => exact hother htopic rfl rfl
  | connect htopic =>
    obtain ⟨hflag, hstatus⟩ := connectRspShadow_keepalive payload topicName dev.ledShadow
    rw [statesOf, if_pos htopic]
    exact ⟨hflag, hstatus⟩
  | acknowledged htopic _ _ _ => exact hother (htopic ▸ setShadow_not_connect) rfl rfl
  | updated htopic _ _ =>
    rw [driveLed_shadow] at hother ⊢
    exact hother (htopic ▸ update_not_connect) rfl rfl
  | otherDevice htopic _ _ =>
    rw [driveLed_shadow] at hother ⊢
    exact hother (htopic ▸ update_not_connect) rfl rfl

/-- **A step other than a turn of the keepalive loop** clears the flag of the keepalive if it is a
complete list on that topic, and stores the states that are given to the device. -/
theorem deviceStep_keepalive {dev dev' : Device} {e : Event} {out : List Output}
    (h : deviceStep dev e = .ok (dev', out)) (he : ¬ IsKeepaliveTick e) :
    dev'.ledShadow.flag.keepalive =
        (if ClearsKeepalive e then .rsp else dev.ledShadow.flag.keepalive) ∧
      dev'.ledShadow.status = statusAfter dev.ledShadow.status (statesOf dev.ledShadow e) := by
  cases e with
  | message spi topicName payload => exact messageEffect_keepalive (messageArrived_effect h)
  | keepaliveTick env => exact absurd trivial he
  | monitorTick env =>
    rcases ledMonitorTick_eq_ok h with ⟨rfl, -⟩ | ⟨-, shadow, hrep, rfl, -⟩
    · exact ⟨rfl, rfl⟩
    · obtain ⟨-, rfl⟩ := monitorReport_eq_ok hrep
      rw [shadowSetReq_shadow, if_neg (show ¬ ClearsKeepalive (.monitorTick env) from id)]
      refine ⟨?_, rfl⟩
      show DevShadowFlag.keepalive (if _ then setReqFlag _ else _) = _
      split_ifs <;> rfl
  | funcTick env =>
    obtain ⟨rfl, -⟩ := funcTick_eq_ok h
    rw [ledFuncTick_shadow]
    exact ⟨rfl, rfl⟩

/-- **A run without a turn of the keepalive loop.** -/
theorem exec_keepalive {es : List Event} : ∀ {dev dev' : Device} {out : List Output},
    exec deviceStep dev es = .ok (dev', out) → (∀ e ∈ es, ¬ IsKeepaliveTick e) →
      dev'.ledShadow.flag.keepalive =
          (if ∃ e ∈ es, ClearsKeepalive e then .rsp else dev.ledShadow.flag.keepalive) ∧
        dev'.ledShadow.status =
          statusAfter dev.ledShadow.status (es.flatMap (statesOf dev.ledShadow)) := by
  induction es with
  | nil =>
    intro dev dev' out h _
    obtain ⟨rfl, -⟩ := Prod.mk.inj (Except.ok.inj h)
    exact ⟨(by simp), rfl⟩
  | cons e es ih =>
    intro dev dev' out h hno
    obtain ⟨dev₁, o, os, hstep, hrun, -⟩ := exec_cons_eq_ok.mp h
    obtain ⟨hflag, hstatus⟩ := deviceStep_keepalive hstep (hno e (List.mem_cons_self ..))
    obtain ⟨hflag', hstatus'⟩ := ih hrun fun e' he' => hno e' (List.mem_cons_of_mem _ he')
    have hkept := deviceStep_kept hstep
    constructor
    · rw [hflag', hflag]
      simp only [List.mem_cons, exists_eq_or_imp]
      by_cases h1 : ClearsKeepalive e <;> simp [h1]
    · have hstates : statesOf dev₁.ledShadow = statesOf dev.ledShadow :=
        funext (statesOf_congr hkept.productKey hkept.deviceID)
      rw [hstatus', hstatus, List.flatMap_cons, statusAfter_append, hstates]

/-! ### Two turns of the keepalive loop -/

/-- The response on the topic of the keepalive does not name the device. -/
def Unnamed (shadow : DevShadow) : Event → Prop
  | .message _ topicName payload => topicName = TOPIC_RSP_KEEPALIVE →
      ∀ entries ∈ connectEntries payload, ∀ entry ∈ entries, ¬ NamesDevice shadow entry
  | _ => True

instance (shadow : DevShadow) : (e : Event) → Decidable (Unnamed shadow e)
  | .message _ topicName payload => inferInstanceAs (Decidable (topicName = TOPIC_RSP_KEEPALIVE →
      ∀ entries ∈ connectEntries payload, ∀ entry ∈ entries, ¬ NamesDevice shadow entry))
  | .monitorTick _ | .keepaliveTick _ | .funcTick _ => isTrue trivial

/-- What an online or an offline response gives to the device. -/
def onlineStates (shadow : DevShadow) : Event → List CString
  | .message _ topicName payload =>
    if topicName = TOPIC_RSP_ONLINE ∨ topicName = TOPIC_RSP_OFFLINE then namedStates shadow payload
    else []
  | _ => []

/-- The turn takes the branch that sets the status to `offline` and sends an online request. -/
def DeclaresOffline (env : KeepaliveEnv) (dev : Device) : Prop :=
  (ledKeepaliveTick env dev).1.ledShadow.status.str = DEV_OFFLINE ∧ (ledKeepaliveTick env dev).2 =
    (shadowConnectReq env.connectReq TOPIC_REQ_ONLINE (declareOffline dev.ledShadow)).2.2

theorem declaresOffline_iff_branch {env : KeepaliveEnv} {dev : Device} :
    DeclaresOffline env dev ↔ ¬ OnlineAnswered dev.ledShadow := by
  have hshadow : (ledKeepaliveTick env dev).1.ledShadow = (keepaliveShadow env dev.ledShadow).1 := rfl
  constructor
  · rintro ⟨hst, -⟩ honline
    rw [hshadow, keepaliveShadow_online honline, shadowConnectReq_shadow] at hst
    have hretry : (keepaliveRetry env dev.ledShadow).1.status = dev.ledShadow.status := by
      rw [keepaliveRetry_eq]
      split_ifs
      · rw [shadowSetReq_shadow]
      · rfl
    change (keepaliveRetry env dev.ledShadow).1.status.str = DEV_OFFLINE at hst
    rw [hretry, ← strcmp_eq_zero.mp honline.1] at hst
    exact absurd hst (by decide)
  · intro hoff
    refine ⟨?_, ?_⟩
    · rw [hshadow, keepaliveShadow_offline hoff, shadowConnectReq_shadow]
      exact str_snprintf (by decide)
    · show (keepaliveShadow env dev.ledShadow).2 = _
      rw [keepaliveShadow_offline hoff]

theorem statesOf_eq_onlineStates {shadow : DevShadow} {e : Event} (h : Unnamed shadow e) :
    statesOf shadow e = onlineStates shadow e := by
  cases e with
  | message spi topicName payload =>
    simp only [statesOf, onlineStates]
    by_cases hk : topicName = TOPIC_RSP_KEEPALIVE
    · -- a keepalive response that does not name the device gives it no state
      subst hk
      rw [if_pos (by simp [connectTopics]), if_neg (by decide)]
      unfold namedStates
      cases he : connectEntries payload with
      | none => rfl
      | some entries =>
        refine List.filterMap_eq_nil_iff.mpr fun entry hentry => if_neg ?_
        exact h rfl entries he entry (List.takeWhile_subset _ hentry)
    · have hiff : topicName ∈ connectTopics ↔
          topicName = TOPIC_RSP_ONLINE ∨ topicName = TOPIC_RSP_OFFLINE := by
        simp [connectTopics, hk]
      simp only [hiff]
  | monitorTick _ | keepaliveTick _ | funcTick _ => rfl

/-- The first turn raises the flag if its send succeeds, and leaves the status as it is. -/
theorem keepaliveTick_online (env : KeepaliveEnv) {shadow : DevShadow} (h : OnlineAnswered shadow) :
    (keepaliveShadow env shadow).1.flag.keepalive = (if env.connectReq.sent then .req else .rsp) ∧
      (keepaliveShadow env shadow).1.status = shadow.status := by
  have hretry : (keepaliveRetry env shadow).1.flag.keepalive = .rsp ∧
      (keepaliveRetry env shadow).1.status = shadow.status := by
    rw [keepaliveRetry_eq]
    split_ifs
    · rw [shadowSetReq_shadow]
      refine ⟨?_, rfl⟩
      show DevShadowFlag.keepalive (if env.setReq.sent then setReqFlag shadow.flag else shadow.flag) = _
      split_ifs <;> exact h.2
    · exact ⟨h.2, rfl⟩
  rw [keepaliveShadow_online h, shadowConnectReq_shadow]
  refine ⟨?_, hretry.2⟩
  show DevShadowFlag.keepalive (if env.connectReq.sent then _ else _) = _
  cases env.connectReq.sent with
  | true => rw [if_pos rfl, connectReqFlag_keepalive]; rfl
  | false => exact hretry.1

/-- **When a missed heartbeat is detected.** A turn sends a keepalive, no keepalive response that
names the device follows, and then comes the next turn: it declares the device offline exactly if
the send succeeded and no complete list came on the topic of the keepalive responses, or the last
state an online or offline response gave to the device is not `online`. -/
theorem declaresOffline_iff {dev dev' : Device} {env env' : KeepaliveEnv} {es : List Event}
    {out : List Output} (honline : OnlineAnswered dev.ledShadow)
    (hrun : exec deviceStep dev (.keepaliveTick env :: es) = .ok (dev', out))
    (hticks : ∀ e ∈ es, ¬ IsKeepaliveTick e) (hunnamed : ∀ e ∈ es, Unnamed dev.ledShadow e) :
    DeclaresOffline env' dev' ↔
      (env.connectReq.sent ∧ ∀ e ∈ es, ¬ ClearsKeepalive e) ∨
        ∃ state, (es.flatMap (onlineStates dev.ledShadow)).getLast? = some state ∧
          (snprintf LENGTH_STATUS state).str ≠ DEV_ONLINE := by
  obtain ⟨dev₁, o, os, hstep, hrest, -⟩ := exec_cons_eq_ok.mp hrun
  have hkept := deviceStep_kept hstep
  obtain ⟨rfl, -⟩ := keepaliveTick_eq_ok hstep
  obtain ⟨hflag₁, hstatus₁⟩ := keepaliveTick_online env honline
  obtain ⟨hflag, hstatus⟩ := exec_keepalive hrest hticks
  have hstates : es.flatMap (statesOf (keepaliveShadow env dev.ledShadow).1) =
      es.flatMap (onlineStates dev.ledShadow) := by
    refine List.flatMap_congr fun e he => ?_
    rw [statesOf_congr hkept.productKey hkept.deviceID, statesOf_eq_onlineStates (hunnamed e he)]
  change dev'.ledShadow.status = statusAfter _
    (es.flatMap (statesOf (keepaliveShadow env dev.ledShadow).1)) at hstatus
  rw [hstates, hstatus₁, statusAfter_eq] at hstatus
  change dev'.ledShadow.flag.keepalive =
    (if _ then _ else (keepaliveShadow env dev.ledShadow).1.flag.keepalive) at hflag
  rw [hflag₁] at hflag
  -- the flag is raised
  have hreq : dev'.ledShadow.flag.keepalive ≠ .rsp ↔
      env.connectReq.sent = true ∧ ∀ e ∈ es, ¬ ClearsKeepalive e := by
    rw [hflag]
    by_cases hclear : ∃ e ∈ es, ClearsKeepalive e
    · rw [if_pos hclear]
      simp only [ne_eq, not_true_eq_false, false_iff, not_and]
      intro _ hno
      obtain ⟨e, he, hc⟩ := hclear
      exact hno e he hc
    · rw [if_neg hclear]
      have hno : ∀ e ∈ es, ¬ ClearsKeepalive e := fun e he hc => hclear ⟨e, he, hc⟩
      rw [and_iff_left hno]
      cases env.connectReq.sent <;> simp
  -- the status is another one
  have hother : dev'.ledShadow.status.str ≠ DEV_ONLINE ↔
      ∃ state, (es.flatMap (onlineStates dev.ledShadow)).getLast? = some state ∧
        (snprintf LENGTH_STATUS state).str ≠ DEV_ONLINE := by
    rw [hstatus]
    cases (es.flatMap (onlineStates dev.ledShadow)).getLast? with
    | none =>
      have hst : dev.ledShadow.status.str = DEV_ONLINE := (strcmp_eq_zero.mp honline.1).symm
      simp [hst]
    | some state => simp
  rw [declaresOffline_iff_branch, ← hreq, ← hother]
  unfold OnlineAnswered
  rw [strcmp_eq_zero, not_and_or, or_comm]
  exact or_congr Iff.rfl (not_congr eq_comm)

/-- The LED, registered and with no keepalive under way. -/
def onlineLed : Device :=
  let dev := ledInstall LED_OFF (.zero _) 0 fun _ => 0
  { dev with ledShadow := { dev.ledShadow with status := snprintf LENGTH_STATUS DEV_ONLINE } }

theorem declaresOffline_onlineLed :
    ∃ dev out, exec deviceStep onlineLed [.keepaliveTick ⟨sentEnv, sentEnv⟩, .monitorTick sentMonitor] =
        .ok (dev, out) ∧ DeclaresOffline ⟨sentEnv, sentEnv⟩ dev := by
  have hends : Ends (exec deviceStep onlineLed
      [.keepaliveTick ⟨sentEnv, sentEnv⟩, .monitorTick sentMonitor]) fun _ _ => True := by
    decide +kernel
  obtain ⟨dev, out, hrun, -⟩ := hends
  refine ⟨dev, out, hrun, (declaresOffline_iff (by decide +kernel) hrun ?_ ?_).mpr (Or.inl ⟨rfl, ?_⟩)⟩
  · intro e he
    obtain rfl := List.mem_singleton.mp he; exact id
  · intro e he
    obtain rfl := List.mem_singleton.mp he; trivial
  · intro e he
    obtain rfl := List.mem_singleton.mp he; exact id

/-- A keepalive response that lists another device. -/
def otherResponse : Event :=
  .message spiOk TOPIC_RSP_KEEPALIVE (connectText (.lit "other") (.lit "1") DEV_ONLINE)

instance (env : KeepaliveEnv) (dev : Device) : Decidable (DeclaresOffline env dev) :=
  decidable_of_iff _ declaresOffline_iff_branch.symm

/-- **Missed heartbeats that are not detected**: the keepalive is sent, and a response that lists
another device alone comes back; or the keepalive could not be sent. -/
theorem heartbeat_undetected :
    (Unnamed onlineLed.ledShadow otherResponse ∧
      Ends (exec deviceStep onlineLed [.keepaliveTick ⟨sentEnv, sentEnv⟩, otherResponse])
        fun dev _ => ¬ DeclaresOffline ⟨sentEnv, sentEnv⟩ dev) ∧
      Ends (exec deviceStep onlineLed [.keepaliveTick ⟨sentEnv, unsentEnv⟩])
        fun dev _ => ¬ DeclaresOffline ⟨sentEnv, sentEnv⟩ dev := by
  decide +kernel

end OasisEdge.System.Heartbeat
