import OasisEdge.System.Platform
import OasisEdge.System.Reports

/-! # Answers to reports

The LED and a platform that answers each published `updateShadow` request at most once, with status
`200` and the identity and the version of the request. Requests and answers are on their way for as
long as they like and overtake each other; update notifications and all other messages arrive at any
time (`netStep`).

An answer clears `flag->setShadow` if its version is the present one. Versions never fall, so such
an answer is stale, that is older than the last accepted update, only if that update was accepted
under the version the shadow had already, with a report of that version under way. Runs without such
an update clear the flag for fresh reports only (`cleared_fresh`). -/

namespace OasisEdge.System.Acknowledgement

open OasisEdge.Lib.Chars OasisEdge.Lib.Doubles OasisEdge.Lib.Checking OasisEdge.Lib.Runs
open OasisEdge.CJson.Value OasisEdge.CJson.Parse OasisEdge.App.Func OasisEdge.Shadow.State
open OasisEdge.Shadow.Connect OasisEdge.Shadow.Set OasisEdge.Shadow.Update OasisEdge.Led.Driver
open OasisEdge.Sample.EdgeClient OasisEdge.System.Platform OasisEdge.System.Steps
open OasisEdge.System.Reports

/-! ### The system -/

/-- A published report, and the step that published it. -/
structure Report where
  sentAt : ℕ
  message : Json
deriving DecidableEq

/-- The device, the number of the next step, the step that accepted the last update (`0` for none),
the reports not answered yet, and the reports whose answer is on its way. -/
structure Net where
  dev : Device
  now : ℕ
  updatedAt : ℕ
  requests : List Report
  answers : List Report

/-- What can happen: a step of the device, the platform answers a report, an answer arrives. -/
inductive NetEvent
  | device (e : Event)
  | answer (i : ℕ)
  | deliver (i : ℕ) (spi : SpiEnv) (payload : CString)

/-- The answer to a report cleared the flag: when the report was published, and when the last update
had been accepted. -/
structure Cleared where
  sentAt : ℕ
  updatedAt : ℕ
deriving DecidableEq

/-- The event is a message on the topic of the answers: those come from the platform alone. -/
def OnAnswerTopic : Event → Prop
  | .message _ topicName _ => topicName = TOPIC_RSP_SET_SHADOW
  | _ => False

instance : (e : Event) → Decidable (OnAnswerTopic e)
  | .message _ topicName _ => inferInstanceAs (Decidable (topicName = TOPIC_RSP_SET_SHADOW))
  | .monitorTick _ | .keepaliveTick _ | .funcTick _ => isFalse id

/-- The flag went from `FLAG_REQ` to `FLAG_RSP`. -/
def Clears (dev dev' : Device) : Prop :=
  dev.ledShadow.flag.setShadow = .req ∧ dev'.ledShadow.flag.setShadow = .rsp

instance (dev dev' : Device) : Decidable (Clears dev dev') := by unfold Clears; infer_instance

/-- The system after a step of the device. -/
def Net.stepped (net : Net) (e : Event) (dev : Device) (out : List Output) : Net :=
  { net with
    dev := dev
    now := net.now + 1
    updatedAt := if (acceptedUpdate net.dev e).isSome then net.now else net.updatedAt
    requests := net.requests ++ (published out).map fun message => ⟨net.now, message⟩ }

/-- One step of the system; it tells when an answer clears the flag. -/
def netStep (net : Net) : NetEvent → Except Stop (Net × List Cleared)
  | .device e =>
    if OnAnswerTopic e then .error .impossible
    else match deviceStep net.dev e with
    | .error f => .error (.fault f)
    | .ok (dev, out) => .ok (net.stepped e dev out, [])
  | .answer i =>
    match net.requests[i]? with
    | none => .error .impossible
    | some r =>
      .ok ({ net with
        now := net.now + 1
        requests := net.requests.eraseIdx i
        answers := net.answers ++ [r] }, [])
  | .deliver i spi payload =>
    match net.answers[i]? with
    | none => .error .impossible
    | some r =>
      if AnswerTo r.message payload then
        match messageArrived spi TOPIC_RSP_SET_SHADOW payload net.dev with
        | .error f => .error (.fault f)
        | .ok (dev, _) =>
          .ok ({ net with dev := dev, now := net.now + 1, answers := net.answers.eraseIdx i },
            if Clears net.dev dev then [⟨r.sentAt, net.updatedAt⟩] else [])
      else .error .impossible

/-- The system with a device and nothing under way. -/
def start (dev : Device) : Net := ⟨dev, 1, 0, [], []⟩

/-! ### Steps -/

theorem accepted_published {dev dev' : Device} {e : Event} {out : List Output} {v : ℤ}
    (h : deviceStep dev e = .ok (dev', out)) (hacc : acceptedUpdate dev e = some v) :
    published out = [] := by
  cases e with
  | message spi topicName payload => exact messageEffect_published (messageArrived_effect h)
  | monitorTick env => cases hacc
  | keepaliveTick env => cases hacc
  | funcTick env => cases hacc

/-! ### The order of reports and updates -/

/-- What is known of a report under way: its version is not ahead of the shadow, and behind it if
the report is older than the last update. -/
def Known (net : Net) (r : Report) : Prop :=
  r.sentAt < net.now ∧ ∃ v, 0 ≤ v ∧ v ≤ net.dev.ledShadow.version ∧
    cjsonGetObjectItem r.message (.lit "version") = some (.num (.ofInt v)) ∧
      (r.sentAt ≤ net.updatedAt → v < net.dev.ledShadow.version)

/-- **The invariant**: versions order the reports under way and the last update. -/
structure Ordered (net : Net) : Prop where
  version_nonneg : 0 ≤ net.dev.ledShadow.version
  updatedAt_lt : net.updatedAt < net.now
  requests : ∀ r ∈ net.requests, Known net r
  answers : ∀ r ∈ net.answers, Known net r

/-- No report of the present version is under way. -/
def NoneUnderWay (net : Net) : Prop :=
  ∀ r ∈ net.requests ++ net.answers,
    cjsonGetObjectItem r.message (.lit "version") ≠ some (.num (.ofInt net.dev.ledShadow.version))

instance (net : Net) : Decidable (NoneUnderWay net) := by unfold NoneUnderWay; infer_instance

/-- The step does not accept an update under the present version while a report of that version is
under way. -/
def Distinguishes (net : Net) : NetEvent → Prop
  | .device e => acceptedUpdate net.dev e = some net.dev.ledShadow.version → NoneUnderWay net
  | _ => True

instance (net : Net) (e : NetEvent) : Decidable (Distinguishes net e) := by
  cases e <;> unfold Distinguishes <;> infer_instance

/-- A report stays known in a later state of which the version is no smaller, if no update came. -/
theorem Known.later {net net' : Net} {r : Report} (h : Known net r) (hnow : net.now ≤ net'.now)
    (hupd : net'.updatedAt = net.updatedAt)
    (hv : net.dev.ledShadow.version ≤ net'.dev.ledShadow.version) : Known net' r := by
  obtain ⟨hsent, v, h0, hle, hitem, hold⟩ := h
  refine ⟨by omega, v, h0, by omega, hitem, fun hr => ?_⟩
  have := hold (by omega)
  omega

/-- A report stays known after an update under a later version. -/
theorem Known.updated {net net' : Net} {r : Report} (h : Known net r) (hnow : net.now ≤ net'.now)
    (hv : net.dev.ledShadow.version < net'.dev.ledShadow.version) : Known net' r := by
  obtain ⟨hsent, v, h0, hle, hitem, -⟩ := h
  exact ⟨by omega, v, h0, by omega, hitem, fun _ => by omega⟩

/-- A report that is not of the present version stays known after an update. -/
theorem Known.updated_same {net net' : Net} {r : Report} (h : Known net r)
    (hnow : net.now ≤ net'.now) (hv : net.dev.ledShadow.version = net'.dev.ledShadow.version)
    (hne : cjsonGetObjectItem r.message (.lit "version") ≠
      some (.num (.ofInt net.dev.ledShadow.version))) : Known net' r := by
  obtain ⟨hsent, v, h0, hle, hitem, -⟩ := h
  have hv' : v ≠ net.dev.ledShadow.version := by
    rintro rfl; exact hne hitem
  exact ⟨by omega, v, h0, by omega, hitem, fun _ => by omega⟩

/-- An answer that clears the flag has the present version, up to saturation. -/
theorem version_of_clears {spi : SpiEnv} {payload : CString} {message : Json} {dev dev' : Device}
    {out : List Output} {v : ℤ}
    (h : messageArrived spi TOPIC_RSP_SET_SHADOW payload dev = .ok (dev', out))
    (hans : AnswerTo message payload) (hclears : Clears dev dev') (h0 : 0 ≤ v)
    (hitem : cjsonGetObjectItem message (.lit "version") = some (.num (.ofInt v))) :
    min INT_MAX v = dev.ledShadow.version := by
  have hne : ∀ topic ∈ connectTopics, TOPIC_RSP_SET_SHADOW ≠ topic := by decide
  have hupd : TOPIC_RSP_SET_SHADOW ≠ TOPIC_UPDATE_SHADOW := by decide
  cases messageArrived_effect h with
  | nothing _ => exact absurd (hclears.1.symm.trans hclears.2) (by decide)
  | connect htopic => exact absurd rfl (hne _ htopic)
  | @acknowledged root a htopic hroot ha hack =>
    unfold AnswerTo at hans
    rw [hroot, Option.bind_some, ha] at hans
    obtain ⟨-, -, hv, -⟩ := hans
    obtain hav : Json.num (.ofInt v) = a.version := Option.some.inj (hitem.symm.trans hv)
    rw [← valueint_ofInt h0, hav]
    exact hack.2.2.2
  | updated htopic _ _ => exact absurd htopic hupd
  | otherDevice htopic _ _ => exact absurd htopic hupd

theorem Known.stepped {net : Net} {e : Event} {dev : Device} {out : List Output} {r : Report}
    (hr : r ∈ net.requests ++ net.answers) (h : Known net r)
    (hdist : Distinguishes net (.device e)) (hstep : deviceStep net.dev e = .ok (dev, out)) :
    Known (net.stepped e dev out) r := by
  have hkept := (deviceStep_kept hstep).version_le
  cases hacc : acceptedUpdate net.dev e with
  | none =>
    refine h.later (Nat.le_succ _) ?_ hkept
    rw [Net.stepped, hacc]; rfl
  | some v =>
    have hv : dev.ledShadow.version = v := accepted_version hstep hacc
    rcases lt_or_eq_of_le hkept with hlt | heq
    · exact h.updated (Nat.le_succ _) hlt
    · refine h.updated_same (Nat.le_succ _) heq (hdist ?_ r hr)
      rw [hacc, heq, hv]

theorem Ordered.stepped {net : Net} {e : Event} {dev : Device} {out : List Output}
    (hord : Ordered net) (hdist : Distinguishes net (.device e))
    (hstep : deviceStep net.dev e = .ok (dev, out)) : Ordered (net.stepped e dev out) := by
  have hkept := (deviceStep_kept hstep).version_le
  have hnonneg := hord.version_nonneg
  have hupdlt := hord.updatedAt_lt
  refine ⟨hnonneg.trans hkept, ?_, ?_, ?_⟩
  · unfold Net.stepped
    show (if (acceptedUpdate net.dev e).isSome then net.now else net.updatedAt) < net.now + 1
    split_ifs <;> omega
  · intro r hr
    rcases List.mem_append.mp hr with hr | hr
    · exact (hord.requests r hr).stepped (List.mem_append_left _ hr) hdist hstep
    · -- a new report: there is no update in the same step
      obtain ⟨message, hm, rfl⟩ := List.mem_map.mp hr
      have hupd : (net.stepped e dev out).updatedAt = net.updatedAt := by
        unfold Net.stepped
        cases hacc : acceptedUpdate net.dev e with
        | none => rfl
        | some v => rw [accepted_published hstep hacc] at hm; cases hm
      refine ⟨Nat.lt_succ_self _, dev.ledShadow.version, hnonneg.trans hkept, le_rfl,
        published_version hstep hm, fun hle => ?_⟩
      rw [hupd] at hle
      exact absurd hle (not_le.mpr hupdlt)
  · intro r hr
    exact (hord.answers r hr).stepped (List.mem_append_right _ hr) hdist hstep

/-- An answer of the platform keeps the invariant: the report is under way as before. -/
theorem Ordered.answered {net : Net} {i : ℕ} {r : Report} (hord : Ordered net)
    (hr : net.requests[i]? = some r) :
    Ordered { net with
      now := net.now + 1
      requests := net.requests.eraseIdx i
      answers := net.answers ++ [r] } := by
  refine ⟨hord.version_nonneg, Nat.lt_succ_of_lt hord.updatedAt_lt, ?_, ?_⟩
  · intro r' hr'
    exact (hord.requests r' (List.mem_of_mem_eraseIdx hr')).later (Nat.le_succ _) rfl le_rfl
  · intro r' hr'
    rcases List.mem_append.mp hr' with hr' | hr'
    · exact (hord.answers r' hr').later (Nat.le_succ _) rfl le_rfl
    · obtain rfl := List.mem_singleton.mp hr'
      exact (hord.requests r' (List.mem_of_getElem? hr)).later (Nat.le_succ _) rfl le_rfl

theorem Ordered.delivered {net : Net} {i : ℕ} {dev : Device} (hord : Ordered net)
    (hv : net.dev.ledShadow.version ≤ dev.ledShadow.version) :
    Ordered { net with dev := dev, now := net.now + 1, answers := net.answers.eraseIdx i } := by
  refine ⟨hord.version_nonneg.trans hv, Nat.lt_succ_of_lt hord.updatedAt_lt, ?_, ?_⟩
  · intro r hr
    exact (hord.requests r hr).later (Nat.le_succ _) rfl hv
  · intro r hr
    exact (hord.answers r (List.mem_of_mem_eraseIdx hr)).later (Nat.le_succ _) rfl hv

/-- An answer that clears the flag is to a report made after the last update: an older report has an
earlier version, and the check of the version fails. -/
theorem Known.fresh {net : Net} {r : Report} {spi : SpiEnv} {payload : CString} {dev : Device}
    {out : List Output} (h : Known net r) (hans : AnswerTo r.message payload)
    (hstep : messageArrived spi TOPIC_RSP_SET_SHADOW payload net.dev = .ok (dev, out))
    (hclears : Clears net.dev dev) : net.updatedAt < r.sentAt := by
  obtain ⟨-, v, h0, hle, hitem, hold⟩ := h
  have hv := version_of_clears hstep hans hclears h0 hitem
  by_contra hcon
  have hlt := hold (by omega)
  omega

/-- **Every step keeps the invariant**, and an answer that clears the flag is to a report made after
the last update. -/
theorem ordered_step {net net' : Net} {e : NetEvent} {cs : List Cleared} (hord : Ordered net)
    (hdist : Distinguishes net e) (h : netStep net e = .ok (net', cs)) :
    Ordered net' ∧ ∀ c ∈ cs, c.updatedAt < c.sentAt := by
  cases e with
  | device e =>
    simp only [netStep] at h
    split_ifs at h
    cases hstep : deviceStep net.dev e with
    | error f => rw [hstep] at h; cases h
    | ok r =>
      rw [hstep] at h
      obtain ⟨rfl, rfl⟩ := Prod.mk.inj (Except.ok.inj h)
      exact ⟨hord.stepped hdist hstep, by simp⟩
  | answer i =>
    simp only [netStep] at h
    cases hr : net.requests[i]? with
    | none => rw [hr] at h; cases h
    | some r =>
      rw [hr] at h
      obtain ⟨rfl, rfl⟩ := Prod.mk.inj (Except.ok.inj h)
      exact ⟨hord.answered hr, by simp⟩
  | deliver i spi payload =>
    simp only [netStep] at h
    cases hr : net.answers[i]? with
    | none => rw [hr] at h; cases h
    | some r =>
      rw [hr] at h
      dsimp only at h
      split_ifs at h with hans
      cases hstep : messageArrived spi TOPIC_RSP_SET_SHADOW payload net.dev with
      | error f => rw [hstep] at h; cases h
      | ok d =>
        obtain ⟨dev, out⟩ := d
        rw [hstep] at h
        obtain ⟨rfl, rfl⟩ := Prod.mk.inj (Except.ok.inj h)
        refine ⟨hord.delivered (messageEffect_kept (messageArrived_effect hstep)).version_le, ?_⟩
        intro c hc
        split_ifs at hc with hclears
        · obtain rfl := List.mem_singleton.mp hc
          exact (hord.answers r (List.mem_of_getElem? hr)).fresh hans hstep hclears
        · cases hc

/-- **Answers that clear the flag are fresh**, in every run that does not accept an update under the
present version while a report of that version is under way. -/
theorem cleared_fresh {ledState : UInt8} {uuid : CBuf LENGTH_TOKEN} {unixTime : UInt64}
    {regs : UInt8 → UInt8} {es : List NetEvent} {net : Net} {cs : List Cleared}
    (hdist : Meets netStep Distinguishes (start (ledInstall ledState uuid unixTime regs)) es)
    (hrun : exec netStep (start (ledInstall ledState uuid unixTime regs)) es = .ok (net, cs)) :
    ∀ c ∈ cs, c.updatedAt < c.sentAt := by
  refine exec_outputs Ordered (fun c => c.updatedAt < c.sentAt) ?_ ?_ hdist hrun
  · intro s e s' o hI hC hs
    exact ordered_step hI hC hs
  · exact ⟨le_rfl, Nat.zero_lt_one, by simp [start], by simp [start]⟩

/-- The LED after installation, with the switch reported as off. -/
def installed : Net := start (ledInstall LED_OFF (.zero _) 0 fun _ => 0)

/-- A run with an update, a report after it, and the answer to the report. -/
def answeredRun : List NetEvent :=
  [.device (.message spiOk TOPIC_RSP_ONLINE onlineText),
    .device (.message spiOk TOPIC_UPDATE_SHADOW
      (notificationText PRODUCTKEY (.lit "1") (.lit "1") (.lit "off") (.lit "1"))),
    .device (.monitorTick sentMonitor), .answer 0,
    .deliver 0 spiOk (answerText PRODUCTKEY DEVICEID (.lit "200") (.lit "2"))]

theorem cleared_fresh_answeredRun :
    ∃ net cs, exec netStep installed answeredRun = .ok (net, cs) ∧ cs = [⟨3, 2⟩] ∧
      ∀ c ∈ cs, c.updatedAt < c.sentAt := by
  have hends : Ends (exec netStep installed answeredRun) fun _ cs => cs = [⟨3, 2⟩] := by
    decide +kernel
  obtain ⟨net, cs, hrun, hcs⟩ := hends
  exact ⟨net, cs, hrun, hcs, cleared_fresh (by decide +kernel) hrun⟩

/-- A run with a report under version `1`, an update under version `1` after it, and the answer to
the report. -/
def staleRun : List NetEvent :=
  [.device (.message spiOk TOPIC_RSP_ONLINE onlineText),
    .device (.monitorTick sentMonitor),
    .device (.message spiOk TOPIC_UPDATE_SHADOW
      (notificationText PRODUCTKEY (.lit "1") (.lit "1") (.lit "on") (.lit "1"))), .answer 0,
    .deliver 0 spiOk (answerText PRODUCTKEY DEVICEID (.lit "200") (.lit "1"))]

/-- **A stale answer clears the flag** that the update raised: the report is older than the
update. -/
theorem cleared_stale :
    Ends (exec netStep installed staleRun) fun _ cs => ∃ c ∈ cs, c.sentAt < c.updatedAt := by
  decide +kernel

end OasisEdge.System.Acknowledgement
