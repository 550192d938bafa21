import OasisEdge.System.Client

/-! # The start of the program, with the messages that arrive meanwhile

The steps of `main` and of the library are those of `Client`, but `LED_Install` is taken apart:
`SHADOW_Init` returns and `ledShadow` is assigned, the assignments of `Led_Init` are executed one by
one, `Led_Init` returns, and `LED_Install` returns. The broker accepts the subscription that `onConnect` asks for some
time before `onSubscribe` reports it, and from then on it may deliver a message on a subscribed
topic at any time, in the middle of `LED_Install` too.

A message finds the installed LED exactly if `Led_Init` has returned (`ready_iff`), so in a run
all messages do exactly if none is delivered before that (`dispatchesReady_iff`). Nothing in the
program holds the messages back: `main` asks for the subscription first and installs the LED when it
is confirmed. -/

namespace OasisEdge.System.Startup

open OasisEdge.Lib.Chars OasisEdge.Lib.Checking OasisEdge.Lib.Runs OasisEdge.CJson.Value
open OasisEdge.CJson.Parse OasisEdge.Shadow.State OasisEdge.Shadow.Connect OasisEdge.Shadow.Set
open OasisEdge.Led.Driver OasisEdge.Sample.EdgeClient OasisEdge.System.Platform
open OasisEdge.System.Steps OasisEdge.System.Client

/-! ### `LED_Install` -/

/-- What `LED_Install` finds: the content of the local variable that is never set, what the tools
return, and the registers. -/
structure InstallEnv where
  ledState : UInt8
  uuid : CBuf LENGTH_TOKEN
  unixTime : UInt64
  regs : UInt8 → UInt8

/-- The assignments of `Led_Init`, in order. -/
def ledInitWrites (env : InstallEnv) : List (DevShadow → DevShadow) :=
  [fun shadow => { shadow with version := 0 },
    fun shadow => { shadow with flag := { shadow.flag with online := .rsp } },
    fun shadow => { shadow with flag := { shadow.flag with offline := .rsp } },
    fun shadow => { shadow with flag := { shadow.flag with keepalive := .rsp } },
    fun shadow => { shadow with flag := { shadow.flag with setShadow := .rsp } },
    fun shadow => { shadow with productKey := snprintf LENGTH_PRODUCTKEY PRODUCTKEY },
    fun shadow => { shadow with deviceID := snprintf LENGTH_DEVICEID DEVICEID },
    fun shadow => { shadow with
      state := { shadow.state with
        reported := { shadow.state.reported with
          sw := snprintf LENGTH_SWITCH (stateName env.ledState) } } },
    fun shadow => { shadow with token := snprintf LENGTH_TOKEN env.uuid.str },
    fun shadow => { shadow with
      state := { shadow.state with
        reported := { shadow.state.reported with swTimestamp := env.unixTime } } }]

/-- Assignments executed in order. -/
def execWrites (writes : List (DevShadow → DevShadow)) (shadow : DevShadow) : DevShadow :=
  writes.foldl (fun shadow write => write shadow) shadow

/-- **The assignments of `Led_Init`**, executed without a message in between, give its result. -/
theorem execWrites_ledInitWrites (env : InstallEnv) :
    execWrites (ledInitWrites env) shadowInit = ledInit env.ledState env.uuid env.unixTime := rfl

/-! ### The program -/

/-- `LED_Install` at work: the device so far, the assignments of `Led_Init` still to come, and whether
`LED_Install` is past the call of `Led_Init`. -/
structure Installing where
  dev : Device
  todo : List (DevShadow → DevShadow)
  pastInit : Bool

/-- `LED_Install` once `SHADOW_Init` has returned. -/
def allocated (env : InstallEnv) : Installing where
  dev := ⟨shadowInit, .req, ⟨LED_OFF, .success⟩, env.regs⟩
  todo := ledInitWrites env
  pastInit := false

/-- The program, whether the broker has accepted the subscription, `LED_Install` while it works, and
whether `Led_Init` has completed. -/
structure Launch where
  program : Program
  accepted : Bool
  installing : Option Installing
  ledInitDone : Bool

/-- A step of the program, the broker accepting the subscription, a step of `LED_Install`, or a
message. `shadowInit none` is an allocation that fails. -/
inductive StartAct
  | program (a : Act)
  | accept
  | shadowInit (env : Option InstallEnv)
  | ledInitWrite
  | ledInitReturn
  | ledInstallReturn
  | deliver (spi : SpiEnv) (topicName payload : CString)

/-- The steps that are taken as in `Client`: not the installation, and not the messages. The
subscription is reported after it was accepted. -/
def Launch.Allows (s : Launch) : Act → Prop
  | .install _ | .device (.message _ _ _) => False
  | .onSubscribe => s.accepted = true
  | _ => True

instance (s : Launch) (a : Act) : Decidable (s.Allows a) := by
  unfold Launch.Allows; split <;> infer_instance

/-- The handler of the topic gets to use the shadow: what it reads of the payload before that is
there. -/
def UsesShadow (topicName payload : CString) : Bool :=
  match cjsonParse payload with
  | none => false
  | some root =>
    if topicName ∈ connectTopics then
      match cjsonGetObjectItem root (.lit "deviceInfo") with
      | none => false
      | some devinfo =>
        match devinfo.children with
        -- the flag of the topic
        | [] => true
        | entry :: _ => entryComplete (reparse entry)
    else if topicName = TOPIC_RSP_SET_SHADOW then (readAnswer root).isSome
    else (cjsonGetObjectItem root (.lit "timestamp")).isSome

/-- A step of the program within the start. -/
def Launch.onProgram (s : Launch) :
    Except Stop (Program × List Output) → Except Stop (Launch × List Output)
  | .error stop => .error stop
  | .ok (program, out) => .ok ({ s with program := program }, out)

/-- One step of the start. A shadow that could not be allocated is uninstalled, and
`SHADOW_Destroy` reads the members of its argument. -/
def startStep (s : Launch) : StartAct → Except Stop (Launch × List Output)
  | .program a =>
    if s.Allows a then s.onProgram (programStep s.program a) else .error .impossible
  | .accept =>
    if s.program.phase = .subscribing then .ok ({ s with accepted := true }, [])
    else .error .impossible
  | .shadowInit env =>
    if s.program.pc = .install ∧ s.installing.isNone then
      match env with
      | none => .error (.fault .nullPointer)
      | some env => .ok ({ s with installing := some (allocated env) }, [])
    else .error .impossible
  | .ledInitWrite =>
    match s.installing with
    | some ⟨dev, write :: todo, false⟩ =>
      .ok ({ s with
        installing := some ⟨{ dev with ledShadow := write dev.ledShadow }, todo, false⟩ }, [])
    | _ => .error .impossible
  | .ledInitReturn =>
    match s.installing with
    | some ⟨dev, [], false⟩ =>
      .ok ({ s with installing := some ⟨dev, [], true⟩, ledInitDone := true }, [])
    | _ => .error .impossible
  | .ledInstallReturn =>
    match s.installing with
    | some ⟨dev, [], true⟩ =>
      Launch.onProgram { s with installing := none } (programStep s.program (.install (some dev)))
    | _ => .error .impossible
  | .deliver spi topicName payload =>
    if s.accepted = true ∧ topicName ∈ subscribedTopics then
      match s.installing with
      | some i =>
        match messageArrived spi topicName payload i.dev with
        | .error f => .error (.fault f)
        | .ok (dev, out) => .ok ({ s with installing := some { i with dev := dev } }, out)
      | none =>
        if s.program.dev.isNone ∧ UsesShadow topicName payload = false then .ok (s, [])
        else s.onProgram (programStep s.program (.device (.message spi topicName payload)))
    else .error .impossible

/-- The start of `main`. -/
def start : Launch := ⟨launch, false, none, false⟩

/-! ### What the handlers find -/

/-- The shadow behind `ledShadow`, `none` being NULL. -/
def Launch.ledShadow (s : Launch) : Option DevShadow :=
  match s.installing with
  | some i => some i.dev.ledShadow
  | none => s.program.dev.map Device.ledShadow

/-- **The LED is installed**: `ledShadow` is not NULL, `Led_Init` has completed, and the shadow
carries the identity of the LED. -/
def Launch.Ready (s : Launch) : Prop :=
  match s.ledShadow with
  | none => False
  | some shadow => s.ledInitDone = true ∧ shadow.productKey.str = PRODUCTKEY ∧
      shadow.deviceID.str = DEVICEID

instance (s : Launch) : Decidable s.Ready := by
  unfold Launch.Ready; split <;> infer_instance

/-- The handler of the topic reads `ledShadow`. -/
def ReadsShadow (topicName : CString) : Prop :=
  topicName ∈ connectTopics ∨ topicName = TOPIC_RSP_SET_SHADOW ∨ topicName = TOPIC_UPDATE_SHADOW

instance (topicName : CString) : Decidable (ReadsShadow topicName) := by
  unfold ReadsShadow; infer_instance

/-- The step is a message that is dispatched to a handler that reads `ledShadow`. -/
def Launch.Dispatches (s : Launch) : StartAct → Prop
  | .deliver _ topicName _ =>
    s.accepted = true ∧ topicName ∈ subscribedTopics ∧ ReadsShadow topicName
  | _ => False

instance (s : Launch) (a : StartAct) : Decidable (s.Dispatches a) := by
  unfold Launch.Dispatches; split <;> infer_instance

/-- A message that is dispatched finds the LED installed. -/
def DispatchesReady (s : Launch) (a : StartAct) : Prop := s.Dispatches a → s.Ready

instance (s : Launch) (a : StartAct) : Decidable (DispatchesReady s a) := by
  unfold DispatchesReady; infer_instance

/-- `main` is past `LED_Install`. -/
def Past (pc : Pc) : Prop := pc = .onlineReq ∨ pc = .startThreads ∨ pc = .awaitFinished

instance (pc : Pc) : Decidable (Past pc) := by unfold Past; infer_instance

/-- `main` is past `LED_Install`, or in it and past the call of `Led_Init`. -/
def Launch.PastInit (s : Launch) : Prop :=
  Past s.program.pc ∨ (s.installing.any Installing.pastInit) = true

instance (s : Launch) : Decidable s.PastInit := by unfold Launch.PastInit; infer_instance

/-- A message that is dispatched is delivered after `Led_Init` has returned. -/
def DispatchesPast (s : Launch) (a : StartAct) : Prop := s.Dispatches a → s.PastInit

instance (s : Launch) (a : StartAct) : Decidable (DispatchesPast s a) := by
  unfold DispatchesPast; infer_instance

theorem readsShadow_of_subscribed {topicName : CString} (h : topicName ∈ subscribedTopics) :
    ReadsShadow topicName := by
  have hall : ∀ t ∈ subscribedTopics, ReadsShadow t := by decide
  exact hall topicName h

/-! ### The identity of the shadow -/

/-- The two shadows carry the same identity. -/
def SameIdentity (shadow shadow' : DevShadow) : Prop :=
  shadow'.productKey = shadow.productKey ∧ shadow'.deviceID = shadow.deviceID ∧
    shadow'.timestamp = shadow.timestamp

/-- What the write makes of the identity depends on the identity alone. -/
def KeepsIdentity (write : DevShadow → DevShadow) : Prop :=
  ∀ shadow shadow', SameIdentity shadow shadow' → SameIdentity (write shadow) (write shadow')

theorem keepsIdentity_ledInitWrites (env : InstallEnv) :
    ∀ write ∈ ledInitWrites env, KeepsIdentity write := by
  intro write hmem shadow shadow' ⟨hpk, hdid, hts⟩
  simp only [ledInitWrites, List.mem_cons, List.not_mem_nil, or_false] at hmem
  rcases hmem with rfl | rfl | rfl | rfl | rfl | rfl | rfl | rfl | rfl | rfl
  case inr.inr.inr.inr.inr.inl => exact ⟨rfl, hdid, hts⟩
  case inr.inr.inr.inr.inr.inr.inl => exact ⟨hpk, rfl, hts⟩
  all_goals exact ⟨hpk, hdid, hts⟩

/-- A message between two writes does not show in the identity in the end. -/
theorem execWrites_sameIdentity {writes : List (DevShadow → DevShadow)} :
    ∀ {shadow shadow' : DevShadow}, (∀ write ∈ writes, KeepsIdentity write) →
      SameIdentity shadow shadow' → SameIdentity (execWrites writes shadow)
        (execWrites writes shadow') := by
  induction writes with
  | nil => intro shadow shadow' _ h; exact h
  | cons write writes ih =>
    intro shadow shadow' hw h
    exact ih (fun w hmem => hw w (.tail _ hmem)) (hw write (.head _) shadow shadow' h)

theorem SameIdentity.installed {shadow shadow' : DevShadow} (h : SameIdentity shadow shadow')
    (hi : Installed shadow) : Installed shadow' where
  productKey := by rw [h.1]; exact hi.productKey
  deviceID := by rw [h.2.1]; exact hi.deviceID
  timestamp := by rw [h.2.2]; exact hi.timestamp

/-- The assignments to come give the shadow its identity, and none is left after `Led_Init`. -/
structure Completes (i : Installing) : Prop where
  keeps : ∀ write ∈ i.todo, KeepsIdentity write
  installed : Installed (execWrites i.todo i.dev.ledShadow)
  nothingLeft : i.pastInit = true → i.todo = []

theorem completes_allocated (env : InstallEnv) : Completes (allocated env) where
  keeps := keepsIdentity_ledInitWrites env
  installed := by
    show Installed (execWrites (ledInitWrites env) shadowInit)
    rw [execWrites_ledInitWrites]
    exact installed_ledInit ..
  nothingLeft := by rintro ⟨⟩

/-! ### `main` and `LED_Install` -/

/-- **What a step of the program does to `main`** that is not the installation: it does not lead
past `LED_Install` and not back, it does not leave it, and it keeps the identity of the device. -/
structure Around (p p' : Program) : Prop where
  past : Past p'.pc ↔ Past p.pc
  install : p.pc = .install → p'.pc = .install
  dev : p'.dev = p.dev ∨ ∃ dev dev', p.dev = some dev ∧ p'.dev = some dev' ∧
    Kept dev.ledShadow dev'.ledShadow

theorem Around.of_same {p p' : Program} (hpc : p'.pc = p.pc) (hdev : p'.dev = p.dev) :
    Around p p' :=
  ⟨by rw [hpc], fun h => hpc.trans h, Or.inl hdev⟩

theorem Around.of_before {p p' : Program} (hpc : ¬ Past p.pc ∧ p.pc ≠ .install)
    (hpc' : ¬ Past p'.pc) (hdev : p'.dev = p.dev) : Around p p' :=
  ⟨iff_of_false hpc' hpc.1, fun h => absurd h hpc.2, Or.inl hdev⟩

theorem programStep_around {p p' : Program} {a : Act} {out : List Output} (hi : MainInv p)
    (ha : ∀ dev, a ≠ .install dev) (h : programStep p a = .ok (p', out)) : Around p p' := by
  cases a with
  | create ok | setCallbacks ok | connect ok =>
    obtain ⟨hpc, rfl, -⟩ := takes_eq_ok.mp h
    refine .of_before ?_ ?_ ?_
    · rw [hpc]; decide
    · cases ok <;> simp [Past]
    · cases ok <;> rfl
  | onConnect subscribeOk | onConnectFailure | onSubscribe | onSubscribeFailure =>
    obtain ⟨-, rfl, -⟩ := takes_eq_ok.mp h
    exact .of_same rfl rfl
  | seeSubscribed =>
    obtain ⟨⟨hpc, -⟩, rfl, -⟩ := takes_eq_ok.mp h
    refine .of_before ?_ (by simp [Past]) rfl
    rw [hpc]; decide
  | install dev => exact absurd rfl (ha dev)
  | onlineReq env =>
    obtain ⟨dev, hdev, h⟩ := onDevice_eq_ok.mp h
    obtain ⟨hpc, rfl, -⟩ := takes_eq_ok.mp h
    refine ⟨iff_of_true (by simp [Past]) (by rw [hpc]; decide), fun h => ?_,
      Or.inr ⟨dev, _, hdev, rfl, ?_⟩⟩
    · rw [hpc] at h; cases h
    · exact SameButStatus.kept ⟨_, _, shadowConnectReq_shadow ..⟩
  | startThreads loops =>
    obtain ⟨hpc, rfl, -⟩ := takes_eq_ok.mp h
    refine ⟨iff_of_true (by simp [Past]) (by rw [hpc]; decide), fun h => ?_, Or.inl rfl⟩
    rw [hpc] at h; cases h
  | device e =>
    obtain ⟨dev, dev', hdev, hstep, rfl⟩ := programStep_device h
    exact ⟨Iff.rfl, id, Or.inr ⟨dev, dev', hdev, rfl, deviceStep_kept hstep⟩⟩
  | seeFinished =>
    -- no failure is reported after the subscription has succeeded
    obtain ⟨⟨hpc, hfin⟩, -⟩ := takes_eq_ok.mp h
    have hsub : p.subscribed = true := hi.2.here hpc
    exact absurd (hfin.symm.trans (hi.1.subscribed hsub).2) (by decide)
  | uninstall =>
    obtain ⟨dev, hdev, h⟩ := onDevice_eq_ok.mp h
    obtain ⟨hpc, -⟩ := takes_eq_ok.mp h
    have hnone : p.dev = none := hi.2.here hpc
    rw [hnone] at hdev; cases hdev
  | destroy =>
    obtain ⟨hpc, -⟩ := takes_eq_ok.mp h
    exact (hi.2.here hpc : False).elim

/-! ### The invariant -/

/-- Where the LED is: `LED_Install` works on it, or it is installed, or there is none. -/
def WhereInv (s : Launch) : Prop :=
  match s.installing with
  | some i => s.program.pc = .install ∧ s.ledInitDone = i.pastInit ∧ Completes i
  | none =>
    if Past s.program.pc then
      s.ledInitDone = true ∧ ∃ dev, s.program.dev = some dev ∧ Installed dev.ledShadow
    else s.ledInitDone = false

/-- **The invariant of the start.** -/
structure StartInv (s : Launch) : Prop where
  main : MainInv s.program
  led : WhereInv s

theorem startInv_start : StartInv start := ⟨mainInv_launch, rfl⟩

/-- The program after `LED_Install` has returned. -/
theorem programStep_install {p p' : Program} {dev : Device} {out : List Output}
    (h : programStep p (.install (some dev)) = .ok (p', out)) :
    p'.pc = .onlineReq ∧ p'.dev = some dev := by
  have htakes : takes (p.pc = .install) ({ p with pc := .onlineReq, dev := some dev }, []) =
      .ok (p', out) := h
  obtain ⟨-, rfl, -⟩ := takes_eq_ok.mp htakes
  exact ⟨rfl, rfl⟩

theorem onProgram_eq_ok {s s' : Launch} {r : Except Stop (Program × List Output)}
    {out : List Output} : s.onProgram r = .ok (s', out) ↔
      ∃ program, r = .ok (program, out) ∧ s' = { s with program := program } := by
  rcases r with stop | ⟨program, o⟩
  · simp [Launch.onProgram]
  · simp only [Launch.onProgram, Except.ok.injEq, Prod.mk.injEq]
    constructor
    · rintro ⟨rfl, rfl⟩; exact ⟨program, ⟨rfl, rfl⟩, rfl⟩
    · rintro ⟨program', ⟨rfl, rfl⟩, rfl⟩; exact ⟨rfl, rfl⟩

theorem WhereInv.around {s : Launch} {p : Program} (hw : WhereInv s) (ha : Around s.program p) :
    WhereInv { s with program := p } := by
  unfold WhereInv at hw ⊢
  cases hinst : s.installing with
  | some i =>
    rw [hinst] at hw
    exact ⟨ha.install hw.1, hw.2⟩
  | none =>
    simp only [hinst] at hw ⊢
    by_cases hpast : Past s.program.pc
    · rw [if_pos hpast] at hw
      rw [if_pos (ha.past.mpr hpast)]
      obtain ⟨hdone, dev, hdev, hinstalled⟩ := hw
      refine ⟨hdone, ?_⟩
      rcases ha.dev with hsame | ⟨dev₁, dev', h1, hdev', hkept⟩
      · exact ⟨dev, hsame.trans hdev, hinstalled⟩
      · obtain rfl := Option.some.inj (h1.symm.trans hdev)
        exact ⟨dev', hdev', hkept.installed hinstalled⟩
    · rw [if_neg hpast] at hw
      rw [if_neg (mt ha.past.mp hpast)]
      exact hw

theorem StartInv.around {s : Launch} {p : Program} {a : Act} {out : List Output} (hi : StartInv s)
    (ha : ∀ dev, a ≠ .install dev) (h : programStep s.program a = .ok (p, out)) :
    StartInv { s with program := p } :=
  ⟨mainInv_step hi.main h, hi.led.around (programStep_around hi.main ha h)⟩

/-- What the invariant says while `LED_Install` is at work. -/
theorem WhereInv.at {s : Launch} {i : Installing} (hw : WhereInv s) (h : s.installing = some i) :
    s.program.pc = .install ∧ s.ledInitDone = i.pastInit ∧ Completes i := by
  unfold WhereInv at hw
  rwa [h] at hw

theorem startInv_step {s s' : Launch} {a : StartAct} {out : List Output} (hi : StartInv s)
    (h : startStep s a = .ok (s', out)) : StartInv s' := by
  cases a with
  | program a =>
    simp only [startStep] at h
    split_ifs at h with hallow
    obtain ⟨program, hstep, rfl⟩ := onProgram_eq_ok.mp h
    exact hi.around (by rintro dev rfl; exact hallow) hstep
  | accept =>
    simp only [startStep] at h
    split_ifs at h
    obtain ⟨rfl, -⟩ := Prod.mk.inj (Except.ok.inj h)
    exact ⟨hi.main, hi.led⟩
  | shadowInit env =>
    simp only [startStep] at h
    split_ifs at h with hc
    obtain ⟨hpc, hnone⟩ := hc
    cases env with
    | none => cases h
    | some env =>
      obtain ⟨rfl, -⟩ := Prod.mk.inj (Except.ok.inj h)
      have hled := hi.led
      unfold WhereInv at hled
      rw [Option.isNone_iff_eq_none.mp hnone] at hled
      simp only [hpc] at hled
      exact ⟨hi.main, hpc, hled, completes_allocated env⟩
  | ledInitWrite =>
    simp only [startStep] at h
    split at h
    · next dev write todo hinst =>
      obtain ⟨rfl, -⟩ := Prod.mk.inj (Except.ok.inj h)
      obtain ⟨hpc, hdone, hcompl⟩ := hi.led.at hinst
      exact ⟨hi.main, hpc, hdone,
        ⟨fun w hmem => hcompl.keeps w (.tail _ hmem), hcompl.installed, by rintro ⟨⟩⟩⟩
    · cases h
  | ledInitReturn =>
    simp only [startStep] at h
    split at h
    · next dev hinst =>
      obtain ⟨rfl, -⟩ := Prod.mk.inj (Except.ok.inj h)
      obtain ⟨hpc, -, hcompl⟩ := hi.led.at hinst
      exact ⟨hi.main, hpc, rfl, ⟨hcompl.keeps, hcompl.installed, fun _ => rfl⟩⟩
    · cases h
  | ledInstallReturn =>
    simp only [startStep] at h
    split at h
    · next dev hinst =>
      obtain ⟨program, hstep, rfl⟩ := onProgram_eq_ok.mp h
      obtain ⟨-, hdone, hcompl⟩ := hi.led.at hinst
      obtain ⟨hpc, hdev⟩ := programStep_install hstep
      refine ⟨mainInv_step hi.main hstep, ?_⟩
      show if Past program.pc then _ else _
      rw [if_pos (by rw [hpc]; decide)]
      exact ⟨hdone, dev, hdev, hcompl.installed⟩
    · cases h
  | deliver spi topicName payload =>
    simp only [startStep] at h
    by_cases hc : s.accepted = true ∧ topicName ∈ subscribedTopics
    case neg => rw [if_neg hc] at h; cases h
    rw [if_pos hc] at h
    split at h
    · next i hinst =>
      -- a message in the middle of `LED_Install`
      cases hstep : messageArrived spi topicName payload i.dev with
      | error f => rw [hstep] at h; cases h
      | ok r =>
        rw [hstep] at h
        obtain ⟨rfl, -⟩ := Prod.mk.inj (Except.ok.inj h)
        obtain ⟨hpc, hdone, hcompl⟩ := hi.led.at hinst
        have hkept : Kept i.dev.ledShadow r.1.ledShadow :=
          messageEffect_kept (messageArrived_effect hstep)
        have hsame : SameIdentity i.dev.ledShadow r.1.ledShadow :=
          ⟨hkept.productKey, hkept.deviceID, hkept.timestamp⟩
        exact ⟨hi.main, hpc, hdone, ⟨hcompl.keeps,
          (execWrites_sameIdentity hcompl.keeps hsame).installed hcompl.installed, hcompl.nothingLeft⟩⟩
    · next hinst =>
      split_ifs at h with hnull
      · obtain ⟨rfl, -⟩ := Prod.mk.inj (Except.ok.inj h)
        exact hi
      · obtain ⟨program, hstep, rfl⟩ := onProgram_eq_ok.mp h
        exact hi.around (by intro dev hd; cases hd) hstep

/-- **When the LED is installed**: exactly when `Led_Init` has returned. -/
theorem ready_iff {s : Launch} (hi : StartInv s) : s.Ready ↔ s.PastInit := by
  unfold Launch.Ready Launch.ledShadow Launch.PastInit
  cases hinst : s.installing with
  | some i =>
    obtain ⟨hpc, hdone, hcompl⟩ := hi.led.at hinst
    have hpast : ¬ Past s.program.pc := by rw [hpc]; decide
    rw [or_iff_right hpast, Option.any_some, hdone]
    refine ⟨fun h => h.1, fun h => ?_⟩
    have hinstalled := hcompl.installed
    rw [hcompl.nothingLeft h] at hinstalled
    exact ⟨h, hinstalled.productKey, hinstalled.deviceID⟩
  | none =>
    have hled := hi.led
    unfold WhereInv at hled
    simp only [hinst] at hled
    rw [or_iff_left (by simp)]
    by_cases hpast : Past s.program.pc
    · rw [if_pos hpast] at hled
      obtain ⟨hdone, dev, hdev, hinstalled⟩ := hled
      refine iff_of_true ?_ hpast
      simp only [hdev, Option.map_some]
      exact ⟨hdone, hinstalled.productKey, hinstalled.deviceID⟩
    · rw [if_neg hpast] at hled
      refine iff_of_false ?_ hpast
      cases s.program.dev with
      | none => exact id
      | some dev =>
        rintro ⟨hd, -⟩
        rw [hled] at hd; cases hd

/-- **When every message finds the LED installed**: in a run from the start of `main`, exactly if
no message is delivered before `Led_Init` has returned. -/
theorem dispatchesReady_iff (acts : List StartAct) :
    Meets startStep DispatchesReady start acts ↔ Meets startStep DispatchesPast start acts := by
  refine meets_congr StartInv (fun s a s' out hi h => startInv_step hi h) ?_ startInv_start
  intro s a hi
  exact imp_congr_right fun _ => ready_iff hi

/-- The subscription is accepted, and the broker delivers a message right away. -/
def earlyMessage : List StartAct :=
  [.program (.create true), .program (.setCallbacks true), .program (.connect true),
    .program (.onConnect true), .accept, .deliver spiOk TOPIC_RSP_ONLINE onlineText]

/-- **A message that finds no LED.** -/
theorem not_dispatchesReady_earlyMessage :
    ¬ Meets startStep DispatchesReady start earlyMessage := by
  decide +kernel

/-- Its handler uses the NULL pointer. -/
example : UsesShadow TOPIC_RSP_ONLINE onlineText = true := by decide +kernel

end OasisEdge.System.Startup
