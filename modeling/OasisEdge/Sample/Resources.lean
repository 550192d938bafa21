import OasisEdge.Lib.Ledgers
import OasisEdge.App.Func
import OasisEdge.Shadow.Connect
import OasisEdge.Shadow.Set
import OasisEdge.Shadow.Update

/-! # What the calls obtain and release

The seven functions that parse a message or build one, with each JSON tree and each printed string
they obtain, attach and release noted under the name of its variable. The variables of the loop over
`deviceInfo` hold a new string and a new tree in every turn. Without the notes the functions are the
ones of the other modules (`erase_connectReq` and so on).

`cjsonParse`, `cJSON_CreateObject` and `cJSON_PrintUnformatted` obtain; an object that is added to
another is released with it by `cJSON_Delete`, and a string by `free`. -/

namespace OasisEdge.Sample.Resources

open OasisEdge.Lib.Chars OasisEdge.Lib.Checking OasisEdge.Lib.Ledgers
open OasisEdge.Lib.Ledgers.Traced OasisEdge.CJson.Value OasisEdge.CJson.Parse
open OasisEdge.Shadow.State OasisEdge.Shadow.Connect OasisEdge.Shadow.Set OasisEdge.Shadow.Update
open OasisEdge.App.Func

/-- The variables that hold a tree or a string. -/
inductive Handle
  | root
  | out
  | deviceList
  | devinfoFmt (i : ℕ)
  | devinfoItem (i : ℕ)
  | state
  | stateReported
  | metadata
  | metadataReported
  | metadataReportedSwitch
deriving DecidableEq

/-- An operation of the calls. -/
abbrev CallOp := Op Handle

/-- A computation of the calls. -/
abbrev Noted := Traced Handle

/-- A tree or a string is obtained. -/
def acquire (h : Handle) : Noted Unit := note (.obtain h)

/-- A tree or a string is released. -/
def release (h : Handle) : Noted Unit := note (.release h)

/-- An object is created and added to another. -/
def createIn (h parent : Handle) : Noted Unit := do
  acquire h
  note (.attach h parent)

/-! ### The requests -/

/-- `SHADOW_Connect_Req`. -/
def connectReq (env : ReqEnv) (topic : CString) (shadow : DevShadow) :
    Noted (Ret × DevShadow × List Output) := do
  acquire .root
  createIn .deviceList .root
  acquire .out
  release .root
  match send env topic (connectReqMessage env shadow) with
  | (.error, outputs) =>
    release .out
    pure (.error, shadow, outputs)
  | (.success, outputs) =>
    release .out
    pure (.success, { shadow with flag := connectReqFlag topic shadow.flag }, outputs)

/-- `SHADOW_Set_Req`. -/
def setReq (env : ReqEnv) (shadow : DevShadow) : Noted (Ret × DevShadow × List Output) := do
  acquire .root
  createIn .state .root
  createIn .stateReported .state
  createIn .metadata .root
  createIn .metadataReported .metadata
  createIn .metadataReportedSwitch .metadataReported
  acquire .out
  release .root
  match send env TOPIC_REQ_SET_SHADOW (setReqMessage env shadow) with
  | (.error, outputs) =>
    release .out
    pure (.error, shadow, outputs)
  | (.success, outputs) =>
    release .out
    pure (.success, { shadow with flag := setReqFlag shadow.flag }, outputs)

/-- `FUNC_Call_Req` releases nothing. -/
def callReq (env : ReqEnv) (payload : ℤ × ℤ) : Noted (Ret × List Output) := do
  acquire .root
  acquire .out
  pure (send env TOPIC_REQ_CALL_FUNCTION (callReqMessage env payload))

/-! ### The handlers -/

/-- The loop over `deviceInfo`, from turn `i` on. -/
def connectTurns (i : ℕ) : List Json → DevShadow → Noted (Ret × DevShadow)
  | [], shadow => pure (.success, shadow)
  | entry :: entries, shadow => do
    acquire (.devinfoFmt i)
    acquire (.devinfoItem i)
    match ← lift (connectEntry entry shadow) with
    | none =>
      release .root
      pure (.error, shadow)
    | some shadow => connectTurns (i + 1) entries shadow

/-- `SHADOW_Connect_Rsp`. -/
def connectRsp (payload topic : CString) (shadow : DevShadow) : Noted (Ret × DevShadow) :=
  match cjsonParse payload with
  | none => pure (.error, shadow)
  | some root => do
    acquire .root
    match cjsonGetObjectItem root (.lit "deviceInfo") with
    | none =>
      release .root
      pure (.error, shadow)
    | some devinfo =>
      match ← connectTurns 0 devinfo.children shadow with
      | (.error, shadow) => pure (.error, shadow)
      | (.success, shadow) =>
        release .root
        pure (.success, { shadow with flag := connectRspFlag topic shadow.flag })

/-- `SHADOW_Set_Rsp`. -/
def setRsp (payload : CString) (shadow : DevShadow) : Noted (Ret × DevShadow) :=
  match cjsonParse payload with
  | none => pure (.error, shadow)
  | some root => do
    acquire .root
    match readAnswer root with
    | none =>
      release .root
      pure (.error, shadow)
    | some a =>
      let r ← lift (applyAnswer a shadow)
      release .root
      pure r

/-- `SHADOW_Update` releases the tree at its end alone, after the four assignments. -/
def update (payload : CString) (shadow : DevShadow) : Noted (Ret × DevShadow) :=
  match cjsonParse payload with
  | none => pure (.error, shadow)
  | some root => do
    acquire .root
    match ← lift (readUpdate root shadow) with
    | .error => pure (.error, shadow)
    | .ignored => pure (.success, shadow)
    | .accepted sw swTimestamp version =>
      release .root
      pure (.success, takeOver shadow sw swTimestamp version)

/-- `FUNC_Call_Rsp`. -/
def callRsp (payload : CString) : Noted Ret :=
  match cjsonParse payload with
  | none => pure .error
  | some root => do
    acquire .root
    match readReply root with
    | none =>
      release .root
      pure .error
    | some r =>
      if strcmp r.nameKey FUNC_NAME = 0 ∧ strcmp r.serviceKey FUNC_TYPE_PYTHON3 = 0 then
        if 200 = r.statusCode.valueint then
          release .root
          pure .success
        else
          release .root
          pure .error
      else
        release .root
        pure .error

/-! ### The functions without the notes -/

@[simp] theorem erase_acquire (h : Handle) : erase (acquire h) = .ok () := rfl

theorem erase_connectReq (env : ReqEnv) (topic : CString) (shadow : DevShadow) :
    erase (connectReq env topic shadow) = .ok (shadowConnectReq env topic shadow) := by
  unfold connectReq shadowConnectReq
  rcases send env topic (connectReqMessage env shadow) with ⟨_ | _, outputs⟩ <;> rfl

theorem erase_setReq (env : ReqEnv) (shadow : DevShadow) :
    erase (setReq env shadow) = .ok (shadowSetReq env shadow) := by
  unfold setReq shadowSetReq
  rcases send env TOPIC_REQ_SET_SHADOW (setReqMessage env shadow) with ⟨_ | _, outputs⟩ <;> rfl

theorem erase_callReq (env : ReqEnv) (payload : ℤ × ℤ) :
    erase (callReq env payload) = .ok (funcCallReq env payload) := rfl

theorem erase_connectTurns (entries : List Json) : ∀ (i : ℕ) (shadow : DevShadow),
    erase (connectTurns i entries shadow) = connectLoop entries shadow := by
  induction entries with
  | nil => intro i shadow; rfl
  | cons entry entries ih =>
    intro i shadow
    unfold connectTurns connectLoop
    simp only [erase_bind, erase_acquire, erase_lift, ok_bind]
    cases connectEntry entry shadow with
    | error f => rfl
    | ok r =>
      cases r with
      | none => rfl
      | some shadow' => exact ih (i + 1) shadow'

theorem erase_connectRsp (payload topic : CString) (shadow : DevShadow) :
    erase (connectRsp payload topic shadow) = shadowConnectRsp payload topic shadow := by
  unfold connectRsp shadowConnectRsp connectRspRoot
  cases cjsonParse payload with
  | none => rfl
  | some root =>
    simp only [erase_bind, erase_acquire, ok_bind]
    cases cjsonGetObjectItem root (.lit "deviceInfo") with
    | none => rfl
    | some devinfo =>
      simp only [erase_bind, erase_connectTurns]
      cases connectLoop devinfo.children shadow with
      | error f => rfl
      | ok r => rcases r with ⟨_ | _, shadow'⟩ <;> rfl

theorem erase_setRsp (payload : CString) (shadow : DevShadow) :
    erase (setRsp payload shadow) = shadowSetRsp payload shadow := by
  unfold setRsp shadowSetRsp setRspRoot
  cases cjsonParse payload with
  | none => rfl
  | some root =>
    simp only [erase_bind, erase_acquire, ok_bind]
    cases readAnswer root with
    | none => rfl
    | some a =>
      simp only [erase_bind, erase_lift]
      cases applyAnswer a shadow <;> rfl

theorem erase_update (payload : CString) (shadow : DevShadow) :
    erase (update payload shadow) = shadowUpdate payload shadow := by
  unfold update shadowUpdate updateRoot
  cases cjsonParse payload with
  | none => rfl
  | some root =>
    simp only [erase_bind, erase_acquire, erase_lift, ok_bind]
    cases readUpdate root shadow with
    | error f => rfl
    | ok v => cases v <;> rfl

theorem erase_callRsp (payload : CString) :
    erase (callRsp payload) = .ok (funcCallRsp payload) := by
  unfold callRsp funcCallRsp
  cases cjsonParse payload with
  | none => rfl
  | some root =>
    simp only [erase_bind, erase_acquire, ok_bind, Option.bind_some]
    cases readReply root with
    | none => rfl
    | some r =>
      dsimp only
      split_ifs <;> rfl

/-! ### Calls -/

/-- A call of one of the seven functions. -/
inductive Call
  | connectReq (env : ReqEnv) (topic : CString) (shadow : DevShadow)
  | connectRsp (payload topic : CString) (shadow : DevShadow)
  | setReq (env : ReqEnv) (shadow : DevShadow)
  | setRsp (payload : CString) (shadow : DevShadow)
  | update (payload : CString) (shadow : DevShadow)
  | callReq (env : ReqEnv) (payload : ℤ × ℤ)
  | callRsp (payload : CString)

/-- What the call obtains, attaches and releases, if it returns. -/
def Call.trace : Call → Checked (List CallOp)
  | .connectReq env topic shadow => (Resources.connectReq env topic shadow).ops
  | .connectRsp payload topic shadow => (Resources.connectRsp payload topic shadow).ops
  | .setReq env shadow => (Resources.setReq env shadow).ops
  | .setRsp payload shadow => (Resources.setRsp payload shadow).ops
  | .update payload shadow => (Resources.update payload shadow).ops
  | .callReq env payload => (Resources.callReq env payload).ops
  | .callRsp payload => (Resources.callRsp payload).ops

/-- The call returns. -/
def Call.Returns (c : Call) : Prop := Defined c.trace

/-- **The call releases what it obtains**, if it returns: each tree and each string exactly once. -/
def Call.Releases (c : Call) : Prop := ∀ os, c.trace = .ok os → Balanced os

/-- **The calls that release everything**: the requests but for the function call, the answers to
reports and to function calls, a connection response without entries, and a notification that does
not parse or is taken over. -/
def Call.Clean : Call → Prop
  | .connectReq _ _ _ | .setReq _ _ | .setRsp _ _ | .callRsp _ => True
  | .connectRsp payload _ _ => ∀ entries, connectEntries payload = some entries → entries = []
  | .update payload shadow => ∀ root, cjsonParse payload = some root →
      ∃ sw swTimestamp version, Accepts root shadow sw swTimestamp version
  | .callReq _ _ => False

/-! ### What is live in the end -/

/-- The operations are legal, and what is live after them. -/
structure Leaves (os : List CallOp) (n : ℕ) : Prop where
  proper : Proper Ledger.empty os
  held : held os = n

theorem leaves_nil : Leaves [] 0 := ⟨trivial, rfl⟩

theorem leaves_root : Leaves [.obtain .root, .release .root] 0 := ⟨by decide, by decide⟩

theorem connectReq_leaves {env : ReqEnv} {topic : CString} {shadow : DevShadow} {os : List CallOp}
    (h : (connectReq env topic shadow).ops = .ok os) : Leaves os 0 := by
  have htrace : os = [.obtain .root, .obtain .deviceList, .attach .deviceList .root, .obtain .out,
      .release .root, .release .out] := by
    unfold connectReq at h
    rcases hs : send env topic (connectReqMessage env shadow) with ⟨_ | _, outputs⟩
    · rw [hs] at h; exact (Except.ok.inj h).symm
    · rw [hs] at h; exact (Except.ok.inj h).symm
  subst htrace
  exact ⟨by decide, by decide⟩

theorem setReq_leaves {env : ReqEnv} {shadow : DevShadow} {os : List CallOp}
    (h : (setReq env shadow).ops = .ok os) : Leaves os 0 := by
  have htrace : os = [.obtain .root, .obtain .state, .attach .state .root, .obtain .stateReported,
      .attach .stateReported .state, .obtain .metadata, .attach .metadata .root,
      .obtain .metadataReported, .attach .metadataReported .metadata,
      .obtain .metadataReportedSwitch, .attach .metadataReportedSwitch .metadataReported,
      .obtain .out, .release .root, .release .out] := by
    unfold setReq at h
    rcases hs : send env TOPIC_REQ_SET_SHADOW (setReqMessage env shadow) with ⟨_ | _, outputs⟩
    · rw [hs] at h; exact (Except.ok.inj h).symm
    · rw [hs] at h; exact (Except.ok.inj h).symm
  subst htrace
  exact ⟨by decide, by decide⟩

/-- The tree and its text stay. -/
theorem callReq_leaves {env : ReqEnv} {payload : ℤ × ℤ} {os : List CallOp}
    (h : (callReq env payload).ops = .ok os) : Leaves os 2 := by
  have htrace : os = [.obtain .root, .obtain .out] := (Except.ok.inj h).symm
  subst htrace
  exact ⟨by decide, by decide⟩

theorem setRsp_leaves {payload : CString} {shadow : DevShadow} {os : List CallOp}
    (h : (setRsp payload shadow).ops = .ok os) : Leaves os 0 := by
  unfold setRsp at h
  cases hroot : cjsonParse payload with
  | none =>
    rw [hroot] at h
    obtain rfl := Except.ok.inj h
    exact leaves_nil
  | some root =>
    rw [hroot] at h
    cases ha : readAnswer root with
    | none =>
      simp only [ha] at h
      obtain rfl := Except.ok.inj h
      exact leaves_root
    | some a =>
      simp only [ha] at h
      cases happ : applyAnswer a shadow with
      | error f => rw [happ] at h; cases h
      | ok r =>
        rw [happ] at h
        obtain rfl := Except.ok.inj h
        exact leaves_root

theorem callRsp_leaves {payload : CString} {os : List CallOp}
    (h : (callRsp payload).ops = .ok os) : Leaves os 0 := by
  unfold callRsp at h
  cases hroot : cjsonParse payload with
  | none =>
    rw [hroot] at h
    obtain rfl := Except.ok.inj h
    exact leaves_nil
  | some root =>
    rw [hroot] at h
    have htrace : os = [.obtain .root, .release .root] := by
      cases hr : readReply root with
      | none => simp only [hr] at h; exact (Except.ok.inj h).symm
      | some r =>
        simp only [hr] at h
        split_ifs at h <;> exact (Except.ok.inj h).symm
    rw [htrace]
    exact leaves_root

theorem update_leaves {payload : CString} {shadow : DevShadow} {os : List CallOp}
    (h : (update payload shadow).ops = .ok os) :
    ∃ n, Leaves os n ∧ (n = 0 ↔ (Call.update payload shadow).Clean) := by
  unfold update at h
  show ∃ n, _ ∧ (n = 0 ↔ ∀ root, cjsonParse payload = some root → _)
  cases hroot : cjsonParse payload with
  | none =>
    rw [hroot] at h
    obtain rfl := Except.ok.inj h
    exact ⟨0, leaves_nil, iff_of_true rfl fun root hr => by cases hr⟩
  | some root =>
    rw [hroot] at h
    have hkept : ∀ v, readUpdate root shadow = .ok v → (∀ sw ts version, v ≠ .accepted sw ts version) →
        ¬ ∀ r, some root = some r → ∃ sw ts version, Accepts r shadow sw ts version := by
      intro v hv hne hacc
      obtain ⟨sw, ts, version, ha⟩ := hacc root rfl
      rw [readUpdate_accepted.mpr ha] at hv
      exact hne sw ts version (Except.ok.inj hv).symm
    cases hv : readUpdate root shadow with
    | error f => simp only [hv] at h; cases h
    | ok v =>
      simp only [hv] at h
      cases v with
      | error | ignored =>
        have htrace : os = [.obtain .root] := (Except.ok.inj h).symm
        subst htrace
        refine ⟨1, ⟨by decide, by decide⟩, iff_of_false (by decide) ?_⟩
        exact hkept _ hv (by intro sw ts version hno; cases hno)
      | accepted sw ts version =>
        obtain rfl := Except.ok.inj h
        refine ⟨0, leaves_root, iff_of_true rfl fun r hr => ?_⟩
        obtain rfl := Option.some.inj hr
        exact ⟨sw, ts, version, readUpdate_accepted.mp hv⟩

/-! ### The loop -/

/-- What `n` turns obtain, from turn `i` on. -/
def turnHandles : ℕ → ℕ → List Handle
  | _, 0 => []
  | i, n + 1 => .devinfoFmt i :: .devinfoItem i :: turnHandles (i + 1) n

theorem length_turnHandles (n : ℕ) : ∀ i, (turnHandles i n).length = 2 * n := by
  induction n with
  | zero => intro i; rfl
  | succ n ih =>
    intro i
    show (turnHandles (i + 1) n).length + 1 + 1 = _
    rw [ih]
    omega

theorem mem_turnHandles {h : Handle} {n : ℕ} : ∀ {i : ℕ}, h ∈ turnHandles i n →
    ∃ j, i ≤ j ∧ (h = .devinfoFmt j ∨ h = .devinfoItem j) := by
  induction n with
  | zero => intro i hmem; cases hmem
  | succ n ih =>
    intro i hmem
    simp only [turnHandles, List.mem_cons] at hmem
    rcases hmem with rfl | rfl | hmem
    · exact ⟨i, le_rfl, Or.inl rfl⟩
    · exact ⟨i, le_rfl, Or.inr rfl⟩
    · obtain ⟨j, hj, hh⟩ := ih hmem
      exact ⟨j, by omega, hh⟩

theorem nodup_turnHandles (n : ℕ) : ∀ i, (turnHandles i n).Nodup := by
  induction n with
  | zero => intro i; exact List.nodup_nil
  | succ n ih =>
    intro i
    have hlater : ∀ h ∈ turnHandles (i + 1) n, h ≠ .devinfoFmt i ∧ h ≠ .devinfoItem i := by
      intro h hmem
      obtain ⟨j, hj, rfl | rfl⟩ := mem_turnHandles hmem
      · exact ⟨by rintro ⟨⟩; omega, by rintro ⟨⟩⟩
      · exact ⟨by rintro ⟨⟩, by rintro ⟨⟩; omega⟩
    refine List.nodup_cons.mpr ⟨?_, List.nodup_cons.mpr ⟨?_, ih (i + 1)⟩⟩
    · intro hmem
      rcases List.mem_cons.mp hmem with hmem | hmem
      · cases hmem
      · exact (hlater _ hmem).1 rfl
    · intro hmem
      exact (hlater _ hmem).2 rfl

/-- **What the loop does with the ledger**: every turn obtains a string and a tree, and the tree of
the payload is released if an entry is incomplete. -/
theorem connectTurns_returns {entries : List Json} : ∀ {i : ℕ} {shadow shadow' : DevShadow} {ret : Ret}
    {os : List CallOp}, connectTurns i entries shadow = .ok ((ret, shadow'), os) →
      ∃ n, os = (turnHandles i n).map .obtain ++ (if ret = .error then [.release .root] else []) ∧
        (n = 0 ↔ entries = []) := by
  induction entries with
  | nil =>
    intro i shadow shadow' ret os h
    obtain ⟨hr, rfl⟩ := Prod.mk.inj (Except.ok.inj h)
    obtain ⟨rfl, -⟩ := Prod.mk.inj hr
    exact ⟨0, rfl, by simp⟩
  | cons entry entries ih =>
    intro i shadow shadow' ret os h
    unfold connectTurns at h
    cases hentry : connectEntry entry shadow with
    | error f => rw [hentry] at h; cases h
    | ok r =>
      rw [hentry] at h
      cases r with
      | none =>
        obtain ⟨hr, rfl⟩ := Prod.mk.inj (Except.ok.inj h)
        obtain ⟨rfl, -⟩ := Prod.mk.inj hr
        exact ⟨1, rfl, by simp⟩
      | some next =>
        obtain ⟨u₁, os₁, os₁', h₁, hrest₁, rfl⟩ := bind_returns.mp h
        obtain ⟨-, rfl⟩ := Prod.mk.inj (Except.ok.inj h₁)
        obtain ⟨u₂, os₂, os₂', h₂, hrest₂, rfl⟩ := bind_returns.mp hrest₁
        obtain ⟨-, rfl⟩ := Prod.mk.inj (Except.ok.inj h₂)
        obtain ⟨r, os₃, os₃', h₃, hrest₃, rfl⟩ := bind_returns.mp hrest₂
        obtain ⟨rfl, rfl⟩ := Prod.mk.inj (Except.ok.inj h₃)
        obtain ⟨n, rfl, -⟩ := ih hrest₃
        exact ⟨n + 1, rfl, by simp⟩

/-- What is live after a tree, the strings and trees of `n` turns, and the release of the tree. -/
theorem leaves_turns (n : ℕ) :
    Leaves (.obtain .root :: ((turnHandles 0 n).map .obtain ++ [.release .root])) (2 * n) := by
  have hroot : Handle.root ∉ turnHandles 0 n := by
    intro hmem
    obtain ⟨j, -, h | h⟩ := mem_turnHandles hmem
    · cases h
    · cases h
  obtain ⟨hp, hlive⟩ := release_obtains (nodup_turnHandles n 0) hroot
  refine ⟨hp, ?_⟩
  show (ledger _).live.length = _
  rw [hlive, List.length_reverse, length_turnHandles]

theorem connectRsp_leaves {payload topic : CString} {shadow : DevShadow} {os : List CallOp}
    (h : (connectRsp payload topic shadow).ops = .ok os) :
    ∃ n, Leaves os n ∧ (n = 0 ↔ (Call.connectRsp payload topic shadow).Clean) := by
  unfold connectRsp at h
  show ∃ n, _ ∧ (n = 0 ↔ ∀ entries, connectEntries payload = some entries → _)
  unfold connectEntries
  cases hroot : cjsonParse payload with
  | none =>
    rw [hroot] at h
    obtain rfl := Except.ok.inj h
    exact ⟨0, leaves_nil, iff_of_true rfl fun entries he => by cases he⟩
  | some root =>
    rw [hroot] at h
    cases hinfo : cjsonGetObjectItem root (.lit "deviceInfo") with
    | none =>
      simp only [hinfo] at h
      obtain rfl := Except.ok.inj h
      exact ⟨0, leaves_root, iff_of_true rfl fun entries he => by cases he⟩
    | some devinfo =>
      simp only [hinfo] at h
      obtain ⟨r, hr⟩ := ops_eq_ok.mp h
      obtain ⟨u, os₁, os₁', h₁, hrest₁, rfl⟩ := bind_returns.mp hr
      obtain ⟨-, rfl⟩ := Prod.mk.inj (Except.ok.inj h₁)
      obtain ⟨⟨ret, shadow'⟩, os₂, os₂', h₂, hrest₂, rfl⟩ := bind_returns.mp hrest₁
      obtain ⟨n, rfl, hn⟩ := connectTurns_returns h₂
      refine ⟨2 * n, ?_, ?_⟩
      · have htrace := leaves_turns n
        cases ret with
        | error =>
          obtain ⟨-, rfl⟩ := Prod.mk.inj (Except.ok.inj hrest₂)
          simpa using htrace
        | success =>
          obtain ⟨-, rfl⟩ := Prod.mk.inj (Except.ok.inj hrest₂)
          simpa using htrace
      · rw [Nat.mul_eq_zero, or_iff_right (by decide), hn]
        simp

/-- **What a call leaves live**, if it returns: nothing exactly if it is clean. -/
theorem Call.leaves {c : Call} {os : List CallOp} (h : c.trace = .ok os) :
    ∃ n, Leaves os n ∧ (n = 0 ↔ c.Clean) := by
  cases c with
  | connectReq env topic shadow => exact ⟨0, connectReq_leaves h, iff_of_true rfl trivial⟩
  | connectRsp payload topic shadow => exact connectRsp_leaves h
  | setReq env shadow => exact ⟨0, setReq_leaves h, iff_of_true rfl trivial⟩
  | setRsp payload shadow => exact ⟨0, setRsp_leaves h, iff_of_true rfl trivial⟩
  | update payload shadow => exact update_leaves h
  | callReq env payload => exact ⟨2, callReq_leaves h, iff_of_false (by decide) id⟩
  | callRsp payload => exact ⟨0, callRsp_leaves h, iff_of_true rfl trivial⟩

/-- **When a call releases what it obtains.** -/
theorem Call.releases_iff (c : Call) : c.Releases ↔ (c.Returns → c.Clean) := by
  constructor
  · rintro h ⟨os, hos⟩
    obtain ⟨n, hl, hn⟩ := Call.leaves hos
    have hheld := hl.proper.balanced_iff_held.mp (h os hos)
    exact hn.mp (hl.held.symm.trans hheld)
  · intro h os hos
    obtain ⟨n, hl, hn⟩ := Call.leaves hos
    refine hl.proper.balanced_iff_held.mpr (hl.held.trans (hn.mpr (h ⟨os, hos⟩)))

end OasisEdge.Sample.Resources
