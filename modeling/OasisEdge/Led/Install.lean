import OasisEdge.Lib.Heaps
import OasisEdge.Lib.Runs
import OasisEdge.Led.Driver

/-! # Installing the LED, block by block

`SHADOW_Init`, `SHADOW_Destroy`, `LED_Install` and `LED_Uninstall` over a heap of blocks, with the
outcome of every `malloc` given. A shadow takes six blocks: itself, its state, its flags and the
three attributes. When one of the six cannot be allocated, `SHADOW_Init` returns NULL and leaves the
blocks before it; `LED_Install` then uninstalls NULL, whose members `SHADOW_Destroy` reads.
`LED_Uninstall` leaves `ledShadow` as it was, and `LED_Install` overwrites it.

So a sequence of calls is balanced exactly if no `malloc` fails and every `LED_Uninstall` finds
exactly one LED installed (`balanced_iff`). -/

namespace OasisEdge.Led.Install

open OasisEdge.Lib.Chars OasisEdge.Lib.Heaps OasisEdge.Lib.Heaps.Heap OasisEdge.Lib.Runs
open OasisEdge.Shadow.State OasisEdge.Led.Driver

/-! ### Blocks -/

/-- `DEV_SHADOW_STATE_S`. -/
structure StateBlock where
  desired : Ptr
  reported : Ptr
  delta : Ptr

/-- `DEV_SHADOW_S`. -/
structure ShadowBlock where
  productKey : CBuf LENGTH_PRODUCTKEY
  deviceID : CBuf LENGTH_DEVICEID
  timestamp : CBuf LENGTH_TIMESTAMP
  token : CBuf LENGTH_TOKEN
  status : CBuf LENGTH_STATUS
  version : ℤ
  flag : Ptr
  state : Ptr

/-- What a block holds; `raw` is a block that was not written yet. -/
inductive Block
  | raw
  | shadow (s : ShadowBlock)
  | state (s : StateBlock)
  | flag (f : DevShadowFlag)
  | attribute (a : DevShadowAttribute)

/-- A shadow filled with zeros. -/
def zeroShadow : ShadowBlock :=
  ⟨.zero _, .zero _, .zero _, .zero _, .zero _, 0, none, none⟩

def Block.asShadow : Block → Option ShadowBlock
  | .shadow s => some s
  | _ => none

def Block.asState : Block → Option StateBlock
  | .state s => some s
  | _ => none

def Block.asFlag : Block → Option DevShadowFlag
  | .flag f => some f
  | _ => none

def Block.asAttribute : Block → Option DevShadowAttribute
  | .attribute a => some a
  | _ => none

/-- The value a pointer is used for; `view` picks the blocks that hold such a value. -/
def loadAs {α : Type} (view : Block → Option α) (h : Heap Block) (p : Ptr) : Except Misuse α := do
  match view (← h.load p) with
  | some x => .ok x
  | none => .error .wrongContent

def loadShadow (h : Heap Block) (shadow : Ptr) : Except Misuse ShadowBlock :=
  loadAs Block.asShadow h shadow

def loadState (h : Heap Block) (state : Ptr) : Except Misuse StateBlock :=
  loadAs Block.asState h state

def loadFlag (h : Heap Block) (flag : Ptr) : Except Misuse DevShadowFlag :=
  loadAs Block.asFlag h flag

def loadAttribute (h : Heap Block) (attr : Ptr) : Except Misuse DevShadowAttribute :=
  loadAs Block.asAttribute h attr

/-- An assignment to a member of `*shadow`. -/
def setShadow (f : ShadowBlock → ShadowBlock) (shadow : Ptr) (h : Heap Block) :
    Except Misuse (Heap Block) := do
  let s ← loadShadow h shadow
  h.store shadow (.shadow (f s))

/-- An assignment to a member of `*state`. -/
def setState (f : StateBlock → StateBlock) (state : Ptr) (h : Heap Block) :
    Except Misuse (Heap Block) := do
  let s ← loadState h state
  h.store state (.state (f s))

/-- An assignment to a member of `*shadow->flag`. -/
def setFlag (f : DevShadowFlag → DevShadowFlag) (shadow : Ptr) (h : Heap Block) :
    Except Misuse (Heap Block) := do
  let s ← loadShadow h shadow
  let flag ← loadFlag h s.flag
  h.store s.flag (.flag (f flag))

/-- An assignment to a member of `*shadow->state->reported`. -/
def setReported (f : DevShadowAttribute → DevShadowAttribute) (shadow : Ptr) (h : Heap Block) :
    Except Misuse (Heap Block) := do
  let s ← loadShadow h shadow
  let state ← loadState h s.state
  let reported ← loadAttribute h state.reported
  h.store state.reported (.attribute (f reported))

/-! ### `SHADOW_Init` and `SHADOW_Destroy` -/

/-- An allocation whose pointer is assigned, checked for NULL, and filled with `w`. -/
def allocInto (assign : Ptr → Heap Block → Except Misuse (Heap Block)) (w : Block)
    (h : Heap Block) : Except Misuse (Ret × Heap Block) := do
  let (p, h) := h.malloc .raw
  let h ← assign p h
  if p.isNone then .ok (.error, h)
  else
    let h ← h.store p w
    .ok (.success, h)

/-- An attribute filled with zeros. -/
def zeroAttribute : Block := .attribute Shadow.State.shadowAttributeInit

def shadowAttributeInit (state : Ptr) (h : Heap Block) : Except Misuse (Ret × Heap Block) := do
  match ← allocInto (fun p => setState (fun s => { s with reported := p }) state) zeroAttribute h with
  | (.error, h) => .ok (.error, h)
  | (.success, h) =>
    match ← allocInto (fun p => setState (fun s => { s with desired := p }) state) zeroAttribute h with
    | (.error, h) => .ok (.error, h)
    | (.success, h) =>
      allocInto (fun p => setState (fun s => { s with delta := p }) state) zeroAttribute h

def shadowInit (h : Heap Block) : Except Misuse (Ptr × Heap Block) := do
  let (shadow, h) := h.malloc .raw
  if shadow.isNone then .ok (none, h)
  else
    let h ← h.store shadow (.shadow zeroShadow)
    match ← allocInto (fun p => setShadow (fun s => { s with state := p }) shadow)
      (.state ⟨none, none, none⟩) h with
    | (.error, h) => .ok (none, h)
    | (.success, h) =>
      match ← allocInto (fun p => setShadow (fun s => { s with flag := p }) shadow)
        (.flag Shadow.State.shadowInit.flag) h with
      | (.error, h) => .ok (none, h)
      | (.success, h) =>
        let s ← loadShadow h shadow
        match ← shadowAttributeInit s.state h with
        | (.error, h) => .ok (none, h)
        | (.success, h) => .ok (shadow, h)

/-- One of the three attributes `SHADOW_Destroy` frees. -/
def attributeDestroy (get : StateBlock → Ptr) (set : Ptr → StateBlock → StateBlock) (shadow : Ptr)
    (h : Heap Block) : Except Misuse (Heap Block) := do
  let s ← loadShadow h shadow
  let state ← loadState h s.state
  if (get state).isSome then
    let h ← h.free (get state)
    setState (set none) s.state h
  else .ok h

/-- The state or the flags, which `SHADOW_Destroy` frees next. -/
def memberDestroy (get : ShadowBlock → Ptr) (set : Ptr → ShadowBlock → ShadowBlock) (shadow : Ptr)
    (h : Heap Block) : Except Misuse (Heap Block) := do
  let s ← loadShadow h shadow
  if (get s).isSome then
    let h ← h.free (get s)
    setShadow (set none) shadow h
  else .ok h

def shadowDestroy (shadow : Ptr) (h : Heap Block) : Except Misuse (Heap Block) := do
  let h ← attributeDestroy (·.reported) (fun p s => { s with reported := p }) shadow h
  let h ← attributeDestroy (·.desired) (fun p s => { s with desired := p }) shadow h
  let h ← attributeDestroy (·.delta) (fun p s => { s with delta := p }) shadow h
  let h ← memberDestroy (·.state) (fun p s => { s with state := p }) shadow h
  let h ← memberDestroy (·.flag) (fun p s => { s with flag := p }) shadow h
  if shadow.isSome then h.free shadow else .ok h

/-! ### `LED_Install` and `LED_Uninstall` -/

/-- What `Led_Init` finds: the content of the local variable that is never set, and what the tools
return. -/
structure LedInitEnv where
  ledState : UInt8
  uuid : CBuf LENGTH_TOKEN
  unixTime : UInt64

/-- `Led_Init`. -/
def ledInitAt (env : LedInitEnv) (ledShadow : Ptr) (h : Heap Block) :
    Except Misuse (Ret × Heap Block) := do
  let h ← setShadow (fun s => { s with version := 0 }) ledShadow h
  let h ← setFlag (fun f => { f with online := .rsp }) ledShadow h
  let h ← setFlag (fun f => { f with offline := .rsp }) ledShadow h
  let h ← setFlag (fun f => { f with keepalive := .rsp }) ledShadow h
  let h ← setFlag (fun f => { f with setShadow := .rsp }) ledShadow h
  let state := stateName env.ledState
  let h ← setShadow (fun s => { s with productKey := snprintf LENGTH_PRODUCTKEY PRODUCTKEY })
    ledShadow h
  let h ← setShadow (fun s => { s with deviceID := snprintf LENGTH_DEVICEID DEVICEID }) ledShadow h
  let h ← setReported (fun a => { a with sw := snprintf LENGTH_SWITCH state }) ledShadow h
  let h ← setShadow (fun s => { s with token := snprintf LENGTH_TOKEN env.uuid.str }) ledShadow h
  let h ← setReported (fun a => { a with swTimestamp := env.unixTime }) ledShadow h
  .ok (.success, h)

/-- The heap and the global pointer. -/
structure Memory where
  heap : Heap Block
  ledShadow : Ptr

def ledUninstall (m : Memory) : Except Misuse Memory := do
  let h ← shadowDestroy m.ledShadow m.heap
  .ok { m with heap := h }

def ledInstall (env : LedInitEnv) (m : Memory) : Except Misuse (Ret × Memory) := do
  let (ledShadow, h) ← shadowInit m.heap
  let m : Memory := ⟨h, ledShadow⟩
  if ledShadow.isNone then
    let m ← ledUninstall m
    .ok (.error, m)
  else
    match ← ledInitAt env ledShadow h with
    | (.error, h) =>
      let m ← ledUninstall { m with heap := h }
      .ok (.error, m)
    | (.success, h) => .ok (.success, { m with heap := h })

/-- A call. -/
inductive Call
  | install (env : LedInitEnv)
  | uninstall

/-- A call, and what it returns; `LED_Uninstall` returns nothing. -/
def callStep (m : Memory) : Call → Except Misuse (Memory × List Ret)
  | .install env => do
    let (ret, m) ← ledInstall env m
    .ok (m, [ret])
  | .uninstall => do
    let m ← ledUninstall m
    .ok (m, [])

/-- The memory when the program starts. -/
def start (outcomes : ℕ → Bool) : Memory := ⟨.empty outcomes .raw, none⟩

/-! ### Allocations that succeed -/

section
variable {h : Heap Block} {a : ℕ}

theorem loadAs_eq {α : Type} {view : Block → Option α} {v : Block} {x : α} (ha : h.Holds a v)
    (hv : view v = some x) : loadAs view h (some a) = .ok x := by
  unfold loadAs
  rw [ha.load, ok_bind, hv]

theorem loadShadow_eq {s : ShadowBlock} (ha : h.Holds a (.shadow s)) :
    loadShadow h (some a) = .ok s := loadAs_eq ha rfl

theorem loadState_eq {s : StateBlock} (ha : h.Holds a (.state s)) :
    loadState h (some a) = .ok s := loadAs_eq ha rfl

theorem setShadow_eq {f : ShadowBlock → ShadowBlock} {s : ShadowBlock}
    (ha : h.Holds a (.shadow s)) : setShadow f (some a) h = .ok (h.put a (.shadow (f s))) := by
  unfold setShadow
  rw [loadShadow_eq ha]
  exact ha.store

theorem setState_eq {f : StateBlock → StateBlock} {s : StateBlock} (ha : h.Holds a (.state s)) :
    setState f (some a) h = .ok (h.put a (.state (f s))) := by
  unfold setState
  rw [loadState_eq ha]
  exact ha.store

/-- **The blocks after an allocation**: the new one, the one that points to it, and the others as
they were. -/
structure Linked (h : Heap Block) (a : ℕ) (v w : Block) (h' : Heap Block) : Prop where
  grown : Grown 1 h h'
  parent : h'.Holds a v
  child : h'.Holds h.mallocs w
  others : ∀ b x, b ≠ a → h.Holds b x → h'.Holds b x

theorem allocInto_eq {assign : Ptr → Heap Block → Except Misuse (Heap Block)} {u v w : Block}
    (ha : h.Holds a u) (hb : h.Bounded) (hout : h.outcomes h.mallocs = true)
    (hassign : assign (some h.mallocs) (h.grow .raw) = .ok ((h.grow .raw).put a v)) :
    ∃ h', allocInto assign w h = .ok (.success, h') ∧ Linked h a v w h' := by
  have hne : h.mallocs ≠ a := (ha.lt hb).ne'
  have hself : (h.grow .raw).Holds h.mallocs .raw := holds_grow_self
  have hg : Grown 1 h (h.grow .raw) := grown_grow hb
  refine ⟨((h.grow .raw).put a v).put h.mallocs w, ?_,
    ⟨hg.put.put, ?_, ?_, fun b x hba hx => ?_⟩⟩
  · unfold allocInto
    rw [malloc_eq hout]
    simp only [hassign]
    show (Heap.store _ _ _ >>= _) = _
    rw [(hself.put hne).store]
    rfl
  · exact (ha.grow hb).put_self.put hne.symm
  · exact (hself.put hne).put_self
  · exact ((hx.grow hb).put hba).put (hx.lt hb).ne

theorem allocState_eq (set : Ptr → StateBlock → StateBlock) (w : Block) {s : StateBlock}
    (ha : h.Holds a (.state s)) (hb : h.Bounded) (hout : h.outcomes h.mallocs = true) :
    ∃ h', allocInto (fun p => setState (set p) (some a)) w h = .ok (.success, h') ∧
      Linked h a (.state (set (some h.mallocs) s)) w h' :=
  allocInto_eq ha hb hout (setState_eq (ha.grow hb))

theorem allocShadow_eq (set : Ptr → ShadowBlock → ShadowBlock) (w : Block) {s : ShadowBlock}
    (ha : h.Holds a (.shadow s)) (hb : h.Bounded) (hout : h.outcomes h.mallocs = true) :
    ∃ h', allocInto (fun p => setShadow (set p) (some a)) w h = .ok (.success, h') ∧
      Linked h a (.shadow (set (some h.mallocs) s)) w h' :=
  allocInto_eq ha hb hout (setShadow_eq (ha.grow hb))

theorem allocInto_fails {assign : Ptr → Heap Block → Except Misuse (Heap Block)} {w : Block}
    {h' : Heap Block} (hout : h.outcomes h.mallocs = false)
    (hassign : assign none h.skip = .ok h') : allocInto assign w h = .ok (.error, h') := by
  unfold allocInto
  rw [malloc_fails hout]
  simp only [hassign]
  rfl

/-- **`Shadow_Attribute_Init`**, when no allocation fails. -/
theorem shadowAttributeInit_eq (ha : h.Holds a (.state ⟨none, none, none⟩)) (hb : h.Bounded)
    (hout : ∀ i < 3, h.outcomes (h.mallocs + i) = true) :
    ∃ h', shadowAttributeInit (some a) h = .ok (.success, h') ∧ Grown 3 h h' ∧
      h'.Holds a (.state ⟨some (h.mallocs + 1), some h.mallocs, some (h.mallocs + 2)⟩) ∧
      (∀ i < 3, h'.Holds (h.mallocs + i) zeroAttribute) ∧
      ∀ b x, b ≠ a → h.Holds b x → h'.Holds b x := by
  have hlt := ha.lt hb
  obtain ⟨h₁, e₁, l₁⟩ := allocState_eq (fun p s => { s with reported := p }) zeroAttribute ha hb
    (hout 0 (by omega))
  have hout₁ : h₁.outcomes h₁.mallocs = true :=
    (l₁.grown.outcomes_add 0).trans (hout 1 (by omega))
  obtain ⟨h₂, e₂, l₂⟩ := allocState_eq (fun p s => { s with desired := p }) zeroAttribute
    l₁.parent l₁.grown.bounded hout₁
  have g₂ : Grown 2 h h₂ := l₁.grown.trans l₂.grown
  have hout₂ : h₂.outcomes h₂.mallocs = true := (g₂.outcomes_add 0).trans (hout 2 (by omega))
  obtain ⟨h₃, e₃, l₃⟩ := allocState_eq (fun p s => { s with delta := p }) zeroAttribute
    l₂.parent l₂.grown.bounded hout₂
  refine ⟨h₃, ?_, g₂.trans l₃.grown, ?_, ?_, ?_⟩
  · unfold shadowAttributeInit
    rw [e₁]
    show (allocInto _ _ _ >>= _) = _
    rw [e₂]
    exact e₃
  · have hp := l₃.parent
    rw [g₂.mallocs, l₁.grown.mallocs] at hp
    exact hp
  · have c₁ : h₃.Holds h.mallocs zeroAttribute :=
      l₃.others _ _ (by omega) (l₂.others _ _ (by omega) l₁.child)
    have c₂ : h₃.Holds (h.mallocs + 1) zeroAttribute :=
      l₃.others _ _ (by omega) (by rw [← l₁.grown.mallocs]; exact l₂.child)
    have c₃ : h₃.Holds (h.mallocs + 2) zeroAttribute := by rw [← g₂.mallocs]; exact l₃.child
    intro i hi
    match i, hi with
    | 0, _ => exact c₁
    | 1, _ => exact c₂
    | 2, _ => exact c₃
  · intro b x hba hx
    exact l₃.others b x hba (l₂.others b x hba (l₁.others b x hba hx))

/-- The members of the shadow at `a`, its state and its flags being the next two blocks. -/
def shadowBlock (a : ℕ) (shadow : DevShadow) : ShadowBlock :=
  ⟨shadow.productKey, shadow.deviceID, shadow.timestamp, shadow.token, shadow.status,
    shadow.version, some (a + 2), some (a + 1)⟩

/-- **The shadow lies in the six live blocks** from `a` on. -/
structure Laid (h : Heap Block) (a : ℕ) (sh : DevShadow) : Prop where
  shadow : h.Holds a (.shadow (shadowBlock a sh))
  state : h.Holds (a + 1) (.state ⟨some (a + 4), some (a + 3), some (a + 5)⟩)
  flag : h.Holds (a + 2) (.flag sh.flag)
  reported : h.Holds (a + 3) (.attribute sh.state.reported)
  desired : h.Holds (a + 4) (.attribute sh.state.desired)
  delta : h.Holds (a + 5) (.attribute sh.state.delta)

/-- The first block of `SHADOW_Init`, once it is allocated. -/
theorem storeZero_eq (hb : h.Bounded) :
    ∃ h₁, (h.grow .raw).store (some h.mallocs) (.shadow zeroShadow) = .ok h₁ ∧ Grown 1 h h₁ ∧
      h₁.Holds h.mallocs (.shadow zeroShadow) := by
  have hself : (h.grow .raw).Holds h.mallocs .raw := holds_grow_self
  have hg : Grown 1 h (h.grow .raw) := grown_grow hb
  exact ⟨_, hself.store, hg.put, hself.put_self⟩

/-- **`SHADOW_Init`**, when no allocation fails. -/
theorem shadowInit_eq (hb : h.Bounded) (hout : ∀ i < 6, h.outcomes (h.mallocs + i) = true) :
    ∃ h', shadowInit h = .ok (some h.mallocs, h') ∧ Grown 6 h h' ∧
      Laid h' h.mallocs Shadow.State.shadowInit := by
  -- the shadow
  obtain ⟨h₁, e₁, g₁, p₁⟩ := storeZero_eq hb
  -- its state and its flags
  have hout₁ : h₁.outcomes h₁.mallocs = true := (g₁.outcomes_add 0).trans (hout 1 (by omega))
  obtain ⟨h₂, e₂, l₂⟩ := allocShadow_eq (fun p s => { s with state := p })
    (.state ⟨none, none, none⟩) p₁ g₁.bounded hout₁
  have g₂ : Grown 2 h h₂ := g₁.trans l₂.grown
  have hout₂ : h₂.outcomes h₂.mallocs = true := (g₂.outcomes_add 0).trans (hout 2 (by omega))
  obtain ⟨h₃, e₃, l₃⟩ := allocShadow_eq (fun p s => { s with flag := p })
    (.flag Shadow.State.shadowInit.flag) l₂.parent g₂.bounded hout₂
  have g₃ : Grown 3 h h₃ := g₂.trans l₃.grown
  have c₂ : h₃.Holds h₁.mallocs (.state ⟨none, none, none⟩) :=
    l₃.others _ _ (p₁.lt g₁.bounded).ne' l₂.child
  -- its attributes
  have hout₃ : ∀ i < 3, h₃.outcomes (h₃.mallocs + i) = true := by
    intro i hi
    exact (g₃.outcomes_add i).trans (hout (3 + i) (by omega))
  obtain ⟨h₄, e₄, g₄, p₄, c₄, o₄⟩ := shadowAttributeInit_eq c₂ g₃.bounded hout₃
  have hm₁ : h₁.mallocs = h.mallocs + 1 := g₁.mallocs
  have hm₂ : h₂.mallocs = h.mallocs + 2 := g₂.mallocs
  have hm₃ : h₃.mallocs = h.mallocs + 3 := g₃.mallocs
  refine ⟨h₄, ?_, g₃.trans g₄, ?_⟩
  · have hload := loadShadow_eq l₃.parent
    unfold shadowInit
    rw [malloc_eq (hout 0 (by omega))]
    show (Heap.store _ _ _ >>= _) = _
    rw [e₁]
    show (allocInto _ _ _ >>= _) = _
    rw [e₂]
    show (allocInto _ _ _ >>= _) = _
    rw [e₃]
    show (loadShadow _ _ >>= _) = _
    rw [hload]
    show (shadowAttributeInit (some h₁.mallocs) _ >>= _) = _
    rw [e₄]
    rfl
  · rw [hm₃] at p₄ c₄
    rw [hm₁] at p₄ o₄
    have hp := o₄ _ _ (by omega) l₃.parent
    have hf := o₄ _ _ (by omega) l₃.child
    rw [hm₂] at hp hf
    rw [hm₁] at hp
    exact ⟨hp, p₄, hf, c₄ 0 (by omega), c₄ 1 (by omega), c₄ 2 (by omega)⟩

/-! ### Allocations that fail -/

theorem allocState_fails (set : Ptr → StateBlock → StateBlock) (w : Block) {s : StateBlock}
    (ha : h.Holds a (.state s)) (hout : h.outcomes h.mallocs = false) :
    ∃ h', allocInto (fun p => setState (set p) (some a)) w h = .ok (.error, h') := by
  have hskip : h.skip.Holds a (.state s) := ha
  exact ⟨_, allocInto_fails hout (setState_eq hskip)⟩

theorem allocShadow_fails (set : Ptr → ShadowBlock → ShadowBlock) (w : Block) {s : ShadowBlock}
    (ha : h.Holds a (.shadow s)) (hout : h.outcomes h.mallocs = false) :
    ∃ h', allocInto (fun p => setShadow (set p) (some a)) w h = .ok (.error, h') := by
  have hskip : h.skip.Holds a (.shadow s) := ha
  exact ⟨_, allocInto_fails hout (setShadow_eq hskip)⟩

/-- **`Shadow_Attribute_Init`**, when an allocation fails. -/
theorem shadowAttributeInit_fails (ha : h.Holds a (.state ⟨none, none, none⟩)) (hb : h.Bounded)
    (hout : ¬ ∀ i < 3, h.outcomes (h.mallocs + i) = true) :
    ∃ h', shadowAttributeInit (some a) h = .ok (.error, h') := by
  unfold shadowAttributeInit
  by_cases o₁ : h.outcomes h.mallocs = true
  case neg =>
    obtain ⟨h₁, e₁⟩ := allocState_fails (fun p s => { s with reported := p }) zeroAttribute ha
      (Bool.eq_false_iff.mpr o₁)
    exact ⟨h₁, by rw [e₁]; rfl⟩
  obtain ⟨h₁, e₁, l₁⟩ := allocState_eq (fun p s => { s with reported := p }) zeroAttribute ha hb o₁
  by_cases o₂ : h₁.outcomes h₁.mallocs = true
  case neg =>
    obtain ⟨h₂, e₂⟩ := allocState_fails (fun p s => { s with desired := p }) zeroAttribute
      l₁.parent (Bool.eq_false_iff.mpr o₂)
    refine ⟨h₂, ?_⟩
    rw [e₁]
    show (allocInto _ _ _ >>= _) = _
    rw [e₂]
    rfl
  obtain ⟨h₂, e₂, l₂⟩ := allocState_eq (fun p s => { s with desired := p }) zeroAttribute
    l₁.parent l₁.grown.bounded o₂
  have g₂ : Grown 2 h h₂ := l₁.grown.trans l₂.grown
  -- only the last can have failed
  have o₃ : ¬ h₂.outcomes h₂.mallocs = true := by
    intro o₃
    refine hout fun i hi => ?_
    match i, hi with
    | 0, _ => exact o₁
    | 1, _ => exact (l₁.grown.outcomes_add 0).symm.trans o₂
    | 2, _ => exact (g₂.outcomes_add 0).symm.trans o₃
  obtain ⟨h₃, e₃⟩ := allocState_fails (fun p s => { s with delta := p }) zeroAttribute l₂.parent
    (Bool.eq_false_iff.mpr o₃)
  refine ⟨h₃, ?_⟩
  rw [e₁]
  show (allocInto _ _ _ >>= _) = _
  rw [e₂]
  exact e₃

/-- **`SHADOW_Init`**, when an allocation fails: it returns NULL. -/
theorem shadowInit_fails (hb : h.Bounded) (hout : ¬ ∀ i < 6, h.outcomes (h.mallocs + i) = true) :
    ∃ h', shadowInit h = .ok (none, h') := by
  unfold shadowInit
  by_cases o₀ : h.outcomes h.mallocs = true
  case neg => exact ⟨h.skip, by rw [malloc_fails (Bool.eq_false_iff.mpr o₀)]; rfl⟩
  obtain ⟨h₁, e₁, g₁, p₁⟩ := storeZero_eq hb
  rw [malloc_eq o₀]
  show ∃ h', (Heap.store _ _ _ >>= _) = _
  rw [e₁]
  show ∃ h', (allocInto _ _ _ >>= _) = _
  by_cases o₁ : h₁.outcomes h₁.mallocs = true
  case neg =>
    obtain ⟨h₂, e₂⟩ := allocShadow_fails (fun p s => { s with state := p })
      (.state ⟨none, none, none⟩) p₁ (Bool.eq_false_iff.mpr o₁)
    exact ⟨h₂, by rw [e₂]; rfl⟩
  obtain ⟨h₂, e₂, l₂⟩ := allocShadow_eq (fun p s => { s with state := p })
    (.state ⟨none, none, none⟩) p₁ g₁.bounded o₁
  have g₂ : Grown 2 h h₂ := g₁.trans l₂.grown
  rw [e₂]
  show ∃ h', (allocInto _ _ _ >>= _) = _
  by_cases o₂ : h₂.outcomes h₂.mallocs = true
  case neg =>
    obtain ⟨h₃, e₃⟩ := allocShadow_fails (fun p s => { s with flag := p })
      (.flag Shadow.State.shadowInit.flag) l₂.parent (Bool.eq_false_iff.mpr o₂)
    exact ⟨h₃, by rw [e₃]; rfl⟩
  obtain ⟨h₃, e₃, l₃⟩ := allocShadow_eq (fun p s => { s with flag := p })
    (.flag Shadow.State.shadowInit.flag) l₂.parent g₂.bounded o₂
  have g₃ : Grown 3 h h₃ := g₂.trans l₃.grown
  have c₂ : h₃.Holds h₁.mallocs (.state ⟨none, none, none⟩) :=
    l₃.others _ _ (p₁.lt g₁.bounded).ne' l₂.child
  -- only an attribute can have failed
  have o₃ : ¬ ∀ i < 3, h₃.outcomes (h₃.mallocs + i) = true := by
    intro o₃
    refine hout fun i hi => ?_
    match i, hi with
    | 0, _ => exact o₀
    | 1, _ => exact (g₁.outcomes_add 0).symm.trans o₁
    | 2, _ => exact (g₂.outcomes_add 0).symm.trans o₂
    | 3, _ => exact (g₃.outcomes_add 0).symm.trans (o₃ 0 (by omega))
    | 4, _ => exact (g₃.outcomes_add 1).symm.trans (o₃ 1 (by omega))
    | 5, _ => exact (g₃.outcomes_add 2).symm.trans (o₃ 2 (by omega))
  obtain ⟨h₄, e₄⟩ := shadowAttributeInit_fails c₂ g₃.bounded o₃
  have hload := loadShadow_eq l₃.parent
  refine ⟨h₄, ?_⟩
  rw [e₃]
  show (loadShadow _ _ >>= _) = _
  rw [hload]
  show (shadowAttributeInit (some h₁.mallocs) _ >>= _) = _
  rw [e₄]
  rfl

theorem shadowDestroy_error {h : Heap Block} (shadow : Ptr) (hp : ∀ a, shadow = some a → a ∉ h.live) :
    ∃ e, shadowDestroy shadow h = .error e := by
  obtain ⟨e, he⟩ := load_error hp
  have hload : loadShadow h shadow = .error e := by
    unfold loadShadow loadAs
    rw [he]
    rfl
  refine ⟨e, ?_⟩
  unfold shadowDestroy attributeDestroy
  rw [hload]
  rfl

/-! ### `Led_Init` -/

section
variable {sh : DevShadow}

theorem Laid.setShadow (hl : Laid h a sh) (hb : h.Bounded) (f : ShadowBlock → ShadowBlock)
    (g : DevShadow → DevShadow) (hf : f (shadowBlock a sh) = shadowBlock a (g sh))
    (hflag : (g sh).flag = sh.flag) (hstate : (g sh).state = sh.state) :
    ∃ h', setShadow f (some a) h = .ok h' ∧ Laid h' a (g sh) ∧ Grown 0 h h' := by
  refine ⟨_, setShadow_eq hl.shadow, ?_, grown_put hb⟩
  rw [hf]
  refine ⟨hl.shadow.put_self, hl.state.put (by omega), ?_, ?_, ?_, ?_⟩
  · rw [hflag]; exact hl.flag.put (by omega)
  · rw [hstate]; exact hl.reported.put (by omega)
  · rw [hstate]; exact hl.desired.put (by omega)
  · rw [hstate]; exact hl.delta.put (by omega)

theorem Laid.setFlag (hl : Laid h a sh) (hb : h.Bounded) (f : DevShadowFlag → DevShadowFlag) :
    ∃ h', setFlag f (some a) h = .ok h' ∧ Laid h' a { sh with flag := f sh.flag } ∧
      Grown 0 h h' := by
  refine ⟨h.put (a + 2) (.flag (f sh.flag)), ?_, ⟨hl.shadow.put (by omega), hl.state.put (by omega),
    hl.flag.put_self, hl.reported.put (by omega), hl.desired.put (by omega),
    hl.delta.put (by omega)⟩, grown_put hb⟩
  have hflag : loadFlag h (some (a + 2)) = .ok sh.flag := loadAs_eq hl.flag rfl
  unfold Install.setFlag
  rw [loadShadow_eq hl.shadow]
  show (loadFlag h (some (a + 2)) >>= _) = _
  rw [hflag]
  exact hl.flag.store

theorem Laid.setReported (hl : Laid h a sh) (hb : h.Bounded)
    (f : DevShadowAttribute → DevShadowAttribute) :
    ∃ h', setReported f (some a) h = .ok h' ∧
      Laid h' a { sh with state := { sh.state with reported := f sh.state.reported } } ∧
      Grown 0 h h' := by
  refine ⟨h.put (a + 3) (.attribute (f sh.state.reported)), ?_, ⟨hl.shadow.put (by omega),
    hl.state.put (by omega), hl.flag.put (by omega), hl.reported.put_self,
    hl.desired.put (by omega), hl.delta.put (by omega)⟩, grown_put hb⟩
  have hreported : loadAttribute h (some (a + 3)) = .ok sh.state.reported :=
    loadAs_eq hl.reported rfl
  unfold Install.setReported
  rw [loadShadow_eq hl.shadow]
  show (loadState h (some (a + 1)) >>= _) = _
  rw [loadState_eq hl.state]
  show (loadAttribute h (some (a + 3)) >>= _) = _
  rw [hreported]
  exact hl.reported.store

end

/-- **`Led_Init`** makes of a zeroed shadow the one of an installed LED. -/
theorem ledInitAt_eq (env : LedInitEnv) (hl : Laid h a Shadow.State.shadowInit) (hb : h.Bounded) :
    ∃ h', ledInitAt env (some a) h = .ok (.success, h') ∧
      Laid h' a (ledInit env.ledState env.uuid env.unixTime) ∧ Grown 0 h h' := by
  obtain ⟨h₁, e₁, l₁, g₁⟩ := hl.setShadow hb (fun s => { s with version := 0 })
    (fun s => { s with version := 0 }) rfl rfl rfl
  obtain ⟨h₂, e₂, l₂, g₂⟩ := l₁.setFlag g₁.bounded fun f => { f with online := .rsp }
  obtain ⟨h₃, e₃, l₃, g₃⟩ := l₂.setFlag g₂.bounded fun f => { f with offline := .rsp }
  obtain ⟨h₄, e₄, l₄, g₄⟩ := l₃.setFlag g₃.bounded fun f => { f with keepalive := .rsp }
  obtain ⟨h₅, e₅, l₅, g₅⟩ := l₄.setFlag g₄.bounded fun f => { f with setShadow := .rsp }
  obtain ⟨h₆, e₆, l₆, g₆⟩ := l₅.setShadow g₅.bounded
    (fun s => { s with productKey := snprintf LENGTH_PRODUCTKEY PRODUCTKEY })
    (fun s => { s with productKey := snprintf LENGTH_PRODUCTKEY PRODUCTKEY }) rfl rfl rfl
  obtain ⟨h₇, e₇, l₇, g₇⟩ := l₆.setShadow g₆.bounded
    (fun s => { s with deviceID := snprintf LENGTH_DEVICEID DEVICEID })
    (fun s => { s with deviceID := snprintf LENGTH_DEVICEID DEVICEID }) rfl rfl rfl
  obtain ⟨h₈, e₈, l₈, g₈⟩ := l₇.setReported g₇.bounded
    fun r => { r with sw := snprintf LENGTH_SWITCH (stateName env.ledState) }
  obtain ⟨h₉, e₉, l₉, g₉⟩ := l₈.setShadow g₈.bounded
    (fun s => { s with token := snprintf LENGTH_TOKEN env.uuid.str })
    (fun s => { s with token := snprintf LENGTH_TOKEN env.uuid.str }) rfl rfl rfl
  obtain ⟨h', e', l', g'⟩ := l₉.setReported g₉.bounded fun r => { r with swTimestamp := env.unixTime }
  have g : Grown 0 h h' :=
    g₁.trans (g₂.trans (g₃.trans (g₄.trans (g₅.trans (g₆.trans (g₇.trans (g₈.trans
      (g₉.trans g'))))))))
  refine ⟨h', ?_, l', g⟩
  unfold ledInitAt
  simp only [e₁, e₂, e₃, e₄, e₅, e₆, e₇, e₈, e₉, e', ok_bind]

/-! ### `SHADOW_Destroy` -/

/-- **The blocks after one was freed**: `c` is gone, `b` holds NULL for it, and the others are as
they were. -/
structure Freed (h : Heap Block) (c b : ℕ) (v : Block) (h' : Heap Block) : Prop where
  shrunk : Shrunk 1 h h'
  parent : h'.Holds b v
  others : ∀ d x, d ≠ c → d ≠ b → h.Holds d x → h'.Holds d x

theorem freed_drop_put {b c : ℕ} {u v x : Block} (hb : h.Bounded) (hc : h.Holds c x)
    (hp : h.Holds b u) (hne : b ≠ c) : Freed h c b v ((h.drop c).put b v) := by
  have hs : Shrunk 1 h (h.drop c) := hc.shrunk_drop hb
  exact ⟨hs.put, (hp.drop hne).put_self,
    fun d y hdc hdb hd => (hd.drop hdc).put hdb⟩

theorem attributeDestroy_eq (get : StateBlock → Ptr) (set : Ptr → StateBlock → StateBlock)
    {s : ShadowBlock} {st : StateBlock} {b c : ℕ} {x : Block} (hb : h.Bounded)
    (ha : h.Holds a (.shadow s)) (hs : s.state = some b) (hst : h.Holds b (.state st))
    (hget : get st = some c) (hc : h.Holds c x) (hne : b ≠ c) :
    ∃ h', attributeDestroy get set (some a) h = .ok h' ∧
      Freed h c b (.state (set none st)) h' := by
  refine ⟨_, ?_, freed_drop_put hb hc hst hne⟩
  unfold attributeDestroy
  simp only [loadShadow_eq ha, hs, loadState_eq hst, hget, Option.isSome_some, if_true, hc.free,
    ok_bind]
  exact setState_eq (hst.drop hne)

theorem memberDestroy_eq (get : ShadowBlock → Ptr) (set : Ptr → ShadowBlock → ShadowBlock)
    {s : ShadowBlock} {c : ℕ} {x : Block} (hb : h.Bounded) (ha : h.Holds a (.shadow s))
    (hget : get s = some c) (hc : h.Holds c x) (hne : a ≠ c) :
    ∃ h', memberDestroy get set (some a) h = .ok h' ∧ Freed h c a (.shadow (set none s)) h' := by
  refine ⟨_, ?_, freed_drop_put hb hc ha hne⟩
  unfold memberDestroy
  simp only [loadShadow_eq ha, hget, Option.isSome_some, if_true, hc.free, ok_bind]
  exact setShadow_eq (ha.drop hne)

/-- **`SHADOW_Destroy`** frees the six blocks of the shadow. -/
theorem shadowDestroy_eq {sh : DevShadow} (hl : Laid h a sh) (hb : h.Bounded) :
    ∃ h', shadowDestroy (some a) h = .ok h' ∧ Shrunk 6 h h' := by
  obtain ⟨h₁, e₁, f₁⟩ := attributeDestroy_eq (·.reported) (fun p s => { s with reported := p }) hb
    hl.shadow rfl hl.state rfl hl.reported (by omega)
  have a₁ := f₁.others _ _ (by omega) (by omega) hl.shadow
  obtain ⟨h₂, e₂, f₂⟩ := attributeDestroy_eq (·.desired) (fun p s => { s with desired := p })
    f₁.shrunk.bounded a₁ rfl f₁.parent rfl (f₁.others _ _ (by omega) (by omega) hl.desired)
    (by omega)
  have a₂ := f₂.others _ _ (by omega) (by omega) a₁
  obtain ⟨h₃, e₃, f₃⟩ := attributeDestroy_eq (·.delta) (fun p s => { s with delta := p })
    f₂.shrunk.bounded a₂ rfl f₂.parent rfl
    (f₂.others _ _ (by omega) (by omega) (f₁.others _ _ (by omega) (by omega) hl.delta)) (by omega)
  have a₃ := f₃.others _ _ (by omega) (by omega) a₂
  obtain ⟨h₄, e₄, f₄⟩ := memberDestroy_eq (·.state) (fun p s => { s with state := p })
    f₃.shrunk.bounded a₃ rfl f₃.parent (by omega)
  have hflag : h₃.Holds (a + 2) _ := f₃.others _ _ (by omega) (by omega)
    (f₂.others _ _ (by omega) (by omega) (f₁.others _ _ (by omega) (by omega) hl.flag))
  obtain ⟨h₅, e₅, f₅⟩ := memberDestroy_eq (·.flag) (fun p s => { s with flag := p })
    f₄.shrunk.bounded f₄.parent rfl (f₄.others _ _ (by omega) (by omega) hflag) (by omega)
  refine ⟨h₅.drop a, ?_, ?_⟩
  · unfold shadowDestroy
    simp only [e₁, e₂, e₃, e₄, e₅, ok_bind, Option.isSome_some, if_true]
    exact f₅.parent.free
  · exact f₁.shrunk.trans (f₂.shrunk.trans (f₃.shrunk.trans (f₄.shrunk.trans
      (f₅.shrunk.trans (f₅.parent.shrunk_drop f₅.shrunk.bounded)))))

end

/-! ### Balance -/

/-- The six blocks of the shadow behind a pointer, and the shadow they make up. -/
def readShadow (h : Heap Block) (shadow : Ptr) : Option (List ℕ × DevShadow) := do
  let a ← shadow
  let s ← (h.content a).asShadow
  let state ← s.state
  let flag ← s.flag
  let st ← (h.content state).asState
  let f ← (h.content flag).asFlag
  let reported ← st.reported
  let r ← (h.content reported).asAttribute
  let desired ← st.desired
  let d ← (h.content desired).asAttribute
  let delta ← st.delta
  let e ← (h.content delta).asAttribute
  some ([a, state, flag, reported, desired, delta],
    ⟨s.productKey, s.deviceID, s.timestamp, s.token, s.status, s.version, f, ⟨d, r, e⟩⟩)

/-- The six blocks of the shadow are six, live, and initialised. -/
def Complete (env : LedInitEnv) (m : Memory) : Prop :=
  ∃ blocks, readShadow m.heap m.ledShadow =
      some (blocks, ledInit env.ledState env.uuid env.unixTime) ∧
    blocks.Nodup ∧ ∀ b ∈ blocks, b ∈ m.heap.live

/-- **A call is balanced**: it misuses no pointer, `LED_Install` returns `SUCCESS` only with the six
blocks complete, and no block is live when it has returned `ERROR` or `LED_Uninstall` has
returned. -/
def Balances (m : Memory) : Call → Prop
  | .install env => ∃ ret m', ledInstall env m = .ok (ret, m') ∧
      (ret = .success → Complete env m') ∧ (ret = .error → m'.heap.live = ∅)
  | .uninstall => ∃ m', ledUninstall m = .ok m' ∧ m'.heap.live = ∅

/-- Every call of the sequence is balanced. -/
def Balanced (outcomes : ℕ → Bool) (calls : List Call) : Prop :=
  Meets callStep Balances (start outcomes) calls

/-- Every `LED_Uninstall` finds exactly one LED installed, `n` being installed at first. -/
def Paired : ℕ → List Call → Prop
  | _, [] => True
  | n, .install _ :: calls => Paired (n + 1) calls
  | n, .uninstall :: calls => n = 1 ∧ Paired 0 calls

/-- The number of calls of `LED_Install`. -/
def installs : List Call → ℕ
  | [] => 0
  | .install _ :: calls => installs calls + 1
  | .uninstall :: calls => installs calls

/-- The memory with `n` LEDs installed; `ledShadow` is the last. -/
structure Holding (n : ℕ) (m : Memory) : Prop where
  bounded : m.heap.Bounded
  card : m.heap.live.card = 6 * n
  laid : 0 < n → ∃ a shadow, m.ledShadow = some a ∧ Laid m.heap a shadow

theorem holding_start (outcomes : ℕ → Bool) : Holding 0 (start outcomes) :=
  ⟨bounded_empty _ _, rfl, fun h => absurd h (Nat.lt_irrefl 0)⟩

/-- The shadow that lies at `a` is what is read there. -/
theorem Laid.readShadow_eq {h : Heap Block} {a : ℕ} {sh : DevShadow} (hl : Laid h a sh) :
    readShadow h (some a) = some ([a, a + 1, a + 2, a + 3, a + 4, a + 5], sh) := by
  have hshadow : (h.content a).asShadow = some (shadowBlock a sh) := by rw [hl.shadow.2]; rfl
  have hstate : (h.content (a + 1)).asState = some ⟨some (a + 4), some (a + 3), some (a + 5)⟩ := by
    rw [hl.state.2]; rfl
  have hflag : (h.content (a + 2)).asFlag = some sh.flag := by rw [hl.flag.2]; rfl
  have hreported : (h.content (a + 3)).asAttribute = some sh.state.reported := by
    rw [hl.reported.2]; rfl
  have hdesired : (h.content (a + 4)).asAttribute = some sh.state.desired := by
    rw [hl.desired.2]; rfl
  have hdelta : (h.content (a + 5)).asAttribute = some sh.state.delta := by rw [hl.delta.2]; rfl
  show ((h.content a).asShadow).bind _ = _
  rw [hshadow]
  show ((h.content (a + 1)).asState).bind _ = _
  rw [hstate]
  show ((h.content (a + 2)).asFlag).bind _ = _
  rw [hflag]
  show ((h.content (a + 3)).asAttribute).bind _ = _
  rw [hreported]
  show ((h.content (a + 4)).asAttribute).bind _ = _
  rw [hdesired]
  show ((h.content (a + 5)).asAttribute).bind _ = _
  rw [hdelta]
  rfl

theorem Laid.complete {h : Heap Block} {a : ℕ} {env : LedInitEnv}
    (hl : Laid h a (ledInit env.ledState env.uuid env.unixTime)) : Complete env ⟨h, some a⟩ := by
  refine ⟨_, hl.readShadow_eq, by simp, ?_⟩
  · intro b hb
    simp only [List.mem_cons, List.not_mem_nil, or_false] at hb
    rcases hb with rfl | rfl | rfl | rfl | rfl | rfl
    · exact hl.shadow.1
    · exact hl.state.1
    · exact hl.flag.1
    · exact hl.reported.1
    · exact hl.desired.1
    · exact hl.delta.1

/-- **`LED_Install`**, when no allocation fails: one LED more is installed. -/
theorem ledInstall_eq {n : ℕ} {m : Memory} (env : LedInitEnv) (hm : Holding n m)
    (hout : ∀ i < 6, m.heap.outcomes (m.heap.mallocs + i) = true) :
    ∃ m', ledInstall env m = .ok (.success, m') ∧ Complete env m' ∧ Holding (n + 1) m' ∧
      m'.heap.outcomes = m.heap.outcomes ∧ m'.heap.mallocs = m.heap.mallocs + 6 := by
  obtain ⟨h₁, e₁, g₁, l₁⟩ := shadowInit_eq hm.bounded hout
  obtain ⟨h₂, e₂, l₂, g₂⟩ := ledInitAt_eq env l₁ g₁.bounded
  have g : Grown 6 m.heap h₂ := g₁.trans g₂
  refine ⟨⟨h₂, some m.heap.mallocs⟩, ?_, l₂.complete, ⟨g.bounded, ?_, fun _ => ⟨_, _, rfl, l₂⟩⟩,
    g.outcomes, g.mallocs⟩
  · unfold ledInstall
    simp only [e₁, ok_bind, Option.isNone_some, Bool.false_eq_true, if_false, e₂]
  · show h₂.live.card = 6 * (n + 1)
    rw [g.card, hm.card]
    omega

/-- **`LED_Install`**, when an allocation fails: it uninstalls NULL. -/
theorem ledInstall_error {m : Memory} (env : LedInitEnv) (hb : m.heap.Bounded)
    (hout : ¬ ∀ i < 6, m.heap.outcomes (m.heap.mallocs + i) = true) :
    ∃ e, ledInstall env m = .error e := by
  obtain ⟨h₁, e₁⟩ := shadowInit_fails hb hout
  obtain ⟨e, he⟩ := shadowDestroy_error (h := h₁) none (by intro a ha; cases ha)
  refine ⟨e, ?_⟩
  unfold ledInstall ledUninstall
  simp only [e₁, ok_bind, Option.isNone_none, if_true, he]
  rfl

/-- **`LED_Uninstall`** frees the LED installed last. -/
theorem ledUninstall_eq {n : ℕ} {m : Memory} (hm : Holding (n + 1) m) :
    ∃ m', ledUninstall m = .ok m' ∧ m'.heap.Bounded ∧ m'.heap.live.card = 6 * n ∧
      m'.heap.outcomes = m.heap.outcomes ∧ m'.heap.mallocs = m.heap.mallocs := by
  obtain ⟨a, shadow, hptr, hl⟩ := hm.laid (Nat.succ_pos n)
  obtain ⟨h₁, e₁, s₁⟩ := shadowDestroy_eq hl hm.bounded
  refine ⟨{ m with heap := h₁ }, ?_, s₁.bounded, ?_, s₁.outcomes, s₁.mallocs⟩
  · unfold ledUninstall
    rw [hptr, e₁]
    rfl
  · have hcard := s₁.card
    rw [hm.card] at hcard
    show h₁.live.card = 6 * n
    omega

theorem ledUninstall_error {m : Memory} (hm : Holding 0 m) : ∃ e, ledUninstall m = .error e := by
  have hempty : m.heap.live = ∅ := Finset.card_eq_zero.mp hm.card
  obtain ⟨e, he⟩ := shadowDestroy_error (h := m.heap) m.ledShadow
    (by rw [hempty]; exact fun a _ => Finset.notMem_empty a)
  refine ⟨e, ?_⟩
  unfold ledUninstall
  rw [he]
  rfl

/-- **When the calls that follow are balanced**, `n` LEDs being installed. -/
theorem Holding.meets_iff {calls : List Call} : ∀ {n : ℕ} {m : Memory}, Holding n m →
    (Meets callStep Balances m calls ↔ Paired n calls ∧
      ∀ k < 6 * installs calls, m.heap.outcomes (m.heap.mallocs + k) = true) := by
  induction calls with
  | nil =>
    intro n m _
    refine iff_of_true trivial ⟨trivial, fun k hk => ?_⟩
    simp only [installs] at hk
    omega
  | cons c calls ih =>
    intro n m hm
    cases c with
    | install env =>
      show _ ↔ Paired (n + 1) calls ∧ ∀ k < 6 * (installs calls + 1), _
      by_cases hout : ∀ i < 6, m.heap.outcomes (m.heap.mallocs + i) = true
      · obtain ⟨m', he, hcompl, hm', ho, hmal⟩ := ledInstall_eq env hm hout
        have hstep : callStep m (.install env) = .ok (m', [.success]) := by
          simp only [callStep, he, ok_bind]
        have hbal : Balances m (.install env) :=
          ⟨.success, m', he, fun _ => hcompl, by intro h; cases h⟩
        rw [meets_cons hstep, and_iff_right hbal, ih hm', ho, hmal]
        refine and_congr_right fun _ => ⟨fun hall k hk => ?_, fun hall k hk => ?_⟩
        · by_cases hlt : k < 6
          · exact hout k hlt
          · have h6 := hall (k - 6) (by omega)
            rwa [show m.heap.mallocs + 6 + (k - 6) = m.heap.mallocs + k by omega] at h6
        · rw [Nat.add_assoc]
          exact hall (6 + k) (by omega)
      · refine iff_of_false ?_ ?_
        · rintro ⟨⟨ret, m', he, -⟩, -⟩
          obtain ⟨e, he'⟩ := ledInstall_error env hm.bounded hout
          rw [he'] at he; cases he
        · rintro ⟨-, hall⟩
          exact hout fun i hi => hall i (by omega)
    | uninstall =>
      show _ ↔ (n = 1 ∧ Paired 0 calls) ∧ ∀ k < 6 * installs calls, _
      cases n with
      | zero =>
        refine iff_of_false ?_ ?_
        · rintro ⟨⟨m', he, -⟩, -⟩
          obtain ⟨e, he'⟩ := ledUninstall_error hm
          rw [he'] at he; cases he
        · rintro ⟨⟨h, -⟩, -⟩; cases h
      | succ n =>
        obtain ⟨m', he, hb, hcard, ho, hmal⟩ := ledUninstall_eq hm
        have hstep : callStep m .uninstall = .ok (m', []) := by
          simp only [callStep, he, ok_bind]
        rw [meets_cons hstep]
        by_cases hn : n = 0
        · subst hn
          have hbal : Balances m .uninstall := ⟨m', he, Finset.card_eq_zero.mp hcard⟩
          have hm' : Holding 0 m' := ⟨hb, hcard, fun h => absurd h (Nat.lt_irrefl 0)⟩
          rw [and_iff_right hbal, ih hm', ho, hmal]
          exact and_congr_left fun _ => (and_iff_right rfl).symm
        · -- the blocks of an LED installed before are still live
          refine iff_of_false ?_ ?_
          · rintro ⟨⟨m'', he', hempty⟩, -⟩
            obtain rfl := Except.ok.inj (he.symm.trans he')
            rw [hempty, Finset.card_empty] at hcard
            omega
          · rintro ⟨⟨h, -⟩, -⟩
            omega

/-- **When install and uninstall are balanced**: exactly if none of the allocations fails and every
`LED_Uninstall` finds exactly one LED installed. -/
theorem balanced_iff (outcomes : ℕ → Bool) (calls : List Call) :
    Balanced outcomes calls ↔
      Paired 0 calls ∧ ∀ k < 6 * installs calls, outcomes k = true := by
  unfold Balanced
  rw [(holding_start outcomes).meets_iff]
  refine and_congr_right fun _ => forall_congr' fun k => imp_congr_right fun _ => ?_
  show outcomes (0 + k) = true ↔ _
  rw [Nat.zero_add]

/-- **The first allocation fails**, and `LED_Install` uses the NULL pointer. -/
theorem not_balanced_firstAllocation :
    ¬ Balanced (fun _ => false) [.install ⟨LED_OFF, .zero _, 0⟩] := by
  rintro ⟨⟨ret, m', he, -⟩, -⟩
  have herror : ledInstall ⟨LED_OFF, .zero _, 0⟩ (start fun _ => false) = .error .nullPointer := rfl
  rw [herror] at he
  cases he

end OasisEdge.Led.Install
