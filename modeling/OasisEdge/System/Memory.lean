import OasisEdge.CJson.Locality
import OasisEdge.System.Platform
import OasisEdge.System.Steps

/-! # What lies behind the buffer

`messageArrived` is given `payloadlen` bytes and reads them as a C string, so it goes on reading the
memory behind the buffer. The bytes alone decide what happens (`OwnBytesOnly`) exactly if the
payload is not the beginning of an object that is not closed yet (`ownBytesOnly_iff`): a closed
object is read up to its brace, and nothing but an object does anything. An unclosed one can be
completed with members of any kind. -/

namespace OasisEdge.System.Memory

open OasisEdge.Lib.Chars OasisEdge.Lib.Checking OasisEdge.CJson.Value OasisEdge.CJson.Parse
open OasisEdge.App.Func OasisEdge.Shadow.State OasisEdge.Shadow.Connect OasisEdge.Shadow.Set
open OasisEdge.Shadow.Update OasisEdge.Led.Driver OasisEdge.Sample.EdgeClient
open OasisEdge.CJson.Locality OasisEdge.System.Platform OasisEdge.System.Steps

/-- The commands given to the LED. -/
def ledCommands (out : List Output) : List UInt8 :=
  out.filterMap fun
    | .ledUpdateState state => some state
    | _ => none

/-- What a message leaves behind: the shadow, the flag of the function call and the commands, or
nothing if it hits a fault. -/
def leaves (r : Checked (Device × List Output)) : Option (DevShadow × Flag × List UInt8) :=
  match r with
  | .ok (dev, out) => some (dev.ledShadow, dev.funcFlag, ledCommands out)
  | .error _ => none

/-- **Only the bytes of the payload matter**: two contents of the memory behind it make no
difference, and a text that does not parse has no effect whatever follows it. -/
structure OwnBytesOnly (payload : List UInt8) : Prop where
  same : ∀ spi topicName dev m₁ m₂, 0 ∈ m₁ → 0 ∈ m₂ →
    leaves (messageArrivedAt spi topicName payload m₁ dev) =
      leaves (messageArrivedAt spi topicName payload m₂ dev)
  rejected : cjsonParse (.ofBytes payload) = none → ∀ spi topicName dev m, 0 ∈ m →
    messageArrivedAt spi topicName payload m dev = .ok (dev, [])

/-- The text starts with an object. -/
def StartsObject (s : CString) : Prop := ∃ ms, cjsonParse s = some (.obj ms)

/-- The payload is the beginning of an object, but does not reach its closing brace. -/
def TruncatedObject (payload : List UInt8) : Prop :=
  ¬ StartsObject (.ofBytes payload) ∧ ∃ m, StartsObject (.ofBytes (payload ++ m))

/-! ### What the payload is read as -/

section
variable {spi : SpiEnv} {topicName : CString} {dev : Device}

theorem messageArrived_congr {s t : CString} (h : cjsonParse s = cjsonParse t) :
    messageArrived spi topicName s dev = messageArrived spi topicName t dev := by
  simp only [messageArrived, ledOnlineRsp, ledOfflineRsp, ledKeepaliveRsp, shadowConnectRsp,
    ledUpdateShadow, shadowUpdate, ledSetShadowRsp, shadowSetRsp, ledFuncRsp, funcCallRsp, h]

theorem messageArrived_of_not_object {s : CString} (h : ¬ StartsObject s) :
    messageArrived spi topicName s dev = .ok (dev, []) := by
  have hmembers : ∀ root, cjsonParse s = some root → root.members = [] := by
    intro root hroot
    cases root with
    | obj ms => exact absurd ⟨ms, hroot⟩ h
    | null | bool b | num d | str t | arr js => rfl
  by_cases hc : topicName ∈ connectTopics
  · have hrsp : shadowConnectRsp s topicName dev.ledShadow = .ok (.error, dev.ledShadow) := by
      unfold shadowConnectRsp
      cases hroot : cjsonParse s with
      | none => rfl
      | some root =>
        simp only [connectRspRoot, cjsonGetObjectItem_of_members (hmembers root hroot)]
    rw [messageArrived_connect hc, hrsp]
    rfl
  by_cases hu : topicName = TOPIC_UPDATE_SHADOW
  · have hrsp : shadowUpdate s dev.ledShadow = .ok (.error, dev.ledShadow) := by
      unfold shadowUpdate
      cases hroot : cjsonParse s with
      | none => rfl
      | some root =>
        simp only [updateRoot, readUpdate, checkFresh,
          cjsonGetObjectItem_of_members (hmembers root hroot)]
        rfl
    rw [hu, messageArrived_update, ledUpdateShadow, hrsp]
    rfl
  by_cases hs : topicName = TOPIC_RSP_SET_SHADOW
  · have hrsp : shadowSetRsp s dev.ledShadow = .ok (.error, dev.ledShadow) := by
      unfold shadowSetRsp
      cases hroot : cjsonParse s with
      | none => rfl
      | some root =>
        simp only [setRspRoot, readAnswer, cjsonGetObjectItem_of_members (hmembers root hroot)]
        rfl
    rw [hs, messageArrived_setShadow, ledSetShadowRsp, hrsp]
    rfl
  · exact messageArrived_other hc hu hs

end

/-! ### A completed object -/

/-- The members every update has. -/
def updateFields : List CString :=
  [.lit "timestamp", .lit "version", .lit "productKey", .lit "deviceID", .lit "state",
    .lit "metadata"]

/-- An update with all its members is not refused for being late if the version of the shadow is the
least there is. -/
theorem readUpdate_ne_error {root : Json} {shadow : DevShadow}
    (hts : shadow.timestamp.str = .empty) (hv : shadow.version ≤ INT_MIN)
    (hroot : ∀ name ∈ updateFields, (cjsonGetObjectItem root name).isSome) :
    readUpdate root shadow ≠ .ok .error := by
  have hfield : ∀ name ∈ updateFields, ∃ item, cjsonGetObjectItem root name = some item :=
    fun name h => Option.isSome_iff_exists.mp (hroot name h)
  obtain ⟨timestamp, htimestamp⟩ := hfield (.lit "timestamp") (by simp [updateFields])
  obtain ⟨version, hversion⟩ := hfield (.lit "version") (by simp [updateFields])
  obtain ⟨productKey, hproductKey⟩ := hfield (.lit "productKey") (by simp [updateFields])
  obtain ⟨deviceID, hdeviceID⟩ := hfield (.lit "deviceID") (by simp [updateFields])
  obtain ⟨state, hstate⟩ := hfield (.lit "state") (by simp [updateFields])
  obtain ⟨metadata, hmetadata⟩ := hfield (.lit "metadata") (by simp [updateFields])
  have hle := (valueint_mem version).1
  intro h
  obtain ⟨o, ho, h⟩ := bind_eq_ok.mp h
  cases o with
  | none =>
    simp only [checkFresh, htimestamp, hversion, hts] at ho
    obtain ⟨ts, -, ho⟩ := bind_eq_ok.mp ho
    rw [if_neg (by have := strcmp_empty_nonneg ts; omega), if_neg (by omega)] at ho
    cases ho
  | some item =>
    obtain ⟨i, hi, h⟩ := bind_eq_ok.mp h
    cases i with
    | missing =>
      simp only [checkIdentity, hproductKey, hdeviceID] at hi
      obtain ⟨pk, -, hi⟩ := bind_eq_ok.mp hi
      split_ifs at hi
      · cases hi
      · obtain ⟨did, -, hi⟩ := bind_eq_ok.mp hi
        have hi' := Except.ok.inj hi
        split_ifs at hi'
    | other => cases h
    | this =>
      obtain ⟨d, hd, h⟩ := bind_eq_ok.mp h
      cases d with
      | none =>
        simp only [readDesired, hstate, hmetadata, bind_eq_ok] at hd
        obtain ⟨_, -, _, -, _, -, _, -, hd⟩ := hd
        cases hd
      | some d => cases h

/-- A device whose shadow has the least version, and a switch to be changed. -/
def openDevice : Device :=
  let dev := ledInstall LED_OFF (.zero _) 0 fun _ => 0
  { dev with ledShadow := { dev.ledShadow with version := INT_MIN } }

/-- An update with all its members does something to this device, or crashes it. -/
theorem leaves_update_ne {s : CString} {root : Json} (hs : cjsonParse s = some root)
    (hroot : ∀ name ∈ updateFields, (cjsonGetObjectItem root name).isSome) :
    leaves (messageArrived spiOk TOPIC_UPDATE_SHADOW s openDevice) ≠
      leaves (.ok (openDevice, [])) := by
  have hne : readUpdate root openDevice.ledShadow ≠ .ok .error :=
    readUpdate_ne_error rfl le_rfl hroot
  rw [messageArrived_verdict hs]
  cases hread : readUpdate root openDevice.ledShadow with
  | error f => exact fun h => by cases h
  | ok v =>
    cases v with
    | error => exact absurd hread hne
    | ignored =>
      -- the LED is driven to the state the shadow names
      decide
    | accepted sw swTimestamp version =>
      intro h
      have hshadow := congrArg Prod.fst (Option.some.inj h)
      have hflag := congrArg (fun shadow => shadow.flag.setShadow) hshadow
      simp only [driveLed_shadow] at hflag
      cases hflag

/-- The members that complete an update. -/
def updateText : CString :=
  .lit "\"timestamp\":\"\",\"version\":0,\"productKey\":\"\",\"deviceID\":\"\"," ++
    .lit "\"state\":\x7b\x7d,\"metadata\":\x7b\x7d\x7d"

/-- What `updateText` is read as. -/
def updateMembers : List (CString × Json) :=
  [(.lit "timestamp", .str .empty), (.lit "version", .num (.fin 0)), (.lit "productKey", .str .empty),
    (.lit "deviceID", .str .empty), (.lit "state", .obj []), (.lit "metadata", .obj [])]

theorem parseObject_updateText :
    parseObject 7 1 updateText.bytes = some (updateMembers, []) := by decide +kernel

theorem updateMembers_isSome (ms : List (CString × Json)) :
    ∀ name ∈ updateFields, (cjsonGetObjectItem (some (.obj (ms ++ updateMembers))) name).isSome := by
  have hin : ∀ name ∈ updateFields,
      (updateMembers.find? fun m => caseInsensitiveEq name m.1).isSome := by decide
  intro name hname
  show ((((ms ++ updateMembers).find? fun m => caseInsensitiveEq name m.1)).map Prod.snd).isSome
  rw [Option.isSome_map, List.find?_append, Option.isSome_or, hin name hname, Bool.or_true]

/-! ### When the payload alone decides -/

theorem cjsonParse_eq_object {s : CString} :
    StartsObject s ↔ ∃ ms r, parseText s.bytes = some (.obj ms, r) := by
  unfold StartsObject cjsonParse
  simp only [Option.map_eq_some_iff]
  constructor
  · rintro ⟨ms, ⟨j, r⟩, h, rfl⟩; exact ⟨ms, r, h⟩
  · rintro ⟨ms, r, h⟩; exact ⟨ms, (.obj ms, r), h, rfl⟩

/-- A closed object is the same object whatever follows it. -/
theorem cjsonParse_append {payload : List UInt8} (h0 : 0 ∉ payload)
    (h : StartsObject (.ofBytes payload)) (m : List UInt8) :
    cjsonParse (.ofBytes (payload ++ m)) = cjsonParse (.ofBytes payload) := by
  have hbytes : (CString.ofBytes payload).bytes = payload :=
    CString.bytes_ofBytes fun b hb h => h0 (h ▸ hb)
  obtain ⟨ms, r, hp⟩ := cjsonParse_eq_object.mp h
  rw [hbytes] at hp
  obtain ⟨front, hfront, hobj⟩ := parseText_object hp
  unfold cjsonParse
  rw [hbytes, hp, CString.bytes_ofBytes_append h0, hfront, List.append_assoc, List.cons_append,
    hobj.same]
  rfl

/-- An object that is not closed in the payload can be completed by any members. -/
theorem exists_completion {payload : List UInt8} (h : TruncatedObject payload) :
    0 ∉ payload ∧ ∃ m ms, 0 ∈ m ∧
      cjsonParse (.ofBytes (payload ++ m)) = some (.obj (ms ++ updateMembers)) := by
  obtain ⟨hno, m, hm⟩ := h
  have h0 : 0 ∉ payload := fun h0 => hno (by rw [CString.ofBytes_append_of_nul h0] at hm; exact hm)
  obtain ⟨ms, r, hp⟩ := cjsonParse_eq_object.mp hm
  rw [CString.bytes_ofBytes_append h0] at hp
  obtain ⟨front, hfront, hobj⟩ := parseText_object hp
  -- the closing brace stands behind the payload
  obtain ⟨q, hq⟩ : ∃ q, front = payload ++ q := by
    rcases List.append_eq_append_iff.mp hfront with ⟨q, hq, -⟩ | ⟨q, hq, hr⟩
    · exact ⟨q, hq⟩
    · cases q with
      | nil => exact ⟨[], by rw [hq]; simp⟩
      | cons b q =>
        obtain rfl : 125 = b := (List.cons.inj hr).1
        refine absurd (cjsonParse_eq_object.mpr ⟨ms, q, ?_⟩) hno
        rw [CString.bytes_ofBytes fun b hb h => h0 (h ▸ hb), hq]
        exact hobj.same q
  obtain ⟨sep, hsep, hmore⟩ := hobj.more parseObject_updateText
  have hnul : ∀ b ∈ front ++ sep ++ updateText.bytes, b ≠ 0 := by
    intro b hb
    rcases List.mem_append.mp hb with hb | hb
    · rcases List.mem_append.mp hb with hb | hb
      · exact (CString.ofBytes (payload ++ m)).noNul b (by
          rw [CString.bytes_ofBytes_append h0, hfront]; simp [hb])
      · rw [hsep b hb]; decide
    · exact updateText.noNul b hb
  refine ⟨h0, q ++ sep ++ updateText.bytes ++ [0], ms, by simp, ?_⟩
  have htext : payload ++ (q ++ sep ++ updateText.bytes ++ [0]) =
      front ++ sep ++ updateText.bytes ++ [0] := by rw [hq]; simp
  unfold cjsonParse
  rw [htext, CString.bytes_ofBytes_append fun h => hnul 0 h rfl]
  show (parseText (front ++ sep ++ updateText.bytes ++ [])).map Prod.fst = _
  rw [List.append_nil, hmore]
  rfl

/-- **When only the bytes of the payload matter**: unless it is the beginning of an object that is
not closed yet. -/
theorem ownBytesOnly_iff (payload : List UInt8) :
    OwnBytesOnly payload ↔ ¬ TruncatedObject payload := by
  constructor
  · intro hown htrunc
    obtain ⟨h0, m, ms, hm0, hm⟩ := exists_completion htrunc
    have hempty : messageArrivedAt spiOk TOPIC_UPDATE_SHADOW payload [0] openDevice =
        .ok (openDevice, []) := by
      refine messageArrived_of_not_object fun h => htrunc.1 ?_
      rw [show CString.ofBytes (payload ++ [0]) = .ofBytes payload from ?_] at h
      · exact h
      · ext1
        rw [CString.bytes_ofBytes_append h0, CString.bytes_ofBytes fun b hb h => h0 (h ▸ hb)]
        exact List.append_nil _
    have hsame := hown.same spiOk TOPIC_UPDATE_SHADOW openDevice m [0] hm0 (by simp)
    rw [hempty] at hsame
    exact leaves_update_ne hm (updateMembers_isSome ms) hsame
  · intro hnot
    by_cases h0 : 0 ∈ payload
    · have hread : ∀ m, CString.ofBytes (payload ++ m) = .ofBytes payload :=
        CString.ofBytes_append_of_nul h0
      refine ⟨fun spi topicName dev m₁ m₂ _ _ => ?_, fun hp spi topicName dev m _ => ?_⟩
      · simp only [messageArrivedAt, hread]
      · rw [messageArrivedAt, hread]
        exact messageArrived_of_not_object fun ⟨ms, hms⟩ => by rw [hp] at hms; cases hms
    by_cases hobj : StartsObject (.ofBytes payload)
    · refine ⟨fun spi topicName dev m₁ m₂ _ _ => ?_, fun hp spi topicName dev m _ => ?_⟩
      · unfold messageArrivedAt
        rw [messageArrived_congr ((cjsonParse_append h0 hobj m₁).trans
          (cjsonParse_append h0 hobj m₂).symm)]
      · obtain ⟨ms, hms⟩ := hobj
        rw [hp] at hms; cases hms
    · have hall : ∀ spi topicName dev m,
          messageArrivedAt spi topicName payload m dev = .ok (dev, []) :=
        fun spi topicName dev m => messageArrived_of_not_object fun h => hnot ⟨hobj, m, h⟩
      refine ⟨fun spi topicName dev m₁ m₂ _ _ => ?_, fun _ spi topicName dev m _ => ?_⟩
      · rw [hall, hall]
      · exact hall spi topicName dev m

/-- The response that lists the LED as online, without its last byte. -/
def truncatedText : List UInt8 := onlineText.bytes.dropLast

/-- **The memory behind the buffer can decide**: it completes the truncated response. -/
theorem not_ownBytesOnly_truncatedText : ¬ OwnBytesOnly truncatedText := by
  intro h
  have hsame := h.same spiOk TOPIC_RSP_ONLINE (ledInstall LED_OFF (.zero _) 0 fun _ => 0) [0] [125, 0]
    (by simp) (by simp)
  revert hsame
  decide +kernel

end OasisEdge.System.Memory
