import OasisEdge.Mqtt.Properties
import OasisEdge.Lib.Chars

/-! # MQTT packets

A packet is one byte of type and flags, the length of the rest, and the rest. The functions of
`new_packets` get the rest (`data`) and build a structure from it, or give NULL if the packet is bad.
They come to one of three ends: a structure, NULL (`none`), or a fault.

A PUBLISH that was sent is read as it was (`reads_publish`), and before MQTT 5 what is read can only be
what was sent (`publish_eq_some_iff`). But nothing checks that a message id is there: a PUBLISH with a
QoS that ends behind its topic makes the cursor pass the end (`publish_eq_overRun_iff`). -/

namespace OasisEdge.Mqtt.Packet

open OasisEdge.Lib.Chars OasisEdge.Lib.Readers OasisEdge.Mqtt.Bytes OasisEdge.Mqtt.Properties

/-! ### The first byte -/

def CONNACK : ℕ := 2
def PUBLISH : ℕ := 3
def PUBACK : ℕ := 4
def PUBREC : ℕ := 5
def PUBREL : ℕ := 6
def PUBCOMP : ℕ := 7
def SUBACK : ℕ := 9
def UNSUBACK : ℕ := 11
def PINGREQ : ℕ := 12
def PINGRESP : ℕ := 13
def DISCONNECT : ℕ := 14
def AUTH : ℕ := 15

def MQTTVERSION_5 : ℕ := 5

/-- `Header`: the byte, and its bits. -/
structure Header where
  byte : UInt8
deriving DecidableEq

namespace Header

/-- `bits.type`. -/
def type (h : Header) : ℕ := h.byte.toNat / 16

/-- `bits.dup`. -/
def dup (h : Header) : Bool := h.byte.toNat / 8 % 2 = 1

/-- `bits.qos`. -/
def qos (h : Header) : ℕ := h.byte.toNat / 2 % 4

/-- `bits.retain`. -/
def retain (h : Header) : Bool := h.byte.toNat % 2 = 1

/-- A header with these bits. -/
def ofBits (type : ℕ) (dup : Bool) (qos : ℕ) (retain : Bool) : Header :=
  ⟨.ofNat (16 * type + 8 * dup.toNat + 2 * qos + retain.toNat)⟩

section
variable {t q : ℕ} (ht : t < 16) (hq : q < 4) (d r : Bool)
include ht hq

theorem toNat_ofBits : (ofBits t d q r).byte.toNat = 16 * t + 8 * d.toNat + 2 * q + r.toNat := by
  have hd := Bool.toNat_le d
  have hr := Bool.toNat_le r
  show (UInt8.ofNat _).toNat = _
  rw [UInt8.toNat_ofNat']
  omega

theorem type_ofBits : (ofBits t d q r).type = t := by
  have hd := Bool.toNat_le d
  have hr := Bool.toNat_le r
  unfold type
  rw [toNat_ofBits ht hq]
  omega

theorem qos_ofBits : (ofBits t d q r).qos = q := by
  have hd := Bool.toNat_le d
  have hr := Bool.toNat_le r
  unfold qos
  rw [toNat_ofBits ht hq]
  omega

theorem dup_ofBits : (ofBits t d q r).dup = d := by
  have hr := Bool.toNat_le r
  unfold dup
  rw [toNat_ofBits ht hq]
  rcases d with _ | _
  · rw [decide_eq_false_iff_not, Bool.toNat_false]
    omega
  · rw [decide_eq_true_iff, Bool.toNat_true]
    omega

theorem retain_ofBits : (ofBits t d q r).retain = r := by
  unfold retain
  rw [toNat_ofBits ht hq]
  rcases r with _ | _
  · rw [decide_eq_false_iff_not, Bool.toNat_false]
    omega
  · rw [decide_eq_true_iff, Bool.toNat_true]
    omega

end

end Header

/-- What `MQTTPacket_send` and `MQTTPacket_sends` write. -/
def send (header : Header) (buffer : List UInt8) : List UInt8 :=
  header.byte :: (encode buffer.length ++ buffer)

/-! ### PUBLISH -/

/-- `Publish`. The topic is what stands in front of its NUL, `topiclen` bytes. -/
structure Publish where
  header : Header
  topic : List UInt8
  msgId : ℕ
  payload : List UInt8
  MQTTVersion : ℕ
  properties : MQTTProperties
deriving DecidableEq

/-- What `MQTTPacket_send_publish` sends behind the length of the packet. The topic is taken as a string,
so it ends at the first NUL. -/
def publishBuffers (pack : Publish) (qos : ℕ) : List UInt8 :=
  let topic := (CString.ofBytes pack.topic).bytes
  writeInt topic.length ++ topic ++ (if 0 < qos then writeInt pack.msgId else []) ++
    (if MQTTVERSION_5 ≤ pack.MQTTVersion then writeProperties pack.properties else []) ++ pack.payload

/-- `MQTTPacket_send_publish`. -/
def sendPublish (pack : Publish) (dup : Bool) (qos : ℕ) (retained : Bool) : List UInt8 :=
  send (.ofBits PUBLISH dup qos retained) (publishBuffers pack qos)

def readUTFlen : Cursor (Option (List UInt8)) := do
  let (string, _) ← lenStringRead
  return string

/-- What is left of the data. -/
def remaining : Cursor (List UInt8) := fun l => .ok (l, [])

/-- The message id of a PUBLISH. -/
def readMsgId (qos : ℕ) : Cursor ℕ := if 0 < qos then readInt else return 0

/-- The properties of a packet, which it has from MQTT 5 on. -/
def readVersionProperties (MQTTVersion : ℕ) : Cursor (Option MQTTProperties) :=
  if MQTTVERSION_5 ≤ MQTTVersion then readProperties else return some .initializer

/-- `MQTTPacket_publish`. -/
def publish (MQTTVersion : ℕ) (aHeader : Header) (data : List UInt8) :
    Except Fault (Option Publish) :=
  (do
    let topic ← readUTFlen
    match topic with
    | none => return none
    | some topic => do
      let msgId ← readMsgId aHeader.qos
      let properties ← readVersionProperties MQTTVersion
      match properties with
      | none => return none
      | some properties => do
        let payload ← remaining
        return some ⟨aHeader, topic, msgId, payload, MQTTVersion, properties⟩ : Cursor _).run' data

/-! ### Acknowledgements -/

/-- `Ack`. The members that are not set have no value. -/
structure Ack where
  header : Header
  msgId : Option ℕ
  rc : Option UInt8
  MQTTVersion : ℕ
  properties : Option MQTTProperties
deriving DecidableEq

/-- `MQTTPacket_send_ack`, for all of PUBACK, PUBREC, PUBREL and PUBCOMP. -/
def sendAck (type msgid : ℕ) (dup : Bool) : List UInt8 :=
  send (.ofBits type dup (if type = PUBREL then 1 else 0) false) (writeInt msgid)

/-- `MQTTPacket_ack`. -/
def ack (MQTTVersion : ℕ) (aHeader : Header) (data : List UInt8) : Except Fault (Option Ack) :=
  (do
    let msgId ← (if aHeader.type ≠ DISCONNECT then some <$> readInt else return none :
      Cursor (Option ℕ))
    if MQTTVersion < MQTTVERSION_5 then return some ⟨aHeader, msgId, none, MQTTVersion, none⟩
    else do
      let rc ← (if 2 < data.length then readChar else return 0 : Cursor UInt8)
      let properties ← (if 3 < data.length then readProperties else return some .initializer :
        Cursor (Option MQTTProperties))
      match properties with
      | none => return none
      | some properties =>
        return some ⟨aHeader, msgId, some rc, MQTTVersion, some properties⟩ : Cursor _).run' data

/-! ### Answers of the server -/

structure Connack where
  header : Header
  flags : UInt8
  rc : UInt8
  MQTTVersion : ℕ
  properties : Option MQTTProperties
deriving DecidableEq

/-- `MQTTPacket_connack`. -/
def connack (MQTTVersion : ℕ) (aHeader : Header) (data : List UInt8) :
    Except Fault (Option Connack) :=
  (do
    let flags ← readChar
    let rc ← readChar
    if MQTTVersion < MQTTVERSION_5 then
      if data.length ≠ 2 then return none
      else return some ⟨aHeader, flags, rc, MQTTVersion, none⟩
    else if 2 < data.length then do
      let properties ← readProperties
      match properties with
      | none => return none
      | some properties => return some ⟨aHeader, flags, rc, MQTTVersion, some properties⟩
    else return some ⟨aHeader, flags, rc, MQTTVersion, none⟩ : Cursor _).run' data

/-- `Suback`, and `Unsuback` from MQTT 5 on. -/
structure Suback where
  header : Header
  msgId : ℕ
  MQTTVersion : ℕ
  properties : MQTTProperties
  codes : List UInt8
deriving DecidableEq

/-- `MQTTPacket_suback`. A bad list of properties is freed with the structure, and the structure is used
behind it. -/
def suback (MQTTVersion : ℕ) (aHeader : Header) (data : List UInt8) : Except Fault (Option Suback) :=
  (do
    let msgId ← readInt
    let properties ← readVersionProperties MQTTVersion
    match properties with
    | none => throw .nullPointer
    | some properties => do
      let qoss ← remaining
      return some ⟨aHeader, msgId, MQTTVersion, properties, qoss⟩ : Cursor _).run' data

/-- `MQTTPacket_unsuback`: before MQTT 5 what is behind the message id is not read. -/
def unsuback (MQTTVersion : ℕ) (aHeader : Header) (data : List UInt8) :
    Except Fault (Option Suback) :=
  (do
    let msgId ← readInt
    if MQTTVersion < MQTTVERSION_5 then return some ⟨aHeader, msgId, MQTTVersion, .initializer, []⟩
    else do
      let properties ← readProperties
      match properties with
      | none => throw .nullPointer
      | some properties => do
        let reasonCodes ← remaining
        return some ⟨aHeader, msgId, MQTTVersion, properties, reasonCodes⟩ : Cursor _).run' data

/-! ### A PUBLISH is read back -/

theorem reads_readUTFlen {l : List UInt8} (hl : l.length < 65536) :
    Reads readUTFlen (writeMQTTLenString l) (some l) :=
  (reads_lenStringRead hl).bind_nil (Reads.pure (some l))

theorem reads_readMsgId {qos msgId : ℕ} (hid : msgId < 65536) :
    Reads (readMsgId qos) (if 0 < qos then writeInt msgId else []) (if 0 < qos then msgId else 0) := by
  unfold readMsgId
  split_ifs
  · exact reads_readInt hid
  · exact Reads.pure 0

/-- Properties that are written as what they are; before MQTT 5 there are none. -/
structure Publish.Sound (pack : Publish) : Prop where
  topic_length : pack.topic.length < 65536
  topic_noNul : ∀ b ∈ pack.topic, b ≠ 0
  msgId_lt : pack.msgId < 65536
  counted : pack.properties.Counted
  length_le : pack.properties.length ≤ MAX_REMAINING_LENGTH
  version : pack.MQTTVersion < MQTTVERSION_5 → pack.properties = .initializer

theorem reads_readVersionProperties {pack : Publish} (h : pack.Sound) :
    Reads (readVersionProperties pack.MQTTVersion)
      (if MQTTVERSION_5 ≤ pack.MQTTVersion then writeProperties pack.properties else [])
      (some pack.properties) := by
  unfold readVersionProperties
  split_ifs with hversion
  · exact reads_writeProperties h.counted h.length_le
  · rw [h.version (Nat.lt_of_not_le hversion)]
    exact Reads.pure _

/-- **A PUBLISH that was sent is read as it was**, with the message id if it has one. -/
theorem publish_publishBuffers {pack : Publish} (h : pack.Sound) (header : Header) :
    publish pack.MQTTVersion header (publishBuffers pack header.qos) =
      .ok (some { pack with header, msgId := if 0 < header.qos then pack.msgId else 0 }) := by
  unfold publish publishBuffers
  rw [CString.bytes_ofBytes h.topic_noNul, List.append_assoc, List.append_assoc, List.append_assoc,
    ← List.append_assoc (writeInt _)]
  show Except.map Prod.fst (StateT.run _ (writeMQTTLenString pack.topic ++ _)) = _
  rw [(reads_readUTFlen h.topic_length).run_bind]
  simp only
  rw [(reads_readMsgId h.msgId_lt).run_bind, (reads_readVersionProperties h).run_bind]
  rfl

theorem publish_sendPublish {pack : Publish} (h : pack.Sound) (dup : Bool) {qos : ℕ} (hqos : qos < 4)
    (retained : Bool) :
    ∃ header data, sendPublish pack dup qos retained = send header data ∧ header.type = PUBLISH ∧
      header.dup = dup ∧ header.qos = qos ∧ header.retain = retained ∧
      publish pack.MQTTVersion header data =
        .ok (some { pack with header, msgId := if 0 < qos then pack.msgId else 0 }) := by
  have hq := Header.qos_ofBits (t := PUBLISH) (by decide) hqos dup retained
  refine ⟨_, _, rfl, Header.type_ofBits (by decide) hqos _ _, Header.dup_ofBits (by decide) hqos _ _,
    hq, Header.retain_ofBits (by decide) hqos _ _, ?_⟩
  have hread := publish_publishBuffers h (.ofBits PUBLISH dup qos retained)
  rwa [hq] at hread

/-! ### What is read as a PUBLISH before MQTT 5 -/

theorem writeInt_readInt (a b : UInt8) : writeInt ↑(256 * a.toNat + b.toNat) = [a, b] := by
  have ha := a.toNat_lt
  have hb := b.toNat_lt
  rw [writeInt_natCast]
  have hhi : charOf ↑((256 * a.toNat + b.toNat) / 256) = a := by
    rw [← UInt8.toNat_inj, toNat_charOf (by omega)]
    omega
  have hlo : charOf ↑((256 * a.toNat + b.toNat) % 256) = b := by
    rw [← UInt8.toNat_inj, toNat_charOf (by omega)]
    omega
  rw [hhi, hlo]

theorem exists_writeInt {l : List UInt8} (h : 2 ≤ l.length) :
    ∃ n < 65536, ∃ rest, l = writeInt (n : ℕ) ++ rest := by
  obtain ⟨a, b, rest, rfl⟩ : ∃ a b rest, l = a :: b :: rest := by
    rcases l with _ | ⟨a, _ | ⟨b, rest⟩⟩
    · simp at h
    · simp at h
    · exact ⟨a, b, rest, rfl⟩
  have ha := a.toNat_lt
  have hb := b.toNat_lt
  refine ⟨256 * a.toNat + b.toNat, by omega, rest, ?_⟩
  rw [writeInt_readInt]
  rfl

theorem lenStringRead_short {l : List UInt8} (h : l.length < 2) :
    lenStringRead l = .ok ((none, 0), l) := by
  unfold lenStringRead
  rw [if_neg (by omega)]

theorem lenStringRead_cases (data : List UInt8) :
    (∃ topic rest, topic.length < 65536 ∧ data = writeMQTTLenString topic ++ rest) ∨
      (∃ rest, lenStringRead data = .ok ((none, 0), rest)) ∧
        ∀ topic rest, data = writeMQTTLenString topic ++ rest → 65536 ≤ topic.length := by
  by_cases hshort : data.length < 2
  · refine Or.inr ⟨⟨_, lenStringRead_short hshort⟩, fun topic rest hdata => ?_⟩
    rw [hdata, List.length_append, length_writeMQTTLenString] at hshort
    omega
  obtain ⟨n, hn, rest, rfl⟩ := exists_writeInt (Nat.le_of_not_lt hshort)
  have hread := lenStringRead_writeInt hn rest
  split_ifs at hread with hfits
  · have hlen : (rest.take n).length = n := by
      rw [List.length_take]
      omega
    refine Or.inl ⟨rest.take n, rest.drop n, by omega, ?_⟩
    unfold writeMQTTLenString
    rw [hlen, List.append_assoc, List.take_append_drop]
  · refine Or.inr ⟨⟨_, hread⟩, fun topic rest' hdata => ?_⟩
    by_contra hlt
    have hstring : lenStringRead (writeMQTTLenString topic ++ rest') = _ :=
      reads_lenStringRead (Nat.lt_of_not_le hlt) rest'
    rw [hdata, hstring] at hread
    cases hread

theorem publish_none {data rest : List UInt8} (h : lenStringRead data = .ok ((none, 0), rest))
    (version : ℕ) (header : Header) : publish version header data = .ok none := by
  have htopic : readUTFlen.run data = .ok (none, rest) := by
    unfold readUTFlen
    rw [StateT.run_bind]
    show (lenStringRead data >>= _) = _
    rw [h]
    rfl
  unfold publish
  show Except.map Prod.fst (StateT.run _ data) = _
  rw [StateT.run_bind, htopic]
  rfl

/-- The message id is two bytes, of a packet that has one. -/
theorem readMsgId_cases (qos : ℕ) (rest : List UInt8) :
    (0 < qos ∧ rest.length < 2 ∧ (readMsgId qos).run rest = .error .overRun) ∨
      ∃ msgId payload, msgId < 65536 ∧ (qos = 0 → msgId = 0) ∧
        rest = (if 0 < qos then writeInt (msgId : ℕ) else []) ++ payload ∧
        (readMsgId qos).run rest = .ok (msgId, payload) := by
  unfold readMsgId
  by_cases hqos : 0 < qos
  · simp only [if_pos hqos]
    by_cases hshort : rest.length < 2
    · refine Or.inl ⟨hqos, hshort, ?_⟩
      rcases rest with _ | ⟨a, _ | ⟨b, rest⟩⟩
      · rfl
      · rfl
      · rw [List.length_cons, List.length_cons] at hshort
        omega
    · obtain ⟨n, hn, rest, rfl⟩ := exists_writeInt (Nat.le_of_not_lt hshort)
      exact Or.inr ⟨n, rest, hn, fun h0 => absurd h0 (by omega), rfl, reads_readInt hn rest⟩
  · simp only [if_neg hqos]
    exact Or.inr ⟨0, rest, by omega, fun _ => rfl, rfl, rfl⟩

section
variable {version : ℕ} (hversion : version < MQTTVERSION_5) (header : Header)
include hversion

theorem publish_topic {topic : List UInt8} (htopic : topic.length < 65536) (rest : List UInt8) :
    publish version header (writeMQTTLenString topic ++ rest) =
      ((readMsgId header.qos).run rest).map fun r =>
        some ⟨header, topic, r.1, r.2, version, .initializer⟩ := by
  unfold publish readVersionProperties
  rw [if_neg (by omega)]
  show Except.map Prod.fst (StateT.run _ (writeMQTTLenString topic ++ _)) = _
  rw [(reads_readUTFlen htopic).run_bind]
  simp only
  rw [StateT.run_bind]
  rcases (readMsgId header.qos).run rest with e | ⟨msgId, payload⟩
  · rfl
  · rfl

/-- **What is read as a PUBLISH** is what would be sent for it. -/
theorem publish_eq_some_iff {data : List UInt8} (pack : Publish) :
    publish version header data = .ok (some pack) ↔
      pack.header = header ∧ pack.MQTTVersion = version ∧ pack.properties = .initializer ∧
        pack.topic.length < 65536 ∧ pack.msgId < 65536 ∧ (header.qos = 0 → pack.msgId = 0) ∧
        data = writeMQTTLenString pack.topic ++
          ((if 0 < header.qos then writeInt pack.msgId else []) ++ pack.payload) := by
  constructor
  · intro h
    rcases lenStringRead_cases data with ⟨topic, rest, htopic, rfl⟩ | ⟨⟨rest, hread⟩, -⟩
    · rw [publish_topic hversion header htopic] at h
      rcases readMsgId_cases header.qos rest with ⟨-, -, hid⟩ | ⟨msgId, payload, hlt, hzero, hrest, hid⟩
      · rw [hid] at h
        cases h
      · rw [hid] at h
        obtain rfl := Option.some.inj (Except.ok.inj h)
        exact ⟨rfl, rfl, rfl, htopic, hlt, hzero, by rw [hrest]⟩
    · rw [publish_none hread] at h
      cases h
  · rintro ⟨rfl, rfl, hprops, htopic, hlt, hzero, rfl⟩
    rw [publish_topic hversion pack.header htopic, reads_readMsgId hlt pack.payload]
    have hid : (if 0 < pack.header.qos then pack.msgId else 0) = pack.msgId := by
      split_ifs with hqos
      · rfl
      · exact (hzero (by omega)).symm
    rw [hid, ← hprops]
    rfl

/-- **When the cursor passes the end**: the packet has a QoS, a topic, and not two bytes behind it. -/
theorem publish_eq_error_iff {data : List UInt8} {e : Fault} :
    publish version header data = .error e ↔
      e = .overRun ∧ 0 < header.qos ∧ ∃ topic rest, topic.length < 65536 ∧ rest.length < 2 ∧
        data = writeMQTTLenString topic ++ rest := by
  constructor
  · intro h
    rcases lenStringRead_cases data with ⟨topic, rest, htopic, rfl⟩ | ⟨⟨rest, hread⟩, -⟩
    · rw [publish_topic hversion header htopic] at h
      rcases readMsgId_cases header.qos rest with ⟨hqos, hshort, hid⟩ | ⟨_, _, -, -, -, hid⟩
      · rw [hid] at h
        exact ⟨(Except.error.inj h).symm, hqos, topic, rest, htopic, hshort, rfl⟩
      · rw [hid] at h
        cases h
    · rw [publish_none hread] at h
      cases h
  · rintro ⟨rfl, hqos, topic, rest, htopic, hshort, rfl⟩
    rw [publish_topic hversion header htopic]
    rcases readMsgId_cases header.qos rest with ⟨-, -, hid⟩ | ⟨msgId, payload, -, -, hrest, -⟩
    · rw [hid]
      rfl
    · rw [if_pos hqos] at hrest
      rw [hrest, List.length_append, length_writeInt] at hshort
      omega

end

/-- A QoS 1 message with the topic `a`, the id 7 and the payload `b`. -/
theorem publish_eq_some_iff_short :
    publish 4 ⟨50⟩ [0, 1, 97, 0, 7, 98] = .ok (some ⟨⟨50⟩, [97], 7, [98], 4, .initializer⟩) ↔
      (⟨50⟩ : Header) = ⟨50⟩ ∧ 4 = 4 ∧ MQTTProperties.initializer = .initializer ∧
        [(97 : UInt8)].length < 65536 ∧ 7 < 65536 ∧ ((⟨50⟩ : Header).qos = 0 → 7 = 0) ∧
        [0, 1, 97, 0, 7, 98] = writeMQTTLenString [97] ++
          ((if 0 < (⟨50⟩ : Header).qos then writeInt (7 : ℕ) else []) ++ [98]) :=
  publish_eq_some_iff (show 4 < MQTTVERSION_5 by decide) ⟨50⟩ ⟨⟨50⟩, [97], 7, [98], 4, .initializer⟩

/-- The same message without its id and payload. -/
theorem publish_eq_error_iff_short :
    publish 4 ⟨50⟩ [0, 1, 97] = .error .overRun ↔
      Fault.overRun = .overRun ∧ 0 < (⟨50⟩ : Header).qos ∧ ∃ topic rest : List UInt8, topic.length < 65536 ∧
        rest.length < 2 ∧ [0, 1, 97] = writeMQTTLenString topic ++ rest :=
  publish_eq_error_iff (show 4 < MQTTVERSION_5 by decide) ⟨50⟩

/-! ### Acknowledgements are read back -/

/-- What is sent as an acknowledgement, read with the version `version`: before MQTT 5 the reason code is
not set. -/
def sentAck (header : Header) (msgid version : ℕ) : Ack :=
  ⟨header, some msgid, if version < MQTTVERSION_5 then none else some 0, version,
    if version < MQTTVERSION_5 then none else some .initializer⟩

theorem ack_writeInt {version msgid : ℕ} (hid : msgid < 65536) {header : Header}
    (htype : header.type ≠ DISCONNECT) :
    ack version header (writeInt msgid) = .ok (some (sentAck header msgid version)) := by
  have hid' : Reads (if header.type ≠ DISCONNECT then some <$> readInt else return none :
      Cursor (Option ℕ)) (writeInt msgid) (some msgid) := by
    rw [if_pos htype, map_eq_pure_bind]
    exact (reads_readInt hid).bind_nil (Reads.pure (some msgid))
  have h2 : ¬ 2 < (writeInt (msgid : ℤ)).length := Nat.lt_irrefl 2
  have h3 : ¬ 3 < (writeInt (msgid : ℤ)).length := by
    rw [length_writeInt]
    omega
  unfold ack sentAck
  show Except.map Prod.fst (StateT.run _ (writeInt msgid)) = _
  rw [if_neg h2, if_neg h3, ← List.append_nil (writeInt (msgid : ℤ)), hid'.run_bind]
  split_ifs
  · rfl
  · rfl

/-- **An acknowledgement that was sent is read as it was.** -/
theorem ack_sendAck {type msgid : ℕ} (htype : type < 16) (hdis : type ≠ DISCONNECT)
    (hid : msgid < 65536) (dup : Bool) (version : ℕ) :
    ∃ header data, sendAck type msgid dup = send header data ∧ header.type = type ∧
      header.dup = dup ∧ ack version header data = .ok (some (sentAck header msgid version)) := by
  have hqos : (if type = PUBREL then 1 else 0) < 4 := by
    split_ifs
    all_goals omega
  have ht := Header.type_ofBits htype hqos dup false
  exact ⟨_, _, rfl, ht, Header.dup_ofBits htype hqos _ _, ack_writeInt hid (by rw [ht]; exact hdis)⟩

/-! ### The table of packets -/

/-- What a function of `new_packets` builds. -/
inductive Built
  | connack (pack : Connack)
  | publish (pack : Publish)
  | ack (pack : Ack)
  | suback (pack : Suback)
  | unsuback (pack : Suback)
  | headerOnly (header : Header)
deriving DecidableEq

/-- What `MQTTPacket_Factory` makes of a whole packet. -/
inductive FactoryResult
  /-- The type is not in the table, and the packet is left out. -/
  | ignored
  /-- The packet is bad, which counts as a socket error. -/
  | bad
  | built (pack : Built)
deriving DecidableEq

/-- The result of a function of `new_packets`. -/
def resultOf {α : Type} (build : α → Built) : Except Fault (Option α) →
    Except Fault FactoryResult
  | .error e => .error e
  | .ok none => .ok .bad
  | .ok (some pack) => .ok (.built (build pack))

/-- The second half of `MQTTPacket_Factory`. -/
def newPacket (MQTTVersion : ℕ) (header : Header) (data : List UInt8) : Except Fault FactoryResult :=
  let ptype := header.type
  if MQTTVersion < MQTTVERSION_5 ∧ DISCONNECT ≤ ptype then .ok .ignored
  else if ptype = CONNACK then resultOf .connack (connack MQTTVersion header data)
  else if ptype = PUBLISH then resultOf .publish (publish MQTTVersion header data)
  else if ptype ∈ [PUBACK, PUBREC, PUBREL, PUBCOMP, DISCONNECT, AUTH] then
    resultOf .ack (ack MQTTVersion header data)
  else if ptype = SUBACK then resultOf .suback (suback MQTTVersion header data)
  else if ptype = UNSUBACK then resultOf .unsuback (unsuback MQTTVersion header data)
  else if ptype = PINGREQ ∨ ptype = PINGRESP then .ok (.built (.headerOnly header))
  else .ok .ignored

end OasisEdge.Mqtt.Packet
