import OasisEdge.Mqtt.Transport
import OasisEdge.Mqtt.MessageIds
import OasisEdge.Lib.Keyed

/-! # The QoS protocol of a client

The two lists of a client: `outboundMsgs`, the messages it has sent that are not acknowledged, and
`inboundMsgs`, those of QoS 2 it has received that are not released; and the handlers of the packets
that change them.

What the handlers send goes to the socket, where a packet may be written whole, in part, or not at
all. A packet that is written in part blocks the socket until the rest is written.

The functions have their names without `MQTTProtocol_` and `MQTTAsync_`. -/

namespace OasisEdge.Mqtt.Protocol

open OasisEdge.Lib OasisEdge.Mqtt.MessageIds OasisEdge.Mqtt.Packet OasisEdge.Mqtt.Transport
open OasisEdge.Mqtt.Properties (MQTTProperties)
open OasisEdge.Mqtt.Writes (Rc)

inductive Fault
  /-- A member of a structure at NULL is used. -/
  | nullPointer
  /-- A loop has no end. -/
  | endless
  /-- A packet is read beyond its end, or otherwise badly. -/
  | packet (fault : Bytes.Fault)
deriving DecidableEq

structure Publications where
  topic : List UInt8
  payload : List UInt8
deriving DecidableEq

/-- `Messages`. Once a message was handed on, `publish` is NULL. Before MQTT 5 nothing sets
`properties`, and only QoS 2 sets `nextMessageType`. -/
structure Messages where
  qos : ℕ
  retain : Bool
  msgid : ℕ
  MQTTVersion : ℕ
  properties : MQTTProperties
  publish : Option Publications
  nextMessageType : Option ℕ
  lastTouch : ℤ
deriving DecidableEq

def Messages.emptied (m : Messages) : Messages := { m with publish := none }

def Messages.released (clock : ℤ) (m : Messages) : Messages :=
  { m with nextMessageType := some PUBCOMP, lastTouch := clock }

structure AsyncMessage where
  topicName : List UInt8
  payload : List UInt8
  qos : ℕ
  retained : Bool
  dup : Bool
  msgid : ℕ
  properties : MQTTProperties
deriving DecidableEq

/-- The properties of a message: before MQTT 5 it has none. -/
def versionProperties (MQTTVersion : ℕ) (properties : MQTTProperties) : MQTTProperties :=
  if MQTTVERSION_5 ≤ MQTTVersion then properties else .initializer

/-- `Clients`, with the other end of its socket. -/
structure Clients where
  MQTTVersion : ℕ
  cleansession : Bool
  sessionExpiry : ℕ
  retryInterval : ℤ
  maxInflightMessages : ℕ
  connected : Bool
  good : Bool
  /-- `connect_state` is `WAIT_FOR_CONNACK`. -/
  waiting : Bool
  msgID : ℕ
  outboundMsgs : List Messages
  inboundMsgs : List Messages
  /-- What was written and not yet read at the other end. -/
  sent : List Message
  /-- What is written in part. -/
  pendingWrite : Option Message
  /-- What `Protocol_processPublication` was given. -/
  arrived : List AsyncMessage

abbrev findMsg (msgid : ℕ) (l : List Messages) : Option Messages :=
  Keyed.find Messages.msgid msgid l

namespace Clients

def noPendingWrites (c : Clients) : Bool := c.pendingWrite.isNone

/-- `MQTTPacket_send_publish`, and `MQTTPacket_send_ack` for the acknowledgements; `answer` is what
comes of the write, if nothing blocks the socket. -/
def send (c : Clients) (m : Message) (answer : Rc) : Clients × Rc :=
  if c.noPendingWrites then
    match answer with
    | .complete => ({ c with sent := c.sent ++ [m] }, .complete)
    | .interrupted => ({ c with pendingWrite := some m }, .interrupted)
    | .error => (c, .error)
  else (c, .error)

def writeComplete (c : Clients) (written : Bool) : Clients :=
  { c with
    sent := if written then c.sent ++ c.pendingWrite.toList else c.sent
    pendingWrite := none }

def processPublication (c : Clients) (publish : Publish) : Clients :=
  { c with arrived := c.arrived ++ [{
      topicName := publish.topic
      payload := publish.payload
      qos := publish.header.qos
      retained := publish.header.retain
      dup := if publish.header.qos = 2 then false else publish.header.dup
      msgid := publish.msgId
      properties := versionProperties publish.MQTTVersion publish.properties }] }

/-! ### Sending -/

def createMessage (publish : Publish) (qos : ℕ) (retained : Bool) (clock : ℤ) : Messages where
  qos := qos
  retain := retained
  msgid := publish.msgId
  MQTTVersion := publish.MQTTVersion
  properties := versionProperties publish.MQTTVersion publish.properties
  publish := some ⟨publish.topic, publish.payload⟩
  nextMessageType := if qos = 2 then some PUBREC else none
  lastTouch := clock

def startPublish (c : Clients) (publish : Publish) (qos : ℕ) (retained : Bool) (clock : ℤ)
    (answer : Rc) :
    Clients × Rc :=
  if 0 < qos then
    let m := createMessage publish qos retained clock
    { c with outboundMsgs := c.outboundMsgs ++ [m] }.send
      (.publish { publish with properties := m.properties } false qos retained) answer
  else c.send (.publish publish false qos retained) answer

/-- `MQTTClient_publish5`, behind the wait for a place in `outboundMsgs` and for the socket, and the
check of the QoS in `MQTTAsync_send`; and whether the message was accepted. -/
def publish5 (c : Clients) (topicName payload : List UInt8) (qos : ℕ) (retained : Bool)
    (properties : MQTTProperties) (clock : ℤ) (answer : Rc) : Except Fault (Clients × Bool) :=
  if c.connected = false ∨ 2 < qos ∨ c.maxInflightMessages ≤ c.outboundMsgs.length ∨
      c.noPendingWrites = false then .ok (c, false)
  else
    let publish (msgid : ℕ) : Publish :=
      ⟨⟨0⟩, topicName, msgid, payload, c.MQTTVersion, versionProperties c.MQTTVersion properties⟩
    if qos = 0 then .ok ((c.startPublish (publish 0) qos retained clock answer).1, true)
    else
      match assignMsgId (fun id => (findMsg id c.outboundMsgs).isSome) c.msgID with
      | none => .error .endless
      | some 0 => .ok (c, false)
      | some msgid =>
        .ok (({ c with msgID := msgid }.startPublish (publish msgid) qos retained clock answer).1,
          true)

def handlePubacks (c : Clients) (msgId : ℕ) : Clients :=
  match findMsg msgId c.outboundMsgs with
  | none => c
  | some m =>
    if m.qos = 1 then
      { c with outboundMsgs := Keyed.remove Messages.msgid msgId c.outboundMsgs }
    else c

/-- `MQTTProtocol_handlePubrecs`. The write that fails changes the message all the same. -/
def handlePubrecs (c : Clients) (pubrec : Ack) (msgId : ℕ) (clock : ℤ) (answer : Rc) :
    Clients × Rc :=
  match findMsg msgId c.outboundMsgs with
  | none => (c, .complete)
  | some m =>
    if m.qos = 2 ∧ m.nextMessageType = some PUBREC then
      if MQTTVERSION_5 ≤ pubrec.MQTTVersion ∧ ∃ rc ∈ pubrec.rc, 128 ≤ rc.toNat then
        ({ c with outboundMsgs := Keyed.remove Messages.msgid msgId c.outboundMsgs }, .complete)
      else
        let (c, rc) := c.send (.ack PUBREL msgId false) answer
        ({ c with
            outboundMsgs := Keyed.change Messages.msgid msgId (.released clock) c.outboundMsgs }, rc)
    else (c, .complete)

def handlePubcomps (c : Clients) (msgId : ℕ) : Clients :=
  match findMsg msgId c.outboundMsgs with
  | none => c
  | some m =>
    if m.qos = 2 ∧ m.nextMessageType = some PUBCOMP then
      { c with outboundMsgs := Keyed.remove Messages.msgid msgId c.outboundMsgs }
    else c

/-! ### Receiving -/

def handedOn (m : Messages) (p : Publications) : Publish :=
  ⟨.ofBits 0 false m.qos m.retain, p.topic, m.msgid, p.payload, m.MQTTVersion, m.properties⟩

def inboundMessage (publish : Publish) : Messages where
  qos := publish.header.qos
  retain := publish.header.retain
  msgid := publish.msgId
  MQTTVersion := publish.MQTTVersion
  properties := versionProperties publish.MQTTVersion publish.properties
  publish := some ⟨publish.topic, publish.payload⟩
  nextMessageType := some PUBREL
  lastTouch := 0

/-- A message takes the place of one with the same id, or goes to the end of `inboundMsgs`. -/
def storeInbound (c : Clients) (m : Messages) : Clients :=
  if (findMsg m.msgid c.inboundMsgs).isSome then
    { c with inboundMsgs := Keyed.change Messages.msgid m.msgid (fun _ => m) c.inboundMsgs }
  else { c with inboundMsgs := c.inboundMsgs ++ [m] }

def handOver (c : Clients) (m : Messages) (p : Publications) : Clients :=
  let c := c.processPublication (handedOn m p)
  { c with inboundMsgs := Keyed.change Messages.msgid m.msgid Messages.emptied c.inboundMsgs }

/-- What `MQTTProtocol_handlePublishes` does with a message of QoS 2. From MQTT 5 on it is handed on
at once, and again only behind a release. -/
def receiveQoS2 (c : Clients) (publish : Publish) (answer : Rc) : Clients × Rc :=
  let m := inboundMessage publish
  let (c', rc) := (c.storeInbound m).send (.ack PUBREC publish.msgId false) answer
  (if MQTTVERSION_5 ≤ m.MQTTVersion ∧ findMsg m.msgid c.inboundMsgs = none then
    c'.handOver m ⟨publish.topic, publish.payload⟩ else c', rc)

def handlePublishes (c : Clients) (publish : Publish) (answer : Rc) : Clients × Rc :=
  if publish.header.qos = 0 then (c.processPublication publish, .complete)
  else if c.noPendingWrites = false then (c, .error)
  else if publish.header.qos = 1 then
    let (c, rc) := c.send (.ack PUBACK publish.msgId false) answer
    (c.processPublication publish, rc)
  else if publish.header.qos = 2 then c.receiveQoS2 publish answer
  else (c, .complete)

/-- `MQTTProtocol_handlePubrels`. A release of what is not held is answered only if it is marked as
a duplicate. -/
def handlePubrels (c : Clients) (pubrel : Ack) (msgId : ℕ) (answer : Rc) :
    Except Fault (Clients × Rc) :=
  match findMsg msgId c.inboundMsgs with
  | none =>
    if pubrel.header.dup = false then .ok (c, .complete)
    else if c.noPendingWrites = false then .ok (c, .error)
    else .ok (c.send (.ack PUBCOMP msgId false) answer)
  | some m =>
    if m.qos ≠ 2 ∨ m.nextMessageType ≠ some PUBREL then .ok (c, .complete)
    else if c.noPendingWrites = false then .ok (c, .error)
    else
      let (c, rc) := c.send (.ack PUBCOMP msgId false) answer
      let dropped (c : Clients) : Clients :=
        { c with inboundMsgs := Keyed.remove Messages.msgid msgId c.inboundMsgs }
      if MQTTVERSION_5 ≤ m.MQTTVersion then .ok (dropped c, rc)
      else
        match m.publish with
        | none => .error .nullPointer
        | some p => .ok (dropped (c.processPublication (handedOn m p)), rc)

/-- What `MQTTAsync_cycle` does with a packet of the QoS protocol. -/
def handle (c : Clients) (pack : Built) (clock : ℤ) (answer : Rc) : Except Fault (Clients × Rc) :=
  match pack with
  | .publish publish => .ok (c.handlePublishes publish answer)
  | .ack pack =>
    match pack.msgId with
    | none => .ok (c, .complete)
    | some msgId =>
      if pack.header.type = PUBACK then .ok (c.handlePubacks msgId, .complete)
      else if pack.header.type = PUBREC then .ok (c.handlePubrecs pack msgId clock answer)
      else if pack.header.type = PUBCOMP then .ok (c.handlePubcomps msgId, .complete)
      else if pack.header.type = PUBREL then c.handlePubrels pack msgId answer
      else .ok (c, .complete)
  | _ => .ok (c, .complete)

/-! ### Sending again -/

/-- The loop of `MQTTProtocol_retries` over `outboundMsgs`; the writes are answered in turn. -/
def retriesLoop (now clock : ℤ) (regardless : Bool) :
    Clients → List Messages → List Rc → Except Fault (Clients × List Messages)
  | c, [], _ => .ok (c, [])
  | c, m :: ms, answers =>
    let next (c : Clients) (m : Messages) (answers : List Rc) :
      Except Fault (Clients × List Messages) :=
      (retriesLoop now clock regardless c ms answers).map fun r => (r.1, m :: r.2)
    let answer := answers.headD .complete
    if ¬ (c.connected ∧ c.good ∧ c.noPendingWrites) then .ok (c, m :: ms)
    else if ¬ (regardless ∨ max c.retryInterval 10 < now - m.lastTouch) then next c m answers
    else if m.qos = 1 ∨ m.qos = 2 ∧ m.nextMessageType = some PUBREC then
      match m.publish with
      | none => .error .nullPointer
      | some p =>
        match c.send (.publish ⟨⟨0⟩, p.topic, m.msgid, p.payload, m.MQTTVersion,
          m.properties⟩ true m.qos
          m.retain) answer with
        | (c, .error) => .ok ({ c with good := false }, m :: ms)
        | (c, _) => next c { m with lastTouch := clock } answers.tail
    else if m.qos ≠ 0 ∧ m.nextMessageType = some PUBCOMP then
      match c.send (.ack PUBREL m.msgid false) answer with
      | (c, .complete) => next c { m with lastTouch := clock } answers.tail
      | (c, _) => .ok ({ c with good := false }, m :: ms)
    else next c m answers

def retries (c : Clients) (now clock : ℤ) (regardless : Bool) (answers : List Rc) :
    Except Fault Clients :=
  if regardless = false ∧ c.retryInterval ≤ 0 then .ok c
  else
    (retriesLoop now clock regardless c c.outboundMsgs answers).map fun r =>
      { r.1 with outboundMsgs := r.2 }

def retry (c : Clients) (now clock : ℤ) (doRetry regardless : Bool) (answers : List Rc) :
    Except Fault Clients :=
  if c.connected = false ∨ c.good = false ∨ c.noPendingWrites = false ∨ doRetry = false then .ok c
  else c.retries now clock regardless answers

/-! ### Connections -/

def cleanSession (c : Clients) : Clients :=
  { c with inboundMsgs := [], outboundMsgs := [], msgID := 0 }

/-- `MQTTAsync_closeSession`: what is written in part is lost. -/
def closeSession (c : Clients) : Clients :=
  let c := { c with good := false, connected := false, waiting := false, pendingWrite := none }
  if c.cleansession ∨ MQTTVERSION_5 ≤ c.MQTTVersion ∧ c.sessionExpiry = 0 then c.cleanSession else c

def MQTTVERSION_3_1_1 : ℕ := 4

/-- `MQTTAsync_completeConnection`, of a CONNACK with the return code 0. -/
def completeConnection (c : Clients) (sessionPresent : Bool) (clock : ℤ) (answers : List Rc) :
    Except Fault Clients :=
  if c.waiting then
    let c := { c with connected := true, good := true, waiting := false }
    let c : Clients :=
      if c.cleansession ∨ MQTTVERSION_3_1_1 ≤ c.MQTTVersion ∧ sessionPresent = false then
      c.cleanSession else c
    let c := { c with
      outboundMsgs := c.outboundMsgs.map fun m : Messages => { m with lastTouch := 0 } }
    c.retry 0 clock true true answers
  else .ok c

end Clients

end OasisEdge.Mqtt.Protocol
