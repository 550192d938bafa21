import OasisEdge.Mqtt.Protocol
import OasisEdge.Lib.Handshake
import OasisEdge.Lib.Runs

/-! # The QoS protocol between two clients

Both sides of a connection run the handlers of `Protocol`. A connection is a queue of packets each
way, as `Transport.run_messages` has it, and a packet is built from its bytes when it is read. Also a
QoS 0 message of MQTT 5 that is written in part is taken to go on as it was (compare
`Writes.continueWrite_freed`). The connection can be closed on either side at any time, and a new one
is opened, on which each side sends again what is in flight. Sessions are kept over the connections.

For each direction and each message id the two sides and the queues are a line of `Lib.Handshake`
(`line`), and every step of the system is a move of the lines (`Moves`). So a message of QoS 2 is
handed on once at most and is kept until then, whatever the order of the steps (`exactly_once`). -/

namespace OasisEdge.Mqtt.Exchange

open OasisEdge.Lib OasisEdge.Lib.Handshake OasisEdge.Mqtt.MessageIds OasisEdge.Mqtt.Packet
open OasisEdge.Mqtt.Transport OasisEdge.Mqtt.Protocol
open OasisEdge.Mqtt.Properties (MQTTProperties)
open OasisEdge.Mqtt.Writes (Rc)

/-- What a message carries from one application to the other. -/
structure Content where
  qos : ℕ
  topic : List UInt8
  payload : List UInt8
  retained : Bool
  properties : MQTTProperties
deriving DecidableEq

/-- What an application was given. -/
def arrivedContent (m : AsyncMessage) : Content :=
  ⟨m.qos, m.topicName, m.payload, m.retained, m.properties⟩

/-- What is stored of a message. -/
def storedContent (m : Messages) (p : Publications) : Content :=
  ⟨m.qos, p.topic, p.payload, m.retain, m.properties⟩

/-- Two clients, and what each has accepted from its application. -/
structure System where
  clients : Bool → Clients
  accepted : Bool → List Content

/-- What happens. -/
inductive Act
  /-- The application publishes a message. -/
  | publish (side : Bool) (topicName payload : List UInt8) (qos : ℕ) (retained : Bool)
      (properties : MQTTProperties) (clock : ℤ) (answer : Rc)
  /-- The next packet of the other side is read and handled. -/
  | receive (side : Bool) (clock : ℤ) (answer : Rc)
  | writeComplete (side written : Bool)
  /-- `MQTTAsync_retry`. -/
  | retry (side : Bool) (now clock : ℤ) (doRetry : Bool) (answers : List Rc)
  | closeSession (side : Bool)
  /-- A new connection takes the place of the one there was. -/
  | connect
  /-- The side reads the CONNACK, which has the session present. -/
  | completeConnection (side : Bool) (clock : ℤ) (answers : List Rc)

/-- A client in its new state. -/
def System.set (s : System) (side : Bool) (c : Clients) : System :=
  { s with clients := Function.update s.clients side c }

/-- A client whose connection is replaced. -/
def reconnected (c : Clients) : Clients :=
  { c with connected := false, waiting := true, sent := [], pendingWrite := none }

/-- A message that the client of a side accepts. -/
def System.published (s : System) (side : Bool) (x : Content) (r : Clients × Bool) : System :=
  { s.set side r.1 with
    accepted := Function.update s.accepted side (s.accepted side ++ if r.2 then [x] else []) }

/-- The next packet for a side is read. -/
def System.received (s : System) (side : Bool) (rest : List Message) (c : Clients) : System :=
  (s.set (!side) { s.clients !side with sent := rest }).set side c

/-- The next packet for a side is built from its bytes and handled, if the side is connected. One
that cannot be built is left out; that the connection is then closed is a step of its own. -/
def System.receive (s : System) (side : Bool) (clock : ℤ) (answer : Rc) : Except Fault System :=
  let c := s.clients side
  match (s.clients !side).sent with
  | [] => .ok s
  | m :: rest =>
    if c.connected then
      match m.factory c.MQTTVersion with
      | .error e => .error (.packet e)
      | .ok (.built pack) => (c.handle pack clock answer).map fun r => s.received side rest r.1
      | .ok _ => .ok (s.received side rest c)
    else .ok s

/-- One step. -/
def step (s : System) : Act → Except Fault (System × List Unit)
  | .publish side topicName payload qos retained properties clock answer =>
    let c := s.clients side
    (c.publish5 topicName payload qos retained properties clock answer).map fun r =>
      (s.published side ⟨qos, topicName, payload, retained,
        versionProperties c.MQTTVersion properties⟩ r, [])
  | .receive side clock answer => (s.receive side clock answer).map fun s' => (s', [])
  | .writeComplete side written => .ok (s.set side ((s.clients side).writeComplete written), [])
  | .retry side now clock doRetry answers =>
    ((s.clients side).retry now clock doRetry false answers).map fun c => (s.set side c, [])
  | .closeSession side => .ok (s.set side (s.clients side).closeSession, [])
  | .connect => .ok ({ s with clients := fun side => reconnected (s.clients side) }, [])
  | .completeConnection side clock answers =>
    ((s.clients side).completeConnection true clock answers).map fun c => (s.set side c, [])

/-! ### The lines -/

/-- What a client has on its way, what is written in part included. -/
def out (c : Clients) : List Message := c.sent ++ c.pendingWrite.toList

/-- What the sender of a message of QoS 2 is at. -/
def sendingOf (m : Option Messages) : Sending Content :=
  match m with
  | none => .idle
  | some m =>
    match m.publish with
    | none => .idle
    | some p =>
      if m.qos = 2 then
        if m.nextMessageType = some PUBREC then .offered (storedContent m p)
        else .released (storedContent m p)
      else .idle

/-- What is held of a message. -/
def heldOf (m : Messages) : Option Content := m.publish.map (storedContent m)

/-- A packet with the message id, as one from the sender. -/
def forthOf (msgid : ℕ) : Message → Option (Forth Content)
  | .publish pack _ qos retained =>
    if qos = 2 ∧ pack.msgId = msgid then
      some (.offer ⟨qos, pack.topic, pack.payload, retained, pack.properties⟩)
    else none
  | .ack type id _ => if type = PUBREL ∧ id = msgid then some .release else none

/-- A packet with the message id, as one from the receiver. -/
def backOf (msgid : ℕ) : Message → Option Back
  | .publish _ _ _ _ => none
  | .ack type id _ =>
    if id = msgid then
      if type = PUBREC then some .received else if type = PUBCOMP then some .completed else none
    else none

/-- The line of a message id from one client to another. -/
def line (sender receiver : Clients) (msgid : ℕ) : Line Content where
  sending := sendingOf (findMsg msgid sender.outboundMsgs)
  held := (findMsg msgid receiver.inboundMsgs).map heldOf
  forth := (out sender).filterMap (forthOf msgid)
  back := (out receiver).filterMap (backOf msgid)

/-- From MQTT 5 on, messages are handed on before they are released. -/
def early (version : ℕ) : Bool := MQTTVERSION_5 ≤ version

/-- The contents of QoS 2. -/
def qos2 (l : List Content) : List Content := l.filter fun x => x.qos = 2

/-! ### What every client keeps -/

/-- A packet as the clients send it; `K` is what is known of what is published. -/
def InFlight (K : Content → Prop) (version : ℕ) : Message → Prop
  | .publish pack _ qos retained => pack.MQTTVersion = version ∧ qos ≤ 2 ∧ pack.msgId ≤ MAX_MSG_ID ∧
      (version < MQTTVERSION_5 → pack.properties = .initializer) ∧
      K ⟨qos, pack.topic, pack.payload, retained, pack.properties⟩
  | .ack type msgid dup => type ∈ [PUBACK, PUBREC, PUBREL, PUBCOMP] ∧
    msgid ≤ MAX_MSG_ID ∧ dup = false

/-- A message of `outboundMsgs`. -/
structure Stored (K : Content → Prop) (version : ℕ) (m : Messages) : Prop where
  sameVersion : m.MQTTVersion = version
  msgid_le : m.msgid ≤ MAX_MSG_ID
  properties : version < MQTTVERSION_5 → m.properties = .initializer
  publish : ∃ p, m.publish = some p ∧ K (storedContent m p)
  next : m.qos = 1 ∨ m.qos = 2 ∧
    (m.nextMessageType = some PUBREC ∨ m.nextMessageType = some PUBCOMP)

/-- A message of `inboundMsgs`. -/
structure Held (version : ℕ) (m : Messages) : Prop where
  sameVersion : m.MQTTVersion = version
  qos : m.qos = 2
  next : m.nextMessageType = some PUBREL
  publish : version < MQTTVERSION_5 → ∃ p, m.publish = some p
  properties : version < MQTTVERSION_5 → m.properties = .initializer

/-- A client whose session is kept. -/
structure SoundClient (K : Content → Prop) (version : ℕ) (c : Clients) : Prop where
  sameVersion : c.MQTTVersion = version
  keeps : c.cleansession = false ∧ (MQTTVERSION_5 ≤ version → c.sessionExpiry ≠ 0)
  msgID_le : c.msgID ≤ MAX_MSG_ID
  msgID_zero : c.msgID = 0 → c.outboundMsgs = []
  outbound : Keyed.Distinct Messages.msgid c.outboundMsgs ∧ ∀ m ∈ c.outboundMsgs, Stored K version m
  inbound : Keyed.Distinct Messages.msgid c.inboundMsgs ∧ ∀ m ∈ c.inboundMsgs, Held version m
  out : ∀ m ∈ out c, InFlight K version m

variable {K : Content → Prop} {version : ℕ}

/-! ### Sending -/

/-- `c'` is `c` with `r` sent. -/
structure Sends (c c' : Clients) (r : List Message) : Prop where
  out : out c' = out c ++ r
  rest : c' = { c with sent := c'.sent, pendingWrite := c'.pendingWrite, good := c'.good }

theorem send_sends (c : Clients) (m : Message) (answer : Rc) :
    ∃ r, (r = [] ∨ r = [m]) ∧ Sends c (c.send m answer).1 r ∧
    (r = [] → (c.send m answer).2 = .error) := by
  unfold Clients.send
  split_ifs with hno
  · have hnone : c.pendingWrite = none := Option.isNone_iff_eq_none.mp hno
    have hout : out c = c.sent := by
      unfold out
      rw [hnone]
      exact List.append_nil _
    rcases answer with _ | _ | _
    · refine ⟨[m], .inr rfl, ⟨?_, rfl⟩, nofun⟩
      rw [hout]
      unfold out
      rw [hnone]
      exact List.append_nil _
    · refine ⟨[m], .inr rfl, ⟨?_, rfl⟩, nofun⟩
      rw [hout]
      rfl
    · exact ⟨[], .inl rfl, ⟨(List.append_nil _).symm, rfl⟩, fun _ => rfl⟩
  · exact ⟨[], .inl rfl, ⟨(List.append_nil _).symm, rfl⟩, fun _ => rfl⟩

namespace Sends

variable {c c' : Clients} {r : List Message} (h : Sends c c' r)
include h

theorem outboundMsgs : c'.outboundMsgs = c.outboundMsgs := by rw [h.rest]

theorem inboundMsgs : c'.inboundMsgs = c.inboundMsgs := by rw [h.rest]

theorem arrived : c'.arrived = c.arrived := by rw [h.rest]

theorem sound (hc : SoundClient K version c) (hr : ∀ m ∈ r, InFlight K version m) :
    SoundClient K version c' := by
  have hout : ∀ m ∈ Exchange.out c', InFlight K version m := by
    rw [h.out]
    exact fun m hm => (List.mem_append.mp hm).elim (hc.out m) (hr m)
  rw [h.rest] at hout ⊢
  exact ⟨hc.sameVersion, hc.keeps, hc.msgID_le, hc.msgID_zero, hc.outbound, hc.inbound, hout⟩

end Sends

/-! ### Moves of the lines -/

/-- One line moves and the others lose packets at most. -/
def Moves (early : Bool) (sender receiver sender' receiver' : Clients) (a d : List Content) :
    Prop :=
  ∃ k ≤ MAX_MSG_ID, Step early (line sender receiver k) (line sender' receiver' k) a d ∧
    ∀ j, j ≠ k → Step early (line sender receiver j) (line sender' receiver' j) [] []

theorem moves_of_step {early : Bool} {c p c' p' : Clients}
    (h : ∀ j, Step early (line c p j) (line c' p' j) [] []) : Moves early c p c' p' [] [] :=
  ⟨0, Nat.zero_le _, h 0, fun j _ => h j⟩

/-- What is passed on to the application, of QoS 2. -/
def arrived2 (c : Clients) : List Content := qos2 (c.arrived.map arrivedContent)

/-- A turn of a client `c` beside another one, `p`: what it does as a sender, and as a receiver. -/
structure Turn (early : Bool) (c p c' p' : Clients) (a d : List Content) : Prop where
  sender : Moves early c p c' p' a []
  receiver : Moves early p c p' c' [] d
  arrived : arrived2 c' = arrived2 c ++ d
  other : p'.arrived = p.arrived

theorem filterMap_append_none {β : Type} {f : Message → Option β} (l : List Message)
    {r : List Message} (h : ∀ m ∈ r, f m = none) : (l ++ r).filterMap f = l.filterMap f := by
  rw [List.filterMap_append, List.filterMap_eq_nil_iff.mpr h, List.append_nil]

theorem backOf_publish (j : ℕ) (pack : Publish) (dup : Bool) (qos : ℕ) (retained : Bool) :
    backOf j (.publish pack dup qos retained) = none := rfl

theorem backOf_ack {type : ℕ} (hrec : type ≠ PUBREC) (hcomp : type ≠ PUBCOMP) (j id : ℕ)
    (dup : Bool) :
    backOf j (.ack type id dup) = none := by
  unfold backOf
  simp only
  rw [if_neg hrec, if_neg hcomp, ite_self]

theorem backOf_pubrec (id : ℕ) (dup : Bool) : backOf id (.ack PUBREC id dup) = some .received :=
  (if_pos rfl).trans (if_pos rfl)

theorem backOf_pubcomp (id : ℕ) (dup : Bool) : backOf id (.ack PUBCOMP id dup) = some .completed :=
  (if_pos rfl).trans ((if_neg (by decide)).trans (if_pos rfl))

theorem forthOf_ack {type : ℕ} (h : type ≠ PUBREL) (j id : ℕ) (dup : Bool) :
    forthOf j (.ack type id dup) = none := if_neg fun hand => h hand.1

/-- What is sent of an answer of the receiver is `r`: nothing, or the packet. -/
theorem answer_frame (K : Content → Prop) (version : ℕ) {type id : ℕ}
    (htype : type ∈ [PUBACK, PUBREC, PUBREL, PUBCOMP]) (hrel : type ≠ PUBREL)
    (hid : id ≤ MAX_MSG_ID) {r : List Message} (hr : r = [] ∨ r = [.ack type id false]) :
    (∀ y ∈ r, InFlight K version y) ∧ (∀ j, ∀ y ∈ r, forthOf j y = none) ∧
      (∀ j, j ≠ id → ∀ y ∈ r, backOf j y = none) ∧
      (r.filterMap (backOf id)).Sublist (backOf id (.ack type id false)).toList := by
  rcases hr with rfl | rfl
  · exact ⟨fun _ h => absurd h List.not_mem_nil, fun _ _ h => absurd h List.not_mem_nil,
      fun _ _ _ h => absurd h List.not_mem_nil, List.nil_sublist _⟩
  · refine ⟨fun y hy => ?_, fun j y hy => ?_, fun j hj y hy => ?_, ?_⟩
    · rw [List.mem_singleton.mp hy]
      exact ⟨htype, hid, rfl⟩
    · rw [List.mem_singleton.mp hy]
      exact forthOf_ack hrel _ _ _
    · rw [List.mem_singleton.mp hy]
      exact if_neg hj.symm
    · rw [List.filterMap_cons]
      rcases backOf id (.ack type id false) with _ | b
      · exact List.Sublist.refl _
      · exact List.Sublist.refl _

theorem forthOf_publish_of_ne {qos : ℕ} (h : qos ≠ 2) (j : ℕ) (pack : Publish)
    (dup retained : Bool) :
    forthOf j (.publish pack dup qos retained) = none := if_neg fun hand => h hand.1

/-! ### Frames -/

theorem qos2_singleton (x : Content) : qos2 [x] = if x.qos = 2 then [x] else [] := by
  unfold qos2
  rw [List.filter_cons]
  simp only [decide_eq_true_eq, List.filter_nil]

theorem qos2_append (l l' : List Content) : qos2 (l ++ l') = qos2 l ++ qos2 l' :=
  List.filter_append _ _

theorem versionProperties_of_lt {version : ℕ} {properties : MQTTProperties}
    (h : version < MQTTVERSION_5) :
    versionProperties version properties = .initializer := if_neg (Nat.not_le_of_lt h)

theorem versionProperties_idem (version : ℕ) (properties : MQTTProperties) :
    versionProperties version (versionProperties version properties) =
      versionProperties version properties := by
  unfold versionProperties
  split_ifs
  · rfl
  · rfl

theorem Sends.refl (c : Clients) : Sends c c [] := ⟨(List.append_nil _).symm, rfl⟩

/-- A turn in which the client changes nothing but what it has sent, and sends nothing of QoS 2. -/
theorem turn_of_sends {early : Bool} {c c' : Clients} (p : Clients) {r : List Message}
    (h : Sends c c' r) (hforth : ∀ j, ∀ m ∈ r, forthOf j m = none)
    (hback : ∀ j, ∀ m ∈ r, backOf j m = none) :
    Turn early c p c' p [] [] := by
  refine ⟨moves_of_step fun j => .lose ?_ rfl ?_ (List.Sublist.refl _),
    moves_of_step fun j => .lose rfl ?_ (List.Sublist.refl _) ?_, ?_, rfl⟩
  · show sendingOf (findMsg j c'.outboundMsgs) = _
    rw [h.outboundMsgs]
    rfl
  · show (List.filterMap _ (out c')).Sublist _
    rw [h.out, filterMap_append_none _ (hforth j)]
    exact List.Sublist.refl _
  · show (findMsg j c'.inboundMsgs).map _ = _
    rw [h.inboundMsgs]
    rfl
  · show (List.filterMap _ (out c')).Sublist _
    rw [h.out, filterMap_append_none _ (hback j)]
    exact List.Sublist.refl _
  · unfold arrived2
    rw [h.arrived, List.append_nil]

theorem turn_refl {early : Bool} (c p : Clients) : Turn early c p c p [] [] :=
  turn_of_sends p (.refl c) (fun _ _ h => absurd h List.not_mem_nil) fun _ _ h =>
    absurd h List.not_mem_nil

theorem turn_of_lost {early : Bool} {c c' : Clients} (p : Clients)
    (houtbound : ∀ j, sendingOf (findMsg j c'.outboundMsgs) = sendingOf (findMsg j c.outboundMsgs))
    (hinbound : c'.inboundMsgs = c.inboundMsgs) (hout : (out c').Sublist (out c))
    (harrived : c'.arrived = c.arrived) : Turn early c p c' p [] [] := by
  refine ⟨moves_of_step fun j => .lose (houtbound j) rfl (hout.filterMap _) (List.Sublist.refl _),
    moves_of_step fun j => .lose rfl ?_ (List.Sublist.refl _) (hout.filterMap _), ?_, rfl⟩
  · show (findMsg j c'.inboundMsgs).map _ = _
    rw [hinbound]
    rfl
  · unfold arrived2
    rw [harrived, List.append_nil]

theorem SoundClient.lost {c c' : Clients} (hc : SoundClient K version c)
    (hout : (Exchange.out c').Sublist (Exchange.out c))
    (hrest : c' = { c with
      connected := c'.connected, good := c'.good, waiting := c'.waiting, sent := c'.sent,
      pendingWrite := c'.pendingWrite }) : SoundClient K version c' := by
  have hin : ∀ m ∈ Exchange.out c', InFlight K version m := fun m hm => hc.out m (hout.subset hm)
  rw [hrest] at hin ⊢
  exact ⟨hc.sameVersion, hc.keeps, hc.msgID_le, hc.msgID_zero, hc.outbound, hc.inbound, hin⟩

theorem Turn.of_eq {early : Bool} {c c₂ p c' p' : Clients} {a d : List Content}
    (h : Turn early c₂ p c' p' a d) (hsender : ∀ j, line c₂ p j = line c p j)
    (hreceiver : ∀ j, line p c₂ j = line p c j) (harrived : c₂.arrived = c.arrived) :
    Turn early c p c' p' a d := by
  obtain ⟨⟨k, hk, hstep, hother⟩, ⟨k', hk', hstep', hother'⟩, harr, hp⟩ := h
  refine ⟨⟨k, hk, hsender k ▸ hstep, fun j hj => hsender j ▸ hother j hj⟩,
    ⟨k', hk', hreceiver k' ▸ hstep', fun j hj => hreceiver j ▸ hother' j hj⟩, ?_, hp⟩
  unfold arrived2 at harr ⊢
  rw [← harrived]
  exact harr

/-- The other client, once its next packet was read. -/
def read (p : Clients) (rest : List Message) : Clients := { p with sent := rest }

theorem out_read {p : Clients} {m : Message} {rest : List Message} (h : p.sent = m :: rest) :
    out p = m :: out (read p rest) := by
  unfold out read
  rw [h]
  rfl

theorem turn_of_read {early : Bool} {c c' p : Clients} {m : Message} {rest r : List Message}
    (hm : p.sent = m :: rest) (h : Sends c c' r) (hforth : ∀ j, ∀ x ∈ r, forthOf j x = none)
    (hback : ∀ j, ∀ x ∈ r, backOf j x = none) : Turn early c p c' (read p rest) [] [] := by
  have hsub : (out (read p rest)).Sublist (out p) := by
    rw [out_read hm]
    exact List.sublist_cons_self _ _
  refine ⟨moves_of_step fun j => .lose ?_ rfl ?_ (hsub.filterMap _),
    moves_of_step fun j => .lose rfl ?_ (hsub.filterMap _) ?_, ?_, rfl⟩
  · show sendingOf (findMsg j c'.outboundMsgs) = _
    rw [h.outboundMsgs]
    rfl
  · show (List.filterMap _ (out c')).Sublist _
    rw [h.out, filterMap_append_none _ (hforth j)]
    exact List.Sublist.refl _
  · show (findMsg j c'.inboundMsgs).map _ = _
    rw [h.inboundMsgs]
    rfl
  · show (List.filterMap _ (out c')).Sublist _
    rw [h.out, filterMap_append_none _ (hback j)]
    exact List.Sublist.refl _
  · unfold arrived2
    rw [h.arrived, List.append_nil]

/-- A turn in which only the receiving half of the client changes: a packet of the sender is read,
and what is sent goes back. -/
theorem turn_of_receiver {early : Bool} {c c' p : Clients} {m : Message} {rest r : List Message}
    {d : List Content} {k : ℕ} (hm : p.sent = m :: rest) (hk : k ≤ MAX_MSG_ID)
    (houtbound : c'.outboundMsgs = c.outboundMsgs) (hout : out c' = out c ++ r)
    (harrived : arrived2 c' = arrived2 c ++ d) (hmback : ∀ j, backOf j m = none)
    (hrforth : ∀ j, ∀ x ∈ r, forthOf j x = none)
    (hstep : Step early (line p c k) (line (read p rest) c' k) [] d)
    (hother : ∀ j, j ≠ k → forthOf j m = none ∧ (∀ x ∈ r, backOf j x = none) ∧
      (findMsg j c'.inboundMsgs).map heldOf = (findMsg j c.inboundMsgs).map heldOf) :
    Turn early c p c' (read p rest) [] d := by
  refine ⟨moves_of_step fun j => .lose ?_ rfl ?_ ?_, ⟨k, hk, hstep, fun j hj => ?_⟩, harrived, rfl⟩
  · show sendingOf (findMsg j c'.outboundMsgs) = _
    rw [houtbound]
    rfl
  · show (List.filterMap _ (out c')).Sublist _
    rw [hout, filterMap_append_none _ (hrforth j)]
    exact List.Sublist.refl _
  · show (List.filterMap _ _).Sublist (List.filterMap _ (out p))
    rw [out_read hm, List.filterMap_cons_none (hmback j)]
  · obtain ⟨hmforth, hrback, hheld⟩ := hother j hj
    refine .lose rfl hheld ?_ ?_
    · show (List.filterMap _ _).Sublist (List.filterMap _ (out p))
      rw [out_read hm, List.filterMap_cons_none hmforth]
    · show (List.filterMap _ (out c')).Sublist _
      rw [hout, filterMap_append_none _ hrback]
      exact List.Sublist.refl _

/-- A turn in which only the sending half of the client changes. -/
theorem turn_of_sender {early : Bool} {c c' p : Clients} {m : Message} {rest r : List Message}
    {k : ℕ} (hm : p.sent = m :: rest) (hk : k ≤ MAX_MSG_ID)
    (hinbound : c'.inboundMsgs = c.inboundMsgs) (hout : out c' = out c ++ r)
    (harrived : c'.arrived = c.arrived) (hmforth : ∀ j, forthOf j m = none)
    (hrback : ∀ j, ∀ x ∈ r, backOf j x = none)
    (hstep : Step early (line c p k) (line c' (read p rest) k) [] [])
    (hother : ∀ j, j ≠ k → backOf j m = none ∧ (∀ x ∈ r, forthOf j x = none) ∧
      sendingOf (findMsg j c'.outboundMsgs) = sendingOf (findMsg j c.outboundMsgs)) :
    Turn early c p c' (read p rest) [] [] := by
  refine ⟨⟨k, hk, hstep, fun j hj => ?_⟩, moves_of_step fun j => .lose rfl ?_ ?_ ?_, ?_, rfl⟩
  · obtain ⟨hmback, hrforth, hsending⟩ := hother j hj
    refine .lose hsending rfl ?_ ?_
    · show (List.filterMap _ (out c')).Sublist _
      rw [hout, filterMap_append_none _ hrforth]
      exact List.Sublist.refl _
    · show (List.filterMap _ _).Sublist (List.filterMap _ (out p))
      rw [out_read hm, List.filterMap_cons_none hmback]
  · show (findMsg j c'.inboundMsgs).map _ = _
    rw [hinbound]
    rfl
  · show (List.filterMap _ _).Sublist (List.filterMap _ (out p))
    rw [out_read hm, List.filterMap_cons_none (hmforth j)]
  · show (List.filterMap _ (out c')).Sublist _
    rw [hout, filterMap_append_none _ (hrback j)]
    exact List.Sublist.refl _
  · unfold arrived2
    rw [harrived, List.append_nil]

end OasisEdge.Mqtt.Exchange
