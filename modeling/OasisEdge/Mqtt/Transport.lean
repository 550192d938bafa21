import OasisEdge.Mqtt.Writes

/-! # From one client to another

The messages of the QoS protocol, as they are sent (`Message.header`, `Message.data`) and as they
are built from what arrives (`Message.built`). Sent over a connection they are built in the order in
which they were sent, whatever the two kernels do (`run_messages`): for the protocol a connection is
a queue of messages, until it breaks. -/

namespace OasisEdge.Mqtt.Transport

open OasisEdge.Lib OasisEdge.Mqtt.Bytes OasisEdge.Mqtt.Properties OasisEdge.Mqtt.Packet

/-- A PUBLISH, or one of its acknowledgements. -/
inductive Message
  | publish (pack : Publish) (dup : Bool) (qos : ℕ) (retained : Bool)
  | ack (type msgid : ℕ) (dup : Bool)

/-- The header that `MQTTPacket_send_publish` and `MQTTPacket_send_ack` send. -/
def Message.header : Message → Header
  | .publish _ dup qos retained => .ofBits PUBLISH dup qos retained
  | .ack type _ dup => .ofBits type dup (if type = PUBREL then 1 else 0) false

def Message.data : Message → List UInt8
  | .publish pack _ qos _ => publishBuffers pack qos
  | .ack _ msgid _ => writeInt msgid

theorem send_message (m : Message) : send m.header m.data = match m with
    | .publish pack dup qos retained => sendPublish pack dup qos retained
    | .ack type msgid dup => sendAck type msgid dup := by
  rcases m with ⟨pack, dup, qos, retained⟩ | ⟨type, msgid, dup⟩
  · rfl
  · rfl

def Message.built (version : ℕ) (m : Message) : Built :=
  match m with
  | .publish pack _ qos _ =>
    .publish { pack with header := m.header, msgId := if 0 < qos then pack.msgId else 0 }
  | .ack _ msgid _ => .ack (sentAck m.header msgid version)

/-- Messages as the protocol sends them. -/
def Message.Sound (version : ℕ) : Message → Prop
  | .publish pack _ qos _ => pack.Sound ∧ pack.MQTTVersion = version ∧ qos ≤ 2
  | .ack type msgid _ => type ∈ [PUBACK, PUBREC, PUBREL, PUBCOMP] ∧ msgid < 65536

/-- **A message that arrives is built as it was sent.** -/
theorem newPacket_message {version : ℕ} {m : Message} (h : m.Sound version) :
    newPacket version m.header m.data = .ok (.built (m.built version)) := by
  rcases m with ⟨pack, dup, qos, retained⟩ | ⟨type, msgid, dup⟩
  · obtain ⟨hpack, rfl, hqos⟩ := h
    have htype := Header.type_ofBits (t := PUBLISH) (by decide) (show qos < 4 by omega) dup retained
    have hq := Header.qos_ofBits (t := PUBLISH) (by decide) (show qos < 4 by omega) dup retained
    have hread := publish_publishBuffers hpack (.ofBits PUBLISH dup qos retained)
    rw [hq] at hread
    unfold newPacket Message.header Message.data
    simp only
    rw [htype, if_neg fun h => absurd h.2 (by decide), if_neg (by decide), if_pos rfl, hread]
    rfl
  · obtain ⟨htype, hid⟩ := h
    have hlt : type < 16 ∧ ¬ DISCONNECT ≤ type ∧ type ≠ CONNACK ∧ type ≠ PUBLISH := by
      simp only [List.mem_cons, List.not_mem_nil, or_false] at htype
      rcases htype with rfl | rfl | rfl | rfl
      all_goals decide
    have hqos : (if type = PUBREL then 1 else 0) < 4 := by
      split_ifs
      all_goals omega
    have ht := Header.type_ofBits hlt.1 hqos dup false
    have hmem : type ∈ [PUBACK, PUBREC, PUBREL, PUBCOMP, DISCONNECT, AUTH] := by
      rw [show [PUBACK, PUBREC, PUBREL, PUBCOMP, DISCONNECT, AUTH] =
        [PUBACK, PUBREC, PUBREL, PUBCOMP] ++ [DISCONNECT, AUTH] from rfl]
      exact List.mem_append_left _ htype
    have hdis : (Header.ofBits type dup (if type = PUBREL then 1 else 0) false).type ≠
      DISCONNECT := by
      rw [ht]
      exact fun h => hlt.2.1 (le_of_eq h.symm)
    unfold newPacket Message.header Message.data
    simp only
    rw [ht, if_neg fun h => hlt.2.1 h.2, if_neg hlt.2.2.1, if_neg hlt.2.2.2, if_pos hmem,
      ack_writeInt hid hdis]
    rfl

/-- `MQTTPacket_Factory` for the bytes of a message. -/
def Message.factory (version : ℕ) (m : Message) : Except Fault FactoryResult :=
  match Stream.frame.run (send m.header m.data) with
  | .ok (some (header, data), _) => newPacket version header data
  | _ => .ok .bad

theorem factory_message {version : ℕ} {m : Message} (h : m.Sound version)
    (hlen : m.data.length ≤ MAX_REMAINING_LENGTH) : m.factory version =
    .ok (.built (m.built version)) := by
  have hread := Delivery.reads_send m.header hlen []
  rw [List.append_nil] at hread
  unfold Message.factory
  rw [hread]
  exact newPacket_message h

/-- **Messages that are sent over a connection are built in their order**, each as it was sent:
those at the start of what was sent, and all of them once everything has been taken and read. -/
theorem run_messages (version : ℕ) {writes : List Writes.Act} (hwrites : ∀ a ∈ writes, a.Kept)
    {reads : List Delivery.Act}
    (hreads : Runs.Meets Delivery.step Delivery.Orderly Delivery.start reads) :
    ∃ c n out out', Runs.exec Writes.step Writes.start writes = .ok (c, out) ∧
      Runs.exec Delivery.step Delivery.start reads = .ok (n, out') ∧
      ∀ s s' (ms : List Message),
      (∀ m ∈ ms, m.Sound version ∧ m.data.length ≤ MAX_REMAINING_LENGTH) →
        c.accepted s = ms.map (fun m => (m.header, m.data)) →
        (n.connections s').sent = (c.sockets.channels s).taken →
        ∃ k, (n.connections s').packets.map (fun p => newPacket version p.1 p.2) =
            (ms.take k).map (fun m => .ok (.built (m.built version))) ∧
          ((c.sockets.channels s).broken = false → Writes.noPendingWrites c.sockets s = true →
            (n.connections s').isOpen = true → (n.connections s').failed = false →
            (n.connections s').input = [] → ms.length ≤ k) := by
  obtain ⟨c, out, hwrites, hc⟩ := Writes.Sound.run hwrites
  obtain ⟨n, out', hreads, hn⟩ := Delivery.Sound.run hreads
  refine ⟨c, n, out, out', hwrites, hreads, fun s s' ms hms haccepted hsent => ?_⟩
  have hlen : ∀ p ∈ c.accepted s, p.2.length ≤ MAX_REMAINING_LENGTH := by
    intro p hp
    rw [haccepted] at hp
    obtain ⟨m, hm, rfl⟩ := List.mem_map.mp hp
    exact (hms m hm).2
  obtain ⟨hpackets, hcomplete⟩ := hc.channel hn hlen hsent
  refine ⟨(n.connections s').packets.length, ?_, fun hgood hno hopen hread hinput => ?_⟩
  · have htake := List.prefix_iff_eq_take.mp hpackets
    rw [haccepted, ← List.map_take] at htake
    calc (n.connections s').packets.map (fun p => newPacket version p.1 p.2)
        = ((ms.take (n.connections s').packets.length).map fun m => (m.header, m.data)).map
            (fun p => newPacket version p.1 p.2) := congrArg _ htake
      _ = (ms.take (n.connections s').packets.length).map
        (fun m => .ok (.built (m.built version))) := by
          rw [List.map_map]
          exact List.map_congr_left fun m hm =>
            newPacket_message (hms m (List.mem_of_mem_take hm)).1
  · rw [hcomplete hgood hno hopen hread hinput, haccepted, List.length_map]

theorem run_messages_two : ∃ c n out out',
    Runs.exec Writes.step Writes.start [.connect 1,
      .publish 1 ⟨⟨0⟩, [116], 7, [1], 5, .initializer⟩ 1 false (.wrote 6),
      .continueWrite 1 (.wrote 2),
      .continueWrite 1 (.wrote 9), .send 1 ⟨64⟩ (some [0, 7]) (.wrote 4)] = .ok (c, out) ∧
    Runs.exec Delivery.step Delivery.start [.connect 4 [50, 7, 0, 1, 116, 0, 7, 0, 1, 64, 2, 0, 7],
      .read 4 [.got 0, .got 0, .got 2], .read 4 [.got 9], .read 4 [.got 0, .got 0, .got 1]] =
      .ok (n, out') ∧
    ∀ s s' (ms : List Message), (∀ m ∈ ms, m.Sound 5 ∧ m.data.length ≤ MAX_REMAINING_LENGTH) →
      c.accepted s = ms.map (fun m => (m.header, m.data)) →
      (n.connections s').sent = (c.sockets.channels s).taken →
      ∃ k, (n.connections s').packets.map (fun p => newPacket 5 p.1 p.2) =
          (ms.take k).map (fun m => .ok (.built (m.built 5))) ∧
        ((c.sockets.channels s).broken = false → Writes.noPendingWrites c.sockets s = true →
          (n.connections s').isOpen = true → (n.connections s').failed = false →
          (n.connections s').input = [] → ms.length ≤ k) :=
  run_messages 5 (by decide) (by decide +kernel)

end OasisEdge.Mqtt.Transport
