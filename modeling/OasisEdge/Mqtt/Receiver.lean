import OasisEdge.Mqtt.Exchange

/-! # The receiving half of a client

What `MQTTProtocol_handlePublishes` and `MQTTProtocol_handlePubrels` do to the lines in which the
client is the receiver. A PUBLISH of QoS 2 is an offer that is held (`receiveQoS2_turn`), and a
PUBREL drops what is held (`handlePubrels_turn`); what is passed on is what was offered. -/

namespace OasisEdge.Mqtt.Exchange

open OasisEdge.Lib OasisEdge.Lib.Handshake OasisEdge.Mqtt.MessageIds OasisEdge.Mqtt.Packet
open OasisEdge.Mqtt.Transport OasisEdge.Mqtt.Protocol
open OasisEdge.Mqtt.Properties (MQTTProperties)
open OasisEdge.Mqtt.Writes (Rc)

variable {K : Content → Prop} {version : ℕ}

theorem SoundClient.processPublication {c : Clients} (hc : SoundClient K version c)
    (publish : Publish) :
    SoundClient K version (c.processPublication publish) :=
  ⟨hc.sameVersion, hc.keeps, hc.msgID_le, hc.msgID_zero, hc.outbound, hc.inbound, hc.out⟩

theorem arrived2_processPublication (c : Clients) (publish : Publish) :
    arrived2 (c.processPublication publish) = arrived2 c ++ qos2
    [⟨publish.header.qos, publish.topic,
      publish.payload, publish.header.retain,
      versionProperties publish.MQTTVersion publish.properties⟩] := by
  unfold arrived2 Clients.processPublication
  rw [List.map_append, qos2_append]
  rfl

theorem arrived2_handedOn (c : Clients) {m : Messages} (h : Held version m) (p : Publications)
    (hprops : versionProperties m.MQTTVersion m.properties = m.properties) :
    arrived2 (c.processPublication (Clients.handedOn m p)) = arrived2 c ++ [storedContent m p] := by
  have hqos : (Clients.handedOn m p).header.qos = 2 := by
    rw [← h.qos]
    exact Header.qos_ofBits (by decide) (by rw [h.qos]; decide) _ _
  have hretain : (Clients.handedOn m p).header.retain = m.retain :=
    Header.retain_ofBits (by decide) (by rw [h.qos]; decide) _ _
  rw [arrived2_processPublication, hqos, hretain, qos2_singleton, if_pos rfl]
  unfold storedContent
  rw [h.qos]
  show _ ++ [(⟨2, p.topic, p.payload, m.retain,
    versionProperties m.MQTTVersion m.properties⟩ : Content)] = _
  rw [hprops]

/-- A turn in which a packet is read, something is passed on that is not of QoS 2, and what is sent
is of no line. -/
theorem Turn.passOn {early : Bool} {c c' p p' : Clients} (h : Turn early c p c' p' [] [])
    {publish : Publish} (hqos : publish.header.qos ≠ 2) :
    Turn early c p (c'.processPublication publish) p' [] [] := by
  refine ⟨h.sender, h.receiver, ?_, h.other⟩
  rw [arrived2_processPublication, qos2_singleton, if_neg hqos, List.append_nil]
  exact h.arrived

/-! ### Offers -/

theorem held_inboundMessage {publish : Publish} (hqos : publish.header.qos = 2)
    (hversion : publish.MQTTVersion = version) : Held version (Clients.inboundMessage publish) := by
  refine ⟨hversion, hqos, rfl, fun _ => ⟨_, rfl⟩, fun h => ?_⟩
  show versionProperties publish.MQTTVersion _ = _
  rw [hversion]
  exact versionProperties_of_lt h

theorem Held.emptied {m : Messages} (h : Held version m) (hv : MQTTVERSION_5 ≤ version) :
    Held version m.emptied :=
  ⟨h.sameVersion, h.qos, h.next, fun hlt => absurd hv (Nat.not_le_of_lt hlt), h.properties⟩

theorem SoundClient.hold {c : Clients} (hc : SoundClient K version c) {l : List Messages}
    (hdistinct : Keyed.Distinct Messages.msgid l) (hl : ∀ m ∈ l, Held version m) :
    SoundClient K version { c with inboundMsgs := l } :=
  ⟨hc.sameVersion, hc.keeps, hc.msgID_le, hc.msgID_zero, hc.outbound, ⟨hdistinct, hl⟩, hc.out⟩

/-- **An offer is held**, and from MQTT 5 on it is handed on, unless it was held before. -/
theorem receiveQoS2_turn {c p : Clients} (hc : SoundClient K version c) {m : Message}
    {rest : List Message} (hm : p.sent = m :: rest) {publish : Publish}
    (hqos : publish.header.qos = 2) (hversion : publish.MQTTVersion = version)
    (hid : publish.msgId ≤ MAX_MSG_ID)
    (hprops : version < MQTTVERSION_5 → publish.properties = .initializer) {x : Content}
    (hx : x = ⟨2, publish.topic, publish.payload, publish.header.retain, publish.properties⟩)
    (hback : ∀ j, backOf j m = none)
    (hforth : ∀ j, forthOf j m = if publish.msgId = j then some (.offer x) else none)
    (answer : Rc) :
    ∃ d, Turn (early version) c p (c.receiveQoS2 publish answer).1 (read p rest) [] d ∧
      SoundClient K version (c.receiveQoS2 publish answer).1 := by
  have hheld : Held version (Clients.inboundMessage publish) := held_inboundMessage hqos hversion
  have hkeep : versionProperties publish.MQTTVersion publish.properties = publish.properties := by
    rw [hversion]
    unfold versionProperties
    split_ifs with hv
    · rfl
    · exact (hprops (Nat.lt_of_not_le hv)).symm
  have hxm : storedContent (Clients.inboundMessage publish) ⟨publish.topic,
    publish.payload⟩ = x := by
    rw [hx, ← hkeep, ← hqos]
    rfl
  have hforthk : (line p c publish.msgId).forth =
      .offer x :: (line (read p rest) c publish.msgId).forth := by
    show List.filterMap _ (out p) = _
    rw [out_read hm, List.filterMap_cons_some ((hforth _).trans (if_pos rfl))]
    rfl
  obtain ⟨r, hr, hsends, -⟩ := send_sends (c.storeInbound (Clients.inboundMessage publish))
    (.ack PUBREC publish.msgId false) answer
  obtain ⟨hrin, hrforth, hrback, hrk⟩ :=
    answer_frame K version (by simp) (by decide) hid hr
  rw [backOf_pubrec, Option.toList_some] at hrk
  have hturn : ∀ (c' : Clients) (y : Option Content) (d : List Content),
    c'.outboundMsgs = c.outboundMsgs →
      out c' = out c ++ r → arrived2 c' = arrived2 c ++ d →
      (∀ j, (findMsg j c'.inboundMsgs).map heldOf =
        if publish.msgId = j then some y else (findMsg j c.inboundMsgs).map heldOf) →
      ((line p c publish.msgId).held = none ∧ y = (if early version then none else some x) ∧
          d = (if early version then [x] else []) ∨
        (∃ z, (line p c publish.msgId).held = some z) ∧ y = some x ∧ d = []) →
      Turn (early version) c p c' (read p rest) [] d := by
    intro c' y d houtbound hout harrived hfound hcase
    have hbackk : (line (read p rest) c' publish.msgId).back.Sublist
        ((line p c publish.msgId).back ++ [.received]) := by
      show (List.filterMap _ (out c')).Sublist _
      rw [hout, List.filterMap_append]
      exact List.Sublist.append (List.Sublist.refl _) hrk
    have hheldk : (line (read p rest) c' publish.msgId).held = some y :=
      (hfound _).trans (if_pos rfl)
    refine turn_of_receiver hm hid houtbound hout harrived hback hrforth ?_ fun j hj =>
      ⟨(hforth j).trans (if_neg hj.symm), hrback j hj, (hfound j).trans (if_neg hj.symm)⟩
    rcases hcase with ⟨hnone, rfl, rfl⟩ | ⟨⟨z, hz⟩, rfl, rfl⟩
    · exact .hold hforthk hnone rfl hheldk (List.Sublist.refl _) hbackk
    · exact .holdAgain hforthk hz rfl hheldk (List.Sublist.refl _) hbackk
  set c₁ := (c.storeInbound (Clients.inboundMessage publish)).send
    (.ack PUBREC publish.msgId false) answer
  unfold Clients.storeInbound at hsends
  rcases hfind : findMsg (Clients.inboundMessage publish).msgid c.inboundMsgs with _ | y
  · rw [hfind, Option.isSome_none, if_neg (by decide)] at hsends
    have hnone : (line p c publish.msgId).held = none := congrArg (Option.map heldOf) hfind
    have hsound : SoundClient K version c₁.1 :=
      hsends.sound (hc.hold (hc.inbound.1.snoc hfind) fun m hm =>
      (List.mem_append.mp hm).elim (hc.inbound.2 m) fun h => List.mem_singleton.mp h ▸ hheld) hrin
    have hfound : ∀ j, findMsg j c₁.1.inboundMsgs = if publish.msgId = j then
        some (Clients.inboundMessage publish) else findMsg j c.inboundMsgs := by
      intro j
      rw [hsends.inboundMsgs]
      exact Keyed.find_snoc j _ _ hfind
    by_cases hv : MQTTVERSION_5 ≤ version
    · have hres : (c.receiveQoS2 publish answer).1 =
          c₁.1.handOver (Clients.inboundMessage publish) ⟨publish.topic, publish.payload⟩ := by
        rw [← hversion] at hv
        unfold Clients.receiveQoS2
        exact if_pos ⟨hv, hfind⟩
      have hearly : early version = true := decide_eq_true hv
      have harrived :=
        arrived2_handedOn c₁.1 hheld ⟨publish.topic, publish.payload⟩ (versionProperties_idem _ _)
      rw [hxm] at harrived
      rw [hres]
      refine ⟨[x], hturn _ none [x] hsends.outboundMsgs hsends.out ?_ (fun j => ?_)
        (.inl ⟨hnone, by rw [hearly]; rfl, by rw [hearly]; rfl⟩), ?_⟩
      · show arrived2 (c₁.1.processPublication _) = _
        rw [harrived]
        unfold arrived2
        rw [hsends.arrived]
      · have hkey : ∀ m : Messages, m.msgid = publish.msgId →
          m.emptied.msgid = publish.msgId := fun _ h => h
        show Option.map heldOf (Keyed.find Messages.msgid j
          (Keyed.change Messages.msgid publish.msgId Messages.emptied c₁.1.inboundMsgs)) = _
        rw [Keyed.find_change hkey, ← findMsg, ← findMsg, hfound, hfound, if_pos rfl]
        split_ifs
        · rfl
        · rfl
      · refine (hsound.processPublication _).hold (hsound.inbound.1.change fun _ h =>
          h) fun m hm => ?_
        rcases Keyed.mem_change hm with hm | ⟨z, hz, -, rfl⟩
        · exact hsound.inbound.2 m hm
        · exact (hsound.inbound.2 z hz).emptied hv
    · have hres : (c.receiveQoS2 publish answer).1 = c₁.1 := by
        rw [← hversion] at hv
        unfold Clients.receiveQoS2
        exact if_neg fun hand => hv hand.1
      have hearly : early version = false := decide_eq_false hv
      rw [hres]
      refine ⟨[], hturn _ (some x) [] hsends.outboundMsgs hsends.out ?_ (fun j => ?_)
        (.inl ⟨hnone, by rw [hearly]; rfl, by rw [hearly]; rfl⟩), hsound⟩
      · unfold arrived2
        rw [hsends.arrived, List.append_nil]
      · rw [hfound]
        split_ifs
        · rw [← hxm]
          rfl
        · rfl
  · rw [hfind, Option.isSome_some, if_pos rfl] at hsends
    have hres : (c.receiveQoS2 publish answer).1 = c₁.1 := by
      unfold Clients.receiveQoS2
      exact if_neg fun hand => Option.some_ne_none y (hfind.symm.trans hand.2)
    rw [hres]
    refine ⟨[], hturn _ (some x) [] hsends.outboundMsgs hsends.out ?_ (fun j => ?_)
      (.inr ⟨⟨heldOf y, congrArg (Option.map heldOf) hfind⟩, rfl, rfl⟩), hsends.sound (hc.hold
        (hc.inbound.1.change fun _ _ => rfl) fun m hm => ?_) hrin⟩
    · unfold arrived2
      rw [hsends.arrived, List.append_nil]
    · rw [hsends.inboundMsgs]
      show (Keyed.find _ j (Keyed.change _ _ _ c.inboundMsgs)).map heldOf = _
      rw [Keyed.find_change (fun _ _ => rfl), ← findMsg, ← findMsg, hfind]
      show (if publish.msgId = j then some (Clients.inboundMessage publish) else _).map heldOf = _
      split_ifs
      · rw [← hxm]
        rfl
      · rfl
    · rcases Keyed.mem_change hm with hm | ⟨z, -, -, rfl⟩
      · exact hc.inbound.2 m hm
      · exact hheld

theorem handlePublishes_turn {c p : Clients} (hc : SoundClient K version c) {rest : List Message}
    {pack : Publish} {dup retained : Bool} {qos : ℕ}
    (hm : p.sent = .publish pack dup qos retained :: rest)
    (hin : InFlight K version (.publish pack dup qos retained)) (answer : Rc) {publish : Publish}
    (hpublish : publish = { pack with
      header := Message.header (.publish pack dup qos retained)
      msgId := if 0 < qos then pack.msgId else 0 }) :
    ∃ d, Turn (early version) c p (c.handlePublishes publish answer).1 (read p rest) [] d ∧
      SoundClient K version (c.handlePublishes publish answer).1 := by
  obtain ⟨hversion, hle, hid, hprops, -⟩ := hin
  have hqos : publish.header.qos = qos := by
    rw [hpublish]
    exact Header.qos_ofBits (by decide) (by omega) _ _
  have hretain : publish.header.retain = retained := by
    rw [hpublish]
    exact Header.retain_ofBits (by decide) (by omega) _ _
  have hread : Turn (early version) c p c (read p rest) [] [] :=
    turn_of_read hm (.refl c) (fun _ _ h => absurd h List.not_mem_nil) fun _ _ h =>
      absurd h List.not_mem_nil
  unfold Clients.handlePublishes
  rw [hqos]
  split_ifs with h0 hno h1 h2
  · exact ⟨[], hread.passOn (by omega), hc.processPublication _⟩
  · exact ⟨[], hread, hc⟩
  · obtain ⟨r, hr, hsends, -⟩ := send_sends c (.ack PUBACK publish.msgId false) answer
    have hid' : publish.msgId ≤ MAX_MSG_ID := by
      rw [hpublish]
      simp only
      rw [if_pos (by omega)]
      exact hid
    obtain ⟨hrin, hrforth, -, -⟩ :=
      answer_frame K version (by simp) (by decide) hid' hr
    have hrback : ∀ j, ∀ y ∈ r, backOf j y = none := by
      intro j y hy
      rcases hr with rfl | rfl
      · cases hy
      · rw [List.mem_singleton.mp hy]
        exact backOf_ack (by decide) (by decide) _ _ _
    exact ⟨[], (turn_of_read hm hsends hrforth hrback).passOn (by omega),
      (hsends.sound hc hrin).processPublication _⟩
  · have hmsg : publish.msgId = pack.msgId := by
      rw [hpublish]
      exact if_pos (by omega)
    have htopic : publish.topic = pack.topic := by rw [hpublish]
    have hpayload : publish.payload = pack.payload := by rw [hpublish]
    have hproperties : publish.properties = pack.properties := by rw [hpublish]
    refine receiveQoS2_turn hc hm (hqos.trans h2) (by rw [hpublish]; exact hversion) (hmsg ▸ hid)
      (fun h => hproperties.trans (hprops h)) rfl (fun j => backOf_publish _ _ _ _ _)
      (fun j => ?_) answer
    rw [hmsg, htopic, hpayload, hproperties, hretain]
    unfold forthOf
    simp only
    rw [h2]
    split_ifs
    · rfl
    · rename_i hand hne
      exact absurd hand.2 hne
    · rename_i hand he
      exact absurd ⟨rfl, he⟩ hand
    · rfl
  · exact ⟨[], hread, hc⟩

/-! ### Releases -/

theorem handlePubrels_turn {c p : Clients} (hc : SoundClient K version c) {rest : List Message}
    {msgid : ℕ} (hm : p.sent = .ack PUBREL msgid false :: rest) (hid : msgid ≤ MAX_MSG_ID)
    {pubrel : Ack} (hdup : pubrel.header.dup = false) (answer : Rc) :
    ∃ c' rc d, c.handlePubrels pubrel msgid answer = .ok (c', rc) ∧
      Turn (early version) c p c' (read p rest) [] d ∧ SoundClient K version c' := by
  have hread : Turn (early version) c p c (read p rest) [] [] :=
    turn_of_read hm (.refl c) (fun _ _ h => absurd h List.not_mem_nil) fun _ _ h =>
      absurd h List.not_mem_nil
  unfold Clients.handlePubrels
  rcases hfind : findMsg msgid c.inboundMsgs with _ | m
  · exact ⟨c, .complete, [], if_pos hdup, hread, hc⟩
  · have hheld := hc.inbound.2 m (Keyed.mem_of_find hfind)
    simp only
    rw [if_neg (by rw [not_or, not_not, not_not]; exact ⟨hheld.qos, hheld.next⟩)]
    obtain ⟨r, hr, hsends, -⟩ := send_sends c (.ack PUBCOMP msgid false) answer
    obtain ⟨hrin, hrforth, hrback, hrk⟩ :=
      answer_frame K version (by simp) (by decide) hid hr
    rw [backOf_pubcomp, Option.toList_some] at hrk
    have hforth :
      ∀ j, forthOf j (.ack PUBREL msgid false) = if msgid = j then some .release else none := by
      intro j
      unfold forthOf
      simp only [true_and]
    have hturn : ∀ (c' : Clients) (d : List Content), c'.outboundMsgs = c.outboundMsgs →
        out c' = out c ++ r → arrived2 c' = arrived2 c ++ d →
        c'.inboundMsgs = Keyed.remove Messages.msgid msgid c.inboundMsgs →
        d = (if early version then [] else (heldOf m).toList) →
        Turn (early version) c p c' (read p rest) [] d := by
      intro c' d houtbound hout harrived hinbound hd
      have hfound : ∀ j, (findMsg j c'.inboundMsgs).map heldOf =
          if msgid = j then none else (findMsg j c.inboundMsgs).map heldOf := by
        intro j
        rw [hinbound, findMsg, Keyed.find_remove hc.inbound.1]
        split_ifs
        · rfl
        · rfl
      refine turn_of_receiver hm hid houtbound hout harrived
        (fun j => backOf_ack (by decide) (by decide) _ _ _)
        hrforth ?_ fun j hj => ⟨(hforth j).trans (if_neg hj.symm), hrback j hj,
        (hfound j).trans (if_neg hj.symm)⟩
      rw [hd]
      refine .drop (f := (line (read p rest) c msgid).forth) ?_
        (congrArg (Option.map heldOf) hfind) rfl
        ((hfound msgid).trans (if_pos rfl)) (List.Sublist.refl _) ?_
      · show List.filterMap _ (out p) = _
        rw [out_read hm, List.filterMap_cons_some ((hforth _).trans (if_pos rfl))]
        rfl
      · show (List.filterMap _ (out c')).Sublist _
        rw [hout, List.filterMap_append]
        exact List.Sublist.append (List.Sublist.refl _) hrk
    have hsound := hsends.sound hc hrin
    set c₁ := c.send (.ack PUBCOMP msgid false) answer
    have hdropped : ∀ x ∈ Keyed.remove Messages.msgid msgid c₁.1.inboundMsgs, Held version x :=
      fun x hx => hsound.inbound.2 x (Keyed.mem_of_mem_remove hx)
    by_cases hno : c.noPendingWrites = false
    · exact ⟨c, .error, [], if_pos hno, hread, hc⟩
    rw [if_neg hno]
    by_cases hv : MQTTVERSION_5 ≤ version
    · have hearly : early version = true := decide_eq_true hv
      refine ⟨_, _, [], if_pos (hheld.sameVersion.symm ▸ hv),
        hturn _ [] hsends.outboundMsgs hsends.out ?_ ?_ ?_,
        hsound.hold (hsound.inbound.1.remove _) hdropped⟩
      · rw [List.append_nil]
        unfold arrived2
        simp only
        rw [hsends.arrived]
      · simp only
        rw [hsends.inboundMsgs]
      · rw [hearly]
        rfl
    · have hlt := Nat.lt_of_not_le hv
      have hearly : early version = false := decide_eq_false hv
      obtain ⟨b, hb⟩ := hheld.publish hlt
      have harrived := arrived2_handedOn c₁.1 hheld b
        (by rw [hheld.properties hlt, versionProperties_of_lt (hheld.sameVersion ▸ hlt)])
      set c₂ : Clients := { c₁.1.processPublication (Clients.handedOn m b) with
        inboundMsgs := Keyed.remove Messages.msgid msgid c₁.1.inboundMsgs }
      refine ⟨c₂, c₁.2, [storedContent m b], (if_neg (hheld.sameVersion.symm ▸ hv)).trans ?_,
        hturn c₂ _ hsends.outboundMsgs hsends.out (harrived.trans ?_) ?_ ?_,
        (hsound.processPublication _).hold (hsound.inbound.1.remove _) hdropped⟩
      · rw [hb]
        rfl
      · unfold arrived2
        rw [hsends.arrived]
      · show Keyed.remove _ _ c₁.1.inboundMsgs = _
        rw [hsends.inboundMsgs]
      · unfold heldOf
        rw [hearly, hb]
        rfl

end OasisEdge.Mqtt.Exchange
