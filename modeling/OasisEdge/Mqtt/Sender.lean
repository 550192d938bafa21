import OasisEdge.Mqtt.Exchange

/-! # The sending half of a client

What the functions that change `outboundMsgs` do to the lines in which the client is the sender: a
message is accepted under an id that is not in use (`publish5_turn`), offered and released
(`handlePubrecs_turn`), and taken out once that is completed (`handlePubcomps_turn`). What is sent
again is what each message waits for, so in a line it is only what was sent before
(`turn_of_resent`). -/

namespace OasisEdge.Mqtt.Exchange

open OasisEdge.Lib OasisEdge.Lib.Handshake OasisEdge.Mqtt.MessageIds OasisEdge.Mqtt.Packet
open OasisEdge.Mqtt.Transport OasisEdge.Mqtt.Protocol
open OasisEdge.Mqtt.Properties (MQTTProperties)
open OasisEdge.Mqtt.Writes (Rc)

variable {K : Content → Prop} {version : ℕ}

/-! ### A message is published -/

/-- A message is stored under a new id. -/
theorem SoundClient.store {c : Clients} (hc : SoundClient K version c) {m : Messages}
    (hm : Stored K version m) (hpos : m.msgid ≠ 0) (hnew : findMsg m.msgid c.outboundMsgs = none) :
    SoundClient K version { c with msgID := m.msgid, outboundMsgs := c.outboundMsgs ++ [m] } :=
  ⟨hc.sameVersion, hc.keeps, hm.msgid_le, fun h => absurd h hpos,
    ⟨hc.outbound.1.snoc hnew, fun x hx =>
    (List.mem_append.mp hx).elim (hc.outbound.2 x) fun h => List.mem_singleton.mp h ▸ hm⟩,
    hc.inbound, hc.out⟩

/-- What is sent of a new message is `r`: nothing, or the packet. -/
theorem turn_store {c c' : Clients} (p : Clients) {m : Messages} {r : List Message}
    {b : Publications}
    (hsends : Sends { c with msgID := m.msgid, outboundMsgs := c.outboundMsgs ++ [m] } c' r)
    (hle : m.msgid ≤ MAX_MSG_ID) (hnew : findMsg m.msgid c.outboundMsgs = none)
    (hb : m.publish = some b) (hnext : m.qos = 2 → m.nextMessageType = some PUBREC)
    (hr : r = [] ∨ ∃ pack dup, r = [.publish pack dup m.qos m.retain] ∧ pack.msgId = m.msgid ∧
      (⟨m.qos, pack.topic, pack.payload, m.retain, pack.properties⟩ : Content) =
      storedContent m b) :
    Turn (early version) c p c' p (qos2 [storedContent m b]) [] := by
  have hback : ∀ j, ∀ x ∈ r, backOf j x = none := by
    intro j x hx
    rcases hr with rfl | ⟨pack, dup, rfl, -, -⟩
    · cases hx
    · rw [List.mem_singleton.mp hx, backOf_publish]
  have hout : out c' = out c ++ r := hsends.out
  have hfind : ∀ j, findMsg j c'.outboundMsgs = if m.msgid = j then some m else findMsg j
    c.outboundMsgs := by
    intro j
    rw [hsends.outboundMsgs]
    exact Keyed.find_snoc j _ m hnew
  have hother : ∀ j, j ≠ m.msgid → Step (early version) (line c p j) (line c' p j) [] [] := by
    intro j hj
    have hforth : ∀ x ∈ r, forthOf j x = none := by
      intro x hx
      rcases hr with rfl | ⟨pack, dup, rfl, hid, -⟩
      · cases hx
      · rw [List.mem_singleton.mp hx]
        exact if_neg fun hand => hj (hand.2.symm.trans hid)
    refine .lose ?_ rfl ?_ (List.Sublist.refl _)
    · show sendingOf (findMsg j c'.outboundMsgs) = _
      rw [hfind, if_neg hj.symm]
      rfl
    · show (List.filterMap _ (out c')).Sublist _
      rw [hout, filterMap_append_none _ hforth]
      exact List.Sublist.refl _
  refine ⟨⟨m.msgid, hle, ?_, hother⟩, moves_of_step fun j =>
    .lose rfl ?_ (List.Sublist.refl _) ?_, ?_, rfl⟩
  · rw [qos2_singleton]
    have hidle : (line c p m.msgid).sending = .idle := congrArg sendingOf hnew
    have hsending : (line c' p m.msgid).sending = sendingOf (some m) := by
      show sendingOf (findMsg m.msgid c'.outboundMsgs) = _
      rw [hfind, if_pos rfl]
    have hm : sendingOf (some m) = if m.qos = 2 then (if m.nextMessageType = some PUBREC then
        .offered (storedContent m b) else .released (storedContent m b)) else .idle := by
      unfold sendingOf
      simp only [hb]
    have hforth : (line c' p m.msgid).forth =
        (line c p m.msgid).forth ++ r.filterMap (forthOf m.msgid) := by
      show List.filterMap _ (out c') = _
      rw [hout, List.filterMap_append]
      rfl
    by_cases hqos : m.qos = 2
    · rw [if_pos (show (storedContent m b).qos = 2 from hqos)]
      refine .accept hidle ?_ rfl ?_ (List.Sublist.refl _)
      · rw [hsending, hm, if_pos hqos, if_pos (hnext hqos)]
      · rw [hforth]
        refine List.Sublist.append (List.Sublist.refl _) ?_
        rcases hr with rfl | ⟨pack, dup, rfl, hid, hcontent⟩
        · exact List.nil_sublist _
        · have hoffer : forthOf m.msgid (.publish pack dup m.qos m.retain) =
              some (.offer (storedContent m b)) := by
            rw [← hcontent]
            exact if_pos ⟨hqos, hid⟩
          rw [List.filterMap_cons_some hoffer]
          exact List.Sublist.refl _
    · rw [if_neg (show ¬ (storedContent m b).qos = 2 from hqos)]
      refine .lose ?_ rfl ?_ (List.Sublist.refl _)
      · rw [hsending, hm, if_neg hqos, hidle]
      · have hnone : ∀ x ∈ r, forthOf m.msgid x = none := by
          intro x hx
          rcases hr with rfl | ⟨pack, dup, rfl, -, -⟩
          · cases hx
          · rw [List.mem_singleton.mp hx]
            exact forthOf_publish_of_ne hqos _ _ _ _
        rw [hforth, List.filterMap_eq_nil_iff.mpr hnone, List.append_nil]
  · show (findMsg j c'.inboundMsgs).map _ = _
    rw [hsends.inboundMsgs]
    rfl
  · show (List.filterMap _ (out c')).Sublist _
    rw [hout, filterMap_append_none _ (hback j)]
    exact List.Sublist.refl _
  · unfold arrived2
    rw [hsends.arrived, List.append_nil]

/-- **A message is accepted under an id that is not in use, and stored**, or nothing changes. -/
theorem publish5_turn {c : Clients} (hc : SoundClient K version c) (p : Clients)
    (topicName payload : List UInt8) (qos : ℕ) (retained : Bool) (properties : MQTTProperties)
    (clock : ℤ)
    (answer : Rc) {x : Content} (hx : x = ⟨qos, topicName, payload, retained,
      versionProperties c.MQTTVersion properties⟩) (hK : K x) :
    ∃ c' accepted, c.publish5 topicName payload qos retained properties clock answer =
      .ok (c', accepted) ∧
      SoundClient K version c' ∧
      Turn (early version) c p c' p (qos2 (if accepted then [x] else [])) [] := by
  have hstay : Turn (early version) c p c p (qos2 (if false = true then [x] else [])) [] :=
    turn_of_sends p (.refl c) (fun _ _ h => nomatch h) fun _ _ h => nomatch h
  have hprops : version < MQTTVERSION_5 → versionProperties c.MQTTVersion properties =
    .initializer := by
    rw [hc.sameVersion]
    exact versionProperties_of_lt
  unfold Clients.publish5
  split_ifs with hguard hqos
  · exact ⟨c, false, rfl, hc, hstay⟩
  · obtain ⟨r, hr, hsends, -⟩ := send_sends c (.publish ⟨⟨0⟩, topicName, 0, payload, c.MQTTVersion,
      versionProperties c.MQTTVersion properties⟩ false qos retained) answer
    subst hqos
    refine ⟨_, true, rfl, hsends.sound hc ?_, ?_⟩
    · intro m hm
      rcases hr with rfl | rfl
      · cases hm
      · rw [List.mem_singleton.mp hm]
        exact ⟨hc.sameVersion, Nat.zero_le _, Nat.zero_le _, hprops, hx ▸ hK⟩
    · have hnil : qos2 [x] = [] := by
        rw [qos2_singleton, hx]
        rfl
      rw [if_pos rfl, hnil]
      refine turn_of_sends p hsends (fun j m hm => ?_) fun j m hm => ?_
      · rcases hr with rfl | rfl
        · cases hm
        · rw [List.mem_singleton.mp hm]
          exact forthOf_publish_of_ne (by decide) _ _ _ _
      · rcases hr with rfl | rfl
        · cases hm
        · rw [List.mem_singleton.mp hm, backOf_publish]
  · have hle : qos ≤ 2 := by
      rw [not_or, not_or] at hguard
      exact Nat.le_of_not_lt hguard.2.1
    rcases hassign : assignMsgId (fun id => (findMsg id c.outboundMsgs).isSome)
      c.msgID with _ | msgid
    · refine absurd hassign (assignMsgId_ne_none hc.msgID_le fun hzero id => ?_)
      rw [hc.msgID_zero hzero]
      rfl
    · rcases Nat.eq_zero_or_pos msgid with rfl | hpos
      · exact ⟨c, false, rfl, hc, hstay⟩
      · obtain ⟨hmax, hfree⟩ := assignMsgId_free hc.msgID_le hassign (Nat.ne_of_gt hpos)
        have hnew : findMsg msgid c.outboundMsgs = none := Option.not_isSome_iff_eq_none.mp
          (Bool.eq_false_iff.mp hfree)
        set publish : Publish := ⟨⟨0⟩, topicName, msgid, payload, c.MQTTVersion,
          versionProperties c.MQTTVersion properties⟩ with hpublish
        set m : Messages := Clients.createMessage publish qos retained clock with hm
        have hmprops : m.properties = versionProperties c.MQTTVersion properties :=
          versionProperties_idem _ _
        have hxm : storedContent m ⟨topicName, payload⟩ = x := by
          rw [hx, ← hmprops]
          rfl
        have hstored : Stored K version m := by
          refine ⟨hc.sameVersion, hmax, fun hv => hmprops.trans (hprops hv),
            ⟨⟨topicName, payload⟩, rfl, hxm ▸ hK⟩, ?_⟩
          rcases Nat.lt_or_ge qos 2 with hlt | hge
          · exact .inl (show qos = 1 by omega)
          · have h2 : qos = 2 := by omega
            exact .inr ⟨h2, .inl (if_pos h2)⟩
        obtain ⟨r, hr, hsends, -⟩ := send_sends
          { c with msgID := msgid, outboundMsgs := c.outboundMsgs ++ [m] }
          (.publish { publish with properties := m.properties } false qos retained) answer
        have hstart : { c with msgID := msgid }.startPublish publish qos retained clock answer =
            { c with msgID := msgid, outboundMsgs := c.outboundMsgs ++ [m] }.send
              (.publish { publish with properties := m.properties } false qos retained) answer :=
          if_pos (Nat.pos_of_ne_zero hqos)
        rw [← hstart] at hsends
        refine ⟨({ c with msgID := msgid }.startPublish publish qos retained clock answer).1, true,
          ?_,
          hsends.sound (hc.store hstored (Nat.ne_of_gt hpos) hnew) ?_, ?_⟩
        · obtain ⟨n, rfl⟩ := Nat.exists_eq_succ_of_ne_zero (Nat.ne_of_gt hpos)
          rfl
        · intro y hy
          rcases hr with rfl | rfl
          · cases hy
          · rw [List.mem_singleton.mp hy]
            have hKm : K (storedContent m ⟨topicName, payload⟩) := hxm.symm ▸ hK
            exact ⟨hc.sameVersion, hle, hmax, hstored.properties, hKm⟩
        · rw [if_pos rfl, ← hxm]
          refine turn_store p hsends hmax hnew rfl (fun h2 => if_pos h2) ?_
          rcases hr with rfl | rfl
          · exact .inl rfl
          · exact .inr ⟨_, _, rfl, rfl, rfl⟩

/-! ### Acknowledgements -/

/-- A change of what is in flight. -/
theorem SoundClient.inFlight {c : Clients} (hc : SoundClient K version c) {l : List Messages}
    (hdistinct : Keyed.Distinct Messages.msgid l) (hl : ∀ m ∈ l, Stored K version m)
    (hnil : c.outboundMsgs = [] → l = []) : SoundClient K version { c with outboundMsgs := l } :=
  ⟨hc.sameVersion, hc.keeps, hc.msgID_le, fun h => hnil (hc.msgID_zero h), ⟨hdistinct, hl⟩,
    hc.inbound, hc.out⟩

theorem SoundClient.removed {c : Clients} (hc : SoundClient K version c) (msgid : ℕ) :
    SoundClient K version
    { c with outboundMsgs := Keyed.remove Messages.msgid msgid c.outboundMsgs } :=
  hc.inFlight (hc.outbound.1.remove msgid)
    (fun _ hm => hc.outbound.2 _ (Keyed.mem_of_mem_remove hm))
    fun h => by rw [h]; rfl

theorem Stored.released {m : Messages} (h : Stored K version m) (clock : ℤ) :
    Stored K version (m.released clock) :=
  ⟨h.sameVersion, h.msgid_le, h.properties, h.publish, h.next.imp_right fun hq => ⟨hq.1, .inr rfl⟩⟩

theorem sendingOf_of_qos1 {m : Messages} (h : m.qos = 1) : sendingOf (some m) = .idle := by
  unfold sendingOf
  simp only
  rcases m.publish with _ | b
  · rfl
  · exact if_neg (by omega)

theorem sendingOf_offered {m : Messages} {b : Publications} (hb : m.publish = some b)
    (hqos : m.qos = 2) (hnext : m.nextMessageType = some PUBREC) :
    sendingOf (some m) = .offered (storedContent m b) := by
  unfold sendingOf
  simp only [hb]
  rw [if_pos hqos, if_pos hnext]

theorem sendingOf_released {m : Messages} {b : Publications} (hb : m.publish = some b)
    (hqos : m.qos = 2) (hnext : m.nextMessageType = some PUBCOMP) :
    sendingOf (some m) = .released (storedContent m b) := by
  unfold sendingOf
  simp only [hb]
  rw [if_pos hqos, if_neg (by rw [hnext]; decide)]

section Sender

variable {c p : Clients} {rest : List Message} {msgid : ℕ} {dup : Bool}

/-- What changes in the line where a message is no longer in flight. -/
theorem find_removed (hc : SoundClient K version c) (j : ℕ) :
    findMsg j (Keyed.remove Messages.msgid msgid c.outboundMsgs) =
      if msgid = j then none else findMsg j c.outboundMsgs :=
      Keyed.find_remove hc.outbound.1 msgid j

/-- A PUBACK that was sent is handled. -/
theorem handlePubacks_turn (hc : SoundClient K version c)
    (hm : p.sent = .ack PUBACK msgid dup :: rest) (hid : msgid ≤ MAX_MSG_ID) :
    Turn (early version) c p (c.handlePubacks msgid) (read p rest) [] [] ∧
      SoundClient K version (c.handlePubacks msgid) := by
  have hread : Turn (early version) c p c (read p rest) [] [] :=
    turn_of_read hm (.refl c) (fun _ _ h => absurd h List.not_mem_nil) fun _ _ h =>
      absurd h List.not_mem_nil
  unfold Clients.handlePubacks
  rcases hfind : findMsg msgid c.outboundMsgs with _ | m
  · exact ⟨hread, hc⟩
  · simp only
    split_ifs with hqos
    · have hsending : ∀ j,
        sendingOf (findMsg j (Keyed.remove Messages.msgid msgid c.outboundMsgs)) =
          sendingOf (findMsg j c.outboundMsgs) := by
        intro j
        rw [find_removed hc]
        split_ifs with hj
        · rw [← hj, hfind, sendingOf_of_qos1 hqos]
          rfl
        · rfl
      have hback : ∀ j, backOf j (.ack PUBACK msgid dup) = none :=
        fun j => backOf_ack (by decide) (by decide) _ _ _
      refine ⟨turn_of_sender (r := []) hm hid rfl (List.append_nil _).symm rfl
        (fun j => forthOf_ack (by decide) _ _ _) (fun _ _ h => absurd h List.not_mem_nil)
        (.lose (hsending _) rfl (List.Sublist.refl _) ?_)
        fun j _ => ⟨hback j, fun _ h => absurd h List.not_mem_nil, hsending j⟩, hc.removed _⟩
      show (List.filterMap _ _).Sublist (List.filterMap _ (out p))
      rw [out_read hm, List.filterMap_cons_none (hback _)]
    · exact ⟨hread, hc⟩

/-- A PUBREC that was sent is handled: an offer is released. -/
theorem handlePubrecs_turn (hc : SoundClient K version c)
    (hm : p.sent = .ack PUBREC msgid dup :: rest) (hid : msgid ≤ MAX_MSG_ID) {pubrec : Ack}
    (hrc : ∀ rc ∈ pubrec.rc, rc.toNat < 128) (clock : ℤ) (answer : Rc) :
    Turn (early version) c p (c.handlePubrecs pubrec msgid clock answer).1 (read p rest) [] [] ∧
      SoundClient K version (c.handlePubrecs pubrec msgid clock answer).1 := by
  have hread : Turn (early version) c p c (read p rest) [] [] :=
    turn_of_read hm (.refl c) (fun _ _ h => absurd h List.not_mem_nil) fun _ _ h =>
      absurd h List.not_mem_nil
  unfold Clients.handlePubrecs
  rcases hfind : findMsg msgid c.outboundMsgs with _ | m
  · exact ⟨hread, hc⟩
  · have hstored := hc.outbound.2 m (Keyed.mem_of_find hfind)
    obtain ⟨b, hb, hKb⟩ := hstored.publish
    have hno : ¬ (MQTTVERSION_5 ≤ pubrec.MQTTVersion ∧ ∃ rc ∈ pubrec.rc, 128 ≤ rc.toNat) := by
      rintro ⟨-, rc, hmem, hge⟩
      exact absurd (hrc rc hmem) (Nat.not_lt_of_le hge)
    simp only
    rw [if_neg hno]
    split_ifs with hnext
    · obtain ⟨hqos, hnext⟩ := hnext
      obtain ⟨r, hr, hsends, -⟩ := send_sends c (.ack PUBREL msgid false) answer
      set c₁ := c.send (.ack PUBREL msgid false) answer
      have hrin : ∀ y ∈ r, InFlight K version y := by
        intro y hy
        rcases hr with rfl | rfl
        · cases hy
        · rw [List.mem_singleton.mp hy]
          exact ⟨by simp, hid, rfl⟩
      have hsound := hsends.sound hc hrin
      have hkey : ∀ m : Messages, m.msgid = msgid → (m.released clock).msgid = msgid := fun _ h => h
      have hfound :
        ∀ j, findMsg j (Keyed.change Messages.msgid msgid (.released clock) c₁.1.outboundMsgs) =
          if msgid = j then some (m.released clock) else findMsg j c.outboundMsgs := by
        intro j
        rw [hsends.outboundMsgs, findMsg, Keyed.find_change hkey, ← findMsg, hfind]
        rfl
      have hk : (line c p msgid).sending = .offered (storedContent m b) :=
        (congrArg sendingOf hfind).trans (sendingOf_offered hb hqos hnext)
      refine ⟨turn_of_sender hm hid hsends.inboundMsgs hsends.out hsends.arrived
        (fun j => forthOf_ack (by decide) _ _ _) (fun j y hy => ?_)
        (.received (b := (line c (read p rest) msgid).back) ?_ hk ?_ rfl ?_ (List.Sublist.refl _))
        fun j hj => ⟨if_neg hj.symm, fun y hy => ?_, ?_⟩,
          hsound.inFlight (hsound.outbound.1.change hkey) ?_ ?_⟩
      · rcases hr with rfl | rfl
        · cases hy
        · rw [List.mem_singleton.mp hy]
          exact backOf_ack (by decide) (by decide) _ _ _
      · show List.filterMap _ (out p) = _
        rw [out_read hm, List.filterMap_cons_some (backOf_pubrec _ _)]
        rfl
      · exact (congrArg sendingOf ((hfound msgid).trans (if_pos rfl))).trans
          (sendingOf_released hb hqos rfl)
      · show (List.filterMap _ (out c₁.1)).Sublist _
        rw [hsends.out, List.filterMap_append]
        refine List.Sublist.append (List.Sublist.refl _) ?_
        rcases hr with rfl | rfl
        · exact List.nil_sublist _
        · have hsome : forthOf msgid (.ack PUBREL msgid false) = some .release := if_pos ⟨rfl, rfl⟩
          rw [List.filterMap_cons_some hsome]
          exact List.Sublist.refl _
      · rcases hr with rfl | rfl
        · cases hy
        · rw [List.mem_singleton.mp hy]
          exact if_neg fun hand => hj hand.2.symm
      · rw [hfound, if_neg hj.symm]
      · intro x hx
        rcases Keyed.mem_change hx with hx | ⟨z, hz, -, rfl⟩
        · exact hsound.outbound.2 x hx
        · exact (hsound.outbound.2 z hz).released clock
      · intro h
        rw [h]
        rfl
    · exact ⟨hread, hc⟩

/-- A PUBCOMP that was sent is handled: the message is no longer in flight. -/
theorem handlePubcomps_turn (hc : SoundClient K version c)
    (hm : p.sent = .ack PUBCOMP msgid dup :: rest) (hid : msgid ≤ MAX_MSG_ID) :
    Turn (early version) c p (c.handlePubcomps msgid) (read p rest) [] [] ∧
      SoundClient K version (c.handlePubcomps msgid) := by
  have hread : Turn (early version) c p c (read p rest) [] [] :=
    turn_of_read hm (.refl c) (fun _ _ h => absurd h List.not_mem_nil) fun _ _ h =>
      absurd h List.not_mem_nil
  unfold Clients.handlePubcomps
  rcases hfind : findMsg msgid c.outboundMsgs with _ | m
  · exact ⟨hread, hc⟩
  · simp only
    split_ifs with hnext
    · obtain ⟨b, hb, -⟩ := (hc.outbound.2 m (Keyed.mem_of_find hfind)).publish
      have hk : (line c p msgid).sending = .released (storedContent m b) :=
        (congrArg sendingOf hfind).trans (sendingOf_released hb hnext.1 hnext.2)
      refine ⟨turn_of_sender (r := []) hm hid rfl (List.append_nil _).symm rfl
        (fun j => forthOf_ack (by decide) _ _ _) (fun _ _ h => absurd h List.not_mem_nil)
        (.completed (b := (line c (read p rest) msgid).back) ?_ hk ?_ rfl (List.Sublist.refl _)
          (List.Sublist.refl _))
        fun j hj => ⟨if_neg hj.symm, fun _ h => absurd h List.not_mem_nil, ?_⟩, hc.removed _⟩
      · show List.filterMap _ (out p) = _
        rw [out_read hm, List.filterMap_cons_some (backOf_pubcomp _ _)]
        rfl
      · show sendingOf (findMsg msgid (Keyed.remove _ msgid c.outboundMsgs)) = _
        rw [find_removed hc, if_pos rfl]
        rfl
      · show sendingOf (findMsg j (Keyed.remove _ msgid c.outboundMsgs)) = _
        rw [find_removed hc, if_neg hj.symm]
    · exact ⟨hread, hc⟩

end Sender

/-! ### Sending again -/

/-- A message whose time of sending may be another. -/
def Touched (m m' : Messages) : Prop := m' = { m with lastTouch := m'.lastTouch }

/-- `y` is what is sent again of the message `m`. -/
def Resent (m : Messages) (y : Message) : Prop :=
  (∃ b, m.publish = some b ∧ (m.qos = 1 ∨ m.qos = 2 ∧ m.nextMessageType = some PUBREC) ∧
    y = .publish ⟨⟨0⟩, b.topic, m.msgid, b.payload, m.MQTTVersion,
    m.properties⟩ true m.qos m.retain) ∨
  m.qos = 2 ∧ m.nextMessageType = some PUBCOMP ∧ y = .ack PUBREL m.msgid false

theorem Sends.trans {c c' c'' : Clients} {r r' : List Message} (h : Sends c c' r)
    (h' : Sends c' c'' r') :
    Sends c c'' (r ++ r') := by
  refine ⟨by rw [h'.out, h.out, List.append_assoc], ?_⟩
  have hrest := h'.rest
  rw [h.rest] at hrest
  exact hrest

theorem sends_good (c : Clients) : Sends c { c with good := false } [] :=
  ⟨(List.append_nil _).symm, rfl⟩

/-- **What the loop sends**: of some messages in flight, what they wait for. -/
theorem retriesLoop_spec (now clock : ℤ) (regardless : Bool) :
    ∀ (ms : List Messages) (c : Clients) (answers : List Rc), (∀ m ∈ ms, Stored K version m) →
    ∃ c' ms' r, Clients.retriesLoop now clock regardless c ms answers = .ok (c', ms') ∧
    Sends c c' r ∧
      List.Forall₂ Touched ms ms' ∧ ∀ y ∈ r, ∃ m ∈ ms, Resent m y
  | [], c, answers, _ => ⟨c, [], [], rfl, .refl c, .nil, fun _ h => absurd h List.not_mem_nil⟩
  | m :: ms, c, answers, hms => by
    have hm := hms m List.mem_cons_self
    obtain ⟨b, hb, -⟩ := hm.publish
    have hkeep : List.Forall₂ Touched (m :: ms) (m :: ms) := List.forall₂_same.mpr fun _ _ => rfl
    have hnext : ∀ (c₁ : Clients) (m₁ : Messages) (rest : List Rc) (r₁ : List Message),
      Sends c c₁ r₁ →
        Touched m m₁ → (∀ y ∈ r₁, Resent m y) →
        ∃ c' ms' r, ((Clients.retriesLoop now clock regardless c₁ ms rest).map fun r =>
          (r.1, m₁ :: r.2)) =
          .ok (c', ms') ∧ Sends c c' r ∧ List.Forall₂ Touched (m :: ms) ms' ∧
          ∀ y ∈ r, ∃ m' ∈ m :: ms, Resent m' y := by
      intro c₁ m₁ rest r₁ hsends htouched hr₁
      obtain ⟨c', ms', r, hloop, hsends', hall, hr⟩ :=
        retriesLoop_spec now clock regardless ms c₁ rest fun x hx =>
          hms x (List.mem_cons_of_mem _ hx)
      refine ⟨c', m₁ :: ms', r₁ ++ r, by rw [hloop]; rfl, hsends.trans hsends', .cons htouched hall,
        fun y hy => ?_⟩
      rcases List.mem_append.mp hy with hy | hy
      · exact ⟨m, List.mem_cons_self, hr₁ y hy⟩
      · obtain ⟨x, hx, hres⟩ := hr y hy
        exact ⟨x, List.mem_cons_of_mem _ hx, hres⟩
    have hsame := hnext c m answers [] (Sends.refl c) rfl fun _ h => absurd h List.not_mem_nil
    unfold Clients.retriesLoop
    simp only
    by_cases hstop : ¬ (c.connected = true ∧ c.good = true ∧ c.noPendingWrites = true)
    · rw [if_pos hstop]
      exact ⟨c, m :: ms, [], rfl, .refl c, hkeep, fun _ h => absurd h List.not_mem_nil⟩
    rw [if_neg hstop]
    by_cases htime : ¬ (regardless = true ∨ max c.retryInterval 10 < now - m.lastTouch)
    · rw [if_pos htime]
      exact hsame
    rw [if_neg htime]
    split_ifs with hpublish hrelease
    · rw [hb]
      simp only
      obtain ⟨r₁, hr₁, hsends, -⟩ :=
        send_sends c (.publish ⟨⟨0⟩, b.topic, m.msgid, b.payload, m.MQTTVersion,
        m.properties⟩ true m.qos m.retain) (answers.headD .complete)
      have hres : ∀ y ∈ r₁, Resent m y := by
        intro y hy
        rcases hr₁ with rfl | rfl
        · cases hy
        · exact .inl ⟨b, hb, hpublish, List.mem_singleton.mp hy⟩
      rcases hsend :
        c.send (.publish ⟨⟨0⟩, b.topic, m.msgid, b.payload, m.MQTTVersion, m.properties⟩ true
        m.qos m.retain) (answers.headD .complete) with ⟨c₁, rc⟩
      rw [hsend] at hsends
      have htouched : Touched m { m with publish := some b, lastTouch := clock } := by
        rw [← hb]
        exact rfl
      rcases rc with _ | _ | _
      · exact hnext c₁ _ _ r₁ hsends htouched hres
      · exact hnext c₁ _ _ r₁ hsends htouched hres
      · refine ⟨_, _, r₁ ++ [], rfl, hsends.trans (sends_good c₁), hkeep, fun y hy => ?_⟩
        rw [List.append_nil] at hy
        exact ⟨m, List.mem_cons_self, hres y hy⟩
    · obtain ⟨r₁, hr₁, hsends, -⟩ :=
        send_sends c (.ack PUBREL m.msgid false) (answers.headD .complete)
      have hqos : m.qos = 2 := by
        rcases hm.next with h1 | ⟨h2, -⟩
        · exact absurd (.inl h1) hpublish
        · exact h2
      have hres : ∀ y ∈ r₁, Resent m y := by
        intro y hy
        rcases hr₁ with rfl | rfl
        · cases hy
        · exact .inr ⟨hqos, hrelease.2, List.mem_singleton.mp hy⟩
      have hfail : ∀ c₁, Sends c c₁ r₁ → ∃ c' ms' r,
          (.ok ({ c₁ with good := false }, m :: ms) : Except Fault (Clients × List Messages)) =
          .ok (c', ms') ∧
            Sends c c' r ∧ List.Forall₂ Touched (m :: ms) ms' ∧ ∀ y ∈ r, ∃ m' ∈ m :: ms,
            Resent m' y := by
        intro c₁ hsends
        refine ⟨_, _, r₁ ++ [], rfl, hsends.trans (sends_good c₁), hkeep, fun y hy => ?_⟩
        rw [List.append_nil] at hy
        exact ⟨m, List.mem_cons_self, hres y hy⟩
      rcases hsend : c.send (.ack PUBREL m.msgid false) (answers.headD .complete) with ⟨c₁, rc⟩
      rw [hsend] at hsends
      rcases rc with _ | _ | _
      · exact hnext c₁ _ _ r₁ hsends rfl hres
      · exact hfail c₁ hsends
      · exact hfail c₁ hsends
    · exact hsame

theorem find_touched {l l' : List Messages} (h : List.Forall₂ Touched l l') (j : ℕ) :
    sendingOf (findMsg j l') = sendingOf (findMsg j l) ∧
    l'.map Messages.msgid = l.map Messages.msgid := by
  induction h with
  | nil => exact ⟨rfl, rfl⟩
  | @cons m m' l l' hm _ ih =>
    have hid : m'.msgid = m.msgid := by rw [hm]
    have hsame : sendingOf (some m') = sendingOf (some m) := by
      rw [hm]
      rfl
    refine ⟨?_, by rw [List.map_cons, List.map_cons, hid, ih.2]⟩
    rw [findMsg, Keyed.find_cons, findMsg, Keyed.find_cons, hid]
    split_ifs
    · exact hsame
    · exact ih.1

theorem stored_touched {l l' : List Messages} (h : List.Forall₂ Touched l l')
    (hl : ∀ m ∈ l, Stored K version m) : ∀ m ∈ l', Stored K version m := by
  induction h with
  | nil => exact hl
  | @cons m m' l l' hm _ ih =>
    intro x hx
    rcases List.mem_cons.mp hx with rfl | hx
    · have hs := hl m List.mem_cons_self
      rw [hm]
      exact ⟨hs.sameVersion, hs.msgid_le, hs.properties, hs.publish, hs.next⟩
    · exact ih (fun y hy => hl y (List.mem_cons_of_mem _ hy)) x hx

/-- What is sent again of the messages in flight. -/
theorem turn_of_resent {c c₁ : Clients} (hc : SoundClient K version c) (p : Clients)
    {r : List Message} (hsends : Sends c c₁ r) {l : List Messages}
    (hl : List.Forall₂ Touched c.outboundMsgs l) (hr : ∀ y ∈ r, ∃ m ∈ c.outboundMsgs, Resent m y) :
    Turn (early version) c p { c₁ with outboundMsgs := l } p [] [] ∧
      SoundClient K version { c₁ with outboundMsgs := l } := by
  have hback : ∀ j, ∀ y ∈ r, backOf j y = none := by
    intro j y hy
    obtain ⟨m, -, ⟨b, -, -, rfl⟩ | ⟨-, -, rfl⟩⟩ := hr y hy
    · exact backOf_publish _ _ _ _ _
    · exact backOf_ack (by decide) (by decide) _ _ _
  have hin : ∀ y ∈ r, InFlight K version y := by
    intro y hy
    obtain ⟨m, hm, ⟨b, hb, hnext, rfl⟩ | ⟨-, -, rfl⟩⟩ := hr y hy
    · have hs := hc.outbound.2 m hm
      obtain ⟨b', hb', hK⟩ := hs.publish
      obtain rfl := Option.some.inj (hb.symm.trans hb')
      exact ⟨hs.sameVersion, by omega, hs.msgid_le, hs.properties, hK⟩
    · exact ⟨by simp, (hc.outbound.2 m hm).msgid_le, rfl⟩
  have hforth : ∀ j, ∀ x ∈ r.filterMap (forthOf j), ∃ m, findMsg j c.outboundMsgs = some m ∧
      ((∃ b, sendingOf (some m) = .offered (storedContent m b) ∧ x = .offer (storedContent m b)) ∨
        ∃ b, sendingOf (some m) = .released (storedContent m b) ∧ x = .release) := by
    intro j x hx
    obtain ⟨y, hy, hxy⟩ := List.mem_filterMap.mp hx
    obtain ⟨m, hm, hres⟩ := hr y hy
    have hfind : findMsg m.msgid c.outboundMsgs = some m := Keyed.find_of_mem hc.outbound.1 hm
    rcases hres with ⟨b, hb, hnext, rfl⟩ | ⟨hqos, hnext, rfl⟩
    · unfold forthOf at hxy
      simp only at hxy
      split_ifs at hxy with hand
      obtain ⟨hqos, rfl⟩ := hand
      have hrec : m.nextMessageType = some PUBREC := hnext.resolve_left (by omega) |>.2
      exact ⟨m, hfind, .inl ⟨b, sendingOf_offered hb hqos hrec, (Option.some.inj hxy).symm⟩⟩
    · unfold forthOf at hxy
      simp only at hxy
      split_ifs at hxy with hand
      obtain ⟨-, rfl⟩ := hand
      obtain ⟨b, hb, -⟩ := (hc.outbound.2 m hm).publish
      exact ⟨m, hfind, .inr ⟨b, sendingOf_released hb hqos hnext, (Option.some.inj hxy).symm⟩⟩
  have hsending : ∀ j, (line { c₁ with outboundMsgs := l } p j).sending = (line c p j).sending :=
    fun j => (find_touched hl j).1
  have hout : ∀ j, (line { c₁ with outboundMsgs := l } p j).forth =
      (line c p j).forth ++ r.filterMap (forthOf j) := by
    intro j
    show List.filterMap _ (out c₁) = _
    rw [hsends.out, List.filterMap_append]
    rfl
  have hall : ∀ x ∈ l, Stored K version x := stored_touched hl hc.outbound.2
  refine ⟨⟨moves_of_step fun j => ?_, moves_of_step fun j =>
    .lose rfl ?_ (List.Sublist.refl _) ?_, ?_, rfl⟩,
    (hsends.sound hc hin).inFlight ?_ hall ?_⟩
  · rcases hs : (line c p j).sending with _ | x | x
    · have hnone : r.filterMap (forthOf j) = [] := by
        refine List.eq_nil_iff_forall_not_mem.mpr fun y hy => ?_
        obtain ⟨m, hfind, ⟨b, hb, -⟩ | ⟨b, hb, -⟩⟩ := hforth j y hy
        · cases hs.symm.trans ((congrArg sendingOf hfind).trans hb)
        · cases hs.symm.trans ((congrArg sendingOf hfind).trans hb)
      refine .lose (hsending j) rfl ?_ (List.Sublist.refl _)
      rw [hout, hnone, List.append_nil]
    · refine .offer (r.filterMap (forthOf j)) hs (fun y hy => ?_) (hsending j) rfl ?_
        (List.Sublist.refl _)
      · obtain ⟨m, hfind, ⟨b, hb, rfl⟩ | ⟨b, hb, -⟩⟩ := hforth j y hy
        · rw [Sending.offered.inj (hs.symm.trans ((congrArg sendingOf hfind).trans hb))]
        · cases hs.symm.trans ((congrArg sendingOf hfind).trans hb)
      · rw [hout]
    · refine .release (r.filterMap (forthOf j)) hs (fun y hy => ?_) (hsending j) rfl ?_
        (List.Sublist.refl _)
      · obtain ⟨m, hfind, ⟨b, hb, -⟩ | ⟨b, hb, rfl⟩⟩ := hforth j y hy
        · cases hs.symm.trans ((congrArg sendingOf hfind).trans hb)
        · rfl
      · rw [hout]
  · show (findMsg j c₁.inboundMsgs).map _ = _
    rw [hsends.inboundMsgs]
    rfl
  · show (List.filterMap _ (out c₁)).Sublist _
    rw [hsends.out, filterMap_append_none _ (hback j)]
    exact List.Sublist.refl _
  · unfold arrived2
    rw [List.append_nil]
    simp only
    rw [hsends.arrived]
  · unfold Keyed.Distinct
    rw [(find_touched hl 0).2]
    exact hc.outbound.1
  · intro h
    rw [hsends.outboundMsgs] at h
    rw [h] at hl
    exact List.forall₂_nil_left_iff.mp hl

theorem retry_turn {c : Clients} (hc : SoundClient K version c) (p : Clients) (now clock : ℤ)
    (doRetry regardless : Bool) (answers : List Rc) :
    ∃ c', c.retry now clock doRetry regardless answers = .ok c' ∧
    Turn (early version) c p c' p [] [] ∧
      SoundClient K version c' := by
  unfold Clients.retry Clients.retries
  split_ifs with hskip hoff
  · exact ⟨c, rfl, turn_refl c p, hc⟩
  · exact ⟨c, rfl, turn_refl c p, hc⟩
  · obtain ⟨c₁, l, r, hloop, hsends, hl, hr⟩ :=
      retriesLoop_spec now clock regardless c.outboundMsgs c answers hc.outbound.2
    obtain ⟨hturn, hsound⟩ := turn_of_resent hc p hsends hl hr
    rw [hloop]
    exact ⟨_, rfl, hturn, hsound⟩

/-! ### Connections -/

theorem sublist_out {c c' : Clients} (hsent : c'.sent = c.sent)
    (hpending : c'.pendingWrite = none) :
    (out c').Sublist (out c) := by
  unfold out
  rw [hsent, hpending]
  exact List.Sublist.append (List.Sublist.refl _) (List.nil_sublist _)

theorem writeComplete_turn {c : Clients} (hc : SoundClient K version c) (p : Clients)
    (written : Bool) :
    Turn (early version) c p (c.writeComplete written) p [] [] ∧
      SoundClient K version (c.writeComplete written) := by
  have hout : (out (c.writeComplete written)).Sublist (out c) := by
    rcases written with _ | _
    · exact sublist_out rfl rfl
    · show ((c.sent ++ c.pendingWrite.toList) ++ []).Sublist _
      rw [List.append_nil]
      exact List.Sublist.refl _
  exact ⟨turn_of_lost p (fun _ => rfl) rfl hout rfl, hc.lost hout rfl⟩

theorem closeSession_turn {c : Clients} (hc : SoundClient K version c) (p : Clients) :
    Turn (early version) c p c.closeSession p [] [] ∧ SoundClient K version c.closeSession := by
  have hkeep : ¬ (c.cleansession = true ∨ MQTTVERSION_5 ≤ c.MQTTVersion ∧ c.sessionExpiry = 0) := by
    rintro (h | ⟨hv, h⟩)
    · exact Bool.false_ne_true (hc.keeps.1.symm.trans h)
    · exact hc.keeps.2 (hc.sameVersion ▸ hv) h
  have hclose : c.closeSession =
      { c with good := false, connected := false, waiting := false, pendingWrite := none } :=
    if_neg hkeep
  rw [hclose]
  have hout : (out { c with
      good := false, connected := false, waiting := false, pendingWrite := none }).Sublist (out c) :=
    sublist_out rfl rfl
  exact ⟨turn_of_lost p (fun _ => rfl) rfl hout rfl, hc.lost hout rfl⟩

theorem completeConnection_turn {c : Clients} (hc : SoundClient K version c) (p : Clients)
    (clock : ℤ) (answers : List Rc) :
    ∃ c', c.completeConnection true clock answers = .ok c' ∧ Turn (early version) c p c' p [] [] ∧
      SoundClient K version c' := by
  unfold Clients.completeConnection
  by_cases hwait : c.waiting = true
  · rw [if_pos hwait]
    have hkeep : ¬ (c.cleansession = true ∨ Clients.MQTTVERSION_3_1_1 ≤ c.MQTTVersion ∧
      true = false) := by
      rintro (h | ⟨-, h⟩)
      · exact Bool.false_ne_true (hc.keeps.1.symm.trans h)
      · exact Bool.false_ne_true h.symm
    simp only
    rw [if_neg hkeep]
    set l : List Messages := c.outboundMsgs.map fun m => { m with lastTouch := 0 } with hl
    have htouched : List.Forall₂ Touched c.outboundMsgs l :=
      List.forall₂_map_right_iff.mpr (List.forall₂_same.mpr fun _ _ => rfl)
    have hdistinct : Keyed.Distinct Messages.msgid l := by
      unfold Keyed.Distinct
      rw [(find_touched htouched 0).2]
      exact hc.outbound.1
    have hconnected :
      SoundClient K version { c with connected := true, good := true, waiting := false } :=
      hc.lost (List.Sublist.refl _) rfl
    have hsound : SoundClient K version
        { c with connected := true, good := true, waiting := false, outboundMsgs := l } :=
      hconnected.inFlight hdistinct (stored_touched htouched hc.outbound.2) fun h => by
          rw [hl, show c.outboundMsgs = [] from h]
          rfl
    obtain ⟨c', hok, hturn, hc'⟩ := retry_turn hsound p 0 clock true true answers
    refine ⟨c', hok, hturn.of_eq (fun j => ?_) (fun j => rfl) rfl, hc'⟩
    unfold line
    rw [(find_touched htouched j).1]
    rfl
  · rw [if_neg hwait]
    exact ⟨c, rfl, turn_refl c p, hc⟩

end OasisEdge.Mqtt.Exchange
