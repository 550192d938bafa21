import OasisEdge.Mqtt.Receiver
import OasisEdge.Mqtt.Sender
import Mathlib.Algebra.Order.BigOperators.Group.Finset

/-! # Exactly once

The invariant of two clients (`Sound`), which every step keeps: each line is at one of the stages of
`Lib.Handshake`, and what a side has accepted of QoS 2 is what the other has passed on and what is
undelivered. As what is undelivered is in flight at its sender, no message is lost and none is
passed on twice (`exactly_once`). -/

namespace OasisEdge.Mqtt.Exchange

open OasisEdge.Lib OasisEdge.Lib.Handshake OasisEdge.Mqtt.MessageIds OasisEdge.Mqtt.Packet
open OasisEdge.Mqtt.Transport OasisEdge.Mqtt.Protocol
open OasisEdge.Mqtt.Properties (MQTTProperties)
open OasisEdge.Mqtt.Writes (Rc)

variable {K : Content → Prop} {version : ℕ}

/-! ### What can be sent -/

def Content.publish (version : ℕ) (x : Content) : Publish :=
  ⟨⟨0⟩, x.topic, 0, x.payload, version, x.properties⟩

/-- A message that arrives as it is sent: its topic is a string with a length of two bytes, its
properties are counted and are read as they are written, and it fits into a packet. -/
structure Sendable (version : ℕ) (x : Content) : Prop where
  topic_length : x.topic.length < 65536
  topic_noNul : ∀ b ∈ x.topic, b ≠ 0
  counted : x.properties.Counted
  length_le : x.properties.length ≤ Bytes.MAX_REMAINING_LENGTH
  size : (publishBuffers (x.publish version) x.qos).length ≤ Bytes.MAX_REMAINING_LENGTH

theorem length_publish_content {pack : Publish} (hversion : pack.MQTTVersion = version) (qos : ℕ)
    (retained : Bool) :
    (publishBuffers pack qos).length =
      (publishBuffers (Content.publish version ⟨qos, pack.topic, pack.payload, retained,
      pack.properties⟩) qos).length := by
  rw [Writes.length_publishBuffers, Writes.length_publishBuffers]
  unfold Writes.idAndProperties Content.publish
  rw [hversion, List.length_append, List.length_append]
  split_ifs
  all_goals rfl

theorem InFlight.sound {m : Message} (h : InFlight (Sendable version) version m) :
    m.Sound version ∧ m.data.length ≤ Bytes.MAX_REMAINING_LENGTH := by
  rcases m with ⟨pack, dup, qos, retained⟩ | ⟨type, msgid, dup⟩
  · obtain ⟨hversion, hqos, hid, hprops, hsend⟩ := h
    refine ⟨⟨⟨hsend.topic_length, hsend.topic_noNul, Nat.lt_succ_of_le hid, hsend.counted,
      hsend.length_le,
      fun hlt => hprops (hversion ▸ hlt)⟩, hversion, hqos⟩, ?_⟩
    exact (length_publish_content hversion qos retained).trans_le hsend.size
  · exact ⟨⟨h.1, Nat.lt_succ_of_le h.2.1⟩, Nat.le_trans (Nat.le_refl 2) (by decide)⟩

/-! ### A packet is handled -/

theorem handle_turn {c p : Clients} (hc : SoundClient K version c) {m : Message}
    {rest : List Message} (hm : p.sent = m :: rest) (hin : InFlight K version m) (clock : ℤ)
    (answer : Rc) :
    ∃ c' rc d, c.handle (m.built c.MQTTVersion) clock answer = .ok (c', rc) ∧
      Turn (early version) c p c' (read p rest) [] d ∧ SoundClient K version c' := by
  rcases m with ⟨pack, dup, qos, retained⟩ | ⟨type, msgid, dup⟩
  · obtain ⟨d, hturn, hsound⟩ := handlePublishes_turn hc hm hin answer rfl
    exact ⟨_, _, d, rfl, hturn, hsound⟩
  · obtain ⟨htype, hid, rfl⟩ := hin
    have hlt : type < 16 := by
      simp only [List.mem_cons, List.not_mem_nil, or_false] at htype
      rcases htype with rfl | rfl | rfl | rfl
      all_goals decide
    have hq : (if type = PUBREL then 1 else 0) < 4 := by
      split_ifs
      all_goals omega
    have ht : (Message.header (.ack type msgid false)).type = type := Header.type_ofBits hlt hq _ _
    have hd : (Message.header (.ack type msgid false)).dup = false := Header.dup_ofBits hlt hq _ _
    set ack := sentAck (Message.header (.ack type msgid false)) msgid c.MQTTVersion with hack
    have hrc : ∀ rc ∈ ack.rc, rc.toNat < 128 := by
      intro rc hmem
      rw [hack] at hmem
      unfold sentAck at hmem
      simp only at hmem
      split_ifs at hmem
      · cases hmem
      · rw [← Option.some.inj hmem]
        decide
    have hhandle : c.handle (.ack ack) clock answer =
        if ack.header.type = PUBACK then .ok (c.handlePubacks msgid, .complete)
        else if ack.header.type = PUBREC then .ok (c.handlePubrecs ack msgid clock answer)
        else if ack.header.type = PUBCOMP then .ok (c.handlePubcomps msgid, .complete)
        else if ack.header.type = PUBREL then c.handlePubrels ack msgid answer
        else .ok (c, .complete) := rfl
    rw [show ack.header.type = type from ht] at hhandle
    show ∃ c' rc d, c.handle (.ack ack) clock answer = .ok (c', rc) ∧ _
    rw [hhandle]
    simp only [List.mem_cons, List.not_mem_nil, or_false] at htype
    rcases htype with rfl | rfl | rfl | rfl
    · obtain ⟨hturn, hsound⟩ := handlePubacks_turn hc hm hid
      exact ⟨_, _, [], if_pos rfl, hturn, hsound⟩
    · obtain ⟨hturn, hsound⟩ := handlePubrecs_turn hc hm hid hrc clock answer
      exact ⟨_, _, [], (if_neg (by decide)).trans (if_pos rfl), hturn, hsound⟩
    · have hdup : ack.header.dup = false := hd
      obtain ⟨c', rc, d, hok, hturn, hsound⟩ := handlePubrels_turn hc hm hid hdup answer
      exact ⟨c', rc, d, hok, hturn, hsound⟩
    · obtain ⟨hturn, hsound⟩ := handlePubcomps_turn hc hm hid
      exact ⟨_, _, [], (if_neg (by decide)).trans ((if_neg (by decide)).trans (if_pos rfl)),
        hturn, hsound⟩

/-! ### The system -/

/-- The lines from one side to the other. -/
def lines (s : System) (side : Bool) (msgid : ℕ) : Line Content :=
  line (s.clients side) (s.clients !side) msgid

@[irreducible] def ids : Finset ℕ := Finset.range (MAX_MSG_ID + 1)

theorem mem_ids {j : ℕ} (h : j ≤ MAX_MSG_ID) : j ∈ ids := by
  unfold ids
  exact Finset.mem_range.mpr (Nat.lt_succ_of_le h)

/-- What a side has accepted of QoS 2 and the other side has not passed on. -/
def undelivered (version : ℕ) (s : System) (side : Bool) : Multiset Content :=
  ∑ j ∈ ids,
    (pending (early version) (lines s side j).sending (lines s side j).held : Multiset Content)

structure Sound (K : Content → Prop) (version : ℕ) (s : System) : Prop where
  clients : ∀ side, SoundClient K version (s.clients side)
  lines : ∀ side j, Ok (early version) (lines s side j)
  balance : ∀ side, (qos2 (s.accepted side) : Multiset Content) =
    arrived2 (s.clients !side) + undelivered version s side

/-- Each line makes a move. -/
def Follows (version : ℕ) (s s' : System) : Prop :=
  ∀ side j, ∃ a d, Step (early version) (lines s side j) (lines s' side j) a d

theorem Moves.step {e : Bool} {c p c' p' : Clients} {a d : List Content} (h : Moves e c p c' p' a d)
    (j : ℕ) :
    ∃ a d, Step e (line c p j) (line c' p' j) a d := by
  obtain ⟨k, -, hstep, hother⟩ := h
  by_cases hj : j = k
  · rw [hj]
    exact ⟨a, d, hstep⟩
  · exact ⟨[], [], hother j hj⟩

/-- The law for the lines from one side to the other. -/
theorem Moves.balance {s : System} (s' : System) {side : Bool} {a d : List Content}
    (h : Moves (early version) (s.clients side) (s.clients !side) (s'.clients side)
      (s'.clients !side) a d)
    (hok : ∀ j, Ok (early version) (lines s side j)) :
    (∀ j, Ok (early version) (lines s' side j)) ∧
      (a : Multiset Content) + undelivered version s side = d + undelivered version s' side := by
  obtain ⟨k, hk, hstep, hother⟩ := h
  exact Step.sum (mem_ids hk) hstep hother hok

/-- **A turn of one side keeps what is known of the system.** -/
theorem Sound.turn {s : System} (h : Sound K version s) (s' : System) (side : Bool)
    {a d x : List Content}
    (hturn : Turn (early version) (s.clients side) (s.clients !side) (s'.clients side)
      (s'.clients !side) a d)
    (hside : SoundClient K version (s'.clients side))
    (hother : SoundClient K version (s'.clients !side))
    (haccepted : s'.accepted = Function.update s.accepted side (s.accepted side ++ x))
    (hx : qos2 x = a) :
    Sound K version s' ∧ Follows version s s' := by
  have hmoves : ∀ d' : Bool, (∀ j, Ok (early version) (Exchange.lines s' d' j)) ∧
      (qos2 (s'.accepted d') : Multiset Content) =
        arrived2 (s'.clients !d') + undelivered version s' d' ∧
      ∀ j, ∃ a d, Step (early version) (Exchange.lines s d' j) (Exchange.lines s' d' j) a d := by
    intro d'
    by_cases hd' : d' = side
    · subst hd'
      obtain ⟨hok, hbal⟩ := hturn.sender.balance s' (h.lines d')
      refine ⟨hok, ?_, hturn.sender.step⟩
      have harr : arrived2 (s'.clients !d') = arrived2 (s.clients !d') := by
        unfold arrived2
        rw [hturn.other]
      have hacc : qos2 (s'.accepted d') = qos2 (s.accepted d') ++ a := by
        rw [haccepted, Function.update_self, qos2_append, hx]
      rw [hacc, harr, ← Multiset.coe_add, h.balance d', add_assoc,
        add_comm (undelivered version s d'), hbal,
        Multiset.coe_nil, zero_add]
    · obtain rfl : d' = !side := Bool.eq_not.mpr hd'
      have hrec := hturn.receiver
      have hnn : (!(!side)) = side := Bool.not_not side
      have hmv : Moves (early version) (s.clients !side) (s.clients !(!side)) (s'.clients !side)
          (s'.clients !(!side)) [] d := by
        rw [hnn]
        exact hrec
      obtain ⟨hok, hbal⟩ := hmv.balance s' (h.lines !side)
      refine ⟨hok, ?_, hmv.step⟩
      have hacc : s'.accepted (!side) = s.accepted (!side) := by
        rw [haccepted, Function.update_of_ne hd']
      have harr := hturn.arrived
      have hbefore := h.balance (!side)
      rw [hnn] at hbefore ⊢
      rw [hacc, hbefore, harr, ← Multiset.coe_add, add_assoc, ← hbal, Multiset.coe_nil, zero_add]
  refine ⟨⟨fun d' => ?_, fun d' => (hmoves d').1, fun d' => (hmoves d').2.1⟩, fun d' =>
    (hmoves d').2.2⟩
  by_cases hd' : d' = side
  · rw [hd']
    exact hside
  · obtain rfl : d' = !side := Bool.eq_not.mpr hd'
    exact hother

/-- What is known of a message that is published. -/
def Act.Fits (K : Content → Prop) (version : ℕ) : Act → Prop
  | .publish _ topicName payload qos retained properties _ _ =>
    K ⟨qos, topicName, payload, retained, versionProperties version properties⟩
  | _ => True

theorem Sound.set {s : System} (h : Sound K version s) {side : Bool} {c' : Clients}
    (hturn : Turn (early version) (s.clients side) (s.clients !side) c' (s.clients !side) [] [])
    (hc' : SoundClient K version c') :
    Sound K version (s.set side c') ∧ Follows version s (s.set side c') := by
  have hside : (s.set side c').clients side = c' := Function.update_self _ _ _
  have hother : (s.set side c').clients (!side) = s.clients (!side) :=
    Function.update_of_ne (Bool.not_ne_self side) _ _
  refine h.turn (s.set side c') side (a := []) (d := []) (x := []) ?_ ?_ ?_ ?_ rfl
  · rw [hside, hother]
    exact hturn
  · rw [hside]
    exact hc'
  · rw [hother]
    exact h.clients _
  · rw [List.append_nil, Function.update_eq_self]
    rfl

theorem follows_refl (s : System) : Follows version s s := fun _ _ =>
  ⟨[], [], .lose rfl rfl (List.Sublist.refl _) (List.Sublist.refl _)⟩

theorem Sound.receive {s : System} (h : Sound (Sendable version) version s) (side : Bool)
    (clock : ℤ) (answer : Rc) :
    ∃ s', s.receive side clock answer = .ok s' ∧ Sound (Sendable version) version s' ∧
    Follows version s s' := by
  unfold System.receive
  rcases hsent : (s.clients !side).sent with _ | ⟨m, rest⟩
  · exact ⟨s, rfl, h, follows_refl s⟩
  · simp only
    split_ifs
    · have hmem : m ∈ out (s.clients !side) := by
        unfold out
        rw [hsent]
        exact List.mem_append_left _ List.mem_cons_self
      obtain ⟨c', rc, d, hok, hturn, hc'⟩ :=
        handle_turn (h.clients side) hsent ((h.clients !side).out m hmem) clock answer
      have hside : (s.received side rest c').clients side = c' := Function.update_self _ _ _
      have hother : (s.received side rest c').clients (!side) = read (s.clients !side) rest :=
        (Function.update_of_ne (Bool.not_ne_self side) _ _).trans (Function.update_self _ _ _)
      obtain ⟨hsound, hlen⟩ := ((h.clients !side).out m hmem).sound
      rw [(h.clients side).sameVersion, factory_message hsound hlen]
      rw [(h.clients side).sameVersion] at hok
      refine ⟨s.received side rest c', congrArg (Except.map _) hok,
        h.turn _ side (a := []) (d := d) (x := []) ?_ ?_ ?_ ?_ rfl⟩
      · rw [hside, hother]
        exact hturn
      · rw [hside]
        exact hc'
      · rw [hother]
        refine (h.clients !side).lost ?_ rfl
        rw [out_read hsent]
        exact List.sublist_cons_self _ _
      · rw [List.append_nil, Function.update_eq_self]
        rfl
    · exact ⟨s, rfl, h, follows_refl s⟩

theorem Sound.connect {s : System} (h : Sound K version s) :
    Sound K version { s with clients := fun side => reconnected (s.clients side) } ∧
      Follows version s { s with clients := fun side => reconnected (s.clients side) } := by
  have hout : ∀ c : Clients, (out (reconnected c)).Sublist (out c) := fun _ => List.nil_sublist _
  have hmoves : ∀ side, Moves (early version) (s.clients side) (s.clients !side)
      (reconnected (s.clients side)) (reconnected (s.clients !side)) [] [] := fun side =>
    moves_of_step fun j => .lose rfl rfl ((hout _).filterMap _) ((hout _).filterMap _)
  have hlaw := fun side =>
    Moves.balance { s with clients := fun side => reconnected (s.clients side) }
    (hmoves side) (h.lines side)
  refine ⟨⟨fun side => (h.clients side).lost (hout _) rfl, fun side => (hlaw side).1,
    fun side => ?_⟩,
    fun side => (hmoves side).step⟩
  have hbal := (hlaw side).2
  rw [Multiset.coe_nil, zero_add, zero_add] at hbal
  show (qos2 (s.accepted side) : Multiset Content) = arrived2 (s.clients !side) + _
  rw [h.balance side, hbal]

/-- **No step stops the program, and each keeps what is known of the system.** -/
theorem Sound.step {s : System} (h : Sound (Sendable version) version s) (a : Act)
    (ha : a.Fits (Sendable version) version) :
    ∃ s', Exchange.step s a = .ok (s', []) ∧ Sound (Sendable version) version s' ∧
    Follows version s s' := by
  rcases a with ⟨side, topicName, payload, qos, retained, properties, clock, answer⟩ |
    ⟨side, clock, answer⟩ | ⟨side, written⟩ | ⟨side, now, clock, doRetry, answers⟩ | ⟨side⟩ | _ |
    ⟨side, clock, answers⟩
  case publish =>
    have hc := h.clients side
    obtain ⟨c', accepted, hok, hc', hturn⟩ :=
      publish5_turn hc (s.clients !side) topicName payload qos
      retained properties clock answer rfl (by rw [hc.sameVersion]; exact ha)
    have hside : (s.set side c').clients side = c' := Function.update_self _ _ _
    have hother : (s.set side c').clients (!side) = s.clients (!side) :=
      Function.update_of_ne (Bool.not_ne_self side) _ _
    refine ⟨s.published side _ (c', accepted), congrArg (Except.map _) hok,
      h.turn (s.published side _ (c', accepted)) side (d := []) ?_ ?_ ?_ rfl rfl⟩
    · show Turn _ _ _ ((s.set side c').clients side) ((s.set side c').clients (!side)) _ _
      rw [hside, hother]
      exact hturn
    · show SoundClient (Sendable version) version ((s.set side c').clients side)
      rw [hside]
      exact hc'
    · show SoundClient (Sendable version) version ((s.set side c').clients (!side))
      rw [hother]
      exact h.clients _
  case receive =>
    obtain ⟨s', hok, hs'⟩ := h.receive side clock answer
    exact ⟨s', congrArg (Except.map _) hok, hs'⟩
  case writeComplete =>
    obtain ⟨hturn, hc'⟩ := writeComplete_turn (h.clients side) (s.clients !side) written
    exact ⟨_, rfl, h.set hturn hc'⟩
  case retry =>
    obtain ⟨c', hok, hturn, hc'⟩ :=
      retry_turn (h.clients side) (s.clients !side) now clock doRetry false answers
    exact ⟨s.set side c', congrArg (Except.map _) hok, h.set hturn hc'⟩
  case closeSession =>
    obtain ⟨hturn, hc'⟩ := closeSession_turn (h.clients side) (s.clients !side)
    exact ⟨_, rfl, h.set hturn hc'⟩
  case connect => exact ⟨_, rfl, h.connect⟩
  case completeConnection =>
    obtain ⟨c', hok, hturn, hc'⟩ :=
      completeConnection_turn (h.clients side) (s.clients !side) clock answers
    exact ⟨s.set side c', congrArg (Except.map _) hok, h.set hturn hc'⟩

/-! ### Runs -/

structure Config where
  sessionExpiry : ℕ
  retryInterval : ℤ
  maxInflightMessages : ℕ

def newClient (version : ℕ) (conf : Config) : Clients where
  MQTTVersion := version
  cleansession := false
  sessionExpiry := conf.sessionExpiry
  retryInterval := conf.retryInterval
  maxInflightMessages := conf.maxInflightMessages
  connected := false
  good := false
  waiting := false
  msgID := 0
  outboundMsgs := []
  inboundMsgs := []
  sent := []
  pendingWrite := none
  arrived := []

def start (version : ℕ) (conf : Bool → Config) : System where
  clients side := newClient version (conf side)
  accepted _ := []

/-- The sessions outlive their connections. -/
def Keeps (version : ℕ) (conf : Bool → Config) : Prop :=
  MQTTVERSION_5 ≤ version → ∀ side, (conf side).sessionExpiry ≠ 0

theorem sound_start {conf : Bool → Config} (hkeep : Keeps version conf) :
    Sound K version (start version conf) := by
  refine ⟨fun side => ⟨rfl, ⟨rfl, fun hv => hkeep hv side⟩, Nat.zero_le _, fun _ => rfl,
    ⟨List.nodup_nil, fun _ h => absurd h List.not_mem_nil⟩,
    ⟨List.nodup_nil, fun _ h => absurd h List.not_mem_nil⟩, fun _ h => absurd h List.not_mem_nil⟩,
    fun _ _ => ok_start, fun side => ?_⟩
  have hnone : undelivered version (start version conf) side = 0 :=
    (Finset.sum_congr rfl fun _ _ => rfl).trans Finset.sum_const_zero
  rw [hnone]
  rfl

/-- **Every run goes on**, and what every step keeps holds at its end. -/
theorem Sound.run {acts : List Act} {s : System} (h : Sound (Sendable version) version s)
    (hacts : ∀ a ∈ acts, a.Fits (Sendable version) version) :
    ∃ s' os, Runs.exec Exchange.step s acts = .ok (s', os) ∧
    Sound (Sendable version) version s' := by
  refine Runs.exec_total (C := fun _ a => a.Fits (Sendable version) version)
    (Sound (Sendable version) version)
    (fun s a h ha => ?_) h (Runs.meets_of_forall (fun a ha _ => hacts a ha) s)
  obtain ⟨s', hstep, h', -⟩ := h.step a ha
  exact ⟨s', [], hstep, h'⟩

def inFlight2 (m : Messages) : Option Content :=
  if m.qos = 2 then m.publish.map (storedContent m) else none

/-- What the sender is at, as what it has in flight. -/
def content : Sending Content → List Content
  | .idle => []
  | .offered x => [x]
  | .released x => [x]

theorem pending_le_content (e : Bool) (x : Sending Content) (held : Option (Option Content)) :
    (pending e x held).Sublist (content x) := by
  rcases x with _ | x | x
  · exact List.Sublist.refl _
  · rcases held with _ | h
    · exact List.Sublist.refl _
    · rcases e with _ | _
      · exact List.Sublist.refl _
      · exact List.nil_sublist _
  · rcases held with _ | h
    · exact List.nil_sublist _
    · rcases e with _ | _
      · exact List.Sublist.refl _
      · exact List.nil_sublist _

theorem content_sendingOf (m : Messages) : content (sendingOf (some m)) = (inFlight2 m).toList := by
  unfold sendingOf inFlight2
  simp only
  rcases m.publish with _ | b
  · rw [Option.map_none, ite_self]
    rfl
  · simp only
    split_ifs
    · rfl
    · rfl
    · rfl

/-- What is not delivered is in flight at its sender. -/
theorem Sound.undelivered_le {s : System} (h : Sound K version s) (side : Bool) :
    undelivered version s side ≤
    (((s.clients side).outboundMsgs.filterMap inFlight2 : List Content) :
      Multiset Content) := by
  have hc := h.clients side
  have hsum := Keyed.sum_find (g := fun m => (content (sendingOf m) : Multiset Content)) rfl
    hc.outbound.1 fun m hm => mem_ids (hc.outbound.2 m hm).msgid_le
  have hlist : ∀ l : List Messages,
    (l.map fun m => (content (sendingOf (some m)) : Multiset Content)).sum =
      ((l.filterMap inFlight2 : List Content) : Multiset Content) := by
    intro l
    induction l with
    | nil => rfl
    | cons m l ih =>
      rw [List.map_cons, List.sum_cons, ih, content_sendingOf, List.filterMap_cons]
      rcases inFlight2 m with _ | x
      · exact zero_add _
      · rfl
  rw [← hlist, ← hsum]
  exact Finset.sum_le_sum fun j _ => Multiset.coe_le.mpr (pending_le_content _ _ _).subperm

theorem exists_rest {l l' l'' : List Content} {u : Multiset Content}
    (h : (l : Multiset Content) = l' + u) (hle : u ≤ l'') :
    ∃ rest : List Content, l.Perm (l' ++ rest) ∧ rest.Subperm l'' := by
  obtain ⟨rest, rfl⟩ := Quot.exists_rep u
  exact ⟨rest, Multiset.coe_eq_coe.mp h, Multiset.coe_le.mp hle⟩

/-- **QoS 2 between two clients.** In every run, in whatever order messages are published, packets
read, connections closed and opened and packets sent again: what was accepted is what was passed on
and messages that are still in flight at their sender. So nothing is passed on twice, and nothing is
lost. -/
theorem exactly_once {version : ℕ} {conf : Bool → Config} (hkeep : Keeps version conf)
    {acts : List Act} (hacts : ∀ a ∈ acts, a.Fits (Sendable version) version) :
    ∃ s os, Runs.exec step (start version conf) acts = .ok (s, os) ∧ ∀ side, ∃ rest : List Content,
      (qos2 (s.accepted side)).Perm (arrived2 (s.clients !side) ++ rest) ∧
      rest.Subperm ((s.clients side).outboundMsgs.filterMap inFlight2) := by
  obtain ⟨s, os, hrun, h⟩ := (sound_start hkeep).run hacts
  exact ⟨s, os, hrun, fun side => exists_rest (h.balance side) (h.undelivered_le side)⟩

theorem sendable_letter : Sendable 4 ⟨2, [116], [1, 2], false, versionProperties 4 .initializer⟩ :=
  ⟨by decide, by simp, Properties.counted_initializer, by decide, by decide⟩

/-- A run in which the connection breaks behind the PUBREC, and the rest of the transfer is done on
the next one. -/
theorem exactly_once_broken : ∃ s os, Runs.exec step (start 4 fun _ => ⟨0, 0, 10⟩)
      [.connect, .completeConnection true 0 [], .completeConnection false 0 [],
        .publish true [116] [1, 2] 2 false .initializer 0 .complete, .receive false 0 .complete,
        .closeSession true, .connect, .completeConnection false 0 [],
        .completeConnection true 0 [.interrupted], .writeComplete true true,
        .receive false 0 .complete, .receive true 0 .complete, .receive false 0 .complete] = .ok (s, os) ∧
    ∀ side, ∃ rest : List Content,
      (qos2 (s.accepted side)).Perm (arrived2 (s.clients !side) ++ rest) ∧
      rest.Subperm ((s.clients side).outboundMsgs.filterMap inFlight2) :=
  exactly_once (fun h => absurd h (by decide)) (by
    simp only [List.forall_mem_cons, List.not_mem_nil, false_implies, implies_true, and_true]
    exact ⟨trivial, trivial, trivial, sendable_letter, trivial, trivial, trivial, trivial, trivial,
      trivial, trivial, trivial, trivial⟩)

/-! ### A release that is never answered -/

theorem sendingOf_eq_released {m : Option Messages} {x : Content} (h : sendingOf m = .released x) :
    ∃ m' p, m = some m' ∧ m'.publish = some p ∧ m'.qos = 2 ∧ m'.nextMessageType ≠ some PUBREC ∧
      storedContent m' p = x := by
  rcases m with _ | m
  · cases h
  · unfold sendingOf at h
    rcases hp : m.publish with _ | p
    · simp only [hp] at h
      cases h
    · simp only [hp] at h
      split_ifs at h with hqos hnext
      exact ⟨m, p, rfl, hp, hqos, hnext, Sending.released.inj h⟩

/-- A line that is stuck stays so in every run. -/
theorem Sound.run_stuck {side : Bool} {msgid : ℕ} : ∀ {acts : List Act} {s : System},
    Sound (Sendable version) version s → (∀ a ∈ acts, a.Fits (Sendable version) version) →
    Stuck (Exchange.lines s side msgid) →
    ∃ s' os, Runs.exec Exchange.step s acts = .ok (s', os) ∧
      (Exchange.lines s' side msgid).sending = (Exchange.lines s side msgid).sending
  | [], s, _, _, _ => ⟨s, [], rfl, rfl⟩
  | a :: acts, s, h, hacts, hstuck => by
    obtain ⟨s₁, hstep, h₁, hfollows⟩ := h.step a (hacts a List.mem_cons_self)
    obtain ⟨_, _, hmove⟩ := hfollows side msgid
    obtain ⟨hstuck₁, hsending, -⟩ := hmove.stuck hstuck
    obtain ⟨s₂, os, hexec, h₂⟩ :=
      h₁.run_stuck (fun b hb => hacts b (List.mem_cons_of_mem _ hb)) hstuck₁
    exact ⟨s₂, os, Runs.exec_cons_eq_ok.mpr ⟨s₁, [], os, hstep, hexec, rfl⟩, h₂.trans hsending⟩

/-- **A PUBCOMP that is lost with its connection is never sent again.** The release is sent again on
each connection, but not marked as a duplicate, and the receiver does not answer it as it holds
nothing: in every run from there on the message is in flight and its id in use. -/
theorem release_never_completed {version : ℕ} {conf : Bool → Config} (hkeep : Keeps version conf)
    {acts : List Act} (hacts : ∀ a ∈ acts, a.Fits (Sendable version) version) {s : System}
    {os : List Unit} (hrun : Runs.exec step (start version conf) acts = .ok (s, os)) {side : Bool}
    {msgid : ℕ} {m : Messages} (hfind : findMsg msgid (s.clients side).outboundMsgs = some m)
    (hqos : m.qos = 2) (hnext : m.nextMessageType = some PUBCOMP)
    (hnone : findMsg msgid (s.clients !side).inboundMsgs = none) {acts' : List Act}
    (hacts' : ∀ a ∈ acts', a.Fits (Sendable version) version) :
    ∃ s' os' m', Runs.exec step s (.connect :: acts') = .ok (s', os') ∧
      findMsg msgid (s'.clients side).outboundMsgs = some m' ∧ inFlight2 m' = inFlight2 m ∧
      m'.nextMessageType ≠ some PUBREC := by
  obtain ⟨s₀, os₀, hexec, h⟩ := (sound_start hkeep).run hacts
  obtain ⟨rfl, -⟩ := Prod.mk.inj (Except.ok.inj (hrun.symm.trans hexec))
  obtain ⟨p, hp, -⟩ := ((h.clients side).outbound.2 m (Keyed.mem_of_find hfind)).publish
  have hsending : (lines s side msgid).sending = .released (storedContent m p) :=
    (congrArg sendingOf hfind).trans (sendingOf_released hp hqos hnext)
  obtain ⟨hconnect, -⟩ := h.connect
  have hstuck :
    Stuck (lines { s with clients := fun side => reconnected (s.clients side) } side msgid) :=
    ⟨⟨_, hsending⟩, congrArg (Option.map heldOf) hnone, fun _ hx => absurd hx List.not_mem_nil,
      fun _ hx => absurd hx List.not_mem_nil⟩
  obtain ⟨s', os', hexec', hsame⟩ := hconnect.run_stuck hacts' hstuck
  obtain ⟨m', p', hfind', hp', hqos', hnext', hcontent⟩ :=
    sendingOf_eq_released (hsame.trans hsending)
  refine ⟨s', os', m', Runs.exec_cons_eq_ok.mpr ⟨_, [], os', rfl, hexec', rfl⟩, hfind', ?_, hnext'⟩
  unfold inFlight2
  rw [if_pos hqos', if_pos hqos, hp', hp, Option.map_some, Option.map_some, hcontent]

/-- The PUBCOMP of a message is lost, and the message stays in flight over the next connection. -/
theorem release_never_completed_lost : ∃ s os s' os' m',
    Runs.exec step (start 4 fun _ => ⟨0, 0, 10⟩) [.connect, .completeConnection true 0 [],
        .completeConnection false 0 [], .publish true [116] [1, 2] 2 false .initializer 0 .complete,
        .receive false 0 .complete, .receive true 0 .complete,
          .receive false 0 .complete] = .ok (s, os) ∧
      Runs.exec step s (.connect :: [.completeConnection true 0 [], .completeConnection false 0 [],
        .receive false 0 .complete, .receive true 0 .complete]) = .ok (s', os') ∧
      findMsg 1 (s'.clients true).outboundMsgs = some m' ∧ m'.nextMessageType ≠ some PUBREC := by
  have hkeep : Keeps 4 fun _ => ⟨0, 0, 10⟩ := fun h => absurd h (by decide)
  have hends : Runs.Ends (Runs.exec step (start 4 fun _ => ⟨0, 0, 10⟩) [.connect,
      .completeConnection true 0 [], .completeConnection false 0 [],
      .publish true [116] [1, 2] 2 false .initializer 0 .complete, .receive false 0 .complete,
      .receive true 0 .complete, .receive false 0 .complete]) fun s _ =>
        ((findMsg 1 (s.clients true).outboundMsgs).map fun m => (m.qos, m.nextMessageType)) =
          some (2, some PUBCOMP) ∧ findMsg 1 (s.clients false).inboundMsgs = none := by
            decide +kernel
  have hacts' : ∀ a ∈ ([.completeConnection true 0 [], .completeConnection false 0 [],
      .receive false 0 .complete, .receive true 0 .complete] : List Act),
      a.Fits (Sendable 4) 4 := by
    simp only [List.forall_mem_cons, List.not_mem_nil, false_implies, implies_true, and_true]
    exact ⟨trivial, trivial, trivial, trivial⟩
  obtain ⟨s, os, hrun, hm, hnone⟩ := hends
  obtain ⟨m, hfind, hm⟩ := Option.map_eq_some_iff.mp hm
  obtain ⟨hqos, hnext⟩ := Prod.mk.inj hm
  obtain ⟨s', os', m', hexec, hfind', -, hnext'⟩ := release_never_completed hkeep (by
      simp only [List.forall_mem_cons, List.not_mem_nil, false_implies, implies_true, and_true]
      exact ⟨trivial, trivial, trivial, sendable_letter, trivial, trivial, trivial⟩) hrun hfind
        hqos hnext hnone
    hacts'
  exact ⟨s, os, s', os', m', hrun, hexec, hfind', hnext'⟩

end OasisEdge.Mqtt.Exchange
