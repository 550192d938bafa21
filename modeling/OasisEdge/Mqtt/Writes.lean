import OasisEdge.Mqtt.Delivery
import OasisEdge.Mqtt.Sockets

/-! # Runs of writes

`Socket_continueWrites` goes on with a pending write whenever the socket is writable; no other
packet is written to the socket before (`Socket_putdatas`).

So what the kernel has taken for a socket, with what still waits, are the packets that were
accepted, one after the other and whole (`run_wire`), and no buffer is used after it was freed. With
the other side of the connection reading as in `Delivery`, packets come out as they were put in,
whatever parts the two kernels make of them (`run_channel`). This needs that the kernel takes every
PUBLISH of MQTT 5 with QoS 0 whole: of one that is written in part the topic is freed, and
`SocketBuffer` is not told (`continueWrite_freed`). -/

namespace OasisEdge.Mqtt.Writes

open OasisEdge.Lib OasisEdge.Lib.Chars OasisEdge.Lib.Heaps OasisEdge.Mqtt.Bytes
open OasisEdge.Mqtt.Packet
open OasisEdge.Mqtt.Delivery (wire)

/-! ### Runs -/

/-- The sockets, which of them are open, and the packets that were accepted for each. -/
structure Client where
  sockets : Sockets
  isOpen : ℕ → Bool
  accepted : ℕ → List (Header × List UInt8)

def start : Client :=
  ⟨⟨.empty (fun _ => true) [], fun _ => none, [], fun _ => ⟨[], true⟩⟩, fun _ => false, fun _ => []⟩

inductive Act
  /-- A new connection. -/
  | connect (socket : ℕ)
  /-- A packet other than PUBLISH is written, with its data or without. -/
  | send (socket : ℕ) (header : Header) (data : Option (List UInt8)) (answer : Written)
  | publish (socket : ℕ) (pack : Publish) (qos : ℕ) (retained : Bool) (answer : Written)
  /-- A PUBLISH is sent again. -/
  | retry (socket : ℕ) (pack : Publish) (qos : ℕ) (retained : Bool) (answer : Written)
  /-- A pending write goes on. -/
  | continueWrite (socket : ℕ) (answer : Written)
  /-- `Socket_close`. -/
  | close (socket : ℕ)

/-- A packet that was written, unless it was refused. -/
def Client.put (c : Client) (socket : ℕ) (p : Header × List UInt8) (r : Sockets × Rc) : Client :=
  { c with
    sockets := r.1
    accepted := if r.2 = .error then c.accepted
      else Function.update c.accepted socket (c.accepted socket ++ [p]) }

/-- One step. A write goes on only if one is pending. -/
def step (c : Client) : Act → Except Misuse (Client × List Unit)
  | .connect socket =>
    if c.isOpen socket then .ok (c, [])
    else
      .ok (⟨c.sockets.setChannel socket ⟨[], false⟩, Function.update c.isOpen socket true,
        Function.update c.accepted socket []⟩, [])
  | .send socket header data answer =>
    (sendBuffer c.sockets socket header data answer).map fun r =>
      (c.put socket (header, data.getD []) r, [])
  | .publish socket pack qos retained answer =>
    (startPublish c.sockets socket pack qos retained answer).map fun r =>
      (c.put socket (.ofBits PUBLISH false qos retained, publishBuffers pack qos) r, [])
  | .retry socket pack qos retained answer =>
    (retryPublish c.sockets socket pack qos retained answer).map fun r =>
      (c.put socket (.ofBits PUBLISH true qos retained, publishBuffers pack qos) r, [])
  | .continueWrite socket answer =>
    if noPendingWrites c.sockets socket then .ok (c, [])
    else (Writes.continueWrite c.sockets socket answer).map fun sockets => ({ c with sockets }, [])
  | .close socket =>
    (Writes.close c.sockets socket).map fun sockets =>
      ({ c with sockets, isOpen := Function.update c.isOpen socket false }, [])

/-- The kernel takes a PUBLISH of MQTT 5 with QoS 0 whole. -/
def Act.Kept : Act → Prop
  | .publish _ pack qos retained answer => qos = 0 → MQTTVERSION_5 ≤ pack.MQTTVersion →
      answer.Whole (Packet.send (.ofBits PUBLISH false qos retained)
      (publishBuffers pack qos)).length
  | _ => True

instance (a : Act) : Decidable a.Kept := by
  rcases a
  all_goals unfold Act.Kept; infer_instance

/-- What is left of a pending write: the bytes are in the memory. -/
inductive Rest (m : Memory) : Option PendingWrites → List UInt8 → Prop
  | nothing : Rest m none []
  | left {pw : PendingWrites} {bytes : List UInt8} (hbacked : Backed m pw bytes) :
      Rest m (some pw) (bytes.drop pw.bytes)

/-- What has been accepted for a connection has been taken, or is left, if the connection is not
broken. -/
def Whole (ch : Channel) (rest : List UInt8) (accepted : List (Header × List UInt8)) : Prop :=
  if ch.broken then rest = [] ∧ ch.taken <+: wire accepted
  else ch.taken ++ rest = wire accepted

def blocks (w : Option PendingWrites) : List ℕ := (w.map fun pw => pw.iovecs.map Iobuf.base).getD []

/-- What holds of a socket between two steps. -/
structure SoundAt (m : Memory) (listed : Prop) (w : Option PendingWrites) (ch : Channel)
    (isOpen : Bool) (accepted : List (Header × List UInt8)) : Prop where
  listed : listed ↔ w ≠ none
  closed : isOpen = false → ch.broken = true
  whole : ∃ rest, Rest m w rest ∧ Whole ch rest accepted

structure Sound (c : Client) : Prop where
  bounded : c.sockets.memory.Bounded
  nodup : c.sockets.writePending.Nodup
  soundAt : ∀ s, SoundAt c.sockets.memory (s ∈ c.sockets.writePending) (c.sockets.writes s)
    (c.sockets.channels s) (c.isOpen s) (c.accepted s)
  apart : ∀ s s', s ≠ s' → ∀ b ∈ blocks (c.sockets.writes s), b ∉ blocks (c.sockets.writes s')

theorem sound_start : Sound start := by
  refine ⟨Heap.bounded_empty _ _, List.nodup_nil, fun s =>
    ⟨?_, fun _ => rfl, [], .nothing, rfl, List.nil_prefix⟩,
    fun s s' _ b hb => absurd hb List.not_mem_nil⟩
  exact iff_of_false List.not_mem_nil fun h => h rfl

section
variable {m m' : Memory} {w : Option PendingWrites} {rest : List UInt8}

theorem Rest.spared {freed : List ℕ} (h : Rest m w rest) (hs : Heap.Spares freed m m')
    (hw : ∀ b ∈ blocks w, b ∉ freed) : Rest m' w rest := by
  rcases h with _ | ⟨⟨l, hshows, hflat⟩, hnodup, htotal, hlt⟩
  · exact .nothing
  · exact .left ⟨⟨l, shows_spared hshows hs fun v hv => hw _ (List.mem_map_of_mem hv), hflat⟩,
      hnodup, htotal, hlt⟩

theorem live_of_shows {vs : List Iobuf} {l : List (List UInt8)} (h : List.Forall₂ (Shows m) vs l) :
    ∀ b ∈ vs.map Iobuf.base, ∃ block, m.Holds b block := by
  induction h with
  | nil => exact fun _ h => absurd h List.not_mem_nil
  | cons hv _ ih =>
    intro b hb
    rcases List.mem_cons.mp hb with rfl | hb
    · exact hv.live
    · exact ih b hb

theorem Rest.lt (h : Rest m w rest) (hm : m.Bounded) : ∀ b ∈ blocks w, b < m.mallocs := by
  rcases h with _ | ⟨⟨l, hshows, -⟩, -, -, -⟩
  · exact fun _ h => absurd h List.not_mem_nil
  · intro b hb
    obtain ⟨_, hholds⟩ := live_of_shows hshows b hb
    exact hholds.lt hm

theorem Rest.eq_none (h : Rest m w rest) (hnil : rest = []) : w = none := by
  rcases h with _ | ⟨-, -, htotal, hlt⟩
  · rfl
  · have hlen := List.drop_eq_nil_iff.mp hnil
    omega

end

/-- A step at one socket, with the blocks of its pending write freed at most. -/
theorem Sound.set {c c' : Client} (h : Sound c) (socket : ℕ) {freed : List ℕ}
    (hspares : Heap.Spares freed c.sockets.memory c'.sockets.memory)
    (hfreed : ∀ b ∈ freed, b ∈ blocks (c.sockets.writes socket))
    (hnodup : c'.sockets.writePending.Nodup)
    (hother : ∀ s ≠ socket, (s ∈ c'.sockets.writePending ↔ s ∈ c.sockets.writePending) ∧
      c'.sockets.writes s = c.sockets.writes s ∧ c'.sockets.channels s = c.sockets.channels s ∧
        c'.isOpen s = c.isOpen s ∧ c'.accepted s = c.accepted s)
    (hblocks : ∀ b ∈ blocks (c'.sockets.writes socket),
      b ∈ blocks (c.sockets.writes socket) ∨ c.sockets.memory.mallocs ≤ b)
    (hat : SoundAt c'.sockets.memory (socket ∈ c'.sockets.writePending) (c'.sockets.writes socket)
      (c'.sockets.channels socket) (c'.isOpen socket) (c'.accepted socket)) : Sound c' := by
  -- the blocks of the socket are not those of another one
  have hapart : ∀ s ≠ socket, ∀ b ∈ blocks (c'.sockets.writes socket),
    b ∉ blocks (c.sockets.writes s) := by
    intro s hs b hb hmem
    rcases hblocks b hb with hold | hfresh
    · exact h.apart socket s (Ne.symm hs) b hold hmem
    · obtain ⟨rest, hrest, -⟩ := (h.soundAt s).whole
      exact absurd (hrest.lt h.bounded b hmem) (Nat.not_lt.mpr hfresh)
  refine ⟨hspares.bounded, hnodup, fun s => ?_, fun s s' hne b hb => ?_⟩
  · by_cases hs : s = socket
    · rw [hs]
      exact hat
    · obtain ⟨hlisted, hwrites, hchannel, hopen, haccepted⟩ := hother s hs
      rw [hwrites, hchannel, hopen, haccepted, propext hlisted]
      obtain ⟨hl, hclosed, rest, hrest, hwhole⟩ := h.soundAt s
      exact ⟨hl, hclosed, rest, hrest.spared hspares fun b hb hmem =>
        h.apart s socket hs b hb (hfreed b hmem), hwhole⟩
  · by_cases hs : s = socket
    · subst hs
      rw [(hother s' (Ne.symm hne)).2.1]
      exact hapart s' (Ne.symm hne) b hb
    · rw [(hother s hs).2.1] at hb
      by_cases hs' : s' = socket
      · subst hs'
        exact fun hmem => hapart s hs b hmem hb
      · rw [(hother s' hs').2.1]
        exact h.apart s s' hne b hb

theorem Whole.broken {ch ch' : Channel} {rest : List UInt8} {accepted : List (Header × List UInt8)}
    (h : Whole ch rest accepted) (hbroken : ch'.broken = true) (htaken : ch'.taken = ch.taken) :
    Whole ch' [] accepted := by
  unfold Whole at h ⊢
  rw [if_pos hbroken, htaken]
  split_ifs at h
  · exact ⟨rfl, h.2⟩
  · exact ⟨rfl, h ▸ List.prefix_append _ _⟩

theorem wire_snoc (packs : List (Header × List UInt8)) (p : Header × List UInt8) :
    wire (packs ++ [p]) = wire packs ++ send p.1 p.2 := by
  unfold wire
  rw [List.flatMap_append, List.flatMap_singleton]

/-- A packet of which `k` bytes have been taken. -/
theorem Whole.snoc {ch : Channel} {accepted : List (Header × List UInt8)} (h : Whole ch [] accepted)
    (hgood : ch.broken = false) (p : Header × List UInt8) (k : ℕ) :
    Whole ⟨ch.taken ++ (send p.1 p.2).take k, false⟩ ((send p.1 p.2).drop k) (accepted ++ [p]) := by
  unfold Whole at h ⊢
  rw [if_neg (by rw [hgood]; exact Bool.false_ne_true), List.append_nil] at h
  rw [if_neg Bool.false_ne_true, List.append_assoc, List.take_append_drop, wire_snoc, h]

theorem SoundAt.eq_none {m : Memory} {listed : Prop} {w : Option PendingWrites} {ch : Channel}
    {isOpen : Bool} {accepted : List (Header × List UInt8)}
    (h : SoundAt m listed w ch isOpen accepted) (hnot : ¬ listed) :
    w = none := by
  by_contra hne
  exact hnot (h.listed.mpr hne)

theorem Sound.whole_nil {c : Client} (h : Sound c) {socket : ℕ}
    (hmem : socket ∉ c.sockets.writePending) :
    c.sockets.writes socket = none ∧ Whole (c.sockets.channels socket) [] (c.accepted socket) := by
  have hnone := (h.soundAt socket).eq_none hmem
  obtain ⟨rest, hrest, hwhole⟩ := (h.soundAt socket).whole
  rw [hnone] at hrest
  cases hrest
  exact ⟨hnone, hwhole⟩

theorem Sound.isOpen_of_good {c : Client} (h : Sound c) {socket : ℕ}
    (hgood : (c.sockets.channels socket).broken = false) : c.isOpen socket ≠ false := fun hopen =>
  absurd (hgood.symm.trans ((h.soundAt socket).closed hopen)) (by decide)

theorem Sound.wrote {c : Client} (h : Sound c) {socket : ℕ} {header : Header} {data : List UInt8}
    {answer : Written} {vs : List Iobuf} {r : Sockets × Rc}
    (hw : Wrote c.sockets socket (send header data) answer vs [] r) :
    Sound (c.put socket (header, data) r) := by
  have hnil : ∀ b : ℕ, b ∉ ([] : List ℕ) := fun _ => List.not_mem_nil
  obtain ⟨hlisted, hclosed, rest, hrest, hwhole⟩ := h.soundAt socket
  rcases hw with @⟨m, ch, hspares, -, hch, -⟩ | @⟨m, hspares, -, hmem, hgood, -⟩ |
    @⟨m, pw, hspares, hmem, hgood, hbacked, hfresh, -, -, -⟩
  · refine h.set socket hspares (fun b hb => absurd hb (hnil b)) h.nodup
      (fun s hs => ⟨Iff.rfl, rfl, Function.update_of_ne hs .., rfl, rfl⟩) (fun b hb => Or.inl hb) ?_
    show SoundAt m _ (c.sockets.writes socket)
      (Function.update c.sockets.channels socket ch socket) _
      (c.accepted socket)
    rw [Function.update_self]
    rcases hch with rfl | ⟨hmem, hbroken, htaken⟩
    · exact ⟨hlisted, hclosed, rest, hrest.spared hspares fun b _ => hnil b, hwhole⟩
    · obtain ⟨hnone, hwhole⟩ := h.whole_nil hmem
      rw [hnone]
      exact ⟨hnone ▸ hlisted, fun _ => hbroken, [], .nothing, hwhole.broken hbroken htaken⟩
  · obtain ⟨hnone, hwhole⟩ := h.whole_nil hmem
    refine h.set socket hspares (fun b hb => absurd hb (hnil b)) h.nodup
      (fun s hs => ⟨Iff.rfl, rfl, Function.update_of_ne hs .., rfl, Function.update_of_ne hs ..⟩)
      (fun b hb => Or.inl hb) ?_
    show SoundAt m _ (c.sockets.writes socket)
      (Function.update c.sockets.channels socket _ socket) _
      (Function.update c.accepted socket _ socket)
    rw [Function.update_self, Function.update_self, hnone]
    have hsnoc := hwhole.snoc hgood (header, data) (send header data).length
    rw [List.take_length, List.drop_length] at hsnoc
    exact ⟨hnone ▸ hlisted, fun hopen => absurd hopen (h.isOpen_of_good hgood), [], .nothing, hsnoc⟩
  · obtain ⟨hnone, hwhole⟩ := h.whole_nil hmem
    refine h.set socket hspares (fun b hb => absurd hb (hnil b)) ?_ (fun s hs => ?_)
      (fun b hb => ?_) ?_
    · refine List.nodup_append.mpr ⟨h.nodup, List.pairwise_singleton _ _, fun s hs s' hs' => ?_⟩
      rw [List.mem_singleton.mp hs']
      exact fun heq => hmem (heq ▸ hs)
    · refine ⟨?_, Function.update_of_ne hs .., Function.update_of_ne hs .., rfl,
        Function.update_of_ne hs ..⟩
      exact ⟨fun h => (List.mem_append.mp h).resolve_right fun h => hs (List.mem_singleton.mp h),
        fun h => List.mem_append_left _ h⟩
    · have hb' : b ∈ blocks (Function.update c.sockets.writes socket
          (some ((c.sockets.writes socket).getD pw)) socket) := hb
      rw [Function.update_self, hnone] at hb'
      obtain ⟨v, hv, rfl⟩ := List.mem_map.mp hb'
      exact Or.inr (hfresh v hv)
    · show SoundAt m (socket ∈ c.sockets.writePending ++ [socket])
        (Function.update c.sockets.writes socket (some ((c.sockets.writes socket).getD pw)) socket)
        (Function.update c.sockets.channels socket _ socket) _
        (Function.update c.accepted socket _ socket)
      rw [Function.update_self, Function.update_self, Function.update_self, hnone, Option.getD_none]
      exact ⟨iff_of_true (List.mem_append_right _ (List.mem_singleton_self socket))
        (Option.some_ne_none _),
        fun hopen => absurd hopen (h.isOpen_of_good hgood), _, .left hbacked,
        hwhole.snoc hgood (header, data) pw.bytes⟩

/-- A write that goes on, of a connection that is not broken. -/
theorem Whole.continued {ch : Channel} {bytes next : List UInt8} {done k : ℕ}
    {accepted : List (Header × List UInt8)} (h : Whole ch (bytes.drop done) accepted)
    (hgood : ch.broken = false) (hnext : next <+: bytes.drop done) (hk : k ≤ next.length) :
    Whole ⟨ch.taken ++ next.take k, false⟩ (bytes.drop (done + k)) accepted := by
  obtain ⟨tail, htail⟩ := hnext
  unfold Whole at h ⊢
  rw [if_neg (by rw [hgood]; exact Bool.false_ne_true)] at h
  rw [if_neg Bool.false_ne_true, ← h, ← List.drop_drop, ← htail, List.drop_append_of_le_length hk,
    List.append_assoc, ← List.append_assoc (List.take k _), List.take_append_drop]

theorem Backed.freeBuffers {s : Sockets} {pw : PendingWrites} {bytes : List UInt8}
    (h : Backed s.memory pw bytes) (hb : s.memory.Bounded) :
    ∃ m freed, s.freeBuffers pw = .ok { s with memory := m } ∧ Heap.Spares freed s.memory m ∧
      ∀ b ∈ freed, b ∈ pw.iovecs.map Iobuf.base := by
  obtain ⟨⟨l, hshows, -⟩, hnodup, -, -⟩ := h
  have hsub : ((pw.iovecs.filter Iobuf.frees).map Iobuf.base).Sublist (pw.iovecs.map Iobuf.base) :=
    List.filter_sublist.map _
  obtain ⟨m, hfree, hspares⟩ := Heap.exists_freeAll hb (hnodup.sublist hsub) fun b hmem =>
    live_of_shows hshows b (hsub.subset hmem)
  refine ⟨m, _, ?_, hspares, fun b hmem => hsub.subset hmem⟩
  unfold Sockets.freeBuffers
  rw [hfree]
  rfl

/-- The socket is left out of the pending ones. -/
theorem Sound.completed {c c' : Client} (h : Sound c) (socket : ℕ) {m : Memory} {freed : List ℕ}
    {ch : Channel} (hspares : Heap.Spares freed c.sockets.memory m)
    (hfreed : ∀ b ∈ freed, b ∈ blocks (c.sockets.writes socket))
    (hsockets : c'.sockets =
      ({ c.sockets with memory := m }.setChannel socket ch).writeComplete socket)
    (hother : ∀ s ≠ socket, c'.isOpen s = c.isOpen s ∧ c'.accepted s = c.accepted s)
    (hclosed : c'.isOpen socket = false → ch.broken = true)
    (hwhole : Whole ch [] (c'.accepted socket)) : Sound c' := by
  have hpending : c'.sockets.writePending = c.sockets.writePending.erase socket := by
    rw [hsockets]
    rfl
  have hwrites : c'.sockets.writes socket = none := by
    rw [hsockets]
    exact Function.update_self ..
  have hchannel : c'.sockets.channels socket = ch := by
    rw [hsockets]
    exact Function.update_self ..
  have hmemory : c'.sockets.memory = m := by
    rw [hsockets]
    rfl
  refine h.set socket (hmemory ▸ hspares) hfreed ?_ (fun s hs => ⟨?_, ?_, ?_, hother s hs⟩)
    (fun b hb => ?_) ?_
  · rw [hpending]
    exact h.nodup.erase socket
  · rw [hpending]
    exact List.mem_erase_of_ne hs
  · rw [hsockets]
    exact Function.update_of_ne hs ..
  · rw [hsockets]
    exact Function.update_of_ne hs ..
  · rw [hwrites] at hb
    exact absurd hb List.not_mem_nil
  · rw [hwrites, hchannel, hpending]
    refine ⟨?_, hclosed, [], .nothing, hwhole⟩
    exact iff_of_false (fun hmem => (h.nodup.mem_erase_iff.mp hmem).1 rfl) fun hne => hne rfl

theorem Sound.continueWrite {c : Client} (h : Sound c) (socket : ℕ) (answer : Written) :
    ∃ c', step c (.continueWrite socket answer) = .ok (c', []) ∧ Sound c' := by
  obtain ⟨hlisted, hclosed, rest, hrest, hwhole⟩ := h.soundAt socket
  unfold step
  simp only
  by_cases hmem : socket ∈ c.sockets.writePending
  · rw [if_neg (by unfold noPendingWrites; simpa using hmem)]
    obtain ⟨pw, hpw⟩ := Option.ne_none_iff_exists'.mp (hlisted.mp hmem)
    rw [hpw] at hrest
    rcases hrest with _ | @⟨_, bytes, hbacked⟩
    obtain ⟨⟨l, hshows, hflat⟩, -, htotal, hlt⟩ := id hbacked
    obtain ⟨l', hshows', hpre, hne⟩ := remainingIovecs_spec pw.bytes hshows (Nat.zero_le _)
    rw [Nat.sub_zero, hflat] at hpre
    unfold Writes.continueWrite
    rw [hpw]
    simp only
    rcases writev_cases hshows' (c.sockets.channels socket) answer with
      ⟨ch, hrun, hbroken, htaken, -⟩ | ⟨k, hk, hgood, -, -, hrun⟩
    · obtain ⟨m, freed, hfree, hspares, hfreed⟩ :=
        Backed.freeBuffers (s := c.sockets.setChannel socket ch) hbacked h.bounded
      rw [hrun, Heap.ok_bind]
      simp only
      rw [hfree]
      refine ⟨_, rfl, h.completed socket hspares ?_ rfl (fun _ _ => ⟨rfl, rfl⟩) (fun _ => hbroken)
        (hwhole.broken hbroken htaken)⟩
      rw [hpw]
      exact hfreed
    · have hcontinued := hwhole.continued hgood hpre hk
      rw [hrun, Heap.ok_bind]
      simp only
      split_ifs with hall
      · obtain ⟨m, freed, hfree, hspares, hfreed⟩ :=
          Backed.freeBuffers (s := c.sockets.setChannel socket
            ⟨(c.sockets.channels socket).taken ++ l'.flatten.take k, false⟩) hbacked h.bounded
        rw [hfree]
        rw [hall, htotal, List.drop_length] at hcontinued
        refine ⟨_, rfl, h.completed socket hspares ?_ rfl (fun _ _ => ⟨rfl, rfl⟩)
          (fun hopen => absurd hopen (h.isOpen_of_good hgood)) hcontinued⟩
        rw [hpw]
        exact hfreed
      · refine ⟨_, rfl, h.set socket (.refl h.bounded)
          (fun b hb => absurd hb List.not_mem_nil) h.nodup (fun s hs => ?_) (fun b hb => ?_) ?_⟩
        · exact ⟨Iff.rfl, Function.update_of_ne hs .., Function.update_of_ne hs .., rfl, rfl⟩
        · have hb' : b ∈ blocks (Function.update c.sockets.writes socket
            (some { pw with bytes := pw.bytes + k }) socket) := hb
          rw [Function.update_self] at hb'
          rw [hpw]
          exact Or.inl hb'
        · show SoundAt _ _
            (Function.update c.sockets.writes socket
              (some { pw with bytes := pw.bytes + k }) socket)
            (Function.update c.sockets.channels socket _ socket) _ (c.accepted socket)
          rw [Function.update_self, Function.update_self]
          have hlen := hpre.length_le
          rw [List.length_drop] at hlen
          have hbacked' : Backed c.sockets.memory { pw with bytes := pw.bytes + k } bytes :=
            ⟨⟨l, hshows, hflat⟩, hbacked.nodup, htotal, by simp only; omega⟩
          exact ⟨iff_of_true hmem (Option.some_ne_none _), fun hopen =>
            absurd hopen (h.isOpen_of_good hgood), _,
            .left hbacked', hcontinued⟩
  · rw [if_pos (by unfold noPendingWrites; simpa using hmem)]
    exact ⟨_, rfl, h⟩

theorem Sound.close {c : Client} (h : Sound c) (socket : ℕ) :
    ∃ c', Writes.step c (.close socket) = .ok (c', []) ∧ Sound c' := by
  obtain ⟨-, -, rest, hrest, hwhole⟩ := h.soundAt socket
  have hbroken : Whole { c.sockets.channels socket with broken := true } [] (c.accepted socket) :=
    hwhole.broken rfl rfl
  unfold Writes.step Writes.close
  simp only
  rcases hpw : c.sockets.writes socket with _ | pw
  · have hnone : (c.sockets.setChannel socket
        { c.sockets.channels socket with broken := true }).writes socket = none := hpw
    rw [hnone]
    exact ⟨_, rfl, h.completed socket (.refl h.bounded) (fun b hb => absurd hb List.not_mem_nil) rfl
      (fun s hs => ⟨Function.update_of_ne hs .., rfl⟩) (fun _ => rfl) hbroken⟩
  · have hsome : (c.sockets.setChannel socket
        { c.sockets.channels socket with broken := true }).writes socket = some pw := hpw
    rw [hpw] at hrest
    rcases hrest with _ | ⟨hbacked⟩
    obtain ⟨m, freed, hfree, hspares, hfreed⟩ := Backed.freeBuffers
      (s := c.sockets.setChannel socket { c.sockets.channels socket with broken := true })
      hbacked h.bounded
    rw [hsome]
    simp only
    rw [hfree]
    refine ⟨_, rfl, h.completed socket hspares ?_ rfl
      (fun s hs => ⟨Function.update_of_ne hs .., rfl⟩) (fun _ => rfl)
      hbroken⟩
    rw [hpw]
    exact hfreed

theorem Sound.step {c : Client} (h : Sound c) (a : Act) (ha : a.Kept) :
    ∃ c' out, step c a = .ok (c', out) ∧ Sound c' := by
  rcases a with socket | ⟨s, header, data, answer⟩ | ⟨s, pack, qos, retained, answer⟩ |
    ⟨s, pack, qos, retained, answer⟩ | ⟨s, answer⟩ | socket
  · unfold Writes.step
    simp only
    split_ifs with hopen
    · exact ⟨_, _, rfl, h⟩
    · obtain ⟨hlisted, hclosed, rest, hrest, hwhole⟩ := h.soundAt socket
      unfold Whole at hwhole
      rw [if_pos (hclosed (by simpa using hopen))] at hwhole
      refine ⟨_, _, rfl, h.set socket (.refl h.bounded)
        (fun b hb => absurd hb List.not_mem_nil) h.nodup (fun s hs => ?_)
        (fun b hb => Or.inl hb) ?_⟩
      · exact ⟨Iff.rfl, rfl, Function.update_of_ne hs .., Function.update_of_ne hs ..,
          Function.update_of_ne hs ..⟩
      · show SoundAt _ _ (c.sockets.writes socket)
          (Function.update c.sockets.channels socket _ socket)
          (Function.update c.isOpen socket true socket)
          (Function.update c.accepted socket [] socket)
        rw [Function.update_self, Function.update_self, Function.update_self]
        exact ⟨hlisted, fun h => absurd h (by decide), rest, hrest, hwhole.1⟩
  · obtain ⟨r, vs, hsend, hwrote⟩ := sendBuffer_wrote s answer h.bounded header data
    exact ⟨_, [], congrArg (Except.map _) hsend, h.wrote hwrote⟩
  · obtain ⟨r, vs, hsend, hwrote⟩ := startPublish_wrote s answer h.bounded
      (fun hmem => (h.whole_nil hmem).1) pack qos retained ha
    exact ⟨_, [], congrArg (Except.map _) hsend, h.wrote hwrote⟩
  · obtain ⟨r, vs, hsend, hwrote⟩ := retryPublish_wrote s answer h.bounded pack qos retained
    exact ⟨_, [], congrArg (Except.map _) hsend, h.wrote hwrote⟩
  · obtain ⟨c', hstep, hc'⟩ := h.continueWrite s answer
    exact ⟨c', [], hstep, hc'⟩
  · obtain ⟨c', hstep, hc'⟩ := h.close socket
    exact ⟨c', [], hstep, hc'⟩

theorem Sound.run {acts : List Act} (hacts : ∀ a ∈ acts, a.Kept) :
    ∃ c out, Runs.exec Writes.step start acts = .ok (c, out) ∧ Sound c :=
  Runs.exec_total Sound (fun _ a h ha => h.step a ha) sound_start
    (Runs.meets_of_forall (C := fun _ => Act.Kept) (fun a ha _ => hacts a ha) start)

theorem Sound.taken {c : Client} (h : Sound c) (s : ℕ) :
    (c.sockets.channels s).taken <+: wire (c.accepted s) ∧
      ((c.sockets.channels s).broken = false → noPendingWrites c.sockets s = true →
        (c.sockets.channels s).taken = wire (c.accepted s)) := by
  obtain ⟨-, -, rest, hrest, hwhole⟩ := h.soundAt s
  unfold Whole at hwhole
  split_ifs at hwhole with hbroken
  · exact ⟨hwhole.2, fun hgood => absurd (hgood.symm.trans hbroken) (by decide)⟩
  · refine ⟨hwhole ▸ List.prefix_append _ _, fun hgood hno => ?_⟩
    obtain ⟨-, hwhole⟩ := h.whole_nil (by unfold noPendingWrites at hno; simpa using hno)
    unfold Whole at hwhole
    rwa [if_neg hbroken, List.append_nil] at hwhole

/-- **What the kernel has taken for a connection** are the packets that were accepted, one after the
other, up to what is pending: whole packets if nothing is, and the start of them if the connection
is broken. No buffer is used after it was freed. -/
theorem run_wire {acts : List Act} (hacts : ∀ a ∈ acts, a.Kept) :
    ∃ c out, Runs.exec step start acts = .ok (c, out) ∧ ∀ s,
      (c.sockets.channels s).taken <+: wire (c.accepted s) ∧
        ((c.sockets.channels s).broken = false → noPendingWrites c.sockets s = true →
          (c.sockets.channels s).taken = wire (c.accepted s)) := by
  obtain ⟨c, out, hrun, h⟩ := Sound.run hacts
  exact ⟨c, out, hrun, h.taken⟩

/-- A QoS 0 message of MQTT 3.1.1 is written in three turns, with another socket in between that
breaks. -/
theorem run_wire_two : ∃ c out, Runs.exec step start [.connect 1, .connect 2,
      .publish 1 ⟨⟨0⟩, [116, 47], 0, [1, 2, 3], 4, .initializer⟩ 0 false (.wrote 3),
      .publish 2 ⟨⟨0⟩, [116], 7, [1], 5, .initializer⟩ 1 true (.wrote 5),
        .continueWrite 1 (.wrote 1),
      .continueWrite 2 .error, .send 1 ⟨192⟩ none (.wrote 2), .close 2, .continueWrite 1 (.wrote 9),
      .send 1 ⟨64⟩ (some [0, 7]) .again] = .ok (c, out) ∧
    ∀ s, (c.sockets.channels s).taken <+: wire (c.accepted s) ∧
      ((c.sockets.channels s).broken = false → noPendingWrites c.sockets s = true →
        (c.sockets.channels s).taken = wire (c.accepted s)) :=
  run_wire (by decide)

/-! ### A pending write comes to its end -/

def bytesLeft (w : Option PendingWrites) : ℕ := (w.map fun pw => pw.total - pw.bytes).getD 0

theorem Sound.noPendingWrites {c : Client} (h : Sound c) {s : ℕ}
    (hzero : bytesLeft (c.sockets.writes s) = 0) :
    noPendingWrites c.sockets s = true := by
  obtain ⟨hlisted, -, rest, hrest, -⟩ := h.soundAt s
  have hnone : c.sockets.writes s = none := by
    rcases hw : c.sockets.writes s with _ | pw
    · rfl
    · rw [hw] at hrest hzero
      rcases hrest with _ | ⟨-, -, -, hlt⟩
      have hsub : pw.total - pw.bytes = 0 := hzero
      omega
  unfold Writes.noPendingWrites
  simpa using fun hmem => hlisted.mp hmem hnone

theorem writev_wrote {m : Memory} {vs : List Iobuf} {l : List (List UInt8)}
    (h : List.Forall₂ (Shows m) vs l) {ch : Channel} (hgood : ch.broken = false) (n : ℕ) :
    writev m ch vs (.wrote n) =
      .ok (⟨ch.taken ++ l.flatten.take n, false⟩, some (min n l.flatten.length)) := by
  unfold writev
  rw [if_neg (by rw [hgood]; exact Bool.false_ne_true)]
  simp only
  rw [copyFrom_eq h, Heap.ok_bind, List.length_take, hgood]

theorem Sound.progress {c : Client} (h : Sound c) {s : ℕ}
    (hgood : (c.sockets.channels s).broken = false) (n : ℕ) :
    ∃ c', Writes.step c (.continueWrite s (.wrote (n + 1))) = .ok (c', []) ∧ Sound c' ∧
      (c'.sockets.channels s).broken = false ∧
        bytesLeft (c'.sockets.writes s) ≤ bytesLeft (c.sockets.writes s) - 1 := by
  obtain ⟨c', hstep, hc'⟩ := h.continueWrite s (.wrote (n + 1))
  refine ⟨c', hstep, hc', ?_⟩
  unfold Writes.step at hstep
  simp only at hstep
  split_ifs at hstep with hno
  · obtain ⟨rfl, -⟩ := Prod.mk.inj (Except.ok.inj hstep)
    rw [(h.whole_nil (by unfold Writes.noPendingWrites at hno; simpa using hno)).1]
    exact ⟨hgood, Nat.zero_le _⟩
  · obtain ⟨hlisted, -, rest, hrest, -⟩ := h.soundAt s
    obtain ⟨pw, hpw⟩ := Option.ne_none_iff_exists'.mp
      (hlisted.mp (by unfold Writes.noPendingWrites at hno; simpa using hno))
    rw [hpw] at hrest
    rcases hrest with _ | @⟨_, bytes, hbacked⟩
    obtain ⟨⟨l, hshows, hflat⟩, -, htotal, hlt⟩ := id hbacked
    obtain ⟨l', hshows', -, hne⟩ := remainingIovecs_spec pw.bytes hshows (Nat.zero_le _)
    have hpos := List.length_pos_of_ne_nil (hne (by rw [hflat]; omega))
    unfold Writes.continueWrite at hstep
    rw [hpw] at hstep
    simp only at hstep
    rw [writev_wrote hshows' hgood, Heap.ok_bind] at hstep
    simp only at hstep
    have hbefore : bytesLeft (some pw) = pw.total - pw.bytes := rfl
    rw [hpw, hbefore]
    split_ifs at hstep with hall
    · obtain ⟨m, _, hfree, -, -⟩ := Backed.freeBuffers (s := c.sockets.setChannel s
        ⟨(c.sockets.channels s).taken ++ l'.flatten.take (n + 1), false⟩) hbacked h.bounded
      rw [hfree] at hstep
      obtain ⟨rfl, -⟩ := Prod.mk.inj (Except.ok.inj hstep)
      show (Function.update c.sockets.channels s _ s).broken = false ∧
        bytesLeft (Function.update c.sockets.writes s none s) ≤ _
      rw [Function.update_self, Function.update_self]
      exact ⟨rfl, Nat.zero_le _⟩
    · obtain ⟨rfl, -⟩ := Prod.mk.inj (Except.ok.inj hstep)
      show (Function.update c.sockets.channels s _ s).broken = false ∧
        bytesLeft (Function.update c.sockets.writes s (some _) s) ≤ _
      rw [Function.update_self, Function.update_self]
      refine ⟨rfl, ?_⟩
      show pw.total - (pw.bytes + min (n + 1) l'.flatten.length) ≤ _
      omega

/-- **A pending write is over** after as many writable turns as bytes are pending, at most, and the
kernel has then taken all that was accepted. -/
theorem run_drains {acts : List Act} (hacts : ∀ a ∈ acts, a.Kept) :
    ∃ c out, Runs.exec step start acts = .ok (c, out) ∧ ∀ (s : ℕ) (ns : List ℕ),
      (c.sockets.channels s).broken = false → bytesLeft (c.sockets.writes s) ≤ ns.length →
        ∃ c' out', Runs.exec step c (ns.map fun n => .continueWrite s (.wrote (n + 1))) =
        .ok (c', out') ∧
          noPendingWrites c'.sockets s = true ∧ (c'.sockets.channels s).taken = wire
          (c'.accepted s) := by
  obtain ⟨c, out, hrun, hc⟩ := Sound.run hacts
  refine ⟨c, out, hrun, fun s ns => ?_⟩
  clear hrun
  induction ns generalizing c with
  | nil =>
    intro hgood hlen
    have hno := hc.noPendingWrites (Nat.le_zero.mp hlen)
    exact ⟨c, [], rfl, hno, (hc.taken s).2 hgood hno⟩
  | cons n ns ih =>
    intro hgood hlen
    obtain ⟨c₁, hstep, hc₁, hgood₁, hless⟩ := hc.progress hgood n
    rw [List.length_cons] at hlen
    obtain ⟨c', out', hrun', hno, htaken⟩ := ih c₁ hc₁ hgood₁ (by omega)
    exact ⟨c', _, Runs.exec_cons_eq_ok.mpr ⟨c₁, [], out', hstep, hrun', rfl⟩, hno, htaken⟩

theorem run_drains_publish : ∃ c out c' out',
    Runs.exec step start
    [.connect 1, .publish 1 ⟨⟨0⟩, [116], 7, [1], 5, .initializer⟩ 1 true (.wrote 6)] =
      .ok (c, out) ∧
    Runs.exec step c ([0, 1, 0].map fun n => .continueWrite 1 (.wrote (n + 1))) = .ok (c', out') ∧
      noPendingWrites c'.sockets 1 = true ∧ (c'.sockets.channels 1).taken = wire
      (c'.accepted 1) := by
  obtain ⟨c, out, hrun, hall⟩ := run_drains (show ∀ a ∈ ([.connect 1,
    .publish 1 ⟨⟨0⟩, [116], 7, [1], 5, .initializer⟩ 1 true (.wrote 6)] : List Act),
    a.Kept by decide)
  have hends : Runs.Ends (Runs.exec step start
      [.connect 1, .publish 1 ⟨⟨0⟩, [116], 7, [1], 5, .initializer⟩ 1 true (.wrote 6)]) fun c _ =>
        (c.sockets.channels 1).broken = false ∧ bytesLeft (c.sockets.writes 1) ≤ 3 := by decide
  rw [hrun, Runs.ends_ok] at hends
  obtain ⟨c', out', hrun', hno, htaken⟩ := hall 1 [0, 1, 0] hends.1 hends.2
  exact ⟨c, out, c', out', hrun, hrun', hno, htaken⟩

/-! ### A topic that is freed -/

section
variable {m : Memory} {dead : Iobuf} {pre post : List Iobuf} {l : List (List UInt8)}

theorem copyFrom_zero (m : Memory) : ∀ vs : List Iobuf, copyFrom m 0 vs = .ok []
  | [] => rfl
  | v :: vs => by
    have hread : { v with len := min 0 v.len }.read m = .ok [] := if_pos (Nat.zero_min _)
    rw [copyFrom, hread, Heap.ok_bind, Nat.zero_sub, copyFrom_zero m vs]
    rfl

theorem copyFrom_dead_cons (hdead : dead.base ∉ m.live) (hlen : 0 < dead.len) {n : ℕ} (hn : 0 < n) :
    copyFrom m n (dead :: post) = .error .notLive := by
  have hread : { dead with len := min n dead.len }.read m = .error .notLive := by
    unfold Iobuf.read Heap.load
    rw [if_neg (by simp only; omega), Heap.deref_dangling hdead]
    rfl
  rw [copyFrom, hread]
  rfl

/-- The kernel copies what is in front of a buffer that was freed, and no more. -/
theorem copyFrom_dead (post : List Iobuf) (hdead : dead.base ∉ m.live) (hlen : 0 < dead.len)
    (h : List.Forall₂ (Shows m) pre l) (n : ℕ) :
    copyFrom m n (pre ++ dead :: post) =
      if n ≤ l.flatten.length then .ok (l.flatten.take n) else .error .notLive := by
  induction h generalizing n with
  | nil =>
    rw [List.nil_append, List.flatten_nil, List.length_nil]
    split_ifs with hn
    · rw [Nat.le_zero.mp hn, copyFrom_zero]
      rfl
    · exact copyFrom_dead_cons hdead hlen (by omega)
  | @cons v c vs l hv _ ih =>
    rw [List.cons_append, copyFrom, (hv.take n).read, Heap.ok_bind, ih, List.flatten_cons,
      List.length_append, hv.len,
      List.take_append]
    by_cases hn : n ≤ c.length + l.flatten.length
    · rw [if_pos (by omega), if_pos hn]
      rfl
    · rw [if_neg (by omega), if_neg hn]
      rfl

/-- Of what is written next, the buffer that was freed is behind all that is left in front of it; or
it is not there, as one in front of it is not written from its start. -/
theorem remainingIovecs_dead (post : List Iobuf) (dead : Iobuf) (h : List.Forall₂ (Shows m) pre l)
    {bytes curbuflen : ℕ} (hle : curbuflen ≤ bytes)
    (hbytes : bytes ≤ curbuflen + l.flatten.length) :
    ∃ vs l', List.Forall₂ (Shows m) vs l' ∧
      (remainingIovecs bytes curbuflen (pre ++ dead :: post) = vs ++ dead :: post ∧
          bytes + l'.flatten.length = curbuflen + l.flatten.length ∨
        remainingIovecs bytes curbuflen (pre ++ dead :: post) = vs ∧ 0 < l'.flatten.length ∧
          bytes + l'.flatten.length ≤ curbuflen + l.flatten.length) := by
  induction h generalizing curbuflen with
  | nil =>
    rw [List.flatten_nil, List.length_nil] at hbytes
    exact ⟨[], [], .nil,
      Or.inl ⟨remainingIovecs_of_le hbytes, by rw [List.flatten_nil, List.length_nil]; omega⟩⟩
  | @cons v c vs l hv hvs ih =>
    rw [List.flatten_cons, List.length_append] at hbytes
    rw [List.cons_append, remainingIovecs, List.flatten_cons, List.length_append, hv.len]
    split_ifs with heq hlt
    · rw [remainingIovecs_of_le (Nat.le_add_right_of_le heq)]
      refine ⟨v :: vs, c :: l, .cons hv hvs, Or.inl ⟨rfl, ?_⟩⟩
      rw [List.flatten_cons, List.length_append]
      omega
    · have hdrop := hv.drop (k := bytes - curbuflen) (by omega)
      rw [hv.len] at hdrop
      refine ⟨_, _, .cons hdrop .nil, Or.inr ⟨rfl, ?_⟩⟩
      rw [List.flatten_singleton, List.length_drop]
      omega
    · obtain ⟨vs', l', hvs', hcases⟩ := ih (show curbuflen + c.length ≤ bytes by omega) (by omega)
      refine ⟨vs', l', hvs', ?_⟩
      rw [← Nat.add_assoc]
      exact hcases

theorem remainingIovecs_inside (post : List Iobuf) (dead : Iobuf) (h : List.Forall₂ (Shows m) pre l)
    {bytes curbuflen : ℕ} (hbytes : curbuflen + l.flatten.length < bytes)
    (hlt : bytes < curbuflen + l.flatten.length + dead.len) :
    ∃ v, remainingIovecs bytes curbuflen (pre ++ dead :: post) = [v] ∧ v.base = dead.base ∧
    0 < v.len := by
  induction h generalizing curbuflen with
  | nil =>
    rw [List.flatten_nil, List.length_nil] at hbytes hlt
    refine ⟨{ dead with
        offset := dead.offset + (bytes - curbuflen)
        len := dead.len - (bytes - curbuflen) }, ?_, rfl, ?_⟩
    · rw [List.nil_append, remainingIovecs, if_neg (by omega), if_pos (by omega)]
    · simp only
      omega
  | @cons v c vs l hv _ ih =>
    rw [List.flatten_cons, List.length_append] at hbytes hlt
    rw [List.cons_append, remainingIovecs, hv.len, if_neg (by omega), if_neg (by omega)]
    exact ih (by omega) (by omega)

end

/-- The buffer `dead` of a pending write was freed, behind `front` bytes that were not. -/
structure Dangling (c : Client) (s : ℕ) (pw : PendingWrites) (dead : Iobuf) (front : ℕ) : Prop where
  pending : s ∈ c.sockets.writePending
  writes : c.sockets.writes s = some pw
  good : (c.sockets.channels s).broken = false
  freed : dead.base ∉ c.sockets.memory.live
  len : 0 < dead.len
  iovecs : ∃ pre post l, pw.iovecs = pre ++ dead :: post ∧
    List.Forall₂ (Shows c.sockets.memory) pre l ∧
    l.flatten.length = front
  bytes : pw.bytes < front + dead.len
  total : front + dead.len ≤ pw.total

/-- **A turn with a buffer that was freed**: it is read, or the turn ends in front of it. -/
theorem Dangling.turn {c : Client} {s : ℕ} {pw : PendingWrites} {dead : Iobuf} {front : ℕ}
    (h : Dangling c s pw dead front) (n : ℕ) :
    Writes.step c (.continueWrite s (.wrote (n + 1))) = .error .notLive ∨
      ∃ c' pw', Writes.step c (.continueWrite s (.wrote (n + 1))) = .ok (c', []) ∧
      Dangling c' s pw' dead front ∧
        pw.bytes < pw'.bytes ∧ pw'.bytes ≤ front := by
  obtain ⟨hpending, hwrites, hgood, hdead, hlen, ⟨pre, post, l, hiovecs, hpre, hfront⟩,
    hbytes, htotal⟩ := h
  -- a turn that takes something in front of the buffer
  have hnext {k : ℕ} {part : List UInt8} (hpart : part.length = k) (hk : 0 < k)
    (hle : pw.bytes + k ≤ front)
      (hcopy : copyFrom c.sockets.memory (n + 1)
      (remainingIovecs pw.bytes 0 pw.iovecs) = .ok part) :
      ∃ c' pw', Writes.step c (.continueWrite s (.wrote (n + 1))) = .ok (c', []) ∧
      Dangling c' s pw' dead front ∧
        pw.bytes < pw'.bytes ∧ pw'.bytes ≤ front := by
    unfold Writes.step Writes.continueWrite writev
    simp only
    rw [if_neg (by unfold Writes.noPendingWrites; simpa using hpending), hwrites]
    simp only
    rw [if_neg (by rw [hgood]; exact Bool.false_ne_true), hcopy, Heap.ok_bind, Heap.ok_bind]
    simp only
    rw [if_neg (by omega)]
    refine ⟨_, { pw with bytes := pw.bytes + part.length }, rfl,
      ⟨hpending, Function.update_self .., ?_, hdead, hlen,
      ⟨pre, post, l, hiovecs, hpre, hfront⟩, by simp only; omega, htotal⟩, by simp only; omega, by
        simp only; omega⟩
    show (Function.update c.sockets.channels s _ s).broken = false
    rw [Function.update_self]
    exact hgood
  -- a turn that reads the buffer
  have herror (hcopy : copyFrom c.sockets.memory (n + 1) (remainingIovecs pw.bytes 0 pw.iovecs) =
    .error .notLive) :
      Writes.step c (.continueWrite s (.wrote (n + 1))) = .error .notLive := by
    unfold Writes.step Writes.continueWrite writev
    simp only
    rw [if_neg (by unfold Writes.noPendingWrites; simpa using hpending), hwrites]
    simp only
    rw [if_neg (by rw [hgood]; exact Bool.false_ne_true), hcopy]
    rfl
  by_cases hle : pw.bytes ≤ front
  · obtain ⟨vs, l', hvs, ⟨hrun, hsum⟩ | ⟨hrun, hpos, hsum⟩⟩ :=
      remainingIovecs_dead post dead hpre (Nat.zero_le pw.bytes) (by omega)
    · have hcopy := copyFrom_dead post hdead hlen hvs (n + 1)
      rw [← hrun, ← hiovecs] at hcopy
      split_ifs at hcopy with hn
      · exact Or.inr (hnext (by rw [List.length_take]; omega) (Nat.succ_pos n) (by omega) hcopy)
      · exact Or.inl (herror hcopy)
    · have hcopy := copyFrom_eq hvs (n + 1)
      rw [← hrun, ← hiovecs] at hcopy
      exact Or.inr (hnext rfl (by rw [List.length_take]; omega)
        (by rw [List.length_take]; omega) hcopy)
  · obtain ⟨v, hrun, hbase, hv⟩ := remainingIovecs_inside post dead hpre
      (show 0 + l.flatten.length < pw.bytes by omega) (by omega)
    refine Or.inl (herror ?_)
    rw [hiovecs, hrun]
    exact copyFrom_dead_cons (hbase ▸ hdead) hv (Nat.succ_pos n)

theorem Dangling.run {c : Client} {s : ℕ} {pw : PendingWrites} {dead : Iobuf} {front : ℕ}
    {ns : List ℕ} (h : Dangling c s pw dead front) (hns : front - pw.bytes < ns.length) :
    Runs.exec Writes.step c (ns.map fun n => .continueWrite s (.wrote (n + 1))) =
    .error .notLive := by
  induction ns generalizing c pw with
  | nil => exact absurd hns (Nat.not_lt_zero _)
  | cons n ns ih =>
    rw [List.map_cons, Runs.exec]
    rw [List.length_cons] at hns
    rcases h.turn n with herror | ⟨c', pw', hstep, hdangling, hlt, hle⟩
    · rw [herror]
    · rw [hstep]
      simp only
      rw [ih hdangling (by omega)]
      rfl

/-- The number of bytes in front of the topic of a PUBLISH. -/
def topicStart (pack : Publish) (qos : ℕ) : ℕ :=
  1 + (encode (publishBuffers pack qos).length).length + 2

theorem Sound.publish_dangling {c : Client} (h : Sound c) {s : ℕ}
    (hgood : (c.sockets.channels s).broken = false) (hmem : s ∉ c.sockets.writePending)
    {pack : Publish} (hversion : MQTTVERSION_5 ≤ pack.MQTTVersion)
    (hne : (CString.ofBytes pack.topic).bytes ≠ []) (retained : Bool) {k : ℕ}
    (hk : k < topicStart pack 0 + (CString.ofBytes pack.topic).bytes.length) :
    ∃ c' pw dead, Writes.step c (.publish s pack 0 retained (.wrote k)) = .ok (c', []) ∧
      Dangling c' s pw dead (topicStart pack 0) ∧ pw.bytes = k := by
  have hnone := (h.whole_nil hmem).1
  have hlength := length_publishBuffers pack 0
  have hsize := length_send (.ofBits PUBLISH false 0 retained) (publishBuffers pack 0)
  have hstart : topicStart pack 0 = 1 + (encode (publishBuffers pack 0).length).length + 2 := rfl
  obtain ⟨hspares, htopic, hpayload⟩ :=
    shows_caller h.bounded (CString.ofBytes pack.topic).bytes pack.payload
  set topic : Iobuf :=
    ⟨c.sockets.memory.mallocs, 0, (CString.ofBytes pack.topic).bytes.length, false⟩ with htopicEq
  set payload : Iobuf :=
    ⟨(c.sockets.memory.grow ((CString.ofBytes pack.topic).bytes ++ [0])).mallocs, 0,
    pack.payload.length, false⟩ with hpayloadEq
  have htopicLen : topic.len = (CString.ofBytes pack.topic).bytes.length := rfl
  have hpayloadLen : payload.len = pack.payload.length := rfl
  obtain ⟨r, topiclen, bufs2, -, hbufs, hsend, hwrote⟩ :=
    sendPublish_wrote s (.wrote k) h.bounded hspares
    htopic hpayload (Nat.le_refl _) (Nat.le_succ _) (Nat.succ_ne_self _).symm false 0 retained
  rw [if_pos (Or.inr hversion)] at hwrote
  have hrc : r.2 = .interrupted := by
    rcases hwrote with ⟨-, -, -, hwhy | hwhy | hwhy⟩ | ⟨-, -, -, -, hcount⟩ | _
    · exact absurd hwhy hmem
    · exact absurd (hgood.symm.trans hwhy) (by decide)
    · cases hwhy
    · have hle : _ ≤ k := hcount
      omega
    · rfl
  obtain ⟨m, v, l, ch, topic', payload', s', hstore, hupdate, -, hch, hfreed, hfront, hsum⟩ :=
    hwrote.storeQoS0_five hnone hrc
  have hpublish : startPublish c.sockets s pack 0 retained (.wrote k) =
      .ok (updateWrite s' s topic' payload', r.2) := by
    unfold startPublish Sockets.mallocString Sockets.malloc
    simp only
    rw [if_neg (Nat.lt_irrefl 0), hsend, Heap.ok_bind, if_pos hrc, hstore, Heap.ok_bind]
  rw [hupdate] at hpublish
  refine ⟨_, ⟨[v, topiclen] ++ topic :: [bufs2, payload],
    (send (.ofBits PUBLISH false 0 retained) (publishBuffers pack 0)).length, k⟩, topic,
    congrArg (Except.map _) hpublish, ⟨List.mem_append_right _ (List.mem_singleton_self s),
    ?_, ?_, hfreed,
      List.length_pos_of_ne_nil hne, ⟨_, _, l, rfl, hfront, by omega⟩,
      hk, by simp only; omega⟩, rfl⟩
  · show Function.update c.sockets.writes s (some ((c.sockets.writes s).getD _)) s = _
    rw [Function.update_self, hnone, Option.getD_none]
    rfl
  · show (Function.update c.sockets.channels s ch s).broken = false
    rw [Function.update_self]
    exact hch

/-- **A PUBLISH of MQTT 5 with QoS 0 that is taken in part** is finished from memory that was freed:
its topic is stored and freed, and `SocketBuffer_updateWrite` does nothing, as the packet has five
buffers. -/
theorem continueWrite_freed {acts : List Act} (hacts : ∀ a ∈ acts, a.Kept) {c : Client}
    {out : List Unit} (hrun : Runs.exec Writes.step start acts = .ok (c, out)) {s : ℕ}
    (hgood : (c.sockets.channels s).broken = false) (hno : noPendingWrites c.sockets s = true)
    {pack : Publish} (hversion : MQTTVERSION_5 ≤ pack.MQTTVersion)
    (hne : (CString.ofBytes pack.topic).bytes ≠ []) (retained : Bool) {k : ℕ}
    (hk : k < topicStart pack 0 + (CString.ofBytes pack.topic).bytes.length) :
    ∃ c', Writes.step c (.publish s pack 0 retained (.wrote k)) = .ok (c', []) ∧
      ∀ ns : List ℕ, topicStart pack 0 - k < ns.length →
        Runs.exec Writes.step c' (ns.map fun n => .continueWrite s (.wrote (n + 1))) =
        .error .notLive := by
  obtain ⟨c₀, out₀, hrun₀, h⟩ := Sound.run hacts
  obtain ⟨rfl, -⟩ := Prod.mk.inj (Except.ok.inj (hrun₀.symm.trans hrun))
  have hmem : s ∉ c₀.sockets.writePending := by
    unfold Writes.noPendingWrites at hno
    simpa using hno
  obtain ⟨c', pw, dead, hstep, hdangling, rfl⟩ :=
    h.publish_dangling hgood hmem hversion hne retained hk
  exact ⟨c', hstep, fun ns hns => hdangling.run hns⟩

def topicPublish : Publish := ⟨⟨0⟩, [116, 47], 0, [1, 2, 3], 5, .initializer⟩

/-- Of a PUBLISH the kernel takes all up to the length of the topic, and the next turn reads the
topic. -/
theorem continueWrite_freed_topic : ∃ c out c',
    Runs.exec step start [.connect 1] = .ok (c, out) ∧
    step c (.publish 1 topicPublish 0 false (.wrote 4)) = .ok (c', []) ∧
      Runs.exec step c' ([0].map fun n => .continueWrite 1 (.wrote (n + 1))) = .error .notLive := by
  obtain ⟨c', hstep, hall⟩ :=
    continueWrite_freed (show ∀ a ∈ ([.connect 1] : List Act), a.Kept by decide)
    rfl (s := 1) rfl rfl (show MQTTVERSION_5 ≤ topicPublish.MQTTVersion by decide)
      (by decide) false (k := 4)
    (by decide)
  exact ⟨_, _, c', rfl, hstep, hall [0] (by decide)⟩

/-! ### Both sides of a connection -/

theorem Sound.channel {c : Client} (hc : Sound c) {n : Delivery.Net} (hn : Delivery.Sound n)
    {s s' : ℕ} (hlen : ∀ p ∈ c.accepted s, p.2.length ≤ MAX_REMAINING_LENGTH)
    (hsent : (n.connections s').sent = (c.sockets.channels s).taken) :
    (n.connections s').packets <+: c.accepted s ∧
      ((c.sockets.channels s).broken = false → Writes.noPendingWrites c.sockets s = true →
        (n.connections s').isOpen = true → (n.connections s').failed = false →
        (n.connections s').input = [] →
        (n.connections s').packets = c.accepted s) := by
  obtain ⟨hpre, hall⟩ := hc.taken s
  obtain ⟨hpackets, hcomplete⟩ := hn.delivered hlen (hsent ▸ hpre)
  exact ⟨hpackets, fun hgood hno => hcomplete (hsent.trans (hall hgood hno))⟩

/-- **A connection gives packets out as they were put in**: whatever parts the kernel takes at each
`writev` on one side and gives at each `recv` on the other, and whatever the other sockets do, the
packets that are read are the first of those that were accepted, and all of them if nothing is
pending and everything has been read. -/
theorem run_channel {writes : List Act} (hwrites : ∀ a ∈ writes, a.Kept) {reads : List Delivery.Act}
    (hreads : Runs.Meets Delivery.step Delivery.Orderly Delivery.start reads) :
    ∃ c n out out', Runs.exec step start writes = .ok (c, out) ∧
      Runs.exec Delivery.step Delivery.start reads = .ok (n, out') ∧
      ∀ s s', (∀ p ∈ c.accepted s, p.2.length ≤ MAX_REMAINING_LENGTH) →
        (n.connections s').sent = (c.sockets.channels s).taken →
        (n.connections s').packets <+: c.accepted s ∧
          ((c.sockets.channels s).broken = false → noPendingWrites c.sockets s = true →
            (n.connections s').isOpen = true → (n.connections s').failed = false →
            (n.connections s').input = [] → (n.connections s').packets = c.accepted s) := by
  obtain ⟨c, out, hwrites, hc⟩ := Sound.run hwrites
  obtain ⟨n, out', hreads, hn⟩ := Delivery.Sound.run hreads
  exact ⟨c, n, out, out', hwrites, hreads, fun s s' => hc.channel hn⟩

theorem run_channel_publish : ∃ c n out out',
    Runs.exec step start
    [.connect 1, .publish 1 ⟨⟨0⟩, [116], 7, [1], 4, .initializer⟩ 1 false (.wrote 3),
      .continueWrite 1 (.wrote 1), .continueWrite 1 (.wrote 9)] = .ok (c, out) ∧
    Runs.exec Delivery.step Delivery.start [.connect 4 [50, 6, 0, 1, 116, 0, 7, 1],
      .read 4 [.got 0, .got 0, .got 2], .read 4 [.got 9]] = .ok (n, out') ∧
    ∀ s s', (∀ p ∈ c.accepted s, p.2.length ≤ MAX_REMAINING_LENGTH) →
      (n.connections s').sent = (c.sockets.channels s).taken →
      (n.connections s').packets <+: c.accepted s ∧
        ((c.sockets.channels s).broken = false → noPendingWrites c.sockets s = true →
          (n.connections s').isOpen = true → (n.connections s').failed = false →
          (n.connections s').input = [] → (n.connections s').packets = c.accepted s) :=
  run_channel (by decide) (by decide +kernel)

end OasisEdge.Mqtt.Writes
