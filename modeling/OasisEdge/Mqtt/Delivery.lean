import OasisEdge.Lib.Runs
import OasisEdge.Mqtt.Stream

/-! # What arrives on the connections

The client reads from the sockets that are readable, in any order, and the kernel gives as much of
what has been sent as it likes at each `recv`. A read that fails does not close the socket: while
the client is connected a DISCONNECT is queued, and the socket is closed later. No call faults, and
the packets of each connection are those at the start of its stream, one after the other; once
everything has been read none is missing (`run_split`). Packets that were sent one after the other
are read so (`Sound.delivered`).

This is for sockets that are read when they are readable, and where none is read while the queue
that all share holds a part of a header from a socket whose read has failed. The header length of a
new queue is not set: a socket that has nothing to read when its first byte is asked for leaves a
queue whose header length is used before it is set (`factory_again`). And a socket that is read too
early is given the header of the other, and loses its own (`factory_inherits`). -/

namespace OasisEdge.Mqtt.Delivery

open OasisEdge.Lib.Readers OasisEdge.Lib OasisEdge.Mqtt.Bytes OasisEdge.Mqtt.Packet
open OasisEdge.Mqtt.Stream

/-- A connection: what the other side sends, what of it has not been read, and the packets that have
been read. -/
structure Connection where
  sent : List UInt8
  input : List UInt8
  packets : List (Header × List UInt8)
  isOpen : Bool
  /-- A read has failed, and the connection waits to be closed. -/
  failed : Bool

/-- The client's queues and its connections, by the socket. -/
structure Net where
  buffer : SocketBuffer
  connections : ℕ → Connection

def start : Net := ⟨initially, fun _ => ⟨[], [], [], false, false⟩⟩

inductive Act
  /-- A new connection, on which the other side will send `sent`. -/
  | connect (socket : ℕ) (sent : List UInt8)
  /-- `MQTTPacket_Factory` for a socket, with the answers of the kernel. -/
  | read (socket : ℕ) (recvs : List Recv)
  /-- `Socket_close`. -/
  | close (socket : ℕ)

def Net.setConnection (n : Net) (socket : ℕ) (c : Connection) (buffer : SocketBuffer) : Net :=
  ⟨buffer, Function.update n.connections socket c⟩

/-- One step, with the packet it gives. Only a readable socket is read. -/
def step (n : Net) : Act → Except Fault (Net × List (ℕ × Header × List UInt8))
  | .connect s sent =>
    if s = 0 ∨ (n.connections s).isOpen then .ok (n, [])
    else .ok (n.setConnection s ⟨sent, sent, [], true, false⟩ n.buffer, [])
  | .close s =>
    if (n.connections s).isOpen then
      .ok (n.setConnection s { n.connections s with isOpen := false } (cleanup s n.buffer), [])
    else .ok (n, [])
  | .read s recvs =>
    let c := n.connections s
    if c.isOpen && readable recvs c.input then
      match attempt (factory s) ⟨n.buffer, recvs, c.input⟩ with
      | (.ok pack, w) =>
        .ok (n.setConnection s { c with input := w.input, packets := c.packets ++ [pack] } w.buffer,
          [(s, pack)])
      | (.error .interrupted, w) => .ok (n.setConnection s { c with input := w.input } w.buffer, [])
      | (.error .error, w) =>
        .ok (n.setConnection s { c with input := w.input, failed := true } w.buffer, [])
      | (.error (.fault e), _) => .error e
    else .ok (n, [])

/-- A socket whose read has failed gives nothing more; another one is not read while the queue that
all share is in use, which it is between two reads only for a socket whose read has failed. -/
def Orderly (n : Net) : Act → Prop
  | .read s recvs =>
    if (n.connections s).failed then recvs.head? = some .closed else n.buffer.defSocket = 0
  | _ => True

instance (n : Net) (a : Act) : Decidable (Orderly n a) := by
  rcases a
  all_goals unfold Orderly; infer_instance

/-! ### Every run -/

/-- The packets of a connection are those at the start of its stream, and what waits in a queue is
in front of what has not been read. -/
def Follows (b : SocketBuffer) (s : ℕ) (c : Connection) : Prop :=
  ∃ rest, Split frame c.sent (c.packets.map some) rest ∧
    if c.isOpen then if c.failed then Stopped s b else ∃ p, Pending s b p ∧ rest = p ++ c.input
    else b.queues s = none

structure Sound (n : Net) : Prop where
  idle : Idle n.buffer ∨ ∃ s, n.buffer.defSocket = s ∧ s ≠ 0 ∧ (n.connections s).isOpen = true ∧
    (n.connections s).failed = true
  zero : (n.connections 0).isOpen = false
  follows : ∀ s, Follows n.buffer s (n.connections s)

theorem sound_start : Sound start :=
  ⟨Or.inl ⟨rfl, rfl, rfl, Or.inl rfl⟩, rfl, fun _ => ⟨[], .nil [], rfl⟩⟩

theorem Follows.congr {s : ℕ} {b b' : SocketBuffer} {c : Connection} (h : b'.queues s = b.queues s)
    (hf : Follows b s c) : Follows b' s c := by
  obtain ⟨rest, hsplit, hif⟩ := hf
  refine ⟨rest, hsplit, ?_⟩
  split_ifs at hif ⊢
  · exact hif.congr h
  · obtain ⟨p, hp, hrest⟩ := hif
    exact ⟨p, hp.congr h, hrest⟩
  · exact h.trans hif

/-- A step at one socket. The queue that all share is not in use behind it, or is still in use for
another socket, or is in use for this one, whose read has failed. -/
theorem Sound.set {n : Net} (h : Sound n) {s : ℕ} (hs : 0 < s) {c : Connection} {b : SocketBuffer}
    (hidle : Idle b ∨ b.defSocket = s ∧ c.isOpen = true ∧ c.failed = true ∨
      n.buffer.defSocket ≠ s ∧ b.defSocket = n.buffer.defSocket ∧ b.defQueue = n.buffer.defQueue)
    (hsame : Same s n.buffer b) (hc : Follows b s c) : Sound (n.setConnection s c b) := by
  refine ⟨?_, ?_, fun s' => ?_⟩
  · rcases hidle with hidle | ⟨hsocket, hc⟩ | ⟨hne, hsocket, hqueue⟩
    · exact Or.inl hidle
    · refine Or.inr ⟨s, hsocket, Nat.ne_of_gt hs, ?_⟩
      show (Function.update n.connections s c s).isOpen = true ∧
        (Function.update n.connections s c s).failed = true
      rw [Function.update_self]
      exact hc
    · rcases h.idle with hidle | ⟨s', hs', hzero, hheld⟩
      · exact Or.inl ⟨hsocket.trans hidle.defSocket, hqueue ▸ hidle.index, hqueue ▸ hidle.data,
          hqueue ▸ hidle.header⟩
      · refine Or.inr ⟨s', hsocket.trans hs', hzero, ?_⟩
        show (Function.update n.connections s c s').isOpen = true ∧
          (Function.update n.connections s c s').failed = true
        rw [Function.update_of_ne (hs' ▸ hne)]
        exact hheld
  · show (Function.update n.connections s c 0).isOpen = false
    rw [Function.update_of_ne (by omega)]
    exact h.zero
  · show Follows b s' (Function.update n.connections s c s')
    by_cases hs' : s' = s
    · rw [hs', Function.update_self]
      exact hc
    · rw [Function.update_of_ne hs']
      exact (h.follows s').congr (hsame s' hs')

theorem Sound.pos_of_isOpen {n : Net} (h : Sound n) {s : ℕ}
    (hopen : (n.connections s).isOpen = true) :
    0 < s := by
  by_contra hs
  obtain rfl : s = 0 := by omega
  rw [h.zero] at hopen
  cases hopen

/-- The queue that all share, where it does not change. -/
theorem Sound.idle_or {n : Net} (h : Sound n) {s : ℕ} {c : Connection}
    (hc : (n.connections s).isOpen = true → (n.connections s).failed = true →
      c.isOpen = true ∧ c.failed = true) :
    Idle n.buffer ∨ n.buffer.defSocket = s ∧ c.isOpen = true ∧ c.failed = true ∨
      n.buffer.defSocket ≠ s ∧ n.buffer.defSocket = n.buffer.defSocket ∧
      n.buffer.defQueue = n.buffer.defQueue := by
  rcases h.idle with hidle | ⟨s', hs', -, hopen, hfailed⟩
  · exact Or.inl hidle
  · by_cases heq : s' = s
    · subst heq
      exact Or.inr (Or.inl ⟨hs', hc hopen hfailed⟩)
    · exact Or.inr (Or.inr ⟨fun hdef => heq (hs'.symm.trans hdef), rfl, rfl⟩)

theorem Sound.step {n : Net} (h : Sound n) (a : Act) (ha : Orderly n a) :
    ∃ n' out, step n a = .ok (n', out) ∧ Sound n' := by
  rcases a with ⟨s, sent⟩ | ⟨s, recvs⟩ | s
  · unfold Delivery.step
    simp only
    split_ifs with hnot
    · exact ⟨_, _, rfl, h⟩
    · obtain ⟨hs, hclosed⟩ := not_or.mp hnot
      obtain ⟨_, -, hnone⟩ := h.follows s
      rw [if_neg hclosed] at hnone
      refine ⟨_, _, rfl, h.set (Nat.pos_of_ne_zero hs) (h.idle_or fun hopen => absurd hopen hclosed)
        (fun _ _ => rfl) ?_⟩
      exact ⟨sent, .nil sent, [], .none hnone, rfl⟩
  · unfold Delivery.step
    unfold Orderly at ha
    simp only at ha ⊢
    split_ifs with hread
    · rw [Bool.and_eq_true] at hread
      obtain ⟨hopen, hready⟩ := hread
      have hs := h.pos_of_isOpen hopen
      obtain ⟨rest, hsplit, hp⟩ := h.follows s
      rw [if_pos hopen] at hp
      split_ifs at ha hp with hfailed
      · -- the connection is at its end
        obtain ⟨recvs, rfl⟩ : ∃ recvs', recvs = .closed :: recvs' := by
          rcases recvs with _ | ⟨r, recvs⟩
          · cases ha
          · exact ⟨recvs, by rw [Option.some.inj ha]⟩
        rw [hp.factory]
        refine ⟨_, _, rfl, h.set hs (h.idle_or fun _ _ => ⟨hopen, rfl⟩)
          (fun _ _ => rfl) ⟨rest, hsplit, ?_⟩⟩
        rw [if_pos hopen, if_pos rfl]
        exact hp
      · have hidle : Idle n.buffer := by
          rcases h.idle with hidle | ⟨s', hs', hne, -, -⟩
          · exact hidle
          · exact absurd (hs'.symm.trans ha) hne
        obtain ⟨p, hp, rfl⟩ := hp
        have hserved :=
          served (w := ⟨n.buffer, recvs, (n.connections s).input⟩) hs hp hidle fun _ => hready
        generalize attempt (factory s) _ = r at hserved ⊢
        rcases hserved with @⟨pack, w, hrun, hqueue, hidle, hsame⟩ | @⟨p', w, hp', hinput,
          hidle, hsame⟩ |
          @⟨_, _, _, w, hat, hend, hsame⟩
        · refine ⟨_, _, rfl, h.set hs (Or.inl hidle) hsame ⟨w.input, ?_, ?_⟩⟩
          · rw [List.map_append]
            exact hsplit.snoc hrun
          · rw [if_pos hopen, if_neg hfailed]
            exact ⟨[], .none hqueue, rfl⟩
        · refine ⟨_, _, rfl, h.set hs (Or.inl hidle) hsame ⟨_, hsplit, ?_⟩⟩
          rw [if_pos hopen, if_neg hfailed]
          exact ⟨p', hp', hinput⟩
        · refine ⟨_, _, rfl, h.set hs ?_ hsame ⟨_, hsplit, ?_⟩⟩
          · rcases hat with ⟨-, hidle⟩ | ⟨-, hidle, -, -, -⟩ | ⟨-, hsocket, -, -, -⟩
            · exact Or.inl hidle
            · exact Or.inl hidle
            · exact Or.inr (Or.inl ⟨hsocket, hopen, rfl⟩)
          · rw [if_pos hopen, if_pos rfl]
            exact hat.stopped_end hend
    · exact ⟨_, _, rfl, h⟩
  · unfold Delivery.step
    simp only
    split_ifs with hopen
    · obtain ⟨rest, hsplit, -⟩ := h.follows s
      obtain ⟨hnone, hsame, hidle⟩ := cleanup_cases s n.buffer
      exact ⟨_, _, rfl, h.set (h.pos_of_isOpen hopen) (hidle.imp_right Or.inr) hsame ⟨rest,
        hsplit, hnone⟩⟩
    · exact ⟨_, _, rfl, h⟩

theorem Sound.run {acts : List Act} (hacts : Runs.Meets Delivery.step Orderly start acts) :
    ∃ n out, Runs.exec Delivery.step start acts = .ok (n, out) ∧ Sound n :=
  Runs.exec_total Sound (fun _ a h ha => h.step a ha) sound_start hacts

def wire (packs : List (Header × List UInt8)) : List UInt8 := packs.flatMap fun p => send p.1 p.2

theorem reads_send (header : Header) {data : List UInt8}
    (hlen : data.length ≤ MAX_REMAINING_LENGTH) :
    Reads frame (send header data) (some (header, data)) := by
  have hlt : data.length < 128 ^ (3 + 1) := by
    unfold MAX_REMAINING_LENGTH at hlen
    omega
  have hheader : Reads frameHeader (header.byte :: encode data.length)
      (header.byte, data.length, (encode data.length).length, true) := by
    have hread := reads_decodeLoop (e := ()) hlt (Nat.lt_succ_self _) 0 1 0
    rw [Nat.mul_one, Nat.zero_add, Nat.zero_add] at hread
    exact (reads_next () header.byte).bind (hread.bind_nil (Reads.pure _))
  exact hheader.bind ((reads_nextMany () data).bind_nil (Reads.pure _))

theorem Sound.delivered {n : Net} (h : Sound n) {s : ℕ} {packs : List (Header × List UInt8)}
    (hlen : ∀ p ∈ packs, p.2.length ≤ MAX_REMAINING_LENGTH)
    (hsent : (n.connections s).sent <+: wire packs) :
    (n.connections s).packets <+: packs ∧
      ((n.connections s).sent = wire packs → (n.connections s).isOpen = true →
        (n.connections s).failed = false → (n.connections s).input = [] →
        (n.connections s).packets = packs) := by
  obtain ⟨rest, hsplit, hp⟩ := h.follows s
  have hall : Split frame (wire packs) (packs.map some) [] := by
    have hflat := Split.flatMap (fun p hp => reads_send p.1 (hlen p hp)) []
    rwa [List.append_nil] at hflat
  obtain ⟨tail, htail⟩ := hsent
  have hpre : (n.connections s).packets <+: packs := by
    refine (List.prefix_map_iff_of_injective (Option.some_injective _)).mp ?_
    have hmore := hsplit.append stable_frame tail
    rw [htail] at hmore
    exact hall.prefix_of_error hmore (show frame.run [] = .error () from rfl)
  refine ⟨hpre, fun hsent hopen hgood hinput => ?_⟩
  rw [if_pos hopen, if_neg (by rw [hgood]; exact Bool.false_ne_true)] at hp
  obtain ⟨p, hp, rfl⟩ := hp
  rw [hinput, List.append_nil, hsent] at hsplit
  have hpre' := (List.prefix_map_iff_of_injective (Option.some_injective _)).mp
    (hsplit.prefix_of_error hall hp.run_eq_error)
  exact hpre.eq_of_length_le hpre'.length_le

/-- **The header length of a new queue is not set**: a socket of a new connection that has nothing
to read leaves it so, and the next call for the socket uses it. -/
theorem factory_again {s : ℕ} {recvs : List Recv} {input : List UInt8} :
    ∃ w, attempt (factory s) ⟨initially, .again :: recvs, input⟩ = (.error .interrupted, w) ∧
      ∀ recvs' input', (attempt (factory s) ⟨w.buffer, recvs', input'⟩).1 =
        .error (.fault .uninitialised) := by
  refine ⟨⟨interrupted s [] initially, recvs, input⟩, rfl, fun recvs' input' => ?_⟩
  have hchar : attempt (getQueuedChar s) ⟨interrupted s [] initially, recvs', input'⟩ =
      (.error (.fault .uninitialised), ⟨interrupted s [] initially, recvs', input'⟩) := by
    have hqueue : (interrupted s [] initially).queues s = some newDefQ := Function.update_self ..
    rw [attempt_getQueuedChar, hqueue]
    rfl
  unfold factory getch
  rw [attempt_error (attempt_error hchar _)]

/-- **A header that is left behind goes to another socket**: while the queue that all share holds
the bytes `h` of a socket whose read has failed, a new packet of another socket, of which there is
one byte yet, loses this byte, and the bytes `h` wait in its place. -/
theorem factory_inherits {s s' i : ℕ} (hs : s ≠ 0) (hne : s ≠ s') {h : List UInt8}
    {b : SocketBuffer} (hqueue : b.queues s' = none) (hsocket : b.defSocket = s)
    (hdef : b.defQueue = ⟨i, some h, []⟩) (n : ℕ) (recvs : List Recv) (c : UInt8)
    (input : List UInt8) :
    attempt (factory s') ⟨b, .got n :: .again :: recvs, c :: input⟩ =
      (.error .interrupted,
        ⟨⟨Function.update b.queues s' (some ⟨0, some h, []⟩), 0, newDefQ⟩, recvs, input⟩) := by
  have hchar (w : World) (hw : w.buffer = b) : attempt (getQueuedChar s') w = (.ok none, w) := by
    rw [attempt_getQueuedChar, hw, hqueue]
  have hkeep : queueChar s' c b = b := by
    unfold queueChar
    rw [hqueue]
    simp only
    rw [if_neg (hsocket ▸ hs), if_pos (hsocket ▸ hne)]
  have hone : min (n + 1) 1 = 1 := by omega
  have hfirst : attempt (getch s') ⟨b, .got n :: .again :: recvs, c :: input⟩ =
      (.ok c, ⟨b, .again :: recvs, input⟩) := by
    unfold getch
    rw [attempt_ok (hchar _ rfl)]
    simp only
    rw [attempt_bind, attempt_recv]
    simp only
    rw [if_neg (List.cons_ne_nil c input), hone]
    show (Except.ok c, (⟨queueChar s' c b, .again :: recvs, input⟩ : World)) = _
    rw [hkeep]
  have hsecond : attempt (getch s') ⟨b, .again :: recvs, input⟩ = (.error .interrupted,
      ⟨⟨Function.update b.queues s' (some ⟨0, some h, []⟩), 0, newDefQ⟩, recvs, input⟩) := by
    unfold getch
    rw [attempt_ok (hchar _ rfl)]
    simp only
    rw [attempt_bind, attempt_recv]
    show (Except.error Stop.interrupted, (⟨interrupted s' [] b, recvs, input⟩ : World)) = _
    unfold interrupted
    rw [hqueue, hdef]
  have hloop : attempt (decodeLoop (getch s') MAX_NO_OF_REMAINING_LENGTH_BYTES 0 1 0)
      ⟨b, .again :: recvs, input⟩ = (.error .interrupted,
        ⟨⟨Function.update b.queues s' (some ⟨0, some h, []⟩), 0, newDefQ⟩, recvs, input⟩) :=
    attempt_error hsecond _
  unfold factory decode
  rw [attempt_ok hfirst, attempt_error (attempt_error hloop _)]

end OasisEdge.Mqtt.Delivery
