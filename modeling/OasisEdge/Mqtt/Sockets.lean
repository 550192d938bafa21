import OasisEdge.Lib.Heaps
import OasisEdge.Mqtt.Packet
import Mathlib.Data.List.Forall2
import Mathlib.Algebra.BigOperators.Group.List.Basic

/-! # Writing a packet to a socket

A packet is written from several buffers in the memory, and the kernel may take a part of it only.
The rest then waits in `SocketBuffer`, which keeps the pointers and not the bytes: it frees the
buffers that are flagged once the packet is written, and relies on their owners for the others. The
topic and the payload of a PUBLISH are not flagged. They are those of the publication that is
stored, except with QoS 0, where they are stored once the write is interrupted, and
`SocketBuffer_updateWrite` puts the pointers right if the packet has four buffers. -/

namespace OasisEdge.Mqtt.Writes

open OasisEdge.Lib.Chars OasisEdge.Lib.Heaps OasisEdge.Mqtt.Bytes OasisEdge.Mqtt.Packet
open OasisEdge.Mqtt.Properties (writeProperties length_writeInt)

/-! ### Buffers -/

abbrev Memory := Heap (List UInt8)

/-- `iobuf`, a place in a block; and whether the block is freed once the buffer is written. -/
structure Iobuf where
  base : ℕ
  offset : ℕ
  len : ℕ
  frees : Bool

def Iobuf.read (v : Iobuf) (m : Memory) : Except Misuse (List UInt8) :=
  if v.len = 0 then .ok []
  else do
    let block ← m.load (some v.base)
    if v.offset + v.len ≤ block.length then .ok ((block.drop v.offset).take v.len)
    else .error .wrongContent

/-- What the kernel copies from some buffers, `n` bytes at most. It does not look at the others. -/
def copyFrom (m : Memory) : ℕ → List Iobuf → Except Misuse (List UInt8)
  | _, [] => .ok []
  | n, v :: vs => do
    let bytes ← { v with len := min n v.len }.read m
    let rest ← copyFrom m (n - v.len) vs
    .ok (bytes ++ rest)

def total (iovecs : List Iobuf) : ℕ := (iovecs.map Iobuf.len).sum

structure PendingWrites where
  iovecs : List Iobuf
  total : ℕ
  bytes : ℕ

/-- `TCPSOCKET_COMPLETE`, `TCPSOCKET_INTERRUPTED` and `SOCKET_ERROR`. -/
inductive Rc
  | complete
  | interrupted
  | error
deriving DecidableEq

/-! ### Sockets -/

/-- What the kernel answers to a `writev`. -/
inductive Written
  /-- It takes `n` bytes, or all there are. -/
  | wrote (n : ℕ)
  | again
  /-- The connection is broken. The kernel is taken to say so from then on. -/
  | error
deriving DecidableEq

/-- A connection: the bytes the kernel has taken, and whether it is broken. -/
structure Channel where
  taken : List UInt8
  broken : Bool

/-- The memory, the pending write of each socket in `SocketBuffer`, the list `write_pending` of
`Socket`, and the connections. -/
structure Sockets where
  memory : Memory
  writes : ℕ → Option PendingWrites
  writePending : List ℕ
  channels : ℕ → Channel

/-- `malloc` of a buffer with its content. There is memory enough. -/
def Sockets.malloc (s : Sockets) (bytes : List UInt8) (frees : Bool) : Iobuf × Sockets :=
  (⟨s.memory.mallocs, 0, bytes.length, frees⟩, { s with memory := s.memory.grow bytes })

def Sockets.mallocString (s : Sockets) (string : List UInt8) : Iobuf × Sockets :=
  (⟨s.memory.mallocs, 0, string.length, false⟩, { s with memory := s.memory.grow (string ++ [0]) })

def Sockets.free (s : Sockets) (v : Iobuf) : Except Misuse Sockets := do
  let memory ← s.memory.free (some v.base)
  .ok { s with memory }

def noPendingWrites (s : Sockets) (socket : ℕ) : Bool := socket ∉ s.writePending

/-- `Socket_writev`: the channel, and the number of bytes, or an error. -/
def writev (m : Memory) (c : Channel) (iovecs : List Iobuf) (answer : Written) :
    Except Misuse (Channel × Option ℕ) :=
  if c.broken then .ok (c, none)
  else
    match answer with
    | .error => .ok ({ c with broken := true }, none)
    | .again => .ok (c, some 0)
    | .wrote n => do
      let bytes ← copyFrom m n iovecs
      .ok ({ c with taken := c.taken ++ bytes }, some bytes.length)

def Sockets.setChannel (s : Sockets) (socket : ℕ) (c : Channel) : Sockets :=
  { s with channels := Function.update s.channels socket c }

/-- `SocketBuffer_pendingWrite`, and the entry in `write_pending`. -/
def Sockets.pendingWrite (s : Sockets) (socket : ℕ) (pw : PendingWrites) : Sockets :=
  { s with
    writes := Function.update s.writes socket (some ((s.writes socket).getD pw))
    writePending := s.writePending ++ [socket] }

/-- `Socket_putdatas`, with the buffers from `buf0` on. The kernel is not asked if a write is
pending. -/
def putdatas (s : Sockets) (socket : ℕ) (iovecs : List Iobuf) (answer : Written) :
    Except Misuse (Sockets × Rc) :=
  if noPendingWrites s socket then do
    let (c, rc) ← writev s.memory (s.channels socket) iovecs answer
    let s := s.setChannel socket c
    match rc with
    | none => .ok (s, .error)
    | some bytes =>
      if bytes = total iovecs then .ok (s, .complete)
      else .ok (s.pendingWrite socket ⟨iovecs, total iovecs, bytes⟩, .interrupted)
  else .ok (s, .error)

/-- `SocketBuffer_writeComplete`, and the removal from `write_pending`. -/
def Sockets.writeComplete (s : Sockets) (socket : ℕ) : Sockets :=
  { s with
    writes := Function.update s.writes socket none
    writePending := s.writePending.erase socket }

/-- The loop over `frees`, with which a pending write ends. -/
def Sockets.freeBuffers (s : Sockets) (pw : PendingWrites) : Except Misuse Sockets := do
  let memory ← s.memory.freeAll ((pw.iovecs.filter Iobuf.frees).map Iobuf.base)
  .ok { s with memory }

/-- The loop of `Socket_continueWrite` over the buffers: those behind what has been written, but
none behind one that is not written from its start. -/
def remainingIovecs (bytes : ℕ) : ℕ → List Iobuf → List Iobuf
  | _, [] => []
  | curbuflen, v :: vs =>
    if bytes ≤ curbuflen then v :: remainingIovecs bytes (curbuflen + v.len) vs
    else if bytes < curbuflen + v.len then
      [{ v with offset := v.offset + (bytes - curbuflen), len := v.len - (bytes - curbuflen) }]
    else remainingIovecs bytes (curbuflen + v.len) vs

/-- `Socket_continueWrite` for a writable socket of `write_pending`, and what
`Socket_continueWrites` does with its result. -/
def continueWrite (s : Sockets) (socket : ℕ) (answer : Written) : Except Misuse Sockets :=
  match s.writes socket with
  | none => .error .nullPointer
  | some pw => do
    let (c, rc) ← writev s.memory (s.channels socket) (remainingIovecs pw.bytes 0 pw.iovecs) answer
    let s := s.setChannel socket c
    match rc with
    | none => (s.freeBuffers pw).map (·.writeComplete socket)
    | some bytes =>
      let bytes := pw.bytes + bytes
      if bytes = pw.total then (s.freeBuffers pw).map (·.writeComplete socket)
      else .ok { s with writes := Function.update s.writes socket (some { pw with bytes }) }

/-- `Socket_close`: the pending write is aborted. -/
def close (s : Sockets) (socket : ℕ) : Except Misuse Sockets :=
  let s := s.setChannel socket { s.channels socket with broken := true }
  match s.writes socket with
  | none => .ok (s.writeComplete socket)
  | some pw => (s.freeBuffers pw).map (·.writeComplete socket)

/-! ### Packets -/

/-- What was allocated for a packet is freed where it was allocated, unless the write is
interrupted. -/
def release (v : Iobuf) (r : Sockets × Rc) : Except Misuse (Sockets × Rc) :=
  if r.2 = .interrupted then .ok r else (r.1.free v).map fun s => (s, r.2)

/-- `MQTTPacket_sends`, and the same in `MQTTPacket_send`. -/
def sends (s : Sockets) (socket : ℕ) (header : Header) (buffers : List Iobuf) (answer : Written) :
    Except Misuse (Sockets × Rc) := do
  let (buf, s) := s.malloc (header.byte :: encode (total buffers)) true
  let r ← putdatas s socket (buf :: buffers) answer
  release buf r

/-- `MQTTPacket_send` as it is called: with a buffer that was allocated for the packet, or with
NULL. -/
def sendBuffer (s : Sockets) (socket : ℕ) (header : Header) (data : Option (List UInt8))
    (answer : Written) :
    Except Misuse (Sockets × Rc) :=
  match data with
  | none => sends s socket header [] answer
  | some data => do
    let (buf, s) := s.malloc data true
    let r ← sends s socket header [buf] answer
    release buf r

/-- What is in `bufs[2]` of `MQTTPacket_send_publish`: the message id and the properties. -/
def idAndProperties (pack : Publish) (qos : ℕ) : List UInt8 :=
  (if 0 < qos then writeInt pack.msgId else []) ++
    (if MQTTVERSION_5 ≤ pack.MQTTVersion then writeProperties pack.properties else [])

def sendPublish (s : Sockets) (socket : ℕ) (pack : Publish) (topic payload : Iobuf) (dup : Bool)
    (qos : ℕ) (retained : Bool) (answer : Written) : Except Misuse (Sockets × Rc) := do
  let header := .ofBits PUBLISH dup qos retained
  let (topiclen, s) := s.malloc (writeInt topic.len) true
  if 0 < qos ∨ MQTTVERSION_5 ≤ pack.MQTTVersion then do
    let (bufs2, s) := s.malloc (idAndProperties pack qos) true
    let r ← sends s socket header [topiclen, topic, bufs2, payload] answer
    let r ← release bufs2 r
    release topiclen r
  else do
    let r ← sends s socket header [topiclen, topic, payload] answer
    release topiclen r

/-- `MQTTProtocol_storePublication`: the copies of the topic and of the payload. The topic that was
copied is freed. -/
def storePublication (s : Sockets) (topic payload : Iobuf) :
    Except Misuse (Iobuf × Iobuf × Sockets) := do
  let string ← topic.read s.memory
  let (topic', s) := s.mallocString string
  let s ← s.free topic
  let bytes ← payload.read s.memory
  let (payload', s) := s.malloc bytes false
  .ok (topic', payload', s)

def updateWrite (s : Sockets) (socket : ℕ) (topic payload : Iobuf) : Sockets :=
  match s.writes socket with
  | some ⟨[v₀, v₁, v₂, v₃], total, bytes⟩ =>
    { s with
      writes := Function.update s.writes socket
        (some ⟨[v₀, v₁, { v₂ with base := topic.base }, { v₃ with base := payload.base }],
        total, bytes⟩) }
  | _ => s

/-- `MQTTProtocol_startPublish`, with the topic and the payload that the caller has allocated. -/
def startPublish (s : Sockets) (socket : ℕ) (pack : Publish) (qos : ℕ) (retained : Bool)
    (answer : Written) :
    Except Misuse (Sockets × Rc) := do
  let (topic, s) := s.mallocString (CString.ofBytes pack.topic).bytes
  let (payload, s) := s.malloc pack.payload false
  if 0 < qos then do
    let (topic, payload, s) ← storePublication s topic payload
    sendPublish s socket pack topic payload false qos retained answer
  else do
    let r ← sendPublish s socket pack topic payload false qos retained answer
    if r.2 = .interrupted then do
      -- `MQTTProtocol_storeQoS0`
      let (topic, payload, s) ← storePublication r.1 topic payload
      .ok (updateWrite s socket topic payload, r.2)
    else .ok r

/-- A PUBLISH of `MQTTProtocol_retries`: from the publication that is stored. -/
def retryPublish (s : Sockets) (socket : ℕ) (pack : Publish) (qos : ℕ) (retained : Bool)
    (answer : Written) :
    Except Misuse (Sockets × Rc) :=
  let (topic, s) := s.mallocString (CString.ofBytes pack.topic).bytes
  let (payload, s) := s.malloc pack.payload false
  sendPublish s socket pack topic payload true qos retained answer

/-! ### What is in the buffers -/

/-- The bytes `c` are in a buffer. -/
structure Shows (m : Memory) (v : Iobuf) (c : List UInt8) : Prop where
  len : v.len = c.length
  holds : ∃ pre post, m.Holds v.base (pre ++ (c ++ post)) ∧ v.offset = pre.length

section
variable {m m' : Memory} {v : Iobuf} {c : List UInt8} {vs : List Iobuf} {l : List (List UInt8)}

theorem Shows.read (h : Shows m v c) : v.read m = .ok c := by
  obtain ⟨hlen, pre, post, hholds, hoffset⟩ := h
  unfold Iobuf.read
  split_ifs with hzero
  · rw [List.length_eq_zero_iff.mp (hlen.symm.trans hzero)]
  · rw [hholds.load, Heap.ok_bind, hoffset, hlen, List.drop_left, List.take_left, if_pos (by simp)]

theorem Shows.take (h : Shows m v c) (k : ℕ) :
    Shows m { v with len := min k v.len } (c.take k) := by
  obtain ⟨hlen, pre, post, hholds, hoffset⟩ := h
  refine ⟨by rw [List.length_take, hlen], pre, c.drop k ++ post, ?_, hoffset⟩
  rwa [← List.append_assoc (c.take k), List.take_append_drop]

theorem Shows.drop (h : Shows m v c) {k : ℕ} (hk : k ≤ c.length) :
    Shows m { v with offset := v.offset + k, len := v.len - k } (c.drop k) := by
  obtain ⟨hlen, pre, post, hholds, hoffset⟩ := h
  refine ⟨by rw [List.length_drop, hlen], pre ++ c.take k, post, ?_, ?_⟩
  · rwa [List.append_assoc, ← List.append_assoc (c.take k), List.take_append_drop]
  · rw [List.length_append, List.length_take, Nat.min_eq_left hk, hoffset]

theorem Shows.spared {freed : List ℕ} (h : Shows m v c) (hs : Heap.Spares freed m m')
    (hv : v.base ∉ freed) :
    Shows m' v c := by
  obtain ⟨hlen, pre, post, hholds, hoffset⟩ := h
  exact ⟨hlen, pre, post, hs.holds hv hholds, hoffset⟩

theorem Shows.live (h : Shows m v c) : ∃ block, m.Holds v.base block :=
  have ⟨_, _, _, hholds, _⟩ := h
  ⟨_, hholds⟩

/-- **What the kernel copies** is the start of what is in the buffers. -/
theorem copyFrom_eq (h : List.Forall₂ (Shows m) vs l) (n : ℕ) :
    copyFrom m n vs = .ok (l.flatten.take n) := by
  induction h generalizing n with
  | nil => rw [copyFrom, List.flatten_nil, List.take_nil]
  | @cons v c vs l hv _ ih =>
    rw [copyFrom, (hv.take n).read, Heap.ok_bind, ih, Heap.ok_bind, List.flatten_cons,
      List.take_append, hv.len]

theorem total_eq (h : List.Forall₂ (Shows m) vs l) : total vs = l.flatten.length := by
  unfold total
  induction h with
  | nil => rfl
  | cons hv _ ih => rw [List.map_cons, List.sum_cons, ih, hv.len, List.flatten_cons,
    List.length_append]

theorem shows_spared {freed : List ℕ} (h : List.Forall₂ (Shows m) vs l)
    (hs : Heap.Spares freed m m') (hvs : ∀ v ∈ vs, v.base ∉ freed) :
    List.Forall₂ (Shows m') vs l := by
  induction h with
  | nil => exact .nil
  | cons hv _ ih =>
    exact .cons (hv.spared hs (hvs _ List.mem_cons_self))
      (ih fun v hmem => hvs v (List.mem_cons_of_mem _ hmem))

theorem remainingIovecs_of_le {bytes : ℕ} : ∀ {curbuflen : ℕ} {vs : List Iobuf}, bytes ≤ curbuflen →
    remainingIovecs bytes curbuflen vs = vs
  | _, [], _ => rfl
  | curbuflen, v :: vs, h => by
    rw [remainingIovecs, if_pos h, remainingIovecs_of_le (by omega)]

/-- **What is written next** is the start of what is left, and something if something is left. -/
theorem remainingIovecs_spec (bytes : ℕ) (h : List.Forall₂ (Shows m) vs l) {curbuflen : ℕ}
    (hle : curbuflen ≤ bytes) :
    ∃ l', List.Forall₂ (Shows m) (remainingIovecs bytes curbuflen vs) l' ∧
      l'.flatten <+: l.flatten.drop (bytes - curbuflen) ∧
        (bytes < curbuflen + l.flatten.length → l'.flatten ≠ []) := by
  induction h generalizing curbuflen with
  | nil =>
    refine ⟨[], .nil, List.nil_prefix, fun h => ?_⟩
    rw [List.flatten_nil, List.length_nil] at h
    omega
  | @cons v c vs l hv hvs ih =>
    rw [remainingIovecs, List.flatten_cons, List.length_append, hv.len]
    split_ifs with heq hlt
    · have hzero : bytes - curbuflen = 0 := by omega
      rw [remainingIovecs_of_le (Nat.le_add_right_of_le heq), hzero, List.drop_zero,
        ← List.flatten_cons]
      refine ⟨c :: l, .cons hv hvs, List.prefix_rfl, fun h hnil => ?_⟩
      have hlen := congrArg List.length hnil
      rw [List.flatten_cons, List.length_append, List.length_nil] at hlen
      omega
    · have hinside : bytes - curbuflen ≤ c.length := by omega
      have hdrop := hv.drop hinside
      rw [hv.len] at hdrop
      rw [List.drop_append_of_le_length hinside]
      refine ⟨[c.drop (bytes - curbuflen)], .cons hdrop .nil, ?_, fun _ hnil => ?_⟩
      · rw [List.flatten_singleton]
        exact List.prefix_append _ _
      · have hlen := congrArg List.length hnil
        rw [List.flatten_singleton, List.length_drop, List.length_nil] at hlen
        omega
    · obtain ⟨l', hl', hpre, hne⟩ := ih (show curbuflen + c.length ≤ bytes by omega)
      have houtside : c.length ≤ bytes - curbuflen := by omega
      rw [List.drop_append, List.drop_eq_nil_of_le houtside, List.nil_append, Nat.sub_sub]
      exact ⟨l', hl', hpre, fun h => hne (by omega)⟩

end

/-! ### What becomes of a packet -/

/-- The kernel takes all of `size` bytes, or says that the connection is broken. -/
def Written.Whole (size : ℕ) : Written → Prop
  | .wrote n => size ≤ n
  | .again => False
  | .error => True

instance (size : ℕ) (answer : Written) : Decidable (answer.Whole size) := by
  rcases answer
  all_goals unfold Written.Whole; infer_instance

def Written.count : Written → ℕ
  | .wrote n => n
  | .again => 0
  | .error => 0

theorem writev_cases {m : Memory} {vs : List Iobuf} {l : List (List UInt8)}
    (h : List.Forall₂ (Shows m) vs l) (ch : Channel) (answer : Written) :
    (∃ ch', writev m ch vs answer = .ok (ch', none) ∧ ch'.broken = true ∧ ch'.taken = ch.taken ∧
      (ch.broken = true ∨ answer = .error)) ∨
      ∃ k ≤ l.flatten.length, ch.broken = false ∧
        (k < l.flatten.length → ¬ answer.Whole l.flatten.length ∧ k = answer.count) ∧
        (k = l.flatten.length → k ≤ answer.count) ∧
        writev m ch vs answer = .ok (⟨ch.taken ++ l.flatten.take k, false⟩, some k) := by
  unfold writev
  split_ifs with hbroken
  · exact Or.inl ⟨ch, rfl, hbroken, rfl, Or.inl hbroken⟩
  · have hfalse : ch.broken = false := by simpa using hbroken
    rcases answer with n | _ | _
    · refine Or.inr ⟨min n l.flatten.length, Nat.min_le_right _ _, hfalse, fun hlt =>
        ⟨fun hle => ?_, ?_⟩,
        fun _ => Nat.min_le_left _ _, ?_⟩
      · have hn : l.flatten.length ≤ n := hle
        omega
      · show min n l.flatten.length = n
        omega
      · simp only
        rw [copyFrom_eq h, Heap.ok_bind, List.length_take, List.take_eq_take_min, hfalse]
    · refine Or.inr ⟨0, Nat.zero_le _, hfalse, fun _ => ⟨fun hnot => hnot, rfl⟩, fun _ =>
        Nat.le_refl _, ?_⟩
      rw [List.take_zero, List.append_nil, ← hfalse]
    · exact Or.inl ⟨_, rfl, rfl, rfl, Or.inr rfl⟩

/-- The packet `bytes` is in the buffers of a pending write, each in a block of its own. -/
structure Backed (m : Memory) (pw : PendingWrites) (bytes : List UInt8) : Prop where
  shows : ∃ l, List.Forall₂ (Shows m) pw.iovecs l ∧ l.flatten = bytes
  nodup : (pw.iovecs.map Iobuf.base).Nodup
  total : pw.total = bytes.length
  lt : pw.bytes < pw.total

/-- What becomes of the packet `bytes` that is written from a header and the buffers `vs`. Whatever
is allocated for it, no block there was before is touched, and the blocks `temps` are still to be
freed unless the write is interrupted. -/
inductive Wrote (s : Sockets) (socket : ℕ) (bytes : List UInt8) (answer : Written) (vs : List Iobuf)
    (temps : List ℕ) : Sockets × Rc → Prop
  | failed {m : Memory} {ch : Channel} (hspares : Heap.Spares [] s.memory m)
      (htemps : ∀ t ∈ temps, ∃ block, m.Holds t block)
      (hch : ch = s.channels socket ∨
        socket ∉ s.writePending ∧ ch.broken = true ∧ ch.taken = (s.channels socket).taken)
      (hwhy : socket ∈ s.writePending ∨ (s.channels socket).broken = true ∨ answer = .error) :
      Wrote s socket bytes answer vs temps ({ s with memory := m }.setChannel socket ch, .error)
  | whole {m : Memory} (hspares : Heap.Spares [] s.memory m)
      (htemps : ∀ t ∈ temps, ∃ block, m.Holds t block)
      (hmem : socket ∉ s.writePending) (hgood : (s.channels socket).broken = false)
      (hcount : bytes.length ≤ answer.count) :
      Wrote s socket bytes answer vs temps
        ({ s with memory := m }.setChannel socket ⟨(s.channels socket).taken ++ bytes, false⟩,
          .complete)
  | part {m : Memory} {pw : PendingWrites} (hspares : Heap.Spares [] s.memory m)
      (hmem : socket ∉ s.writePending) (hgood : (s.channels socket).broken = false)
      (hbacked : Backed m pw bytes) (hfresh : ∀ v ∈ pw.iovecs, s.memory.mallocs ≤ v.base)
      (htail : pw.iovecs.tail = vs) (hanswer : ¬ answer.Whole bytes.length)
      (hcount : pw.bytes = answer.count) :
      Wrote s socket bytes answer vs temps
        (({ s with memory := m }.setChannel socket
          ⟨(s.channels socket).taken ++ bytes.take pw.bytes, false⟩).pendingWrite socket pw,
          .interrupted)

section
variable {s : Sockets} {m : Memory} {socket : ℕ} {answer : Written} {temps : List ℕ} {v : Iobuf}
  {vs : List Iobuf} {l : List (List UInt8)}

theorem putdatas_wrote (socket : ℕ) (answer : Written) (hspares : Heap.Spares [] s.memory m)
    (h : List.Forall₂ (Shows m) (v :: vs) l) (hnodup : ((v :: vs).map Iobuf.base).Nodup)
    (hfresh : ∀ w ∈ v :: vs, s.memory.mallocs ≤ w.base)
    (htemps : ∀ t ∈ temps, ∃ block, m.Holds t block) :
    ∃ r, putdatas { s with memory := m } socket (v :: vs) answer = .ok r ∧
      Wrote s socket l.flatten answer vs temps r := by
  unfold putdatas noPendingWrites
  by_cases hmem : socket ∈ s.writePending
  · rw [if_neg (by simpa using hmem)]
    refine ⟨_, rfl, ?_⟩
    have hfailed : Wrote s socket l.flatten answer vs temps
        ({ s with memory := m }.setChannel socket (s.channels socket), .error) :=
      .failed hspares htemps (Or.inl rfl) (Or.inl hmem)
    rwa [Sockets.setChannel, Function.update_eq_self] at hfailed
  rw [if_pos (by simpa using hmem)]
  rcases writev_cases h (s.channels socket) answer with
    ⟨ch, hrun, hbroken, htaken, hwhy⟩ | ⟨k, hk, hgood, hpart, hwhole, hrun⟩
  · rw [hrun]
    exact ⟨_, rfl, .failed hspares htemps (Or.inr ⟨hmem, hbroken, htaken⟩) (Or.inr hwhy)⟩
  · rw [hrun, Heap.ok_bind]
    simp only
    rw [total_eq h]
    split_ifs with hall
    · rw [hall, List.take_length]
      exact ⟨_, rfl, .whole hspares htemps hmem hgood (hall ▸ hwhole hall)⟩
    · obtain ⟨hanswer, hcount⟩ := hpart (by omega)
      have hbacked : Backed m ⟨v :: vs, l.flatten.length, k⟩ l.flatten :=
        ⟨⟨l, h, rfl⟩, hnodup, rfl, by simp only; omega⟩
      exact ⟨_, rfl, .part hspares hmem hgood hbacked hfresh rfl hanswer hcount⟩

theorem Wrote.release {bytes : List UInt8} {r : Sockets × Rc}
    (h : Wrote s socket bytes answer vs (v.base :: temps) r) (hb : s.memory.Bounded)
    (hv : v.base ∉ temps) (hfresh : s.memory.mallocs ≤ v.base) :
    ∃ r', release v r = .ok r' ∧ Wrote s socket bytes answer vs temps r' := by
  unfold Writes.release
  have hfree {m : Memory} (hspares : Heap.Spares [] s.memory m)
      (htemps : ∀ t ∈ v.base :: temps, ∃ block, m.Holds t block) :
      m.free (some v.base) = .ok (m.drop v.base) ∧ Heap.Spares [] s.memory (m.drop v.base) ∧
        ∀ t ∈ temps, ∃ block, (m.drop v.base).Holds t block := by
    obtain ⟨_, hholds⟩ := htemps _ List.mem_cons_self
    refine ⟨hholds.free, ?_, fun t ht => ?_⟩
    · refine (hspares.trans (Heap.spares_drop hspares.bounded v.base)).of_fresh hb fun a ha => ?_
      rwa [List.mem_singleton.mp ha]
    · obtain ⟨block, hblock⟩ := htemps t (List.mem_cons_of_mem _ ht)
      exact ⟨block, hblock.drop fun heq => hv (heq ▸ ht)⟩
  rcases h with @⟨m, ch, hspares, htemps, hch, hwhy⟩ | @⟨m, hspares, htemps, hmem, hgood, hcount⟩ |
    ⟨hspares, hmem, hgood, hbacked, hfresh, htail, hanswer, hcount⟩
  · obtain ⟨hok, hspares, htemps⟩ := hfree hspares htemps
    refine ⟨({ s with memory := m.drop v.base }.setChannel socket ch, .error), ?_,
      .failed hspares htemps hch hwhy⟩
    rw [if_neg (show ¬ Rc.error = .interrupted by decide)]
    simp only [Sockets.free, Sockets.setChannel]
    rw [hok]
    rfl
  · obtain ⟨hok, hspares, htemps⟩ := hfree hspares htemps
    refine ⟨({ s with memory := m.drop v.base }.setChannel socket _, .complete), ?_,
      .whole hspares htemps hmem hgood hcount⟩
    rw [if_neg (show ¬ Rc.complete = .interrupted by decide)]
    simp only [Sockets.free, Sockets.setChannel]
    rw [hok]
    rfl
  · exact ⟨_, if_pos rfl, .part hspares hmem hgood hbacked hfresh htail hanswer hcount⟩

theorem fresh_base (hm : m.Bounded) (h : List.Forall₂ (Shows m) vs l) :
    m.mallocs ∉ vs.map Iobuf.base := by
  induction h with
  | nil => exact List.not_mem_nil
  | cons hv _ ih =>
    rw [List.map_cons, List.mem_cons, not_or]
    obtain ⟨block, hholds⟩ := hv.live
    exact ⟨(hholds.lt hm).ne', ih⟩

theorem shows_malloc (m : Memory) (bytes : List UInt8) (frees : Bool) :
    Shows (m.grow bytes) ⟨m.mallocs, 0, bytes.length, frees⟩ bytes :=
  ⟨rfl, [], [], by simpa using Heap.holds_grow_self, rfl⟩

theorem shows_mallocString (m : Memory) (string : List UInt8) :
    Shows (m.grow (string ++ [0])) ⟨m.mallocs, 0, string.length, false⟩ string :=
  ⟨rfl, [], [0], Heap.holds_grow_self, rfl⟩

/-- **A packet is written** from buffers that were allocated for it. -/
theorem sends_wrote (socket : ℕ) (answer : Written) (temps : List ℕ) (hb : s.memory.Bounded)
    (hspares : Heap.Spares [] s.memory m) (h : List.Forall₂ (Shows m) vs l)
    (hnodup : (vs.map Iobuf.base).Nodup) (hfresh : ∀ w ∈ vs, s.memory.mallocs ≤ w.base)
    (htemps : ∀ t ∈ temps, ∃ block, m.Holds t block) (header : Header) :
    ∃ r, sends { s with memory := m } socket header vs answer = .ok r ∧
      Wrote s socket (send header l.flatten) answer vs temps r := by
  have hgrow := Heap.spares_grow (v := header.byte :: encode (total vs)) hspares.bounded
  have hnot := fresh_base hspares.bounded h
  have hbuf := shows_malloc m (header.byte :: encode (total vs)) true
  have hlive : ∀ t ∈ m.mallocs :: temps, ∃ block,
    (m.grow (header.byte :: encode (total vs))).Holds t block := by
    intro t ht
    rcases List.mem_cons.mp ht with rfl | ht
    · exact ⟨_, Heap.holds_grow_self⟩
    · obtain ⟨block, hblock⟩ := htemps t ht
      exact ⟨block, hblock.grow hspares.bounded⟩
  have htemp : m.mallocs ∉ temps := by
    intro ht
    obtain ⟨block, hblock⟩ := htemps _ ht
    exact absurd (hblock.lt hspares.bounded) (Nat.lt_irrefl _)
  obtain ⟨r, hput, hwrote⟩ := putdatas_wrote socket answer
    (hspares.trans hgrow) (.cons hbuf (shows_spared h hgrow fun _ _ => List.not_mem_nil))
    (List.nodup_cons.mpr ⟨hnot, hnodup⟩)
    (fun w hw => (List.mem_cons.mp hw).elim (fun heq => heq ▸ hspares.mallocs_le) (hfresh w)) hlive
  obtain ⟨r', hrelease, hwrote'⟩ :=
    hwrote.release (v := ⟨m.mallocs, 0, _, true⟩) hb htemp hspares.mallocs_le
  refine ⟨r', ?_, ?_⟩
  · unfold sends Sockets.malloc
    simp only
    rw [hput]
    exact hrelease
  · rw [List.flatten_cons, total_eq h] at hwrote'
    exact hwrote'

theorem sendBuffer_wrote (socket : ℕ) (answer : Written) (hb : s.memory.Bounded) (header : Header)
    (data : Option (List UInt8)) :
    ∃ r vs, sendBuffer s socket header data answer = .ok r ∧
      Wrote s socket (send header (data.getD [])) answer vs [] r := by
  rcases data with _ | data
  · obtain ⟨r, hsends, hwrote⟩ := sends_wrote socket answer [] hb (.refl hb)
      .nil List.nodup_nil (fun _ h => absurd h List.not_mem_nil)
      (fun _ h => absurd h List.not_mem_nil) header
    exact ⟨r, [], hsends, hwrote⟩
  · have hbuf := shows_malloc s.memory data true
    obtain ⟨r, hsends, hwrote⟩ := sends_wrote socket answer
      [s.memory.mallocs] hb (Heap.spares_grow hb) (.cons hbuf .nil) (List.nodup_singleton _)
      (fun v hv => (List.mem_singleton.mp hv) ▸ Nat.le_refl _)
      (fun t ht => (List.mem_singleton.mp ht) ▸ hbuf.live) header
    obtain ⟨r', hrelease, hwrote'⟩ :=
      hwrote.release (v := ⟨s.memory.mallocs, 0, data.length, true⟩) hb
      List.not_mem_nil (Nat.le_refl _)
    refine ⟨r', _, ?_, by rwa [List.flatten_singleton] at hwrote'⟩
    unfold sendBuffer Sockets.malloc
    simp only
    rw [hsends]
    exact hrelease

theorem publishBuffers_eq (pack : Publish) (qos : ℕ) :
    [writeInt (CString.ofBytes pack.topic).bytes.length, (CString.ofBytes pack.topic).bytes,
      idAndProperties pack qos, pack.payload].flatten = publishBuffers pack qos := by
  unfold publishBuffers idAndProperties
  simp only [List.flatten_cons, List.flatten_nil, List.append_nil, List.append_assoc]

theorem length_publishBuffers (pack : Publish) (qos : ℕ) : (publishBuffers pack qos).length =
    2 + (CString.ofBytes pack.topic).bytes.length + (idAndProperties pack qos).length +
    pack.payload.length := by
  rw [← publishBuffers_eq]
  simp only [List.flatten_cons, List.flatten_nil, List.length_append, List.length_nil,
    length_writeInt]
  omega

theorem length_send (header : Header) (data : List UInt8) :
    (send header data).length = 1 + (encode data.length).length + data.length := by
  unfold send
  rw [List.length_cons, List.length_append]
  omega

theorem idAndProperties_eq_nil {pack : Publish} {qos : ℕ}
    (h : ¬ (0 < qos ∨ MQTTVERSION_5 ≤ pack.MQTTVersion)) :
    idAndProperties pack qos = [] := by
  unfold idAndProperties
  rw [if_neg (not_or.mp h).1, if_neg (not_or.mp h).2]
  rfl

theorem sendPublish_wrote (socket : ℕ) (answer : Written) (hb : s.memory.Bounded)
    (hspares : Heap.Spares [] s.memory m) {pack : Publish} {topic payload : Iobuf}
    (htopic : Shows m topic (CString.ofBytes pack.topic).bytes)
    (hpayload : Shows m payload pack.payload) (htopicFresh : s.memory.mallocs ≤ topic.base)
    (hpayloadFresh : s.memory.mallocs ≤ payload.base) (hne : topic.base ≠ payload.base) (dup : Bool)
    (qos : ℕ) (retained : Bool) :
    ∃ r topiclen bufs2, topiclen.len = 2 ∧ bufs2.len = (idAndProperties pack qos).length ∧
      sendPublish { s with memory := m } socket pack topic payload dup qos retained answer = .ok r ∧
      Wrote s socket (send (.ofBits PUBLISH dup qos retained) (publishBuffers pack qos)) answer
        (if 0 < qos ∨ MQTTVERSION_5 ≤ pack.MQTTVersion then [topiclen, topic, bufs2, payload]
          else [topiclen, topic, payload]) [] r := by
  obtain ⟨_, htopicHolds⟩ := htopic.live
  obtain ⟨_, hpayloadHolds⟩ := hpayload.live
  have htopicLt := htopicHolds.lt hspares.bounded
  have hpayloadLt := hpayloadHolds.lt hspares.bounded
  have hle := hspares.mallocs_le
  have hnil : ∀ a : ℕ, a ∉ ([] : List ℕ) := fun _ => List.not_mem_nil
  have hgrow := Heap.spares_grow (v := writeInt topic.len) hspares.bounded
  have hlen := shows_malloc m (writeInt topic.len) true
  have htopic' := htopic.spared hgrow (hnil _)
  have hpayload' := hpayload.spared hgrow (hnil _)
  unfold sendPublish Sockets.malloc
  simp only
  by_cases hfour : 0 < qos ∨ MQTTVERSION_5 ≤ pack.MQTTVersion
  · simp only [if_pos hfour]
    have hgrow₂ := Heap.spares_grow (v := idAndProperties pack qos) hgrow.bounded
    have hbufs := shows_malloc (m.grow (writeInt topic.len)) (idAndProperties pack qos) true
    have hlen₂ := hlen.spared hgrow₂ (hnil _)
    have hnodup : [m.mallocs, topic.base, m.mallocs + 1, payload.base].Nodup := by grind
    obtain ⟨r, hsends, hwrote⟩ := sends_wrote socket answer [m.mallocs + 1, m.mallocs] hb
      ((hspares.trans hgrow).trans hgrow₂)
      (.cons hlen₂ (.cons (htopic'.spared hgrow₂ (hnil _)) (.cons hbufs
        (.cons (hpayload'.spared hgrow₂ (hnil _)) .nil)))) hnodup
      (by simpa using ⟨hle, htopicFresh, Nat.le_succ_of_le hle, hpayloadFresh⟩)
      (by simpa using ⟨hbufs.live, hlen₂.live⟩) (.ofBits PUBLISH dup qos retained)
    have hdata : [writeInt topic.len, (CString.ofBytes pack.topic).bytes, idAndProperties pack qos,
        pack.payload].flatten = publishBuffers pack qos := by
      rw [htopic.len]
      exact publishBuffers_eq pack qos
    rw [hdata] at hwrote
    obtain ⟨r₁, hrelease₁, hwrote₁⟩ := hwrote.release
      (v := ⟨(m.grow (writeInt topic.len)).mallocs, 0, (idAndProperties pack qos).length, true⟩) hb
      (fun hmem => absurd (List.mem_singleton.mp hmem) (Nat.succ_ne_self _)) (Nat.le_succ_of_le hle)
    obtain ⟨r₂, hrelease₂, hwrote₂⟩ :=
      hwrote₁.release (v := ⟨m.mallocs, 0, (writeInt topic.len).length, true⟩)
      hb (hnil _) hle
    refine ⟨r₂, _, _, length_writeInt _, rfl, ?_, hwrote₂⟩
    rw [hsends, Heap.ok_bind, hrelease₁, Heap.ok_bind, hrelease₂]
  · simp only [if_neg hfour]
    have hnodup : [m.mallocs, topic.base, payload.base].Nodup := by grind
    obtain ⟨r, hsends, hwrote⟩ := sends_wrote socket answer [m.mallocs] hb (hspares.trans hgrow)
      (.cons hlen (.cons htopic' (.cons hpayload' .nil))) hnodup
      (by simpa using ⟨hle, htopicFresh, hpayloadFresh⟩) (by simpa using hlen.live)
      (.ofBits PUBLISH dup qos retained)
    have hdata : [writeInt topic.len, (CString.ofBytes pack.topic).bytes, pack.payload].flatten =
        publishBuffers pack qos := by
      rw [← publishBuffers_eq, idAndProperties_eq_nil hfour, htopic.len]
      rfl
    rw [hdata] at hwrote
    obtain ⟨r', hrelease, hwrote'⟩ := hwrote.release (v := ⟨m.mallocs, 0, _, true⟩) hb (hnil _) hle
    refine ⟨r', _, ⟨0, 0, 0, true⟩,
      length_writeInt _, by rw [idAndProperties_eq_nil hfour]; rfl, ?_, hwrote'⟩
    rw [hsends]
    exact hrelease

/-! ### Publications that are stored -/

theorem Shows.rebase {c : List UInt8} {w : Iobuf} (h : Shows m v c) (hoffset : v.offset = 0)
    (hw : w.offset = 0) (hlen : w.len = c.length) : Shows m { w with base := v.base } c := by
  obtain ⟨-, pre, post, hholds, hpre⟩ := h
  exact ⟨hlen, pre, post, hholds, hw.trans (hoffset.symm.trans hpre)⟩

theorem storePublication_spec (hm : m.Bounded) {topic payload : Iobuf} {string bytes : List UInt8}
    (htopic : Shows m topic string) (hpayload : Shows m payload bytes)
    (hne : topic.base ≠ payload.base) :
    ∃ m' topic' payload', storePublication { s with memory := m } topic payload =
        .ok (topic', payload', { s with memory := m' }) ∧
      Heap.Spares [topic.base] m m' ∧ Shows m' topic' string ∧ Shows m' payload' bytes ∧
      (topic'.offset = 0 ∧ payload'.offset = 0) ∧ m.mallocs ≤ topic'.base ∧
        topic'.base < payload'.base ∧
      topic.base ∉ m'.live := by
  obtain ⟨_, hholds⟩ := htopic.live
  have hlt := hholds.lt hm
  have hgrow := Heap.spares_grow (v := string ++ [0]) hm
  have hdrop := Heap.spares_drop hgrow.bounded topic.base
  have hgrow₂ := Heap.spares_grow (v := bytes) hdrop.bounded
  have hnew := (shows_mallocString m string).spared hdrop fun hmem =>
    hlt.ne' (List.mem_singleton.mp hmem)
  have hcopy := shows_malloc ((m.grow (string ++ [0])).drop topic.base) bytes false
  have hread := ((hpayload.spared hgrow List.not_mem_nil).spared hdrop
    fun hmem => hne (List.mem_singleton.mp hmem).symm).read
  refine ⟨_, _, _, ?_, (hgrow.trans hdrop).trans hgrow₂, hnew.spared hgrow₂ List.not_mem_nil, hcopy,
    ⟨rfl, rfl⟩, Nat.le_refl _, Nat.lt_succ_self _, ?_⟩
  · unfold storePublication Sockets.mallocString Sockets.free Sockets.malloc
    simp only
    rw [htopic.read, Heap.ok_bind, (hholds.grow hm).free, Heap.ok_bind, Heap.ok_bind,
      hread, Heap.ok_bind]
  · intro hmem
    rcases Finset.mem_insert.mp hmem with heq | hmem
    · exact absurd (heq ▸ hlt) (Nat.not_lt.mpr (Nat.le_succ _))
    · exact absurd rfl (Finset.ne_of_mem_erase hmem)

theorem shows_caller (hm : m.Bounded) (string bytes : List UInt8) :
    Heap.Spares [] m ((m.grow (string ++ [0])).grow bytes) ∧
      Shows ((m.grow (string ++ [0])).grow bytes) ⟨m.mallocs, 0, string.length, false⟩ string ∧
      Shows ((m.grow (string ++ [0])).grow bytes)
        ⟨(m.grow (string ++ [0])).mallocs, 0, bytes.length, false⟩ bytes := by
  have hgrow := Heap.spares_grow (v := string ++ [0]) hm
  have hgrow₂ := Heap.spares_grow (v := bytes) hgrow.bounded
  exact ⟨hgrow.trans hgrow₂, (shows_mallocString m string).spared hgrow₂ List.not_mem_nil,
    shows_malloc (m.grow (string ++ [0])) bytes false⟩

theorem retryPublish_wrote (socket : ℕ) (answer : Written) (hb : s.memory.Bounded) (pack : Publish)
    (qos : ℕ) (retained : Bool) :
    ∃ r vs, retryPublish s socket pack qos retained answer = .ok r ∧
      Wrote s socket (send (.ofBits PUBLISH true qos retained) (publishBuffers pack qos))
      answer vs [] r := by
  obtain ⟨hspares, htopic, hpayload⟩ :=
    shows_caller hb (CString.ofBytes pack.topic).bytes pack.payload
  obtain ⟨r, _, _, -, -, hsend, hwrote⟩ := sendPublish_wrote socket answer hb hspares
    htopic hpayload (Nat.le_refl _) (Nat.le_succ _) (Nat.succ_ne_self _).symm true qos retained
  exact ⟨r, _, hsend, hwrote⟩

theorem Wrote.interrupted {bytes : List UInt8} {r : Sockets × Rc}
    (h : Wrote s socket bytes answer vs temps r) (hrc : r.2 = .interrupted) :
    ∃ m v, r = (({ s with memory := m }.setChannel socket
        ⟨(s.channels socket).taken ++ bytes.take answer.count, false⟩).pendingWrite socket
          ⟨v :: vs, bytes.length, answer.count⟩, .interrupted) ∧
      Heap.Spares [] s.memory m ∧ socket ∉ s.writePending ∧ (s.channels socket).broken = false ∧
      Backed m ⟨v :: vs, bytes.length, answer.count⟩ bytes ∧
      (∀ w ∈ v :: vs, s.memory.mallocs ≤ w.base) ∧ ¬ answer.Whole bytes.length := by
  rcases h with _ | _ |
    @⟨m, ⟨iovecs, total, k⟩, hspares, hmem, hgood, hbacked, hfresh, htail, hanswer, hcount⟩
  · cases hrc
  · cases hrc
  rcases iovecs with _ | ⟨v, vs'⟩
  · obtain ⟨⟨l, hshows, hflat⟩, -, htotal, hlt⟩ := hbacked
    cases hshows
    have hzero : total = 0 := by rw [← hflat] at htotal; exact htotal
    have hpos : k < total := hlt
    omega
  obtain rfl : vs' = vs := htail
  obtain rfl : k = answer.count := hcount
  obtain rfl : total = bytes.length := hbacked.total
  exact ⟨m, v, rfl, hspares, hmem, hgood, hbacked, hfresh, hanswer⟩

/-- **A QoS 0 message whose write is interrupted is stored**, and the pending write is told, if the
packet has four buffers. -/
theorem Wrote.storeQoS0 {bytes : List UInt8} {topiclen topic payload : Iobuf} {r : Sockets × Rc}
    (h : Wrote s socket bytes answer [topiclen, topic, payload] [] r) (hb : s.memory.Bounded)
    (hnone : socket ∉ s.writePending → s.writes socket = none)
    (hoffset : topic.offset = 0 ∧ payload.offset = 0) (hrc : r.2 = .interrupted) :
    ∃ vs topic' payload' s', storePublication r.1 topic payload = .ok (topic', payload', s') ∧
      Wrote s socket bytes answer vs [] (updateWrite s' socket topic' payload', r.2) := by
  obtain ⟨m, v, rfl, hspares, hmem, hgood, ⟨⟨l, hshows, hflat⟩, hnodup, htotal, hlt⟩, hfresh,
    hanswer⟩ := h.interrupted hrc
  rcases hshows with _ | @⟨_, a, _, _, ha, _ | @⟨_, b, _, _, hlen, _ |
    @⟨_, c, _, _, htopic, _ | @⟨_, d, _, _, hpayload, _ | _⟩⟩⟩⟩
  obtain ⟨⟨-, hvb, -⟩, ⟨hlb, -⟩, hne⟩ : (v.base ≠ topiclen.base ∧ v.base ≠ topic.base ∧
      v.base ≠ payload.base) ∧ (topiclen.base ≠ topic.base ∧ topiclen.base ≠ payload.base) ∧
      topic.base ≠ payload.base := by simpa using hnodup
  set s₁ := { s with memory := m }.setChannel socket
    ⟨(s.channels socket).taken ++ bytes.take answer.count, false⟩ with hs₁
  obtain ⟨m', topic', payload', hstore, hspares', htopic', hpayload', ⟨hoff, hoff'⟩, hfreshTopic,
    hlt', -⟩ := storePublication_spec (s := s₁.pendingWrite socket
      ⟨[v, topiclen, topic, payload], bytes.length, answer.count⟩) hspares.bounded htopic hpayload hne
  set pw' : PendingWrites :=
    ⟨[v, topiclen, { topic with base := topic'.base }, { payload with base := payload'.base }],
      bytes.length, answer.count⟩ with hpw'
  have hupdate : updateWrite { s₁.pendingWrite socket
        ⟨[v, topiclen, topic, payload], bytes.length, answer.count⟩ with memory := m' } socket topic'
          payload' = { s₁ with memory := m' }.pendingWrite socket pw' := by
    unfold updateWrite Sockets.pendingWrite
    simp only [hs₁, Sockets.setChannel, Function.update_self, hnone hmem, Option.getD_none,
      Function.update_idem, hpw']
  refine ⟨pw'.iovecs.tail, topic', payload', _, hstore, ?_⟩
  rw [hupdate]
  have hother : ∀ w : Iobuf, w.base ≠ topic.base → w.base ∉ [topic.base] := fun w hw hmem =>
    hw (List.mem_singleton.mp hmem)
  obtain ⟨_, hvlive⟩ := ha.live
  obtain ⟨_, hlenlive⟩ := hlen.live
  have hvlt := hvlive.lt hspares.bounded
  have hlenlt := hlenlive.lt hspares.bounded
  have hle := hspares.mallocs_le
  obtain ⟨hfreshv, hfreshlen, hfreshtopic, -⟩ : s.memory.mallocs ≤ v.base ∧
      s.memory.mallocs ≤ topiclen.base ∧ s.memory.mallocs ≤ topic.base ∧
      s.memory.mallocs ≤ payload.base := by simpa using hfresh
  have hshows' : List.Forall₂ (Shows m') pw'.iovecs [a, b, c, d] :=
    .cons (ha.spared hspares' (hother v hvb)) (.cons (hlen.spared hspares' (hother _ hlb))
      (.cons (htopic'.rebase hoff hoffset.1 htopic.len)
        (.cons (hpayload'.rebase hoff' hoffset.2 hpayload.len) .nil)))
  refine .part ((hspares.trans hspares').of_fresh hb fun x hx => ?_) hmem hgood
    ⟨⟨_, hshows', hflat⟩, ?_, htotal, hlt⟩ ?_ rfl hanswer rfl
  · rw [List.mem_singleton.mp hx]
    exact hfreshtopic
  · show [v.base, topiclen.base, topic'.base, payload'.base].Nodup
    grind
  · simp only [hpw', List.forall_mem_cons, List.not_mem_nil, false_implies, implies_true, and_true]
    omega

/-- **With five buffers the pending write is not told**: it keeps the pointer to the topic that was
freed. -/
theorem Wrote.storeQoS0_five {bytes : List UInt8} {topiclen topic bufs2 payload : Iobuf}
    {r : Sockets × Rc} (h : Wrote s socket bytes answer [topiclen, topic, bufs2, payload] [] r)
    (hnone : s.writes socket = none) (hrc : r.2 = .interrupted) :
    ∃ m v l ch topic' payload' s', storePublication r.1 topic payload = .ok (topic', payload', s') ∧
      updateWrite s' socket topic' payload' =
        ({ s with memory := m }.setChannel socket ch).pendingWrite socket
          ⟨[v, topiclen] ++ topic :: [bufs2, payload], bytes.length, answer.count⟩ ∧
      socket ∉ s.writePending ∧ ch.broken = false ∧ topic.base ∉ m.live ∧
      List.Forall₂ (Shows m) [v, topiclen] l ∧
      l.flatten.length + topic.len + bufs2.len + payload.len = bytes.length := by
  obtain ⟨m, v, rfl, hspares, hmem, -, ⟨⟨l, hshows, hflat⟩, hnodup, -, -⟩, -, -⟩ :=
    h.interrupted hrc
  rcases hshows with _ | @⟨_, a, _, _, ha, _ | @⟨_, b, _, _, hlen, _ | @⟨_, c, _, _, htopic, _ |
    @⟨_, d, _, _, hbufs, _ | @⟨_, e, _, _, hpayload, _ | _⟩⟩⟩⟩⟩
  obtain ⟨hvt, hlt, hne⟩ : v.base ≠ topic.base ∧ topiclen.base ≠ topic.base ∧
      topic.base ≠ payload.base := by grind
  obtain ⟨m', topic', payload', hstore, hspares', -, -, -, -, -, hfreed⟩ :=
    storePublication_spec (s := ({ s with memory := m }.setChannel socket
      ⟨(s.channels socket).taken ++ bytes.take answer.count, false⟩).pendingWrite socket
        ⟨[v, topiclen, topic, bufs2, payload], bytes.length, answer.count⟩) hspares.bounded htopic
      hpayload hne
  have hother : ∀ w : Iobuf, w.base ≠ topic.base → w.base ∉ [topic.base] := fun w hw hmem =>
    hw (List.mem_singleton.mp hmem)
  have hfront : List.Forall₂ (Shows m') [v, topiclen] [a, b] :=
    .cons (ha.spared hspares' (hother v hvt)) (.cons (hlen.spared hspares' (hother _ hlt)) .nil)
  refine ⟨m', v, [a, b], ⟨(s.channels socket).taken ++ bytes.take answer.count, false⟩, topic',
    payload', _, hstore, ?_, hmem, rfl, hfreed, hfront, ?_⟩
  · unfold updateWrite Sockets.pendingWrite Sockets.setChannel
    simp only [Function.update_self, hnone, Option.getD_none]
    rfl
  · have hsum := congrArg List.length hflat
    simp only [List.flatten_cons, List.flatten_nil, List.length_append, List.length_nil] at hsum ⊢
    rw [htopic.len, hbufs.len, hpayload.len]
    omega

/-- **A message is published.** With MQTT 5 and QoS 0 the kernel has to take the packet whole: it
has five buffers. -/
theorem startPublish_wrote (socket : ℕ) (answer : Written) (hb : s.memory.Bounded)
    (hnone : socket ∉ s.writePending → s.writes socket = none) (pack : Publish) (qos : ℕ)
    (retained : Bool)
    (hkept : qos = 0 → MQTTVERSION_5 ≤ pack.MQTTVersion →
      answer.Whole (send (.ofBits PUBLISH false qos retained) (publishBuffers pack qos)).length) :
    ∃ r vs, startPublish s socket pack qos retained answer = .ok r ∧
      Wrote s socket (send (.ofBits PUBLISH false qos retained) (publishBuffers pack qos))
      answer vs [] r := by
  obtain ⟨hspares, htopic, hpayload⟩ :=
    shows_caller hb (CString.ofBytes pack.topic).bytes pack.payload
  unfold startPublish Sockets.mallocString Sockets.malloc
  simp only
  split_ifs with hqos
  · obtain ⟨m', topic', payload', hstore, hspares', htopic', hpayload', -, hfresh, hlt, -⟩ :=
      storePublication_spec (s := s) hspares.bounded htopic hpayload (Nat.succ_ne_self _).symm
    have hle := hspares.mallocs_le
    obtain ⟨r, _, _, -, -, hsend, hwrote⟩ := sendPublish_wrote socket answer hb
      ((hspares.trans hspares').of_fresh hb fun x hx => (List.mem_singleton.mp hx) ▸ Nat.le_refl _)
      htopic' hpayload'
      (by omega) (by omega) (by omega) false qos retained
    refine ⟨r, _, ?_, hwrote⟩
    rw [hstore, Heap.ok_bind]
    exact hsend
  · obtain rfl : qos = 0 := by omega
    obtain ⟨r, topiclen, bufs2, -, -, hsend, hwrote⟩ := sendPublish_wrote socket answer hb hspares
      htopic hpayload (Nat.le_refl _) (Nat.le_succ _) (Nat.succ_ne_self _).symm false 0 retained
    rw [hsend, Heap.ok_bind]
    split_ifs with hrc
    · have hfour : ¬ (0 < 0 ∨ MQTTVERSION_5 ≤ pack.MQTTVersion) := by
        rintro (h | h)
        · omega
        · rcases hwrote with _ | _ | ⟨-, -, -, -, -, -, hanswer, -⟩
          · cases hrc
          · cases hrc
          · exact hanswer (hkept rfl h)
      rw [if_neg hfour] at hwrote
      obtain ⟨vs, topic', payload', s', hstore, hwrote'⟩ := hwrote.storeQoS0 hb hnone ⟨rfl, rfl⟩ hrc
      refine ⟨_, vs, ?_, hwrote'⟩
      rw [hstore, Heap.ok_bind]
    · exact ⟨r, _, rfl, hwrote⟩

end

end OasisEdge.Mqtt.Writes
