import OasisEdge.Mqtt.Packet
import Mathlib.Logic.Function.Basic

/-! # Reading packets from sockets

A packet may arrive in pieces. `MQTTPacket_Factory` then gives up (`Stop.interrupted`), and the
bytes it has read wait in a queue of the socket: first those of the header, one by one, then those
of the rest. The next call reads the header again from the queue and goes on where the last call
stopped.

A function that takes bytes of the header is compared with the reader of the same bytes of the
stream (`Resumes`). This is closed under sequencing, so it holds of the whole header if it holds of
one byte (`resumes_getch`). A call for a readable socket then gives the next packet of the stream,
or leaves more bytes in the queue (`served`). -/

namespace OasisEdge.Mqtt.Stream

open OasisEdge.Lib.Readers OasisEdge.Mqtt.Bytes OasisEdge.Mqtt.Packet

/-! ### Queues -/

/-- `socket_queue`: the header as far as `headerlen` says, if that is set, and the data as far as
`datalen` says. -/
structure SocketQueue where
  index : ℕ
  header : Option (List UInt8)
  data : List UInt8

/-- The queues of `SocketBuffer`, and the one that will be used next. Its socket is `0` if it is not
in use. -/
structure SocketBuffer where
  queues : ℕ → Option SocketQueue
  defSocket : ℕ
  defQueue : SocketQueue

/-- `SocketBuffer_newDefQ`. -/
def newDefQ : SocketQueue := ⟨0, none, []⟩

/-- `SocketBuffer_initialize`. -/
def initially : SocketBuffer := ⟨fun _ => none, 0, newDefQ⟩

/-- `SocketBuffer_cleanup`, as far as reading is concerned. -/
def cleanup (socket : ℕ) (b : SocketBuffer) : SocketBuffer :=
  let b := { b with queues := Function.update b.queues socket none }
  if b.defSocket = socket then { b with defSocket := 0, defQueue := ⟨0, some [], []⟩ } else b

/-- `SocketBuffer_interrupted`, with the data that is in the buffer. -/
def interrupted (socket : ℕ) (data : List UInt8) (b : SocketBuffer) : SocketBuffer :=
  match b.queues socket with
  | some q =>
    { b with queues := Function.update b.queues socket (some { q with index := 0, data }) }
  | none =>
    ⟨Function.update b.queues socket (some { b.defQueue with index := 0, data }), 0, newDefQ⟩

/-- `SocketBuffer_complete`. -/
def complete (socket : ℕ) (b : SocketBuffer) : SocketBuffer :=
  ⟨Function.update b.queues socket none, 0, ⟨0, some [], []⟩⟩

/-- A character goes into the fixed header. -/
def SocketQueue.store (q : SocketQueue) (c : UInt8) : SocketQueue :=
  if 4 < q.index then q
  else { q with index := q.index + 1, header := some ((q.header.getD []).take q.index ++ [c]) }

/-- `SocketBuffer_queueChar`. -/
def queueChar (socket : ℕ) (c : UInt8) (b : SocketBuffer) : SocketBuffer :=
  match b.queues socket with
  | some q => { b with queues := Function.update b.queues socket (some (q.store c)) }
  | none =>
    if b.defSocket = 0 then
      { b with defSocket := socket, defQueue := { b.defQueue with index := 0, data := [] }.store c }
    else if b.defSocket ≠ socket then b
    else { b with defQueue := b.defQueue.store c }

/-! ### Receiving -/

/-- What the kernel answers to a `recv`. -/
inductive Recv
  /-- There is nothing to read now. -/
  | again
  /-- The connection is closed or broken. -/
  | closed
  /-- There are `n + 1` bytes, if that many were asked for and have been sent. -/
  | got (n : ℕ)
deriving DecidableEq

/-- The queues, the answers of the kernel in this call, and the bytes of the socket that have not
been read. -/
structure World where
  buffer : SocketBuffer
  recvs : List Recv
  input : List UInt8

/-- Why a call gives no packet. -/
inductive Stop
  | interrupted
  | error
  | fault (e : Fault)

/-- A function that receives. -/
abbrev Receive := ExceptT Stop (StateM World)

/-- A call of such a function. -/
def attempt {α : Type} (f : Receive α) (w : World) : Except Stop α × World := f.run w

/-- A change of the queues. -/
def onBuffer (f : SocketBuffer → SocketBuffer) : Receive Unit :=
  modify fun w => { w with buffer := f w.buffer }

/-- `recv`: the bytes, or nothing if there are none now. -/
def recv (size : ℕ) : Receive (Option (List UInt8)) := do
  let w ← get
  match w.recvs with
  | [] => return none
  | .again :: recvs => do
    set { w with recvs }
    return none
  | .closed :: _ => throw .error
  | .got n :: recvs =>
    if w.input = [] then do
      set { w with recvs }
      return none
    else do
      let k := min (n + 1) size
      set { w with recvs, input := w.input.drop k }
      return some (w.input.take k)

/-- `SocketBuffer_getQueuedChar`. -/
def getQueuedChar (socket : ℕ) : Receive (Option UInt8) := do
  let w ← get
  match w.buffer.queues socket with
  | none => return none
  | some q =>
    match q.header with
    | none => throw (.fault .uninitialised)
    | some header =>
      match header[q.index]? with
      | some c => do
        onBuffer fun b =>
          { b with
            queues := Function.update b.queues socket (some { q with index := q.index + 1 }) }
        return some c
      | none => if 4 < q.index then throw .error else return none

/-- `Socket_getch`. -/
def getch (socket : ℕ) : Receive UInt8 := do
  match ← getQueuedChar socket with
  | some c => return c
  | none =>
    match ← recv 1 with
    | some (c :: _) => do
      onBuffer (queueChar socket c)
      return c
    | _ => do
      onBuffer (interrupted socket [])
      throw .interrupted

/-- `Socket_getdata`, where a packet that is not complete ends the call of `MQTTPacket_Factory`. -/
def getdata (socket bytes : ℕ) : Receive (List UInt8) := do
  if bytes = 0 then do
    onBuffer (complete socket)
    return []
  else do
    let w ← get
    let queued := ((w.buffer.queues socket).map (·.data)).getD []
    let received ← recv (bytes - queued.length)
    let buf := queued ++ received.getD []
    if buf.length = bytes then do
      onBuffer (complete socket)
      return buf
    else do
      onBuffer (interrupted socket buf)
      throw .interrupted

/-- `MQTTPacket_decode`. -/
def decode (getchar : Receive UInt8) : Receive ℕ := do
  let (value, _, complete) ← decodeLoop getchar MAX_NO_OF_REMAINING_LENGTH_BYTES 0 1 0
  if complete then return value else throw .error

/-- The first half of `MQTTPacket_Factory`: the header and the data of a whole packet. -/
def factory (socket : ℕ) : Receive (Header × List UInt8) := do
  let byte ← getch socket
  let remainingLength ← decode (getch socket)
  let data ← getdata socket remainingLength
  return (⟨byte⟩, data)

/-! ### The packets of a stream -/

/-- The byte in front of a packet, and the loop over the bytes of its length. -/
def frameHeader : Reader UInt8 Unit (UInt8 × ℕ × ℕ × Bool) := do
  let byte ← next ()
  let length ← decodeLoop (next ()) MAX_NO_OF_REMAINING_LENGTH_BYTES 0 1 0
  return (byte, length)

/-- A packet at the start of a stream; none if its length has more than four bytes. The error is
that the stream ends inside. -/
def frame : Reader UInt8 Unit (Option (Header × List UInt8)) := do
  let (byte, value, _, complete) ← frameHeader
  if complete then do
    let data ← nextMany () value
    return some (⟨byte⟩, data)
  else return none

theorem stable_decodeLoop : ∀ left len multiplier value : ℕ,
    Stable (decodeLoop (next () : Reader UInt8 Unit UInt8) left len multiplier value)
  | 0, _, _, _ => stable_pure _
  | left + 1, len, multiplier, value => by
    refine (stable_next ()).bind fun c => ?_
    by_cases hc : c &&& 128 ≠ 0
    · simp only [if_pos hc]
      exact stable_decodeLoop left _ _ _
    · simp only [if_neg hc]
      exact stable_pure _

theorem stable_frameHeader : Stable frameHeader :=
  (stable_next ()).bind fun byte => (stable_decodeLoop _ _ _ _).bind fun length =>
    stable_pure (byte, length)

theorem stable_frame : Stable frame := by
  refine stable_frameHeader.bind fun ⟨byte, value, _, complete⟩ => ?_
  rcases complete with _ | _
  · exact stable_pure none
  · exact (stable_nextMany () value).bind fun data => stable_pure _

/-! ### One call against the packet it reads -/

section
variable {α β : Type}

theorem attempt_pure (a : α) (w : World) : attempt (pure a) w = (.ok a, w) := rfl

theorem attempt_bind (f : Receive α) (g : α → Receive β) (w : World) :
    attempt (f >>= g) w = match attempt f w with
      | (.ok a, w') => attempt (g a) w'
      | (.error e, w') => (.error e, w') := by
  show StateT.run (ExceptT.run f >>= ExceptT.bindCont g) w = _
  rw [StateT.run_bind]
  show StateT.run (ExceptT.bindCont g (attempt f w).1) (attempt f w).2 = _
  rcases attempt f w with ⟨e | a, w'⟩
  · rfl
  · rfl

theorem attempt_ok {f : Receive α} {w w' : World} {a : α} (h : attempt f w = (.ok a, w'))
    (g : α → Receive β) : attempt (f >>= g) w = attempt (g a) w' := by
  rw [attempt_bind, h]

theorem attempt_error {f : Receive α} {w w' : World} {e : Stop} (h : attempt f w = (.error e, w'))
    (g : α → Receive β) : attempt (f >>= g) w = (.error e, w') := by
  rw [attempt_bind, h]

end

/-- The queue that will be used next is not in use. -/
structure Idle (b : SocketBuffer) : Prop where
  defSocket : b.defSocket = 0
  index : b.defQueue.index = 0
  data : b.defQueue.data = []
  header : b.defQueue.header = none ∨ b.defQueue.header = some []

/-- Inside a call: `i` of the bytes `h` of the header have been read, and `d` is what there is of
the data. -/
inductive At (s : ℕ) (h : List UInt8) (i : ℕ) (d : List UInt8) (b : SocketBuffer) : Prop
  /-- They are in a queue of the socket. -/
  | queued (hqueue : b.queues s = some ⟨i, some h, d⟩) (hidle : Idle b)
  /-- There are none. -/
  | fresh (hqueue : b.queues s = none) (hidle : Idle b) (hh : h = []) (hi : i = 0) (hd : d = [])
  /-- They are in the queue that will be used next. -/
  | started (hqueue : b.queues s = none) (hsocket : b.defSocket = s)
      (hdef : b.defQueue = ⟨i, some h, []⟩) (hi : i = h.length) (hd : d = [])

/-- The socket is readable: there are bytes, or the connection is closed. -/
def readable : List Recv → List UInt8 → Bool
  | .closed :: _, _ => true
  | .got _ :: _, _ :: _ => true
  | _, _ => false

/-- The socket that is read is readable. -/
def Ready (w : World) : Prop := readable w.recvs w.input = true

/-- The queues of the other sockets are as before. -/
def Same (s : ℕ) (b b' : SocketBuffer) : Prop := ∀ s' ≠ s, b'.queues s' = b.queues s'

theorem Same.trans {s : ℕ} {b b' b'' : SocketBuffer} (h : Same s b b') (h' : Same s b' b'') :
    Same s b b'' := fun s' hs => (h' s' hs).trans (h s' hs)

/-- What becomes of a call against the reader `g` of the stream: `t` is what it has received. -/
inductive Resumed (s k : ℕ) {α : Type} (g : Reader UInt8 Unit α) (h d : List UInt8) (i : ℕ)
    (w : World) :
    Except Stop α × World → Prop
  | done {a : α} {v : World} {t : List UInt8} {j : ℕ} (hat : At s (h ++ t) j d v.buffer)
      (hinput : w.input = t ++ v.input) (hdata : d = [] ∨ t = []) (hij : i ≤ j) (hjk : j ≤ i + k)
      (hj : j ≤ (h ++ t).length) (htail : t = [] ∨ j = (h ++ t).length)
      (hrun : g.run ((h ++ t).drop i) = .ok (a, (h ++ t).drop j)) (hready : h ++ t = [] → v = w)
      (hsame : Same s w.buffer v.buffer) : Resumed s k g h d i w (.ok a, v)
  | stopped {v : World} {t : List UInt8} (hd : d = [])
      (hqueue : v.buffer.queues s = some ⟨0, some (h ++ t), []⟩) (hidle : Idle v.buffer)
      (hinput : w.input = t ++ v.input) (hrun : g.run ((h ++ t).drop i) = .error ())
      (hsame : Same s w.buffer v.buffer) : Resumed s k g h d i w (.error .interrupted, v)
  | failed {v : World} {h' : List UInt8} {j : ℕ} (hat : At s h' j d v.buffer) (hend : h'.length ≤ j)
      (hsame : Same s w.buffer v.buffer) : Resumed s k g h d i w (.error .error, v)

/-- `f` takes at most `k` bytes of the header, and goes on as `g` does on the stream. -/
def Resumes (s k : ℕ) {α : Type} (f : Receive α) (g : Reader UInt8 Unit α) : Prop :=
  ∀ ⦃h d : List UInt8⦄ ⦃i : ℕ⦄ ⦃w : World⦄, At s h i d w.buffer → i ≤ h.length → i + k ≤ 5 →
    (h = [] → Ready w) → (d = [] ∨ ∃ a r, g.run (h.drop i) = .ok (a, r)) →
      Resumed s k g h d i w (attempt f w)

section
variable {s k l : ℕ} {α β : Type}

theorem Resumes.pure (a : α) : Resumes s 0 (pure a) (pure a) := by
  intro h d i w hat hi hk hready hd
  rw [attempt_pure]
  have hnil : h ++ [] = h := List.append_nil h
  refine .done (t := []) (j := i) ?_ rfl (Or.inr rfl) (Nat.le_refl i) (Nat.le_refl i) ?_
    (Or.inl rfl) ?_
    (fun _ => rfl) (fun _ _ => rfl)
  · rwa [hnil]
  · rwa [hnil]
  · rfl

theorem Resumes.mono {f : Receive α} {g : Reader UInt8 Unit α} (hf : Resumes s k f g)
    (hkl : k ≤ l) :
    Resumes s l f g := by
  intro h d i w hat hi hl hready hd
  have hone := hf hat hi (by omega) hready hd
  generalize attempt f w = r at hone ⊢
  rcases hone with @⟨a, w', t, j, hat', hinput, hdata, hij, hjk, hj, htail, hrun, hw, hsame⟩ |
    ⟨hd', hqueue, hidle, hinput, hrun, hsame⟩ | ⟨hat', hend, hsame⟩
  · exact .done hat' hinput hdata hij (by omega) hj htail hrun hw hsame
  · exact .stopped hd' hqueue hidle hinput hrun hsame
  · exact .failed hat' hend hsame

theorem Resumes.bind {f : Receive α} {f' : α → Receive β} {g : Reader UInt8 Unit α}
    {g' : α → Reader UInt8 Unit β} (hg : Stable g) (hf : Resumes s k f g)
    (hf' : ∀ a, Resumes s l (f' a) (g' a)) : Resumes s (k + l) (f >>= f') (g >>= g') := by
  intro h d i w hat hi hk hready hd
  have hd₁ : d = [] ∨ ∃ a r, g.run (h.drop i) = .ok (a, r) := by
    rcases hd with hd | ⟨b, r, hrun⟩
    · exact Or.inl hd
    · obtain ⟨a, m, hrun, -⟩ := run_bind_eq_ok.mp hrun
      exact Or.inr ⟨a, m, hrun⟩
  have hone := hf hat hi (by omega) hready hd₁
  rw [attempt_bind]
  generalize attempt f w = first at hone ⊢
  rcases hone with
    @⟨a, w₁, t, j, hat₁, hinput, hdata, hij, hjk, hj, htail, hrun, hw, hsame⟩ |
    @⟨_, t, hd, hqueue, hidle, hinput, hrun, hsame⟩ | ⟨hat₁, hend, hsame⟩
  · have hd₂ : d = [] ∨ ∃ b r, (g' a).run ((h ++ t).drop j) = .ok (b, r) := by
      rcases hdata with hdata | rfl
      · exact Or.inl hdata
      · rcases hd with hd | ⟨b, r, hboth⟩
        · exact Or.inl hd
        · obtain ⟨a', m, h₁, h₂⟩ := run_bind_eq_ok.mp hboth
          rw [List.append_nil] at hrun ⊢
          obtain ⟨rfl, rfl⟩ := Prod.mk.inj (Except.ok.inj (hrun.symm.trans h₁))
          exact Or.inr ⟨b, r, h₂⟩
    have hready₂ : h ++ t = [] → Ready w₁ := fun hnil => by
      rw [hw hnil]
      exact hready (List.append_eq_nil_iff.mp hnil).1
    have hfirst (u : List UInt8) :
      g.run ((h ++ (t ++ u)).drop i) = .ok (a, (h ++ (t ++ u)).drop j) := by
      rw [← List.append_assoc, List.drop_append_of_le_length (by omega),
        List.drop_append_of_le_length hj]
      exact hg u hrun
    have hsecond := hf' a hat₁ hj (by omega) hready₂ hd₂
    show Resumed s (k + l) (g >>= g') h d i w (attempt (f' a) w₁)
    generalize attempt (f' a) w₁ = second at hsecond ⊢
    rcases hsecond with
      @⟨b, w₂, u, j', hat₂, hinput₂, hdata₂, hij₂, hjk₂, hj₂, htail₂, hrun₂, hw₂, hsame₂⟩ |
      @⟨w₂, u, hd₂, hqueue₂, hidle₂, hinput₂, hrun₂, hsame₂⟩ | ⟨hat₂, hend, hsame₂⟩
    · rw [List.append_assoc] at hat₂ hj₂ htail₂ hrun₂ hw₂
      refine .done (t := t ++ u) hat₂ ?_ ?_ (by omega) (by omega) hj₂ ?_ ?_ ?_ (hsame.trans hsame₂)
      · rw [hinput, hinput₂, List.append_assoc]
      · rcases hdata with hdata | rfl
        · exact Or.inl hdata
        · exact hdata₂
      · rcases htail₂ with rfl | htail₂
        · rcases htail with rfl | htail
          · exact Or.inl rfl
          · rw [List.append_nil] at hj₂ ⊢
            exact Or.inr (by omega)
        · exact Or.inr htail₂
      · exact run_bind_eq_ok.mpr ⟨a, _, hfirst u, hrun₂⟩
      · intro hnil
        have hnil' := List.append_eq_nil_iff.mp hnil
        rw [hw₂ hnil, hw (by rw [hnil'.1, (List.append_eq_nil_iff.mp hnil'.2).1]; rfl)]
    · rw [List.append_assoc] at hqueue₂ hrun₂
      refine .stopped (t := t ++ u) hd₂ hqueue₂ hidle₂ ?_ ?_ (hsame.trans hsame₂)
      · rw [hinput, hinput₂, List.append_assoc]
      · rw [StateT.run_bind, hfirst u]
        exact hrun₂
    · exact .failed hat₂ hend (hsame.trans hsame₂)
  · refine .stopped hd hqueue hidle hinput ?_ hsame
    rw [StateT.run_bind, hrun]
    rfl
  · exact .failed hat₁ hend hsame

end

/-! ### A byte of the header -/

/-- The index of a queue moves on. -/
def moved (socket : ℕ) (q : SocketQueue) (b : SocketBuffer) : SocketBuffer :=
  { b with queues := Function.update b.queues socket (some { q with index := q.index + 1 }) }

theorem attempt_getQueuedChar (s : ℕ) (w : World) : attempt (getQueuedChar s) w =
    match w.buffer.queues s with
    | none => (.ok none, w)
    | some q =>
      match q.header with
      | none => (.error (.fault .uninitialised), w)
      | some header =>
        match header[q.index]? with
        | some c => (.ok (some c), { w with buffer := moved s q w.buffer })
        | none => if 4 < q.index then (.error .error, w) else (.ok none, w) := by
  unfold getQueuedChar
  rw [attempt_ok (show attempt get w = (.ok w, w) from rfl)]
  rcases w.buffer.queues s with _ | ⟨index, _ | header, data⟩
  · rfl
  · rfl
  · simp only
    rcases header[index]? with _ | c
    · simp only
      split_ifs
      · rfl
      · rfl
    · rfl

theorem attempt_recv (size : ℕ) (w : World) : attempt (recv size) w =
    match w.recvs with
    | [] => (.ok none, w)
    | .again :: recvs => (.ok none, { w with recvs })
    | .closed :: _ => (.error .error, w)
    | .got n :: recvs =>
      if w.input = [] then (.ok none, { w with recvs })
      else (.ok (some (w.input.take (min (n + 1) size))),
        { w with recvs, input := w.input.drop (min (n + 1) size) }) := by
  unfold recv
  rw [attempt_ok (show attempt get w = (.ok w, w) from rfl)]
  rcases w.recvs with _ | ⟨_ | _ | n, recvs⟩
  · rfl
  · rfl
  · rfl
  · simp only
    split_ifs
    · rfl
    · rfl

theorem At.no_char {s i : ℕ} {h d : List UInt8} {w : World} (hat : At s h i d w.buffer)
    (hi : h.length ≤ i) (h4 : i ≤ 4) : attempt (getQueuedChar s) w = (.ok none, w) := by
  rw [attempt_getQueuedChar]
  rcases hat with ⟨hqueue, -⟩ | ⟨hqueue, -, -, -, -⟩ | ⟨hqueue, -, -, -, -⟩
  · rw [hqueue]
    simp only
    rw [List.getElem?_eq_none hi]
    simp only
    rw [if_neg (by omega)]
  · rw [hqueue]
  · rw [hqueue]

theorem At.queueChar {s i : ℕ} {h d : List UInt8} {b : SocketBuffer} (hs : 0 < s)
    (hat : At s h i d b) (hi : i = h.length) (h4 : i ≤ 4) (c : UInt8) :
    At s (h ++ [c]) (i + 1) d (queueChar s c b) ∧ Same s b (queueChar s c b) := by
  unfold Stream.queueChar SocketQueue.store
  rcases hat with ⟨hqueue, hidle⟩ | ⟨hqueue, hidle, rfl, rfl, rfl⟩ | ⟨hqueue, hsocket, hdef, -, rfl⟩
  · rw [hqueue]
    simp only
    rw [if_neg (by omega), Option.getD_some, hi, List.take_length]
    refine ⟨.queued (Function.update_self ..) ⟨hidle.1, hidle.2, hidle.3, hidle.4⟩,
      fun s' hs' => ?_⟩
    exact Function.update_of_ne hs' ..
  · rw [hqueue]
    simp only
    rw [if_pos hidle.defSocket, if_neg (by omega)]
    exact ⟨.started hqueue rfl rfl rfl rfl, fun _ _ => rfl⟩
  · rw [hqueue]
    simp only
    rw [if_neg (by omega), if_neg (not_not.mpr hsocket), hdef]
    simp only
    rw [if_neg (by omega), Option.getD_some, hi, List.take_length]
    refine ⟨.started hqueue hsocket rfl ?_ rfl, fun _ _ => rfl⟩
    rw [List.length_append, List.length_singleton]

/-- What there is waits in a queue of the socket. -/
theorem At.interrupted {s i : ℕ} {h d : List UInt8} {b : SocketBuffer} (hat : At s h i d b)
    (hh : h = [] → b.queues s ≠ none) (d' : List UInt8) :
    (interrupted s d' b).queues s = some ⟨0, some h, d'⟩ ∧ Idle (interrupted s d' b) ∧
      Same s b (interrupted s d' b) := by
  unfold Stream.interrupted
  rcases hat with ⟨hqueue, hidle⟩ | ⟨hqueue, -, rfl, -, -⟩ | ⟨hqueue, hsocket, hdef, -, rfl⟩
  · rw [hqueue]
    exact ⟨Function.update_self .., ⟨hidle.1, hidle.2, hidle.3, hidle.4⟩,
      fun s' hs' => Function.update_of_ne hs' ..⟩
  · exact absurd hqueue (hh rfl)
  · rw [hqueue, hdef]
    exact ⟨Function.update_self .., ⟨rfl, rfl, rfl, Or.inl rfl⟩,
      fun s' hs' => Function.update_of_ne hs' ..⟩

/-- There is nothing to read inside the header. -/
theorem At.stopped {s i k : ℕ} {h : List UInt8} {w v : World} {α : Type} {g : Reader UInt8 Unit α}
    (hat : At s h i [] w.buffer) (hh : h ≠ []) (hbuffer : v.buffer = w.buffer)
    (hinput : v.input = w.input) (hrun : g.run (h.drop i) = .error ()) :
    Resumed s k g h [] i w
      (.error .interrupted, { v with buffer := Stream.interrupted s [] v.buffer }) := by
  obtain ⟨hqueue, hidle, hsame⟩ := hat.interrupted (fun hnil => absurd hnil hh) []
  rw [← hbuffer] at hqueue hidle hsame
  refine .stopped (t := []) rfl ?_ hidle hinput.symm ?_ (hbuffer ▸ hsame)
  · rwa [List.append_nil]
  · rwa [List.append_nil]

/-- **A byte of the header.** -/
theorem resumes_getch {s : ℕ} (hs : 0 < s) : Resumes s 1 (getch s) (next ()) := by
  intro h d i w hat hi hk hready hd
  unfold getch
  by_cases hlt : i < h.length
  · obtain ⟨hqueue, hidle⟩ : w.buffer.queues s = some ⟨i, some h, d⟩ ∧ Idle w.buffer := by
      rcases hat with ⟨hqueue, hidle⟩ | ⟨-, -, rfl, -, -⟩ | ⟨-, -, -, rfl, -⟩
      · exact ⟨hqueue, hidle⟩
      · exact absurd hlt (Nat.not_lt_zero i)
      · exact absurd hlt (Nat.lt_irrefl _)
    have hchar : attempt (getQueuedChar s) w =
        (.ok (some h[i]), { w with buffer := moved s ⟨i, some h, d⟩ w.buffer }) := by
      rw [attempt_getQueuedChar, hqueue]
      simp only
      rw [List.getElem?_eq_getElem hlt]
    rw [attempt_ok hchar]
    refine .done (t := []) (j := i + 1) ?_ rfl (Or.inr rfl) (Nat.le_succ i) (Nat.le_refl _) ?_
      (Or.inl rfl) ?_ ?_ ?_
    · rw [List.append_nil]
      exact .queued (Function.update_self ..) ⟨hidle.1, hidle.2, hidle.3, hidle.4⟩
    · rw [List.append_nil]
      exact hlt
    · rw [List.append_nil, List.drop_eq_getElem_cons hlt]
      rfl
    · intro hnil
      rw [List.append_nil] at hnil
      rw [hnil] at hlt
      exact absurd hlt (Nat.not_lt_zero i)
    · exact fun s' hs' => Function.update_of_ne hs' ..
  · have hi' : i = h.length := by omega
    have hdrop : h.drop i = [] := List.drop_eq_nil_of_le (by omega)
    obtain rfl : d = [] := by
      rcases hd with hd | ⟨a, r, hrun⟩
      · exact hd
      · rw [hdrop] at hrun
        cases hrun
    rw [attempt_ok (hat.no_char (by omega) (by omega))]
    simp only
    rw [attempt_bind, attempt_recv]
    have herror : (next () : Reader UInt8 Unit UInt8).run (h.drop i) = .error () := by
      rw [hdrop]
      rfl
    unfold Ready at hready
    rcases hrecvs : w.recvs with _ | ⟨_ | _ | n, recvs⟩
    · rw [hrecvs] at hready
      exact hat.stopped (fun hnil => absurd (hready hnil) Bool.false_ne_true) rfl rfl herror
    · rw [hrecvs] at hready
      exact hat.stopped (v := { w with recvs })
        (fun hnil => absurd (hready hnil) Bool.false_ne_true) rfl
        rfl herror
    · exact .failed hat hi'.ge fun _ _ => rfl
    · rw [hrecvs] at hready
      by_cases hinput : w.input = []
      · simp only
        rw [if_pos hinput]
        rw [hinput] at hready
        exact hat.stopped (v := { w with recvs })
          (fun hnil => absurd (hready hnil) Bool.false_ne_true) rfl
          rfl herror
      · obtain ⟨c, input, hinput'⟩ := List.exists_cons_of_ne_nil hinput
        obtain ⟨hat', hsame⟩ := hat.queueChar hs hi' (by omega) c
        have hone : min (n + 1) 1 = 1 := by omega
        simp only
        rw [if_neg hinput, hone, hinput']
        refine .done (t := [c]) (j := i + 1) (v := ⟨_, recvs, input⟩) hat' hinput' (Or.inl rfl)
          (Nat.le_succ i) (Nat.le_refl _) ?_ (Or.inr ?_) ?_ ?_ hsame
        · rw [List.length_append, List.length_singleton]
          omega
        · rw [List.length_append, List.length_singleton]
          omega
        · rw [hi', List.drop_left, List.drop_eq_nil_of_le (by simp)]
          rfl
        · intro hnil
          exact absurd (List.append_eq_nil_iff.mp hnil).2 (List.cons_ne_nil c [])

/-! ### A call of `MQTTPacket_Factory` -/

/-- The header of a packet, from a socket. -/
def readHeader (socket : ℕ) : Receive (UInt8 × ℕ × ℕ × Bool) := do
  let byte ← getch socket
  let length ← decodeLoop (getch socket) MAX_NO_OF_REMAINING_LENGTH_BYTES 0 1 0
  return (byte, length)

theorem factory_eq (s : ℕ) : factory s = (do
      let (byte, value, _, complete) ← readHeader s
      if complete then do
      let data ← getdata s value
      return (⟨byte⟩, data)
      else throw .error) := by
  unfold factory readHeader decode
  simp only [bind_assoc, pure_bind]
  refine congrArg _ (funext fun byte => congrArg _ (funext fun ⟨value, _, complete⟩ => ?_))
  rcases complete with _ | _
  · rfl
  · simp only [if_true, pure_bind]

theorem resumes_decodeLoop {s : ℕ} (hs : 0 < s) : ∀ left len multiplier value : ℕ,
    Resumes s left (decodeLoop (getch s) left len multiplier value)
      (decodeLoop (next ()) left len multiplier value)
  | 0, _, _, _ => Resumes.pure _
  | left + 1, len, multiplier, value => by
    refine ((resumes_getch hs).bind (stable_next ()) (l := left) fun c => ?_).mono (by omega)
    by_cases hc : c &&& 128 ≠ 0
    · simp only [if_pos hc]
      exact resumes_decodeLoop hs left _ _ _
    · simp only [if_neg hc]
      exact (Resumes.pure _).mono (Nat.zero_le left)

theorem resumes_readHeader {s : ℕ} (hs : 0 < s) : Resumes s 5 (readHeader s) frameHeader :=
  (resumes_getch hs).bind (stable_next ()) fun byte =>
    (resumes_decodeLoop hs 4 0 1 0).bind (stable_decodeLoop 4 0 1 0) fun length =>
      Resumes.pure (byte, length)

theorem At.queued_data {s i : ℕ} {h d : List UInt8} {b : SocketBuffer} (hat : At s h i d b) :
    ((b.queues s).map (·.data)).getD [] = d := by
  rcases hat with ⟨hqueue, -⟩ | ⟨hqueue, -, -, -, rfl⟩ | ⟨hqueue, -, -, -, rfl⟩
  · rw [hqueue]
    rfl
  · rw [hqueue]
    rfl
  · rw [hqueue]
    rfl

theorem complete_idle (s : ℕ) (b : SocketBuffer) :
    (complete s b).queues s = none ∧ Idle (complete s b) ∧ Same s b (complete s b) :=
  ⟨Function.update_self .., ⟨rfl, rfl, rfl, Or.inr rfl⟩, fun _ hs' => Function.update_of_ne hs' ..⟩

/-- What becomes of `Socket_getdata` behind the header `h`. -/
inductive GotData (s bytes : ℕ) (h d : List UInt8) (w : World) :
    Except Stop (List UInt8) × World → Prop
  | whole {data : List UInt8} {v : World} (hinput : d ++ w.input = data ++ v.input)
      (hlen : data.length = bytes) (hqueue : v.buffer.queues s = none) (hidle : Idle v.buffer)
      (hsame : Same s w.buffer v.buffer) : GotData s bytes h d w (.ok data, v)
  | part {data : List UInt8} {v : World} (hinput : d ++ w.input = data ++ v.input)
      (hlen : data.length < bytes) (hqueue : v.buffer.queues s = some ⟨0, some h, data⟩)
      (hidle : Idle v.buffer) (hsame : Same s w.buffer v.buffer) :
      GotData s bytes h d w (.error .interrupted, v)
  | failed {v : World} {i : ℕ} (hat : At s h i d v.buffer) (hend : h.length ≤ i)
      (hsame : Same s w.buffer v.buffer) : GotData s bytes h d w (.error .error, v)

theorem gotData {s bytes i : ℕ} {h d : List UInt8} {w : World} (hat : At s h i d w.buffer)
    (hend : h.length ≤ i) (hh : h ≠ []) (hd : d = [] ∨ d.length < bytes) :
    GotData s bytes h d w (attempt (getdata s bytes) w) := by
  have hstop (data : List UInt8) := hat.interrupted (fun hnil => absurd hnil hh) data
  obtain ⟨hnone, hidle, hsame⟩ := complete_idle s w.buffer
  unfold getdata
  split_ifs with hzero
  · obtain rfl : d = [] := by
      rcases hd with hd | hd
      · exact hd
      · omega
    exact .whole (v := ⟨complete s w.buffer, w.recvs, w.input⟩) rfl hzero.symm hnone hidle hsame
  have hlt : d.length < bytes := by
    rcases hd with rfl | hd
    · exact Nat.pos_of_ne_zero hzero
    · exact hd
  rw [attempt_ok (show attempt get w = (.ok w, w) from rfl), hat.queued_data,
    attempt_bind, attempt_recv]
  -- what happens where nothing has been received
  have hnothing (recvs : List Recv) : GotData s bytes h d w (attempt (do
      onBuffer (Stream.interrupted s (d ++ (none : Option (List UInt8)).getD []))
      throw .interrupted) ⟨w.buffer, recvs, w.input⟩) := by
    rw [Option.getD_none, List.append_nil]
    exact .part (v := ⟨Stream.interrupted s d w.buffer, recvs, w.input⟩) rfl hlt
      (hstop d).1 (hstop d).2.1
      (hstop d).2.2
  have hnil : ¬ (d ++ (none : Option (List UInt8)).getD []).length = bytes := by
    rw [Option.getD_none, List.append_nil]
    omega
  rcases w.recvs with _ | ⟨_ | _ | n, recvs⟩
  · simp only
    rw [if_neg hnil]
    exact hnothing w.recvs
  · simp only
    rw [if_neg hnil]
    exact hnothing recvs
  · exact .failed hat hend fun _ _ => rfl
  · by_cases hinput : w.input = []
    · simp only
      rw [if_pos hinput]
      simp only
      rw [if_neg hnil]
      exact hnothing recvs
    · simp only
      rw [if_neg hinput]
      simp only
      rw [Option.getD_some]
      set k := min (n + 1) (bytes - d.length) with hk
      have hsplit : d ++ w.input = d ++ w.input.take k ++ w.input.drop k := by
        rw [List.append_assoc, List.take_append_drop]
      have hlen : (d ++ w.input.take k).length ≤ bytes := by
        rw [List.length_append, List.length_take]
        omega
      split_ifs with hwhole
      · exact .whole (v := ⟨complete s w.buffer, recvs, w.input.drop k⟩) hsplit hwhole
          hnone hidle hsame
      · exact .part
          (v := ⟨Stream.interrupted s (d ++ w.input.take k) w.buffer, recvs, w.input.drop k⟩)
          hsplit (by omega) (hstop _).1 (hstop _).2.1 (hstop _).2.2

theorem frame_run {h rest : List UInt8} {byte : UInt8} {value len : ℕ}
    (hrun : frameHeader.run h = .ok ((byte, value, len, true), [])) :
    frame.run (h ++ rest) = ((nextMany () value).run rest).map fun r =>
      (some (⟨byte⟩, r.1), r.2) := by
  unfold frame
  rw [StateT.run_bind, stable_frameHeader rest hrun]
  show StateT.run (nextMany () value >>= fun data => pure (some ((⟨byte⟩ : Header), data))) rest = _
  rw [StateT.run_bind]
  rcases (nextMany () value).run rest with e | ⟨data, r⟩
  · rfl
  · rfl

theorem frameHeader_nil : frameHeader.run [] = .error () := rfl

/-- The bytes `h` and `d` of a queue are not a whole packet: the header is not, or the data is not.
-/
def Waits (h d : List UInt8) : Prop :=
  d = [] ∧ frameHeader.run h = .error () ∨
    ∃ byte value len, frameHeader.run h = .ok ((byte, value, len, true), []) ∧ d.length < value

/-- Between two calls the bytes `p` of the socket wait. -/
inductive Pending (s : ℕ) (b : SocketBuffer) : List UInt8 → Prop
  | none (hqueue : b.queues s = none) : Pending s b []
  | queued {h d : List UInt8} (hqueue : b.queues s = some ⟨0, some h, d⟩) (hwaits : Waits h d) :
      Pending s b (h ++ d)

theorem Pending.congr {s : ℕ} {b b' : SocketBuffer} {p : List UInt8} (h : b'.queues s = b.queues s)
    (hp : Pending s b p) : Pending s b' p := by
  rcases hp with hqueue | ⟨hqueue, hwaits⟩
  · exact .none (h.trans hqueue)
  · exact .queued (h.trans hqueue) hwaits

/-- What a call finds. -/
theorem Pending.exists_at {s : ℕ} {b : SocketBuffer} {p : List UInt8} (hp : Pending s b p)
    (hidle : Idle b) :
    ∃ h d, p = h ++ d ∧ At s h 0 d b ∧ Waits h d := by
  rcases hp with hqueue | @⟨h, d, hqueue, hwaits⟩
  · exact ⟨[], [], rfl, .fresh hqueue hidle rfl rfl rfl, Or.inl ⟨rfl, frameHeader_nil⟩⟩
  · exact ⟨h, d, rfl, .queued hqueue hidle, hwaits⟩

/-- No packet starts with what waits. -/
theorem Pending.run_eq_error {s : ℕ} {b : SocketBuffer} {p : List UInt8} (hp : Pending s b p) :
    frame.run p = .error () := by
  rcases hp with hqueue | @⟨h, d, hqueue, ⟨rfl, hrun⟩ | ⟨byte, value, len, hrun, hlt⟩⟩
  · rfl
  · rw [List.append_nil]
    unfold frame
    rw [StateT.run_bind, hrun]
    rfl
  · rw [frame_run hrun]
    show Except.map _ (if value ≤ d.length then _ else _) = _
    rw [if_neg (by omega)]
    rfl

/-- `SocketBuffer_cleanup` leaves nothing of a socket, and the queue that will be used next is not
in use behind it or is that of another socket, as before. -/
theorem cleanup_cases (s : ℕ) (b : SocketBuffer) :
    (cleanup s b).queues s = none ∧ Same s b (cleanup s b) ∧
      (Idle (cleanup s b) ∨ b.defSocket ≠ s ∧ (cleanup s b).defSocket = b.defSocket ∧
        (cleanup s b).defQueue = b.defQueue) := by
  unfold Stream.cleanup
  simp only
  split_ifs with hsocket
  · exact ⟨Function.update_self .., fun _ hs' => Function.update_of_ne hs' ..,
      Or.inl ⟨rfl, rfl, rfl, Or.inr rfl⟩⟩
  · exact ⟨Function.update_self .., fun _ hs' => Function.update_of_ne hs' ..,
      Or.inr ⟨hsocket, rfl, rfl⟩⟩

/-- All bytes of the header that wait for a socket have been read. -/
def Stopped (s : ℕ) (b : SocketBuffer) : Prop :=
  ∀ q, b.queues s = some q → ∃ h, q.header = some h ∧ h.length ≤ q.index

theorem Stopped.congr {s : ℕ} {b b' : SocketBuffer} (h : b'.queues s = b.queues s)
    (hs : Stopped s b) :
    Stopped s b' := fun q hq => hs q (h.symm.trans hq)

theorem At.stopped_end {s i : ℕ} {h d : List UInt8} {b : SocketBuffer} (hat : At s h i d b)
    (hend : h.length ≤ i) :
    Stopped s b := by
  intro q hq
  rcases hat with ⟨hqueue, -⟩ | ⟨hqueue, -, -, -, -⟩ | ⟨hqueue, -, -, -, -⟩
  · obtain rfl := Option.some.inj (hqueue.symm.trans hq)
    exact ⟨h, rfl, hend⟩
  · exact absurd (hqueue.symm.trans hq) (by simp)
  · exact absurd (hqueue.symm.trans hq) (by simp)

/-- A call for a socket whose connection is at its end fails again, and changes nothing. -/
theorem Stopped.factory {s : ℕ} {b : SocketBuffer} (h : Stopped s b) (recvs : List Recv)
    (input : List UInt8) :
    attempt (factory s) ⟨b, .closed :: recvs, input⟩ =
    (.error .error, ⟨b, .closed :: recvs, input⟩) := by
  have hgetch : attempt (getch s) ⟨b, .closed :: recvs, input⟩ =
      (.error .error, ⟨b, .closed :: recvs, input⟩) := by
    unfold getch
    rw [attempt_bind, attempt_getQueuedChar]
    simp only
    rcases hqueue : b.queues s with _ | q
    · rfl
    · obtain ⟨header, hheader, hend⟩ := h q hqueue
      simp only [hheader, List.getElem?_eq_none hend]
      split_ifs
      · rfl
      · rfl
  unfold Stream.factory
  rw [attempt_error hgetch]

/-- What becomes of a call of `MQTTPacket_Factory`. -/
inductive Served (s : ℕ) (p : List UInt8) (w : World) :
    Except Stop (Header × List UInt8) × World → Prop
  /-- The next packet of the stream. -/
  | packet {pack : Header × List UInt8} {v : World}
      (hrun : frame.run (p ++ w.input) = .ok (some pack, v.input))
      (hqueue : v.buffer.queues s = none)
      (hidle : Idle v.buffer) (hsame : Same s w.buffer v.buffer) : Served s p w (.ok pack, v)
  /-- More bytes wait. -/
  | waits {q : List UInt8} {v : World} (hpending : Pending s v.buffer q)
      (hinput : p ++ w.input = q ++ v.input) (hidle : Idle v.buffer)
      (hsame : Same s w.buffer v.buffer) : Served s p w (.error .interrupted, v)
  /-- The connection is at its end, or the header is bad. -/
  | failed {h d : List UInt8} {i : ℕ} {v : World} (hat : At s h i d v.buffer) (hend : h.length ≤ i)
      (hsame : Same s w.buffer v.buffer) : Served s p w (.error .error, v)

/-- **A call of `MQTTPacket_Factory`** for a readable socket goes on where the last one has stopped.
-/
theorem served {s : ℕ} (hs : 0 < s) {p : List UInt8} {w : World} (hpending : Pending s w.buffer p)
    (hidle : Idle w.buffer) (hready : p = [] → Ready w) : Served s p w (attempt (factory s) w) := by
  obtain ⟨h, d, rfl, hat, hwaits⟩ := hpending.exists_at hidle
  have hready' : h = [] → Ready w := by
    rintro rfl
    rcases hwaits with ⟨rfl, -⟩ | ⟨byte, value, len, hrun, -⟩
    · exact hready rfl
    · cases hrun
  have hd : d = [] ∨ ∃ a r, frameHeader.run (h.drop 0) = .ok (a, r) := by
    rcases hwaits with ⟨hd, -⟩ | ⟨byte, value, len, hrun, -⟩
    · exact Or.inl hd
    · exact Or.inr ⟨_, _, hrun⟩
  rw [factory_eq, attempt_bind]
  have hheader := resumes_readHeader hs hat (Nat.zero_le _) (Nat.le_refl 5) hready' hd
  generalize attempt (readHeader s) w = r at hheader ⊢
  rcases hheader with
    @⟨⟨byte, value, len, complete⟩, w₁, t, j, hat₁, hinput, hdata, hij, hjk, hj, htail,
      hrun, hw, hsame⟩ |
    @⟨w₁, t, rfl, hqueue, hidle₁, hinput, hrun, hsame⟩ | ⟨hat₁, hstop, hsame⟩
  · rw [List.drop_zero] at hrun
    -- the header has been read to its end
    have hend : (h ++ t).drop j = [] := by
      rcases hwaits with ⟨-, herror⟩ | ⟨byte', value', len', hok, -⟩
      · rcases htail with rfl | htail
        · rw [List.append_nil, herror] at hrun
          cases hrun
        · exact List.drop_eq_nil_of_le (by omega)
      · rcases htail with rfl | htail
        · rw [List.append_nil] at hrun ⊢
          exact (Prod.mk.inj (Except.ok.inj (hrun.symm.trans hok))).2
        · exact List.drop_eq_nil_of_le (by omega)
    rw [hend] at hrun
    have hstream : h ++ d ++ w.input = h ++ t ++ (d ++ w₁.input) := by
      rw [hinput]
      rcases hdata with rfl | rfl
      · simp only [List.append_nil, List.nil_append, List.append_assoc]
      · simp only [List.append_nil, List.nil_append, List.append_assoc]
    have hstop : (h ++ t).length ≤ j := List.drop_eq_nil_iff.mp hend
    rcases complete with _ | _
    · exact .failed hat₁ hstop hsame
    have hlt : d = [] ∨ d.length < value := by
      rcases hwaits with ⟨hd, -⟩ | ⟨byte', value', len', hok, hlt⟩
      · exact Or.inl hd
      · have hmore := stable_frameHeader t hok
        rw [hrun] at hmore
        obtain ⟨rfl, rfl, -⟩ : byte = byte' ∧ value = value' ∧ _ := by
          simpa using (Prod.mk.inj (Except.ok.inj hmore)).1
        exact Or.inr hlt
    have hne : h ++ t ≠ [] := by
      intro hnil
      rw [hnil, frameHeader_nil] at hrun
      cases hrun
    show Served s (h ++ d) w
      (attempt (getdata s value >>= fun data => pure ((⟨byte⟩ : Header), data)) w₁)
    rw [attempt_bind]
    have hgot := gotData hat₁ hstop hne hlt
    generalize attempt (getdata s value) w₁ = r at hgot ⊢
    rcases hgot with @⟨data, w₂, hinput₂, hlen, hqueue, hidle₂, hsame₂⟩ |
      @⟨data, w₂, hinput₂, hlen, hqueue, hidle₂, hsame₂⟩ | ⟨hat₂, hstop₂, hsame₂⟩
    · refine .packet ?_ hqueue hidle₂ (hsame.trans hsame₂)
      rw [hstream, frame_run hrun, nextMany_eq_ok.mpr ⟨hinput₂, hlen⟩]
      rfl
    · refine .waits (.queued hqueue (Or.inr ⟨byte, value, len, hrun, hlen⟩)) ?_ hidle₂
        (hsame.trans hsame₂)
      rw [hstream, hinput₂, List.append_assoc, List.append_assoc, List.append_assoc]
    · exact .failed hat₂ hstop₂ (hsame.trans hsame₂)
  · refine .waits (q := h ++ t) ?_ ?_ hidle₁ hsame
    · rw [← List.append_nil (h ++ t)]
      exact .queued hqueue (Or.inl ⟨rfl, hrun⟩)
    · rw [List.append_nil, hinput, List.append_assoc]
  · exact .failed hat₁ hstop hsame

end OasisEdge.Mqtt.Stream
