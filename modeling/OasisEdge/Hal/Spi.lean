import OasisEdge.Shadow.State
import Mathlib.Data.Finset.Lattice.Fold
import Mathlib.Order.Lattice.Nat

/-! # The SPI bus

`SPI_Read` and `SPI_Write` of `oasis_spi.c` over the state they share: whether the spin lock is
held, and the set of descriptors this module has open. Both make the same access (`transfer`): they
take the lock, open the device file, let `ioctl` exchange one frame, close the file and release the
lock. The two error exits return at once, without what comes after them.

What the calls of one access return is an argument: a descriptor or a failure of `open`, and the
bytes received or a failure of `ioctl`. Taking a lock that is held never returns, since the thread
that would release it is the one that waits. -/

namespace OasisEdge.Hal.Spi

open OasisEdge.Shadow.State

abbrev SPI_REG_LENGTH : ℕ := 8
abbrev SPI_REG_LOC : ℕ := 4
abbrev SPI_VALUE_LOC : ℕ := 5

/-- The state of the bus between two statements. -/
@[ext]
structure Bus where
  held : Bool
  fds : Finset ℕ
deriving DecidableEq

/-- Why a call does not return. -/
inductive Blocked
  | spinlock
deriving DecidableEq

/-- What `open` and `ioctl` return in one access. -/
structure Access where
  opened : Option ℕ
  ioctl : Option (Vector UInt8 SPI_REG_LENGTH)

/-- The byte that carries the value in what a read receives. -/
def receivedValue (rx : Vector UInt8 SPI_REG_LENGTH) : UInt8 := rx[SPI_VALUE_LOC]

/-- The bytes handed to `ioctl`. -/
abbrev Frame := List UInt8

/-! ### The calls of the system -/

def pthreadSpinLock (bus : Bus) : Except Blocked Bus :=
  if bus.held then .error .spinlock else .ok { bus with held := true }

def pthreadSpinUnlock (bus : Bus) : Bus := { bus with held := false }

/-- The descriptor the system hands out: the one it chose, or any other if that one is in use. -/
def freshFd (fds : Finset ℕ) (fd : ℕ) : ℕ := if fd ∈ fds then fds.sup id + 1 else fd

/-- `open`. -/
def openDevice (env : Access) (bus : Bus) : Option (ℕ × Bus) :=
  env.opened.map fun n => (freshFd bus.fds n, { bus with fds := insert (freshFd bus.fds n) bus.fds })

def close (fd : ℕ) (bus : Bus) : Bus := { bus with fds := bus.fds.erase fd }

theorem freshFd_notMem (fds : Finset ℕ) (fd : ℕ) : freshFd fds fd ∉ fds := by
  unfold freshFd
  split_ifs with h
  · intro hmem
    have hle : fds.sup id + 1 ≤ fds.sup id := Finset.le_sup (f := id) hmem
    omega
  · exact h

/-! ### The accesses -/

/-- The access of both functions: the bytes received, or `none` where they return `ERROR`; the bus
they leave, and the frames they have sent. -/
def transfer (env : Access) (tx : Frame) (bus : Bus) :
    Except Blocked (Option (Vector UInt8 SPI_REG_LENGTH) × Bus × List Frame) :=
  match pthreadSpinLock bus with
  | .error e => .error e
  | .ok bus =>
    match openDevice env bus with
    -- the lock stays held
    | none => .ok (none, bus, [])
    | some (fd, bus) =>
      match env.ioctl with
      -- the lock stays held and the descriptor open
      | none => .ok (none, bus, [tx])
      | some rx => .ok (some rx, pthreadSpinUnlock (close fd bus), [tx])

/-- The six bytes of `tx` in `SPI_Read`. -/
def readFrame (reg : UInt8) : Frame :=
  ([0x55, 0x55, 0x40, 0x00, 0x00, 0x00] : Frame).set SPI_REG_LOC reg

/-- The six bytes of `tx` in `SPI_Write`. -/
def writeFrame (reg value : UInt8) : Frame :=
  (([0x55, 0x55, 0x80, 0x00, 0x01, 0x01] : Frame).set SPI_REG_LOC reg).set SPI_VALUE_LOC value

/-- `SPI_Read`; `value` is what `*value` holds before the call. -/
def spiRead (env : Access) (reg value : UInt8) (bus : Bus) :
    Except Blocked (Ret × UInt8 × Bus × List Frame) :=
  match transfer env (readFrame reg) bus with
  | .error e => .error e
  | .ok (none, bus, sent) => .ok (.error, value, bus, sent)
  | .ok (some rx, bus, sent) => .ok (.success, receivedValue rx, bus, sent)

def spiWrite (env : Access) (reg value : UInt8) (bus : Bus) :
    Except Blocked (Ret × Bus × List Frame) :=
  match transfer env (writeFrame reg value) bus with
  | .error e => .error e
  | .ok (none, bus, sent) => .ok (.error, bus, sent)
  | .ok (some _, bus, sent) => .ok (.success, bus, sent)

/-! ### What an access does -/

/-- The device opens and the transfer succeeds. -/
def Access.Completes (env : Access) : Prop := env.opened.isSome ∧ env.ioctl.isSome

instance (env : Access) : Decidable env.Completes := by
  unfold Access.Completes; infer_instance

/-- The frames an access sends from a free lock. -/
def Access.sent (env : Access) (tx : Frame) : List Frame := if env.opened.isSome then [tx] else []

/-- An access that completes leaves the bus as it found it. -/
theorem transfer_completes {env : Access} {bus : Bus} (tx : Frame) (hfree : bus.held = false)
    (h : env.Completes) : ∃ rx, env.ioctl = some rx ∧
      transfer env tx bus = .ok (some rx, bus, env.sent tx) := by
  obtain ⟨n, hn⟩ := Option.isSome_iff_exists.mp h.1
  obtain ⟨rx, hrx⟩ := Option.isSome_iff_exists.mp h.2
  have hsent : env.sent tx = [tx] := if_pos h.1
  have hback : pthreadSpinUnlock (close (freshFd bus.fds n)
      ⟨true, insert (freshFd bus.fds n) bus.fds⟩) = bus := by
    ext1
    · exact hfree.symm
    · exact Finset.erase_insert (freshFd_notMem bus.fds n)
  refine ⟨rx, hrx, ?_⟩
  unfold transfer pthreadSpinLock openDevice
  rw [hfree, hn, hrx, hsent]
  exact congrArg (fun b => Except.ok (some rx, b, [tx])) hback

theorem transfer_fails {env : Access} {bus : Bus} (tx : Frame) (hfree : bus.held = false)
    (h : ¬ env.Completes) : ∃ bus', bus'.held = true ∧
      transfer env tx bus = .ok (none, bus', env.sent tx) := by
  unfold transfer pthreadSpinLock openDevice Access.sent
  rw [hfree]
  cases hn : env.opened with
  | none => exact ⟨_, rfl, rfl⟩
  | some n =>
    cases hrx : env.ioctl with
    | none => exact ⟨_, rfl, rfl⟩
    | some rx => exact absurd ⟨by simp [hn], by simp [hrx]⟩ h

/-- While the lock is held no access returns. -/
theorem transfer_held {env : Access} {bus : Bus} (tx : Frame) (h : bus.held = true) :
    transfer env tx bus = .error .spinlock := by
  unfold transfer pthreadSpinLock
  rw [h]
  rfl

theorem spiRead_completes {env : Access} {bus : Bus} (reg value : UInt8) (hfree : bus.held = false)
    (h : env.Completes) : ∃ rx, env.ioctl = some rx ∧
      spiRead env reg value bus =
        .ok (.success, receivedValue rx, bus, env.sent (readFrame reg)) := by
  obtain ⟨rx, hrx, htr⟩ := transfer_completes (readFrame reg) hfree h
  exact ⟨rx, hrx, by unfold spiRead; rw [htr]⟩

theorem spiRead_fails {env : Access} {bus : Bus} (reg value : UInt8) (hfree : bus.held = false)
    (h : ¬ env.Completes) : ∃ bus', bus'.held = true ∧
      spiRead env reg value bus = .ok (.error, value, bus', env.sent (readFrame reg)) := by
  obtain ⟨bus', hheld, htr⟩ := transfer_fails (readFrame reg) hfree h
  exact ⟨bus', hheld, by unfold spiRead; rw [htr]⟩

theorem spiWrite_completes {env : Access} {bus : Bus} (reg value : UInt8) (hfree : bus.held = false)
    (h : env.Completes) : spiWrite env reg value bus =
      .ok (.success, bus, env.sent (writeFrame reg value)) := by
  obtain ⟨rx, -, htr⟩ := transfer_completes (writeFrame reg value) hfree h
  unfold spiWrite
  rw [htr]

theorem spiWrite_fails {env : Access} {bus : Bus} (reg value : UInt8) (hfree : bus.held = false)
    (h : ¬ env.Completes) : ∃ bus', bus'.held = true ∧
      spiWrite env reg value bus = .ok (.error, bus', env.sent (writeFrame reg value)) := by
  obtain ⟨bus', hheld, htr⟩ := transfer_fails (writeFrame reg value) hfree h
  exact ⟨bus', hheld, by unfold spiWrite; rw [htr]⟩

end OasisEdge.Hal.Spi
