import OasisEdge.Lib.Readers
import Mathlib.Algebra.Order.Ring.Int
import Mathlib.Tactic.Ring

/-! # Integers in MQTT packets

The readers move a cursor over the data of a packet; most of them do not look where the data ends. A
cursor that passes the end is a fault here (`Fault.overRun`).

An integer of two or four bytes is written high byte first, and comes back if it is not negative. The
divisions of `writeInt` and `writeInt4` round to zero, so a negative integer comes back as another one:
always if it has four bytes (`readInt4_writeInt4_iff`), and unless its low byte is zero if it has two
(`readShort_writeInt_iff`). The length of a packet has seven bits a byte, in at most four bytes: a
length below `2 ^ 28` comes back (`reads_decodeLoop`), a longer one never ends (`decodeLoop_of_le`). -/

namespace OasisEdge.Mqtt.Bytes

open OasisEdge.Lib.Readers

/-- What goes wrong in reading a packet, other than that it is refused. -/
inductive Fault
  /-- The cursor passes the end of the data. -/
  | overRun
  /-- A pointer is used that was never set. -/
  | uninitialised
  /-- A signed multiplication leaves the range of `int`. -/
  | overflow
  /-- A member of a structure at NULL is used. -/
  | nullPointer
deriving DecidableEq

/-- A function that moves a cursor over the data of a packet. -/
abbrev Cursor := Reader UInt8 Fault

def readChar : Cursor UInt8 := next .overRun

def readInt : Cursor ℕ := do
  let hi ← readChar
  let lo ← readChar
  return 256 * hi.toNat + lo.toNat

/-- `(char)` of an `int`. -/
def charOf (z : ℤ) : UInt8 := .ofNat (z % 256).toNat

/-- `writeInt`. The divisions are those of C, towards zero. -/
def writeInt (anInt : ℤ) : List UInt8 := [charOf (anInt.tdiv 256), charOf (anInt.tmod 256)]

/-- `(short)` of an `int`. -/
def shortOf (z : ℤ) : ℤ := (z + 32768) % 65536 - 32768

/-- `readInt4`. The first product is one of `int`. -/
def readInt4 : Cursor ℤ := do
  let a ← readChar
  let b ← readChar
  let c ← readChar
  let d ← readChar
  if 128 ≤ a.toNat then throw .overflow
  else return 16777216 * a.toNat + 65536 * b.toNat + 256 * c.toNat + d.toNat

def writeInt4 (anInt : ℤ) : List UInt8 :=
  let anInt₁ := anInt.tmod 16777216
  let anInt₂ := anInt₁.tmod 65536
  [charOf (anInt.tdiv 16777216), charOf (anInt₁.tdiv 65536), charOf (anInt₂.tdiv 256),
    charOf (anInt₂.tmod 256)]

/-! ### Lengths -/

/-- The loop of `MQTTPacket_encode`. -/
def encodeLoop : ℕ → ℕ → List UInt8
  | 0, _ => []
  | fuel + 1, length =>
    if 0 < length / 128 then .ofNat (length % 128 + 128) :: encodeLoop fuel (length / 128)
    else [.ofNat (length % 128)]

/-- `MQTTPacket_encode`. -/
def encode (length : ℕ) : List UInt8 := encodeLoop (length + 1) length

/-- `MQTTPacket_VBIlen`. -/
def vbiLen (remLen : ℤ) : ℕ :=
  if remLen < 128 then 1 else if remLen < 16384 then 2 else if remLen < 2097152 then 3 else 4

def MAX_NO_OF_REMAINING_LENGTH_BYTES : ℕ := 4

/-- The loop of `MQTTPacket_VBIdecode` and `MQTTPacket_decode`, with `left` bytes allowed: the value, the
count of bytes, and whether the value came to an end. -/
def decodeLoop {m : Type → Type} [Monad m] (getchar : m UInt8) :
    ℕ → ℕ → ℕ → ℕ → m (ℕ × ℕ × Bool)
  | 0, len, _, value => return (value, len + 1, false)
  | left + 1, len, multiplier, value => do
    let c ← getchar
    let value := value + (c &&& 127).toNat * multiplier
    if c &&& 128 ≠ 0 then decodeLoop getchar left (len + 1) (multiplier * 128) value
    else return (value, len + 1, true)

/-- `MQTTPacket_decodeBuf`, with the cursor moved by what it returns. A fifth byte is counted but not
read. -/
def decodeBuf : Cursor (ℕ × ℕ) := do
  let (value, len, complete) ← decodeLoop readChar MAX_NO_OF_REMAINING_LENGTH_BYTES 0 1 0
  if complete then return (value, len)
  else do
    let _ ← nextMany .overRun 1
    return (value, len)

/-! ### Bytes -/

theorem toNat_charOf {d : ℕ} (h : d < 256) : (charOf d).toNat = d := by
  unfold charOf
  rw [UInt8.toNat_ofNat']
  omega

theorem toNat_charOf_neg {d : ℕ} (h : d < 256) :
    (charOf (-d)).toNat = if d = 0 then 0 else 256 - d := by
  unfold charOf
  rw [UInt8.toNat_ofNat']
  split_ifs
  all_goals omega

/-! ### Two bytes -/

theorem readInt_run (a b : UInt8) (rest : List UInt8) :
    readInt.run ([a, b] ++ rest) = .ok (256 * a.toNat + b.toNat, rest) := rfl

theorem writeInt_natCast (m : ℕ) : writeInt m = [charOf ↑(m / 256), charOf ↑(m % 256)] := rfl

/-- Division towards zero: the digits of a negative number are those of the positive one, negated. -/
theorem writeInt_neg (m : ℕ) : writeInt (-m) = [charOf (-↑(m / 256)), charOf (-↑(m % 256))] := by
  unfold writeInt
  rw [Int.neg_tdiv, Int.neg_tmod]
  rfl

theorem reads_readInt {n : ℕ} (hn : n < 65536) : Reads readInt (writeInt n) n := by
  intro rest
  rw [writeInt_natCast, readInt_run, toNat_charOf (by omega), toNat_charOf (by omega),
    Nat.div_add_mod]

/-- **Two bytes of a `short` come back** unless it is negative and its low byte is not zero. -/
theorem readShort_writeInt_iff {z : ℤ} (hlo : -32768 ≤ z) (hhi : z < 32768) (rest : List UInt8) :
    (∃ n : ℕ, readInt.run (writeInt z ++ rest) = .ok (n, rest) ∧ shortOf n = z) ↔
      0 ≤ z ∨ z % 256 = 0 := by
  rcases Int.le_total 0 z with hpos | hneg
  · obtain ⟨n, rfl⟩ := Int.eq_ofNat_of_zero_le hpos
    refine ⟨fun _ => Or.inl hpos, fun _ => ⟨n, reads_readInt (by omega) rest, ?_⟩⟩
    unfold shortOf
    omega
  · obtain ⟨m, rfl⟩ := Int.exists_eq_neg_ofNat hneg
    have hdm := Nat.div_add_mod m 256
    have hread : readInt.run (writeInt (-m) ++ rest) =
        .ok (256 * (if m / 256 = 0 then 0 else 256 - m / 256) +
          (if m % 256 = 0 then 0 else 256 - m % 256), rest) := by
      rw [writeInt_neg, readInt_run, toNat_charOf_neg (by omega), toNat_charOf_neg (by omega)]
    rw [hread]
    have hval : (∃ n : ℕ, Except.ok (256 * (if m / 256 = 0 then 0 else 256 - m / 256) +
        (if m % 256 = 0 then 0 else 256 - m % 256), rest) = (.ok (n, rest) : Except Fault _) ∧
          shortOf n = -m) ↔ shortOf ↑(256 * (if m / 256 = 0 then 0 else 256 - m / 256) +
            (if m % 256 = 0 then 0 else 256 - m % 256)) = -m := by
      constructor
      · rintro ⟨n, hn, hs⟩
        rw [(Prod.mk.inj (Except.ok.inj hn)).1]
        exact hs
      · exact fun hs => ⟨_, rfl, hs⟩
    rw [hval]
    unfold shortOf
    split_ifs
    all_goals omega

theorem reads_readShort {z : ℤ} (hlo : -32768 ≤ z) (hhi : z < 32768) (h : 0 ≤ z ∨ z % 256 = 0) :
    ∃ n : ℕ, Reads readInt (writeInt z) n ∧ shortOf n = z := by
  obtain ⟨n, hn, hshort⟩ := (readShort_writeInt_iff hlo hhi []).mpr h
  refine ⟨n, fun rest => ?_, hshort⟩
  have hval := (Prod.mk.inj (Except.ok.inj hn)).1
  show Except.ok (_, rest) = _
  rw [hval]

/-! ### Four bytes -/

theorem readInt4_run (a b c d : UInt8) (rest : List UInt8) :
    readInt4.run ([a, b, c, d] ++ rest) = if 128 ≤ a.toNat then .error .overflow
      else .ok (16777216 * a.toNat + 65536 * b.toNat + 256 * c.toNat + d.toNat, rest) := by
  show (if 128 ≤ a.toNat then (throw .overflow : Cursor ℤ) else _).run rest = _
  split_ifs
  · rfl
  · rfl

theorem digits_eq (m : ℕ) :
    16777216 * (m / 16777216) + 65536 * (m % 16777216 / 65536) +
      256 * (m % 16777216 % 65536 / 256) + m % 16777216 % 65536 % 256 = m := by
  have h₁ := Nat.div_add_mod m 16777216
  have h₂ := Nat.div_add_mod (m % 16777216) 65536
  have h₃ := Nat.div_add_mod (m % 16777216 % 65536) 256
  omega

theorem writeInt4_natCast (m : ℕ) :
    writeInt4 m = [charOf ↑(m / 16777216), charOf ↑(m % 16777216 / 65536),
      charOf ↑(m % 16777216 % 65536 / 256), charOf ↑(m % 16777216 % 65536 % 256)] := rfl

theorem writeInt4_neg (m : ℕ) :
    writeInt4 (-m) = [charOf (-↑(m / 16777216)), charOf (-↑(m % 16777216 / 65536)),
      charOf (-↑(m % 16777216 % 65536 / 256)), charOf (-↑(m % 16777216 % 65536 % 256))] := by
  unfold writeInt4
  simp only [Int.neg_tdiv, Int.neg_tmod]
  rfl

/-- **Four bytes of an `int` come back** exactly if it is not negative. -/
theorem readInt4_writeInt4_iff {z : ℤ} (hlo : -2147483648 ≤ z) (hhi : z < 2147483648)
    (rest : List UInt8) : readInt4.run (writeInt4 z ++ rest) = .ok (z, rest) ↔ 0 ≤ z := by
  rcases Int.le_total 0 z with hpos | hneg
  · obtain ⟨n, rfl⟩ := Int.eq_ofNat_of_zero_le hpos
    have hdigits := digits_eq n
    rw [writeInt4_natCast, readInt4_run, toNat_charOf (by omega), toNat_charOf (by omega),
      toNat_charOf (by omega), toNat_charOf (by omega), if_neg (by omega)]
    refine ⟨fun _ => hpos, fun _ => ?_⟩
    rw [Except.ok.injEq, Prod.mk.injEq]
    exact ⟨by exact_mod_cast hdigits, rfl⟩
  · obtain ⟨m, rfl⟩ := Int.exists_eq_neg_ofNat hneg
    rw [writeInt4_neg, readInt4_run]
    refine ⟨fun hread => ?_, fun hpos => ?_⟩
    · -- a value that is read is not negative
      split_ifs at hread
      rw [Except.ok.injEq, Prod.mk.injEq] at hread
      omega
    · obtain rfl : m = 0 := by omega
      rfl

theorem reads_readInt4 {z : ℤ} (hlo : 0 ≤ z) (hhi : z < 2147483648) :
    Reads readInt4 (writeInt4 z) z :=
  fun rest => (readInt4_writeInt4_iff (by omega) hhi rest).mpr hlo

/-! ### Lengths -/

theorem and_127 (c : UInt8) : (c &&& 127).toNat = c.toNat % 128 := by
  have h : (127 : UInt8).toNat = 2 ^ 7 - 1 := rfl
  rw [UInt8.toNat_and, h, Nat.and_two_pow_sub_one_eq_mod]

theorem and_128 (c : UInt8) : c &&& 128 ≠ 0 ↔ 128 ≤ c.toNat := by
  have hall : ∀ i < 256, i &&& 128 ≠ 0 ↔ 128 ≤ i := by decide +kernel
  have hnat : (c &&& 128).toNat = c.toNat &&& 128 := UInt8.toNat_and c 128
  rw [← hall c.toNat c.toNat_lt, ← hnat, ne_eq, ne_eq, ← UInt8.toNat_inj]
  rfl

section
variable {ε : Type} {e : ε}

theorem decodeLoop_run {left len multiplier value : ℕ} {c : UInt8} {rest : List UInt8} :
    (decodeLoop (next e) (left + 1) len multiplier value).run (c :: rest) =
      if 128 ≤ c.toNat then
        (decodeLoop (next e) left (len + 1) (multiplier * 128)
          (value + c.toNat % 128 * multiplier)).run rest
      else .ok ((value + c.toNat % 128 * multiplier, len + 1, true), rest) := by
  rw [decodeLoop]
  show (if c &&& 128 ≠ 0 then decodeLoop (next e) left (len + 1) (multiplier * 128)
    (value + (c &&& 127).toNat * multiplier) else _ : Reader UInt8 ε (ℕ × ℕ × Bool)).run rest = _
  rw [and_127]
  by_cases hc : 128 ≤ c.toNat
  · rw [if_pos ((and_128 c).mpr hc), if_pos hc]
  · rw [if_neg (fun h => hc ((and_128 c).mp h)), if_neg hc]
    rfl

theorem decodeLoop_encodeLoop {left len fuel n multiplier value : ℕ} (rest : List UInt8) :
    (decodeLoop (next e) (left + 1) len multiplier value).run (encodeLoop (fuel + 1) n ++ rest) =
      if 0 < n / 128 then
        (decodeLoop (next e) left (len + 1) (multiplier * 128) (value + n % 128 * multiplier)).run
          (encodeLoop fuel (n / 128) ++ rest)
      else .ok ((value + n * multiplier, len + 1, true), rest) := by
  rw [encodeLoop]
  split_ifs with hmore
  · have hc : (UInt8.ofNat (n % 128 + 128)).toNat = n % 128 + 128 := by
      rw [UInt8.toNat_ofNat']
      omega
    have hmod : (n % 128 + 128) % 128 = n % 128 := by omega
    rw [List.cons_append, decodeLoop_run, hc, if_pos (by omega), hmod]
  · have hc : (UInt8.ofNat (n % 128)).toNat = n % 128 := by
      rw [UInt8.toNat_ofNat']
      omega
    have hmod : n % 128 % 128 = n := by omega
    rw [List.cons_append, decodeLoop_run, hc, if_neg (by omega), hmod]
    rfl

/-- **A length that fits comes back**, with the number of its bytes. -/
theorem reads_decodeLoop {left fuel n : ℕ} (hn : n < 128 ^ (left + 1)) (hfuel : n < fuel)
    (len multiplier value : ℕ) :
    Reads (decodeLoop (next e) (left + 1) len multiplier value) (encodeLoop fuel n)
      (value + n * multiplier, len + (encodeLoop fuel n).length, true) := by
  induction left generalizing fuel n len multiplier value with
  | zero =>
    intro rest
    obtain ⟨fuel, rfl⟩ := Nat.exists_eq_succ_of_ne_zero (show fuel ≠ 0 by omega)
    rw [decodeLoop_encodeLoop, encodeLoop, if_neg (by omega), if_neg (by omega),
      List.length_singleton]
  | succ left ih =>
    intro rest
    obtain ⟨fuel, rfl⟩ := Nat.exists_eq_succ_of_ne_zero (show fuel ≠ 0 by omega)
    rw [decodeLoop_encodeLoop, encodeLoop]
    split_ifs with hmore
    · have hdiv : n / 128 < 128 ^ (left + 1) := by
        rw [pow_succ] at hn
        omega
      have hvalue : value + n % 128 * multiplier + n / 128 * (multiplier * 128) =
          value + n * multiplier := by
        have hdm := Nat.div_add_mod n 128
        calc value + n % 128 * multiplier + n / 128 * (multiplier * 128)
            = value + (128 * (n / 128) + n % 128) * multiplier := by ring
          _ = value + n * multiplier := by rw [hdm]
      rw [ih hdiv (by omega), hvalue, List.length_cons, Nat.add_assoc, Nat.add_comm 1]
    · rw [List.length_singleton]

/-- A longer one does not come to an end. -/
theorem decodeLoop_of_le {left fuel n : ℕ} (hn : 128 ^ left ≤ n) (hfuel : n < fuel)
    (len multiplier value : ℕ) (rest : List UInt8) :
    ∃ v r, (decodeLoop (next e) left len multiplier value).run (encodeLoop fuel n ++ rest) =
      .ok ((v, len + left + 1, false), r) := by
  induction left generalizing fuel n len multiplier value with
  | zero => exact ⟨_, _, rfl⟩
  | succ left ih =>
    obtain ⟨fuel, rfl⟩ := Nat.exists_eq_succ_of_ne_zero (show fuel ≠ 0 by omega)
    have hdiv : 128 ^ left ≤ n / 128 := by
      rw [pow_succ] at hn
      omega
    have hpos : 0 < 128 ^ left := Nat.pow_pos (by omega)
    rw [decodeLoop_encodeLoop, if_pos (by omega), ← Nat.add_assoc, Nat.add_right_comm len left 1]
    exact ih hdiv (by omega) _ _ _

end

/-- The longest remaining length of a packet. -/
def MAX_REMAINING_LENGTH : ℕ := 268435455

theorem length_encodeLoop {k fuel n : ℕ} (hle : k = 0 ∨ 128 ^ k ≤ n) (hn : n < 128 ^ (k + 1))
    (hfuel : n < fuel) : (encodeLoop fuel n).length = k + 1 := by
  induction k generalizing fuel n with
  | zero =>
    obtain ⟨fuel, rfl⟩ := Nat.exists_eq_succ_of_ne_zero (show fuel ≠ 0 by omega)
    rw [encodeLoop, if_neg (by omega), List.length_singleton]
  | succ k ih =>
    obtain ⟨fuel, rfl⟩ := Nat.exists_eq_succ_of_ne_zero (show fuel ≠ 0 by omega)
    have hpos : 0 < 128 ^ k := Nat.pow_pos (by omega)
    have hle : 128 ^ k ≤ n / 128 := by
      rcases hle with hle | hle
      · omega
      · rw [pow_succ] at hle
        omega
    have hlt : n / 128 < 128 ^ (k + 1) := by
      rw [pow_succ] at hn
      omega
    rw [encodeLoop, if_pos (by omega), List.length_cons, ih (Or.inr hle) hlt (by omega)]

/-- **`MQTTPacket_VBIlen`** is the number of bytes that `MQTTPacket_encode` writes. -/
theorem length_encode {n : ℕ} (hn : n ≤ MAX_REMAINING_LENGTH) : (encode n).length = vbiLen n := by
  unfold MAX_REMAINING_LENGTH at hn
  unfold vbiLen
  split_ifs with h₁ h₂ h₃
  · exact length_encodeLoop (k := 0) (Or.inl rfl) (by omega) (by omega)
  · exact length_encodeLoop (k := 1) (Or.inr (by omega)) (by omega) (by omega)
  · exact length_encodeLoop (k := 2) (Or.inr (by omega)) (by omega) (by omega)
  · exact length_encodeLoop (k := 3) (Or.inr (by omega)) (by omega) (by omega)

theorem vbiLen_pos (z : ℤ) : 0 < vbiLen z := by
  unfold vbiLen
  split_ifs
  all_goals omega

/-- **The length of a property list comes back.** -/
theorem reads_decodeBuf {n : ℕ} (hn : n ≤ MAX_REMAINING_LENGTH) :
    Reads decodeBuf (encode n) (n, vbiLen n) := by
  have hlt : n < 128 ^ (3 + 1) := by
    unfold MAX_REMAINING_LENGTH at hn
    omega
  have hread := reads_decodeLoop (e := Fault.overRun) hlt (Nat.lt_succ_self n) 0 1 0
  have hlen : (encodeLoop n.succ n).length = vbiLen n := length_encode hn
  rw [Nat.mul_one, Nat.zero_add, Nat.zero_add, hlen] at hread
  exact hread.bind_nil (Reads.pure (n, vbiLen n))

end OasisEdge.Mqtt.Bytes
