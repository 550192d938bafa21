import OasisEdge.Mqtt.Bytes

/-! # Properties of MQTT 5 packets

A property is its identifier and a value of the type that `namesToTypes` gives for the identifier
(`MQTTProperty.fits`). A list of properties counts the bytes of its text as they are added
(`MQTTProperties.Counted`), and `MQTTProperties_write` writes this count in front, so what is written
is read back (`reads_writeProperties`). This needs values that the writers get right
(`MQTTProperty.Sound`): no negative integers, above all. -/

namespace OasisEdge.Mqtt.Properties

open OasisEdge.Lib.Readers OasisEdge.Mqtt.Bytes

/-- `enum MQTTPropertyTypes`. -/
inductive PropertyType
  | byte
  | twoByteInteger
  | fourByteInteger
  | variableByteInteger
  | binaryData
  | utf8EncodedString
  | utf8StringPair
deriving DecidableEq

open PropertyType

/-- The table of identifiers. -/
def namesToTypes : List (UInt8 × PropertyType) :=
  [(1, byte), (2, fourByteInteger), (3, utf8EncodedString), (8, utf8EncodedString), (9, binaryData),
    (11, variableByteInteger), (17, fourByteInteger), (18, utf8EncodedString), (19, twoByteInteger),
    (21, utf8EncodedString), (22, binaryData), (23, byte), (24, fourByteInteger), (25, byte),
    (26, utf8EncodedString), (28, utf8EncodedString), (31, utf8EncodedString), (33, twoByteInteger),
    (34, twoByteInteger), (35, twoByteInteger), (36, byte), (37, byte), (38, utf8StringPair),
    (39, fourByteInteger), (40, byte), (41, byte), (42, byte)]

/-- `MQTTProperty_getType`. -/
def getType (value : UInt8) : Option PropertyType := (namesToTypes.find? (·.1 == value)).map (·.2)

/-- The value of a property, by the member of the union that holds it. A property with an unknown
identifier has none. -/
inductive Value
  | byte (b : UInt8)
  | integer2 (z : ℤ)
  | integer4 (z : ℤ)
  | data (l : List UInt8)
  | pair (name value : List UInt8)
  | nothing
deriving DecidableEq

/-- The member of the union that a type uses. -/
def Fits : Option PropertyType → Value → Bool
  | some .byte, .byte _ => true
  | some .twoByteInteger, .integer2 _ => true
  | some .fourByteInteger, .integer4 _ => true
  | some .variableByteInteger, .integer4 _ => true
  | some .binaryData, .data _ => true
  | some .utf8EncodedString, .data _ => true
  | some .utf8StringPair, .pair _ _ => true
  | none, .nothing => true
  | _, _ => false

structure MQTTProperty where
  identifier : UInt8
  value : Value
  fits : Fits (getType identifier) value = true
deriving DecidableEq

/-- `MQTTProperties`: the array as far as it is used, and the length in bytes. -/
structure MQTTProperties where
  array : List MQTTProperty
  length : ℤ
deriving DecidableEq

/-- `MQTTProperties_initializer`. -/
def MQTTProperties.initializer : MQTTProperties := ⟨[], 0⟩

/-- `MQTTProperties_len`, of a list that is there. -/
def MQTTProperties.len (props : MQTTProperties) : ℤ := props.length + vbiLen props.length

/-- What `MQTTProperties_add` counts for a value. -/
def valueLen : Option PropertyType → Value → ℕ
  | some .variableByteInteger, .integer4 z => vbiLen z
  | _, .byte _ => 1
  | _, .integer2 _ => 2
  | _, .integer4 _ => 4
  | _, .data l => 2 + l.length
  | _, .pair name value => 2 + name.length + (2 + value.length)
  | _, .nothing => 0

/-- `MQTTProperties_add`: nothing is added for an unknown identifier. -/
def MQTTProperties.add (props : MQTTProperties) (prop : MQTTProperty) : Option MQTTProperties :=
  match getType prop.identifier with
  | none => none
  | some type =>
    some ⟨props.array ++ [prop], props.length + (valueLen (some type) prop.value + 1)⟩

/-- `(size_t)` of an `int`. -/
def sizeOfInt (z : ℤ) : ℕ := (z % 18446744073709551616).toNat

def writeMQTTLenString (l : List UInt8) : List UInt8 := writeInt l.length ++ l

/-- The value as `MQTTProperty_write` writes it. -/
def writeValue : Option PropertyType → Value → List UInt8
  | some .variableByteInteger, .integer4 z => encode (sizeOfInt z)
  | _, .byte b => [b]
  | _, .integer2 z => writeInt z
  | _, .integer4 z => writeInt4 z
  | _, .data l => writeMQTTLenString l
  | _, .pair name value => writeMQTTLenString name ++ writeMQTTLenString value
  | _, .nothing => []

/-- `MQTTProperty_write`: nothing for an unknown identifier. -/
def writeProperty (prop : MQTTProperty) : List UInt8 :=
  match getType prop.identifier with
  | none => []
  | some type => prop.identifier :: writeValue (some type) prop.value

/-- `MQTTProperties_write`, of a list that is there. -/
def writeProperties (props : MQTTProperties) : List UInt8 :=
  encode (sizeOfInt props.length) ++ props.array.flatMap writeProperty

/-! ### Reading -/

/-- `MQTTLenStringRead`, with what it returns. -/
def lenStringRead : Cursor (Option (List UInt8) × ℕ) := fun l =>
  if 1 < l.length then
    match readInt l with
    | .error e => .error e
    | .ok (len, rest) =>
      if len ≤ rest.length then .ok ((some (rest.take len), 2 + len), rest.drop len)
      else .ok ((none, 0), rest)
  else .ok ((none, 0), l)

/-- `datadup`, of a string that may not have been read. -/
def datadup : Option (List UInt8) → Cursor (List UInt8)
  | none => throw .uninitialised
  | some l => return l

/-- The value as `MQTTProperty_read` reads it, and its length. -/
def readValue : (type : Option PropertyType) → Cursor ({v : Value // Fits type v = true} × ℕ)
  | none => return (⟨.nothing, rfl⟩, 0)
  | some .byte => do
    let b ← readChar
    return (⟨.byte b, rfl⟩, 1)
  | some .twoByteInteger => do
    let n ← readInt
    return (⟨.integer2 (shortOf n), rfl⟩, 2)
  | some .fourByteInteger => do
    let z ← readInt4
    return (⟨.integer4 z, rfl⟩, 4)
  | some .variableByteInteger => do
    let (n, len) ← decodeBuf
    return (⟨.integer4 n, rfl⟩, len)
  | some .binaryData => do
    let (l, len) ← lenStringRead
    let l ← datadup l
    return (⟨.data l, rfl⟩, len)
  | some .utf8EncodedString => do
    let (l, len) ← lenStringRead
    let l ← datadup l
    return (⟨.data l, rfl⟩, len)
  | some .utf8StringPair => do
    let (name, len) ← lenStringRead
    let name ← datadup name
    let (value, len') ← lenStringRead
    let value ← datadup value
    return (⟨.pair name value, rfl⟩, len + len')

/-- `MQTTProperty_read`, with what it returns. -/
def readProperty : Cursor (MQTTProperty × ℕ) := do
  let identifier ← readChar
  let (v, len) ← readValue (getType identifier)
  return (⟨identifier, v.1, v.2⟩, len + 1)

/-- The loop of `MQTTProperties_read`: the properties, and what is left of the length. -/
def readLoop : ℕ → ℤ → Cursor (List MQTTProperty × ℤ)
  | 0, remlength => return ([], remlength)
  | fuel + 1, remlength =>
    if 0 < remlength then do
      let (prop, len) ← readProperty
      let (props, remlength) ← readLoop fuel (remlength - len)
      return (prop :: props, remlength)
    else return ([], remlength)

/-- `MQTTProperties_read`: nothing if the properties do not end where their length says. -/
def readProperties : Cursor (Option MQTTProperties) := fun l =>
  if 0 < l.length then (do
    let (length, _) ← decodeBuf
    let (array, remlength) ← readLoop length length
    if remlength = 0 then return some ⟨array, length⟩ else return none : Cursor _) l
  else .ok (none, l)

/-! ### Values -/

/-- A value that is written as what it is. -/
def Sound : Option PropertyType → Value → Prop
  | some .variableByteInteger, .integer4 z => 0 ≤ z ∧ z ≤ MAX_REMAINING_LENGTH
  | _, .byte _ => True
  | _, .integer2 z => (-32768 ≤ z ∧ z < 32768) ∧ (0 ≤ z ∨ z % 256 = 0)
  | _, .integer4 z => 0 ≤ z ∧ z < 2147483648
  | _, .data l => l.length < 65536
  | _, .pair name value => name.length < 65536 ∧ value.length < 65536
  | _, .nothing => True

theorem length_writeInt (z : ℤ) : (writeInt z).length = 2 := rfl

/-- A length in front, and whether as many bytes are behind it. -/
theorem lenStringRead_writeInt {n : ℕ} (hn : n < 65536) (rest : List UInt8) :
    lenStringRead (writeInt n ++ rest) = if n ≤ rest.length then
      .ok ((some (rest.take n), 2 + n), rest.drop n) else .ok ((none, 0), rest) := by
  have hread : readInt (writeInt n ++ rest) = .ok (n, rest) := reads_readInt hn rest
  unfold lenStringRead
  rw [if_pos (by rw [List.length_append, length_writeInt]; omega), hread]

theorem reads_lenStringRead {l : List UInt8} (hl : l.length < 65536) :
    Reads lenStringRead (writeMQTTLenString l) (some l, 2 + l.length) := by
  intro rest
  unfold writeMQTTLenString
  rw [List.append_assoc]
  show lenStringRead _ = _
  rw [lenStringRead_writeInt hl, if_pos (by rw [List.length_append]; omega), List.take_left,
    List.drop_left]

theorem writeInt_mod (n : ℕ) : writeInt n = writeInt ↑(n % 65536) := by
  have hhi : charOf ↑(n / 256) = charOf ↑(n % 65536 / 256) := by
    unfold charOf
    congr 2
    omega
  rw [writeInt_natCast, writeInt_natCast, hhi, Nat.mod_mod_of_dvd n (by decide)]

/-- A longer string does not come back. -/
theorem lenStringRead_lt {l : List UInt8} {k : ℕ} {rest rest' : List UInt8}
    (h : lenStringRead (writeMQTTLenString l ++ rest) = .ok ((some l, k), rest')) : l.length < 65536 := by
  unfold writeMQTTLenString at h
  by_contra hle
  rw [writeInt_mod, List.append_assoc, lenStringRead_writeInt (Nat.mod_lt _ (by decide)),
    if_pos (by rw [List.length_append]; have := Nat.mod_le l.length 65536; omega)] at h
  have hl := Option.some.inj (Prod.mk.inj (Prod.mk.inj (Except.ok.inj h)).1).1
  have hlen := congrArg List.length hl
  rw [List.length_take] at hlen
  have hmod := Nat.mod_lt l.length (show 0 < 65536 by decide)
  omega

theorem sizeOfInt_natCast {n : ℕ} (h : n ≤ MAX_REMAINING_LENGTH) : sizeOfInt n = n := by
  unfold MAX_REMAINING_LENGTH at h
  unfold sizeOfInt
  omega

theorem fits_cases {type : Option PropertyType} {v : Value} (h : Fits type v = true) :
    (type = none ∧ v = .nothing) ∨ (∃ b, type = some .byte ∧ v = .byte b) ∨
      (∃ z, type = some .twoByteInteger ∧ v = .integer2 z) ∨
      (∃ z, type = some .fourByteInteger ∧ v = .integer4 z) ∨
      (∃ z, type = some .variableByteInteger ∧ v = .integer4 z) ∨
      (∃ l, (type = some .binaryData ∨ type = some .utf8EncodedString) ∧ v = .data l) ∨
      ∃ name value, type = some .utf8StringPair ∧ v = .pair name value := by
  rcases v with b | z | z | l | ⟨name, value⟩ | _
  all_goals rcases type with _ | type
  all_goals try rcases type with _ | _ | _ | _ | _ | _ | _
  all_goals try cases h
  · exact Or.inr (Or.inl ⟨_, rfl, rfl⟩)
  · exact Or.inr (Or.inr (Or.inl ⟨_, rfl, rfl⟩))
  · exact Or.inr (Or.inr (Or.inr (Or.inl ⟨_, rfl, rfl⟩)))
  · exact Or.inr (Or.inr (Or.inr (Or.inr (Or.inl ⟨_, rfl, rfl⟩))))
  · exact Or.inr (Or.inr (Or.inr (Or.inr (Or.inr (Or.inl ⟨_, Or.inl rfl, rfl⟩)))))
  · exact Or.inr (Or.inr (Or.inr (Or.inr (Or.inr (Or.inl ⟨_, Or.inr rfl, rfl⟩)))))
  · exact Or.inr (Or.inr (Or.inr (Or.inr (Or.inr (Or.inr ⟨_, _, rfl, rfl⟩)))))
  · exact Or.inl ⟨rfl, rfl⟩

/-- **A sound value comes back.** -/
theorem reads_readValue {type : Option PropertyType} {v : Value} (hv : Fits type v = true)
    (hsound : Sound type v) :
    Reads (readValue type) (writeValue type v) (⟨v, hv⟩, valueLen type v) := by
  rcases fits_cases hv with ⟨rfl, rfl⟩ | ⟨b, rfl, rfl⟩ | ⟨z, rfl, rfl⟩ | ⟨z, rfl, rfl⟩ |
    ⟨z, rfl, rfl⟩ | ⟨l, rfl | rfl, rfl⟩ | ⟨name, value, rfl, rfl⟩
  · exact Reads.pure _
  · exact (reads_next _ b).bind_nil (Reads.pure _)
  · obtain ⟨⟨hlo, hhi⟩, hbytes⟩ := hsound
    obtain ⟨n, hread, rfl⟩ := reads_readShort hlo hhi hbytes
    exact hread.bind_nil (Reads.pure _)
  · exact (reads_readInt4 hsound.1 hsound.2).bind_nil (Reads.pure _)
  · obtain ⟨hlo, hhi⟩ := hsound
    obtain ⟨n, rfl⟩ := Int.eq_ofNat_of_zero_le hlo
    have hn : n ≤ MAX_REMAINING_LENGTH := by omega
    show Reads _ (encode (sizeOfInt n)) _
    rw [sizeOfInt_natCast hn]
    exact (reads_decodeBuf hn).bind_nil (Reads.pure _)
  · exact (reads_lenStringRead hsound).bind_nil (Reads.bind_nil (Reads.pure l) (Reads.pure _))
  · exact (reads_lenStringRead hsound).bind_nil (Reads.bind_nil (Reads.pure l) (Reads.pure _))
  · refine (reads_lenStringRead hsound.1).bind ?_
    refine Reads.bind (l := []) (Reads.pure name) ?_
    refine (reads_lenStringRead hsound.2).bind_nil ?_
    exact Reads.bind_nil (Reads.pure value) (Reads.pure _)

/-- The members of the union for integers are a `short` and an `int`. -/
def InRange : Value → Prop
  | .integer2 z => -32768 ≤ z ∧ z < 32768
  | .integer4 z => -2147483648 ≤ z ∧ z < 2147483648
  | _ => True

/-- A length that does not fit in four bytes is read with a fifth one, which it does not have in
`MQTTPacket_VBIlen`. -/
theorem decodeBuf_of_lt {n : ℕ} (hn : MAX_REMAINING_LENGTH < n) {r : ℕ × ℕ} {rest : List UInt8}
    (h : decodeBuf.run (encode n) = .ok (r, rest)) : r.2 = 5 := by
  have hle : 128 ^ 4 ≤ n := by
    unfold MAX_REMAINING_LENGTH at hn
    omega
  obtain ⟨v, l, hrun⟩ := decodeLoop_of_le (e := Fault.overRun) hle (Nat.lt_succ_self n) 0 1 0 []
  obtain ⟨a, m, hloop, hend⟩ := run_bind_eq_ok.mp h
  rw [List.append_nil] at hrun
  obtain ⟨rfl, rfl⟩ := Prod.mk.inj (Except.ok.inj (hloop.symm.trans hrun))
  obtain ⟨_, _, -, hpure⟩ := run_bind_eq_ok.mp hend
  rw [← (Prod.mk.inj (Except.ok.inj hpure)).1]

theorem datadup_eq_ok {α : Type} {o : Option (List UInt8)} {g : List UInt8 → Cursor α} {m rest : List UInt8}
    {a : α} (h : (datadup o >>= g).run m = .ok (a, rest)) : ∃ l, o = some l ∧ (g l).run m = .ok (a, rest) := by
  rcases o with _ | l
  · cases h
  · exact ⟨l, rfl, h⟩

theorem lenStringRead_data {α : Type} {l : List UInt8} {g : List UInt8 → α} (hg : ∀ l', g l' = g l → l' = l)
    {n : ℕ} (h : StateT.run (do
        let (l, len) ← lenStringRead
        let l ← datadup l
        return (g l, len) : Cursor (α × ℕ)) (writeMQTTLenString l) = .ok ((g l, n), [])) :
    l.length < 65536 := by
  obtain ⟨⟨o, k⟩, m, hread, hrest⟩ := run_bind_eq_ok.mp h
  obtain ⟨l', rfl, hend⟩ := datadup_eq_ok hrest
  obtain rfl := hg l' (Prod.mk.inj (Prod.mk.inj (Except.ok.inj hend)).1).1
  rw [← List.append_nil (writeMQTTLenString l')] at hread
  exact lenStringRead_lt hread

/-- **A value that comes back is sound.** -/
theorem sound_of_reads {type : Option PropertyType} {v : Value} (hv : Fits type v = true)
    (hrange : InRange v) (h : Reads (readValue type) (writeValue type v) (⟨v, hv⟩, valueLen type v)) :
    Sound type v := by
  have hrun := h.run_eq
  rcases fits_cases hv with ⟨rfl, rfl⟩ | ⟨b, rfl, rfl⟩ | ⟨z, rfl, rfl⟩ | ⟨z, rfl, rfl⟩ |
    ⟨z, rfl, rfl⟩ | ⟨l, rfl | rfl, rfl⟩ | ⟨name, value, rfl, rfl⟩
  · trivial
  · trivial
  · obtain ⟨n, m, hn, hm⟩ := run_bind_eq_ok.mp hrun
    obtain ⟨hval, rfl⟩ := Prod.mk.inj (Except.ok.inj hm)
    have hz : shortOf n = z := Value.integer2.inj (Subtype.mk.inj (Prod.mk.inj hval).1)
    rw [← List.append_nil (writeValue _ _)] at hn
    exact ⟨hrange, (readShort_writeInt_iff hrange.1 hrange.2 []).mp ⟨n, hn, hz⟩⟩
  · obtain ⟨n, m, hn, hm⟩ := run_bind_eq_ok.mp hrun
    obtain ⟨hval, rfl⟩ := Prod.mk.inj (Except.ok.inj hm)
    have hz : n = z := Value.integer4.inj (Subtype.mk.inj (Prod.mk.inj hval).1)
    rw [← List.append_nil (writeValue _ _), hz] at hn
    exact ⟨(readInt4_writeInt4_iff hrange.1 hrange.2 []).mp hn, hrange.2⟩
  · obtain ⟨n, m, hn, hm⟩ := run_bind_eq_ok.mp hrun
    have hlen : n.2 = vbiLen z := (Prod.mk.inj (Prod.mk.inj (Except.ok.inj hm)).1).2
    have hvbi : vbiLen z ≤ 4 := by
      unfold vbiLen
      split_ifs
      all_goals omega
    have hle : sizeOfInt z ≤ MAX_REMAINING_LENGTH := by
      by_contra hlt
      have hfive := decodeBuf_of_lt (Nat.lt_of_not_le hlt) hn
      omega
    obtain ⟨hlo, hhi⟩ := hrange
    unfold sizeOfInt MAX_REMAINING_LENGTH at hle
    refine ⟨by omega, ?_⟩
    unfold MAX_REMAINING_LENGTH
    omega
  · exact lenStringRead_data (fun l' h => Value.data.inj (Subtype.mk.inj h)) hrun
  · exact lenStringRead_data (fun l' h => Value.data.inj (Subtype.mk.inj h)) hrun
  · obtain ⟨⟨o, k⟩, m, hname, hrest⟩ := run_bind_eq_ok.mp hrun
    obtain ⟨name', rfl, hsecond⟩ := datadup_eq_ok hrest
    obtain ⟨⟨o, k'⟩, m', hvalue, hcopy⟩ := run_bind_eq_ok.mp hsecond
    obtain ⟨value', rfl, hend⟩ := datadup_eq_ok hcopy
    have hpair := Value.pair.inj (Subtype.mk.inj (Prod.mk.inj (Prod.mk.inj (Except.ok.inj hend)).1).1)
    obtain ⟨rfl, rfl⟩ := hpair
    have hlt := lenStringRead_lt hname
    have hread := reads_lenStringRead hlt (writeMQTTLenString value')
    obtain ⟨-, rfl⟩ := Prod.mk.inj (Except.ok.inj (hname.symm.trans hread))
    rw [← List.append_nil (writeMQTTLenString value')] at hvalue
    exact ⟨hlt, lenStringRead_lt hvalue⟩

theorem length_writeMQTTLenString (l : List UInt8) : (writeMQTTLenString l).length = 2 + l.length := by
  unfold writeMQTTLenString
  rw [List.length_append, length_writeInt]

theorem length_writeValue {type : Option PropertyType} {v : Value} (hv : Fits type v = true)
    (hsound : Sound type v) : (writeValue type v).length = valueLen type v := by
  rcases fits_cases hv with ⟨rfl, rfl⟩ | ⟨b, rfl, rfl⟩ | ⟨z, rfl, rfl⟩ | ⟨z, rfl, rfl⟩ |
    ⟨z, rfl, rfl⟩ | ⟨l, rfl | rfl, rfl⟩ | ⟨name, value, rfl, rfl⟩
  · rfl
  · rfl
  · rfl
  · rfl
  · obtain ⟨hlo, hhi⟩ := hsound
    obtain ⟨n, rfl⟩ := Int.eq_ofNat_of_zero_le hlo
    have hn : n ≤ MAX_REMAINING_LENGTH := by omega
    show (encode (sizeOfInt n)).length = _
    rw [sizeOfInt_natCast hn]
    exact length_encode hn
  · exact length_writeMQTTLenString l
  · exact length_writeMQTTLenString l
  · show (writeMQTTLenString name ++ writeMQTTLenString value).length = _
    rw [List.length_append, length_writeMQTTLenString, length_writeMQTTLenString]
    rfl

/-! ### Lists of properties -/

/-- A property with a known identifier whose value is written as what it is. -/
structure MQTTProperty.Sound (prop : MQTTProperty) : Prop where
  known : getType prop.identifier ≠ none
  value : Properties.Sound (getType prop.identifier) prop.value

/-- The bytes `MQTTProperties_add` counts for a property. -/
def propertyLen (prop : MQTTProperty) : ℕ := valueLen (getType prop.identifier) prop.value + 1

/-- The count of a list is that of its properties. -/
structure MQTTProperties.Counted (props : MQTTProperties) : Prop where
  sound : ∀ prop ∈ props.array, prop.Sound
  length_eq : props.length = (props.array.map propertyLen).sum

theorem counted_initializer : MQTTProperties.initializer.Counted :=
  ⟨fun _ h => (List.not_mem_nil h).elim, rfl⟩

/-- **`MQTTProperties_add` keeps the count.** -/
theorem MQTTProperties.Counted.add {props props' : MQTTProperties} (h : props.Counted)
    {prop : MQTTProperty} (hprop : prop.Sound) (hadd : props.add prop = some props') :
    props'.Counted := by
  unfold MQTTProperties.add at hadd
  rcases htype : getType prop.identifier with _ | type
  · exact absurd htype hprop.known
  rw [htype] at hadd
  obtain rfl := Option.some.inj hadd
  refine ⟨fun p hp => ?_, ?_⟩
  · rcases List.mem_append.mp hp with hp | hp
    · exact h.sound p hp
    · rw [List.mem_singleton.mp hp]
      exact hprop
  · simp only
    rw [h.length_eq, List.map_append, List.sum_append, List.map_singleton, List.sum_singleton]
    unfold propertyLen
    rw [htype]
    push_cast
    rfl

theorem writeProperty_eq {prop : MQTTProperty} (hknown : getType prop.identifier ≠ none) :
    writeProperty prop = prop.identifier :: writeValue (getType prop.identifier) prop.value := by
  unfold writeProperty
  split
  · contradiction
  · rename_i type htype
    rw [htype]

theorem length_writeProperty {prop : MQTTProperty} (h : prop.Sound) :
    (writeProperty prop).length = propertyLen prop := by
  rw [writeProperty_eq h.known, List.length_cons, length_writeValue prop.fits h.value]
  rfl

/-- **A sound property comes back.** -/
theorem reads_writeProperty {prop : MQTTProperty} (h : prop.Sound) :
    Reads readProperty (writeProperty prop) (prop, propertyLen prop) := by
  rw [writeProperty_eq h.known]
  exact (reads_next _ prop.identifier).bind
    ((reads_readValue prop.fits h.value).bind_nil (Reads.pure (prop, propertyLen prop)))

/-- **When a property comes back**: exactly if its value is sound. A negative `int`, and a longer string,
are written as something else. -/
theorem reads_writeProperty_iff (prop : MQTTProperty) (hknown : getType prop.identifier ≠ none)
    (hrange : InRange prop.value) :
    Reads readProperty (writeProperty prop) (prop, propertyLen prop) ↔
      Properties.Sound (getType prop.identifier) prop.value := by
  refine ⟨fun h => ?_, fun hsound => reads_writeProperty ⟨hknown, hsound⟩⟩
  refine sound_of_reads prop.fits hrange fun rest => ?_
  have hrun := h rest
  rw [writeProperty_eq hknown] at hrun
  obtain ⟨c, m, hchar, hvalue⟩ := run_bind_eq_ok.mp hrun
  obtain ⟨rfl, rfl⟩ := Prod.mk.inj (Except.ok.inj hchar)
  obtain ⟨⟨⟨v, hv⟩, len⟩, m', hread, hend⟩ := run_bind_eq_ok.mp hvalue
  obtain ⟨hprop, rfl⟩ := Prod.mk.inj (Except.ok.inj hend)
  obtain ⟨hval, hlen⟩ := Prod.mk.inj hprop
  obtain rfl : v = prop.value := congrArg MQTTProperty.value hval
  obtain rfl : len = valueLen (getType prop.identifier) prop.value := Nat.succ.inj hlen
  exact hread

/-- The session expiry interval of one hour comes back. -/
theorem reads_writeProperty_iff_expiry :
    Reads readProperty (writeProperty ⟨17, .integer4 3600, rfl⟩) (⟨17, .integer4 3600, rfl⟩, 5) ↔
      Properties.Sound (getType 17) (.integer4 3600) :=
  reads_writeProperty_iff ⟨17, .integer4 3600, rfl⟩ (by decide)
    (show InRange (.integer4 3600) from ⟨by decide, by decide⟩)

theorem reads_readLoop {props : List MQTTProperty} (h : ∀ prop ∈ props, prop.Sound) {fuel : ℕ}
    (hfuel : (props.map propertyLen).sum ≤ fuel) :
    Reads (readLoop fuel (props.map propertyLen).sum) (props.flatMap writeProperty) (props, 0) := by
  induction props generalizing fuel with
  | nil =>
    rcases fuel with _ | fuel
    · exact Reads.pure _
    · rw [readLoop, if_neg (by simp)]
      exact Reads.pure _
  | cons prop props ih =>
    rw [List.map_cons, List.sum_cons] at hfuel ⊢
    have hpos : 0 < propertyLen prop := Nat.succ_pos _
    obtain ⟨fuel, rfl⟩ := Nat.exists_eq_succ_of_ne_zero (show fuel ≠ 0 by omega)
    rw [readLoop, if_pos (by omega), List.flatMap_cons]
    refine (reads_writeProperty (h prop List.mem_cons_self)).bind ?_
    have hrest := ih (fun p hp => h p (List.mem_cons_of_mem _ hp)) (show (props.map propertyLen).sum ≤ fuel by omega)
    have hleft : ((propertyLen prop + (props.map propertyLen).sum : ℕ) : ℤ) - propertyLen prop =
        ((props.map propertyLen).sum : ℕ) := by
      push_cast
      omega
    simp only
    rw [hleft]
    exact hrest.bind_nil (Reads.pure _)

theorem length_flatMap_writeProperty {props : List MQTTProperty} (h : ∀ prop ∈ props, prop.Sound) :
    (props.flatMap writeProperty).length = (props.map propertyLen).sum := by
  induction props with
  | nil => rfl
  | cons prop props ih =>
    rw [List.flatMap_cons, List.length_append, length_writeProperty (h prop List.mem_cons_self),
      ih fun p hp => h p (List.mem_cons_of_mem _ hp), List.map_cons, List.sum_cons]

section
variable {props : MQTTProperties} (h : props.Counted) (hmax : props.length ≤ MAX_REMAINING_LENGTH)
include h hmax

/-- The buffer for a list is as long as what is written into it. -/
theorem length_writeProperties : ((writeProperties props).length : ℤ) = props.len := by
  unfold writeProperties MQTTProperties.len
  rw [h.length_eq] at hmax ⊢
  have hle : (props.array.map propertyLen).sum ≤ MAX_REMAINING_LENGTH := by omega
  rw [sizeOfInt_natCast hle, List.length_append, length_encode hle,
    length_flatMap_writeProperty h.sound]
  push_cast
  omega

/-- **A list of properties comes back.** -/
theorem reads_writeProperties : Reads readProperties (writeProperties props) (some props) := by
  obtain ⟨array, length⟩ := props
  have hlength := h.length_eq
  simp only at hlength
  subst hlength
  have hle : (array.map propertyLen).sum ≤ MAX_REMAINING_LENGTH := by
    simp only at hmax
    omega
  have hread : Reads (do
      let (length, _) ← decodeBuf
      let (array, remlength) ← readLoop length length
      if remlength = 0 then return some ⟨array, length⟩ else return none : Cursor (Option MQTTProperties))
      (encode (array.map propertyLen).sum ++ array.flatMap writeProperty)
      (some ⟨array, (array.map propertyLen).sum⟩) := by
    refine (reads_decodeBuf hle).bind ?_
    exact (reads_readLoop h.sound (le_refl _)).bind_nil (Reads.pure _)
  intro rest
  have hpos : 0 < (writeProperties ⟨array, (array.map propertyLen).sum⟩ ++ rest).length := by
    have hvbi := vbiLen_pos (array.map propertyLen).sum
    unfold writeProperties
    rw [sizeOfInt_natCast hle, List.length_append, List.length_append, length_encode hle]
    omega
  show readProperties _ = _
  unfold readProperties
  rw [if_pos hpos]
  unfold writeProperties
  simp only
  rw [sizeOfInt_natCast hle]
  exact hread rest

end

theorem exists_addAll {props : List MQTTProperty} (h : ∀ prop ∈ props, prop.Sound) {list : MQTTProperties}
    (hlist : list.Counted) :
    ∃ list', props.foldlM MQTTProperties.add list = some list' ∧ list'.array = list.array ++ props ∧
      list'.Counted := by
  induction props generalizing list with
  | nil => exact ⟨list, rfl, (List.append_nil _).symm, hlist⟩
  | cons prop props ih =>
    have hprop := h prop List.mem_cons_self
    obtain ⟨type, htype⟩ := Option.ne_none_iff_exists'.mp hprop.known
    have hadd : list.add prop =
        some ⟨list.array ++ [prop], list.length + (valueLen (some type) prop.value + 1)⟩ := by
      unfold MQTTProperties.add
      rw [htype]
    obtain ⟨list', hfold, harray, hcounted⟩ :=
      ih (fun p hp => h p (List.mem_cons_of_mem _ hp)) (hlist.add hprop hadd)
    refine ⟨list', ?_, ?_, hcounted⟩
    · rw [List.foldlM_cons, hadd]
      exact hfold
    · rw [harray, List.append_assoc, List.singleton_append]

/-- **Sound properties that are added to an empty list are written into exactly `MQTTProperties_len`
bytes**, and the same list is read back, whatever stands behind it. -/
theorem addAll_round_trip (props : List MQTTProperty) (h : ∀ prop ∈ props, prop.Sound) :
    ∃ list, props.foldlM MQTTProperties.add .initializer = some list ∧ list.array = props ∧
      (list.length ≤ MAX_REMAINING_LENGTH → ((writeProperties list).length : ℤ) = list.len ∧
        Reads readProperties (writeProperties list) (some list)) := by
  obtain ⟨list, hfold, harray, hcounted⟩ := exists_addAll h counted_initializer
  exact ⟨list, hfold, harray, fun hmax =>
    ⟨length_writeProperties hcounted hmax, reads_writeProperties hcounted hmax⟩⟩

/-- A session expiry interval and a user property. -/
theorem addAll_round_trip_pair :
    ∃ list, [⟨17, .integer4 3600, rfl⟩, ⟨38, .pair [97] [98], rfl⟩].foldlM MQTTProperties.add .initializer =
        some list ∧ list.array = [⟨17, .integer4 3600, rfl⟩, ⟨38, .pair [97] [98], rfl⟩] ∧
      (list.length ≤ MAX_REMAINING_LENGTH → ((writeProperties list).length : ℤ) = list.len ∧
        Reads readProperties (writeProperties list) (some list)) := by
  refine addAll_round_trip _ fun prop hprop => ?_
  rcases List.mem_pair.mp hprop with rfl | rfl
  · exact ⟨by decide, by decide, by decide⟩
  · exact ⟨by decide, by decide, by decide⟩

end OasisEdge.Mqtt.Properties
