import OasisEdge.Lib.Buffers
import OasisEdge.Lib.Hexadecimal
import OasisEdge.Shadow.State
import Mathlib.Data.List.Forall2
import Mathlib.Data.List.GetD
import Mathlib.Data.Stream.Defs

/-! # Universally unique identifiers

`TOOLS_Get_UUID` of `oasis_tools.c`, as a function of the numbers `rand` returns and of the array it
is given. Each turn of its loop prints two characters and their NUL at `p` and moves `p` behind the
characters, so that the next store overwrites the NUL; after four of the turns this is the dash.

What the turns print follows a format, a list of character classes (`uuidFormat`). The invariant of
the loop (`Filled`) is that the array starts with a text of the format up to the present turn, and
that `p` is behind it. After the last turn the format is that of a version-4 identifier
(`isUuidV4_of_format`), and the call needs all of its 37 bytes (`toolsGetUUID_isOk_iff`). -/

namespace OasisEdge.Utils.Uuid

open OasisEdge.Lib.Chars OasisEdge.Lib.Checking OasisEdge.Lib.Buffers OasisEdge.Lib.Hexadecimal
open OasisEdge.Shadow.State

abbrev LOG_LENGTH_UUID : ℕ := 37

variable {size : ℕ}

/-! ### The function -/

/-- The characters `c`, of which one starts the fourth group. -/
def variants : CString := .lit "89ab"

/-- `sprintf` at the place `p` of the array: the text and its NUL. -/
def sprintf (p : ℕ) (text : List UInt8) (buf : Vector UInt8 size) :
    Except OutOfBounds (Vector UInt8 size) :=
  storeAll p (text ++ [0]) buf

/-- What a turn of the loop prints, and the numbers `rand` has not returned yet. An index into `c`
is a `size_t`. -/
def turnText (n : ℕ) (rand : Stream' Int32) : List UInt8 × Stream' Int32 :=
  let b := rand.head % 255
  if n = 6 then (52 :: formatHex 1 (b % 15).toUInt32.toNat, rand.tail)
  else if n = 8 then
    let i := rand.tail.head.toInt64.toUInt64.toNat % variants.length
    (variants.bytes.getD i 0 :: formatHex 1 (b % 15).toUInt32.toNat, rand.tail.tail)
  else (formatHex 2 b.toUInt32.toNat, rand.tail)

/-- The state of the loop: the array, the place `p` in it, and the numbers to come. -/
structure Writer (size : ℕ) where
  buf : Vector UInt8 size
  p : ℕ
  rand : Stream' Int32

/-- One turn of the loop. -/
def uuidTurn (w : Writer size) (n : ℕ) : Except OutOfBounds (Writer size) := do
  let (text, rand) := turnText n w.rand
  let buf ← sprintf w.p text w.buf
  let p := w.p + 2
  if n = 3 ∨ n = 5 ∨ n = 7 ∨ n = 9 then
    let buf ← store p 45 buf
    .ok ⟨buf, p + 1, rand⟩
  else .ok ⟨buf, p, rand⟩

/-- `TOOLS_Get_UUID`: what it returns, the array, and the numbers to come. -/
def toolsGetUUID (rand : Stream' Int32) (buf : Vector UInt8 size) :
    Except OutOfBounds (Ret × Vector UInt8 size × Stream' Int32) := do
  let w ← (List.range 16).foldlM uuidTurn ⟨buf, 0, rand⟩
  let buf ← store w.p 0 w.buf
  .ok (.success, buf, w.rand)

/-! ### The format -/

/-- The classes of the characters of an identifier. -/
inductive CharClass
  | dash
  | hex
  | version
  | variant
deriving DecidableEq

/-- The characters of a class. -/
def CharClass.Accepts : CharClass → UInt8 → Prop
  | .dash, b => b = 45
  | .hex, b => IsLowerHex b
  | .version, b => b = 52
  | .variant, b => b ∈ variants.bytes

/-- The text is of the format. -/
abbrev Follows (fmt : List CharClass) (text : List UInt8) : Prop :=
  List.Forall₂ CharClass.Accepts fmt text

/-- The two characters of a turn. -/
def textFormat (n : ℕ) : List CharClass :=
  if n = 6 then [.version, .hex] else if n = 8 then [.variant, .hex] else [.hex, .hex]

/-- The characters of a turn. -/
def turnFormat (n : ℕ) : List CharClass :=
  textFormat n ++ if n = 3 ∨ n = 5 ∨ n = 7 ∨ n = 9 then [.dash] else []

/-- The characters of all turns. -/
def uuidFormat : List CharClass := (List.range 16).flatMap turnFormat

theorem CharClass.Accepts.isLowerHex {c : CharClass} {b : UInt8} (h : c.Accepts b)
    (hc : c ≠ .dash) : IsLowerHex b := by
  have hvariants : ∀ b ∈ variants.bytes, IsLowerHex b := by decide +kernel
  rcases c with _ | _ | _ | _
  · exact absurd rfl hc
  · exact h
  · have hb : b = 52 := h
    rw [hb]
    decide
  · exact hvariants b h

/-- No character of an identifier is the NUL. -/
theorem CharClass.Accepts.ne_zero {c : CharClass} {b : UInt8} (h : c.Accepts b) : b ≠ 0 := by
  rintro rfl
  by_cases hc : c = .dash
  · rw [hc] at h
    have hdash : (0 : UInt8) = 45 := h
    exact absurd hdash (by decide)
  · exact absurd (h.isLowerHex hc) (by decide)

theorem follows_hex {text : List UInt8} (h : ∀ b ∈ text, IsLowerHex b) :
    Follows (List.replicate text.length .hex) text := by
  induction text with
  | nil => exact .nil
  | cons b text ih =>
    rw [List.forall_mem_cons] at h
    exact .cons h.1 (ih h.2)

theorem follows_formatHex {w x : ℕ} (h : x < 16 ^ w) :
    Follows (List.replicate w .hex) (formatHex w x) := by
  have hdigits : Follows (List.replicate (formatHex w x).length .hex) (formatHex w x) :=
    follows_hex isLowerHex_formatHex
  rwa [length_formatHex h] at hdigits

/-! ### The numbers that are printed -/

/-- No number to come is negative. -/
def NonNegative (rand : Stream' Int32) : Prop := ∀ i, 0 ≤ rand.get i

theorem NonNegative.tail {rand : Stream' Int32} (h : NonNegative rand) : NonNegative rand.tail :=
  fun i => h (i + 1)

theorem mod_nonneg {r : Int32} (m : Int32) (h : 0 ≤ r) : 0 ≤ r % m := by
  rw [Int32.le_iff_toInt_le, Int32.toInt_zero] at h ⊢
  rw [Int32.toInt_mod]
  exact Int.tmod_nonneg _ h

theorem toNat_mod_lt {r m : Int32} (h : 0 ≤ r) (hm : 0 < m.toInt) :
    ((r % m).toUInt32.toNat : ℤ) < m.toInt := by
  have hmod := mod_nonneg m h
  have hlt : (r % m).toInt < m.toInt := by
    rw [Int32.toInt_mod]
    exact Int.tmod_lt_of_pos _ hm
  have hnat : (r % m).toUInt32.toNat = (r % m).toInt.toNat := Int32.toNat_toUInt32_of_le hmod
  rw [Int32.le_iff_toInt_le, Int32.toInt_zero] at hmod
  omega

/-- **What a turn prints** is of the format of its text. -/
theorem turnText_follows {rand : Stream' Int32} (n : ℕ) (h : NonNegative rand) :
    Follows (textFormat n) (turnText n rand).1 ∧ NonNegative (turnText n rand).2 := by
  have hb : 0 ≤ rand.head % 255 := mod_nonneg 255 (h 0)
  have htwo : (rand.head % 255).toUInt32.toNat < 16 ^ 2 := by
    have hlt : ((rand.head % 255).toUInt32.toNat : ℤ) < 255 := toNat_mod_lt (h 0) (by decide)
    omega
  have hone : (rand.head % 255 % 15).toUInt32.toNat < 16 ^ 1 := by
    have hlt : ((rand.head % 255 % 15).toUInt32.toNat : ℤ) < 15 := toNat_mod_lt hb (by decide)
    omega
  have hdigit := follows_formatHex hone
  unfold turnText textFormat
  split_ifs with h6 h8
  · exact ⟨.cons rfl hdigit, h.tail⟩
  · refine ⟨.cons ?_ hdigit, h.tail.tail⟩
    have hlt : ∀ k, k % variants.length < variants.bytes.length := fun k =>
      Nat.mod_lt k (by decide)
    show _ ∈ variants.bytes
    rw [List.getD_eq_getElem _ _ (hlt _)]
    exact List.getElem_mem _
  · exact ⟨follows_formatHex htwo, h.tail⟩

/-! ### The turns -/

/-- **The invariant of the loop**: the array starts with a text of the format, `p` is behind it, and
no number to come is negative. -/
structure Filled (w : Writer size) (fmt : List CharClass) : Prop where
  text : ∃ text, Follows fmt text ∧ Begins w.buf text
  p : w.p = fmt.length
  rand : NonNegative w.rand

/-- `sprintf` behind the text of a format. Its NUL is not part of what is filled in. -/
theorem sprintf_follows {fmt fmt' : List CharClass} {buf : Vector UInt8 size} {text' : List UInt8}
    (h : ∃ text, Follows fmt text ∧ Begins buf text) (h' : Follows fmt' text')
    (hroom : fmt.length + fmt'.length < size) : ∃ buf', sprintf fmt.length text' buf = .ok buf' ∧
      ∃ text, Follows (fmt ++ fmt') text ∧ Begins buf' text := by
  obtain ⟨text, htext, hbegins⟩ := h
  have hlen : fmt.length = text.length := htext.length_eq
  have hlen' : fmt'.length = text'.length := h'.length_eq
  have hnul : (text' ++ [0]).length = text'.length + 1 := by
    rw [List.length_append, List.length_singleton]
  obtain ⟨buf', hstore, hfilled⟩ := storeAll_begins (text' ++ [0]) hbegins (by omega)
  rw [← hlen] at hstore
  rw [← List.append_assoc] at hfilled
  exact ⟨buf', hstore, text ++ text', List.rel_append htext h', hfilled.left⟩

theorem store_follows {fmt : List CharClass} {c : CharClass} {b : UInt8} {buf : Vector UInt8 size}
    (h : ∃ text, Follows fmt text ∧ Begins buf text) (hb : c.Accepts b) (hroom : fmt.length < size) :
    ∃ buf', store fmt.length b buf = .ok buf' ∧
      ∃ text, Follows (fmt ++ [c]) text ∧ Begins buf' text := by
  obtain ⟨text, htext, hbegins⟩ := h
  have hlen : fmt.length = text.length := htext.length_eq
  obtain ⟨buf', hstore, hfilled⟩ := store_begins b hbegins (by omega)
  rw [← hlen] at hstore
  exact ⟨buf', hstore, text ++ [b], List.rel_append htext (.cons hb .nil), hfilled⟩

@[simp] theorem length_textFormat (n : ℕ) : (textFormat n).length = 2 := by
  unfold textFormat
  split_ifs <;> rfl

/-- **One turn** fills in its characters. -/
theorem uuidTurn_filled {w : Writer size} {fmt : List CharClass} (n : ℕ) (h : Filled w fmt)
    (hroom : fmt.length + 2 < size) :
    ∃ w', uuidTurn w n = .ok w' ∧ Filled w' (fmt ++ turnFormat n) := by
  have hturn := turnText_follows n h.rand
  have hlen : (fmt ++ textFormat n).length = fmt.length + 2 := by
    rw [List.length_append, length_textFormat]
  unfold uuidTurn turnFormat
  generalize turnText n w.rand = turn at hturn ⊢
  obtain ⟨text, rand⟩ := turn
  obtain ⟨htext, hrand⟩ := hturn
  obtain ⟨buf, hprint, hbuf⟩ := sprintf_follows h.text htext (by rwa [length_textFormat])
  rw [h.p]
  dsimp only at hprint ⊢
  rw [hprint]
  by_cases hn : n = 3 ∨ n = 5 ∨ n = 7 ∨ n = 9
  · -- the dash overwrites the NUL
    obtain ⟨buf', hstore, hbuf'⟩ := store_follows (c := .dash) hbuf rfl (by omega)
    rw [hlen] at hstore
    refine ⟨⟨buf', fmt.length + 2 + 1, rand⟩, ?_, ?_⟩
    · show (if _ then _ else _) = _
      rw [if_pos hn, hstore]
      rfl
    · rw [if_pos hn, ← List.append_assoc]
      refine ⟨hbuf', ?_, hrand⟩
      rw [List.length_append, hlen]
      rfl
  · refine ⟨⟨buf, fmt.length + 2, rand⟩, ?_, ?_⟩
    · show (if _ then _ else _) = _
      rw [if_neg hn]
    · rw [if_neg hn, List.append_nil]
      exact ⟨hbuf, hlen.symm, hrand⟩

/-- **The loop** fills in the characters of its turns. -/
theorem uuidLoop_filled {w : Writer size} {fmt : List CharClass} (ns : List ℕ) (h : Filled w fmt)
    (hroom : (fmt ++ ns.flatMap turnFormat).length < size) :
    ∃ w', ns.foldlM uuidTurn w = .ok w' ∧ Filled w' (fmt ++ ns.flatMap turnFormat) := by
  induction ns generalizing w fmt with
  | nil => exact ⟨w, rfl, by rwa [List.flatMap_nil, List.append_nil]⟩
  | cons n ns ih =>
    rw [List.flatMap_cons, ← List.append_assoc] at hroom ⊢
    have hturn : fmt.length + 2 < size := by
      rw [turnFormat, List.length_append, List.length_append, List.length_append,
        length_textFormat] at hroom
      omega
    obtain ⟨w₁, hstep, h₁⟩ := uuidTurn_filled n h hturn
    obtain ⟨w₂, hrest, h₂⟩ := ih h₁ hroom
    refine ⟨w₂, ?_, h₂⟩
    rw [List.foldlM_cons, hstep]
    exact hrest

/-- `p` moves over the characters of the turn. -/
theorem uuidTurn_p {w w' : Writer size} {n : ℕ} (h : uuidTurn w n = .ok w') :
    w'.p = w.p + (turnFormat n).length := by
  unfold uuidTurn at h
  generalize turnText n w.rand = turn at h
  obtain ⟨text, rand⟩ := turn
  obtain ⟨buf, -, h⟩ := bind_eq_ok.mp h
  rw [turnFormat, List.length_append, length_textFormat]
  by_cases hn : n = 3 ∨ n = 5 ∨ n = 7 ∨ n = 9
  · rw [if_pos hn] at h ⊢
    obtain ⟨buf', -, h⟩ := bind_eq_ok.mp h
    rw [← Except.ok.inj h]
    rfl
  · rw [if_neg hn] at h ⊢
    rw [← Except.ok.inj h]
    rfl

theorem uuidLoop_p {w w' : Writer size} {ns : List ℕ} (h : ns.foldlM uuidTurn w = .ok w') :
    w'.p = w.p + (ns.flatMap turnFormat).length := by
  induction ns generalizing w with
  | nil =>
    obtain rfl := Except.ok.inj h
    rfl
  | cons n ns ih =>
    rw [List.foldlM_cons] at h
    obtain ⟨w₁, hstep, h⟩ := bind_eq_ok.mp h
    have hfirst := uuidTurn_p hstep
    have hrest := ih h
    rw [List.flatMap_cons, List.length_append]
    omega

/-! ### The identifier -/

theorem length_uuidFormat : uuidFormat.length = 36 := by decide

/-- **The array after the call**: a text of the format and its NUL, if there is room for them. -/
theorem toolsGetUUID_follows {rand : Stream' Int32} (h : NonNegative rand) (buf : Vector UInt8 size)
    (hsize : LOG_LENGTH_UUID ≤ size) :
    ∃ buf' rand' text, toolsGetUUID rand buf = .ok (.success, buf', rand') ∧
      Follows uuidFormat text ∧ Begins buf' (text ++ [0]) := by
  have hstart : Filled ⟨buf, 0, rand⟩ [] := ⟨⟨[], .nil, begins_nil buf⟩, rfl, h⟩
  have hroom : ([] ++ uuidFormat).length < size := by
    rw [List.nil_append, length_uuidFormat]
    exact hsize
  obtain ⟨w, hloop, hw⟩ := uuidLoop_filled (List.range 16) hstart hroom
  obtain ⟨text, htext, hbegins⟩ := hw.text
  have hp : w.p = text.length := hw.p.trans htext.length_eq
  have hlen : text.length = 36 := htext.length_eq.symm.trans length_uuidFormat
  have h36 : 36 < size := hsize
  obtain ⟨buf', hstore, hbuf'⟩ := store_begins 0 hbegins (by omega)
  rw [← hp] at hstore
  refine ⟨buf', w.rand, text, ?_, htext, hbuf'⟩
  unfold toolsGetUUID
  rw [hloop]
  show (store w.p 0 w.buf >>= _) = _
  rw [hstore]
  rfl

/-- **How long the array has to be**: the stores of the call lie within it exactly if it has at
least 37 bytes. -/
theorem toolsGetUUID_isOk_iff {rand : Stream' Int32} (h : NonNegative rand)
    (buf : Vector UInt8 size) :
    (∃ r, toolsGetUUID rand buf = .ok r) ↔ LOG_LENGTH_UUID ≤ size := by
  constructor
  · rintro ⟨r, hr⟩
    obtain ⟨w, hloop, hr⟩ := bind_eq_ok.mp hr
    obtain ⟨buf', hstore, -⟩ := bind_eq_ok.mp hr
    have hp : w.p = 0 + uuidFormat.length := uuidLoop_p hloop
    have hlt := store_lt hstore
    rw [hp, length_uuidFormat] at hlt
    exact hlt
  · intro hsize
    obtain ⟨buf', rand', -, hcall, -⟩ := toolsGetUUID_follows h buf hsize
    exact ⟨_, hcall⟩

/-- The places of the dashes. -/
def dashPlaces : List ℕ := [8, 13, 18, 23]

/-- **A version-4 identifier**: 36 characters, dashes at their places and lower-case hexadecimal
digits elsewhere, among them the version and the variant. -/
structure IsUuidV4 (s : CString) : Prop where
  length : s.length = 36
  dash : ∀ i ∈ dashPlaces, s.bytes[i]? = some 45
  hex : ∀ i b, s.bytes[i]? = some b → i ∉ dashPlaces → IsLowerHex b
  version : s.bytes[14]? = some 52
  variant : ∃ b ∈ variants.bytes, s.bytes[19]? = some b

theorem Follows.accepts {fmt : List CharClass} {text : List UInt8} (h : Follows fmt text) {i : ℕ}
    {c : CharClass} (hc : fmt[i]? = some c) : ∃ b, text[i]? = some b ∧ c.Accepts b := by
  obtain ⟨hlt, rfl⟩ := List.getElem?_eq_some_iff.mp hc
  have hlt' : i < text.length := h.length_eq ▸ hlt
  exact ⟨text[i], List.getElem?_eq_getElem hlt', h.get hlt hlt'⟩

theorem Follows.ne_zero {fmt : List CharClass} {text : List UInt8} (h : Follows fmt text) :
    ∀ b ∈ text, b ≠ 0 := by
  induction h with
  | nil => intro b hb; cases hb
  | cons hacc _ ih =>
    rw [List.forall_mem_cons]
    exact ⟨hacc.ne_zero, ih⟩

/-- **A text of the format is a version-4 identifier.** -/
theorem isUuidV4_of_format {s : CString} (h : Follows uuidFormat s.bytes) : IsUuidV4 s where
  length := h.length_eq.symm.trans length_uuidFormat
  dash := by
    intro i hi
    have hall : ∀ i ∈ dashPlaces, uuidFormat[i]? = some .dash := by decide
    obtain ⟨b, hb, hdash⟩ := Follows.accepts h (hall i hi)
    rw [hb, show b = 45 from hdash]
  hex := by
    intro i b hb hi
    have hall : ∀ i < 36, i ∉ dashPlaces → uuidFormat[i]? ≠ some .dash := by decide
    have hlen := h.length_eq.symm.trans length_uuidFormat
    obtain ⟨hlt, -⟩ := List.getElem?_eq_some_iff.mp hb
    have hi' : i < uuidFormat.length := by rw [length_uuidFormat]; omega
    obtain ⟨b', hb', hacc⟩ := Follows.accepts h (List.getElem?_eq_getElem hi')
    obtain rfl := Option.some.inj (hb.symm.trans hb')
    refine hacc.isLowerHex fun hdash => hall i (by omega) hi ?_
    rw [List.getElem?_eq_getElem hi', hdash]
  version := by
    obtain ⟨b, hb, hversion⟩ := Follows.accepts h (i := 14) (c := .version) (by decide)
    rw [hb, show b = 52 from hversion]
  variant := by
    obtain ⟨b, hb, hvariant⟩ := Follows.accepts h (i := 19) (c := .variant) (by decide)
    exact ⟨b, hvariant, hb⟩

/-- What an array is read as that starts with a text and its NUL. -/
theorem bytes_ofBytes_begins {buf : Vector UInt8 size} {text : List UInt8}
    (h : Begins buf (text ++ [0])) (hnul : ∀ b ∈ text, b ≠ 0) :
    (CString.ofBytes buf.toList).bytes = text := by
  obtain ⟨rest, hrest⟩ := h
  have hmem : (0 : UInt8) ∈ text ++ [0] := by simp
  have hnot : (0 : UInt8) ∉ text := fun h0 => hnul 0 h0 rfl
  rw [← hrest, CString.ofBytes_append_of_nul hmem, CString.bytes_ofBytes_append hnot]
  exact List.append_nil text

/-- An array that starts with a text of the format and its NUL holds an identifier. -/
theorem isUuidV4_of_begins {buf : Vector UInt8 size} {text : List UInt8}
    (htext : Follows uuidFormat text) (h : Begins buf (text ++ [0])) :
    IsUuidV4 (.ofBytes buf.toList) := by
  have hbytes := bytes_ofBytes_begins h (Follows.ne_zero htext)
  exact isUuidV4_of_format (by rwa [hbytes])

/-- **`TOOLS_Get_UUID` builds a version-4 identifier in its array**: for all numbers that are not
negative, its stores lie within the 37 bytes, and these are then the identifier and its NUL. -/
theorem toolsGetUUID_isUuidV4 {rand : Stream' Int32} (h : ∀ i, 0 ≤ rand.get i)
    (buf : Vector UInt8 LOG_LENGTH_UUID) :
    ∃ buf' rand', toolsGetUUID rand buf = .ok (.success, buf', rand') ∧
      IsUuidV4 (.ofBytes buf'.toList) ∧ buf'.toList[36]? = some 0 := by
  obtain ⟨buf', rand', text, hcall, htext, hbegins⟩ := toolsGetUUID_follows h buf le_rfl
  have hlen : text.length = 36 := htext.length_eq.symm.trans length_uuidFormat
  have hall : buf'.toList = text ++ [0] :=
    hbegins.toList_eq (by rw [List.length_append, hlen]; rfl)
  refine ⟨buf', rand', hcall, isUuidV4_of_begins htext hbegins, ?_⟩
  rw [hall, ← hlen]
  exact List.getElem?_concat_length

/-- With a generator that always returns 0. -/
theorem toolsGetUUID_isUuidV4_zeros :
    ∃ buf' rand', toolsGetUUID (Stream'.const 0) (.replicate LOG_LENGTH_UUID 0) =
      .ok (.success, buf', rand') ∧ IsUuidV4 (.ofBytes buf'.toList) ∧ buf'.toList[36]? = some 0 :=
  toolsGetUUID_isUuidV4 (fun _ => Int32.le_refl 0) _

/-- The identifier of a generator that always returns 254. -/
example : (toolsGetUUID (Stream'.const 254) (.replicate LOG_LENGTH_UUID 0)).map
      (fun r => CString.ofBytes r.2.1.toList) =
    .ok (.lit "fefefefe-fefe-4efe-aefe-fefefefefefe") := by
  decide +kernel

end OasisEdge.Utils.Uuid
