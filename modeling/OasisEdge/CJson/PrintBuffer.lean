import OasisEdge.CJson.RoundTrip
import OasisEdge.Lib.Attempts
import OasisEdge.Lib.Buffers

/-! # The print buffer

`cJSON_Print` writes into a block that grows on demand. Each piece of the text is preceded by a call
of `ensure` with the room it takes, and the offset follows behind: it stands on the start of the value
printed last until `update_offset` moves it to the terminating NUL.

A store outside the block is an error of its own here (`outOfBounds`). It never happens
(`printValueTo_printed`), whatever the allocator does and whatever the block held before. What is
printed is the text of `Print`, and it is printed exactly if the text and two more bytes fit: one for
the NUL and one that `ensure` always asks for on top. -/

namespace OasisEdge.CJson.PrintBuffer

open OasisEdge.Lib.Chars OasisEdge.Lib.Doubles OasisEdge.Lib.Nearest OasisEdge.Lib.Hexadecimal
open OasisEdge.Lib.Attempts OasisEdge.Lib.Buffers
open OasisEdge.CJson.Value OasisEdge.CJson.Numbers OasisEdge.CJson.Print OasisEdge.CJson.RoundTrip
open OasisEdge.CJson.Parse

/-! ### The buffer -/

/-- `INT_MAX` as a size. -/
def intMax : ℕ := INT_MAX.toNat

/-- `printbuffer`, with its block of `length` bytes. -/
structure Printbuffer where
  length : ℕ
  buffer : Vector UInt8 length
  offset : ℕ
  depth : ℕ
  noalloc : Bool
  format : Bool

/-- Why printing ends early: it gives up, or it would leave the block. -/
inductive Stop
  | failed
  | outOfBounds (e : OutOfBounds)

/-- The function `reallocate` of the hooks. It may give nothing; a block it gives starts as the old
one does. The blocks of one text only grow, so this covers an allocator that fails at some calls. -/
structure Reallocate where
  run : {n : ℕ} → Vector UInt8 n → (m : ℕ) → Option (Vector UInt8 m)
  keeps : ∀ {n m : ℕ} {v : Vector UInt8 n} {w : Vector UInt8 m}, run v m = some w →
    Begins w (v.toList.take m)

/-- It never gives nothing. -/
def Reallocate.Total (r : Reallocate) : Prop := ∀ {n : ℕ} (v : Vector UInt8 n) (m : ℕ), r.run v m ≠ none

/-- An allocator that always gives a block, with zeros behind the old bytes. -/
def Reallocate.zeros : Reallocate where
  run v m := some (.ofFn fun i => v.toList.getD i 0)
  keeps := by
    intro n m v w h
    obtain rfl := Option.some.inj h
    unfold Begins
    rw [List.prefix_iff_getElem?]
    intro i hi
    rw [List.length_take] at hi
    have hm : i < m := by omega
    have hn : i < v.toList.length := by omega
    rw [Vector.getElem?_toList, Vector.getElem?_eq_getElem hm, Vector.getElem_ofFn, List.getElem_take,
      List.getD_eq_getElem?_getD, List.getElem?_eq_getElem hn, Option.getD_some]

/-- The growing part of `ensure`. -/
def grow (r : Reallocate) (newsize : ℕ) (p : Printbuffer) : Except Stop Printbuffer :=
  match r.run p.buffer newsize with
  | none => .error .failed
  | some b => .ok { p with length := newsize, buffer := b }

def ensure (r : Reallocate) (needed : ℕ) (p : Printbuffer) : Except Stop Printbuffer :=
  if 0 < p.length ∧ p.length ≤ p.offset then .error .failed
  else if intMax < needed then .error .failed
  else if needed + p.offset + 1 ≤ p.length then .ok p
  else if p.noalloc then .error .failed
  else if intMax / 2 < needed + p.offset + 1 then
    if needed + p.offset + 1 ≤ intMax then grow r intMax p else .error .failed
  else grow r ((needed + p.offset + 1) * 2) p

/-- Stores into the block. -/
def Printbuffer.storing (p : Printbuffer)
    (f : Vector UInt8 p.length → Except OutOfBounds (Vector UInt8 p.length)) :
    Except Stop Printbuffer :=
  match f p.buffer with
  | .error e => .error (.outOfBounds e)
  | .ok b => .ok { p with buffer := b }

/-- Room for `needed` bytes, the characters `l` into it, and the offset `k` further. -/
def write (r : Reallocate) (needed : ℕ) (l : List UInt8) (k : ℕ) (p : Printbuffer) :
    Except Stop Printbuffer := do
  let p ← ensure r needed p
  let p ← p.storing (storeAll p.offset l)
  return { p with offset := p.offset + k }

def updateOffset (p : Printbuffer) : Except Stop Printbuffer :=
  match (p.buffer.toList.drop p.offset).idxOf? 0 with
  | none => .error (.outOfBounds ⟨p.length⟩)
  | some n => .ok { p with offset := p.offset + n }

/-! ### Numbers and strings -/

/-- `print_number`. -/
def printNumberTo (r : Reallocate) (d : Double) (p : Printbuffer) : Except Stop Printbuffer :=
  let numberBuffer := printNumber d
  if 25 < numberBuffer.length then .error .failed
  else write r (numberBuffer.length + 1) (numberBuffer ++ [0]) numberBuffer.length p

/-- What the first loop of `print_string_ptr` counts for a character. -/
def escapeCount (c : UInt8) : ℕ :=
  if c = 34 ∨ c = 92 ∨ c = 8 ∨ c = 12 ∨ c = 10 ∨ c = 13 ∨ c = 9 then 1
  else if c < 32 then 5
  else 0

/-- What the second loop stores for a character: `sprintf` ends its text with a NUL. -/
def escapeStores (c : UInt8) : List UInt8 :=
  if escapeCount c = 5 then escapeChar c ++ [0] else escapeChar c

/-- The second loop of `print_string_ptr`, from the place `i` on. -/
def copyEscaped {n : ℕ} : List UInt8 → ℕ → Vector UInt8 n → Except OutOfBounds (Vector UInt8 n)
  | [], _, buf => .ok buf
  | c :: cs, i, buf => do
    let buf ← storeAll i (escapeStores c) buf
    copyEscaped cs (i + (escapeChar c).length) buf

/-- `print_string_ptr`. -/
def printStringPtrTo (r : Reallocate) (input : CString) (p : Printbuffer) :
    Except Stop Printbuffer := do
  let escapeCharacters := (input.bytes.map escapeCount).sum
  let outputLength := input.bytes.length + escapeCharacters
  let p ← ensure r (outputLength + 3) p
  if escapeCharacters = 0 then p.storing (storeAll p.offset (34 :: input.bytes ++ [34, 0]))
  else
    p.storing fun buf => do
      let buf ← store p.offset 34 buf
      let buf ← copyEscaped input.bytes (p.offset + 1) buf
      storeAll (p.offset + (outputLength + 1)) [34, 0] buf

/-! ### Values -/

/-- The length of a piece with one more character in formatted text. -/
def pieceLength (format : Bool) : ℕ := if format then 2 else 1

/-- What `print_array` writes between two elements. -/
def comma (r : Reallocate) (last : Prop) [Decidable last] (p : Printbuffer) :
    Except Stop Printbuffer :=
  if last then .ok p
  else write r (pieceLength p.format + 1) (44 :: formatted p.format [32] ++ [0])
    (pieceLength p.format) p

/-- What `print_object` writes before a member. -/
def indent (r : Reallocate) (p : Printbuffer) : Except Stop Printbuffer :=
  if p.format then write r p.depth (tabs p.depth) p.depth p else .ok p

/-- What `print_object` writes behind a member. -/
def lineEnd (r : Reallocate) (last : Prop) [Decidable last] (p : Printbuffer) :
    Except Stop Printbuffer :=
  let length := (if p.format then 1 else 0) + (if last then 0 else 1)
  write r (length + 1) ((if last then [] else [44]) ++ formatted p.format [10] ++ [0]) length p

mutual

/-- `print_value`, with `print_array` and `print_object`. -/
def printValueTo (r : Reallocate) : Json → Printbuffer → Except Stop Printbuffer
  | .null, p => write r 5 [110, 117, 108, 108, 0] 0 p
  | .bool false, p => write r 6 [102, 97, 108, 115, 101, 0] 0 p
  | .bool true, p => write r 5 [116, 114, 117, 101, 0] 0 p
  | .num d, p => printNumberTo r d p
  | .str s, p => printStringPtrTo r s p
  | .arr items, p => do
    let p ← write r 1 [91] 1 p
    let p ← printItemsTo r items { p with depth := p.depth + 1 }
    let p ← write r 2 [93, 0] 0 p
    return { p with depth := p.depth - 1 }
  | .obj members, p => do
    let length := pieceLength p.format
    let p ← write r (length + 1) (123 :: formatted p.format [10]) length p
    let p ← printMembersTo r members { p with depth := p.depth + 1 }
    let p ← write r (if p.format then p.depth + 1 else 2)
      (formatted p.format (tabs (p.depth - 1)) ++ [125, 0]) 0 p
    return { p with depth := p.depth - 1 }

/-- The loop of `print_array`. -/
def printItemsTo (r : Reallocate) : List Json → Printbuffer → Except Stop Printbuffer
  | [], p => .ok p
  | x :: xs, p => do
    let p ← printValueTo r x p
    let p ← updateOffset p
    let p ← comma r (xs = []) p
    printItemsTo r xs p

/-- The loop of `print_object`. -/
def printMembersTo (r : Reallocate) : List (CString × Json) → Printbuffer →
    Except Stop Printbuffer
  | [], p => .ok p
  | (k, x) :: ms, p => do
    let p ← indent r p
    let p ← printStringPtrTo r k p
    let p ← updateOffset p
    let length := pieceLength p.format
    let p ← write r length (58 :: formatted p.format [9]) length p
    let p ← printValueTo r x p
    let p ← updateOffset p
    let p ← lineEnd r (ms = []) p
    printMembersTo r ms p

end

/-! ### The calls -/

/-- The static `print`, with the block `allocate` gives first: the text and its NUL. -/
def print (r : Reallocate) (allocated : Option (Vector UInt8 256)) (format : Bool) (item : Json) :
    Except Stop (List UInt8) :=
  match allocated with
  | none => .error .failed
  | some buffer => do
    let p ← printValueTo r item ⟨256, buffer, 0, 0, false, format⟩
    let p ← updateOffset p
    match r.run p.buffer (p.offset + 1) with
    | none => .error .failed
    | some printed => .ok printed.toList

/-- `cJSON_PrintBuffered`, with a first block of `prebuffer` bytes. -/
def cjsonPrintBuffered (r : Reallocate) {prebuffer : ℕ} (allocated : Option (Vector UInt8 prebuffer))
    (fmt : Bool) (item : Json) : Except Stop (List UInt8) :=
  match allocated with
  | none => .error .failed
  | some buffer => do
    let p ← printValueTo r item ⟨prebuffer, buffer, 0, 0, false, fmt⟩
    return p.buffer.toList

/-- `cJSON_PrintPreallocated`: the block of the caller, of `len` bytes. -/
def cjsonPrintPreallocated (r : Reallocate) {len : ℕ} (buf : Vector UInt8 len) (fmt : Bool)
    (item : Json) : Except Stop (List UInt8) := do
  let p ← printValueTo r item ⟨len, buf, 0, 0, true, fmt⟩
  return p.buffer.toList

/-! ### What a buffer holds -/

/-- What printing a value leaves alone. -/
structure Settings where
  noalloc : Bool
  format : Bool
  depth : ℕ
  limit : ℕ

/-- The settings of a buffer: its block can grow up to `INT_MAX`, or not at all. -/
def Printbuffer.settings (p : Printbuffer) : Settings :=
  ⟨p.noalloc, p.format, p.depth, if p.noalloc then p.length else intMax⟩

/-- The settings one level deeper. -/
def Settings.down (c : Settings) : Settings := { c with depth := c.depth + 1 }

/-- The block starts with `text`, and the offset is `offset`. -/
structure Holds (c : Settings) (text : List UInt8) (offset : ℕ) (p : Printbuffer) : Prop where
  settings : p.settings = c
  begins : Begins p.buffer text
  offset_eq : p.offset = offset
  valid : 0 < p.length → offset < p.length
  length_le : p.length ≤ intMax

/-- The offset stands behind `text`. -/
abbrev At (c : Settings) (text : List UInt8) (p : Printbuffer) : Prop := Holds c text text.length p

/-- The block has `text` and its NUL, and one byte more; the offset stands somewhere in `text`, with
no NUL from there on. -/
structure Printed (c : Settings) (text : List UInt8) (p : Printbuffer) : Prop where
  offset_le : p.offset ≤ text.length
  noNul : ∀ b ∈ text.drop p.offset, b ≠ 0
  room : text.length + 2 ≤ p.length
  holds : Holds c (text ++ [0]) p.offset p

/-- The allocator gives `b` bytes, as far as it is needed. -/
def Granted (r : Reallocate) (c : Settings) (b : ℕ) : Prop :=
  (c.noalloc = true ∨ r.Total) ∧ b ≤ c.limit

section
variable {r : Reallocate} {c : Settings} {text l : List UInt8} {o needed k b b' : ℕ} {p : Printbuffer}

theorem Granted.le (h : Granted r c b) (hle : b' ≤ b) : Granted r c b' :=
  ⟨h.1, hle.trans h.2⟩

theorem Begins.length_le {n : ℕ} {buf : Vector UInt8 n} (h : Begins buf l) : l.length ≤ n := by
  have hle := List.IsPrefix.length_le h
  rwa [Vector.length_toList] at hle

theorem Holds.length_le_limit (h : Holds c text o p) : p.length ≤ c.limit := by
  rw [← h.settings]
  unfold Printbuffer.settings
  simp only
  split_ifs
  · exact le_refl _
  · exact h.length_le

theorem grow_holds {m : ℕ} (h : Holds c text o p) (halloc : p.noalloc = false)
    (hlt : p.length < m) (ho : o < m) (hm : m ≤ intMax) :
    Attempt .failed (Granted r c b) (fun p' => Holds c text o p' ∧ p'.length = m) (grow r m p) := by
  unfold grow
  rcases hrun : r.run p.buffer m with _ | w
  · refine .of_stop rfl fun hgranted => ?_
    have hno : c.noalloc = false := by
      rw [← h.settings]
      exact halloc
    rcases hgranted.1 with hc | htotal
    · rw [hno] at hc
      cases hc
    · exact htotal _ _ hrun
  · refine .of_ok rfl ⟨⟨?_, ?_, h.offset_eq, fun _ => ho, hm⟩, rfl⟩
    · rw [← h.settings]
      unfold Printbuffer.settings
      simp only [halloc, Bool.false_eq_true, if_false]
    · have hlen := Begins.length_le h.begins
      have htake : text <+: p.buffer.toList.take m := by
        rw [List.take_of_length_le (by rw [Vector.length_toList]; omega)]
        exact h.begins
      exact htake.trans (r.keeps hrun)

theorem ensure_holds (h : Holds c text o p) :
    Attempt .failed (Granted r c (o + needed + 1))
      (fun p' => Holds c text o p' ∧ o + needed + 1 ≤ p'.length) (ensure r needed p) := by
  have hoffset := h.offset_eq
  have hlimit := h.length_le_limit
  have hmax := h.length_le
  have hset : p.settings.limit = c.limit := by rw [h.settings]
  unfold Printbuffer.settings at hset
  simp only at hset
  unfold ensure
  rw [if_neg (by rintro ⟨hpos, hle⟩; have := h.valid hpos; omega)]
  have hbound : c.limit ≤ intMax := by
    rw [← hset]
    split_ifs
    · exact hmax
    · exact le_refl _
  by_cases hbig : intMax < needed
  · rw [if_pos hbig]
    refine .of_stop rfl fun hg => ?_
    have := hg.2
    omega
  rw [if_neg hbig]
  by_cases hfits : needed + p.offset + 1 ≤ p.length
  · rw [if_pos hfits]
    exact .of_ok rfl ⟨h, by omega⟩
  rw [if_neg hfits]
  by_cases halloc : p.noalloc = true
  · rw [if_pos halloc]
    rw [if_pos halloc] at hset
    refine .of_stop rfl fun hg => ?_
    have := hg.2
    omega
  rw [if_neg halloc]
  rw [if_neg halloc] at hset
  have halloc' : p.noalloc = false := Bool.eq_false_iff.mpr halloc
  by_cases hhalf : intMax / 2 < needed + p.offset + 1
  · rw [if_pos hhalf]
    by_cases hle : needed + p.offset + 1 ≤ intMax
    · rw [if_pos hle]
      refine (grow_holds h halloc' (by omega) (by omega) (le_refl _)).mono (fun p' hp' => ?_) id
      exact ⟨hp'.1, by omega⟩
    · rw [if_neg hle]
      refine .of_stop rfl fun hg => ?_
      have := hg.2
      omega
  · rw [if_neg hhalf]
    refine (grow_holds h halloc' (by omega) (by omega) (by omega)).mono (fun p' hp' => ?_) id
    exact ⟨hp'.1, by omega⟩

theorem write_holds (h : At c text p) (hl : l.length ≤ needed + 1) (hk : k ≤ needed) :
    Attempt .failed (Granted r c (text.length + needed + 1))
      (fun p' => Holds c (text ++ l) (text.length + k) p' ∧ text.length + needed + 1 ≤ p'.length)
      (write r needed l k p) := by
  refine (ensure_holds h).bind (fun p₁ ⟨h₁, hroom⟩ => ?_) id
  have hlen : text.length + l.length ≤ p₁.length := by omega
  obtain ⟨buf, hstore, hbegins⟩ := storeAll_begins l h₁.begins hlen
  have hput : p₁.storing (storeAll p₁.offset l) = .ok { p₁ with buffer := buf } := by
    unfold Printbuffer.storing
    rw [h₁.offset_eq, hstore]
  rw [hput]
  refine .of_ok rfl ⟨⟨h₁.settings, hbegins, ?_, fun _ => ?_, h₁.length_le⟩, hroom⟩
  · change p₁.offset + k = _
    rw [h₁.offset_eq]
  · change _ < p₁.length
    omega

/-- **A piece of text** that moves the offset behind it. -/
theorem write_at (h : At c text p) (hl : l.length ≤ needed) (hk : k = l.length) :
    Attempt .failed (Granted r c (text.length + needed + 1)) (At c (text ++ l))
      (write r needed l k p) := by
  refine (write_holds h (by omega) (by omega)).mono (fun p' hp' => ?_) id
  unfold At
  rw [List.length_append, ← hk]
  exact hp'.1

theorem write_nul_at (h : At c text p) (hl : l.length ≤ needed) (hk : k = l.length) :
    Attempt .failed (Granted r c (text.length + needed + 1)) (At c (text ++ l))
      (write r needed (l ++ [0]) k p) := by
  have hlen : (l ++ [0]).length = l.length + 1 := by rw [List.length_append, List.length_singleton]
  refine (write_holds h (by omega) (by omega)).mono (fun p' hp' => ?_) id
  have hbegins := hp'.1.begins
  rw [← List.append_assoc] at hbegins
  have hvalid := hp'.1.valid
  refine ⟨hp'.1.settings, hbegins.left, ?_, ?_, hp'.1.length_le⟩
  · rw [hp'.1.offset_eq, List.length_append, hk]
  · rw [List.length_append, ← hk]
    exact hvalid

/-- **The end of a value**: its last piece, with the NUL. -/
theorem write_printed {m : List UInt8} (h : At c (text ++ m) p) (hl : l.length + 1 = needed)
    (hpre : k ≤ l.length) (hnul : ∀ b ∈ l, b ≠ 0) :
    Attempt .failed (Granted r c ((text ++ (m ++ l)).length + 2)) (Printed c (text ++ (m ++ l)))
      (write r needed (l ++ [0]) k p) := by
  have hlen : (l ++ [0]).length = l.length + 1 := by rw [List.length_append, List.length_singleton]
  have htotal : (text ++ (m ++ l)).length = (text ++ m).length + l.length := by
    rw [← List.append_assoc, List.length_append]
  refine (write_holds h (by omega) (by omega)).mono (fun p' hp' => ?_) fun hg => hg.le (by omega)
  obtain ⟨hp', hroom⟩ := hp'
  have hoffset := hp'.offset_eq
  refine ⟨by omega, ?_, by omega, ⟨hp'.settings, ?_, rfl, ?_, hp'.length_le⟩⟩
  · rw [hoffset, ← List.append_assoc, List.drop_length_add_append]
    exact fun b hb => hnul b (List.mem_of_mem_drop hb)
  · have hbegins := hp'.begins
    rwa [← List.append_assoc, List.append_assoc text] at hbegins
  · rw [hoffset]
    exact hp'.valid

/-- `strlen` of characters before a NUL. -/
theorem idxOf?_nul {rest : List UInt8} (h : ∀ b ∈ l, b ≠ 0) :
    (l ++ 0 :: rest).idxOf? 0 = some l.length := by
  induction l with
  | nil => rw [List.nil_append, List.idxOf?_cons, if_pos (beq_self_eq_true _), List.length_nil]
  | cons b l ih =>
    have hb : ¬ (b == 0) = true := by
      rw [beq_iff_eq]
      exact h b List.mem_cons_self
    rw [List.cons_append, List.idxOf?_cons, if_neg hb,
      ih fun b' hb' => h b' (List.mem_cons_of_mem _ hb')]
    rfl

theorem updateOffset_at (h : Printed c text p) :
    ∃ p', updateOffset p = .ok p' ∧ At c text p' ∧ p'.length = p.length ∧
      Begins p'.buffer (text ++ [0]) := by
  have hle := h.offset_le
  have hroom := h.room
  obtain ⟨rest, hrest⟩ := h.holds.begins
  have hdrop : p.buffer.toList.drop p.offset = text.drop p.offset ++ 0 :: rest := by
    rw [← hrest, List.append_assoc, List.drop_append_of_le_length hle]
    rfl
  have hidx : (p.buffer.toList.drop p.offset).idxOf? 0 = some (text.length - p.offset) := by
    rw [hdrop, idxOf?_nul h.noNul, List.length_drop]
  refine ⟨{ p with offset := p.offset + (text.length - p.offset) }, ?_, ?_, rfl, h.holds.begins⟩
  · unfold updateOffset
    rw [hidx]
  · refine ⟨h.holds.settings, h.holds.begins.left, ?_, fun _ => ?_, h.holds.length_le⟩
    · change p.offset + (text.length - p.offset) = _
      omega
    · change _ < p.length
      omega

/-! ### Strings and numbers -/

/-- The two loops of `print_string_ptr` agree on what is escaped. -/
theorem escapeCount_cases (c : UInt8) :
    (escapeCount c = 0 ∧ escapeChar c = [c]) ∨ (escapeCount c = 1 ∧ ∃ e, escapeChar c = [92, e]) ∨
      (escapeCount c = 5 ∧ escapeChar c = 92 :: 117 :: formatHex 4 c.toNat ∧ c.toNat < 32) := by
  have h31 : (31 : UInt8).toNat = 31 := rfl
  have h32 : (32 : UInt8).toNat = 32 := rfl
  unfold escapeChar
  split_ifs with h0 h1 h2 h3 h4 h5 h6 h7
  · refine Or.inl ⟨?_, rfl⟩
    obtain ⟨hlt, h34, h92⟩ := h0
    rw [UInt8.lt_iff_toNat_lt] at hlt
    unfold escapeCount
    rw [if_neg, if_neg]
    · rw [UInt8.lt_iff_toNat_lt]
      omega
    · rintro (rfl | rfl | rfl | rfl | rfl | rfl | rfl)
      · exact h34 rfl
      · exact h92 rfl
      all_goals exact absurd hlt (by decide)
  · subst h1; exact Or.inr (Or.inl ⟨rfl, _, rfl⟩)
  · subst h2; exact Or.inr (Or.inl ⟨rfl, _, rfl⟩)
  · subst h3; exact Or.inr (Or.inl ⟨rfl, _, rfl⟩)
  · subst h4; exact Or.inr (Or.inl ⟨rfl, _, rfl⟩)
  · subst h5; exact Or.inr (Or.inl ⟨rfl, _, rfl⟩)
  · subst h6; exact Or.inr (Or.inl ⟨rfl, _, rfl⟩)
  · subst h7; exact Or.inr (Or.inl ⟨rfl, _, rfl⟩)
  · have hle : ¬ (31 : UInt8) < c := fun h => h0 ⟨h, h2, h1⟩
    rw [UInt8.lt_iff_toNat_lt] at hle
    refine Or.inr (Or.inr ⟨?_, rfl, by omega⟩)
    unfold escapeCount
    rw [if_neg, if_pos]
    · rw [UInt8.lt_iff_toNat_lt]
      omega
    · rintro (h | h | h | h | h | h | h)
      · exact h2 h
      · exact h1 h
      · exact h3 h
      · exact h4 h
      · exact h5 h
      · exact h6 h
      · exact h7 h

theorem length_escapeChar (c : UInt8) : (escapeChar c).length = 1 + escapeCount c := by
  rcases escapeCount_cases c with ⟨hn, hc⟩ | ⟨hn, e, hc⟩ | ⟨hn, hc, hlt⟩
  · rw [hn, hc, List.length_singleton]
  · rw [hn, hc, List.length_cons, List.length_singleton]
  · rw [hn, hc, List.length_cons, List.length_cons, length_formatHex (by omega)]

theorem length_flatMap_escapeChar (cs : List UInt8) :
    (cs.flatMap escapeChar).length = cs.length + (cs.map escapeCount).sum := by
  induction cs with
  | nil => rfl
  | cons c cs ih =>
    rw [List.flatMap_cons, List.length_append, length_escapeChar, ih, List.map_cons, List.sum_cons,
      List.length_cons]
    omega

theorem copyEscaped_begins {n : ℕ} {buf : Vector UInt8 n} (cs : List UInt8) (h : Begins buf l)
    (hroom : l.length + (cs.flatMap escapeChar).length + 1 ≤ n) :
    ∃ buf', copyEscaped cs l.length buf = .ok buf' ∧ Begins buf' (l ++ cs.flatMap escapeChar) := by
  induction cs generalizing buf l with
  | nil => exact ⟨buf, rfl, by rwa [List.flatMap_nil, List.append_nil]⟩
  | cons c cs ih =>
    rw [List.flatMap_cons, List.length_append] at hroom
    have hstores : ∃ buf₁, storeAll l.length (escapeStores c) buf = .ok buf₁ ∧
        Begins buf₁ (l ++ escapeChar c) := by
      unfold escapeStores
      split_ifs
      · obtain ⟨buf₁, hstore, h₁⟩ := storeAll_begins (escapeChar c ++ [0]) h (by
          rw [List.length_append, List.length_singleton]
          omega)
        rw [← List.append_assoc] at h₁
        exact ⟨buf₁, hstore, h₁.left⟩
      · exact storeAll_begins _ h (by omega)
    obtain ⟨buf₁, hstore, h₁⟩ := hstores
    obtain ⟨buf₂, hrest, h₂⟩ := ih h₁ (by rw [List.length_append]; omega)
    rw [List.length_append] at hrest
    rw [List.append_assoc] at h₂
    refine ⟨buf₂, ?_, h₂⟩
    rw [copyEscaped, hstore]
    exact hrest

theorem length_printStringPtr (s : CString) :
    (printStringPtr s).length = s.bytes.length + (s.bytes.map escapeCount).sum + 2 := by
  unfold printStringPtr
  rw [List.length_append, List.length_cons, length_flatMap_escapeChar, List.length_singleton]

theorem flatMap_escapeChar_eq {cs : List UInt8} (h : (cs.map escapeCount).sum = 0) :
    cs.flatMap escapeChar = cs := by
  induction cs with
  | nil => rfl
  | cons c cs ih =>
    rw [List.map_cons, List.sum_cons] at h
    rcases escapeCount_cases c with ⟨-, hc⟩ | ⟨hn, -⟩ | ⟨hn, -⟩
    · rw [List.flatMap_cons, hc, ih (by omega)]
      rfl
    · omega
    · omega

/-- Both branches of `print_string_ptr` store the same. -/
theorem printStringPtr_stores {n : ℕ} {buf : Vector UInt8 n} {s : CString} (h : Begins buf text)
    (hroom : text.length + (printStringPtr s).length + 2 ≤ n) :
    ∃ buf', (do
        let buf ← store text.length 34 buf
        let buf ← copyEscaped s.bytes (text.length + 1) buf
        storeAll (text.length + (s.bytes.length + (s.bytes.map escapeCount).sum + 1)) [34, 0] buf) =
          .ok buf' ∧ Begins buf' (text ++ (printStringPtr s ++ [0])) := by
  have hlen := length_flatMap_escapeChar s.bytes
  rw [length_printStringPtr] at hroom
  obtain ⟨buf₁, hopen, h₁⟩ := store_begins 34 h (by omega)
  have hlen₁ : (text ++ [34]).length = text.length + 1 := by
    rw [List.length_append, List.length_singleton]
  obtain ⟨buf₂, hcopy, h₂⟩ := copyEscaped_begins s.bytes h₁ (by omega)
  have hlen₂ : (text ++ [34] ++ s.bytes.flatMap escapeChar).length =
      text.length + (s.bytes.length + (s.bytes.map escapeCount).sum + 1) := by
    rw [List.length_append]
    omega
  obtain ⟨buf₃, hclose, h₃⟩ := storeAll_begins [34, 0] h₂ (by
    rw [hlen₂, List.length_cons, List.length_singleton]
    omega)
  rw [hlen₁] at hcopy
  rw [hlen₂] at hclose
  refine ⟨buf₃, ?_, ?_⟩
  · rw [hopen]
    change (copyEscaped s.bytes (text.length + 1) buf₁ >>= _) = _
    rw [hcopy]
    exact hclose
  · unfold printStringPtr
    simpa only [List.append_assoc, List.cons_append, List.nil_append] using h₃

theorem printStringPtrTo_printed {s : CString} (h : At c text p) :
    Attempt .failed (Granted r c ((text ++ printStringPtr s).length + 2))
      (Printed c (text ++ printStringPtr s)) (printStringPtrTo r s p) := by
  have hlen := length_printStringPtr s
  have htotal : (text ++ printStringPtr s).length = text.length + (printStringPtr s).length :=
    List.length_append
  refine (ensure_holds h).bind (fun p₁ ⟨h₁, hroom⟩ => ?_) fun hg => hg.le (by omega)
  have hprinted : ∀ {buf : Vector UInt8 p₁.length}, Begins buf (text ++ (printStringPtr s ++ [0])) →
      Printed c (text ++ printStringPtr s) { p₁ with buffer := buf } := by
    intro buf hbuf
    have hoffset := h₁.offset_eq
    refine ⟨?_, ?_, ?_, ⟨h₁.settings, ?_, rfl, ?_, h₁.length_le⟩⟩
    · change p₁.offset ≤ _
      omega
    · change ∀ b ∈ List.drop p₁.offset _, b ≠ 0
      rw [hoffset, List.drop_left]
      exact printStringPtr_ne_zero s
    · change _ ≤ p₁.length
      omega
    · rwa [List.append_assoc]
    · change _ → p₁.offset < p₁.length
      omega
  have hroom' : text.length + (printStringPtr s).length + 2 ≤ p₁.length := by omega
  split_ifs with hzero
  · have hsame : 34 :: s.bytes ++ [34, 0] = printStringPtr s ++ [0] := by
      unfold printStringPtr
      rw [flatMap_escapeChar_eq hzero]
      simp only [List.cons_append, List.append_assoc, List.nil_append]
    obtain ⟨buf, hstore, hbuf⟩ := storeAll_begins (printStringPtr s ++ [0]) h₁.begins (by
      rw [List.length_append, List.length_singleton]
      omega)
    refine .of_ok ?_ (hprinted hbuf)
    unfold Printbuffer.storing
    rw [hsame, h₁.offset_eq, hstore]
  · obtain ⟨buf, hstore, hbuf⟩ := printStringPtr_stores h₁.begins hroom'
    refine .of_ok ?_ (hprinted hbuf)
    unfold Printbuffer.storing
    simp only [h₁.offset_eq, hstore]

theorem length_printNumber_le {d : Double} (h : Printable (.num d)) : (printNumber d).length ≤ 24 := by
  rcases printable_num h with ⟨hd, -⟩ | ⟨hnull, -⟩
  · exact (numberText_printNumber hd).length
  · rw [hnull]
    decide

theorem printNumberTo_printed {d : Double} (hd : Printable (.num d)) (h : At c text p) :
    Attempt .failed (Granted r c ((text ++ printNumber d).length + 2))
      (Printed c (text ++ printNumber d)) (printNumberTo r d p) := by
  have hlen := length_printNumber_le hd
  unfold printNumberTo
  simp only
  rw [if_neg (by omega)]
  have hwrite := write_printed (r := r) (m := []) (k := (printNumber d).length)
    (by rwa [List.append_nil]) rfl (le_refl _) (printNumber_ne_zero hd)
  rwa [List.nil_append] at hwrite

/-! ### Values -/

theorem Holds.format_eq (h : Holds c text o p) : p.format = c.format := by
  rw [← h.settings]
  rfl

theorem Holds.depth_eq (h : Holds c text o p) : p.depth = c.depth := by
  rw [← h.settings]
  rfl

theorem Holds.down (h : Holds c text o p) : Holds c.down text o { p with depth := p.depth + 1 } := by
  refine ⟨?_, h.begins, h.offset_eq, h.valid, h.length_le⟩
  rw [← h.settings]
  rfl

theorem Printed.up (h : Printed c.down text p) : Printed c text { p with depth := p.depth - 1 } := by
  refine ⟨h.offset_le, h.noNul, h.room, ⟨?_, h.holds.begins, rfl, h.holds.valid, h.holds.length_le⟩⟩
  have hdepth := h.holds.depth_eq
  have hsettings := h.holds.settings
  unfold Printbuffer.settings Settings.down at hsettings
  unfold Printbuffer.settings
  injection hsettings with hnoalloc hformat _ hlimit
  rcases c with ⟨noalloc, format, depth, limit⟩
  unfold Settings.down at hdepth
  simp only at hdepth hnoalloc hformat hlimit ⊢
  rw [hnoalloc] at hlimit
  rw [hnoalloc, hformat, hlimit, hdepth, Nat.add_sub_cancel]

theorem Printed.attempt_offset (h : Printed c text p) {granted : Prop} :
    Attempt .failed granted (At c text) (updateOffset p) := by
  obtain ⟨p', hp', hat, -⟩ := updateOffset_at h
  exact .of_ok hp' hat

theorem length_formatted (f : Bool) (a b : UInt8) : (a :: formatted f [b]).length = pieceLength f := by
  rcases f with _ | _
  · rfl
  · rfl

section
variable {Q R : Printbuffer → Prop} {x : Except Stop Printbuffer}
  {f : Printbuffer → Except Stop Printbuffer}

/-- Two steps one after the other: the second needs no less room. -/
theorem seq (hx : Attempt .failed (Granted r c b) Q x) (hle : b ≤ b')
    (hf : ∀ a, Q a → Attempt .failed (Granted r c b') R (f a)) :
    Attempt .failed (Granted r c b') R (x >>= f) :=
  hx.bind hf fun hg => hg.le hle

theorem seq_down (hx : Attempt .failed (Granted r c.down b) Q x) (hle : b ≤ b')
    (hf : ∀ a, Q a → Attempt .failed (Granted r c b') R (f a)) :
    Attempt .failed (Granted r c b') R (x >>= f) :=
  hx.bind hf fun hg => ⟨hg.1, hle.trans hg.2⟩

end

/-- The comma of `print_array`. -/
theorem comma_at {last : Prop} [Decidable last] (h : At c text p) :
    Attempt .failed (Granted r c ((text ++ if last then [] else 44 :: formatted c.format [32]).length + 2))
      (At c (text ++ if last then [] else 44 :: formatted c.format [32])) (comma r last p) := by
  have hlen := length_formatted c.format 44 32
  unfold comma
  rw [h.format_eq]
  split_ifs
  · rw [List.append_nil]
    exact .of_ok rfl h
  · refine (write_nul_at h (by omega) hlen.symm).mono (fun _ hp => hp) fun hg => hg.le ?_
    rw [List.length_append]
    omega

/-- The indentation of `print_object`. -/
theorem indent_at (h : At c text p) :
    Attempt .failed (Granted r c ((text ++ formatted c.format (tabs c.depth)).length + 2))
      (At c (text ++ formatted c.format (tabs c.depth)))
      (indent r p) := by
  unfold indent
  rw [h.format_eq, h.depth_eq]
  unfold formatted
  split_ifs
  · have hlen : (tabs c.depth).length = c.depth := List.length_replicate
    refine (write_at h (by omega) hlen.symm).mono (fun _ hp => hp) fun hg => hg.le ?_
    rw [List.length_append]
    omega
  · rw [List.append_nil]
    exact .of_ok rfl h

/-- What `print_object` writes behind a member. -/
theorem lineEnd_at {last : Prop} [Decidable last] (h : At c text p) :
    Attempt .failed
      (Granted r c ((text ++ ((if last then [] else [44]) ++ formatted c.format [10])).length + 2))
      (At c (text ++ ((if last then [] else [44]) ++ formatted c.format [10]))) (lineEnd r last p) := by
  have hlen : ((if last then [] else [44]) ++ formatted c.format [10]).length =
      (if c.format then 1 else 0) + (if last then 0 else 1) := by
    unfold formatted
    split_ifs
    all_goals rfl
  unfold lineEnd
  rw [h.format_eq]
  refine (write_nul_at h (by omega) hlen.symm).mono (fun _ hp => hp) fun hg => hg.le ?_
  rw [List.length_append]
  omega

/-- The end of `print_object`. -/
theorem brace_printed {pre : List UInt8} (h : At c.down (text ++ pre) p) :
    Attempt .failed (Granted r c.down
        ((text ++ (pre ++ (formatted c.format (tabs c.depth) ++ [125]))).length + 2))
      (Printed c.down (text ++ (pre ++ (formatted c.format (tabs c.depth) ++ [125]))))
      (write r (if p.format then p.depth + 1 else 2)
        (formatted p.format (tabs (p.depth - 1)) ++ [125, 0]) 0 p) := by
  have hlen : (formatted c.format (tabs c.depth) ++ [125]).length + 1 =
      if c.format then c.depth + 1 + 1 else 2 := by
    unfold formatted tabs
    split_ifs
    · rw [List.length_append, List.length_replicate, List.length_singleton]
    · rfl
  have hnul : ∀ b ∈ formatted c.format (tabs c.depth) ++ [125], b ≠ 0 := by
    intro b hb
    rcases List.mem_append.mp hb with hb | hb
    · exact formatted_ne_zero tabs_ne_zero b hb
    · rw [List.mem_singleton.mp hb]
      decide
  have hwrite := write_printed (r := r) h hlen (Nat.zero_le _) hnul
  rw [List.append_assoc (formatted c.format (tabs c.depth)) [125] [0]] at hwrite
  rw [h.format_eq, h.depth_eq]
  exact hwrite

theorem write_literal (h : At c text p) (hl : l.length + 1 = needed) (hnul : ∀ b ∈ l, b ≠ 0) :
    Attempt .failed (Granted r c ((text ++ l).length + 2)) (Printed c (text ++ l))
      (write r needed (l ++ [0]) 0 p) := by
  have hwrite := write_printed (r := r) (m := []) (k := 0) (by rwa [List.append_nil]) hl
    (Nat.zero_le _) hnul
  rwa [List.nil_append] at hwrite

end

mutual

/-- **Printing a value** into a buffer: nothing is stored outside, the text is the one of `Print`, and
it is printed if the allocator gives room for it and two bytes more. -/
theorem printValueTo_printed {r : Reallocate} : ∀ {j : Json} {c : Settings} {text : List UInt8}
    {p : Printbuffer}, Printable j → At c text p →
    Attempt .failed (Granted r c ((text ++ printValue c.format c.depth j).length + 2))
      (Printed c (text ++ printValue c.format c.depth j)) (printValueTo r j p)
  | .null, c, text, p, _, h => by
    rw [printValue, printValueTo]
    exact write_literal h rfl (by simp)
  | .bool false, c, text, p, _, h => by
    rw [printValue, printValueTo]
    exact write_literal h rfl (by simp)
  | .bool true, c, text, p, _, h => by
    rw [printValue, printValueTo]
    exact write_literal h rfl (by simp)
  | .num d, c, text, p, hj, h => by
    rw [printValue, printValueTo]
    exact printNumberTo_printed hj h
  | .str s, c, text, p, _, h => by
    rw [printValue, printValueTo]
    exact printStringPtrTo_printed h
  | .arr items, c, text, p, hj, h => by
    rw [printValue, printValueTo]
    have hlen : (text ++ (91 :: printItems c.format (c.depth + 1) items ++ [93])).length =
        text.length + (printItems c.format (c.depth + 1) items).length + 2 := by
      simp only [List.length_append, List.length_cons, List.length_nil]
      omega
    refine seq (write_at (l := [91]) h (le_refl _) rfl) (by omega) fun p₁ h₁ => ?_
    refine seq_down (printItemsTo_at hj h₁.down) ?_ fun p₂ h₂ => ?_
    · rw [hlen]
      simp only [List.length_append, List.length_singleton, Settings.down]
      omega
    · rw [List.append_assoc] at h₂
      exact seq_down (write_printed (l := [93]) (k := 0) h₂ rfl (Nat.zero_le _) (by simp))
        (le_refl _) fun p₃ h₃ => .of_ok rfl h₃.up
  | .obj members, c, text, p, hj, h => by
    rw [printValue, printValueTo]
    simp only [h.format_eq]
    have hopen := length_formatted c.format 123 10
    have hlen : (text ++ (123 :: formatted c.format [10] ++ printMembers c.format (c.depth + 1) members ++
        formatted c.format (tabs c.depth) ++ [125])).length = text.length + pieceLength c.format +
          (printMembers c.format (c.depth + 1) members).length +
            (formatted c.format (tabs c.depth)).length + 1 := by
      simp only [List.length_append, List.length_cons, List.length_nil] at hopen ⊢
      omega
    refine seq (write_at h (by omega) hopen.symm) (by omega) fun p₁ h₁ => ?_
    refine seq_down (printMembersTo_at hj h₁.down) ?_ fun p₂ h₂ => ?_
    · rw [hlen]
      simp only [List.length_append, Settings.down]
      omega
    · rw [List.append_assoc] at h₂
      have hclose := seq_down (brace_printed (r := r) h₂) (le_refl _)
        fun p₃ h₃ => .of_ok rfl h₃.up
      simp only [List.append_assoc, List.cons_append] at hclose ⊢
      exact hclose

theorem printItemsTo_at {r : Reallocate} : ∀ {items : List Json} {c : Settings}
    {text : List UInt8} {p : Printbuffer}, PrintableItems items → At c text p →
    Attempt .failed (Granted r c ((text ++ printItems c.format c.depth items).length + 2))
      (At c (text ++ printItems c.format c.depth items)) (printItemsTo r items p)
  | [], c, text, p, _, h => by
    rw [printItems, printItemsTo, List.append_nil]
    exact .of_ok rfl h
  | x :: xs, c, text, p, hj, h => by
    rw [printItems, printItemsTo]
    have hlen : (text ++ (printValue c.format c.depth x ++ (if xs = [] then [] else
        44 :: formatted c.format [32]) ++ printItems c.format c.depth xs)).length =
          (text ++ printValue c.format c.depth x).length +
            (if xs = [] then [] else 44 :: formatted c.format [32]).length +
              (printItems c.format c.depth xs).length := by
      simp only [List.length_append]
      omega
    refine seq (printValueTo_printed hj.1 h) (by omega) fun p₁ h₁ => ?_
    refine h₁.attempt_offset.bind (fun p₂ h₂ => ?_) id
    refine seq (comma_at h₂) (by rw [hlen, List.length_append]; omega) fun p₃ h₃ => ?_
    refine (printItemsTo_at hj.2 h₃).mono (fun p' hp' => ?_) fun hg => hg.le ?_
    · simpa only [List.append_assoc] using hp'
    · simp only [List.length_append] at hlen ⊢
      omega

theorem printMembersTo_at {r : Reallocate} : ∀ {members : List (CString × Json)} {c : Settings}
    {text : List UInt8} {p : Printbuffer}, PrintableMembers members → At c text p →
    Attempt .failed (Granted r c ((text ++ printMembers c.format c.depth members).length + 2))
      (At c (text ++ printMembers c.format c.depth members)) (printMembersTo r members p)
  | [], c, text, p, _, h => by
    rw [printMembers, printMembersTo, List.append_nil]
    exact .of_ok rfl h
  | (k, x) :: ms, c, text, p, hj, h => by
    rw [printMembers, printMembersTo]
    have hcolon := length_formatted c.format 58 9
    simp only [List.append_assoc, List.cons_append]
    refine seq (indent_at h) ?_ fun p₁ h₁ => ?_
    · simp only [List.length_append]
      omega
    refine seq (printStringPtrTo_printed h₁) ?_ fun p₂ h₂ => ?_
    · simp only [List.length_append]
      omega
    refine h₂.attempt_offset.bind (fun p₃ h₃ => ?_) id
    simp only [h₃.format_eq]
    refine seq (write_at h₃ (by omega) hcolon.symm) ?_ fun p₄ h₄ => ?_
    · simp only [List.length_append, List.length_cons] at hcolon ⊢
      omega
    refine seq (printValueTo_printed hj.1 h₄) ?_ fun p₅ h₅ => ?_
    · simp only [List.length_append, List.length_cons]
      omega
    refine h₅.attempt_offset.bind (fun p₆ h₆ => ?_) id
    refine seq (lineEnd_at h₆) ?_ fun p₇ h₇ => ?_
    · simp only [List.length_append, List.length_cons]
      omega
    refine (printMembersTo_at hj.2 h₇).mono (fun p' hp' => ?_) fun hg => hg.le ?_
    · simpa only [List.append_assoc, List.cons_append] using hp'
    · simp only [List.length_append, List.length_cons]
      omega

end

/-! ### The calls -/

theorem printValueTo_start {r : Reallocate} {n : ℕ} (buf : Vector UInt8 n) (noalloc format : Bool)
    (hn : n ≤ intMax) {item : Json} (hitem : Printable item) :
    Attempt .failed
      ((noalloc = true ∨ r.Total) ∧
        (printValue format 0 item).length + 2 ≤ if noalloc then n else intMax)
      (fun p => Printed ⟨noalloc, format, 0, if noalloc then n else intMax⟩ (printValue format 0 item) p ∧
        (printValue format 0 item).length + 2 ≤ if noalloc then n else intMax)
      (printValueTo r item ⟨n, buf, 0, 0, noalloc, format⟩) := by
  have hstart : At ⟨noalloc, format, 0, if noalloc then n else intMax⟩ []
      ⟨n, buf, 0, 0, noalloc, format⟩ := ⟨rfl, begins_nil buf, rfl, id, hn⟩
  exact (printValueTo_printed (r := r) hitem hstart).mono
    (fun p hp => ⟨hp, hp.room.trans hp.holds.length_le_limit⟩) id

/-- **`cJSON_PrintPreallocated`** never stores outside the block of the caller. It succeeds exactly if
the text and two more bytes fit, and the block then starts with the text and its NUL. -/
theorem cjsonPrintPreallocated_spec {r : Reallocate} {len : ℕ} (buf : Vector UInt8 len)
    (hlen : len ≤ intMax) {fmt : Bool} {item : Json} (hitem : Printable item) :
    Attempt .failed ((cjsonPrint fmt item).length + 2 ≤ len)
      (fun l => (cjsonPrint fmt item).bytes ++ [0] <+: l ∧ (cjsonPrint fmt item).length + 2 ≤ len)
      (cjsonPrintPreallocated r buf fmt item) := by
  unfold CString.length
  rw [bytes_cjsonPrint hitem]
  refine (printValueTo_start (r := r) buf true fmt hlen hitem).bind (fun p hp => ?_)
    fun h => ⟨Or.inl rfl, h⟩
  exact .of_ok rfl ⟨hp.1.holds.begins, hp.2⟩

theorem cjsonPrintPreallocated_object :
    Attempt .failed
      ((cjsonPrint false (.obj [(.lit "led", .str (.lit "on")), (.lit "code", .num (.fin (200 : ℤ)))])).length +
        2 ≤ 25)
      (fun l => (cjsonPrint false (.obj [(.lit "led", .str (.lit "on")),
          (.lit "code", .num (.fin (200 : ℤ)))])).bytes ++ [0] <+: l ∧
        (cjsonPrint false (.obj [(.lit "led", .str (.lit "on")),
          (.lit "code", .num (.fin (200 : ℤ)))])).length + 2 ≤ 25)
      (cjsonPrintPreallocated .zeros (.replicate 25 1) false
        (.obj [(.lit "led", .str (.lit "on")), (.lit "code", .num (.fin (200 : ℤ)))])) :=
  cjsonPrintPreallocated_spec (.replicate 25 1) (by decide)
    ⟨trivial, isDouble_intCast (by decide), trivial⟩

/-- **`cJSON_PrintBuffered`**: the same with a block that grows. -/
theorem cjsonPrintBuffered_spec {r : Reallocate} {prebuffer : ℕ} (hpre : prebuffer ≤ intMax)
    (allocated : Option (Vector UInt8 prebuffer)) {fmt : Bool} {item : Json}
    (hitem : Printable item) :
    Attempt .failed
      (allocated ≠ none ∧ r.Total ∧ (cjsonPrint fmt item).length + 2 ≤ intMax)
      (fun l => (cjsonPrint fmt item).bytes ++ [0] <+: l ∧ (cjsonPrint fmt item).length + 2 ≤ intMax)
      (cjsonPrintBuffered r allocated fmt item) := by
  unfold CString.length
  rw [bytes_cjsonPrint hitem]
  rcases allocated with _ | buffer
  · exact .of_stop rfl fun h => h.1 rfl
  · refine (printValueTo_start (r := r) buffer false fmt hpre hitem).bind (fun p hp => ?_)
      fun h => ⟨Or.inr h.2.1, h.2.2⟩
    exact .of_ok rfl ⟨hp.1.holds.begins, hp.2⟩

theorem shrink_toList {r : Reallocate} {n m : ℕ} {buf : Vector UInt8 n} {l : List UInt8}
    (h : Begins buf l) (hm : l.length = m) {w : Vector UInt8 m} (hrun : r.run buf m = some w) :
    w.toList = l := by
  subst hm
  have htake : buf.toList.take l.length = l := (List.prefix_iff_eq_take.mp h).symm
  have hbegins := r.keeps hrun
  rw [htake] at hbegins
  exact hbegins.toList_eq rfl

/-- **`cJSON_Print`** and `cJSON_PrintUnformatted` never store outside their block. They give the text
and its NUL and nothing else, and always if the allocator gives what it is asked for and the text is
shorter than `INT_MAX - 1`. -/
theorem print_spec {r : Reallocate} (allocated : Option (Vector UInt8 256)) {format : Bool}
    {item : Json} (hitem : Printable item) :
    Attempt .failed
      (allocated ≠ none ∧ r.Total ∧ (cjsonPrint format item).length + 2 ≤ intMax)
      (fun l => l = (cjsonPrint format item).bytes ++ [0] ∧
        (cjsonPrint format item).length + 2 ≤ intMax)
      (print r allocated format item) := by
  unfold CString.length
  rw [bytes_cjsonPrint hitem]
  rcases allocated with _ | buffer
  · exact .of_stop rfl fun h => h.1 rfl
  refine (printValueTo_start (r := r) buffer false format (by decide) hitem).bind
    (fun p ⟨hp, hle⟩ => ?_) fun h => ⟨Or.inr h.2.1, h.2.2⟩
  obtain ⟨p', hp', hat, -, hbegins⟩ := updateOffset_at hp
  have hlen : (printValue format 0 item ++ [0]).length = p'.offset + 1 := by
    rw [hat.offset_eq, List.length_append, List.length_singleton]
  rw [hp']
  change Attempt _ _ _ (match r.run p'.buffer (p'.offset + 1) with
    | none => _
    | some printed => _)
  rcases hrun : r.run p'.buffer (p'.offset + 1) with _ | w
  · exact .of_stop rfl fun h => h.2.1 _ _ hrun
  · exact .of_ok rfl ⟨shrink_toList hbegins hlen hrun, hle⟩

theorem ofBytes_bytes_nul (s : CString) : CString.ofBytes (s.bytes ++ [0]) = s := by
  have hbytes := CString.bytes_ofBytes_append (l := s.bytes) (fun h => s.noNul 0 h rfl) [0]
  exact CString.ext_iff.mpr (hbytes.trans (List.append_nil _))

/-- **What was parsed is printed and parsed again.** The block for a parsed item, whatever the
allocator does, holds the text of the item, and from it the item is parsed as it was, but that an
infinite number has become `null`. -/
theorem parse_print {s : CString} {j : Json} (h : cjsonParse s = some j) (r : Reallocate)
    (allocated : Option (Vector UInt8 256)) (format : Bool) :
    Attempt .failed
      (allocated ≠ none ∧ r.Total ∧ (cjsonPrint format j).length + 2 ≤ intMax)
      (fun l => l = (cjsonPrint format j).bytes ++ [0] ∧ cjsonParse (.ofBytes l) = some (reparse j))
      (print r allocated format j) := by
  refine (print_spec allocated (parse_printable h).1).mono (fun l ⟨hl, _⟩ => ⟨hl, ?_⟩) id
  rw [hl, ofBytes_bytes_nul, reparse_of_parse h]

theorem parse_print_array :
    Attempt .failed
      ((some (.replicate 256 0) : Option (Vector UInt8 256)) ≠ none ∧ Reallocate.zeros.Total ∧
        (cjsonPrint true (.arr [.num .negZero, .obj [(.lit "on", .bool true)]])).length + 2 ≤ intMax)
      (fun l => l = (cjsonPrint true (.arr [.num .negZero, .obj [(.lit "on", .bool true)]])).bytes ++ [0] ∧
        cjsonParse (.ofBytes l) = some (reparse (.arr [.num .negZero, .obj [(.lit "on", .bool true)]])))
      (print .zeros (some (.replicate 256 0)) true (.arr [.num .negZero, .obj [(.lit "on", .bool true)]])) :=
  parse_print (s := .lit "[-0, \x7b\"on\": true\x7d]") (by decide +kernel) _ _ _

end OasisEdge.CJson.PrintBuffer
