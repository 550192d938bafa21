import OasisEdge.CJson.Scalars

/-! # The fuel of the parser

A turn of the loops of `parse_array` and `parse_object` reads an item (`readItem`), after a key
(`readKey`), and goes on behind it. Every call uses up bytes, so the fuel `2 * length + 1` is always
enough and the result does not depend on it (`parse_fuel`, `parseValue_enough`). -/

namespace OasisEdge.CJson.Fuel

open OasisEdge.Lib.Chars OasisEdge.CJson.Value OasisEdge.CJson.Parse OasisEdge.CJson.Scalars

/-! ### Containers -/

/-- `parse_array` and `parse_object` after the opening byte: nothing before the closing byte, or the
loop. -/
def readContainer {β : Type} (close : UInt8) (wrap : List β → Json)
    (loop : List UInt8 → Option (List β × List UInt8)) (d : ℕ) (l : List UInt8) :
    Option (Json × List UInt8) :=
  if CJSON_NESTING_LIMIT ≤ d then none
  else if (skipWhitespace l).head? = some close then some (wrap [], (skipWhitespace l).tail)
  else (loop l).map fun r => (wrap r.1, r.2)

theorem parseValue_bracket (n d : ℕ) (l : List UInt8) :
    parseValue (n + 1) d (91 :: l) = readContainer 93 .arr (parseArray n (d + 1)) d l := by
  rw [parseValue, if_neg (by simp), if_neg (by simp), if_neg (by simp)]
  simp only [if_neg (show ¬ (91 : UInt8) = 34 by decide), if_pos,
    if_neg (show ¬ ((91 : UInt8) = 45 ∨ isDigit 91 = true) by decide)]
  rfl

theorem parseValue_brace (n d : ℕ) (l : List UInt8) :
    parseValue (n + 1) d (123 :: l) = readContainer 125 .obj (parseObject n (d + 1)) d l := by
  rw [parseValue, if_neg (by simp), if_neg (by simp), if_neg (by simp)]
  simp only [if_neg (show ¬ (123 : UInt8) = 34 by decide), if_pos,
    if_neg (show ¬ ((123 : UInt8) = 45 ∨ isDigit 123 = true) by decide),
    if_neg (show ¬ (123 : UInt8) = 91 by decide)]
  rfl

/-- The two ways a container is read. -/
theorem readContainer_eq_some {β : Type} {close : UInt8} {wrap : List β → Json}
    {loop : List UInt8 → Option (List β × List UInt8)} {d : ℕ} {l r : List UInt8} {j : Json} :
    readContainer close wrap loop d l = some (j, r) ↔ d < CJSON_NESTING_LIMIT ∧
      (skipWhitespace l = close :: r ∧ j = wrap [] ∨
        (skipWhitespace l).head? ≠ some close ∧ ∃ xs, loop l = some (xs, r) ∧ j = wrap xs) := by
  unfold readContainer
  by_cases hd : CJSON_NESTING_LIMIT ≤ d
  · rw [if_pos hd]
    simp only [reduceCtorEq, false_iff, not_and]
    omega
  rw [if_neg hd, and_iff_right (by omega)]
  by_cases hclose : (skipWhitespace l).head? = some close
  · obtain ⟨t, ht⟩ := List.head?_eq_some_iff.mp hclose
    rw [if_pos hclose, ht]
    simp [eq_comm, and_comm]
  · have hne : skipWhitespace l ≠ close :: r := fun h => hclose (by rw [h]; rfl)
    rw [if_neg hclose, Option.map_eq_some_iff]
    simp only [hne, false_and, false_or, ne_eq, hclose, not_false_eq_true, true_and, Prod.exists,
      Prod.mk.injEq]
    constructor
    · rintro ⟨xs, t, hx, rfl, rfl⟩; exact ⟨xs, hx, rfl⟩
    · rintro ⟨xs, hx, rfl⟩; exact ⟨xs, r, hx, rfl, rfl⟩

/-! ### The loops -/

/-- The key of a member and its colon. -/
def readKey (l : List UInt8) : Option (CString × List UInt8) :=
  (parseString (skipWhitespace l)).bind fun k =>
    match skipWhitespace k.2 with
    | [] => none
    | b :: l' => if b = 58 then some (k.1, l') else none

/-- A value and the byte after it that is no white space. -/
def readItem (n d : ℕ) (l : List UInt8) : Option ((Json × UInt8) × List UInt8) :=
  (parseValue n d (skipWhitespace l)).bind fun r =>
    match skipWhitespace r.2 with
    | [] => none
    | b :: l' => some ((r.1, b), l')

theorem parseArray_succ (n d : ℕ) (l : List UInt8) :
    parseArray (n + 1) d l = (readItem n d l).bind fun r =>
      if r.1.2 = 44 then (parseArray n d r.2).map fun s => (r.1.1 :: s.1, s.2)
      else if r.1.2 = 93 then some ([r.1.1], r.2)
      else none := by
  rw [parseArray, readItem, Option.bind_assoc]
  refine Option.bind_congr fun r _ => ?_
  cases skipWhitespace r.2 <;> rfl

theorem parseObject_succ (n d : ℕ) (l : List UInt8) :
    parseObject (n + 1) d l = (readKey l).bind fun k => (readItem n d k.2).bind fun r =>
      if r.1.2 = 44 then (parseObject n d r.2).map fun s => ((k.1, r.1.1) :: s.1, s.2)
      else if r.1.2 = 125 then some ([(k.1, r.1.1)], r.2)
      else none := by
  rw [parseObject, readKey, Option.bind_assoc]
  refine Option.bind_congr fun k _ => ?_
  cases skipWhitespace k.2 with
  | nil => rfl
  | cons b l' =>
    simp only
    split_ifs with hb
    · rw [Option.bind_some, readItem, Option.bind_assoc]
      refine Option.bind_congr fun r _ => ?_
      cases skipWhitespace r.2 <;> rfl
    · rfl

/-- A turn of a loop of `parse_array` gives one more item. -/
theorem parseArray_cases {n d : ℕ} {l r : List UInt8} {js : List Json}
    (h : parseArray (n + 1) d l = some (js, r)) :
    (∃ j l' js', readItem n d l = some ((j, 44), l') ∧ parseArray n d l' = some (js', r) ∧
      js = j :: js') ∨ ∃ j, readItem n d l = some ((j, 93), r) ∧ js = [j] := by
  rw [parseArray_succ] at h
  obtain ⟨⟨⟨j, b⟩, l'⟩, hi, h⟩ := Option.bind_eq_some_iff.mp h
  split_ifs at h with h44 h93
  · obtain ⟨⟨js', r'⟩, hs, h⟩ := Option.map_eq_some_iff.mp h
    obtain ⟨rfl, rfl⟩ := Prod.mk.inj h
    exact Or.inl ⟨j, l', js', by rw [hi]; exact congrArg _ (by rw [← h44]), hs, rfl⟩
  · obtain ⟨rfl, rfl⟩ := Prod.mk.inj (Option.some.inj h)
    exact Or.inr ⟨j, by rw [hi]; exact congrArg _ (by rw [← h93]), rfl⟩

/-- A turn of the loop of `parse_object` gives one more member. -/
theorem parseObject_cases {n d : ℕ} {l r : List UInt8} {ms : List (CString × Json)}
    (h : parseObject (n + 1) d l = some (ms, r)) :
    ∃ k l₁, readKey l = some (k, l₁) ∧
      ((∃ j l' ms', readItem n d l₁ = some ((j, 44), l') ∧ parseObject n d l' = some (ms', r) ∧
        ms = (k, j) :: ms') ∨ ∃ j, readItem n d l₁ = some ((j, 125), r) ∧ ms = [(k, j)]) := by
  rw [parseObject_succ] at h
  obtain ⟨⟨k, l₁⟩, hk, h⟩ := Option.bind_eq_some_iff.mp h
  refine ⟨k, l₁, hk, ?_⟩
  obtain ⟨⟨⟨j, b⟩, l'⟩, hi, h⟩ := Option.bind_eq_some_iff.mp h
  split_ifs at h with h44 h125
  · obtain ⟨⟨ms', r'⟩, hs, h⟩ := Option.map_eq_some_iff.mp h
    obtain ⟨rfl, rfl⟩ := Prod.mk.inj h
    exact Or.inl ⟨j, l', ms', by rw [hi]; exact congrArg _ (by rw [← h44]), hs, rfl⟩
  · obtain ⟨rfl, rfl⟩ := Prod.mk.inj (Option.some.inj h)
    exact Or.inr ⟨j, by rw [hi]; exact congrArg _ (by rw [← h125]), rfl⟩

/-! ### Fuel -/

theorem readKey_eq_some {l r : List UInt8} {k : CString} : readKey l = some (k, r) ↔
    ∃ t, parseString (skipWhitespace l) = some (k, t) ∧ skipWhitespace t = 58 :: r := by
  unfold readKey
  rw [Option.bind_eq_some_iff]
  constructor
  · rintro ⟨⟨s, t⟩, hs, h⟩
    cases hw : skipWhitespace t with
    | nil => simp [hw] at h
    | cons b l' =>
      simp only [hw] at h
      split_ifs at h with hb
      obtain ⟨rfl, rfl⟩ := Prod.mk.inj (Option.some.inj h)
      exact ⟨t, hs, by rw [← hb]; exact hw⟩
  · rintro ⟨t, hs, hw⟩
    exact ⟨(k, t), hs, by simp [hw]⟩

theorem readKey_length {l r : List UInt8} {k : CString} (h : readKey l = some (k, r)) :
    r.length + 1 < l.length := by
  obtain ⟨t, hs, hw⟩ := readKey_eq_some.mp h
  have h1 := (parseString_readsOff hs).length_lt
  have h2 := skipWhitespace_length_le l
  have h3 := skipWhitespace_cons_length hw
  omega

theorem readItem_eq_some {n d : ℕ} {l r : List UInt8} {j : Json} {b : UInt8} :
    readItem n d l = some ((j, b), r) ↔
      ∃ t, parseValue n d (skipWhitespace l) = some (j, t) ∧ skipWhitespace t = b :: r := by
  unfold readItem
  rw [Option.bind_eq_some_iff]
  constructor
  · rintro ⟨⟨j', t⟩, hv, h⟩
    cases hw : skipWhitespace t with
    | nil => simp [hw] at h
    | cons b' l' =>
      simp only [hw, Option.some.injEq, Prod.mk.injEq] at h
      obtain ⟨⟨rfl, rfl⟩, rfl⟩ := h
      exact ⟨t, hv, hw⟩
  · rintro ⟨t, hv, hw⟩
    exact ⟨(j, t), hv, by simp [hw]⟩

section
variable {β : Type} {close : UInt8} {wrap : List β → Json}
  {f g : List UInt8 → Option (List β × List UInt8)} {d : ℕ} {l r : List UInt8} {j : Json}

theorem readContainer_length (hf : ∀ xs t, f l = some (xs, t) → t.length < l.length)
    (h : readContainer close wrap f d l = some (j, r)) : r.length < l.length + 1 := by
  rcases (readContainer_eq_some.mp h).2 with ⟨hw, -⟩ | ⟨-, xs, hs, -⟩
  · exact Nat.lt_succ_of_lt (skipWhitespace_cons_length hw)
  · exact Nat.lt_succ_of_lt (hf xs r hs)

theorem readContainer_mono (hfg : ∀ xs t, f l = some (xs, t) → g l = some (xs, t))
    (h : readContainer close wrap f d l = some (j, r)) :
    readContainer close wrap g d l = some (j, r) := by
  rw [readContainer_eq_some] at h ⊢
  refine ⟨h.1, ?_⟩
  rcases h.2 with hw | ⟨hne, xs, hs, hj⟩
  · exact Or.inl hw
  · exact Or.inr ⟨hne, xs, hfg xs r hs, hj⟩

end

/-- The fuel a call needs, `k` more than twice the length, or that it already had. -/
def Enough (k n m : ℕ) (l : List UInt8) : Prop := n ≤ m ∨ 2 * l.length + k < m

theorem enough_succ {k n m : ℕ} {l : List UInt8} (k' : ℕ) (l' : List UInt8)
    (h : Enough k (n + 1) m l) (hl : 2 * l'.length + k' < 2 * l.length + k) :
    ∃ m', m = m' + 1 ∧ Enough k' n m' l' := by
  unfold Enough at h ⊢
  cases m with
  | zero => omega
  | succ m' => exact ⟨m', rfl, by omega⟩

/-- The three functions use up bytes, and with fuel `n` give what any fuel that is enough gives. -/
structure Stable (n : ℕ) : Prop where
  value : ∀ {d l j r}, parseValue n d l = some (j, r) → r.length < l.length ∧
    ∀ m, Enough 0 n m l → parseValue m d l = some (j, r)
  array : ∀ {d l js r}, parseArray n d l = some (js, r) → r.length < l.length ∧
    ∀ m, Enough 1 n m l → parseArray m d l = some (js, r)
  object : ∀ {d l ms r}, parseObject n d l = some (ms, r) → r.length < l.length ∧
    ∀ m, Enough 1 n m l → parseObject m d l = some (ms, r)

section
variable {n d : ℕ} {l r : List UInt8}

theorem Stable.item (hn : Stable n) {j : Json} {b : UInt8} (h : readItem n d l = some ((j, b), r)) :
    r.length + 1 < l.length ∧
      ∀ m, Enough 1 (n + 1) (m + 1) l → readItem m d l = some ((j, b), r) := by
  obtain ⟨t, hv, hw⟩ := readItem_eq_some.mp h
  obtain ⟨hlt, hmore⟩ := hn.value hv
  have h1 := skipWhitespace_cons_length hw
  have h2 := skipWhitespace_length_le l
  refine ⟨by omega, fun m hm => readItem_eq_some.mpr ⟨t, hmore m ?_, hw⟩⟩
  unfold Enough at hm ⊢
  omega

theorem Stable.value_succ (hn : Stable n) {j : Json} (h : parseValue (n + 1) d l = some (j, r)) :
    r.length < l.length ∧ ∀ m, Enough 0 (n + 1) m l → parseValue m d l = some (j, r) := by
  by_cases ha : l.head? = some 91
  · obtain ⟨l, rfl⟩ := List.head?_eq_some_iff.mp ha
    rw [parseValue_bracket] at h
    refine ⟨readContainer_length (fun xs t hs => (hn.array hs).1) h, fun m hm => ?_⟩
    obtain ⟨m, rfl, hm'⟩ := enough_succ 1 l hm (by rw [List.length_cons]; omega)
    rw [parseValue_bracket]
    exact readContainer_mono (fun xs t hs => (hn.array hs).2 m hm') h
  by_cases ho : l.head? = some 123
  · obtain ⟨l, rfl⟩ := List.head?_eq_some_iff.mp ho
    rw [parseValue_brace] at h
    refine ⟨readContainer_length (fun xs t hs => (hn.object hs).1) h, fun m hm => ?_⟩
    obtain ⟨m, rfl, hm'⟩ := enough_succ 1 l hm (by rw [List.length_cons]; omega)
    rw [parseValue_brace]
    exact readContainer_mono (fun xs t hs => (hn.object hs).2 m hm') h
  · rw [parseValue_scalar ha ho] at h
    have hlt := parseScalar_length h
    refine ⟨hlt, fun m hm => ?_⟩
    obtain ⟨m, rfl, -⟩ := enough_succ 0 r hm (by omega)
    rw [parseValue_scalar ha ho, h]

theorem Stable.array_succ (hn : Stable n) {js : List Json}
    (h : parseArray (n + 1) d l = some (js, r)) :
    r.length < l.length ∧ ∀ m, Enough 1 (n + 1) m l → parseArray m d l = some (js, r) := by
  rcases parseArray_cases h with ⟨j, l', js', hi, hs, rfl⟩ | ⟨j, hi, rfl⟩
  · obtain ⟨hlt, hmore⟩ := hn.item hi
    obtain ⟨hlt', hmore'⟩ := hn.array hs
    refine ⟨by omega, fun m hm => ?_⟩
    obtain ⟨m, rfl, hm'⟩ := enough_succ 1 l' hm (by omega)
    rw [parseArray_succ, hmore m hm]
    simp [hmore' m hm']
  · obtain ⟨hlt, hmore⟩ := hn.item hi
    refine ⟨by omega, fun m hm => ?_⟩
    obtain ⟨m, rfl, -⟩ := enough_succ 1 r hm (by omega)
    rw [parseArray_succ, hmore m hm]
    simp

theorem Stable.object_succ (hn : Stable n) {ms : List (CString × Json)}
    (h : parseObject (n + 1) d l = some (ms, r)) :
    r.length < l.length ∧ ∀ m, Enough 1 (n + 1) m l → parseObject m d l = some (ms, r) := by
  obtain ⟨k, l₁, hk, h⟩ := parseObject_cases h
  have h1 := readKey_length hk
  -- the fuel that is enough for the members is enough for what follows the key
  have hkey : ∀ {m}, Enough 1 (n + 1) (m + 1) l → Enough 1 (n + 1) (m + 1) l₁ := by
    intro m hm
    unfold Enough at hm ⊢
    omega
  rcases h with ⟨j, l', ms', hi, hs, rfl⟩ | ⟨j, hi, rfl⟩
  · obtain ⟨hlt, hmore⟩ := hn.item hi
    obtain ⟨hlt', hmore'⟩ := hn.object hs
    refine ⟨by omega, fun m hm => ?_⟩
    obtain ⟨m, rfl, hm'⟩ := enough_succ 1 l' hm (by omega)
    rw [parseObject_succ, hk]
    simp [hmore m (hkey hm), hmore' m hm']
  · obtain ⟨hlt, hmore⟩ := hn.item hi
    refine ⟨by omega, fun m hm => ?_⟩
    obtain ⟨m, rfl, -⟩ := enough_succ 1 r hm (by omega)
    rw [parseObject_succ, hk]
    simp [hmore m (hkey hm)]

end

/-- **Enough fuel gives the result.** -/
theorem parse_fuel (n : ℕ) : Stable n := by
  induction n with
  | zero =>
    refine ⟨fun h => ?_, fun h => ?_, fun h => ?_⟩
    · simp [parseValue] at h
    · simp [parseArray] at h
    · simp [parseObject] at h
  | succ n ih => exact ⟨ih.value_succ, ih.array_succ, ih.object_succ⟩

/-- The result of a call that succeeded is the result with the fuel `parseText` gives. -/
theorem parseValue_enough {n m d : ℕ} {l r : List UInt8} {j : Json}
    (h : parseValue n d l = some (j, r)) (hm : 2 * l.length < m) :
    parseValue m d l = some (j, r) :=
  ((parse_fuel n).value h).2 m (Or.inr hm)

end OasisEdge.CJson.Fuel
