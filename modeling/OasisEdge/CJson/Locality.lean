import OasisEdge.CJson.Fuel

/-! # What the parser reads

An array and an object end with a byte of their own, and inside them something always stands behind
a number; so they are read off the front of a text whatever follows (`parse_local`).

A text that starts with an object is read up to its closing brace, and the object stays the same
whatever follows; put more members in place of the brace and they are added to it (`ObjectText`,
`parseText_object`). -/

namespace OasisEdge.CJson.Locality

open OasisEdge.Lib.Chars OasisEdge.CJson.Value OasisEdge.CJson.Parse OasisEdge.CJson.Scalars
open OasisEdge.CJson.Fuel

/-! ### Keys, items and containers -/

theorem readKey_readsOff {l r : List UInt8} {k : CString} (h : readKey l = some (k, r)) :
    ReadsOff Anything readKey l k r := by
  obtain ⟨t, hs, hw⟩ := readKey_eq_some.mp h
  obtain ⟨pre, hne, rfl, hsame⟩ := (parseString_readsOff hs).skip
  obtain ⟨h32, w, rfl, hws⟩ := skipWhitespace_eq_cons hw
  refine ⟨pre ++ (w ++ [58]), by simp, by simp, fun r' _ => readKey_eq_some.mpr ⟨w ++ 58 :: r', ?_⟩⟩
  have hkey := hsame (w ++ 58 :: r') trivial
  rw [List.append_assoc, List.append_assoc]
  exact ⟨hkey, skipWhitespace_append hws h32 r'⟩

/-- An item is read off up to the byte behind it, which may be any that a number stops at. -/
theorem readItem_readsOff {n d : ℕ} {l r : List UInt8} {j : Json} {b : UInt8}
    (hv : ∀ t, parseValue n d (skipWhitespace l) = some (j, t) → Stops t →
      ReadsOff Stops (parseValue n d) (skipWhitespace l) j t)
    (hb : isNumberChar b = false) (h : readItem n d l = some ((j, b), r)) :
    ∃ pre, l = pre ++ b :: r ∧ ∀ b' r', isNumberChar b' = false → 32 < b' →
      readItem n d (pre ++ b' :: r') = some ((j, b'), r') := by
  obtain ⟨t, hvt, hw⟩ := readItem_eq_some.mp h
  obtain ⟨pre, hne, rfl, hsame⟩ := (hv t hvt (stops_of_skipWhitespace hw hb)).skip
  obtain ⟨-, w, rfl, hws⟩ := skipWhitespace_eq_cons hw
  refine ⟨pre ++ w, by simp, fun b' r' hb' h32 => ?_⟩
  have hskip : skipWhitespace (w ++ b' :: r') = b' :: r' := skipWhitespace_append hws h32 r'
  rw [List.append_assoc]
  exact readItem_eq_some.mpr ⟨_, hsame _ (stops_of_skipWhitespace hskip hb'), hskip⟩

theorem parseArray_head {n d : ℕ} {l : List UInt8} {x : List Json × List UInt8}
    (h : parseArray n d l = some x) : (skipWhitespace l).head? ≠ some 93 := by
  intro hhead
  cases n with
  | zero => simp [parseArray] at h
  | succ n =>
    rw [parseArray_succ] at h
    obtain ⟨y, hy, -⟩ := Option.bind_eq_some_iff.mp h
    obtain ⟨z, hz, -⟩ := Option.bind_eq_some_iff.mp hy
    obtain ⟨t, ht⟩ := List.head?_eq_some_iff.mp hhead
    rw [ht] at hz
    cases n with
    | zero => simp [parseValue] at hz
    | succ n =>
      rw [parseValue_scalar (by simp) (by simp)] at hz
      simp [parseScalar, isDigit] at hz

theorem parseObject_head {n d : ℕ} {l : List UInt8} {x : List (CString × Json) × List UInt8}
    (h : parseObject n d l = some x) : (skipWhitespace l).head? ≠ some 125 := by
  intro hhead
  cases n with
  | zero => simp [parseObject] at h
  | succ n =>
    rw [parseObject_succ] at h
    obtain ⟨y, hy, -⟩ := Option.bind_eq_some_iff.mp h
    obtain ⟨z, hz, -⟩ := Option.bind_eq_some_iff.mp hy
    obtain ⟨t, ht⟩ := List.head?_eq_some_iff.mp hhead
    rw [ht] at hz
    simp [parseString] at hz

theorem readContainer_readsOff {β : Type} {close : UInt8} {wrap : List β → Json}
    {loop : List UInt8 → Option (List β × List UInt8)} {d : ℕ} {l r : List UInt8} {j : Json}
    (hhead : ∀ l x, loop l = some x → (skipWhitespace l).head? ≠ some close)
    (hloop : ∀ xs, loop l = some (xs, r) → ReadsOff Anything loop l xs r)
    (h : readContainer close wrap loop d l = some (j, r)) :
    ReadsOff Anything (readContainer close wrap loop d) l j r := by
  obtain ⟨hd, ⟨hw, rfl⟩ | ⟨-, xs, hs, rfl⟩⟩ := readContainer_eq_some.mp h
  · obtain ⟨hc, w, rfl, hws⟩ := skipWhitespace_eq_cons hw
    refine ⟨w ++ [close], by simp, by simp, fun r' _ => readContainer_eq_some.mpr ⟨hd, Or.inl ?_⟩⟩
    rw [List.append_assoc]
    exact ⟨skipWhitespace_append hws hc r', rfl⟩
  · obtain ⟨pre, hne, rfl, hsame⟩ := hloop xs hs
    refine ⟨pre, hne, rfl, fun r' _ => readContainer_eq_some.mpr ⟨hd, Or.inr ?_⟩⟩
    exact ⟨hhead _ _ (hsame r' trivial), xs, hsame r' trivial, rfl⟩

/-- Members are read off up to the closing brace, and with more members in place of the brace they
are read together with these. -/
def ReadsMembers (n d : ℕ) (l : List UInt8) (ms : List (CString × Json)) (r : List UInt8) : Prop :=
  ∃ pre, l = pre ++ 125 :: r ∧ (∀ r', parseObject n d (pre ++ 125 :: r') = some (ms, r')) ∧
    ∀ m ms' l' r', parseObject m d l' = some (ms', r') →
      ∃ k, parseObject k d (pre ++ 44 :: l') = some (ms ++ ms', r')

theorem ReadsMembers.readsOff {n d : ℕ} {l r : List UInt8} {ms : List (CString × Json)}
    (h : ReadsMembers n d l ms r) : ReadsOff Anything (parseObject n d) l ms r := by
  obtain ⟨pre, rfl, hsame, -⟩ := h
  refine ⟨pre ++ [125], by simp, by simp, fun r' _ => ?_⟩
  rw [List.append_assoc]
  exact hsame r'

/-- One more member in front. -/
theorem ReadsMembers.cons {n d : ℕ} {pre l r : List UInt8} {k : CString} {j : Json}
    {ms : List (CString × Json)} (hturn : ∀ (m : ℕ) (b : UInt8) r', n ≤ m → b = 44 ∨ b = 125 →
      ∃ l₁, readKey (pre ++ b :: r') = some (k, l₁) ∧ readItem m d l₁ = some ((j, b), r'))
    (h : ReadsMembers n d l ms r) : ReadsMembers (n + 1) d (pre ++ 44 :: l) ((k, j) :: ms) r := by
  obtain ⟨pre', rfl, hsame, hmore⟩ := h
  refine ⟨pre ++ 44 :: pre', by simp, fun r' => ?_, fun m ms' l' r' hl' => ?_⟩
  · obtain ⟨l₁, hk, hi⟩ := hturn n 44 (pre' ++ 125 :: r') le_rfl (Or.inl rfl)
    rw [List.append_assoc, List.cons_append, parseObject_succ, hk]
    simp [hi, hsame r']
  · obtain ⟨i, hi⟩ := hmore m ms' l' r' hl'
    have hmax := ((parse_fuel i).object hi).2 (max n i) (Or.inl (le_max_right n i))
    obtain ⟨l₁, hk, hitem⟩ := hturn (max n i) 44 (pre' ++ 44 :: l') (le_max_left n i) (Or.inl rfl)
    refine ⟨max n i + 1, ?_⟩
    rw [List.append_assoc, List.cons_append, parseObject_succ, hk]
    simp [hitem, hmax]

theorem ReadsMembers.last {n d : ℕ} {pre r : List UInt8} {k : CString} {j : Json}
    (hturn : ∀ (m : ℕ) (b : UInt8) r', n ≤ m → b = 44 ∨ b = 125 →
      ∃ l₁, readKey (pre ++ b :: r') = some (k, l₁) ∧ readItem m d l₁ = some ((j, b), r')) :
    ReadsMembers (n + 1) d (pre ++ 125 :: r) [(k, j)] r := by
  refine ⟨pre, rfl, fun r' => ?_, fun m ms' l' r' hl' => ?_⟩
  · obtain ⟨l₁, hk, hi⟩ := hturn n 125 r' le_rfl (Or.inr rfl)
    rw [parseObject_succ, hk]
    simp [hi]
  · have hmax := ((parse_fuel m).object hl').2 (max n m) (Or.inl (le_max_right n m))
    obtain ⟨l₁, hk, hi⟩ := hturn (max n m) 44 l' (le_max_left n m) (Or.inl rfl)
    refine ⟨max n m + 1, ?_⟩
    rw [parseObject_succ, hk]
    simp [hi, hmax]

/-! ### One level of the recursion -/

/-- What is read off the front of a text with fuel `n` does not depend on the rest. -/
structure Local (n : ℕ) : Prop where
  value : ∀ {d l j r}, parseValue n d l = some (j, r) → Stops r → ReadsOff Stops (parseValue n d) l j r
  array : ∀ {d l js r}, parseArray n d l = some (js, r) → ReadsOff Anything (parseArray n d) l js r
  object : ∀ {d l ms r}, parseObject n d l = some (ms, r) → ReadsMembers n d l ms r

section
variable {n d : ℕ} {l r : List UInt8}

theorem Local.item (hn : Local n) {j : Json} {b : UInt8} (hb : isNumberChar b = false)
    (h : readItem n d l = some ((j, b), r)) : ∃ pre, l = pre ++ b :: r ∧ ∀ m b' r', n ≤ m →
      isNumberChar b' = false → 32 < b' → readItem m d (pre ++ b' :: r') = some ((j, b'), r') := by
  obtain ⟨pre, hl, hsame⟩ := readItem_readsOff (fun t hv hs => hn.value hv hs) hb h
  refine ⟨pre, hl, fun m b' r' hm hb' h32 => ?_⟩
  obtain ⟨t, hv, hw⟩ := readItem_eq_some.mp (hsame b' r' hb' h32)
  exact readItem_eq_some.mpr ⟨t, ((parse_fuel n).value hv).2 m (Or.inl hm), hw⟩

theorem Local.member (hn : Local n) {l₁ : List UInt8} {k : CString} {j : Json} {b : UInt8}
    (hb : isNumberChar b = false) (hk : readKey l = some (k, l₁))
    (hi : readItem n d l₁ = some ((j, b), r)) : ∃ pre, l = pre ++ b :: r ∧
      ∀ (m : ℕ) (b' : UInt8) r', n ≤ m → b' = 44 ∨ b' = 125 →
        ∃ l₁, readKey (pre ++ b' :: r') = some (k, l₁) ∧ readItem m d l₁ = some ((j, b'), r') := by
  obtain ⟨pre₁, -, rfl, hkey⟩ := readKey_readsOff hk
  obtain ⟨pre₂, rfl, hval⟩ := hn.item hb hi
  refine ⟨pre₁ ++ pre₂, by simp, fun m b' r' hm hb' => ⟨pre₂ ++ b' :: r', ?_, ?_⟩⟩
  · rw [List.append_assoc]; exact hkey _ trivial
  · rcases hb' with rfl | rfl
    · exact hval m 44 r' hm (by decide) (by decide)
    · exact hval m 125 r' hm (by decide) (by decide)

theorem Local.value_succ (hn : Local n) {j : Json} (h : parseValue (n + 1) d l = some (j, r))
    (hr : Stops r) : ReadsOff Stops (parseValue (n + 1) d) l j r := by
  by_cases ha : l.head? = some 91
  · obtain ⟨l, rfl⟩ := List.head?_eq_some_iff.mp ha
    rw [parseValue_bracket] at h
    obtain ⟨pre, hne, rfl, hsame⟩ := readContainer_readsOff (fun l x => parseArray_head)
      (fun xs hs => hn.array hs) h
    refine ⟨91 :: pre, by simp, by simp, fun r' _ => ?_⟩
    rw [List.cons_append, parseValue_bracket]
    exact hsame r' trivial
  by_cases ho : l.head? = some 123
  · obtain ⟨l, rfl⟩ := List.head?_eq_some_iff.mp ho
    rw [parseValue_brace] at h
    obtain ⟨pre, hne, rfl, hsame⟩ := readContainer_readsOff (fun l x => parseObject_head)
      (fun xs hs => (hn.object hs).readsOff) h
    refine ⟨123 :: pre, by simp, by simp, fun r' _ => ?_⟩
    rw [List.cons_append, parseValue_brace]
    exact hsame r' trivial
  · rw [parseValue_scalar ha ho] at h
    obtain ⟨pre, hne, rfl, hsame⟩ := parseScalar_readsOff h hr
    refine ⟨pre, hne, rfl, fun r' hr' => ?_⟩
    rw [head?_append_of_ne_nil hne r r'] at ha ho
    rw [parseValue_scalar ha ho]
    exact hsame r' hr'

theorem Local.array_succ (hn : Local n) {js : List Json}
    (h : parseArray (n + 1) d l = some (js, r)) : ReadsOff Anything (parseArray (n + 1) d) l js r := by
  rcases parseArray_cases h with ⟨j, l', js', hi, hs, rfl⟩ | ⟨j, hi, rfl⟩
  · obtain ⟨pre, rfl, hsame⟩ := hn.item (by decide) hi
    obtain ⟨pre', hne, rfl, hsame'⟩ := hn.array hs
    refine ⟨pre ++ 44 :: pre', by simp, by simp, fun r' _ => ?_⟩
    rw [List.append_assoc, List.cons_append, parseArray_succ,
      hsame n 44 _ le_rfl (by decide) (by decide)]
    simp [hsame' r' trivial]
  · obtain ⟨pre, rfl, hsame⟩ := hn.item (by decide) hi
    refine ⟨pre ++ [93], by simp, by simp, fun r' _ => ?_⟩
    rw [List.append_assoc, List.cons_append, List.nil_append, parseArray_succ,
      hsame n 93 r' le_rfl (by decide) (by decide)]
    simp

theorem Local.object_succ (hn : Local n) {ms : List (CString × Json)}
    (h : parseObject (n + 1) d l = some (ms, r)) : ReadsMembers (n + 1) d l ms r := by
  obtain ⟨k, l₁, hk, h⟩ := parseObject_cases h
  rcases h with ⟨j, l', ms', hi, hs, rfl⟩ | ⟨j, hi, rfl⟩
  · obtain ⟨pre, rfl, hpre⟩ := hn.member (by decide) hk hi
    exact (hn.object hs).cons hpre
  · obtain ⟨pre, rfl, hpre⟩ := hn.member (by decide) hk hi
    exact ReadsMembers.last hpre

end

/-- **What is read off the front of a text does not depend on the rest.** -/
theorem parse_local (n : ℕ) : Local n := by
  induction n with
  | zero =>
    refine ⟨fun h => ?_, fun h => ?_, fun h => ?_⟩
    · simp [parseValue] at h
    · simp [parseArray] at h
    · simp [parseObject] at h
  | succ n ih => exact ⟨ih.value_succ, ih.array_succ, ih.object_succ⟩

/-! ### Texts of objects -/

/-- The bytes in front of an opening brace: a byte-order mark, white space. -/
def Leads (lead : List UInt8) : Prop :=
  ∀ x, skipWhitespace (skipUtf8Bom (lead ++ 123 :: x)) = 123 :: x

theorem exists_lead {l x : List UInt8} (h : skipWhitespace (skipUtf8Bom l) = 123 :: x) :
    ∃ lead, l = lead ++ 123 :: x ∧ Leads lead := by
  unfold skipUtf8Bom at h
  split_ifs at h with hbom
  · obtain ⟨⟨t, rfl⟩, -⟩ := hbom
    obtain ⟨-, w, ht, hw⟩ := skipWhitespace_eq_cons h
    obtain rfl : t = w ++ 123 :: x := ht
    refine ⟨[0xEF, 0xBB, 0xBF] ++ w, by simp, fun y => ?_⟩
    unfold skipUtf8Bom
    rw [if_pos ⟨by simp, by simp; omega⟩]
    exact skipWhitespace_append hw (by decide) y
  · obtain ⟨-, w, rfl, hw⟩ := skipWhitespace_eq_cons h
    refine ⟨w, rfl, fun y => ?_⟩
    have hno : ¬ [0xEF, 0xBB, 0xBF] <+: w ++ 123 :: y := by
      rintro ⟨t, ht⟩
      cases w with
      | nil => simp at ht
      | cons b w =>
        obtain rfl : 0xEF = b := (List.cons.inj ht).1
        exact absurd (hw 0xEF (by simp)) (by decide)
    unfold skipUtf8Bom
    rw [if_neg fun h => hno h.1]
    exact skipWhitespace_append hw (by decide) y

/-- The object behind the lead, with whatever fuel it was read. -/
theorem parseText_lead {lead x r : List UInt8} {j : Json} {n : ℕ} (hlead : Leads lead)
    (h : readContainer 125 .obj (parseObject n 1) 0 x = some (j, r)) :
    parseText (lead ++ 123 :: x) = some (j, r) := by
  unfold parseText
  rw [hlead x]
  have hv : parseValue (n + 1) 0 (123 :: x) = some (j, r) := by rw [parseValue_brace]; exact h
  refine parseValue_enough hv ?_
  rw [List.length_append]
  omega

/-- The text of an object: what stands in front of the closing brace, and that the object depends on
nothing else. -/
structure ObjectText (front : List UInt8) (ms : List (CString × Json)) : Prop where
  same : ∀ r, parseText (front ++ 125 :: r) = some (.obj ms, r)
  more : ∀ {m ms' l r}, parseObject m 1 l = some (ms', r) →
    ∃ sep, (∀ b ∈ sep, b = 44) ∧ parseText (front ++ sep ++ l) = some (.obj (ms ++ ms'), r)

theorem parseObject_skip {w : List UInt8} (hw : ∀ b ∈ w, b ≤ 32) (n d : ℕ) (l : List UInt8) :
    parseObject n d (w ++ l) = parseObject n d l := by
  cases n with
  | zero => simp [parseObject]
  | succ n => rw [parseObject_succ, parseObject_succ, readKey, readKey, skipWhitespace_left hw]

/-- **A text that starts with an object** is read up to the closing brace. -/
theorem parseText_object {l r : List UInt8} {ms : List (CString × Json)}
    (h : parseText l = some (.obj ms, r)) : ∃ front, l = front ++ 125 :: r ∧ ObjectText front ms := by
  unfold parseText at h
  have hhead : (skipWhitespace (skipUtf8Bom l)).head? = some 123 := by
    by_contra ho
    by_cases ha : (skipWhitespace (skipUtf8Bom l)).head? = some 91
    · obtain ⟨x, hx⟩ := List.head?_eq_some_iff.mp ha
      rw [hx, parseValue_bracket] at h
      obtain ⟨-, ⟨-, hj⟩ | ⟨-, xs, -, hj⟩⟩ := readContainer_eq_some.mp h <;> cases hj
    · rw [parseValue_scalar ha ho] at h
      exact parseScalar_not_object h
  obtain ⟨x, hx⟩ := List.head?_eq_some_iff.mp hhead
  obtain ⟨lead, rfl, hlead⟩ := exists_lead hx
  rw [hx, parseValue_brace] at h
  obtain ⟨hd, ⟨hw, hj⟩ | ⟨-, ms', hs, hj⟩⟩ := readContainer_eq_some.mp h
  · obtain rfl : ms = [] := Json.obj.inj hj
    obtain ⟨-, w, rfl, hws⟩ := skipWhitespace_eq_cons hw
    refine ⟨lead ++ 123 :: w, by simp, fun r' => ?_, fun {m ms' l' r'} hl' => ⟨[], by simp, ?_⟩⟩
    · rw [List.append_assoc, List.cons_append]
      refine parseText_lead (n := 0) hlead (readContainer_eq_some.mpr ⟨hd, Or.inl ⟨?_, rfl⟩⟩)
      exact skipWhitespace_append hws (by decide) r'
    · rw [List.append_nil, List.append_assoc, List.cons_append, List.nil_append]
      have hl'' : parseObject m 1 (w ++ l') = some (ms', r') := by
        rw [parseObject_skip hws]; exact hl'
      exact parseText_lead hlead (readContainer_eq_some.mpr
        ⟨hd, Or.inr ⟨parseObject_head hl'', ms', hl'', rfl⟩⟩)
  · obtain rfl : ms = ms' := Json.obj.inj hj
    obtain ⟨pre, rfl, hsame, hmore⟩ := (parse_local _).object hs
    refine ⟨lead ++ 123 :: pre, by simp, fun r' => ?_, fun {m ms' l' r'} hl' => ⟨[44], by simp, ?_⟩⟩
    · rw [List.append_assoc, List.cons_append]
      exact parseText_lead hlead (readContainer_eq_some.mpr
        ⟨hd, Or.inr ⟨parseObject_head (hsame r'), ms, hsame r', rfl⟩⟩)
    · obtain ⟨k, hk⟩ := hmore m ms' l' r' hl'
      rw [List.append_assoc, List.append_assoc, List.cons_append, List.singleton_append]
      exact parseText_lead hlead (readContainer_eq_some.mpr
        ⟨hd, Or.inr ⟨parseObject_head hk, ms ++ ms', hk, rfl⟩⟩)

end OasisEdge.CJson.Locality
