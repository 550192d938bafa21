import OasisEdge.CJson.Parse

/-! # Reading scalars

The parser works on the rest of the text, so whether the value at the start of a text depends on
what stands behind it is a property to prove. What is read off the front of a text whatever follows
is `ReadsOff`: a string ends with its closing quote; a number ends before the first byte that is no
number character (`Stops`); the three literals are complete with their last byte. -/

namespace OasisEdge.CJson.Scalars

open OasisEdge.Lib.Chars OasisEdge.Lib.Doubles OasisEdge.CJson.Value OasisEdge.CJson.Parse

variable {α : Type}

/-- `f` reads `a` off the front of `l` and leaves `r`, and would leave any other rest of the kind
`Q` behind what it read. -/
def ReadsOff (Q : List UInt8 → Prop) (f : List UInt8 → Option (α × List UInt8)) (l : List UInt8)
    (a : α) (r : List UInt8) : Prop :=
  ∃ pre, pre ≠ [] ∧ l = pre ++ r ∧ ∀ r', Q r' → f (pre ++ r') = some (a, r')

/-- Any rest. -/
def Anything (_ : List UInt8) : Prop := True

/-- A rest before which a number ends. -/
def Stops (r : List UInt8) : Prop := ∃ c r', r = c :: r' ∧ isNumberChar c = false

theorem ReadsOff.length_lt {Q : List UInt8 → Prop} {f : List UInt8 → Option (α × List UInt8)}
    {l r : List UInt8} {a : α} (h : ReadsOff Q f l a r) : r.length < l.length := by
  obtain ⟨pre, hne, rfl, -⟩ := h
  have := List.length_pos_iff.mpr hne
  rw [List.length_append]
  omega

/-! ### White space -/

theorem skipWhitespace_cons {c : UInt8} (hc : 32 < c) (l : List UInt8) :
    skipWhitespace (c :: l) = c :: l := by
  unfold skipWhitespace
  rw [List.dropWhile_cons_of_neg (by simpa using hc)]

/-- The white space in front of a byte is skipped whatever the rest is. -/
theorem skipWhitespace_eq_cons {c : UInt8} {l l' : List UInt8} (h : skipWhitespace l = c :: l') :
    32 < c ∧ ∃ w, l = w ++ c :: l' ∧ (∀ b ∈ w, b ≤ 32) := by
  have hc : ¬ (c ≤ 32) := by
    have := List.head?_dropWhile_not (fun b : UInt8 => decide (b ≤ 32)) l
    rw [show l.dropWhile _ = c :: l' from h] at this
    simpa using this
  refine ⟨by simpa using hc, l.takeWhile (· ≤ 32), ?_, fun b hb => ?_⟩
  · rw [← h]
    exact (List.takeWhile_append_dropWhile ..).symm
  · simpa using List.mem_takeWhile_imp hb

theorem skipWhitespace_append {c : UInt8} {w : List UInt8} (hw : ∀ b ∈ w, b ≤ 32) (hc : 32 < c)
    (l : List UInt8) : skipWhitespace (w ++ c :: l) = c :: l := by
  induction w with
  | nil => exact skipWhitespace_cons hc l
  | cons b w ih =>
    have hb : b ≤ 32 := hw b (by simp)
    have ih' := ih fun x hx => hw x (List.mem_cons_of_mem _ hx)
    unfold skipWhitespace at ih' ⊢
    rw [List.cons_append, List.dropWhile_cons_of_pos (by simpa using hb), ih']

/-- White space in front makes no difference. -/
theorem skipWhitespace_left {w : List UInt8} (hw : ∀ b ∈ w, b ≤ 32) (l : List UInt8) :
    skipWhitespace (w ++ l) = skipWhitespace l := by
  unfold skipWhitespace
  rw [List.dropWhile_append_of_pos (by simpa using hw)]

theorem skipWhitespace_length_le (l : List UInt8) : (skipWhitespace l).length ≤ l.length :=
  (List.dropWhile_suffix _).length_le

theorem skipWhitespace_cons_length {b : UInt8} {l l' : List UInt8} (h : skipWhitespace l = b :: l') :
    l'.length < l.length := by
  have := skipWhitespace_length_le l
  rw [h, List.length_cons] at this
  omega

/-- No white space is a number character. -/
theorem isNumberChar_of_le {b : UInt8} (h : b ≤ 32) : isNumberChar b = false := by
  have hne : ∀ c : UInt8, ¬ c ≤ 32 → b ≠ c := by rintro c hc rfl; exact hc h
  have hdigit : ¬ 48 ≤ b := fun h48 => absurd (UInt8.le_trans h48 h) (by decide)
  simp [isNumberChar, isDigit, hdigit, hne 43 (by decide), hne 45 (by decide), hne 101 (by decide),
    hne 69 (by decide), hne 46 (by decide)]

/-- White space in front is skipped whatever is read behind it. -/
theorem ReadsOff.skip {Q : List UInt8 → Prop} {f : List UInt8 → Option (α × List UInt8)}
    {l r : List UInt8} {a : α} (h : ReadsOff Q f (skipWhitespace l) a r) :
    ReadsOff Q (fun l => f (skipWhitespace l)) l a r := by
  obtain ⟨pre, hne, hl, hsame⟩ := h
  cases pre with
  | nil => exact absurd rfl hne
  | cons c pre =>
    obtain ⟨hc, w, rfl, hw⟩ := skipWhitespace_eq_cons hl
    refine ⟨w ++ c :: pre, by simp, by simp, fun r' hr' => ?_⟩
    rw [List.append_assoc, List.cons_append]
    simp only [skipWhitespace_append hw hc]
    exact hsame r' hr'

theorem stops_of_skipWhitespace {c : UInt8} {r r' : List UInt8} (h : skipWhitespace r = c :: r')
    (hc : isNumberChar c = false) : Stops r := by
  obtain ⟨-, w, rfl, hw⟩ := skipWhitespace_eq_cons h
  cases w with
  | nil => exact ⟨c, r', rfl, hc⟩
  | cons b w => exact ⟨b, w ++ c :: r', rfl, isNumberChar_of_le (hw b (by simp))⟩

/-! ### Numbers and strings -/

theorem strtod_length {l : List UInt8} {r : Double × ℕ} (h : strtod l = some r) :
    r.2 ≤ l.length := by
  simp only [strtod] at h
  split_ifs at h
  obtain rfl := Option.some.inj h
  exact Nat.sub_le _ _

/-- Number characters up to a byte that is none, within the first 63. -/
theorem numberText_append {pre r : List UInt8} (hpre : ∀ b ∈ pre, isNumberChar b = true)
    (hlen : pre.length ≤ 63) (hr : Stops r) : numberText (pre ++ r) = pre := by
  obtain ⟨c, r', rfl, hc⟩ := hr
  unfold numberText
  rw [List.take_append, List.take_of_length_le hlen, List.takeWhile_append_of_pos hpre]
  cases h : 63 - pre.length with
  | zero => simp
  | succ k => rw [List.take_succ_cons, List.takeWhile_cons_of_neg (by simp [hc]), List.append_nil]

/-- What `numberText` takes is in front of the text, at most 63 number characters. -/
theorem numberText_prefix (l : List UInt8) : ∃ r, l = numberText l ++ r ∧
    (∀ b ∈ numberText l, isNumberChar b = true) ∧ (numberText l).length ≤ 63 := by
  refine ⟨l.drop (numberText l).length, ?_, fun b hb => List.mem_takeWhile_imp hb, ?_⟩
  · have hpre : numberText l <+: l := (List.takeWhile_prefix _).trans (List.take_prefix _ _)
    exact (List.prefix_iff_eq_append.mp hpre).symm
  · have h1 : (numberText l).length ≤ (l.take 63).length := (List.takeWhile_prefix _).length_le
    have h2 := List.length_take_le 63 l
    omega

/-- **A number** that stops is read off whatever makes it stop. -/
theorem parseNumber_readsOff {l r : List UInt8} {j : Json} (h : parseNumber l = some (j, r))
    (hr : Stops r) : ReadsOff Stops parseNumber l j r := by
  obtain ⟨⟨v, n⟩, hv, h⟩ := Option.bind_eq_some_iff.mp h
  by_cases hn : n = 0
  · rw [if_pos hn] at h; cases h
  rw [if_neg hn] at h
  obtain ⟨rfl, rfl⟩ := Prod.mk.inj (Option.some.inj h)
  have hlen := strtod_length hv
  obtain ⟨t, hl, hchars, h63⟩ := numberText_prefix l
  -- the number ends within its text, and at once if the text goes on
  have htext : numberText l = l.take n := by
    have hdrop : l.drop n = (numberText l).drop n ++ t := by
      conv_lhs => rw [hl]
      rw [List.drop_append_of_le_length hlen]
    obtain ⟨c, r', hc, hnc⟩ := hr
    have hnil : (numberText l).drop n = [] := by
      cases hd : (numberText l).drop n with
      | nil => rfl
      | cons b s =>
        rw [hdrop, hd] at hc
        obtain rfl : b = c := (List.cons.inj hc).1
        have hb := hchars b (List.mem_of_mem_drop (by rw [hd]; simp))
        rw [hnc] at hb; cases hb
    have hle : (numberText l).length ≤ n := List.drop_eq_nil_iff.mp hnil
    have hlen' : (numberText l).length = n := Nat.le_antisymm hle hlen
    conv_rhs => rw [hl, ← hlen', List.take_left']
  refine ⟨numberText l, ?_, ?_, fun r' hr' => ?_⟩
  · intro h0
    rw [h0] at hlen
    exact hn (Nat.le_zero.mp hlen)
  · rw [htext, List.take_append_drop]
  · unfold parseNumber
    rw [numberText_append hchars h63 hr', hv]
    simp only [Option.bind_some, if_neg hn]
    have hlen' : n = (numberText l).length := by
      have h1 := congrArg List.length htext
      have h2 := List.length_take_le n l
      omega
    rw [hlen', List.drop_left]

theorem closeQuote_quote (l : List UInt8) : closeQuote (34 :: l) = some ([], l) := by
  rw [closeQuote.eq_def]; rfl

theorem closeQuote_escape (c : UInt8) (l : List UInt8) :
    closeQuote (92 :: c :: l) = (closeQuote l).map fun r => (92 :: c :: r.1, r.2) := by
  rw [closeQuote.eq_def]; rfl

theorem closeQuote_plain {b : UInt8} (h34 : b ≠ 34) (h92 : b ≠ 92) (l : List UInt8) :
    closeQuote (b :: l) = (closeQuote l).map fun r => (b :: r.1, r.2) := by
  rw [closeQuote.eq_def]
  simp only [if_neg h34, if_neg h92]

/-- A literal ends with its closing quote. -/
theorem closeQuote_eq {l lit r : List UInt8} (h : closeQuote l = some (lit, r)) :
    l = lit ++ 34 :: r ∧ ∀ r', closeQuote (lit ++ 34 :: r') = some (lit, r') := by
  induction l using closeQuote.induct generalizing lit with
  | case1 => cases h
  | case2 l =>
    rw [closeQuote_quote] at h
    obtain ⟨rfl, rfl⟩ := Prod.mk.inj (Option.some.inj h)
    exact ⟨rfl, closeQuote_quote⟩
  | case3 => cases h
  | case4 c l' _ ih =>
    rw [closeQuote_escape] at h
    obtain ⟨⟨lit', r''⟩, hq, h⟩ := Option.map_eq_some_iff.mp h
    obtain ⟨rfl, rfl⟩ := Prod.mk.inj h
    obtain ⟨rfl, hsame⟩ := ih hq
    refine ⟨rfl, fun r' => ?_⟩
    rw [List.cons_append, List.cons_append, closeQuote_escape, hsame r', Option.map_some]
  | case5 b l h34 h92 ih =>
    rw [closeQuote_plain h34 h92] at h
    obtain ⟨⟨lit', r''⟩, hq, h⟩ := Option.map_eq_some_iff.mp h
    obtain ⟨rfl, rfl⟩ := Prod.mk.inj h
    obtain ⟨rfl, hsame⟩ := ih hq
    refine ⟨rfl, fun r' => ?_⟩
    rw [List.cons_append, closeQuote_plain h34 h92, hsame r', Option.map_some]

/-- **A string** is read off whatever follows it. -/
theorem parseString_readsOff {l r : List UInt8} {s : CString} (h : parseString l = some (s, r)) :
    ReadsOff Anything parseString l s r := by
  cases l with
  | nil => simp [parseString] at h
  | cons b l =>
    simp only [parseString] at h
    split_ifs at h with hb
    obtain ⟨⟨lit, t⟩, hq, h⟩ := Option.bind_eq_some_iff.mp h
    obtain ⟨bytes, hu, h⟩ := Option.map_eq_some_iff.mp h
    obtain ⟨rfl, rfl⟩ := Prod.mk.inj h
    obtain ⟨rfl, hsame⟩ := closeQuote_eq hq
    refine ⟨b :: (lit ++ [34]), by simp, by simp, fun r' _ => ?_⟩
    simp only [List.cons_append, List.append_assoc, List.nil_append, parseString, if_pos hb, hsame r',
      Option.bind_some, hu, Option.map_some]

/-! ### Scalars -/

/-- `parse_value` on anything but an array or an object. -/
def parseScalar (l : List UInt8) : Option (Json × List UInt8) :=
  if [110, 117, 108, 108] <+: l then some (.null, l.drop 4)
  else if [102, 97, 108, 115, 101] <+: l then some (.bool false, l.drop 5)
  else if [116, 114, 117, 101] <+: l then some (.bool true, l.drop 4)
  else match l with
  | [] => none
  | b :: _ =>
    if b = 34 then (parseString l).map fun r => (.str r.1, r.2)
    else if b = 45 ∨ isDigit b then parseNumber l
    else none

theorem parseValue_scalar {l : List UInt8} (ha : l.head? ≠ some 91) (ho : l.head? ≠ some 123)
    (n d : ℕ) : parseValue (n + 1) d l = parseScalar l := by
  cases l with
  | nil => rfl
  | cons b l =>
    have hb : b ≠ 91 := by rintro rfl; exact ha rfl
    have hc : b ≠ 123 := by rintro rfl; exact ho rfl
    simp only [parseValue, parseScalar, if_neg hb, if_neg hc]

/-- The three ways a scalar is read. -/
theorem parseScalar_cases {l : List UInt8} {x : Json × List UInt8} (h : parseScalar l = some x) :
    (∃ lit j t, l = lit ++ t ∧ lit ≠ [] ∧ x = (j, t) ∧ ∀ t', parseScalar (lit ++ t') = some (j, t')) ∨
      (∃ s t, l.head? = some 34 ∧ parseString l = some (s, t) ∧ x = (.str s, t)) ∨
        (∃ b, l.head? = some b ∧ (b = 45 ∨ isDigit b = true) ∧ parseNumber l = some x) := by
  have hlit : ∀ (lit : List UInt8) (j : Json), lit ≠ [] → lit <+: l → x = (j, l.drop lit.length) →
      (∀ t', parseScalar (lit ++ t') = some (j, t')) → ∃ lit j t, l = lit ++ t ∧ lit ≠ [] ∧
        x = (j, t) ∧ ∀ t', parseScalar (lit ++ t') = some (j, t') := by
    rintro lit j hne ⟨t, rfl⟩ rfl hall
    exact ⟨lit, j, t, rfl, hne, by rw [List.drop_left], hall⟩
  unfold parseScalar at h
  split_ifs at h with h1 h2 h3
  · exact Or.inl (hlit _ .null (by simp) h1 (Option.some.inj h).symm
      fun t' => by simp [parseScalar])
  · exact Or.inl (hlit _ (.bool false) (by simp) h2 (Option.some.inj h).symm
      fun t' => by simp [parseScalar])
  · exact Or.inl (hlit _ (.bool true) (by simp) h3 (Option.some.inj h).symm
      fun t' => by simp [parseScalar])
  · cases l with
    | nil => cases h
    | cons b l =>
      simp only at h
      split_ifs at h with h34 hnum
      · obtain ⟨⟨s, t⟩, hs, rfl⟩ := Option.map_eq_some_iff.mp h
        exact Or.inr (Or.inl ⟨s, t, by rw [h34]; rfl, hs, rfl⟩)
      · exact Or.inr (Or.inr ⟨b, rfl, hnum, h⟩)

theorem parseScalar_string {l : List UInt8} (h : l.head? = some 34) :
    parseScalar l = (parseString l).map fun r => (.str r.1, r.2) := by
  cases l with
  | nil => cases h
  | cons b l =>
    obtain rfl := Option.some.inj h
    simp [parseScalar]

theorem parseScalar_number {l : List UInt8} {b : UInt8} (h : l.head? = some b)
    (hb : b = 45 ∨ isDigit b = true) : parseScalar l = parseNumber l := by
  cases l with
  | nil => cases h
  | cons c l =>
    obtain rfl := Option.some.inj h
    have hne : ∀ k : UInt8, ¬ (k = 45 ∨ isDigit k = true) → k ≠ c := by rintro k hk rfl; exact hk hb
    simp [parseScalar, hne 110 (by decide), hne 102 (by decide), hne 116 (by decide),
      (hne 34 (by decide)).symm, hb]

theorem parseNumber_length {l r : List UInt8} {j : Json} (h : parseNumber l = some (j, r)) :
    r.length < l.length := by
  obtain ⟨⟨v, n⟩, hv, h⟩ := Option.bind_eq_some_iff.mp h
  split_ifs at h with hn
  obtain ⟨rfl, rfl⟩ := Prod.mk.inj (Option.some.inj h)
  have h1 := strtod_length hv
  obtain ⟨t, hl, -⟩ := numberText_prefix l
  have h2 := congrArg List.length hl
  rw [List.length_append] at h2
  rw [List.length_drop]
  simp only at hn h1 ⊢
  omega

/-- What follows a front part does not change the first byte. -/
theorem head?_append_of_ne_nil {pre : List UInt8} (h : pre ≠ []) (r r' : List UInt8) :
    (pre ++ r).head? = (pre ++ r').head? := by
  cases pre with
  | nil => exact absurd rfl h
  | cons b pre => rfl

/-- **A scalar** is read off whatever makes it stop. -/
theorem parseScalar_readsOff {l r : List UInt8} {j : Json} (h : parseScalar l = some (j, r))
    (hr : Stops r) : ReadsOff Stops parseScalar l j r := by
  rcases parseScalar_cases h with ⟨lit, j', t, hl, hne, hx, hall⟩ | ⟨s, t, hh, hs, hx⟩ | ⟨b, hh, hb, hn⟩
  · obtain ⟨rfl, rfl⟩ := Prod.mk.inj hx
    exact ⟨lit, hne, hl, fun r' _ => hall r'⟩
  · obtain ⟨rfl, rfl⟩ := Prod.mk.inj hx
    obtain ⟨pre, hne, rfl, hsame⟩ := parseString_readsOff hs
    refine ⟨pre, hne, rfl, fun r' _ => ?_⟩
    rw [parseScalar_string (by rw [head?_append_of_ne_nil hne r' r]; exact hh), hsame r' trivial]
    rfl
  · obtain ⟨pre, hne, rfl, hsame⟩ := parseNumber_readsOff hn hr
    refine ⟨pre, hne, rfl, fun r' hr' => ?_⟩
    rw [parseScalar_number (by rw [head?_append_of_ne_nil hne r' r]; exact hh) hb]
    exact hsame r' hr'

theorem parseScalar_not_object {l r : List UInt8} {ms : List (CString × Json)} :
    parseScalar l ≠ some (.obj ms, r) := by
  intro h
  unfold parseScalar at h
  split_ifs at h
  · cases h
  · cases h
  · cases h
  · cases l with
    | nil => cases h
    | cons b l =>
      simp only at h
      split_ifs at h
      · obtain ⟨s, -, hs⟩ := Option.map_eq_some_iff.mp h
        cases hs
      · obtain ⟨v, -, h⟩ := Option.bind_eq_some_iff.mp h
        split_ifs at h
        cases h

theorem parseScalar_length {l r : List UInt8} {j : Json} (h : parseScalar l = some (j, r)) :
    r.length < l.length := by
  rcases parseScalar_cases h with ⟨lit, j', t, rfl, hne, hx, -⟩ | ⟨s, t, -, hs, hx⟩ | ⟨b, -, -, hn⟩
  · obtain ⟨rfl, rfl⟩ := Prod.mk.inj hx
    have := List.length_pos_iff.mpr hne
    rw [List.length_append]
    omega
  · obtain ⟨rfl, rfl⟩ := Prod.mk.inj hx
    exact (parseString_readsOff hs).length_lt
  · exact parseNumber_length hn

end OasisEdge.CJson.Scalars
