import OasisEdge.CJson.Print
import OasisEdge.CJson.Locality

/-! # What is printed is parsed back

A printed string is parsed to itself (`parseString_printStringPtr`): each character is read back from
what the copying loop wrote for it. A printed value is parsed to `reparse` of it if the nesting is
within the parser's limit (`parseValue_printValue`), formatted or not and whatever follows that does
not go on with a number.

Everything the parser builds can be printed and is within its own limit (`parse_printable`). So for
each text that is parsed, printing the item and parsing it again gives `reparse` of it
(`cjsonParse_cjsonPrint`), which is what `SHADOW_Connect_Rsp` relies on when it prints each entry of
a list and parses it again. -/

namespace OasisEdge.CJson.RoundTrip

open OasisEdge.Lib.Chars OasisEdge.Lib.Doubles OasisEdge.Lib.Nearest OasisEdge.Lib.Hexadecimal
open OasisEdge.CJson.Value OasisEdge.CJson.Parse OasisEdge.CJson.Scalars OasisEdge.CJson.Fuel
open OasisEdge.CJson.Locality OasisEdge.CJson.Numbers OasisEdge.CJson.Print

/-! ### Strings -/

/-- The characters of the escape sequence `\\u00XX`. -/
theorem formatHex_four {n : ℕ} (h : n < 32) : ∃ a b, formatHex 4 n = [48, 48, a, b] ∧
    (∀ c ∈ [48, 48, a, b], c ≠ 34 ∧ c ≠ 92) ∧ parseHex4 [48, 48, a, b] = n := by
  have hall : ∀ n < 32, (formatHex 4 n).length = 4 ∧ (formatHex 4 n).take 2 = [48, 48] ∧
      ((formatHex 4 n).all fun c => decide (c ≠ 34 ∧ c ≠ 92)) = true ∧ parseHex4 (formatHex 4 n) = n := by
    decide
  obtain ⟨hlen, htake, hplain, hparse⟩ := hall n h
  obtain ⟨x, y, a, b, hdigits⟩ := List.length_eq_four.mp hlen
  rw [hdigits] at htake hplain hparse ⊢
  obtain ⟨rfl, rfl⟩ : x = 48 ∧ y = 48 := by simpa using htake
  exact ⟨a, b, rfl, fun c hc => of_decide_eq_true (List.all_eq_true.mp hplain c hc), hparse⟩

theorem escapeChar_cases (c : UInt8) :
    (escapeChar c = [c] ∧ c ≠ 34 ∧ c ≠ 92) ∨
      (∃ e, escapeChar c = [92, e] ∧ ∀ l, escape (92 :: e :: l) = some ([c], 2)) ∨
        escapeChar c = 92 :: 117 :: formatHex 4 c.toNat ∧ c.toNat < 32 := by
  unfold escapeChar
  split_ifs with h0 h1 h2 h3 h4 h5 h6 h7
  · exact Or.inl ⟨rfl, h0.2⟩
  · subst h1; exact Or.inr (Or.inl ⟨_, rfl, fun l => rfl⟩)
  · subst h2; exact Or.inr (Or.inl ⟨_, rfl, fun l => rfl⟩)
  · subst h3; exact Or.inr (Or.inl ⟨_, rfl, fun l => rfl⟩)
  · subst h4; exact Or.inr (Or.inl ⟨_, rfl, fun l => rfl⟩)
  · subst h5; exact Or.inr (Or.inl ⟨_, rfl, fun l => rfl⟩)
  · subst h6; exact Or.inr (Or.inl ⟨_, rfl, fun l => rfl⟩)
  · subst h7; exact Or.inr (Or.inl ⟨_, rfl, fun l => rfl⟩)
  · refine Or.inr (Or.inr ⟨rfl, ?_⟩)
    have hle : ¬ (31 : UInt8) < c := fun h => h0 ⟨h, h2, h1⟩
    rw [UInt8.lt_iff_toNat_lt] at hle
    have h31 : (31 : UInt8).toNat = 31 := rfl
    omega

theorem closeQuote_escaped (s r : List UInt8) :
    closeQuote (s.flatMap escapeChar ++ 34 :: r) = some (s.flatMap escapeChar, r) := by
  induction s with
  | nil => exact closeQuote_quote r
  | cons c s ih =>
    rw [List.flatMap_cons, List.append_assoc]
    rcases escapeChar_cases c with ⟨hc, h34, h92⟩ | ⟨e, hc, -⟩ | ⟨hc, hlt⟩
    · rw [hc, List.singleton_append, closeQuote_plain h34 h92, ih]
      rfl
    · rw [hc]
      simp only [List.cons_append, List.nil_append]
      rw [closeQuote_escape, ih]
      rfl
    · obtain ⟨a, b, hhex, hne, -⟩ := formatHex_four hlt
      have ha := hne a (by simp)
      have hb := hne b (by simp)
      rw [hc, hhex]
      simp only [List.cons_append, List.nil_append]
      rw [closeQuote_escape, closeQuote_plain (by decide) (by decide),
        closeQuote_plain (by decide) (by decide), closeQuote_plain ha.1 ha.2,
        closeQuote_plain hb.1 hb.2, ih]
      rfl

theorem escape_utf16 {c : UInt8} (hc : c.toNat < 32) (l : List UInt8) :
    escape (92 :: 117 :: formatHex 4 c.toNat ++ l) = some ([c], 6) := by
  obtain ⟨a, b, hhex, -, hval⟩ := formatHex_four hc
  have htake : parseHex4 (48 :: 48 :: a :: b :: l) = c.toNat := by
    rw [← hval]
    rfl
  rw [hhex]
  show utf16LiteralToUtf8 (92 :: 117 :: 48 :: 48 :: a :: b :: l) = _
  unfold utf16LiteralToUtf8
  simp only [List.drop_succ_cons, List.drop_zero, htake]
  rw [if_neg (by simp), if_neg (by omega), if_neg (by omega), utf8, if_pos (by omega)]
  simp

theorem unescape_escaped (s : List UInt8) : ∀ n, (s.flatMap escapeChar).length ≤ n →
    unescape n (s.flatMap escapeChar) = some s := by
  induction s with
  | nil => intro n _; rw [List.flatMap_nil, unescape.eq_def]
  | cons c s ih =>
    intro n hn
    rw [List.flatMap_cons] at hn ⊢
    rw [List.length_append] at hn
    rcases escapeChar_cases c with ⟨hc, h34, h92⟩ | ⟨e, hc, hesc⟩ | ⟨hc, hlt⟩
    · rw [hc] at hn ⊢
      obtain ⟨n, rfl⟩ := Nat.exists_eq_succ_of_ne_zero (show n ≠ 0 by
        rw [List.length_singleton] at hn; omega)
      rw [List.singleton_append, unescape, if_pos h92, ih n (by rw [List.length_singleton] at hn; omega)]
      rfl
    · rw [hc] at hn ⊢
      have hlen : [92, e].length = 2 := rfl
      obtain ⟨n, rfl⟩ := Nat.exists_eq_succ_of_ne_zero (show n ≠ 0 by omega)
      simp only [List.cons_append, List.nil_append]
      rw [unescape, if_neg (by simp), hesc, Option.bind_some]
      simp only [List.drop_succ_cons, List.drop_zero]
      rw [ih n (by omega)]
      rfl
    · rw [hc] at hn ⊢
      obtain ⟨a, b, hhex, -⟩ := formatHex_four hlt
      have hlen : (92 :: 117 :: formatHex 4 c.toNat).length = 6 := by rw [hhex]; rfl
      obtain ⟨n, rfl⟩ := Nat.exists_eq_succ_of_ne_zero (show n ≠ 0 by omega)
      have hesc := escape_utf16 hlt (s.flatMap escapeChar)
      simp only [List.cons_append] at hesc ⊢
      rw [unescape, if_neg (by simp), hesc, Option.bind_some, hhex]
      simp only [List.cons_append, List.nil_append, List.drop_succ_cons, List.drop_zero]
      rw [ih n (by omega)]
      rfl

/-- **A printed string is parsed back.** -/
theorem parseString_printStringPtr (s : CString) (r : List UInt8) :
    parseString (printStringPtr s ++ r) = some (s, r) := by
  have hbytes : CString.ofBytes s.bytes = s := by
    ext1
    exact CString.bytes_ofBytes s.noNul
  unfold printStringPtr parseString
  simp only [List.cons_append, List.append_assoc, List.nil_append, if_true]
  rw [closeQuote_escaped, Option.bind_some, unescape_escaped _ _ le_rfl, Option.map_some, hbytes]

/-! ### The start of a value -/

/-- How the text of a value starts: no white space, no closing bracket, and not the mark of a coding. -/
def Opens (l : List UInt8) : Prop := ∃ b t, l = b :: t ∧ 32 < b ∧ b ≠ 93 ∧ b ≠ 239

theorem Opens.append {l : List UInt8} (h : Opens l) (r : List UInt8) : Opens (l ++ r) := by
  obtain ⟨b, t, rfl, hb⟩ := h
  exact ⟨b, t ++ r, rfl, hb⟩

theorem Opens.skipWhitespace_eq {l : List UInt8} (h : Opens l) : skipWhitespace l = l := by
  obtain ⟨b, t, rfl, hb, -⟩ := h
  exact skipWhitespace_cons hb t

theorem opens_printValue (format : Bool) (depth : ℕ) {j : Json} (h : Printable j) :
    Opens (printValue format depth j) := by
  rcases j with _ | b | d | s | items | members
  · exact ⟨110, _, rfl, by decide⟩
  · rcases b with _ | _
    · exact ⟨102, _, rfl, by decide⟩
    · exact ⟨116, _, rfl, by decide⟩
  · rw [printValue]
    rcases printable_num h with ⟨hd, -⟩ | ⟨hnull, -⟩
    · obtain ⟨b, hhead, hb⟩ := (numberText_printNumber hd).head
      obtain ⟨t, ht⟩ := List.head?_eq_some_iff.mp hhead
      refine ⟨b, t, ht, ?_⟩
      have hdigit : ∀ c : UInt8, (c < 45 ∨ 57 < c) → b ≠ c := by
        rintro c hc rfl
        rcases hb with rfl | hb
        · revert hc; decide
        · simp only [isDigit, Bool.and_eq_true, decide_eq_true_eq, UInt8.le_iff_toNat_le] at hb
          simp only [UInt8.lt_iff_toNat_lt] at hc
          change 48 ≤ b.toNat ∧ b.toNat ≤ 57 at hb
          change b.toNat < 45 ∨ 57 < b.toNat at hc
          omega
      refine ⟨?_, hdigit 93 (by decide), hdigit 239 (by decide)⟩
      by_contra hle
      have h45 : (32 : UInt8) < 45 := by decide
      exact hdigit b (Or.inl (UInt8.lt_of_le_of_lt (UInt8.not_lt.mp hle) h45)) rfl
    · exact ⟨110, _, hnull, by decide⟩
  · exact ⟨34, _, rfl, by decide⟩
  · exact ⟨91, _, rfl, by decide⟩
  · exact ⟨123, _, rfl, by decide⟩

/-! ### Nesting -/

mutual

/-- How deep arrays and objects are nested in an item. -/
def height : Json → ℕ
  | .arr items => heightItems items + 1
  | .obj members => heightMembers members + 1
  | _ => 0

/-- The same for the items of an array. -/
def heightItems : List Json → ℕ
  | [] => 0
  | x :: xs => max (height x) (heightItems xs)

/-- The same for the members of an object. -/
def heightMembers : List (CString × Json) → ℕ
  | [] => 0
  | (_, x) :: ms => max (height x) (heightMembers ms)

end

/-! ### Values -/

theorem ends_of_skipWhitespace {c : UInt8} {l l' : List UInt8} (h : skipWhitespace l = c :: l')
    (hc : isNumberChar c = false) : Ends l := by
  obtain ⟨b, t, rfl, hb⟩ := stops_of_skipWhitespace h hc
  rintro b' ⟨⟩
  exact hb

theorem formatted_le {format : Bool} {l : List UInt8} (h : ∀ b ∈ l, b ≤ 32) :
    ∀ b ∈ formatted format l, b ≤ 32 := by
  unfold formatted
  split_ifs
  · exact h
  · simp

theorem tabs_le {depth : ℕ} : ∀ b ∈ tabs depth, b ≤ 32 := by
  intro b hb
  rw [(List.mem_replicate.mp hb).2]
  decide

theorem parseArray_skip {w : List UInt8} (hw : ∀ b ∈ w, b ≤ 32) (n d : ℕ) (l : List UInt8) :
    parseArray n d (w ++ l) = parseArray n d l := by
  rcases n with _ | n
  · rfl
  · rw [parseArray_succ, parseArray_succ]
    unfold readItem
    rw [skipWhitespace_left hw]

theorem parseScalar_printValue (format : Bool) (depth : ℕ) {j : Json} (hj : Printable j)
    (hs : height j = 0) {r : List UInt8} (hr : Ends r) :
    parseScalar (printValue format depth j ++ r) = some (reparse j, r) := by
  rcases j with _ | b | d | s | items | members
  · simp [printValue, parseScalar, reparse]
  · rcases b with _ | _ <;> simp [printValue, parseScalar, reparse]
  · rw [printValue]
    rcases printable_num hj with ⟨hd, hkept⟩ | ⟨hnull, hkept⟩ <;> rw [hkept]
    · obtain ⟨b, hhead, hb⟩ := (numberText_printNumber hd).head
      refine (parseScalar_number ?_ hb).trans (parseNumber_printNumber hd hr)
      rw [List.head?_append, hhead]
      rfl
    · rw [hnull]
      simp [parseScalar]
  · rw [printValue, reparse, parseScalar_string rfl, parseString_printStringPtr]
    rfl
  · simp [height] at hs
  · simp [height] at hs

/-- A container is no scalar. -/
theorem parseScalar_container {b : UInt8} (hb : b = 91 ∨ b = 123) (l : List UInt8) :
    parseScalar (b :: l) = none := by
  have h91 : isDigit 91 = false := by decide
  have h123 : isDigit 123 = false := by decide
  rcases hb with rfl | rfl
  · simp [parseScalar, h91]
  · simp [parseScalar, h123]

theorem parseValue_printScalar {format : Bool} {depth d n : ℕ} {j : Json} {r : List UInt8}
    (hj : Printable j) (hs : height j = 0) (hr : Ends r)
    (hn : 2 * (printValue format depth j ++ r).length < n) :
    parseValue n d (printValue format depth j ++ r) = some (reparse j, r) := by
  obtain ⟨n, rfl⟩ := Nat.exists_eq_succ_of_ne_zero (show n ≠ 0 by omega)
  have hread := parseScalar_printValue format depth hj hs hr
  rw [parseValue_scalar, hread]
  all_goals
    intro hhead
    obtain ⟨l, hl⟩ := List.head?_eq_some_iff.mp hhead
    rw [hl, parseScalar_container (by decide)] at hread
    cases hread

mutual

/-- **A printed value is parsed back**, whatever makes it end. -/
theorem parseValue_printValue (format : Bool) : ∀ {j : Json} (depth : ℕ) {d n : ℕ} {r : List UInt8},
    Printable j → d + height j ≤ CJSON_NESTING_LIMIT → Ends r →
    2 * (printValue format depth j ++ r).length < n →
    parseValue n d (printValue format depth j ++ r) = some (reparse j, r)
  | .arr [], depth, d, n, r, _, hd, _, hn => by
    obtain ⟨n, rfl⟩ := Nat.exists_eq_succ_of_ne_zero (show n ≠ 0 by omega)
    rw [height] at hd
    simp only [printValue, printItems, List.cons_append, List.nil_append, parseValue_bracket]
    exact readContainer_eq_some.mpr ⟨by omega, Or.inl ⟨skipWhitespace_cons (by decide) r, rfl⟩⟩
  | .arr (x :: xs), depth, d, n, r, hj, hd, _, hn => by
    obtain ⟨n, rfl⟩ := Nat.exists_eq_succ_of_ne_zero (show n ≠ 0 by omega)
    rw [height] at hd
    rw [printValue, List.append_assoc, List.singleton_append, List.cons_append] at hn ⊢
    rw [List.length_cons] at hn
    have hopens : Opens (printItems format (depth + 1) (x :: xs) ++ 93 :: r) := by
      rw [printItems, List.append_assoc, List.append_assoc]
      exact (opens_printValue _ _ hj.1).append _
    rw [parseValue_bracket]
    refine readContainer_eq_some.mpr ⟨by omega, Or.inr ⟨?_, reparseItems (x :: xs), ?_, by rw [reparse]⟩⟩
    · rw [hopens.skipWhitespace_eq]
      obtain ⟨b, t, hb, -, h93, -⟩ := hopens
      rw [hb]
      simpa using h93
    · exact parseArray_printItems _ _ (List.cons_ne_nil x xs) hj (by omega) (by omega)
  | .obj [], depth, d, n, r, _, hd, _, hn => by
    obtain ⟨n, rfl⟩ := Nat.exists_eq_succ_of_ne_zero (show n ≠ 0 by omega)
    rw [height] at hd
    simp only [printValue, printMembers, List.cons_append, List.append_assoc, List.append_nil,
      List.nil_append, parseValue_brace]
    refine readContainer_eq_some.mpr ⟨by omega, Or.inl ⟨?_, rfl⟩⟩
    rw [← List.append_assoc, skipWhitespace_left fun b hb => ?_]
    · exact skipWhitespace_cons (by decide) r
    · rcases List.mem_append.mp hb with hb | hb
      · exact formatted_le (by simp) b hb
      · exact formatted_le tabs_le b hb
  | .obj ((k, x) :: ms), depth, d, n, r, hj, hd, _, hn => by
    obtain ⟨n, rfl⟩ := Nat.exists_eq_succ_of_ne_zero (show n ≠ 0 by omega)
    rw [height] at hd
    simp only [printValue, List.append_assoc, List.nil_append, List.cons_append] at hn ⊢
    rw [List.length_cons, List.length_append] at hn
    have hloop := parseObject_printMembers format (depth + 1) (d := d + 1) (n := n)
      (w := formatted format (tabs depth)) (r := r) (List.cons_ne_nil (k, x) ms) hj
      (formatted_le tabs_le) (by omega) (by omega)
    rw [parseValue_brace]
    refine readContainer_eq_some.mpr
      ⟨by omega, Or.inr ⟨?_, reparseMembers ((k, x) :: ms), ?_, by rw [reparse]⟩⟩
    · rw [skipWhitespace_left (formatted_le (by simp))]
      exact parseObject_head hloop
    · rw [parseObject_skip (formatted_le (by simp))]
      exact hloop
  | .null, depth, d, n, r, hj, hd, hr, hn => parseValue_printScalar hj rfl hr hn
  | .bool b, depth, d, n, r, hj, hd, hr, hn => parseValue_printScalar hj rfl hr hn
  | .num q, depth, d, n, r, hj, hd, hr, hn => parseValue_printScalar hj rfl hr hn
  | .str s, depth, d, n, r, hj, hd, hr, hn => parseValue_printScalar hj rfl hr hn

theorem parseArray_printItems (format : Bool) : ∀ {items : List Json} (depth : ℕ) {d n : ℕ} {r : List UInt8},
    items ≠ [] → PrintableItems items → d + heightItems items ≤ CJSON_NESTING_LIMIT →
    2 * (printItems format depth items ++ 93 :: r).length + 1 < n →
    parseArray n d (printItems format depth items ++ 93 :: r) = some (reparseItems items, r)
  | [], _, _, _, _, hne, _, _, _ => absurd rfl hne
  | x :: xs, depth, d, n, r, _, hj, hd, hn => by
    obtain ⟨n, rfl⟩ := Nat.exists_eq_succ_of_ne_zero (show n ≠ 0 by omega)
    rw [heightItems] at hd
    have hopens := opens_printValue format depth hj.1
    rw [printItems, List.append_assoc, List.append_assoc] at hn ⊢
    rw [List.length_append, List.length_append] at hn
    rw [parseArray_succ]
    rcases xs with _ | ⟨y, ys⟩
    · simp only [if_true, List.nil_append, printItems] at hn ⊢
      have hx := parseValue_printValue format depth (d := d) (n := n) (r := 93 :: r)
        hj.1 (by omega) (by rintro b ⟨⟩; rfl) (by rw [List.length_append]; omega)
      have hitem : readItem n d (printValue format depth x ++ 93 :: r) = some ((reparse x, 93), r) :=
        readItem_eq_some.mpr ⟨93 :: r, by rw [(hopens.append _).skipWhitespace_eq, hx],
          skipWhitespace_cons (by decide) r⟩
      rw [hitem]
      simp [reparseItems]
    · simp only [reduceCtorEq, if_false, List.cons_append] at hn ⊢
      rw [List.length_cons, List.length_append] at hn
      have hx := parseValue_printValue format depth (d := d) (n := n)
        (r := 44 :: (formatted format [32] ++ (printItems format depth (y :: ys) ++ 93 :: r)))
        hj.1 (by omega) (by rintro b ⟨⟩; rfl)
        (by simp only [List.length_append, List.length_cons] at hn ⊢; omega)
      have hxs := parseArray_printItems format depth (d := d) (n := n) (r := r)
        (List.cons_ne_nil y ys) hj.2 (by omega) (by rw [List.length_append]; omega)
      have hitem := readItem_eq_some.mpr ⟨_, by rw [(hopens.append _).skipWhitespace_eq, hx],
        skipWhitespace_cons (by decide) (formatted format [32] ++
          (printItems format depth (y :: ys) ++ 93 :: r))⟩
      rw [hitem, Option.bind_some]
      simp only [if_true]
      rw [parseArray_skip (formatted_le (by simp)), hxs]
      rfl

theorem parseObject_printMembers (format : Bool) : ∀ {members : List (CString × Json)}
    (depth : ℕ) {d n : ℕ} {w r : List UInt8}, members ≠ [] → PrintableMembers members →
    (∀ b ∈ w, b ≤ 32) → d + heightMembers members ≤ CJSON_NESTING_LIMIT →
    2 * (printMembers format depth members ++ (w ++ 125 :: r)).length + 1 < n →
    parseObject n d (printMembers format depth members ++ (w ++ 125 :: r)) =
      some (reparseMembers members, r)
  | [], _, _, _, _, _, hne, _, _, _, _ => absurd rfl hne
  | (k, x) :: ms, depth, d, n, w, r, _, hj, hw, hd, hn => by
    obtain ⟨n, rfl⟩ := Nat.exists_eq_succ_of_ne_zero (show n ≠ 0 by omega)
    rw [heightMembers] at hd
    have hopens := opens_printValue format depth hj.1
    -- what stands behind the value
    obtain ⟨tail, htail⟩ : ∃ tail, tail = (if ms = [] then [] else [44]) ++
        (formatted format [10] ++ (printMembers format depth ms ++ (w ++ 125 :: r))) := ⟨_, rfl⟩
    have htext : printMembers format depth ((k, x) :: ms) ++ (w ++ 125 :: r) =
        formatted format (tabs depth) ++ (printStringPtr k ++
          58 :: (formatted format [9] ++ (printValue format depth x ++ tail))) := by
      rw [printMembers, htail]
      simp only [List.append_assoc, List.cons_append]
    rw [htext] at hn ⊢
    simp only [List.length_append, List.length_cons] at hn
    have hkey : readKey (formatted format (tabs depth) ++ (printStringPtr k ++
        58 :: (formatted format [9] ++ (printValue format depth x ++ tail)))) =
          some (k, formatted format [9] ++ (printValue format depth x ++ tail)) := by
      refine readKey_eq_some.mpr ⟨_, ?_, skipWhitespace_cons (by decide) _⟩
      rw [skipWhitespace_left (formatted_le tabs_le)]
      exact (congrArg parseString (skipWhitespace_cons (by decide) _)).trans
        (parseString_printStringPtr k _)
    have hitem : ∀ {b : UInt8} {l : List UInt8}, Ends tail → skipWhitespace tail = b :: l →
        readItem n d (formatted format [9] ++ (printValue format depth x ++ tail)) =
          some ((reparse x, b), l) := by
      intro b l hends hskip
      refine readItem_eq_some.mpr ⟨tail, ?_, hskip⟩
      rw [skipWhitespace_left (formatted_le (by simp)), (hopens.append _).skipWhitespace_eq]
      exact parseValue_printValue _ _ hj.1 (by omega) hends (by rw [List.length_append]; omega)
    rw [parseObject_succ, hkey, Option.bind_some]
    rcases ms with _ | ⟨⟨k', x'⟩, ms⟩
    · simp only [if_true, List.nil_append, printMembers] at htail
      have hblank : ∀ b ∈ formatted format [10] ++ w, b ≤ 32 := by
        intro b hb
        rcases List.mem_append.mp hb with hb | hb
        · exact formatted_le (by simp) b hb
        · exact hw b hb
      rw [← List.append_assoc] at htail
      have hskip : skipWhitespace tail = 125 :: r := by
        rw [htail, skipWhitespace_left hblank]
        exact skipWhitespace_cons (by decide) r
      rw [hitem (ends_of_skipWhitespace hskip rfl) hskip]
      simp [reparseMembers]
    · simp only [reduceCtorEq, if_false, List.singleton_append] at htail
      have hskip : skipWhitespace tail = 44 :: (formatted format [10] ++
          (printMembers format depth ((k', x') :: ms) ++ (w ++ 125 :: r))) := by
        rw [htail]
        exact skipWhitespace_cons (by decide) _
      have hms := parseObject_printMembers format depth (d := d) (n := n) (r := r)
        (List.cons_ne_nil (k', x') ms) hj.2 hw (by omega) (by
          rw [htail, List.length_cons, List.length_append] at hn
          omega)
      rw [hitem (ends_of_skipWhitespace hskip rfl) hskip, Option.bind_some]
      simp only [if_true]
      rw [parseObject_skip (formatted_le (by simp)), hms]
      rfl

end

/-! ### What the parser builds -/

theorem isDouble_decimal {neg : Bool} {m : ℕ} {e : ℤ} {q : ℚ} (h : decimal neg m e = .fin q) :
    IsDouble q := by
  unfold decimal at h
  by_cases h0 : m = 0 ∨ e < -500
  · rw [if_pos h0] at h
    split_ifs at h
    obtain rfl := Double.fin.inj h
    exact_mod_cast isDouble_intCast (z := 0) (by norm_num)
  rw [if_neg h0] at h
  by_cases hover : 400 < e
  · rw [if_pos hover] at h
    split_ifs at h
  · rw [if_neg hover] at h
    exact isDouble_of_ofRat h

theorem printable_of_parseNumber {l r : List UInt8} {j : Json} (h : parseNumber l = some (j, r)) :
    Printable j ∧ height j = 0 := by
  obtain ⟨⟨v, n⟩, hv, h⟩ := Option.bind_eq_some_iff.mp h
  split_ifs at h
  obtain ⟨rfl, -⟩ := Prod.mk.inj (Option.some.inj h)
  refine ⟨?_, rfl⟩
  rcases v with _ | _ | q | _
  · trivial
  · trivial
  · unfold strtod at hv
    simp only at hv
    split_ifs at hv
    exact isDouble_decimal (Prod.mk.inj (Option.some.inj hv)).1
  · trivial

theorem printable_of_parseScalar {l r : List UInt8} {j : Json} (h : parseScalar l = some (j, r)) :
    Printable j ∧ height j = 0 := by
  unfold parseScalar at h
  split_ifs at h
  · obtain ⟨rfl, -⟩ := Prod.mk.inj (Option.some.inj h)
    exact ⟨trivial, rfl⟩
  · obtain ⟨rfl, -⟩ := Prod.mk.inj (Option.some.inj h)
    exact ⟨trivial, rfl⟩
  · obtain ⟨rfl, -⟩ := Prod.mk.inj (Option.some.inj h)
    exact ⟨trivial, rfl⟩
  · rcases l with _ | ⟨b, l⟩
    · cases h
    simp only at h
    split_ifs at h
    · obtain ⟨⟨s, t⟩, -, hs⟩ := Option.map_eq_some_iff.mp h
      obtain ⟨rfl, -⟩ := Prod.mk.inj hs
      exact ⟨trivial, rfl⟩
    · exact printable_of_parseNumber h

/-- What the three functions build with fuel `n` can be printed, and is not nested deeper than the
limit allows from the depth `d` on. -/
structure Builds (n : ℕ) : Prop where
  value : ∀ {d l j r}, parseValue n d l = some (j, r) →
    Printable j ∧ height j ≤ CJSON_NESTING_LIMIT - d
  array : ∀ {d l js r}, parseArray n d l = some (js, r) →
    PrintableItems js ∧ heightItems js ≤ CJSON_NESTING_LIMIT - d
  object : ∀ {d l ms r}, parseObject n d l = some (ms, r) →
    PrintableMembers ms ∧ heightMembers ms ≤ CJSON_NESTING_LIMIT - d

section
variable {n d : ℕ} {l r : List UInt8}

theorem Builds.item (hn : Builds n) {j : Json} {b : UInt8} (h : readItem n d l = some ((j, b), r)) :
    Printable j ∧ height j ≤ CJSON_NESTING_LIMIT - d := by
  obtain ⟨t, hv, -⟩ := readItem_eq_some.mp h
  exact hn.value hv

theorem Builds.value_succ (hn : Builds n) {j : Json} (h : parseValue (n + 1) d l = some (j, r)) :
    Printable j ∧ height j ≤ CJSON_NESTING_LIMIT - d := by
  by_cases ha : l.head? = some 91
  · obtain ⟨l, rfl⟩ := List.head?_eq_some_iff.mp ha
    rw [parseValue_bracket] at h
    obtain ⟨hd, ⟨-, rfl⟩ | ⟨-, js, hs, rfl⟩⟩ := readContainer_eq_some.mp h
    · refine ⟨trivial, ?_⟩
      rw [height, heightItems]
      omega
    · obtain ⟨hjs, hheight⟩ := hn.array hs
      refine ⟨hjs, ?_⟩
      rw [height]
      omega
  by_cases ho : l.head? = some 123
  · obtain ⟨l, rfl⟩ := List.head?_eq_some_iff.mp ho
    rw [parseValue_brace] at h
    obtain ⟨hd, ⟨-, rfl⟩ | ⟨-, ms, hs, rfl⟩⟩ := readContainer_eq_some.mp h
    · refine ⟨trivial, ?_⟩
      rw [height, heightMembers]
      omega
    · obtain ⟨hms, hheight⟩ := hn.object hs
      refine ⟨hms, ?_⟩
      rw [height]
      omega
  · rw [parseValue_scalar ha ho] at h
    obtain ⟨hj, hheight⟩ := printable_of_parseScalar h
    exact ⟨hj, by omega⟩

theorem Builds.array_succ (hn : Builds n) {js : List Json} (h : parseArray (n + 1) d l = some (js, r)) :
    PrintableItems js ∧ heightItems js ≤ CJSON_NESTING_LIMIT - d := by
  rcases parseArray_cases h with ⟨j, l', js', hi, hs, rfl⟩ | ⟨j, hi, rfl⟩
  · obtain ⟨hj, hheight⟩ := hn.item hi
    obtain ⟨hjs, hheights⟩ := hn.array hs
    exact ⟨⟨hj, hjs⟩, by rw [heightItems]; omega⟩
  · obtain ⟨hj, hheight⟩ := hn.item hi
    exact ⟨⟨hj, trivial⟩, by rw [heightItems, heightItems]; omega⟩

theorem Builds.object_succ (hn : Builds n) {ms : List (CString × Json)}
    (h : parseObject (n + 1) d l = some (ms, r)) :
    PrintableMembers ms ∧ heightMembers ms ≤ CJSON_NESTING_LIMIT - d := by
  obtain ⟨k, l₁, -, h⟩ := parseObject_cases h
  rcases h with ⟨j, l', ms', hi, hs, rfl⟩ | ⟨j, hi, rfl⟩
  · obtain ⟨hj, hheight⟩ := hn.item hi
    obtain ⟨hms, hheights⟩ := hn.object hs
    exact ⟨⟨hj, hms⟩, by rw [heightMembers]; omega⟩
  · obtain ⟨hj, hheight⟩ := hn.item hi
    exact ⟨⟨hj, trivial⟩, by rw [heightMembers, heightMembers]; omega⟩

end

theorem parse_builds (n : ℕ) : Builds n := by
  induction n with
  | zero =>
    refine ⟨fun h => ?_, fun h => ?_, fun h => ?_⟩
    · simp [parseValue] at h
    · simp [parseArray] at h
    · simp [parseObject] at h
  | succ n ih => exact ⟨ih.value_succ, ih.array_succ, ih.object_succ⟩

/-- **Every parsed item can be printed** and is nested within the limit. -/
theorem parse_printable {s : CString} {j : Json} (h : cjsonParse s = some j) :
    Printable j ∧ height j ≤ CJSON_NESTING_LIMIT := by
  obtain ⟨⟨j', r⟩, hparse, rfl⟩ := Option.map_eq_some_iff.mp h
  exact (parse_builds _).value hparse

/-! ### Whole texts -/

theorem skipUtf8Bom_of_opens {l : List UInt8} (h : Opens l) : skipUtf8Bom l = l := by
  obtain ⟨b, t, rfl, -, -, hb⟩ := h
  unfold skipUtf8Bom
  rw [if_neg]
  rintro ⟨hbom, -⟩
  rw [List.cons_prefix_cons] at hbom
  exact hb hbom.1.symm

/-- **A printed item is parsed back** if it is nested within the limit. -/
theorem cjsonParse_cjsonPrint {format : Bool} {j : Json} (hj : Printable j)
    (hd : height j ≤ CJSON_NESTING_LIMIT) : cjsonParse (cjsonPrint format j) = some (reparse j) := by
  have hopens := opens_printValue format 0 hj
  have hread := parseValue_printValue format 0 (d := 0) (r := [])
    (n := 2 * (printValue format 0 j).length + 1) hj (by omega) (by rintro b ⟨⟩)
    (by rw [List.append_nil]; omega)
  rw [List.append_nil] at hread
  unfold cjsonParse parseText
  rw [bytes_cjsonPrint hj, skipUtf8Bom_of_opens hopens, hopens.skipWhitespace_eq, hread]
  rfl

/-- **Printing and parsing again** gives for every parsed text the item that the handlers read from
the item itself. -/
theorem reparse_of_parse {s : CString} {j : Json} (h : cjsonParse s = some j) (format : Bool) :
    cjsonParse (cjsonPrint format j) = some (reparse j) := by
  obtain ⟨hj, hd⟩ := parse_printable h
  exact cjsonParse_cjsonPrint hj hd

end OasisEdge.CJson.RoundTrip
