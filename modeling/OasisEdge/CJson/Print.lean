import OasisEdge.CJson.Numbers
import OasisEdge.Lib.Hexadecimal

/-! # The text `cJSON_Print` writes

A value is written without white space (`cJSON_PrintUnformatted`), or with a blank after the commas
of an array and one member of an object a line, indented by tabs (`cJSON_Print`). Quotes, backslashes
and control characters of a string are escaped. This is the text alone; how it gets into the print
buffer is in `PrintBuffer`. -/

namespace OasisEdge.CJson.Print

open OasisEdge.Lib.Chars OasisEdge.Lib.Doubles OasisEdge.Lib.Nearest OasisEdge.Lib.Hexadecimal
open OasisEdge.CJson.Value OasisEdge.CJson.Parse OasisEdge.CJson.Numbers

/-! ### Strings -/

/-- What the copying loop of `print_string_ptr` writes for one character. -/
def escapeChar (c : UInt8) : List UInt8 :=
  if 31 < c ∧ c ≠ 34 ∧ c ≠ 92 then [c]
  else if c = 92 then [92, 92]
  else if c = 34 then [92, 34]
  else if c = 8 then [92, 98]
  else if c = 12 then [92, 102]
  else if c = 10 then [92, 110]
  else if c = 13 then [92, 114]
  else if c = 9 then [92, 116]
  else 92 :: 117 :: formatHex 4 c.toNat

def printStringPtr (input : CString) : List UInt8 := 34 :: input.bytes.flatMap escapeChar ++ [34]

/-! ### Values -/

/-- Characters that only the formatted text has. -/
def formatted (format : Bool) (l : List UInt8) : List UInt8 := if format then l else []

/-- The indentation at a depth. -/
def tabs (depth : ℕ) : List UInt8 := List.replicate depth 9

mutual

/-- `print_value`, with `print_array` and `print_object`. -/
def printValue (format : Bool) (depth : ℕ) : Json → List UInt8
  | .null => [110, 117, 108, 108]
  | .bool false => [102, 97, 108, 115, 101]
  | .bool true => [116, 114, 117, 101]
  | .num d => printNumber d
  | .str s => printStringPtr s
  | .arr items => 91 :: printItems format (depth + 1) items ++ [93]
  | .obj members =>
    123 :: formatted format [10] ++ printMembers format (depth + 1) members ++
      formatted format (tabs depth) ++ [125]

/-- The loop of `print_array`. -/
def printItems (format : Bool) (depth : ℕ) : List Json → List UInt8
  | [] => []
  | x :: xs =>
    printValue format depth x ++
      (if xs = [] then [] else 44 :: formatted format [32]) ++ printItems format depth xs

/-- The loop of `print_object`. -/
def printMembers (format : Bool) (depth : ℕ) : List (CString × Json) → List UInt8
  | [] => []
  | (k, x) :: ms =>
    formatted format (tabs depth) ++ printStringPtr k ++ 58 :: formatted format [9] ++
      printValue format depth x ++ (if ms = [] then [] else [44]) ++ formatted format [10] ++
        printMembers format depth ms

end

/-- `cJSON_Print` with `format`, `cJSON_PrintUnformatted` without. -/
def cjsonPrint (format : Bool) (item : Json) : CString := .ofBytes (printValue format 0 item)

/-! ### The bytes of the text -/

theorem pair_ne_zero {a b : UInt8} (ha : a ≠ 0) (hb : b ≠ 0) : ∀ c ∈ [a, b], c ≠ 0 := by
  intro c hc
  rcases List.mem_pair.mp hc with rfl | rfl
  · exact ha
  · exact hb

theorem escapeChar_ne_zero {c : UInt8} (hc : c ≠ 0) : ∀ b ∈ escapeChar c, b ≠ 0 := by
  unfold escapeChar
  split_ifs
  · simpa using hc
  all_goals try exact pair_ne_zero (by decide) (by decide)
  intro b hb
  rcases List.mem_cons.mp hb with rfl | hb
  · decide
  rcases List.mem_cons.mp hb with rfl | hb
  · decide
  · rintro rfl
    have h0 := isLowerHex_formatHex 0 hb
    revert h0
    decide

theorem printStringPtr_ne_zero (s : CString) : ∀ b ∈ printStringPtr s, b ≠ 0 := by
  intro b hb
  unfold printStringPtr at hb
  rw [List.mem_append, List.mem_cons, List.mem_flatMap, List.mem_singleton] at hb
  rcases hb with (rfl | ⟨c, hc, hb⟩) | rfl
  · decide
  · exact escapeChar_ne_zero (s.noNul c hc) b hb
  · decide

theorem formatted_ne_zero {format : Bool} {l : List UInt8} (h : ∀ b ∈ l, b ≠ 0) :
    ∀ b ∈ formatted format l, b ≠ 0 := by
  unfold formatted
  split_ifs
  · exact h
  · simp

theorem tabs_ne_zero {depth : ℕ} : ∀ b ∈ tabs depth, b ≠ 0 := by
  intro b hb
  rw [(List.mem_replicate.mp hb).2]
  decide

/-! ### What can be printed -/

mutual

/-- The finite numbers of an item are doubles. -/
def Printable : Json → Prop
  | .num (.fin q) => IsDouble q
  | .arr items => PrintableItems items
  | .obj members => PrintableMembers members
  | _ => True

/-- The same for the items of an array. -/
def PrintableItems : List Json → Prop
  | [] => True
  | x :: xs => Printable x ∧ PrintableItems xs

/-- The same for the members of an object. -/
def PrintableMembers : List (CString × Json) → Prop
  | [] => True
  | (_, x) :: ms => Printable x ∧ PrintableMembers ms

end

theorem printable_num {d : Double} (h : Printable (.num d)) :
    IsFinite d ∧ reparse (.num d) = .num d ∨
      printNumber d = [110, 117, 108, 108] ∧ reparse (.num d) = .null := by
  rcases d with _ | _ | q | _
  · exact Or.inr ⟨rfl, rfl⟩
  · exact Or.inl ⟨trivial, rfl⟩
  · exact Or.inl ⟨h, rfl⟩
  · exact Or.inr ⟨rfl, rfl⟩

theorem printNumber_ne_zero {d : Double} (h : Printable (.num d)) : ∀ b ∈ printNumber d, b ≠ 0 := by
  rcases printable_num h with ⟨hd, -⟩ | ⟨hnull, -⟩
  · intro b hb
    rintro rfl
    have hchar := (numberText_printNumber hd).chars 0 hb
    revert hchar
    decide
  · rw [hnull]
    simp

mutual

theorem printValue_ne_zero (format : Bool) : ∀ (depth : ℕ) {j : Json}, Printable j →
    ∀ b ∈ printValue format depth j, b ≠ 0
  | _, .null, _ => by rw [printValue]; simp
  | _, .bool false, _ => by rw [printValue]; simp
  | _, .bool true, _ => by rw [printValue]; simp
  | _, .num d, h => by rw [printValue]; exact printNumber_ne_zero h
  | _, .str s, _ => by rw [printValue]; exact printStringPtr_ne_zero s
  | depth, .arr items, h => by
    have hitems := printItems_ne_zero format (depth + 1) h
    rw [printValue]
    intro b hb
    rw [List.mem_append, List.mem_cons, List.mem_singleton] at hb
    rcases hb with (rfl | hb) | rfl
    · decide
    · exact hitems b hb
    · decide
  | depth, .obj members, h => by
    have hmembers := printMembers_ne_zero format (depth + 1) h
    rw [printValue]
    intro b hb
    simp only [List.mem_append, List.mem_cons, List.not_mem_nil, or_false] at hb
    rcases hb with (((rfl | hb) | hb) | hb) | rfl
    · decide
    · exact formatted_ne_zero (by simp) b hb
    · exact hmembers b hb
    · exact formatted_ne_zero tabs_ne_zero b hb
    · decide

theorem printItems_ne_zero (format : Bool) : ∀ (depth : ℕ) {items : List Json},
    PrintableItems items → ∀ b ∈ printItems format depth items, b ≠ 0
  | _, [], _ => by rw [printItems]; simp
  | depth, x :: xs, h => by
    have hx := printValue_ne_zero format depth h.1
    have hxs := printItems_ne_zero format depth h.2
    rw [printItems]
    intro b hb
    rw [List.mem_append, List.mem_append] at hb
    rcases hb with (hb | hb) | hb
    · exact hx b hb
    · split_ifs at hb
      · cases hb
      · rcases List.mem_cons.mp hb with rfl | hb
        · decide
        · exact formatted_ne_zero (by simp) b hb
    · exact hxs b hb

theorem printMembers_ne_zero (format : Bool) : ∀ (depth : ℕ) {members : List (CString × Json)},
    PrintableMembers members → ∀ b ∈ printMembers format depth members, b ≠ 0
  | _, [], _ => by rw [printMembers]; simp
  | depth, (k, x) :: ms, h => by
    have hx := printValue_ne_zero format depth h.1
    have hms := printMembers_ne_zero format depth h.2
    rw [printMembers]
    intro b hb
    simp only [List.mem_append, List.mem_cons] at hb
    rcases hb with (((((hb | hb) | rfl | hb) | hb) | hb) | hb) | hb
    · exact formatted_ne_zero tabs_ne_zero b hb
    · exact printStringPtr_ne_zero k b hb
    · decide
    · exact formatted_ne_zero (by simp) b hb
    · exact hx b hb
    · split_ifs at hb
      · cases hb
      · rw [List.mem_singleton.mp hb]
        decide
    · exact formatted_ne_zero (by simp) b hb
    · exact hms b hb

end

theorem bytes_cjsonPrint {format : Bool} {j : Json} (h : Printable j) :
    (cjsonPrint format j).bytes = printValue format 0 j :=
  CString.bytes_ofBytes (printValue_ne_zero _ _ h)

end OasisEdge.CJson.Print
