import OasisEdge.CJson.Value

/-! # `cJSON_Parse`

The parser reads the bytes before the terminating NUL; a position in the text is the list of bytes
that remain. Once the text is used up the parser sees the NUL, which no rule accepts except the end
of a number. The mutual recursion of `parse_value`, `parse_array` and `parse_object` runs on fuel;
`parse_fuel` shows that the fuel `cjsonParse` gives is always enough.

`strtod` is the C library's on the characters a JSON number may use: an optional sign, digits with
an optional point, and an exponent if digits follow it. -/

namespace OasisEdge.CJson.Parse

open OasisEdge.Lib.Chars OasisEdge.Lib.Doubles OasisEdge.CJson.Value

/-! ### Numbers -/

/-- A decimal digit. -/
def isDigit (b : UInt8) : Bool := 48 ≤ b && b ≤ 57

/-- The characters `parse_number` copies: digits, `+`, `-`, `e`, `E` and `.`. -/
def isNumberChar (b : UInt8) : Bool :=
  isDigit b || b == 43 || b == 45 || b == 101 || b == 69 || b == 46

/-- The number a list of digits writes. -/
def natOfDigits (ds : List UInt8) : ℕ := ds.foldl (fun n d => 10 * n + (d.toNat - 48)) 0

/-- `m * 10^e` as a double. The mantissa of a number has at most 63 digits, so beyond the two guards
the value overflows or is zero whatever the mantissa is. -/
def decimal (neg : Bool) (m : ℕ) (e : ℤ) : Double :=
  if m = 0 ∨ e < -500 then if neg then .negZero else .fin 0
  else if 400 < e then if neg then .negInf else .posInf
  else
    let q : ℚ := if 0 ≤ e then (m * 10 ^ e.toNat : ℕ) else mkRat m (10 ^ (-e).toNat)
    .ofRat (if neg then -q else q)

/-- An optional sign: whether it is a minus, and what follows. -/
def takeSign : List UInt8 → Bool × List UInt8
  | b :: l => if b = 45 then (true, l) else if b = 43 then (false, l) else (false, b :: l)
  | [] => (false, [])

/-- An optional fraction: its digits, and what follows. -/
def takeFraction : List UInt8 → List UInt8 × List UInt8
  | b :: l => if b = 46 then (l.takeWhile isDigit, l.dropWhile isDigit) else ([], b :: l)
  | [] => ([], [])

/-- An optional exponent: its value, and what follows. Without digits there is no exponent. -/
def takeExponent : List UInt8 → ℤ × List UInt8
  | b :: l =>
    if b = 101 ∨ b = 69 then
      let (neg, l') := takeSign l
      if l'.takeWhile isDigit = [] then (0, b :: l)
      else
        let e : ℤ := natOfDigits (l'.takeWhile isDigit)
        (if neg then -e else e, l'.dropWhile isDigit)
    else (0, b :: l)
  | [] => (0, [])

/-- `strtod` on number characters: the value and the length read, or no conversion. -/
def strtod (l : List UInt8) : Option (Double × ℕ) :=
  let (neg, l₁) := takeSign l
  let ds := l₁.takeWhile isDigit
  let (fs, l₂) := takeFraction (l₁.dropWhile isDigit)
  if ds = [] ∧ fs = [] then none
  else
    let (e, l₃) := takeExponent l₂
    some (decimal neg (natOfDigits (ds ++ fs)) (e - fs.length), l.length - l₃.length)

/-- The text `parse_number` hands to `strtod`: at most 63 number characters. -/
def numberText (l : List UInt8) : List UInt8 := (l.take 63).takeWhile isNumberChar

def parseNumber (l : List UInt8) : Option (Json × List UInt8) :=
  (strtod (numberText l)).bind fun r => if r.2 = 0 then none else some (.num r.1, l.drop r.2)

/-! ### Strings -/

/-- The value of a hexadecimal digit. -/
def hexDigit (b : UInt8) : Option ℕ :=
  if 48 ≤ b ∧ b ≤ 57 then some (b.toNat - 48)
  else if 65 ≤ b ∧ b ≤ 70 then some (10 + b.toNat - 65)
  else if 97 ≤ b ∧ b ≤ 102 then some (10 + b.toNat - 97)
  else none

/-- `parse_hex4`: an invalid digit makes the whole number `0`. -/
def parseHex4 (l : List UInt8) : ℕ :=
  match (l.take 4).mapM hexDigit with
  | some ds => ds.foldl (fun h d => 16 * h + d) 0
  | none => 0

/-- A code point as UTF-8. -/
def utf8 (c : ℕ) : List UInt8 :=
  if c < 0x80 then [c.toUInt8]
  else if c < 0x800 then [(c / 64 + 0xC0).toUInt8, (c % 64 + 0x80).toUInt8]
  else if c < 0x10000 then
    [(c / 4096 + 0xE0).toUInt8, (c / 64 % 64 + 0x80).toUInt8, (c % 64 + 0x80).toUInt8]
  else
    [(c / 262144 + 0xF0).toUInt8, (c / 4096 % 64 + 0x80).toUInt8, (c / 64 % 64 + 0x80).toUInt8,
      (c % 64 + 0x80).toUInt8]

/-- `utf16_literal_to_utf8`: the bytes written and the length of the escape sequence. -/
def utf16LiteralToUtf8 (l : List UInt8) : Option (List UInt8 × ℕ) :=
  if l.length < 6 then none
  else
    let first := parseHex4 (l.drop 2)
    if 0xDC00 ≤ first ∧ first ≤ 0xDFFF then none
    else if 0xD800 ≤ first ∧ first ≤ 0xDBFF then
      -- the high half of a surrogate pair: the low half has to follow
      let second := l.drop 6
      if second.length < 6 then none
      else if second.take 2 ≠ [92, 117] then none
      else
        let low := parseHex4 (second.drop 2)
        if low < 0xDC00 ∨ 0xDFFF < low then none
        else some (utf8 (0x10000 + (first % 1024 * 1024 + low % 1024)), 12)
    else some (utf8 first, 6)

/-- What an escape sequence stands for, and its length. Behind a backslash at the end of the literal
stands the closing quote. -/
def escape (l : List UInt8) : Option (List UInt8 × ℕ) :=
  match l with
  | _ :: 98 :: _ => some ([8], 2)
  | _ :: 102 :: _ => some ([12], 2)
  | _ :: 110 :: _ => some ([10], 2)
  | _ :: 114 :: _ => some ([13], 2)
  | _ :: 116 :: _ => some ([9], 2)
  | _ :: 117 :: _ => utf16LiteralToUtf8 l
  | _ :: c :: _ => if c = 34 ∨ c = 92 ∨ c = 47 then some ([c], 2) else none
  | [_] => some ([34], 2)
  | [] => none

/-- The second loop of `parse_string`: the literal with its escapes resolved. Every turn uses up a
byte of the literal, so its length is fuel enough. -/
def unescape : ℕ → List UInt8 → Option (List UInt8)
  | _, [] => some []
  | 0, _ :: _ => none
  | n + 1, b :: l =>
    if b ≠ 92 then (unescape n l).map (b :: ·)
    else (escape (b :: l)).bind fun r => (unescape n ((b :: l).drop r.2)).map (r.1 ++ ·)

/-- The first loop of `parse_string`: the literal up to the closing quote, and what follows it. -/
def closeQuote : List UInt8 → Option (List UInt8 × List UInt8)
  | [] => none
  | b :: l =>
    if b = 34 then some ([], l)
    else if b = 92 then
      match l with
      | [] => none
      | c :: l' => (closeQuote l').map fun r => (b :: c :: r.1, r.2)
    else (closeQuote l).map fun r => (b :: r.1, r.2)

/-- `parse_string`. The result is read as a C string, so an escaped NUL ends it. -/
def parseString : List UInt8 → Option (CString × List UInt8)
  | [] => none
  | b :: l =>
    if b = 34 then
      (closeQuote l).bind fun r =>
        (unescape r.1.length r.1).map fun s => (CString.ofBytes s, r.2)
    else none

/-! ### Values -/

/-- `buffer_skip_whitespace`. -/
def skipWhitespace (l : List UInt8) : List UInt8 := l.dropWhile (· ≤ 32)

def CJSON_NESTING_LIMIT : ℕ := 1000

mutual

/-- `parse_value`, with the openings of `parse_array` and `parse_object`. -/
def parseValue : (fuel depth : ℕ) → List UInt8 → Option (Json × List UInt8)
  | 0, _, _ => none
  | fuel + 1, depth, l =>
    if [110, 117, 108, 108] <+: l then some (.null, l.drop 4)
    else if [102, 97, 108, 115, 101] <+: l then some (.bool false, l.drop 5)
    else if [116, 114, 117, 101] <+: l then some (.bool true, l.drop 4)
    else match l with
    | [] => none
    | b :: l' =>
      if b = 34 then (parseString l).map fun r => (.str r.1, r.2)
      else if b = 45 ∨ isDigit b then parseNumber l
      else if b = 91 then
        if CJSON_NESTING_LIMIT ≤ depth then none
        else if (skipWhitespace l').head? = some 93 then some (.arr [], (skipWhitespace l').tail)
        else (parseArray fuel (depth + 1) l').map fun r => (.arr r.1, r.2)
      else if b = 123 then
        if CJSON_NESTING_LIMIT ≤ depth then none
        else if (skipWhitespace l').head? = some 125 then some (.obj [], (skipWhitespace l').tail)
        else (parseObject fuel (depth + 1) l').map fun r => (.obj r.1, r.2)
      else none

/-- The loop of `parse_array`, up to the closing bracket. -/
def parseArray : (fuel depth : ℕ) → List UInt8 → Option (List Json × List UInt8)
  | 0, _, _ => none
  | fuel + 1, depth, l =>
    (parseValue fuel depth (skipWhitespace l)).bind fun r =>
      match skipWhitespace r.2 with
      | [] => none
      | b :: l' =>
        if b = 44 then (parseArray fuel depth l').map fun s => (r.1 :: s.1, s.2)
        else if b = 93 then some ([r.1], l')
        else none

/-- The loop of `parse_object`, up to the closing brace. -/
def parseObject : (fuel depth : ℕ) → List UInt8 → Option (List (CString × Json) × List UInt8)
  | 0, _, _ => none
  | fuel + 1, depth, l =>
    (parseString (skipWhitespace l)).bind fun k =>
      match skipWhitespace k.2 with
      | [] => none
      | b :: l' =>
        if b = 58 then
          (parseValue fuel depth (skipWhitespace l')).bind fun r =>
            match skipWhitespace r.2 with
            | [] => none
            | b :: l'' =>
              if b = 44 then (parseObject fuel depth l'').map fun s => ((k.1, r.1) :: s.1, s.2)
              else if b = 125 then some ([(k.1, r.1)], l'')
              else none
        else none

end

def skipUtf8Bom (l : List UInt8) : List UInt8 :=
  if [0xEF, 0xBB, 0xBF] <+: l ∧ 4 ≤ l.length then l.drop 3 else l

/-- The value at the start of a text, given as its bytes, and what is left of the text. -/
def parseText (l : List UInt8) : Option (Json × List UInt8) :=
  parseValue (2 * l.length + 1) 0 (skipWhitespace (skipUtf8Bom l))

/-- **`cJSON_Parse`**: the value at the start of the text, whatever follows it. -/
def cjsonParse (s : CString) : Option Json := (parseText s.bytes).map Prod.fst

end OasisEdge.CJson.Parse
