import OasisEdge.Lib.Chars
import OasisEdge.Lib.Doubles

/-! # JSON values as cJSON sees them

The items `cJSON_Parse` builds. An item carries `valuestring`, `valueint` and `valuedouble` whatever
its type, the ones its type does not use being NULL and `0`; `valueint` of a number saturates at the
ends of `int`. Objects and arrays have children, all others none; only the children of an object
have a key. A lookup takes the first child whose key matches without regard to case, and a lookup in
NULL or in an item without keys gives NULL. -/

namespace OasisEdge.CJson.Value

open OasisEdge.Lib.Chars OasisEdge.Lib.Doubles

/-- An item. -/
inductive Json
  | null
  | bool (b : Bool)
  | num (d : Double)
  | str (s : CString)
  | arr (items : List Json)
  | obj (members : List (CString × Json))

/-! ### Equality is decidable -/

mutual

/-- Equality of items. -/
def decEqJson : (a b : Json) → Decidable (a = b)
  | .null, .null => isTrue rfl
  | .bool x, .bool y => decidable_of_iff (x = y) (by simp)
  | .num x, .num y => decidable_of_iff (x = y) (by simp)
  | .str x, .str y => decidable_of_iff (x = y) (by simp)
  | .arr xs, .arr ys =>
    match decEqItems xs ys with
    | isTrue h => isTrue (by rw [h])
    | isFalse h => isFalse (by simpa using h)
  | .obj xs, .obj ys =>
    match decEqMembers xs ys with
    | isTrue h => isTrue (by rw [h])
    | isFalse h => isFalse (by simpa using h)
  | .null, .bool _ | .null, .num _ | .null, .str _ | .null, .arr _ | .null, .obj _
  | .bool _, .null | .bool _, .num _ | .bool _, .str _ | .bool _, .arr _ | .bool _, .obj _
  | .num _, .null | .num _, .bool _ | .num _, .str _ | .num _, .arr _ | .num _, .obj _
  | .str _, .null | .str _, .bool _ | .str _, .num _ | .str _, .arr _ | .str _, .obj _
  | .arr _, .null | .arr _, .bool _ | .arr _, .num _ | .arr _, .str _ | .arr _, .obj _
  | .obj _, .null | .obj _, .bool _ | .obj _, .num _ | .obj _, .str _ | .obj _, .arr _ =>
    isFalse (by simp)

/-- Equality of lists of items. -/
def decEqItems : (xs ys : List Json) → Decidable (xs = ys)
  | [], [] => isTrue rfl
  | [], _ :: _ => isFalse (by simp)
  | _ :: _, [] => isFalse (by simp)
  | x :: xs, y :: ys =>
    match decEqJson x y, decEqItems xs ys with
    | isTrue h, isTrue hs => isTrue (by rw [h, hs])
    | isFalse h, _ => isFalse (by simp [h])
    | _, isFalse hs => isFalse (by simp [hs])

/-- Equality of lists of members. -/
def decEqMembers : (xs ys : List (CString × Json)) → Decidable (xs = ys)
  | [], [] => isTrue rfl
  | [], _ :: _ => isFalse (by simp)
  | _ :: _, [] => isFalse (by simp)
  | (k, x) :: xs, (l, y) :: ys =>
    match decEq k l, decEqJson x y, decEqMembers xs ys with
    | isTrue hk, isTrue h, isTrue hs => isTrue (by rw [hk, h, hs])
    | isFalse hk, _, _ => isFalse (by simp [hk])
    | _, isFalse h, _ => isFalse (by simp [h])
    | _, _, isFalse hs => isFalse (by simp [hs])

end

instance : DecidableEq Json := decEqJson

/-! ### The fields of an item -/

/-- The largest `int`. -/
def INT_MAX : ℤ := 2147483647

/-- The smallest `int`. -/
def INT_MIN : ℤ := -2147483648

/-- `item->valuestring`, `none` for NULL. -/
def Json.valuestring : Json → Option CString
  | .str s => some s
  | _ => none

/-- `item->valuedouble`. -/
def Json.valuedouble : Json → Double
  | .num d => d
  | _ => .fin 0

/-- `item->valueint`. -/
def Json.valueint : Json → ℤ
  | .num d => d.toIntSat INT_MIN INT_MAX
  | .bool true => 1
  | _ => 0

/-- The children that have a key. -/
def Json.members : Json → List (CString × Json)
  | .obj members => members
  | _ => []

/-- The list `item->child` starts. -/
def Json.children : Json → List Json
  | .arr items => items
  | .obj members => members.map Prod.snd
  | _ => []

theorem valueint_mem (j : Json) : INT_MIN ≤ j.valueint ∧ j.valueint ≤ INT_MAX := by
  cases j with
  | num d => exact Double.toIntSat_mem (by decide) d
  | bool b => cases b <;> decide
  | null | str s | arr xs | obj ms => exact ⟨(by decide : INT_MIN ≤ 0), (by decide : 0 ≤ INT_MAX)⟩

theorem valueint_int {z : ℤ} (h : INT_MIN ≤ z ∧ z ≤ INT_MAX) :
    (Json.num (.fin z)).valueint = z := by
  rw [Json.valueint, Double.toIntSat_intCast (by decide)]; omega

/-- The `valueint` of an integer written as a number: it saturates. -/
theorem valueint_ofInt {z : ℤ} (h : 0 ≤ z) : (Json.num (.ofInt z)).valueint = min INT_MAX z :=
  Double.toIntSat_ofInt (by decide) (by decide) (by decide) h

/-! ### Lookups -/

/-- `tolower` on one byte. -/
def tolower (b : UInt8) : UInt8 := if 65 ≤ b ∧ b ≤ 90 then b + 32 else b

/-- `case_insensitive_strcmp` finds no difference. -/
def caseInsensitiveEq (s t : CString) : Bool := s.bytes.map tolower == t.bytes.map tolower

/-- The child that `get_object_item` stops at, with its key. -/
def findMember (object : Json) (name : CString) : Option (CString × Json) :=
  object.members.find? fun m => caseInsensitiveEq name m.1

/-- `cJSON_GetObjectItem` on an object that may be NULL. -/
def cjsonGetObjectItem (object : Option Json) (name : CString) : Option Json :=
  object.bind fun o => (findMember o name).map Prod.snd

/-- The string a member holds. -/
def stringField (object : Option Json) (name : CString) : Option CString :=
  (cjsonGetObjectItem object name).bind Json.valuestring

/-- The member holds a string if it is there at all. -/
def StringIfPresent (object : Option Json) (name : CString) : Prop :=
  ∀ item, cjsonGetObjectItem object name = some item → ∃ s, item.valuestring = some s

@[simp] theorem cjsonGetObjectItem_none (name : CString) : cjsonGetObjectItem none name = none := rfl

theorem cjsonGetObjectItem_of_members {j : Json} (h : j.members = []) (name : CString) :
    cjsonGetObjectItem (some j) name = none := by
  simp [cjsonGetObjectItem, findMember, h]

/-! ### Printing and parsing again

The text `cJSON_PrintUnformatted` writes for a parsed item parses to the same item, but that an
infinite number is written as `null`. -/

mutual

/-- `cJSON_Parse(cJSON_PrintUnformatted(item))`. -/
def reparse : Json → Json
  | .num .negInf => .null
  | .num .posInf => .null
  | .num .negZero => .num .negZero
  | .num (.fin q) => .num (.fin q)
  | .null => .null
  | .bool b => .bool b
  | .str s => .str s
  | .arr items => .arr (reparseItems items)
  | .obj members => .obj (reparseMembers members)

/-- The same for the items of an array. -/
def reparseItems : List Json → List Json
  | [] => []
  | x :: xs => reparse x :: reparseItems xs

/-- The same for the members of an object. -/
def reparseMembers : List (CString × Json) → List (CString × Json)
  | [] => []
  | (k, x) :: xs => (k, reparse x) :: reparseMembers xs

end

@[simp] theorem valuestring_reparse (j : Json) : (reparse j).valuestring = j.valuestring := by
  cases j with
  | num d => cases d <;> rfl
  | null | bool b | str s | arr xs | obj ms => rfl

theorem reparseMembers_eq : ∀ ms : List (CString × Json),
    reparseMembers ms = ms.map fun m => (m.1, reparse m.2)
  | [] => rfl
  | (k, x) :: ms => by rw [reparseMembers, reparseMembers_eq ms]; rfl

theorem members_reparse (j : Json) :
    (reparse j).members = j.members.map fun m => (m.1, reparse m.2) := by
  cases j with
  | obj ms => exact reparseMembers_eq ms
  | num d => cases d <;> rfl
  | null | bool b | str s | arr xs => rfl

theorem cjsonGetObjectItem_reparse (j : Json) (name : CString) :
    cjsonGetObjectItem (some (reparse j)) name =
      (cjsonGetObjectItem (some j) name).map reparse := by
  simp only [cjsonGetObjectItem, findMember, Option.bind_some, members_reparse, List.find?_map,
    Option.map_map]
  rfl

end OasisEdge.CJson.Value
