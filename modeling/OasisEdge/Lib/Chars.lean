import Mathlib.Data.List.TakeWhile
import Mathlib.Algebra.Order.Ring.Nat
import Mathlib.Algebra.Order.Ring.Int

/-! # C strings and character arrays

A C string is the list of bytes before the terminating NUL, so no byte of it is `0`. Reading memory
as a string stops at the first NUL (`CString.ofBytes`). `strcmp` compares byte by byte as unsigned
characters, a string that ends counting as a `0` there: it is `0` exactly on equal strings
(`strcmp_eq_zero`) and changes sign with its arguments (`strcmp_swap`).

A `CBuf n` is a character array of `n` bytes that holds a string with its terminator. The only way a
string gets into one is `snprintf`, which keeps the first `n - 1` bytes. -/

namespace OasisEdge.Lib.Chars

/-- The bytes of a C string, without the terminating NUL. -/
@[ext]
structure CString where
  bytes : List UInt8
  noNul : ∀ b ∈ bytes, b ≠ 0
deriving DecidableEq

namespace CString

/-- The string at the start of some memory: the bytes up to the first NUL. -/
def ofBytes (l : List UInt8) : CString where
  bytes := l.takeWhile (· ≠ 0)
  noNul b hb := by simpa using List.mem_takeWhile_imp hb

/-- The string of an ASCII literal. -/
def lit (s : String) : CString := ofBytes (s.toList.map fun c => c.toNat.toUInt8)

/-- The empty string. -/
def empty : CString := ⟨[], by simp⟩

/-- One string after the other. -/
def append (s t : CString) : CString :=
  ⟨s.bytes ++ t.bytes, fun b hb => (List.mem_append.mp hb).elim (s.noNul b) (t.noNul b)⟩

instance : Append CString := ⟨append⟩

/-- The first `k` bytes. -/
def take (k : ℕ) (s : CString) : CString :=
  ⟨s.bytes.take k, fun b hb => s.noNul b (List.mem_of_mem_take hb)⟩

/-- `strlen`. -/
def length (s : CString) : ℕ := s.bytes.length

@[simp] theorem bytes_empty : empty.bytes = [] := rfl

@[simp] theorem bytes_take (k : ℕ) (s : CString) : (s.take k).bytes = s.bytes.take k := rfl

theorem bytes_ofBytes {l : List UInt8} (h : ∀ b ∈ l, b ≠ 0) : (ofBytes l).bytes = l := by
  rw [ofBytes, List.takeWhile_eq_self_iff]
  exact fun b hb => by simpa using h b hb

/-- Memory after a NUL is not read. -/
theorem ofBytes_append_of_nul {l : List UInt8} (h : 0 ∈ l) (m : List UInt8) :
    ofBytes (l ++ m) = ofBytes l := by
  ext1
  show (l ++ m).takeWhile _ = l.takeWhile _
  induction l with
  | nil => simp at h
  | cons b l ih =>
    by_cases hb : b = 0
    · subst hb; simp
    · have hl : 0 ∈ l := by
        rcases List.mem_cons.mp h with h | h
        · exact absurd h.symm hb
        · exact h
      rw [List.cons_append, List.takeWhile_cons_of_pos (by simpa using hb),
        List.takeWhile_cons_of_pos (by simpa using hb), ih hl]

theorem bytes_ofBytes_append {l : List UInt8} (h : 0 ∉ l) (m : List UInt8) :
    (ofBytes (l ++ m)).bytes = l ++ (ofBytes m).bytes := by
  show (l ++ m).takeWhile _ = l ++ m.takeWhile _
  induction l with
  | nil => rfl
  | cons b l ih =>
    have hb : b ≠ 0 := fun hb => h (by simp [hb])
    rw [List.cons_append, List.takeWhile_cons_of_pos (by simpa using hb),
      ih (fun hl => h (List.mem_cons_of_mem _ hl)), List.cons_append]

theorem length_take_le (k : ℕ) (s : CString) : (s.take k).length ≤ k := by
  exact List.length_take_le k s.bytes

theorem take_of_length_le {k : ℕ} {s : CString} (h : s.length ≤ k) : s.take k = s := by
  ext1; exact List.take_of_length_le h

end CString

/-! ### Comparison -/

/-- The comparison loop of `strcmp`: the difference at the first place where the strings differ. -/
def cmpBytes : List UInt8 → List UInt8 → ℤ
  | [], [] => 0
  | [], b :: _ => -b.toNat
  | a :: _, [] => a.toNat
  | a :: as, b :: bs => if a = b then cmpBytes as bs else a.toNat - b.toNat

/-- C's `strcmp`. -/
def strcmp (s t : CString) : ℤ := cmpBytes s.bytes t.bytes

theorem toNat_pos_of_ne {b : UInt8} (h : b ≠ 0) : 0 < b.toNat := by
  rcases Nat.eq_zero_or_pos b.toNat with h0 | h0
  · exact absurd (UInt8.toNat_inj.mp (by simpa using h0)) h
  · exact h0

theorem cmpBytes_swap : ∀ s t : List UInt8, cmpBytes s t = -cmpBytes t s
  | [], [] => rfl
  | [], b :: bs => rfl
  | a :: as, [] => by simp [cmpBytes]
  | a :: as, b :: bs => by
    unfold cmpBytes
    by_cases h : a = b
    · rw [if_pos h, if_pos h.symm]; exact cmpBytes_swap as bs
    · rw [if_neg h, if_neg (Ne.symm h)]; omega

theorem cmpBytes_eq_zero : ∀ {s t : List UInt8}, (∀ b ∈ s, b ≠ 0) → (∀ b ∈ t, b ≠ 0) →
    (cmpBytes s t = 0 ↔ s = t)
  | [], [], _, _ => by simp [cmpBytes]
  | [], b :: bs, _, ht => by
    have := toNat_pos_of_ne (ht b (by simp))
    simp only [cmpBytes, reduceCtorEq, iff_false]; omega
  | a :: as, [], hs, _ => by
    have := toNat_pos_of_ne (hs a (by simp))
    simp only [cmpBytes, reduceCtorEq, iff_false]; omega
  | a :: as, b :: bs, hs, ht => by
    have ih := cmpBytes_eq_zero (fun x hx => hs x (List.mem_cons_of_mem _ hx))
      (fun x hx => ht x (List.mem_cons_of_mem _ hx))
    unfold cmpBytes
    by_cases h : a = b
    · rw [if_pos h, ih, h]; simp
    · have hne : a.toNat ≠ b.toNat := fun he => h (UInt8.toNat_inj.mp he)
      rw [if_neg h]
      simp only [List.cons.injEq, h, false_and, iff_false]; omega

/-- **`strcmp` tells equality.** -/
@[simp] theorem strcmp_eq_zero {s t : CString} : strcmp s t = 0 ↔ s = t := by
  rw [strcmp, cmpBytes_eq_zero s.noNul t.noNul, CString.ext_iff]

theorem strcmp_swap (s t : CString) : strcmp s t = -strcmp t s := cmpBytes_swap _ _

theorem strcmp_empty_nonneg (s : CString) : 0 ≤ strcmp s .empty := by
  obtain ⟨l, hl⟩ := s
  cases l with
  | nil => simp [strcmp, cmpBytes]
  | cons b l => simp [strcmp, cmpBytes]

/-! ### Character arrays -/

/-- A character array of `n` bytes holding a string and its terminator. -/
@[ext]
structure CBuf (n : ℕ) where
  str : CString
  fits : str.length < n
deriving DecidableEq

/-- `snprintf(buf, n, "%s", s)`: the first `n - 1` bytes of `s`. -/
def snprintf (n : ℕ) [NeZero n] (s : CString) : CBuf n where
  str := s.take (n - 1)
  fits := by
    have := CString.length_take_le (n - 1) s
    have := NeZero.pos n
    omega

/-- An array filled with zeros. -/
def CBuf.zero (n : ℕ) [NeZero n] : CBuf n := ⟨.empty, NeZero.pos n⟩

theorem str_snprintf {n : ℕ} [NeZero n] {s : CString} (h : s.length < n) :
    (snprintf n s).str = s :=
  CString.take_of_length_le (by omega)

/-- The string of an array goes back into an array of the same size unchanged. -/
@[simp] theorem snprintf_str {n : ℕ} [NeZero n] (b : CBuf n) : snprintf n b.str = b := by
  ext1; exact str_snprintf b.fits

/-- A string that is shorter than what an array keeps is stored from itself alone. -/
theorem str_snprintf_eq {n : ℕ} [NeZero n] {s t : CString} (h : t.length < n - 1) :
    (snprintf n s).str = t ↔ s = t := by
  constructor
  · intro hst
    by_cases hs : s.length ≤ n - 1
    · exact (CString.take_of_length_le hs).symm.trans hst
    · -- a longer string fills the array
      have hlen : (s.take (n - 1)).length = n - 1 := List.length_take_of_le (by
        have : s.bytes.length = s.length := rfl
        omega)
      rw [show s.take (n - 1) = t from hst] at hlen
      omega
  · rintro rfl
    exact str_snprintf (by omega)

end OasisEdge.Lib.Chars
