import OasisEdge.Lib.Calendar
import OasisEdge.Lib.Decimal
import OasisEdge.Shadow.State

/-! # The clock

The two functions of `oasis_tools.c` that read the clock, as functions of the reading of `time` (the
seconds from the start of 1970) and of the time zone in effect.

`TOOLS_Get_Time_Unix` puts the reading into an `int` before it multiplies, so it gives the
milliseconds up to the largest `int` and no further (`toNat_toolsGetTimeUnix`).
`TOOLS_Get_Time_ISO8601` prints the *local* time with a literal `Z`, which stands for UTC. A zone is
any function from instants to offsets, so the offset may change with the season. -/

namespace OasisEdge.Utils.Tools

open OasisEdge.Lib.Chars OasisEdge.Lib.Calendar OasisEdge.Lib.Decimal OasisEdge.Shadow.State

/-! ### Milliseconds -/

/-- `TOOLS_Get_Time_Unix`, with a 64-bit `time_t` and `unsigned long`. -/
def toolsGetTimeUnix (now : ℤ) : UInt64 :=
  let unixtime : Int32 := .ofInt now
  UInt64.ofInt unixtime.toInt * 1000

theorem toNat_ofInt (z : ℤ) : ((UInt64.ofInt z).toNat : ℤ) = z % 2 ^ 64 := by
  have h0 : 0 ≤ z % 2 ^ 64 := Int.emod_nonneg z (by decide)
  have hlt : z % 2 ^ 64 < 2 ^ 64 := Int.emod_lt_of_pos z (by decide)
  have hmod : (z % 2 ^ 64).toNat % 2 ^ 64 = (z % 2 ^ 64).toNat := Nat.mod_eq_of_lt (by omega)
  unfold UInt64.ofInt
  rw [UInt64.toNat_ofNat', hmod, Int.toNat_of_nonneg h0]

/-- The value, from what the `int` holds. -/
theorem toNat_toolsGetTimeUnix_eq (now : ℤ) :
    ((toolsGetTimeUnix now).toNat : ℤ) = Int.bmod now Int32.size * 1000 % 2 ^ 64 := by
  have hint := toNat_ofInt (Int.bmod now Int32.size)
  have hthousand : (1000 : UInt64).toNat = 1000 := rfl
  unfold toolsGetTimeUnix
  rw [UInt64.toNat_mul, Int32.toInt_ofInt, hthousand]
  rw [Int.natCast_emod, Int.natCast_mul, hint]
  push_cast
  rw [Int.mul_emod, Int.emod_emod, ← Int.mul_emod]

/-- A negative number wraps round to the end of `unsigned long`. -/
theorem emod_of_neg {z : ℤ} (hneg : z < 0) (hle : -(2 ^ 64) ≤ z) : z % 2 ^ 64 = z + 2 ^ 64 := by
  rw [← Int.add_emod_right, Int.emod_eq_of_lt (by omega) (by omega)]

/-- **The milliseconds are right** exactly as long as the seconds fit into an `int`. -/
theorem toNat_toolsGetTimeUnix {t : ℤ} (h0 : 0 ≤ t) (hlt : 1000 * t < 2 ^ 53) :
    ((toolsGetTimeUnix t).toNat : ℤ) = 1000 * t ↔ t < 2 ^ 31 := by
  have hsize : Int32.size = 2 ^ 32 := rfl
  have hle : -(2 ^ 31) ≤ Int.bmod t (2 ^ 32) := Int.le_bmod (by decide)
  have hge : Int.bmod t (2 ^ 32) < 2 ^ 31 := Int.bmod_lt (by decide)
  rw [toNat_toolsGetTimeUnix_eq, hsize]
  constructor
  · rcases lt_or_ge (Int.bmod t (2 ^ 32)) 0 with hneg | hpos
    · rw [emod_of_neg (by omega) (by omega)]
      omega
    · rw [Int.emod_eq_of_lt (by omega) (by omega)]
      omega
  · intro hint
    rw [Int.bmod_eq_of_le (by omega) (by omega), Int.emod_eq_of_lt (by omega) (by omega)]
    omega

/-! ### Time stamps -/

/-- `struct tm`. -/
structure Tm where
  tmYear : ℤ
  tmMon : ℤ
  tmMday : ℤ
  tmHour : ℤ
  tmMin : ℤ
  tmSec : ℤ

/-- `localtime_r`, in a zone that is `zone t` seconds ahead of UTC at the instant `t`. -/
def localtimeR (zone : ℤ → ℤ) (t : ℤ) : Tm :=
  let dt := ofSeconds (t + zone t)
  ⟨dt.year - 1900, dt.month, dt.day, dt.hour, dt.minute, dt.second⟩

/-- The text of the format `%04d-%02d-%02dT%02d:%02d:%02dZ`. -/
def iso8601 (tm : Tm) : CString :=
  .ofBytes (formatInt 4 (tm.tmYear + 1900) ++ 45 :: formatInt 2 (tm.tmMon + 1) ++
    45 :: formatInt 2 tm.tmMday ++ 84 :: formatInt 2 tm.tmHour ++ 58 :: formatInt 2 tm.tmMin ++
    58 :: formatInt 2 tm.tmSec ++ [90])

/-- `TOOLS_Get_Time_ISO8601`: what it returns, and the buffer it fills. -/
def toolsGetTimeISO8601 (zone : ℤ → ℤ) (timeUtc : ℤ) : ℕ × CBuf LENGTH_TIMESTAMP :=
  let text := iso8601 (localtimeR zone timeUtc)
  (text.length, snprintf 30 text)

end OasisEdge.Utils.Tools
