import OasisEdge.Utils.Tools

/-! # Time stamps as strings

A time stamp is the record of six decimal fields of a date-time (`toolsGetTimeISO8601_text`), so two
of them compare under `strcmp` as the local times they were made from (`strcmp_stamp_iff`), and one
denotes the instant it was made at exactly if the zone is at UTC then (`denotes_stamp_iff`). Two
instants get time stamps that order like them *and* denote them exactly if the zone is at UTC at both
(`ordersLikeTime_iff`). -/

namespace OasisEdge.Utils.Timestamps

open OasisEdge.Lib.Chars OasisEdge.Lib.Calendar OasisEdge.Lib.Decimal OasisEdge.Shadow.State
open OasisEdge.Utils.Tools

/-! ### Date-times as text -/

/-- The widths and separators of an ISO 8601 time stamp. -/
def isoFormat : Format := [(4, 45), (2, 45), (2, 84), (2, 58), (2, 58), (2, 90)]

/-- The numbers in the time stamp of a date-time. -/
def isoRecord (dt : DateTime) : List ℕ :=
  [dt.year.toNat, dt.month + 1, dt.day, dt.hour, dt.minute, dt.second]

/-- The year has four digits. -/
def FourDigits (dt : DateTime) : Prop := 0 ≤ dt.year ∧ dt.year ≤ 9999

instance (dt : DateTime) : Decidable (FourDigits dt) := by unfold FourDigits; infer_instance

/-- Every number of a time stamp fits into its field. -/
theorem isoRecord_bounds {dt : DateTime} (h : FourDigits dt) :
    dt.year.toNat < 10 ^ 4 ∧ dt.month + 1 < 10 ^ 2 ∧ dt.day < 10 ^ 2 ∧ dt.hour < 10 ^ 2 ∧
      dt.minute < 10 ^ 2 ∧ dt.second < 10 ^ 2 := by
  obtain ⟨h0, hle⟩ := h
  have hmonth := dt.month_lt
  have hlen := monthLength_le dt.year dt.month
  have hday := dt.day_le
  have hhour := dt.hour_lt
  have hminute := dt.minute_lt
  have hsecond := dt.second_lt
  omega

theorem fits_isoRecord {dt : DateTime} (h : FourDigits dt) : Fits isoFormat (isoRecord dt) := by
  obtain ⟨hyear, hmonth, hday, hhour, hminute, hsecond⟩ := isoRecord_bounds h
  exact .cons hyear (.cons hmonth (.cons hday (.cons hhour (.cons hminute (.cons hsecond .nil)))))

theorem isoRecord_lt_iff {a b : DateTime} (ha : FourDigits a) (hb : FourDigits b) :
    isoRecord a < isoRecord b ↔ a.toSeconds < b.toSeconds := by
  obtain ⟨ha0, -⟩ := ha
  obtain ⟨hb0, -⟩ := hb
  rw [DateTime.toSeconds_lt_iff]
  simp only [isoRecord, DateTime.fields, List.cons_lt_cons_iff, List.not_lt_nil, and_false,
    or_false, Nat.cast_lt, Nat.cast_inj]
  omega

/-- A record determines the instant. -/
theorem toSeconds_eq_of_isoRecord {a b : DateTime} (ha : FourDigits a) (hb : FourDigits b)
    (h : isoRecord a = isoRecord b) : a.toSeconds = b.toSeconds := by
  have hab := isoRecord_lt_iff ha hb
  have hba := isoRecord_lt_iff hb ha
  rw [h] at hab hba
  have hself : ¬ isoRecord b < isoRecord b := lt_irrefl _
  have h1 := (not_congr hab).mp hself
  have h2 := (not_congr hba).mp hself
  omega

/-! ### What the function writes -/

/-- The time stamp made at an instant. -/
def stamp (zone : ℤ → ℤ) (t : ℤ) : CString := (toolsGetTimeISO8601 zone t).2.str

/-- The local date-time of an instant. -/
def localDateTime (zone : ℤ → ℤ) (t : ℤ) : DateTime := ofSeconds (t + zone t)

/-- **The text of a local time** is its record. -/
theorem iso8601_localtimeR {zone : ℤ → ℤ} {t : ℤ} (h : FourDigits (localDateTime zone t)) :
    iso8601 (localtimeR zone t) =
      .ofBytes (render isoFormat (isoRecord (localDateTime zone t))) := by
  obtain ⟨hyear, hmonth, hday, hhour, hminute, hsecond⟩ := isoRecord_bounds h
  have h0 := h.1
  have hy : (localDateTime zone t).year - 1900 + 1900 =
      ((localDateTime zone t).year.toNat : ℤ) := by omega
  have hm : ((localDateTime zone t).month : ℤ) + 1 =
      ((localDateTime zone t).month + 1 : ℕ) := by push_cast; rfl
  unfold iso8601
  congr 1
  show formatInt 4 ((localDateTime zone t).year - 1900 + 1900) ++
    45 :: formatInt 2 ((localDateTime zone t).month + 1) ++
    45 :: formatInt 2 (localDateTime zone t).day ++ 84 :: formatInt 2 (localDateTime zone t).hour ++
    58 :: formatInt 2 (localDateTime zone t).minute ++
    58 :: formatInt 2 (localDateTime zone t).second ++ [90] = _
  rw [hy, hm, formatInt_natCast hyear, formatInt_natCast hmonth, formatInt_natCast hday,
    formatInt_natCast hhour, formatInt_natCast hminute, formatInt_natCast hsecond]
  simp only [isoFormat, isoRecord, render, List.append_assoc, List.cons_append]

theorem bytes_record (dt : DateTime) :
    (CString.ofBytes (render isoFormat (isoRecord dt))).bytes = render isoFormat (isoRecord dt) :=
  CString.bytes_ofBytes (render_ne_zero _ (by decide))

theorem length_record {dt : DateTime} (h : FourDigits dt) :
    (CString.ofBytes (render isoFormat (isoRecord dt))).length = 20 := by
  show (CString.ofBytes (render isoFormat (isoRecord dt))).bytes.length = 20
  rw [bytes_record, length_render (fits_isoRecord h)]
  rfl

/-- **The time stamp** is stored whole. -/
theorem stamp_eq {zone : ℤ → ℤ} {t : ℤ} (h : FourDigits (localDateTime zone t)) :
    stamp zone t = .ofBytes (render isoFormat (isoRecord (localDateTime zone t))) := by
  have hlen := length_record h
  show (snprintf 30 (iso8601 (localtimeR zone t))).str = _
  rw [iso8601_localtimeR h]
  exact str_snprintf (by omega)

/-! ### Order and meaning -/

/-- The string, read as a time in UTC, is the instant `t`. -/
def Denotes (s : CString) (t : ℤ) : Prop :=
  ∃ dt, FourDigits dt ∧ s.bytes = render isoFormat (isoRecord dt) ∧ dt.toSeconds = t

/-- **Time stamps compare as the local times.** -/
theorem strcmp_stamp_iff {zone : ℤ → ℤ} {t₁ t₂ : ℤ} (h₁ : FourDigits (localDateTime zone t₁))
    (h₂ : FourDigits (localDateTime zone t₂)) :
    strcmp (stamp zone t₁) (stamp zone t₂) < 0 ↔ t₁ + zone t₁ < t₂ + zone t₂ := by
  rw [stamp_eq h₁, stamp_eq h₂, strcmp, bytes_record, bytes_record,
    cmpBytes_render (fits_isoRecord h₁) (fits_isoRecord h₂), isoRecord_lt_iff h₁ h₂]
  unfold localDateTime
  rw [toSeconds_ofSeconds, toSeconds_ofSeconds]

/-- **A time stamp denotes its instant** exactly if the zone is at UTC. -/
theorem denotes_stamp_iff {zone : ℤ → ℤ} {t : ℤ} (h : FourDigits (localDateTime zone t)) :
    Denotes (stamp zone t) t ↔ zone t = 0 := by
  have hlocal : (localDateTime zone t).toSeconds = t + zone t := toSeconds_ofSeconds _
  rw [stamp_eq h]
  constructor
  · rintro ⟨dt, hdt, hbytes, ht⟩
    rw [bytes_record] at hbytes
    have hrecord := render_inj (fits_isoRecord h) (fits_isoRecord hdt) hbytes
    have hsame := toSeconds_eq_of_isoRecord h hdt hrecord
    omega
  · intro hzone
    exact ⟨_, h, bytes_record _, by rw [hlocal, hzone, add_zero]⟩

/-- The years of the instant in UTC and in the zone have four digits. -/
structure YearsFit (zone : ℤ → ℤ) (t : ℤ) : Prop where
  utc : FourDigits (ofSeconds t)
  loc : FourDigits (localDateTime zone t)

/-- **What a pair of time stamps should be**: ordered like the instants, denoting them, and of twenty
characters, none of them cut off. -/
structure OrdersLikeTime (zone : ℤ → ℤ) (t₁ t₂ : ℤ) : Prop where
  order : strcmp (stamp zone t₁) (stamp zone t₂) < 0
  denotes₁ : Denotes (stamp zone t₁) t₁
  denotes₂ : Denotes (stamp zone t₂) t₂
  length₁ : (stamp zone t₁).length = 20 ∧ (toolsGetTimeISO8601 zone t₁).1 = 20
  length₂ : (stamp zone t₂).length = 20 ∧ (toolsGetTimeISO8601 zone t₂).1 = 20

/-- The length of a time stamp, in the buffer and as the function returns it. -/
theorem length_stamp {zone : ℤ → ℤ} {t : ℤ} (h : FourDigits (localDateTime zone t)) :
    (stamp zone t).length = 20 ∧ (toolsGetTimeISO8601 zone t).1 = 20 := by
  refine ⟨by rw [stamp_eq h, length_record h], ?_⟩
  show (iso8601 (localtimeR zone t)).length = 20
  rw [iso8601_localtimeR h, length_record h]

/-- **Time stamps order like time and denote it** exactly if the zone is at UTC at both instants. -/
theorem ordersLikeTime_iff {zone : ℤ → ℤ} {t₁ t₂ : ℤ} (hlt : t₁ < t₂) (h₁ : YearsFit zone t₁)
    (h₂ : YearsFit zone t₂) : OrdersLikeTime zone t₁ t₂ ↔ zone t₁ = 0 ∧ zone t₂ = 0 := by
  constructor
  · intro h
    exact ⟨(denotes_stamp_iff h₁.loc).mp h.denotes₁, (denotes_stamp_iff h₂.loc).mp h.denotes₂⟩
  · rintro ⟨hz₁, hz₂⟩
    have horder : t₁ + zone t₁ < t₂ + zone t₂ := by omega
    exact ⟨(strcmp_stamp_iff h₁.loc h₂.loc).mpr horder, (denotes_stamp_iff h₁.loc).mpr hz₁,
      (denotes_stamp_iff h₂.loc).mpr hz₂, length_stamp h₁.loc, length_stamp h₂.loc⟩

/-- A zone at UTC. -/
theorem ordersLikeTime_utc : OrdersLikeTime (fun _ => 0) 0 1000000000 :=
  (ordersLikeTime_iff (by decide) ⟨by decide +kernel, by decide +kernel⟩
    ⟨by decide +kernel, by decide +kernel⟩).mpr ⟨rfl, rfl⟩

/-- A zone whose summer time of one hour ends at an instant. -/
def summerUntil (last t : ℤ) : ℤ := if t < last then 3600 else 0

/-- **The hour that is repeated**: the later instant has the smaller time stamp. -/
theorem not_ordersLikeTime_summer :
    ¬ OrdersLikeTime (summerUntil 1000000000) 999999999 1000000000 ∧
      strcmp (stamp (summerUntil 1000000000) 1000000000)
        (stamp (summerUntil 1000000000) 999999999) < 0 := by
  have hearly : FourDigits (localDateTime (summerUntil 1000000000) 999999999) := by decide +kernel
  have hlate : FourDigits (localDateTime (summerUntil 1000000000) 1000000000) := by decide +kernel
  refine ⟨fun h => ?_, (strcmp_stamp_iff hlate hearly).mpr (by decide)⟩
  have horder := (strcmp_stamp_iff hearly hlate).mp h.order
  exact absurd horder (by decide)

end OasisEdge.Utils.Timestamps
