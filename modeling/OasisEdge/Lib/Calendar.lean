import Mathlib.Data.List.Lex
import Mathlib.Algebra.Order.Ring.Int
import Mathlib.Tactic.SplitIfs
import Mathlib.Tactic.IntervalCases

/-! # The civil calendar

Dates of the proleptic Gregorian calendar with a time of the day, in years of any sign. A
`DateTime` is well formed by its fields: the day exists in its month. Its number of seconds
(`DateTime.toSeconds`, counted from the start of 1970) and the date-time of a number of seconds
(`ofSeconds`) are inverse to each other (`toSeconds_ofSeconds`), and date-times are ordered field by
field as their seconds are (`toSeconds_lt_iff`).

The year of a day is found from its quotient by the mean length of a year, which is off by one at
most (`daysBeforeYear_yearOf`). -/

namespace OasisEdge.Lib.Calendar

/-! ### Years -/

/-- A leap year. -/
def IsLeap (year : ℤ) : Prop := year % 4 = 0 ∧ (year % 100 ≠ 0 ∨ year % 400 = 0)

instance (year : ℤ) : Decidable (IsLeap year) := by unfold IsLeap; infer_instance

/-- The days of a year. -/
def yearLength (year : ℤ) : ℤ := if IsLeap year then 366 else 365

/-- The days from the start of year `0` to the start of the year. -/
def daysBeforeYear (year : ℤ) : ℤ :=
  365 * year + (year + 3) / 4 - (year + 99) / 100 + (year + 399) / 400

theorem daysBeforeYear_succ (year : ℤ) :
    daysBeforeYear (year + 1) = daysBeforeYear year + yearLength year := by
  unfold daysBeforeYear yearLength IsLeap
  split_ifs with h
  · omega
  · omega

/-- A year ends before a later one starts. -/
theorem daysBeforeYear_le {y y' : ℤ} (h : y < y') :
    daysBeforeYear y + yearLength y ≤ daysBeforeYear y' := by
  rw [← daysBeforeYear_succ]
  unfold daysBeforeYear
  omega

/-- The year a day is in. -/
def yearOf (day : ℤ) : ℤ :=
  let guess := 400 * day / 146097
  if day < daysBeforeYear guess then guess - 1
  else if daysBeforeYear (guess + 1) ≤ day then guess + 1
  else guess

/-- **The day is in its year.** -/
theorem daysBeforeYear_yearOf (day : ℤ) : daysBeforeYear (yearOf day) ≤ day ∧
    day < daysBeforeYear (yearOf day) + yearLength (yearOf day) := by
  rw [← daysBeforeYear_succ]
  unfold yearOf
  -- the quotient is within a year of the day
  have hquot : 146097 * (400 * day / 146097) ≤ 400 * day ∧
      400 * day < 146097 * (400 * day / 146097) + 146097 := by omega
  generalize 400 * day / 146097 = guess at hquot
  dsimp only
  split_ifs with h1 h2
  · refine ⟨?_, by rw [sub_add_cancel]; exact h1⟩
    unfold daysBeforeYear
    omega
  · refine ⟨h2, ?_⟩
    unfold daysBeforeYear
    omega
  · exact ⟨not_lt.mp h1, not_le.mp h2⟩

/-! ### Months -/

/-- The days of a month, counted from `0`. -/
def monthLength (year : ℤ) : ℕ → ℤ
  | 1 => if IsLeap year then 29 else 28
  | 3 | 5 | 8 | 10 => 30
  | _ => 31

/-- The days of a year before a month. -/
def daysBeforeMonth (year : ℤ) : ℕ → ℤ
  | 0 => 0
  | month + 1 => daysBeforeMonth year month + monthLength year month

theorem monthLength_pos (year : ℤ) (month : ℕ) : 0 < monthLength year month := by
  unfold monthLength
  split
  · split_ifs <;> omega
  all_goals omega

theorem monthLength_le (year : ℤ) (month : ℕ) : monthLength year month ≤ 31 := by
  unfold monthLength
  split
  · split_ifs <;> omega
  all_goals omega

theorem daysBeforeMonth_le (year : ℤ) {m m' : ℕ} (h : m < m') :
    daysBeforeMonth year m + monthLength year m ≤ daysBeforeMonth year m' := by
  induction m' with
  | zero => omega
  | succ m' ih =>
    rw [daysBeforeMonth]
    rcases Nat.lt_or_ge m m' with hlt | hge
    · have hle := ih hlt
      have hpos := monthLength_pos year m'
      omega
    · obtain rfl : m = m' := by omega
      exact le_rfl

theorem daysBeforeMonth_twelve (year : ℤ) : daysBeforeMonth year 12 = yearLength year := by
  simp only [daysBeforeMonth, monthLength, yearLength]
  split_ifs <;> rfl

/-- The last of the months up to `m` that starts by the day. -/
def monthUpTo (year day : ℤ) : ℕ → ℕ
  | 0 => 0
  | m + 1 => if daysBeforeMonth year (m + 1) ≤ day then m + 1 else monthUpTo year day m

/-- The month a day of the year is in. -/
def monthOf (year day : ℤ) : ℕ := monthUpTo year day 11

theorem monthUpTo_spec {year day : ℤ} {m : ℕ} (h0 : 0 ≤ day)
    (h : day < daysBeforeMonth year (m + 1)) : monthUpTo year day m ≤ m ∧
      daysBeforeMonth year (monthUpTo year day m) ≤ day ∧
      day < daysBeforeMonth year (monthUpTo year day m + 1) := by
  induction m with
  | zero => exact ⟨le_rfl, h0, h⟩
  | succ m ih =>
    rw [monthUpTo]
    split_ifs with hle
    · exact ⟨le_rfl, hle, h⟩
    · obtain ⟨h1, h2, h3⟩ := ih (not_le.mp hle)
      exact ⟨h1.trans (Nat.le_succ m), h2, h3⟩

/-- **The day is in its month.** -/
theorem monthOf_spec {year day : ℤ} (h0 : 0 ≤ day) (h : day < yearLength year) :
    monthOf year day < 12 ∧ daysBeforeMonth year (monthOf year day) ≤ day ∧
      day < daysBeforeMonth year (monthOf year day) + monthLength year (monthOf year day) := by
  rw [← daysBeforeMonth_twelve] at h
  obtain ⟨h1, h2, h3⟩ := monthUpTo_spec (m := 11) h0 h
  exact ⟨Nat.lt_succ_of_le h1, h2, h3⟩

/-! ### Date-times -/

/-- A date and a time of the day. Months count from `0`, days from `1`. -/
structure DateTime where
  year : ℤ
  month : ℕ
  day : ℕ
  hour : ℕ
  minute : ℕ
  second : ℕ
  month_lt : month < 12
  day_pos : 1 ≤ day
  day_le : (day : ℤ) ≤ monthLength year month
  hour_lt : hour < 24
  minute_lt : minute < 60
  second_lt : second < 60

/-- The day of a date, from the start of year `0`. -/
def DateTime.days (dt : DateTime) : ℤ :=
  daysBeforeYear dt.year + daysBeforeMonth dt.year dt.month + (dt.day - 1)

/-- The start of 1970. -/
def epoch : ℤ := daysBeforeYear 1970

/-- The seconds from the start of 1970. -/
def DateTime.toSeconds (dt : DateTime) : ℤ :=
  (dt.days - epoch) * 86400 + dt.hour * 3600 + dt.minute * 60 + dt.second

/-- The fields of a date-time, the longest unit first. -/
def DateTime.fields (dt : DateTime) : List ℤ :=
  [dt.year, dt.month, dt.day, dt.hour, dt.minute, dt.second]

/-! ### The date-time of a number of seconds -/

/-- The day in its year, counted from `0`. -/
def dayOfYear (day : ℤ) : ℤ := day - daysBeforeYear (yearOf day)

theorem dayOfYear_spec (day : ℤ) :
    0 ≤ dayOfYear day ∧ dayOfYear day < yearLength (yearOf day) := by
  obtain ⟨hle, hlt⟩ := daysBeforeYear_yearOf day
  unfold dayOfYear
  omega

/-- The month of a day and the day in its month, both counted from `0`. -/
theorem month_spec (day : ℤ) :
    let month := monthOf (yearOf day) (dayOfYear day)
    month < 12 ∧ 0 ≤ dayOfYear day - daysBeforeMonth (yearOf day) month ∧
      dayOfYear day - daysBeforeMonth (yearOf day) month < monthLength (yearOf day) month := by
  obtain ⟨h0, hlt⟩ := dayOfYear_spec day
  obtain ⟨hmonth, hle, hlt'⟩ := monthOf_spec h0 hlt
  exact ⟨hmonth, by omega, by omega⟩

/-- **The date-time of a number of seconds** from the start of 1970. -/
def ofSeconds (t : ℤ) : DateTime where
  year := yearOf (t / 86400 + epoch)
  month := monthOf (yearOf (t / 86400 + epoch)) (dayOfYear (t / 86400 + epoch))
  day := (dayOfYear (t / 86400 + epoch) - daysBeforeMonth (yearOf (t / 86400 + epoch))
    (monthOf (yearOf (t / 86400 + epoch)) (dayOfYear (t / 86400 + epoch)))).toNat + 1
  hour := (t % 86400 / 3600).toNat
  minute := (t % 3600 / 60).toNat
  second := (t % 60).toNat
  month_lt := (month_spec _).1
  day_pos := by omega
  day_le := by
    obtain ⟨-, h0, hlt⟩ := month_spec (t / 86400 + epoch)
    omega
  hour_lt := by omega
  minute_lt := by omega
  second_lt := by omega

theorem days_ofSeconds (t : ℤ) : (ofSeconds t).days = t / 86400 + epoch := by
  obtain ⟨-, h0, -⟩ := month_spec (t / 86400 + epoch)
  show daysBeforeYear _ + daysBeforeMonth _ _ + _ = _
  simp only [ofSeconds]
  push_cast
  rw [Int.toNat_of_nonneg h0]
  unfold dayOfYear
  omega

/-- **It has that number of seconds.** -/
theorem toSeconds_ofSeconds (t : ℤ) : (ofSeconds t).toSeconds = t := by
  unfold DateTime.toSeconds
  rw [days_ofSeconds]
  simp only [ofSeconds]
  omega

/-- A leap day: 29 February 2000. -/
example : (ofSeconds 951782400).fields = [2000, 1, 29, 0, 0, 0] := by decide +kernel

/-! ### The order -/

theorem daysBeforeMonth_nonneg (year : ℤ) (month : ℕ) : 0 ≤ daysBeforeMonth year month := by
  rcases Nat.eq_zero_or_pos month with rfl | hpos
  · exact le_rfl
  · have hle := daysBeforeMonth_le year hpos
    have hlen := monthLength_pos year 0
    have h0 : daysBeforeMonth year 0 = 0 := rfl
    omega

theorem DateTime.day_in_year (dt : DateTime) :
    0 ≤ daysBeforeMonth dt.year dt.month + ((dt.day : ℤ) - 1) ∧
      daysBeforeMonth dt.year dt.month + ((dt.day : ℤ) - 1) < yearLength dt.year := by
  have h0 := daysBeforeMonth_nonneg dt.year dt.month
  have hle := daysBeforeMonth_le dt.year dt.month_lt
  have hday := dt.day_le
  have hpos := dt.day_pos
  rw [daysBeforeMonth_twelve] at hle
  omega

theorem DateTime.days_lt_of_year {a b : DateTime} (h : a.year < b.year) : a.days < b.days := by
  have hyears := daysBeforeYear_le h
  have ha := a.day_in_year
  have hb := b.day_in_year
  unfold DateTime.days
  omega

theorem DateTime.days_lt_of_month {a b : DateTime} (hyear : a.year = b.year)
    (h : a.month < b.month) : a.days < b.days := by
  have hmonths := daysBeforeMonth_le a.year h
  have hday := a.day_le
  have hpos := b.day_pos
  unfold DateTime.days
  rw [← hyear]
  omega

theorem DateTime.days_lt_iff_day {a b : DateTime} (hyear : a.year = b.year)
    (hmonth : a.month = b.month) : a.days < b.days ↔ a.day < b.day := by
  unfold DateTime.days
  rw [hyear, hmonth]
  omega

theorem DateTime.days_lt_iff {a b : DateTime} : a.days < b.days ↔
    a.year < b.year ∨ a.year = b.year ∧ (a.month < b.month ∨ a.month = b.month ∧ a.day < b.day) := by
  rcases lt_trichotomy a.year b.year with hlt | heq | hgt
  · exact iff_of_true (days_lt_of_year hlt) (Or.inl hlt)
  · rcases lt_trichotomy a.month b.month with hlt' | heq' | hgt'
    · exact iff_of_true (days_lt_of_month heq hlt') (Or.inr ⟨heq, Or.inl hlt'⟩)
    · rw [days_lt_iff_day heq heq']
      omega
    · have hdays := days_lt_of_month heq.symm hgt'
      omega
  · have hdays := days_lt_of_year hgt
    omega

theorem DateTime.days_eq_iff {a b : DateTime} : a.days = b.days ↔
    a.year = b.year ∧ a.month = b.month ∧ a.day = b.day := by
  have hab := days_lt_iff (a := a) (b := b)
  have hba := days_lt_iff (a := b) (b := a)
  constructor
  · intro h
    omega
  · rintro ⟨hyear, hmonth, hday⟩
    unfold DateTime.days
    rw [hyear, hmonth, hday]

/-- **Date-times are ordered field by field.** -/
theorem DateTime.toSeconds_lt_iff {a b : DateTime} :
    a.toSeconds < b.toSeconds ↔ a.fields < b.fields := by
  have hdays := days_lt_iff (a := a) (b := b)
  have hsame := days_eq_iff (a := a) (b := b)
  have htime : a.toSeconds < b.toSeconds ↔ a.days < b.days ∨ a.days = b.days ∧
      (a.hour < b.hour ∨ a.hour = b.hour ∧ (a.minute < b.minute ∨ a.minute = b.minute ∧
        a.second < b.second)) := by
    have ha := a.hour_lt
    have hb := b.hour_lt
    have ha' := a.minute_lt
    have hb' := b.minute_lt
    have ha'' := a.second_lt
    have hb'' := b.second_lt
    unfold DateTime.toSeconds
    omega
  rw [htime]
  simp only [DateTime.fields, List.cons_lt_cons_iff, List.not_lt_nil, and_false, or_false,
    Nat.cast_lt, Nat.cast_inj]
  omega

end OasisEdge.Lib.Calendar
