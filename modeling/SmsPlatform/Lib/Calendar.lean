import Mathlib.Tactic.IntervalCases
import Mathlib.Logic.Function.Iterate

/-!
# Calendar dates

The Gregorian calendar, with years before the first.  `dayNumber` counts the days from 1970-01-01, and `civil` is its
inverse (`civil_dayNumber`, `dayNumber_civil`).  An instant is a number of milliseconds from the beginning of that day in
UTC; `utcDate` is the date of an instant there.
-/

namespace Calendar

def IsLeap (year : Int) : Prop := year % 4 = 0 ∧ (year % 100 ≠ 0 ∨ year % 400 = 0)

instance (year : Int) : Decidable (IsLeap year) := inferInstanceAs (Decidable (_ ∧ _))

def daysInMonth (year : Int) (month : Nat) : Nat :=
  if month = 2 then if IsLeap year then 29 else 28
  else if month = 4 ∨ month = 6 ∨ month = 9 ∨ month = 11 then 30
  else 31

structure Date where
  year : Int
  month : Nat
  day : Nat
  month_pos : 1 ≤ month
  month_le : month ≤ 12
  day_pos : 1 ≤ day
  day_le : day ≤ daysInMonth year month
  deriving DecidableEq

theorem daysInMonth_december (year : Int) : daysInMonth year 12 = 31 := rfl

theorem daysInMonth_february (year : Int) : daysInMonth year 2 = if IsLeap year then 29 else 28 := rfl

theorem daysInMonth_pos (year : Int) (month : Nat) : 1 ≤ daysInMonth year month := by
  unfold daysInMonth
  split
  · split <;> omega
  · split <;> omega

theorem daysInMonth_le (year : Int) (month : Nat) : daysInMonth year month ≤ 31 := by
  unfold daysInMonth
  split
  · split <;> omega
  · split <;> omega

/-- The days that a month can have. -/
theorem Date.day_bounds (d : Date) : d.day ≤ 31 ∧ (d.month = 2 → d.day ≤ 28 ∨ (d.day = 29 ∧ IsLeap d.year)) ∧
    (d.month = 4 ∨ d.month = 6 ∨ d.month = 9 ∨ d.month = 11 → d.day ≤ 30) := by
  have hday := d.day_le
  refine ⟨hday.trans (daysInMonth_le d.year d.month), fun hfebruary => ?_, fun hshort => ?_⟩
  · rw [hfebruary, daysInMonth_february] at hday
    split at hday
    · rename_i hleap
      by_cases hlast : d.day = 29
      · exact .inr ⟨hlast, hleap⟩
      · exact .inl (by omega)
    · exact .inl hday
  · unfold daysInMonth at hday
    rw [if_neg (by omega), if_pos hshort] at hday
    exact hday

namespace Date

variable (d : Date)

/-! ### The next day and the day before -/

def next : Date :=
  if h : d.day < daysInMonth d.year d.month then ⟨d.year, d.month, d.day + 1, d.month_pos, d.month_le, by omega, h⟩
  else if hmonth : d.month < 12 then
    ⟨d.year, d.month + 1, 1, by omega, hmonth, le_rfl, daysInMonth_pos d.year (d.month + 1)⟩
  else ⟨d.year + 1, 1, 1, le_rfl, by omega, le_rfl, daysInMonth_pos (d.year + 1) 1⟩

def prev : Date :=
  if h : 1 < d.day then
    ⟨d.year, d.month, d.day - 1, d.month_pos, d.month_le, by omega, (Nat.sub_le _ _).trans d.day_le⟩
  else if hmonth : 1 < d.month then
    ⟨d.year, d.month - 1, daysInMonth d.year (d.month - 1), by omega, (Nat.sub_le _ _).trans d.month_le,
      daysInMonth_pos d.year (d.month - 1), le_rfl⟩
  else ⟨d.year - 1, 12, 31, by omega, le_rfl, by omega, le_rfl⟩

variable {d}

theorem ext_fields {d' : Date} (hyear : d.year = d'.year) (hmonth : d.month = d'.month) (hday : d.day = d'.day) :
    d = d' := by
  obtain ⟨year, month, day, _, _, _, _⟩ := d
  obtain ⟨year', month', day', _, _, _, _⟩ := d'
  obtain rfl : year = year' := hyear
  obtain rfl : month = month' := hmonth
  obtain rfl : day = day' := hday
  rfl

theorem next_prev : d.prev.next = d := by
  have hday := d.day_pos
  have hmonth := d.month_pos
  have hle := d.day_le
  unfold prev
  split
  · rename_i h
    unfold next
    rw [dif_pos (by dsimp only; omega)]
    exact ext_fields rfl rfl (by dsimp only; omega)
  · rename_i h
    split
    · rename_i hm
      have hmonth_le := d.month_le
      unfold next
      rw [dif_neg (by dsimp only; omega), dif_pos (by dsimp only; omega)]
      exact ext_fields rfl (by dsimp only; omega) (by dsimp only; omega)
    · rename_i hm
      unfold next
      rw [dif_neg (by rw [daysInMonth_december]; dsimp only; omega), dif_neg (by dsimp only; omega)]
      exact ext_fields (by dsimp only; omega) (by dsimp only; omega) (by dsimp only; omega)

theorem prev_next : d.next.prev = d := by
  have hday := d.day_pos
  have hmonth := d.month_pos
  have hle := d.day_le
  unfold next
  split
  · unfold prev
    rw [dif_pos (by dsimp only; omega)]
    exact ext_fields rfl rfl (by dsimp only; omega)
  · rename_i h
    split
    · rename_i hm
      unfold prev
      rw [dif_neg (by dsimp only; omega), dif_pos (by dsimp only; omega)]
      exact ext_fields rfl (by dsimp only; omega) (by simp only [Nat.add_sub_cancel]; omega)
    · rename_i hm
      have hdecember : d.month = 12 := by
        have hmonth_le := d.month_le
        omega
      have hlast : d.day = 31 := by
        rw [hdecember, daysInMonth_december] at h hle
        omega
      unfold prev
      rw [dif_neg (by dsimp only; omega), dif_neg (by dsimp only; omega)]
      exact ext_fields (by dsimp only; omega) hdecember.symm hlast.symm

/-! ### Counting days -/

end Date

/-- The days from 1970-01-01 to a date.  A year is counted from March on, so that the leap day is its last one. -/
def countDays (year : Int) (month day : Nat) : Int :=
  let year := if month ≤ 2 then year - 1 else year
  let month : Int := if month ≤ 2 then month + 9 else month - 3
  365 * year + year / 4 - year / 100 + year / 400 + (153 * month + 2) / 5 + day - 1 - 719468

theorem countDays_day (year : Int) (month day : Nat) : countDays year month (day + 1) = countDays year month day + 1 := by
  unfold countDays
  dsimp only
  push_cast
  omega

theorem countDays_february (year : Int) : countDays year 3 1 = countDays year 2 (daysInMonth year 2) + 1 := by
  rw [daysInMonth_february]
  unfold countDays
  by_cases hleap : IsLeap year
  · rw [if_pos hleap]
    unfold IsLeap at hleap
    simp
    omega
  · rw [if_neg hleap]
    unfold IsLeap at hleap
    simp
    omega

theorem countDays_month {month : Nat} (year : Int) (hpos : 1 ≤ month) (hlt : month < 12) :
    countDays year (month + 1) 1 = countDays year month (daysInMonth year month) + 1 := by
  by_cases hfebruary : month = 2
  · rw [hfebruary]
    exact countDays_february year
  · unfold countDays daysInMonth
    interval_cases month <;> simp at hfebruary ⊢ <;> omega

theorem countDays_year (year : Int) : countDays (year + 1) 1 1 = countDays year 12 31 + 1 := by
  unfold countDays
  simp
  omega

namespace Date

def dayNumber (d : Date) : Int := countDays d.year d.month d.day

example : (⟨2026, 4, 2, by decide, by decide, by decide, by decide⟩ : Date).dayNumber = 20545 := by decide

theorem dayNumber_next (d : Date) : d.next.dayNumber = d.dayNumber + 1 := by
  have hle := d.day_le
  unfold next
  split
  · exact countDays_day d.year d.month d.day
  · rename_i h
    have hlast : d.day = daysInMonth d.year d.month := by omega
    unfold dayNumber
    rw [hlast]
    split
    · rename_i hmonth
      exact countDays_month d.year d.month_pos hmonth
    · rename_i hmonth
      have hdecember : d.month = 12 := by
        have hmonth_le := d.month_le
        omega
      rw [hdecember]
      exact countDays_year d.year

theorem dayNumber_prev (d : Date) : d.prev.dayNumber = d.dayNumber - 1 := by
  have hnext := dayNumber_next d.prev
  rw [next_prev] at hnext
  omega

def epoch : Date := ⟨1970, 1, 1, le_rfl, by decide, le_rfl, by decide⟩

/-- Only the first day is counted as zero. -/
theorem eq_epoch {d : Date} (h : d.dayNumber = 0) : d = epoch := by
  obtain ⟨year, month, day, hmonth, hmonth', hday, hday'⟩ := d
  have hlast : day ≤ 31 := hday'.trans (daysInMonth_le year month)
  unfold dayNumber countDays at h
  dsimp only at h hmonth hmonth' hday hday'
  have hyear : year = 1969 ∨ year = 1970 := by
    split at h <;> omega
  have hjanuary : year = 1970 ∧ month = 1 ∧ day = 1 := by
    unfold daysInMonth IsLeap at hday'
    rcases hyear with rfl | rfl
    · interval_cases month <;> simp at h hday' ⊢ <;> omega
    · interval_cases month <;> simp at h hday' ⊢ <;> omega
  exact ext_fields hjanuary.1 hjanuary.2.1 hjanuary.2.2

/-- Every date has a number of its own. -/
theorem dayNumber_injective : Function.Injective dayNumber := by
  -- both dates are brought to the epoch, day by day
  have hforward : ∀ (n : Nat) (d d' : Date), d.dayNumber = n → d'.dayNumber = n → d = d' := by
    intro n
    induction n with
    | zero =>
      intro d d' hd hd'
      rw [eq_epoch hd, eq_epoch hd']
    | succ n ih =>
      intro d d' hd hd'
      have hprev := ih d.prev d'.prev (by rw [dayNumber_prev]; omega) (by rw [dayNumber_prev]; omega)
      rw [← @next_prev d, ← @next_prev d', hprev]
  have hbackward : ∀ (n : Nat) (d d' : Date), d.dayNumber = -n → d'.dayNumber = -n → d = d' := by
    intro n
    induction n with
    | zero =>
      intro d d' hd hd'
      have hzero : d = epoch := eq_epoch (by simpa using hd)
      have hzero' : d' = epoch := eq_epoch (by simpa using hd')
      rw [hzero, hzero']
    | succ n ih =>
      intro d d' hd hd'
      have hnext := ih d.next d'.next (by rw [dayNumber_next]; omega) (by rw [dayNumber_next]; omega)
      rw [← @prev_next d, ← @prev_next d', hnext]
  intro d d' h
  rcases Int.eq_nat_or_neg d.dayNumber with ⟨n, hn | hn⟩
  · exact hforward n d d' hn (h ▸ hn)
  · exact hbackward n d d' hn (h ▸ hn)

/-- The date with a number. -/
def civil : Int → Date
  | .ofNat n => next^[n] epoch
  | .negSucc n => prev^[n + 1] epoch

theorem dayNumber_civil (n : Int) : (civil n).dayNumber = n := by
  have hforward : ∀ n : Nat, (next^[n] epoch).dayNumber = n := by
    intro n
    induction n with
    | zero => rfl
    | succ n ih => rw [Function.iterate_succ_apply', dayNumber_next, ih, Nat.cast_succ]
  have hbackward : ∀ n : Nat, (prev^[n] epoch).dayNumber = -n := by
    intro n
    induction n with
    | zero => rfl
    | succ n ih =>
      rw [Function.iterate_succ_apply', dayNumber_prev, ih]
      omega
  cases n with
  | ofNat n => exact hforward n
  | negSucc n => exact hbackward (n + 1)

theorem civil_dayNumber (d : Date) : civil d.dayNumber = d := dayNumber_injective (dayNumber_civil d.dayNumber)

end Date

/-! ### Instants -/

/-- The milliseconds of a day. -/
def dayMillis : Int := 86400000

/-- The midnight with which a date begins in a zone that is `offset` milliseconds ahead of UTC. -/
def localMidnight (offset : Int) (d : Date) : Int := d.dayNumber * dayMillis - offset

/-- The date of an instant in UTC. -/
def utcDate (instant : Int) : Date := Date.civil (instant / dayMillis)

theorem utcDate_eq_iff {instant : Int} {d : Date} :
    utcDate instant = d ↔ d.dayNumber * dayMillis ≤ instant ∧ instant < (d.dayNumber + 1) * dayMillis := by
  have hiff : utcDate instant = d ↔ instant / dayMillis = d.dayNumber := by
    unfold utcDate
    constructor
    · rintro rfl
      rw [Date.dayNumber_civil]
    · intro h
      rw [h, Date.civil_dayNumber]
  rw [hiff]
  unfold dayMillis
  omega

/-- A date is still the date of its local midnight in UTC if and only if local time is not ahead of UTC, and behind it by
less than a day. -/
theorem utcDate_localMidnight_iff {offset : Int} {d : Date} :
    utcDate (localMidnight offset d) = d ↔ -dayMillis < offset ∧ offset ≤ 0 := by
  rw [utcDate_eq_iff]
  unfold localMidnight dayMillis
  omega

end Calendar
