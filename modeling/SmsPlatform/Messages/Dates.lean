import SmsPlatform.Lib.Calendar
import SmsPlatform.Lib.Decimal
import SmsPlatform.Redis.DailyQuota

/-!
# Dates between the database and the code

The driver delivers a DATE column as a `Date` at midnight of the process's time zone.  `toDateString` of
`messages.service.ts` and the JSON of an event print that instant in UTC, and PostgreSQL reads the date in front of what
is printed.  The code finds its rows again if local time is UTC or behind it.
-/

namespace SmsPlatform

open Calendar RateLimit

/-! ### Years, months and days -/

/-- The year of a day within its era. -/
theorem yearOfEra_eq {a b c dayOfYear dayOfEra : Int} (ha : 0 ≤ a ∧ a ≤ 3) (hb : 0 ≤ b ∧ b ≤ 24) (hc : 0 ≤ c ∧ c ≤ 3)
    (hpos : 0 ≤ dayOfYear)
    (hle : dayOfYear ≤ 364 ∨ (dayOfYear = 365 ∧ c = 3 ∧ (b ≠ 24 ∨ a = 3)))
    (hday : dayOfEra = 36524 * a + 1461 * b + 365 * c + dayOfYear) :
    (dayOfEra - dayOfEra / 1460 + dayOfEra / 36524 - dayOfEra / 146096) / 365 = 100 * a + 4 * b + c := by
  -- the last day of an era counts as one of a fourth century as well as one of an era
  have hlast : dayOfEra / 36524 - dayOfEra / 146096 = a := by
    have hcases : dayOfEra = 146096 ∧ a = 3 ∨ (dayOfEra < 36524 * (a + 1) ∧ dayOfEra < 146096) := by omega
    have hlow : 36524 * a ≤ dayOfEra := by omega
    rcases hcases with ⟨h, h'⟩ | ⟨h, h'⟩ <;> omega
  have hfour : dayOfEra / 1460 =
      25 * a + b + (if 1460 ≤ 24 * a + b + 365 * c + dayOfYear then 1 else 0) := by
    split <;> omega
  split at hfour <;> omega

/-- Eras, centuries, leap cycles and years. -/
theorem exists_cycles (year : Int) : ∃ a b c : Int, (0 ≤ a ∧ a ≤ 3) ∧ (0 ≤ b ∧ b ≤ 24) ∧ (0 ≤ c ∧ c ≤ 3) ∧
    year = 400 * (year / 400) + 100 * a + 4 * b + c ∧ year / 4 = 100 * (year / 400) + 25 * a + b ∧
      year / 100 = 4 * (year / 400) + a := by
  refine ⟨year % 400 / 100, year % 100 / 4, year % 4, ?_⟩
  omega

/-- `civilFromDays` from the year that begins in March and the day in it. -/
theorem civilFromDays_of_march {days year dayOfYear : Int} (hpos : 0 ≤ dayOfYear)
    (hle : dayOfYear ≤ 364 ∨ (dayOfYear = 365 ∧ IsLeap (year + 1)))
    (hdays : days + 719468 = 365 * year + year / 4 - year / 100 + year / 400 + dayOfYear) :
    civilFromDays days =
      (year + (if (if (5 * dayOfYear + 2) / 153 < 10 then (5 * dayOfYear + 2) / 153 + 3
        else (5 * dayOfYear + 2) / 153 - 9) ≤ 2 then 1 else 0),
        (if (5 * dayOfYear + 2) / 153 < 10 then (5 * dayOfYear + 2) / 153 + 3 else (5 * dayOfYear + 2) / 153 - 9),
        dayOfYear - (153 * ((5 * dayOfYear + 2) / 153) + 2) / 5 + 1) := by
  obtain ⟨a, b, c, ha, hb, hc, hyear, hfours, hcenturies⟩ := exists_cycles year
  have hlast : dayOfYear ≤ 364 ∨ (dayOfYear = 365 ∧ c = 3 ∧ (b ≠ 24 ∨ a = 3)) := by
    unfold IsLeap at hle
    omega
  obtain ⟨dayOfEra, hdayOfEra⟩ : ∃ n, n = 36524 * a + 1461 * b + 365 * c + dayOfYear := ⟨_, rfl⟩
  have hsplit : days + 719468 = 146097 * (year / 400) + dayOfEra := by omega
  have hbounds : 0 ≤ dayOfEra ∧ dayOfEra < 146097 := by omega
  have hday : (days + 719468) % 146097 = dayOfEra := by omega
  have hera : (days + 719468) / 146097 = year / 400 := by omega
  have hquotients : (100 * a + 4 * b + c) / 4 = 25 * a + b ∧ (100 * a + 4 * b + c) / 100 = a := by omega
  have hdayOfYear : dayOfEra -
      (365 * (100 * a + 4 * b + c) + (100 * a + 4 * b + c) / 4 - (100 * a + 4 * b + c) / 100) = dayOfYear := by
    rw [hquotients.1, hquotients.2, hdayOfEra]
    ring
  have hsum : 100 * a + 4 * b + c + year / 400 * 400 = year := by linarith
  unfold civilFromDays
  dsimp only
  rw [hday, yearOfEra_eq ha hb hc hpos hlast hdayOfEra, hdayOfYear, hera, hsum]

/-- The month of a day of the year, and the day in it, for a year that begins in March. -/
theorem march_month {month day : Nat} (hpos : 1 ≤ month) (hle : month ≤ 12) (hday : 1 ≤ day)
    (hday' : day ≤ 31 ∧ (month = 2 → day ≤ 29) ∧ (month = 4 ∨ month = 6 ∨ month = 9 ∨ month = 11 → day ≤ 30)) :
    (5 * ((153 * (if month ≤ 2 then (month : Int) + 9 else month - 3) + 2) / 5 + day - 1) + 2) / 153 =
      if month ≤ 2 then (month : Int) + 9 else month - 3 := by
  interval_cases month <;> simp at hday' ⊢ <;> omega

/-- A year that starts in March has 365 days, or 366 if its February has 29. -/
theorem marchYearDay_le (d : Date) :
    (153 * (if d.month ≤ 2 then (d.month : Int) + 9 else d.month - 3) + 2) / 5 + d.day - 1 ≤ 364 ∨
      ((153 * (if d.month ≤ 2 then (d.month : Int) + 9 else d.month - 3) + 2) / 5 + d.day - 1 = 365 ∧
        IsLeap ((if d.month ≤ 2 then d.year - 1 else d.year) + 1)) := by
  obtain ⟨hbound, hfebruary, hshort⟩ := d.day_bounds
  obtain ⟨year, month, day, hmonth, hmonth', hday, hday'⟩ := d
  dsimp only at hbound hfebruary hshort ⊢
  by_cases hsecond : month = 2
  · subst hsecond
    rcases hfebruary rfl with h | ⟨h, hleap⟩
    · left
      simp
      omega
    · right
      subst h
      simpa using hleap
  · left
    interval_cases month <;> simp at hsecond hshort ⊢ <;> omega

theorem civilFromDays_dayNumber (d : Date) : civilFromDays d.dayNumber = (d.year, (d.month : Int), (d.day : Int)) := by
  obtain ⟨hbound, hfebruary, hshort⟩ := d.day_bounds
  have hlast := marchYearDay_le d
  obtain ⟨year, month, day, hmonth, hmonth', hday, hday'⟩ := d
  dsimp only at hbound hfebruary hshort hlast
  have hmarch := march_month hmonth hmonth' hday ⟨hbound, fun h => by rcases hfebruary h with h | h <;> omega, hshort⟩
  have hyearDay : 0 ≤ (153 * (if month ≤ 2 then (month : Int) + 9 else month - 3) + 2) / 5 + day - 1 := by
    split <;> omega
  have hcount : countDays year month day + 719468 =
      365 * (if month ≤ 2 then year - 1 else year) + (if month ≤ 2 then year - 1 else year) / 4 -
        (if month ≤ 2 then year - 1 else year) / 100 + (if month ≤ 2 then year - 1 else year) / 400 +
          ((153 * (if month ≤ 2 then (month : Int) + 9 else month - 3) + 2) / 5 + day - 1) := by
    unfold countDays
    ring
  show civilFromDays (countDays year month day) = (year, (month : Int), (day : Int))
  rw [civilFromDays_of_march hyearDay hlast hcount, hmarch]
  by_cases hearly : month ≤ 2
  · have hlate : ¬ (month : Int) + 9 < 10 := by omega
    have hmonth₀ : (month : Int) + 9 - 9 ≤ 2 := by omega
    simp only [if_pos hearly, if_neg hlate, if_pos hmonth₀]
    refine Prod.ext (by dsimp only; omega) (Prod.ext (by dsimp only; omega) ?_)
    dsimp only
    omega
  · have hlate : (month : Int) - 3 < 10 := by omega
    have hmonth₀ : ¬ (month : Int) - 3 + 3 ≤ 2 := by omega
    simp only [if_neg hearly, if_pos hlate, if_neg hmonth₀]
    refine Prod.ext (by dsimp only; omega) (Prod.ext (by dsimp only; omega) ?_)
    dsimp only
    omega

theorem civilFromDays_eq (days : Int) :
    civilFromDays days =
      ((Date.civil days).year, ((Date.civil days).month : Int), ((Date.civil days).day : Int)) := by
  have h := civilFromDays_dayNumber (Date.civil days)
  rwa [Date.dayNumber_civil] at h

/-! ### Texts -/

def yearText (year : Int) : String :=
  if 0 ≤ year ∧ year ≤ 9999 then padStart 4 year.natAbs
  else (if year < 0 then "-" else "+") ++ padStart 6 year.natAbs

/-- The time of day behind the `T`. -/
def isoTime (ms : Int) : String :=
  let time := (ms % msPerDay).natAbs
  padStart 2 (time / 3600000) ++ ":" ++ padStart 2 (time / 60000 % 60) ++ ":" ++ padStart 2 (time / 1000 % 60) ++ "." ++
    padStart 3 (time % 1000) ++ "Z"

/-- `new Date(ms).toISOString()`, which is also what `JSON.stringify` makes of the date. -/
def toISOString (ms : Int) : String :=
  let (year, month, day) := civilFromDays (utcDay ms)
  yearText year ++ "-" ++ padStart 2 month.natAbs ++ "-" ++ padStart 2 day.natAbs ++ "T" ++ isoTime ms

example : toISOString 1775077200500 = "2026-04-01T21:00:00.500Z" := by decide +kernel

/-- The date in front of a text, as PostgreSQL reads it: four digits of a year, which is not zero, and two each of a month
and a day in it. -/
def leadingDate (text : String) : Option Date :=
  let chars := text.toList
  if chars[4]? = some '-' ∧ chars[7]? = some '-' then
    match Decimal.parseNat (chars.take 4), Decimal.parseNat ((chars.drop 5).take 2),
      Decimal.parseNat ((chars.drop 8).take 2) with
    | some year, some month, some day =>
      if h : 1 ≤ year ∧ (1 ≤ month ∧ month ≤ 12) ∧ 1 ≤ day ∧ day ≤ daysInMonth year month then
        some ⟨year, month, day, h.2.1.1, h.2.1.2, h.2.2.1, h.2.2.2⟩
      else none
    | _, _, _ => none
  else none

theorem padStart_toList (width n : Nat) :
    (padStart width n).toList = List.replicate (width - Decimal.len n) '0' ++ Decimal.digits n := by
  have hrepr : n.repr.toList = Decimal.digits n := by simp [Nat.repr, Decimal.digits]
  have hlength : n.repr.length = Decimal.len n := by rw [← String.length_toList, hrepr]; rfl
  unfold padStart
  rw [String.toList_append, String.toList_ofList, hlength, hrepr]

theorem padStart_length {width n : Nat} (hpos : 0 < width) (h : n < 10 ^ width) : (padStart width n).toList.length = width := by
  have hle : Decimal.len n ≤ width := (Nat.length_toDigits_le_iff (by decide) hpos).2 h
  rw [padStart_toList, List.length_append, List.length_replicate]
  show width - Decimal.len n + Decimal.len n = width
  omega

theorem value_replicate_zero (k : Nat) : Decimal.value (List.replicate k '0') = 0 := by
  induction k with
  | zero => rfl
  | succ k ih => rw [List.replicate_succ, Decimal.value_cons, ih]; simp

/-- What is padded is read back. -/
theorem parseNat_padStart (width n : Nat) : Decimal.parseNat (padStart width n).toList = some n := by
  have hdigits : Decimal.AllDigits (padStart width n).toList := by
    rw [padStart_toList]
    intro c hc
    rcases List.mem_append.1 hc with h | h
    · rw [List.eq_of_mem_replicate h]
      rfl
    · exact Decimal.allDigits_digits n c h
  have hne : (padStart width n).toList ≠ [] := by
    rw [padStart_toList]
    simp [Decimal.digits_ne_nil]
  unfold Decimal.parseNat
  rw [if_pos ⟨hne, hdigits⟩, padStart_toList, Decimal.value_append, value_replicate_zero, Decimal.value_digits]
  simp

theorem pieces_eq {year month day rest : List Char} (hyear : year.length = 4) (hmonth : month.length = 2)
    (hday : day.length = 2) (chars : List Char)
    (h : chars = year ++ '-' :: (month ++ '-' :: (day ++ rest))) :
    (chars[4]? = some '-' ∧ chars[7]? = some '-') ∧ chars.take 4 = year ∧ (chars.drop 5).take 2 = month ∧
      (chars.drop 8).take 2 = day := by
  have hpast : year.drop 8 = [] := List.drop_eq_nil_of_le (by omega)
  have hpast' : month.drop 3 = [] := List.drop_eq_nil_of_le (by omega)
  subst h
  simp [List.getElem?_append, List.take_append, List.drop_append, hyear, hmonth, hday, hpast, hpast']

theorem padStart_two_month (d : Date) : (padStart 2 d.month).toList.length = 2 := by
  have hle := d.month_le
  exact padStart_length (by decide) (by omega)

theorem padStart_two_day (d : Date) : (padStart 2 d.day).toList.length = 2 := by
  have hle := d.day_le
  have hmonth := daysInMonth_le d.year d.month
  exact padStart_length (by decide) (by omega)

/-- A date in front of a text is read, unless its year is zero. -/
theorem leadingDate_of_text {text : String} {d : Date} {rest : List Char} (hyear : 0 ≤ d.year ∧ d.year ≤ 9999)
    (h : text.toList = (padStart 4 d.year.natAbs).toList ++ '-' :: ((padStart 2 d.month).toList ++
      '-' :: ((padStart 2 d.day).toList ++ rest))) :
    leadingDate text = if 1 ≤ d.year then some d else none := by
  have habs : (d.year.natAbs : Int) = d.year := Int.natAbs_of_nonneg hyear.1
  obtain ⟨hdashes, htake, hmonth, hday⟩ := pieces_eq (padStart_length (by decide) (by omega))
    (padStart_two_month d) (padStart_two_day d) text.toList h
  unfold leadingDate
  dsimp only
  rw [if_pos hdashes, htake, hmonth, hday, parseNat_padStart, parseNat_padStart, parseNat_padStart]
  dsimp only
  split
  · rename_i hvalid
    rw [if_pos (by omega)]
    congr 1
    exact Date.ext_fields habs rfl rfl
  · rename_i hvalid
    rw [if_neg]
    intro hpos
    refine hvalid ⟨by omega, ⟨d.month_pos, d.month_le⟩, d.day_pos, ?_⟩
    rw [habs]
    exact d.day_le

/-- A year that takes a sign is not read. -/
theorem leadingDate_of_sign {text : String} {sign : Char} {rest : List Char} (hsign : sign.isDigit = false)
    (h : text.toList = sign :: rest) : leadingDate text = none := by
  have hyear : Decimal.parseNat (text.toList.take 4) = none := by
    unfold Decimal.parseNat
    rw [if_neg]
    rintro ⟨-, hdigits⟩
    have hdigit := hdigits sign (by rw [h]; simp)
    rw [hsign] at hdigit
    cases hdigit
  unfold leadingDate
  dsimp only
  split
  · rw [hyear]
  · rfl

/-- The date of an instant, as both of its texts begin with it. -/
def dateText (ms : Int) : String :=
  yearText (utcDate ms).year ++ "-" ++ padStart 2 (utcDate ms).month ++ "-" ++ padStart 2 (utcDate ms).day

theorem toISOString_eq (ms : Int) : (toISOString ms).toList = (dateText ms).toList ++ ("T" ++ isoTime ms).toList := by
  unfold toISOString dateText
  rw [show civilFromDays (utcDay ms) = _ from civilFromDays_eq (ms / msPerDay)]
  simp only [String.toList_append, List.append_assoc]
  rfl

theorem isoDate_eq (ms : Int) : (isoDate ms).toList = (dateText ms).toList.take 10 := by
  unfold isoDate dateText
  rw [show civilFromDays (utcDay ms) = _ from civilFromDays_eq (ms / msPerDay)]
  dsimp only
  rw [String.toList_ofList]
  rfl

section Reading

variable (ms : Int)

theorem dateText_year (h : 0 ≤ (utcDate ms).year ∧ (utcDate ms).year ≤ 9999) :
    (dateText ms).toList = (padStart 4 (utcDate ms).year.natAbs).toList ++ '-' ::
      ((padStart 2 (utcDate ms).month).toList ++ '-' :: ((padStart 2 (utcDate ms).day).toList ++ [])) := by
  unfold dateText yearText
  rw [if_pos h]
  simp

theorem dateText_sign (h : ¬ (0 ≤ (utcDate ms).year ∧ (utcDate ms).year ≤ 9999)) :
    ∃ sign rest, sign.isDigit = false ∧ (dateText ms).toList = sign :: rest := by
  unfold dateText yearText
  rw [if_neg h]
  split
  · exact ⟨'-', _, rfl, by simp; rfl⟩
  · exact ⟨'+', _, rfl, by simp; rfl⟩

/-- What is read of a text that begins with the date of an instant. -/
theorem leadingDate_of_dateText {text : String} (h : (dateText ms).toList.take 10 <+: text.toList) :
    leadingDate text = if 1 ≤ (utcDate ms).year ∧ (utcDate ms).year ≤ 9999 then some (utcDate ms) else none := by
  obtain ⟨rest, hrest⟩ := h
  by_cases hyear : 0 ≤ (utcDate ms).year ∧ (utcDate ms).year ≤ 9999
  · have hlength : (dateText ms).toList.length = 10 := by
      rw [dateText_year ms hyear, List.length_append, List.length_cons, List.length_append, List.length_cons,
        List.length_append, padStart_two_month, padStart_two_day, padStart_length (by decide) (by omega)]
      rfl
    rw [List.take_of_length_le hlength.le, dateText_year ms hyear] at hrest
    rw [@leadingDate_of_text text _ rest hyear (by rw [← hrest]; simp)]
    by_cases hpos : 1 ≤ (utcDate ms).year
    · rw [if_pos hpos, if_pos ⟨hpos, hyear.2⟩]
    · rw [if_neg hpos, if_neg fun h => hpos h.1]
  · obtain ⟨sign, rest', hsign, htext⟩ := dateText_sign ms hyear
    rw [htext, List.take_succ_cons, List.cons_append] at hrest
    rw [leadingDate_of_sign hsign hrest.symm, if_neg fun h => hyear ⟨by omega, h.2⟩]

theorem leadingDate_isoDate : leadingDate (isoDate ms) =
    if 1 ≤ (utcDate ms).year ∧ (utcDate ms).year ≤ 9999 then some (utcDate ms) else none := by
  apply leadingDate_of_dateText
  exact ⟨[], by rw [List.append_nil, isoDate_eq]⟩

theorem leadingDate_toISOString : leadingDate (toISOString ms) =
    if 1 ≤ (utcDate ms).year ∧ (utcDate ms).year ≤ 9999 then some (utcDate ms) else none := by
  apply leadingDate_of_dateText
  rw [toISOString_eq]
  exact (List.take_prefix 10 _).trans (List.prefix_append _ _)

end Reading

/-! ### What the driver delivers and what comes back -/

/-- A value of a column. -/
inductive DriverValue
  | text (value : String)
  | date (ms : Int)

/-- A DATE column, in a process whose local time is `offset` milliseconds ahead of UTC. -/
def DriverValue.column (offset : Int) (d : Date) : DriverValue := .date (localMidnight offset d)

/-- `toDateString` of the messages service. -/
def toDateString : DriverValue → String
  | .date ms => isoDate ms
  | .text value => String.ofList (value.toList.take 10)

/-- The text that `JSON.stringify` puts into a payload, and `JSON.parse` reads again. -/
def DriverValue.toJson : DriverValue → String
  | .date ms => toISOString ms
  | .text value => value

/-- The columns of `messages` with which a guarded update names its row. -/
structure DatedMessage where
  submitDate : Date
  tenantId : TenantId
  id : Nat
  status : MessageStatus
  version : Nat

/-- The key of a message in an event. -/
structure DatedRef where
  submitDate : String
  tenantId : TenantId
  id : Nat

/-- `submit_date = $1 AND tenant_id = $2 AND id = $3`. -/
def DatedRef.Names (messageRef : DatedRef) (row : DatedMessage) : Prop :=
  leadingDate messageRef.submitDate = some row.submitDate ∧ row.tenantId = messageRef.tenantId ∧ row.id = messageRef.id

/-- The key that `submitMessageWithContext` writes into the events of a new message. -/
def submittedRef (offset : Int) (row : DatedMessage) : DatedRef :=
  ⟨toDateString (.column offset row.submitDate), row.tenantId, row.id⟩

/-- The values that `transitionMessage` guards its update with. -/
structure DatedGuard where
  messageRef : DatedRef
  status : MessageStatus
  version : Nat

def DatedGuard.Holds (guard : DatedGuard) (row : DatedMessage) : Prop :=
  guard.messageRef.Names row ∧ row.status = guard.status ∧ row.version = guard.version

def transitionGuard (offset : Int) (message : DatedMessage) : DatedGuard :=
  ⟨⟨toDateString (.column offset message.submitDate), message.tenantId, message.id⟩, message.status, message.version⟩

/-- The key of `dlr_webhooks`, and the provider of a row. -/
structure DatedWebhook where
  receivedDate : Date
  id : Nat
  providerId : Nat

/-- The payload of `dlr.received`. -/
structure DatedReceived where
  receivedDate : String
  webhookId : Nat
  providerId : Nat

/-- What `acceptWebhook` puts into the event of a row. -/
def receivedPayload (offset : Int) (row : DatedWebhook) : DatedReceived :=
  ⟨(DriverValue.column offset row.receivedDate).toJson, row.id, row.providerId⟩

/-- `received_date = $1 AND id = $2 AND provider_id = $3` in `processWebhook`. -/
def DatedReceived.Names (payload : DatedReceived) (row : DatedWebhook) : Prop :=
  leadingDate payload.receivedDate = some row.receivedDate ∧ row.id = payload.webhookId ∧
    row.providerId = payload.providerId

/-- A date comes back from the code, and what it is a part of finds its row again. -/
structure DateSurvives (offset : Int) (d : Date) : Prop where
  submitDate : leadingDate (toDateString (.column offset d)) = some d
  receivedDate : leadingDate (DriverValue.column offset d).toJson = some d
  submitted : ∀ row : DatedMessage, row.submitDate = d → (submittedRef offset row).Names row
  guarded : ∀ message : DatedMessage, message.submitDate = d → (transitionGuard offset message).Holds message
  received : ∀ row : DatedWebhook, row.receivedDate = d → (receivedPayload offset row).Names row

section Zones

variable (offset : Int) (d : Date)

/-- The date of the text of a column is the column's own if local time is not ahead of UTC. -/
theorem read_column_iff {text : String}
    (h : leadingDate text = if 1 ≤ (utcDate (localMidnight offset d)).year ∧
      (utcDate (localMidnight offset d)).year ≤ 9999 then some (utcDate (localMidnight offset d)) else none) :
    leadingDate text = some d ↔ (-dayMillis < offset ∧ offset ≤ 0) ∧ 1 ≤ d.year ∧ d.year ≤ 9999 := by
  rw [h, ← utcDate_localMidnight_iff]
  constructor
  · intro hread
    split at hread
    · rename_i hyear
      have hdate : utcDate (localMidnight offset d) = d := Option.some.inj hread
      rw [hdate] at hyear
      exact ⟨hdate, hyear⟩
    · cases hread
  · rintro ⟨hdate, hyear⟩
    rw [hdate, if_pos hyear]

/-- Dates survive where local time is UTC or behind it, from the first year to the last one of four digits. -/
theorem dateSurvives_iff :
    DateSurvives offset d ↔ (-dayMillis < offset ∧ offset ≤ 0) ∧ 1 ≤ d.year ∧ d.year ≤ 9999 := by
  have hsubmit : leadingDate (toDateString (.column offset d)) = some d ↔ _ :=
    read_column_iff offset d (leadingDate_isoDate (localMidnight offset d))
  have hreceive : leadingDate (DriverValue.column offset d).toJson = some d ↔ _ :=
    read_column_iff offset d (leadingDate_toISOString (localMidnight offset d))
  constructor
  · intro hsurvives
    exact hsubmit.1 hsurvives.submitDate
  · intro hzone
    have hsubmitDate := hsubmit.2 hzone
    have hreceivedDate := hreceive.2 hzone
    refine ⟨hsubmitDate, hreceivedDate, ?_, ?_, ?_⟩
    · rintro row rfl
      exact ⟨hsubmitDate, rfl, rfl⟩
    · rintro message rfl
      exact ⟨⟨hsubmitDate, rfl, rfl⟩, rfl, rfl⟩
    · rintro row rfl
      exact ⟨hreceivedDate, rfl, rfl⟩

/-- East of UTC the day before is read. -/
theorem leadingDate_east (hoffset : 0 < offset ∧ offset ≤ dayMillis) (hyear : 1 ≤ d.prev.year ∧ d.prev.year ≤ 9999) :
    leadingDate (toDateString (.column offset d)) = some d.prev := by
  have hdate : utcDate (localMidnight offset d) = d.prev := by
    rw [utcDate_eq_iff, Date.dayNumber_prev]
    unfold localMidnight dayMillis at *
    omega
  refine (leadingDate_isoDate (localMidnight offset d)).trans ?_
  rw [hdate, if_pos hyear]

end Zones

/-- In Addis Ababa, three hours ahead of UTC, the second of April comes back as the first. -/
theorem addisAbaba_day_before :
    leadingDate (toDateString (.column 10800000 ⟨2026, 4, 2, by decide, by decide, by decide, by decide⟩)) =
      some ⟨2026, 4, 1, by decide, by decide, by decide, by decide⟩ := by
  decide +kernel

theorem not_dateSurvives_addisAbaba : ¬ ∀ (offset : Int) (d : Date), DateSurvives offset d := by
  intro hall
  have h := (hall 10800000 ⟨2026, 4, 2, by decide, by decide, by decide, by decide⟩).submitDate
  rw [addisAbaba_day_before] at h
  cases h

end SmsPlatform
