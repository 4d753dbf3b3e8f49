import SmsPlatform.Redis.RateLimit
import Mathlib.Tactic.Linarith

/-!
# Daily quotas

The quota of an API key is a token bucket that holds the quota and is refilled by the quota in a day, under a key that
names the UTC date.  A new day so begins with a full bucket, which goes on being refilled: `dailyQuota_bounded` bounds
what passes in a day by one less than twice the quota.
-/

namespace SmsPlatform

namespace RateLimit

/-! ### The date of a key -/

def msPerDay : ℤ := 86400000

/-- The UTC day of a time, counted from 1970-01-01. -/
def utcDay (ms : ℤ) : ℤ := ms / msPerDay

/-- Year, month and day of the month, in the proleptic Gregorian calendar. -/
def civilFromDays (days : ℤ) : ℤ × ℤ × ℤ :=
  -- eras of 400 years that begin with a March
  let shifted := days + 719468
  let era := shifted / 146097
  let dayOfEra := shifted % 146097
  let yearOfEra := (dayOfEra - dayOfEra / 1460 + dayOfEra / 36524 - dayOfEra / 146096) / 365
  let dayOfYear := dayOfEra - (365 * yearOfEra + yearOfEra / 4 - yearOfEra / 100)
  let monthFromMarch := (5 * dayOfYear + 2) / 153
  let day := dayOfYear - (153 * monthFromMarch + 2) / 5 + 1
  let month := if monthFromMarch < 10 then monthFromMarch + 3 else monthFromMarch - 9
  (yearOfEra + era * 400 + (if month ≤ 2 then 1 else 0), month, day)

def padStart (width : Nat) (n : Nat) : String :=
  String.ofList (List.replicate (width - n.repr.length) '0') ++ n.repr

/-- `new Date(ms).toISOString().slice(0, 10)`. -/
def isoDate (ms : ℤ) : String :=
  let (year, month, day) := civilFromDays (utcDay ms)
  let yearText :=
    if 0 ≤ year ∧ year ≤ 9999 then padStart 4 year.natAbs
    else (if year < 0 then "-" else "+") ++ padStart 6 year.natAbs
  String.ofList ((yearText ++ "-" ++ padStart 2 month.natAbs ++ "-" ++ padStart 2 day.natAbs).toList.take 10)

example : isoDate 1775088000000 = "2026-04-02" := by decide +kernel

/-! ### Submissions of an API key -/

/-- What Redis holds under its keys. -/
abbrev Buckets := String → Option BucketHash

def quotaKey (apiKeyId : String) (nowMs : ℤ) : String := "quota:key:" ++ apiKeyId ++ ":" ++ isoDate nowMs

/-- The last part of `consumeSubmissionQuotas`, with one reading of the clock for the key and for the bucket. -/
def consumeDailyQuota (apiKeyId : String) (dailyQuota : ℕ) (nowMs : ℤ) (buckets : Buckets) :
    Except Failure ℚ × Buckets :=
  let key := quotaKey apiKeyId nowMs
  let (result, bucket) := enforceDailyQuota key dailyQuota nowMs (unexpired (buckets key) nowMs)
  (result, fun other => if other = key then bucket else buckets other)

structure QuotaAnswer where
  nowMs : ℤ
  passed : Bool

/-- Submissions at these times, one after the other. -/
def consumeDailyQuotas (apiKeyId : String) (dailyQuota : ℕ) : Buckets → List ℤ → List QuotaAnswer
  | _, [] => []
  | buckets, nowMs :: times =>
    let (result, buckets) := consumeDailyQuota apiKeyId dailyQuota nowMs buckets
    ⟨nowMs, result.isOk⟩ :: consumeDailyQuotas apiKeyId dailyQuota buckets times

/-- How many submissions pass on a UTC day. -/
def passedOn (day : ℤ) (answers : List QuotaAnswer) : ℕ :=
  (answers.filter fun answer => answer.passed && decide (utcDay answer.nowMs = day)).length

def noBuckets : Buckets := fun _ => none

/-! ### The submissions of one day -/

theorem isOk_enforced (key : String) (result : TokenBucketResult) : (enforced key (.ok result)).isOk = result.allowed := by
  unfold enforced
  dsimp only
  split
  · rename_i h
    rw [h]
    rfl
  · rename_i h
    rw [Bool.not_eq_true] at h
    rw [h]
    rfl

/-- A call on the bucket of a quota. -/
def quotaCall (nowMs : ℤ) : Call := ⟨1, nowMs⟩

def quotaPeriodMs : ℚ := 24 * 60 * 60 * 1000

section Day

variable (apiKeyId : String) (dailyQuota : ℕ)

/-- What one submission does under a key: a call on the bucket if the key is that of its date, and else nothing. -/
theorem consumeDailyQuota_key (nowMs : ℤ) (buckets : Buckets) (key : String) :
    let run := consumeDailyQuota apiKeyId dailyQuota nowMs buckets
    let call := quotaCall nowMs
    let called := consumeTokens dailyQuota dailyQuota quotaPeriodMs key call.amount call.nowMs
      (unexpired (buckets key) call.nowMs)
    (quotaKey apiKeyId nowMs ≠ key ∧ run.2 key = buckets key) ∨
      (quotaKey apiKeyId nowMs = key ∧ run.2 key = called.2 ∧
        run.1.isOk = Served.allowed ⟨call, called.1⟩) := by
  intro run call called
  by_cases hkey : quotaKey apiKeyId nowMs = key
  · subst hkey
    refine .inr ⟨rfl, if_pos rfl, ?_⟩
    show (enforced _ called.1).isOk = _
    cases called.1 with
    | error failure => rfl
    | ok result => exact isOk_enforced _ result
  · exact .inl ⟨hkey, if_neg fun h => hkey h.symm⟩

/-- The submissions whose date has a key are calls on its bucket. -/
theorem granted_onKey (key : String) (s e : ℤ) (buckets : Buckets) (times : List ℤ) :
    granted s e (consumeAll unexpired dailyQuota dailyQuota quotaPeriodMs key (buckets key)
        ((times.filter fun nowMs => decide (quotaKey apiKeyId nowMs = key)).map quotaCall)).1 =
      ((consumeDailyQuotas apiKeyId dailyQuota buckets times).filter fun answer => answer.passed &&
        decide (quotaKey apiKeyId answer.nowMs = key ∧ s ≤ answer.nowMs ∧ answer.nowMs ≤ e)).length := by
  induction times generalizing buckets with
  | nil => rfl
  | cons nowMs times ih =>
    have hrest := ih (consumeDailyQuota apiKeyId dailyQuota nowMs buckets).2
    rcases consumeDailyQuota_key apiKeyId dailyQuota nowMs buckets key with ⟨hother, hsame⟩ | ⟨hkey, hstored, hpassed⟩
    · rw [hsame] at hrest
      rw [List.filter_cons_of_neg (by simpa using hother), hrest, consumeDailyQuotas,
        List.filter_cons_of_neg (by simp [hother])]
    · rw [hstored] at hrest
      rw [List.filter_cons_of_pos (by simpa using hkey), List.map_cons, consumeAll, consumeDailyQuotas]
      dsimp only
      rw [granted_cons, hrest, ← hpassed]
      by_cases hcounts : (consumeDailyQuota apiKeyId dailyQuota nowMs buckets).1.isOk = true ∧ s ≤ nowMs ∧ nowMs ≤ e
      · have hcasts : (s : ℚ) ≤ (quotaCall nowMs).nowMs ∧ (quotaCall nowMs).nowMs ≤ e :=
          ⟨Int.cast_le.2 hcounts.2.1, Int.cast_le.2 hcounts.2.2⟩
        rw [if_pos ⟨hcounts.1, hcasts⟩, List.filter_cons_of_pos (by simp [hcounts, hkey]), List.length_cons,
          Nat.cast_add, add_comm]
        rfl
      · have hcasts : ¬ ((consumeDailyQuota apiKeyId dailyQuota nowMs buckets).1.isOk = true ∧
            (s : ℚ) ≤ (quotaCall nowMs).nowMs ∧ (quotaCall nowMs).nowMs ≤ e) := by
          rintro ⟨hok, hs, he⟩
          exact hcounts ⟨hok, Int.cast_le.1 hs, Int.cast_le.1 he⟩
        rw [if_neg hcasts, zero_add, List.filter_cons_of_neg]
        intro h
        simp only [Bool.and_eq_true, decide_eq_true_eq] at h
        exact hcounts ⟨h.1, h.2.2⟩

/-- What passes in a part of a day: the quota, and what is refilled in this part. -/
theorem passed_within (hquota : 1 ≤ dailyQuota) {times : List ℤ} (hsorted : times.Pairwise (· ≤ ·)) {s e : ℤ}
    (hwindow : s ≤ e) (hday : utcDay s = utcDay e) :
    (((consumeDailyQuotas apiKeyId dailyQuota noBuckets times).filter fun answer => answer.passed &&
        decide (s ≤ answer.nowMs ∧ answer.nowMs ≤ e)).length : ℚ) ≤
      dailyQuota + (e - s) * dailyQuota / quotaPeriodMs := by
  have hpos : (0 : ℚ) < dailyQuota := by exact_mod_cast hquota
  have hperiod : (0 : ℚ) < quotaPeriodMs := by norm_num [quotaPeriodMs]
  have horder : InOrder ((times.filter fun nowMs => decide (quotaKey apiKeyId nowMs = quotaKey apiKeyId s)).map
      quotaCall) := by
    constructor
    · intro call hcall
      obtain ⟨nowMs, -, rfl⟩ := List.mem_map.1 hcall
      exact zero_le_one
    · exact List.pairwise_map.2 ((hsorted.filter _).imp fun hle => Int.cast_le.2 hle)
  have hmissing : (⟨dailyQuota, dailyQuota, quotaPeriodMs, hpos, hpos, hperiod⟩ : Settings).Kept none :=
    Settings.Kept.missing
  have hbound := hmissing.granted_le (quotaKey apiKeyId s) horder (Int.cast_le.2 hwindow : (s : ℚ) ≤ e)
  rw [show (none : Option BucketHash) = noBuckets (quotaKey apiKeyId s) from rfl, granted_onKey] at hbound
  refine le_trans (le_of_eq ?_) hbound
  congr 2
  refine List.filter_congr fun answer _ => ?_
  congr 1
  refine decide_eq_decide.2 ⟨fun h => ⟨?_, h⟩, fun h => h.2⟩
  -- between two times of one day every time has the date of the day
  have hsame : utcDay answer.nowMs = utcDay s := by
    have hlow : utcDay s ≤ utcDay answer.nowMs := Int.ediv_le_ediv (by decide) h.1
    have hhigh : utcDay answer.nowMs ≤ utcDay e := Int.ediv_le_ediv (by decide) h.2
    omega
  unfold quotaKey isoDate
  rw [hsame]

end Day

/-- The quota of a key and what is refilled since bound what passes, so that in a day it is less than twice the quota. -/
theorem dailyQuota_bounded (apiKeyId : String) {dailyQuota : ℕ} (hquota : 1 ≤ dailyQuota) {times : List ℤ}
    (hsorted : times.Pairwise (· ≤ ·)) (day : ℤ) :
    passedOn day (consumeDailyQuotas apiKeyId dailyQuota noBuckets times) ≤ 2 * dailyQuota - 1 := by
  have hsame : utcDay (day * msPerDay) = utcDay (day * msPerDay + (msPerDay - 1)) := by
    unfold utcDay msPerDay
    omega
  have hbound := passed_within apiKeyId dailyQuota hquota hsorted
    (show day * msPerDay ≤ day * msPerDay + (msPerDay - 1) by unfold msPerDay; omega) hsame
  have hcount : passedOn day (consumeDailyQuotas apiKeyId dailyQuota noBuckets times) =
      ((consumeDailyQuotas apiKeyId dailyQuota noBuckets times).filter fun answer => answer.passed &&
        decide (day * msPerDay ≤ answer.nowMs ∧ answer.nowMs ≤ day * msPerDay + (msPerDay - 1))).length := by
    unfold passedOn
    congr 1
    refine List.filter_congr fun answer _ => ?_
    congr 1
    refine decide_eq_decide.2 ?_
    unfold utcDay msPerDay
    omega
  rw [← hcount] at hbound
  have hquota' : (0 : ℚ) < dailyQuota := by exact_mod_cast hquota
  have hless : (passedOn day (consumeDailyQuotas apiKeyId dailyQuota noBuckets times) : ℚ) < 2 * dailyQuota := by
    refine hbound.trans_lt ?_
    unfold quotaPeriodMs msPerDay
    push_cast
    linarith
  have hnat : passedOn day (consumeDailyQuotas apiKeyId dailyQuota noBuckets times) < 2 * dailyQuota := by
    exact_mod_cast hless
  omega

/-- Two messages a day: three submissions in two seconds. -/
theorem dailyQuota_bounded_burst :
    passedOn 20545 (consumeDailyQuotas "test" 2 noBuckets [1775088000000, 1775088001000, 1775088002000]) ≤ 3 :=
  dailyQuota_bounded "test" (by decide) (by decide) 20545

/-- Two messages a day: two at midnight, and a third at noon of the same day. -/
theorem dailyQuota_exceeded :
    passedOn 20545 (consumeDailyQuotas "test" 2 noBuckets [1775088000000, 1775088000000, 1775131200000]) = 3 ∧
      [1775088000000, 1775088000000, (1775131200000 : ℤ)].Pairwise (· ≤ ·) ∧ ¬ 3 ≤ 2 := by
  decide +kernel

end RateLimit

end SmsPlatform
