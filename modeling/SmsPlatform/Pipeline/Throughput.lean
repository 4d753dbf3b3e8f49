import SmsPlatform.Lib.Records
import SmsPlatform.Messages.Preparation
import SmsPlatform.Pipeline.Idempotency
import SmsPlatform.Redis.DailyQuota

/-!
# What the limits let through

The pipeline behind the token buckets of its limits.  A submission makes the calls of `consumeSubmissionQuotas` one by
one, each with the clock of its process and with a limit that it has read from the tables, so that the limit of a key
may change from call to call; between its calls other submissions make theirs, and so do the handlers with the limits of
providers.  A submission is then prepared from what its own calls were answered.

A bucket of the largest limit covers every key (`HashCovered`), whatever limits the calls come with and whenever the key
expires.  So the calls of a key that are granted keep the bound of that bucket, and every message has passed both limits of
its tenant.  A message comes into being some time after its calls: requests that were let through in different seconds may
create theirs at once, so the bound of the messages themselves grows with the longest such time (`throughput_bounded`).
-/

namespace SmsPlatform

open StateExcept Transition RateLimit

/-! ### Calls -/

/-- `enforceLimit`, which all callers call with one second, and `enforceDailyQuota`. -/
inductive LimitKind
  | perSecond | perDay
  deriving DecidableEq

namespace LimitKind

/-- What the keys of a kind begin with. -/
def start : LimitKind → String
  | perSecond => "rl:"
  | perDay => "quota:key:"

def periodMs : LimitKind → ℚ
  | perSecond => 1000
  | perDay => quotaPeriodMs

theorem periodMs_pos (kind : LimitKind) : 0 < kind.periodMs := by
  cases kind <;> norm_num [periodMs, quotaPeriodMs]

end LimitKind

/-- A call of a limit, with the number of the request that makes it. -/
structure LimitCall where
  number : Nat
  kind : LimitKind
  name : String
  limit : Int
  nowMs : Int
  deriving DecidableEq

namespace LimitCall

variable (call : LimitCall)

def key : String := call.kind.start ++ call.name

def run (bucket : Option BucketHash) : Except Failure ℚ × Option BucketHash :=
  match call.kind with
  | .perSecond => enforceLimit call.key call.limit 1 1 call.nowMs bucket
  | .perDay => enforceDailyQuota call.key call.limit call.nowMs bucket

variable {call}

theorem run_eq (bucket : Option BucketHash) : call.run bucket =
    (enforced call.key (consumeTokens call.limit call.limit call.kind.periodMs call.key 1 call.nowMs bucket).1,
      (consumeTokens call.limit call.limit call.kind.periodMs call.key 1 call.nowMs bucket).2) := by
  unfold run
  cases call.kind with
  | perSecond =>
    show (enforced _ (consumeTokens _ _ (1 * 1000) _ _ _ _).1, (consumeTokens _ _ (1 * 1000) _ _ _ _).2) = _
    rw [one_mul]
    rfl
  | perDay => rfl

/-- A limit that is not positive is a configuration error. -/
theorem run_of_nonpos (hlimit : call.limit ≤ 0) (bucket : Option BucketHash) :
    (call.run bucket).1.isOk = false ∧ (call.run bucket).2 = bucket := by
  have hinvalid : (call.limit : ℚ) ≤ 0 := by exact_mod_cast hlimit
  rw [run_eq]
  unfold consumeTokens
  rw [if_pos (Or.inl hinvalid)]
  exact ⟨rfl, rfl⟩

/-- The settings of a call with a positive limit. -/
def settings (call : LimitCall) (hlimit : 0 < call.limit) : Settings where
  capacity := call.limit
  refillTokens := call.limit
  refillPeriodMs := call.kind.periodMs
  capacity_pos := by exact_mod_cast hlimit
  refillTokens_pos := by exact_mod_cast hlimit
  refillPeriodMs_pos := call.kind.periodMs_pos

/-- A call that finds one token takes it; either way it stores what is left. -/
theorem run_of_pos (hlimit : 0 < call.limit) (bucket : Option BucketHash) :
    let level := ((call.settings hlimit).bucketOf bucket).level (call.settings hlimit).rate call.nowMs
    let left := if 1 ≤ level then level - 1 else level
    (call.run bucket).1.isOk = decide (1 ≤ level) ∧
      (call.run bucket).2 = some ⟨left, call.nowMs, call.nowMs + (call.settings hlimit).ttlMs⟩ := by
  intro level left
  have hconsume := (call.settings hlimit).consumeTokens_eq call.key 1 call.nowMs bucket
  have hrun : call.run bucket = (enforced call.key ((call.settings hlimit).answer 1 call.nowMs level).1,
      ((call.settings hlimit).answer 1 call.nowMs level).2) := by
    rw [run_eq, ← hconsume]
    rfl
  rw [hrun]
  unfold Settings.answer
  by_cases htoken : 1 ≤ level
  · rw [if_pos htoken, isOk_enforced, decide_eq_true htoken]
    exact ⟨rfl, by rw [show left = level - 1 from if_pos htoken]⟩
  · rw [if_neg htoken, isOk_enforced, decide_eq_false htoken]
    exact ⟨rfl, by rw [show left = level from if_neg htoken]⟩

end LimitCall

/-! ### A bucket that covers a key -/

/-- The bucket that holds the limit and gains it in the period of the kind. -/
def limitRate (kind : LimitKind) (limit : ℕ) (hlimit : 0 < limit) : TokenBucket.Rate ℚ where
  capacity := limit
  perTime := limit / kind.periodMs
  capacity_pos := by exact_mod_cast hlimit
  perTime_pos := div_pos (by exact_mod_cast hlimit) kind.periodMs_pos

/-- Time to fill the bucket: the period. -/
theorem limitRate_fill (kind : LimitKind) {limit : ℕ} (hlimit : 0 < limit) :
    (limitRate kind limit hlimit).capacity / (limitRate kind limit hlimit).perTime = kind.periodMs := by
  have hpos : (0 : ℚ) < limit := by exact_mod_cast hlimit
  show (limit : ℚ) / (limit / kind.periodMs) = kind.periodMs
  rw [div_div_eq_mul_div, mul_div_assoc, mul_div_cancel₀ _ hpos.ne']

/-- The bucket covers what the calls from `now` on find under the key. -/
structure HashCovered (rate : TokenBucket.Rate ℚ) (bucket : TokenBucket.Bucket ℚ) (hash : Option BucketHash) (now : ℚ) :
    Prop where
  missing : hash = none → bucket.Covers rate rate.capacity now
  past : ∀ kept, hash = some kept → kept.updatedAt ≤ now
  stored : ∀ kept, hash = some kept → bucket.Covers rate kept.tokens kept.updatedAt
  expires : ∀ kept, hash = some kept → kept.updatedAt + rate.capacity / rate.perTime ≤ kept.expiresAt

namespace HashCovered

variable {rate : TokenBucket.Rate ℚ} {bucket : TokenBucket.Bucket ℚ} {hash : Option BucketHash} {last now : ℚ}

theorem of_none (h : bucket.Covers rate rate.capacity now) : HashCovered rate bucket none now where
  missing := fun _ => h
  past := fun _ hkept => by cases hkept
  stored := fun _ hkept => by cases hkept
  expires := fun _ hkept => by cases hkept

/-- What a call has just stored. -/
theorem of_some {tokens expiresAt : ℚ} (h : bucket.Covers rate tokens now)
    (hexpires : now + rate.capacity / rate.perTime ≤ expiresAt) :
    HashCovered rate bucket (some ⟨tokens, now, expiresAt⟩) now where
  missing := fun hnone => by cases hnone
  past := by
    rintro kept hkept
    cases hkept
    exact le_refl _
  stored := by
    rintro kept hkept
    cases hkept
    exact h
  expires := by
    rintro kept hkept
    cases hkept
    exact hexpires

theorem later (h : HashCovered rate bucket hash last) (hlater : last ≤ now) : HashCovered rate bucket hash now := by
  refine ⟨fun hnone => ?_, fun kept hkept => (h.past kept hkept).trans hlater, h.stored, h.expires⟩
  have hcovers := (h.missing hnone).later (le_refl rate.capacity) (le_refl rate.perTime) hlater
  have hgain : 0 ≤ (now - last) * rate.perTime := mul_nonneg (sub_nonneg.2 hlater) rate.perTime_pos.le
  rwa [min_eq_left (le_add_of_nonneg_right hgain)] at hcovers

/-- A key that has expired is as good as missing. -/
theorem unexpired (h : HashCovered rate bucket hash last) (hlater : last ≤ now) :
    HashCovered rate bucket (RateLimit.unexpired hash now) now := by
  cases hash with
  | none => exact h.later hlater
  | some kept =>
    by_cases hlive : now < kept.expiresAt
    · have hfound : RateLimit.unexpired (some kept) now = some kept := Option.filter_some_pos (decide_eq_true hlive)
      rw [hfound]
      exact h.later hlater
    · have hgone : RateLimit.unexpired (some kept) now = none := Option.filter_some_neg (decide_eq_false hlive)
      rw [hgone]
      exact of_none ((h.stored kept rfl).forgotten ((h.expires kept rfl).trans (not_lt.1 hlive)))

/-- What a call with a smaller limit finds at its time is covered. -/
theorem covers_level (h : HashCovered rate bucket hash now) {settings : Settings}
    (hcapacity : settings.capacity ≤ rate.capacity)
    (hperTime : settings.refillTokens / settings.refillPeriodMs ≤ rate.perTime) :
    bucket.Covers rate ((settings.bucketOf hash).level settings.rate now) now := by
  cases hash with
  | none =>
    have hfull : (settings.bucketOf none).level settings.rate now = settings.capacity :=
      TokenBucket.Rate.level_full 0 now
    rw [hfull]
    exact (h.missing rfl).mono hcapacity
  | some kept =>
    have hpast := h.past kept rfl
    have hstored := h.stored kept rfl
    show bucket.Covers rate (if kept.updatedAt < now then min settings.capacity (kept.tokens +
      (now - kept.updatedAt) * (settings.refillTokens / settings.refillPeriodMs)) else kept.tokens) now
    split
    · exact hstored.later hcapacity hperTime hpast
    · rename_i hnot
      have hsame : kept.updatedAt = now := le_antisymm hpast (not_lt.1 hnot)
      rw [← hsame]
      exact hstored

variable {kind : LimitKind} {limit : ℕ} {hlimit : 0 < limit} {call : LimitCall} {time : Int}

/-- One call with a limit that is no larger: whatever it is granted the bucket can serve, and the bucket goes on
covering the key. -/
theorem run (h : HashCovered (limitRate kind limit hlimit) bucket hash time) (hkind : call.kind = kind)
    (hsmaller : call.limit ≤ limit) (hlater : time ≤ call.nowMs) :
    let taken := bucket.take (limitRate kind limit hlimit) ⟨1, call.nowMs⟩
    let result := call.run (RateLimit.unexpired hash call.nowMs)
    (result.1.isOk = true → taken.1 = true ∧ HashCovered (limitRate kind limit hlimit) taken.2 result.2 call.nowMs) ∧
      (result.1.isOk = false → HashCovered (limitRate kind limit hlimit) bucket result.2 call.nowMs) := by
  intro taken result
  have hfound : HashCovered (limitRate kind limit hlimit) bucket (RateLimit.unexpired hash call.nowMs) call.nowMs :=
    h.unexpired (by exact_mod_cast hlater)
  by_cases hpos : 0 < call.limit
  · obtain ⟨hok, hstored⟩ := LimitCall.run_of_pos hpos (RateLimit.unexpired hash call.nowMs)
    have hcapacity : (call.settings hpos).capacity ≤ (limitRate kind limit hlimit).capacity := by
      show (call.limit : ℚ) ≤ limit
      exact_mod_cast hsmaller
    have hperTime : (call.settings hpos).refillTokens / (call.settings hpos).refillPeriodMs ≤
        (limitRate kind limit hlimit).perTime := by
      show (call.limit : ℚ) / call.kind.periodMs ≤ limit / kind.periodMs
      rw [hkind]
      exact div_le_div_of_nonneg_right hcapacity kind.periodMs_pos.le
    have hcovers := hfound.covers_level hcapacity hperTime
    have hexpires : (call.nowMs : ℚ) + (limitRate kind limit hlimit).capacity / (limitRate kind limit hlimit).perTime ≤
        call.nowMs + (call.settings hpos).ttlMs := by
      rw [limitRate_fill, ← hkind]
      exact add_le_add (le_refl _) (le_max_left _ _)
    constructor
    · intro hgranted
      rw [hok, decide_eq_true_eq] at hgranted
      obtain ⟨htaken, hleft⟩ := hcovers.take zero_le_one hgranted
      rw [if_pos hgranted] at hstored
      rw [show result.2 = _ from hstored]
      exact ⟨htaken, of_some hleft hexpires⟩
    · intro hrefused
      rw [hok, decide_eq_false_iff_not] at hrefused
      rw [if_neg hrefused] at hstored
      rw [show result.2 = _ from hstored]
      exact of_some hcovers hexpires
  · obtain ⟨hok, hstored⟩ := LimitCall.run_of_nonpos (not_lt.1 hpos) (RateLimit.unexpired hash call.nowMs)
    constructor
    · intro hgranted
      rw [show result.1.isOk = false from hok] at hgranted
      cases hgranted
    · intro _
      rw [show result.2 = _ from hstored]
      exact hfound

end HashCovered

/-! ### The system -/

/-- A submission with the tables and the answers of the services that it finds. -/
structure SubmitCall where
  compliance : ComplianceDb
  senderIds : List SenderIdRow
  services : SubmissionServices
  context : SubmissionContext
  dto : SubmitMessageDto
  clock : TxClock

def SubmitCall.prepared (call : SubmitCall) : Except Failure Submission :=
  MessagesService.prepareSubmission call.services call.compliance call.senderIds call.context call.dto

/-- `lastMs` is the time of the last call of a limit, and `submitted` are the requests that have been prepared. -/
structure Throttled where
  buckets : Buckets
  lastMs : Int
  world : World
  submitted : List Nat

inductive ThrottledAction
  | enforce (call : LimitCall)
  | submit (number : Nat) (call : SubmitCall)
  | handle (action : Action)

inductive ThrottledEntry
  | answered (call : LimitCall) (granted : Bool)
  | created (number : Nat) (row : MessageRow)
  deriving DecidableEq

namespace Throttled

def start (startMs : Int) (wallets : TenantId → Option WalletRow) : Throttled :=
  ⟨noBuckets, startMs, World.initial wallets, []⟩

variable (throttled : Throttled)

/-- What the call is answered, and what it leaves under its key. -/
def answer (call : LimitCall) : Except Failure ℚ × Option BucketHash :=
  call.run (unexpired (throttled.buckets call.key) call.nowMs)

def step : ThrottledAction → Option Throttled
  | .enforce call =>
    some { throttled with
      buckets := fun key => if key = call.key then (throttled.answer call).2 else throttled.buckets key
      lastMs := call.nowMs }
  | .submit number call =>
    if number ∈ throttled.submitted then none
    else
      match call.prepared with
      | .error _ => some { throttled with submitted := number :: throttled.submitted }
      | .ok submission =>
        (throttled.world.step (.submit call.clock submission)).map fun world =>
          { throttled with world := world, submitted := number :: throttled.submitted }
  | .handle (.submit _ _) => none
  | .handle action => (throttled.world.step action).map fun world => { throttled with world := world }

/-- The answers of the limits, and the rows that submissions have created. -/
def sees (action : ThrottledAction) (throttled' : Throttled) : List ThrottledEntry :=
  match action with
  | .enforce call => [.answered call (throttled.answer call).1.isOk]
  | .submit number _ =>
    (throttled'.world.db.messages.drop throttled.world.db.messages.length).map (.created number)
  | .handle _ => []

end Throttled

abbrev ThrottledLog := Recorded Throttled ThrottledEntry

/-- The request has been granted the call. -/
def Granted (record : List ThrottledEntry) (number : Nat) (kind : LimitKind) (name : String) (limit : Int) : Prop :=
  ∃ call, .answered call true ∈ record ∧ call.number = number ∧ call.kind = kind ∧ call.name = name ∧
    call.limit = limit

/-- The limits let the request go on only where its own calls were granted. -/
structure SubmissionServices.Answered (services : SubmissionServices) (record : List ThrottledEntry) (number : Nat) :
    Prop where
  perSecond : ∀ name limit, services.enforceLimit (LimitKind.perSecond.start ++ name) limit = .ok () →
    Granted record number .perSecond name limit
  perDay : ∀ name limit, services.enforceDailyQuota (LimitKind.perDay.start ++ name) limit = .ok () →
    Granted record number .perDay name limit

/-- Calls come in the order of their times, and a submission goes by the answers of its own calls. -/
def ThrottledLog.Proper (log : ThrottledLog) : ThrottledAction → Prop
  | .enforce call => log.state.lastMs ≤ call.nowMs
  | .submit number call => call.services.Answered log.record number
  | .handle _ => True

abbrev ThrottledLog.Runs (startMs : Int) (wallets : TenantId → Option WalletRow) (log : ThrottledLog) : Prop :=
  Transition.Runs (recorded Throttled.step Throttled.sees) ThrottledLog.Proper ⟨.start startMs wallets, []⟩ log

/-- The calls of a limit that were granted. -/
def grantedCalls (record : List ThrottledEntry) (kind : LimitKind) (name : String) : List LimitCall :=
  record.filterMap fun
    | .answered call granted => if granted = true ∧ call.kind = kind ∧ call.name = name then some call else none
    | .created _ _ => none

/-- The rows that submissions have created, with the numbers of these. -/
def createdRows (record : List ThrottledEntry) : List (Nat × MessageRow) :=
  record.filterMap fun
    | .answered _ _ => none
    | .created number row => some (number, row)

/-- The rows, whenever they were created, of the requests that were granted a call of the limit from `s` to `e`. -/
def createdOnCalls (record : List ThrottledEntry) (kind : LimitKind) (name : String) (s e : Int) :
    List (Nat × MessageRow) :=
  (createdRows record).filter fun created => (grantedCalls record kind name).any fun call =>
    decide (call.number = created.1 ∧ s ≤ call.nowMs ∧ call.nowMs ≤ e)

/-- The rows that were created from `s` to `e` for requests that were granted a call of the limit.  Calls have milliseconds,
rows microseconds. -/
def createdBetween (record : List ThrottledEntry) (kind : LimitKind) (name : String) (s e : Int) :
    List (Nat × MessageRow) :=
  (createdRows record).filter fun created => decide (s * 1000 ≤ created.2.acceptedAt ∧ created.2.acceptedAt ≤ e * 1000) &&
    (grantedCalls record kind name).any fun call => decide (call.number = created.1)

/-- No row is created before a call of the limit that its request was granted, or more than `delay` milliseconds after it. -/
def CreatedWithin (delay : ℕ) (record : List ThrottledEntry) (kind : LimitKind) (name : String) : Prop :=
  ∀ created ∈ createdRows record, ∀ call ∈ grantedCalls record kind name, call.number = created.1 →
    call.nowMs * 1000 ≤ created.2.acceptedAt ∧ created.2.acceptedAt ≤ (call.nowMs + delay) * 1000

theorem mem_grantedCalls {record : List ThrottledEntry} {kind : LimitKind} {name : String} {call : LimitCall} :
    call ∈ grantedCalls record kind name ↔ .answered call true ∈ record ∧ call.kind = kind ∧ call.name = name := by
  unfold grantedCalls
  rw [List.mem_filterMap]
  constructor
  · rintro ⟨entry, hentry, h⟩
    cases entry with
    | created number row => cases h
    | answered answeredCall granted =>
      obtain ⟨⟨rfl, hkind, hname⟩, hsome⟩ := Option.ite_none_right_eq_some.1 h
      cases hsome
      exact ⟨hentry, hkind, hname⟩
  · rintro ⟨hentry, hkind, hname⟩
    exact ⟨_, hentry, if_pos ⟨rfl, hkind, hname⟩⟩

theorem mem_createdRows {record : List ThrottledEntry} {created : Nat × MessageRow} :
    created ∈ createdRows record ↔ .created created.1 created.2 ∈ record := by
  unfold createdRows
  rw [List.mem_filterMap]
  constructor
  · rintro ⟨entry, hentry, h⟩
    cases entry with
    | answered call granted => cases h
    | created number row =>
      cases h
      exact hentry
  · intro hentry
    exact ⟨_, hentry, rfl⟩

/-! ### The calls of one limit -/

/-- The granted calls as demands on a bucket. -/
def LimitCall.demand (call : LimitCall) : TokenBucket.Demand ℚ := ⟨1, call.nowMs⟩

theorem within_granted (s e : Int) (calls : List LimitCall) :
    TokenBucket.within (s : ℚ) e ((calls.map LimitCall.demand).map (·, true)) =
      ((calls.filter fun call => decide (s ≤ call.nowMs ∧ call.nowMs ≤ e)).length : ℚ) := by
  induction calls with
  | nil => rfl
  | cons call calls ih =>
    rw [List.map_cons, List.map_cons, TokenBucket.within_cons, ih]
    by_cases hin : s ≤ call.nowMs ∧ call.nowMs ≤ e
    · have hcast : (s : ℚ) ≤ call.demand.now ∧ call.demand.now ≤ e := ⟨Int.cast_le.2 hin.1, Int.cast_le.2 hin.2⟩
      rw [if_pos ⟨rfl, hcast⟩, List.filter_cons_of_pos (by simpa using hin), List.length_cons, Nat.cast_add, add_comm]
      rfl
    · have hcast : ¬ (s ≤ call.demand.now ∧ call.demand.now ≤ (e : ℚ)) :=
        fun h => hin ⟨Int.cast_le.1 h.1, Int.cast_le.1 h.2⟩
      rw [if_neg fun h => hcast h.2, List.filter_cons_of_neg (by simpa using hin), zero_add]

/-- A bucket with the rate serves all granted calls of the limit and covers its key. -/
structure Covered (rate : TokenBucket.Rate ℚ) (startMs : Int) (kind : LimitKind) (name : String) (log : ThrottledLog) :
    Prop where
  served : TokenBucket.serve rate (rate.full startMs) ((grantedCalls log.record kind name).map LimitCall.demand) =
    ((grantedCalls log.record kind name).map LimitCall.demand).map (·, true)
  hash : HashCovered rate
    (TokenBucket.drain rate (rate.full startMs) ((grantedCalls log.record kind name).map LimitCall.demand))
    (log.state.buckets (kind.start ++ name)) log.state.lastMs
  past : ∀ call ∈ grantedCalls log.record kind name, call.nowMs ≤ log.state.lastMs
  inOrder : (grantedCalls log.record kind name).Pairwise fun call later => call.nowMs ≤ later.nowMs

/-- No call of the limit has come with more than `limit`. -/
def AtMostLimit (record : List ThrottledEntry) (kind : LimitKind) (name : String) (limit : ℕ) : Prop :=
  ∀ call granted, .answered call granted ∈ record → call.kind = kind → call.name = name →
    call.limit ≤ (limit : ℤ)

theorem LimitKind.key_inj {kind kind' : LimitKind} {name name' : String}
    (h : kind.start ++ name = kind'.start ++ name') : kind = kind' ∧ name = name' := by
  have hlist := congrArg String.toList h
  rw [String.toList_append, String.toList_append] at hlist
  have hkind : kind = kind' := by
    cases kind <;> cases kind'
    · rfl
    · exact absurd (List.cons.inj hlist).1 (by decide)
    · exact absurd (List.cons.inj hlist).1 (by decide)
    · rfl
  subst hkind
  exact ⟨rfl, String.toList_injective (List.append_cancel_left hlist)⟩

theorem grantedCalls_append (record entries : List ThrottledEntry) (kind : LimitKind) (name : String) :
    grantedCalls (record ++ entries) kind name = grantedCalls record kind name ++ grantedCalls entries kind name :=
  List.filterMap_append

theorem createdRows_append (record entries : List ThrottledEntry) :
    createdRows (record ++ entries) = createdRows record ++ createdRows entries :=
  List.filterMap_append

theorem grantedCalls_answered (call : LimitCall) (granted : Bool) (kind : LimitKind) (name : String) :
    grantedCalls [.answered call granted] kind name =
      if granted = true ∧ call.kind = kind ∧ call.name = name then [call] else [] := by
  unfold grantedCalls
  by_cases h : granted = true ∧ call.kind = kind ∧ call.name = name
  · rw [if_pos h]
    exact List.filterMap_cons_some (if_pos h)
  · rw [if_neg h]
    exact List.filterMap_cons_none (if_neg h)

theorem grantedCalls_created (number : Nat) (rows : List MessageRow) (kind : LimitKind) (name : String) :
    grantedCalls (rows.map (.created number)) kind name = [] := by
  unfold grantedCalls
  rw [List.filterMap_map]
  exact List.filterMap_eq_nil_iff.2 fun row _ => rfl

namespace Throttled

variable {throttled throttled' : Throttled}

/-- What a step does: a call stores its bucket, and everything else leaves the buckets alone. -/
theorem step_buckets {action : ThrottledAction} (h : throttled.step action = some throttled') :
    (∃ call, action = .enforce call ∧ throttled'.lastMs = call.nowMs ∧ throttled'.world = throttled.world ∧
      throttled'.submitted = throttled.submitted ∧ throttled'.buckets =
        fun key => if key = call.key then (throttled.answer call).2 else throttled.buckets key) ∨
    ((∀ call, action ≠ .enforce call) ∧ throttled'.buckets = throttled.buckets ∧
      throttled'.lastMs = throttled.lastMs) := by
  cases action with
  | enforce call =>
    cases h
    exact .inl ⟨call, rfl, rfl, rfl, rfl, rfl⟩
  | submit number call =>
    refine .inr ⟨fun _ => ThrottledAction.noConfusion, ?_⟩
    unfold step at h
    dsimp only at h
    split at h
    · cases h
    · split at h
      · cases h
        exact ⟨rfl, rfl⟩
      · obtain ⟨world, -, rfl⟩ := Option.map_eq_some_iff.1 h
        exact ⟨rfl, rfl⟩
  | handle action =>
    refine .inr ⟨fun _ => ThrottledAction.noConfusion, ?_⟩
    unfold step at h
    split at h
    · rename_i heq
      cases heq
    · rename_i heq
      cases heq
    · cases h
    · rename_i heq
      cases heq
      obtain ⟨world, -, rfl⟩ := Option.map_eq_some_iff.1 h
      exact ⟨rfl, rfl⟩

/-- A step that is no call shows no answer. -/
theorem grantedCalls_sees {action : ThrottledAction} (h : ∀ call, action ≠ .enforce call) (kind : LimitKind)
    (name : String) : grantedCalls (throttled.sees action throttled') kind name = [] := by
  cases action with
  | enforce call => exact absurd rfl (h call)
  | submit number call => exact grantedCalls_created number _ kind name
  | handle action => rfl

end Throttled

section Covered

variable {kind : LimitKind} {name : String} {limit : ℕ} {hlimit : 0 < limit} {startMs : Int} {log log' : ThrottledLog}

/-- No call of the limit is granted. -/
theorem Covered.ungranted (h : Covered (limitRate kind limit hlimit) startMs kind name log)
    (hcalls : grantedCalls log'.record kind name = grantedCalls log.record kind name)
    (hlater : log.state.lastMs ≤ log'.state.lastMs)
    (hhash : HashCovered (limitRate kind limit hlimit) (TokenBucket.drain (limitRate kind limit hlimit)
      ((limitRate kind limit hlimit).full startMs) ((grantedCalls log.record kind name).map LimitCall.demand))
      (log'.state.buckets (kind.start ++ name)) log'.state.lastMs) :
    Covered (limitRate kind limit hlimit) startMs kind name log' := by
  refine ⟨?_, ?_, ?_, ?_⟩
  · rw [hcalls]
    exact h.served
  · rw [hcalls]
    exact hhash
  · rw [hcalls]
    exact fun call hcall => (h.past call hcall).trans hlater
  · rw [hcalls]
    exact h.inOrder

/-- A call of the limit is granted. -/
theorem Covered.granted (h : Covered (limitRate kind limit hlimit) startMs kind name log) {call : LimitCall}
    (hcalls : grantedCalls log'.record kind name = grantedCalls log.record kind name ++ [call])
    (hlast : log'.state.lastMs = call.nowMs) (hlater : log.state.lastMs ≤ call.nowMs)
    (htaken : ((TokenBucket.drain (limitRate kind limit hlimit) ((limitRate kind limit hlimit).full startMs)
      ((grantedCalls log.record kind name).map LimitCall.demand)).take (limitRate kind limit hlimit)
        call.demand).1 = true)
    (hhash : HashCovered (limitRate kind limit hlimit) ((TokenBucket.drain (limitRate kind limit hlimit)
      ((limitRate kind limit hlimit).full startMs) ((grantedCalls log.record kind name).map LimitCall.demand)).take
        (limitRate kind limit hlimit) call.demand).2 (log'.state.buckets (kind.start ++ name)) log'.state.lastMs) :
    Covered (limitRate kind limit hlimit) startMs kind name log' := by
  refine ⟨?_, ?_, ?_, ?_⟩
  · rw [hcalls, List.map_append, TokenBucket.serve_append, h.served, List.map_append]
    congr 1
    show [(call.demand, _)] = [(call.demand, true)]
    rw [← htaken]
  · rw [hcalls, List.map_append]
    unfold TokenBucket.drain
    rw [List.foldl_append]
    exact hhash
  · intro other hother
    rw [hcalls] at hother
    rw [hlast]
    rcases List.mem_append.1 hother with hother | hother
    · exact (h.past other hother).trans hlater
    · rw [List.mem_singleton.1 hother]
  · rw [hcalls]
    refine List.pairwise_append.2 ⟨h.inOrder, List.pairwise_singleton _ _, fun earlier hearlier later hcall => ?_⟩
    rw [List.mem_singleton.1 hcall]
    exact (h.past earlier hearlier).trans hlater

theorem Covered.step (h : Covered (limitRate kind limit hlimit) startMs kind name log) {action : ThrottledAction}
    (hproper : log.Proper action) (hstep : recorded Throttled.step Throttled.sees log action = some log')
    (hbound : AtMostLimit log'.record kind name limit) :
    Covered (limitRate kind limit hlimit) startMs kind name log' := by
  obtain ⟨hmove, hrecord⟩ := recorded_eq_some hstep
  rcases Throttled.step_buckets hmove with ⟨call, rfl, hlast, -, -, hbuckets⟩ | ⟨hother, hbuckets, hlast⟩
  · have hlater : log.state.lastMs ≤ call.nowMs := hproper
    have hgrown : grantedCalls log'.record kind name = grantedCalls log.record kind name ++
        if (log.state.answer call).1.isOk = true ∧ call.kind = kind ∧ call.name = name then [call] else [] := by
      rw [hrecord, grantedCalls_append, ← grantedCalls_answered]
      rfl
    by_cases hmine : call.kind = kind ∧ call.name = name
    · have hkey : kind.start ++ name = call.key := by
        rw [← hmine.1, ← hmine.2]
        rfl
      have hentry : ThrottledEntry.answered call (log.state.answer call).1.isOk ∈ log'.record := by
        rw [hrecord]
        exact List.mem_append_right _ (List.mem_singleton_self _)
      have hrun := h.hash.run hmine.1 (hbound call _ hentry hmine.1 hmine.2) hlater
      have hstored : log'.state.buckets (kind.start ++ name) = (log.state.answer call).2 := by
        rw [hbuckets]
        exact if_pos hkey
      rw [hkey] at hrun
      by_cases hanswer : (log.state.answer call).1.isOk = true
      · obtain ⟨htaken, hhash⟩ := hrun.1 hanswer
        rw [if_pos ⟨hanswer, hmine⟩] at hgrown
        refine h.granted hgrown hlast hlater htaken ?_
        rw [hstored, hlast]
        exact hhash
      · have hhash := hrun.2 (Bool.eq_false_of_not_eq_true hanswer)
        rw [if_neg fun hand => hanswer hand.1, List.append_nil] at hgrown
        refine h.ungranted hgrown (hlast ▸ hlater) ?_
        rw [hstored, hlast]
        exact hhash
    · have hkey : kind.start ++ name ≠ call.key := fun heq =>
        hmine ⟨(LimitKind.key_inj heq).1.symm, (LimitKind.key_inj heq).2.symm⟩
      have hstored : log'.state.buckets (kind.start ++ name) = log.state.buckets (kind.start ++ name) := by
        rw [hbuckets]
        exact if_neg hkey
      rw [if_neg fun hand => hmine hand.2, List.append_nil] at hgrown
      refine h.ungranted hgrown (hlast ▸ hlater) ?_
      rw [hstored, hlast]
      exact h.hash.later (by exact_mod_cast hlater)
  · have hcalls : grantedCalls log'.record kind name = grantedCalls log.record kind name := by
      rw [hrecord, grantedCalls_append, Throttled.grantedCalls_sees hother, List.append_nil]
    refine h.ungranted hcalls (le_of_eq hlast.symm) ?_
    rw [hbuckets, hlast]
    exact h.hash

theorem ThrottledLog.Runs.covered {wallets : TenantId → Option WalletRow} (h : log.Runs startMs wallets)
    (hbound : AtMostLimit log.record kind name limit) :
    Covered (limitRate kind limit hlimit) startMs kind name log := by
  induction h with
  | refl =>
    refine ⟨rfl, .of_none ?_, fun call hcall => ?_, List.Pairwise.nil⟩
    · exact TokenBucket.Bucket.Covers.full _ _ (le_refl _)
    · exact absurd hcall List.not_mem_nil
  | tail action _ hproper hstep ih =>
    refine (ih fun call granted hentry => hbound call granted ?_).step hproper hstep hbound
    rw [(recorded_eq_some hstep).2]
    exact List.mem_append_left _ hentry

/-- The calls that are granted from `s` to `e`. -/
theorem granted_between_le {wallets : TenantId → Option WalletRow} (h : log.Runs startMs wallets) (hlimit : 0 < limit)
    (hbound : AtMostLimit log.record kind name limit) {s e : Int} (hwindow : s ≤ e) :
    (((grantedCalls log.record kind name).filter fun call => decide (s ≤ call.nowMs ∧ call.nowMs ≤ e)).length : ℚ) ≤
      limit + (e - s) * limit / kind.periodMs := by
  have hcovered : Covered (limitRate kind limit hlimit) startMs kind name log := h.covered hbound
  have hamounts : ∀ demand ∈ (grantedCalls log.record kind name).map LimitCall.demand, 0 ≤ demand.amount := by
    intro demand hdemand
    obtain ⟨call, -, rfl⟩ := List.mem_map.1 hdemand
    exact zero_le_one
  have hsorted : ((grantedCalls log.record kind name).map LimitCall.demand).Pairwise
      fun demand later => demand.now ≤ later.now :=
    List.pairwise_map.2 (hcovered.inOrder.imp fun hle => Int.cast_le.2 hle)
  have hvalid : ((limitRate kind limit hlimit).full (startMs : ℚ)).Valid (limitRate kind limit hlimit) :=
    TokenBucket.Rate.full_valid _
  have hwithin := TokenBucket.within_serve_le hvalid (Int.cast_le.2 hwindow : (s : ℚ) ≤ e) hamounts hsorted
  rw [hcovered.served, within_granted] at hwithin
  rw [mul_div_assoc]
  exact hwithin

end Covered

/-! ### The messages behind a limit -/

/-- The names of the two limits of a tenant. -/
def tenantLimits (tenantId : TenantId) : List String :=
  ["tenant:" ++ tenantId.text ++ ":api", "tenant:" ++ tenantId.text ++ ":submit"]

/-- A prepared submission has passed the limits of its tenant, whatever they are at that time. -/
theorem SubmitCall.prepared_limits {call : SubmitCall} {submission : Submission} (h : call.prepared = .ok submission)
    {name : String} (hname : name ∈ tenantLimits submission.tenantId) :
    ∃ limit, call.services.enforceLimit (LimitKind.perSecond.start ++ name) limit = .ok () := by
  have htenant := (MessagesService.prepareSubmission_ok h).tenantId
  unfold prepared MessagesService.prepareSubmission at h
  split at h
  · cases h
  · obtain ⟨tenantPolicy, -, h⟩ := except_bind_eq_ok.1 h
    obtain ⟨_, hquotas, -⟩ := except_bind_eq_ok.1 h
    unfold MessagesService.consumeSubmissionQuotas at hquotas
    obtain ⟨⟨⟩, hapi, hquotas⟩ := except_bind_eq_ok.1 hquotas
    obtain ⟨⟨⟩, hsubmit, -⟩ := except_bind_eq_ok.1 hquotas
    rw [htenant] at hname
    unfold tenantLimits at hname
    rcases List.mem_cons.1 hname with rfl | hname
    · refine ⟨tenantPolicy.apiRateLimitRps, ?_⟩
      rw [← hapi, ← String.append_assoc, ← String.append_assoc]
      rfl
    · rw [List.mem_singleton.1 hname]
      refine ⟨tenantPolicy.submitTpsLimit, ?_⟩
      rw [← hsubmit, ← String.append_assoc, ← String.append_assoc]
      rfl

theorem Granted.mono {record : List ThrottledEntry} {number : Nat} {kind : LimitKind} {name : String} {limit : Int}
    (h : Granted record number kind name limit) (entries : List ThrottledEntry) :
    Granted (record ++ entries) number kind name limit := by
  obtain ⟨call, hentry, hcall⟩ := h
  exact ⟨call, List.mem_append_left _ hentry, hcall⟩

/-- Every message in the table was created by a submission with a number of its own, which the limits of its tenant had
let through. -/
structure Admitted (log : ThrottledLog) : Prop where
  snapshots : Snapshots log.state.world
  contents : log.state.world.db.messages.map MessageRow.content =
    (createdRows log.record).map fun created => created.2.content
  numbers : ((createdRows log.record).map Prod.fst).Nodup
  submitted : ∀ created ∈ createdRows log.record, created.1 ∈ log.state.submitted
  granted : ∀ created ∈ createdRows log.record, ∀ name ∈ tenantLimits created.2.tenantId,
    ∃ limit, Granted log.record created.1 .perSecond name limit

namespace Admitted

variable {log log' : ThrottledLog}

/-- A step that creates no row. -/
theorem quiet (h : Admitted log) (hsnapshots : Snapshots log'.state.world) {entries : List ThrottledEntry}
    (hrecord : log'.record = log.record ++ entries) (hrows : createdRows entries = [])
    (hcontents : log'.state.world.db.messages.map MessageRow.content =
      log.state.world.db.messages.map MessageRow.content)
    (hsubmitted : ∀ number ∈ log.state.submitted, number ∈ log'.state.submitted) : Admitted log' := by
  have hsame : createdRows log'.record = createdRows log.record := by
    rw [hrecord, createdRows_append, hrows, List.append_nil]
  refine ⟨hsnapshots, ?_, ?_, ?_, ?_⟩
  · rw [hsame, hcontents]
    exact h.contents
  · rw [hsame]
    exact h.numbers
  · rw [hsame]
    exact fun created hcreated => hsubmitted _ (h.submitted created hcreated)
  · rw [hsame]
    intro created hcreated name hname
    obtain ⟨limit, hgranted⟩ := h.granted created hcreated name hname
    rw [hrecord]
    exact ⟨limit, hgranted.mono entries⟩

/-- A submission that creates a row. -/
theorem create (h : Admitted log) (hsnapshots : Snapshots log'.state.world) {number : Nat} {row : MessageRow}
    (hrecord : log'.record = log.record ++ [.created number row]) (hfresh : number ∉ log.state.submitted)
    (hmessages : log'.state.world.db.messages = log.state.world.db.messages ++ [row])
    (hsubmitted : log'.state.submitted = number :: log.state.submitted)
    (hgranted : ∀ name ∈ tenantLimits row.tenantId, ∃ limit, Granted log.record number .perSecond name limit) :
    Admitted log' := by
  have hrows : createdRows log'.record = createdRows log.record ++ [(number, row)] := by
    rw [hrecord, createdRows_append]
    rfl
  refine ⟨hsnapshots, ?_, ?_, ?_, ?_⟩
  · rw [hrows, hmessages, List.map_append, List.map_append, h.contents]
    rfl
  · rw [hrows, List.map_append]
    refine List.nodup_append.2 ⟨h.numbers, List.nodup_singleton _, fun earlier hearlier later hlater heq => hfresh ?_⟩
    obtain ⟨created, hcreated, rfl⟩ := List.mem_map.1 hearlier
    have hnumber : created.1 = number := heq.trans (List.mem_singleton.1 hlater)
    rw [← hnumber]
    exact h.submitted created hcreated
  · intro created hcreated
    rw [hrows] at hcreated
    rw [hsubmitted]
    rcases List.mem_append.1 hcreated with hcreated | hcreated
    · exact List.mem_cons_of_mem _ (h.submitted created hcreated)
    · rw [List.mem_singleton.1 hcreated]
      exact List.mem_cons_self
  · intro created hcreated name hname
    rw [hrows] at hcreated
    have hbefore : ∃ limit, Granted log.record created.1 .perSecond name limit := by
      rcases List.mem_append.1 hcreated with hcreated | hcreated
      · exact h.granted created hcreated name hname
      · rw [List.mem_singleton.1 hcreated] at hname ⊢
        exact hgranted name hname
    obtain ⟨limit, hgranted⟩ := hbefore
    rw [hrecord]
    exact ⟨limit, hgranted.mono _⟩

theorem step (h : Admitted log) {action : ThrottledAction} (hproper : log.Proper action)
    (hstep : recorded Throttled.step Throttled.sees log action = some log') : Admitted log' := by
  obtain ⟨hmove, hrecord⟩ := recorded_eq_some hstep
  cases action with
  | enforce call =>
    have hstate := Option.some.inj hmove
    refine h.quiet ?_ hrecord rfl ?_ ?_
    all_goals rw [← hstate]
    · exact h.snapshots
    · exact fun _ hnumber => hnumber
  | submit number call =>
    unfold Throttled.step at hmove
    dsimp only at hmove
    split at hmove
    · cases hmove
    · rename_i hfresh
      split at hmove
      · have hstate := Option.some.inj hmove
        have hnone : log.state.sees (.submit number call) log'.state = [] := by
          unfold Throttled.sees
          rw [← hstate, List.drop_length]
          rfl
        rw [hnone] at hrecord
        refine h.quiet ?_ hrecord rfl ?_ ?_
        all_goals rw [← hstate]
        · exact h.snapshots
        · exact fun _ hnumber => List.mem_cons_of_mem _ hnumber
      · rename_i submission hprepared
        obtain ⟨world, hworld, hstate⟩ := Option.map_eq_some_iff.1 hmove
        have hsnapshots := h.snapshots.step hworld
        have hstepped := World.step_cases (keyed_composite h.snapshots.keyed) hworld
        cases hstepped with
        | refused =>
          have hnone : log.state.sees (.submit number call) log'.state = [] := by
            unfold Throttled.sees
            rw [← hstate, List.drop_length]
            rfl
          rw [hnone] at hrecord
          refine h.quiet ?_ hrecord rfl ?_ ?_
          all_goals rw [← hstate]
          · exact h.snapshots
          · exact fun _ hnumber => List.mem_cons_of_mem _ hnumber
        | @created _ _ message db' c =>
          have hmessages := c.messages_eq.1
          have hnew : log.state.sees (.submit number call) log'.state = [.created number message] := by
            unfold Throttled.sees
            rw [← hstate]
            dsimp only
            rw [hmessages, List.drop_left]
            rfl
          rw [hnew] at hrecord
          refine h.create ?_ hrecord hfresh ?_ ?_ ?_
          · rw [← hstate]
            exact hsnapshots
          · rw [← hstate]
            exact hmessages
          · rw [← hstate]
          · intro name hname
            have htenant : message.tenantId = submission.tenantId := congrArg MessageRow.tenantId c.message_eq
            rw [htenant] at hname
            obtain ⟨limit, hlimit⟩ := SubmitCall.prepared_limits hprepared hname
            exact ⟨limit, hproper.perSecond name limit hlimit⟩
  | handle action =>
    unfold Throttled.step at hmove
    split at hmove
    · rename_i heq
      cases heq
    · rename_i heq
      cases heq
    · cases hmove
    · rename_i hother heq
      cases heq
      obtain ⟨world, hworld, hstate⟩ := Option.map_eq_some_iff.1 hmove
      have hsnapshots := h.snapshots.step hworld
      have hquiet := (World.step_cases (keyed_composite h.snapshots.keyed) hworld).quiet hother
      refine h.quiet ?_ hrecord rfl ?_ ?_
      all_goals rw [← hstate]
      · exact hsnapshots
      · exact hquiet.contents
      · exact fun _ hnumber => hnumber

theorem of_runs {startMs : Int} {wallets : TenantId → Option WalletRow} (h : log.Runs startMs wallets) :
    Admitted log := by
  induction h with
  | refl => exact ⟨.initial wallets, rfl, List.nodup_nil, fun _ h => absurd h List.not_mem_nil,
      fun _ h => absurd h List.not_mem_nil⟩
  | tail action _ hproper hstep ih => exact ih.step hproper hstep

/-- There are no more rows behind a limit than calls of it that were granted. -/
theorem createdOnCalls_le (h : Admitted log) (kind : LimitKind) (name : String) (s e : Int) :
    (createdOnCalls log.record kind name s e).length ≤ ((grantedCalls log.record kind name).filter
      fun call => decide (s ≤ call.nowMs ∧ call.nowMs ≤ e)).length := by
  have hnodup : ((createdOnCalls log.record kind name s e).map Prod.fst).Nodup :=
    h.numbers.sublist (List.filter_sublist.map Prod.fst)
  have hsubset : (createdOnCalls log.record kind name s e).map Prod.fst ⊆ ((grantedCalls log.record kind name).filter
      fun call => decide (s ≤ call.nowMs ∧ call.nowMs ≤ e)).map LimitCall.number := by
    intro number hnumber
    obtain ⟨created, hcreated, rfl⟩ := List.mem_map.1 hnumber
    obtain ⟨call, hcall, hmatch⟩ := List.any_eq_true.1 (List.mem_filter.1 hcreated).2
    rw [decide_eq_true_eq] at hmatch
    exact List.mem_map.2 ⟨call, List.mem_filter.2 ⟨hcall, decide_eq_true hmatch.2⟩, hmatch.1⟩
  have hle := (List.subperm_of_subset hnodup hsubset).length_le
  rwa [List.length_map, List.length_map] at hle

end Admitted

/-- A row that is created in a window has had its call in the window, or less than `delay` before. -/
theorem createdBetween_le {delay : ℕ} {record : List ThrottledEntry} {kind : LimitKind} {name : String}
    (h : CreatedWithin delay record kind name) (s e : Int) :
    (createdBetween record kind name s e).length ≤ (createdOnCalls record kind name (s - delay) e).length := by
  unfold createdBetween createdOnCalls
  rw [← List.countP_eq_length_filter, ← List.countP_eq_length_filter]
  refine List.countP_mono_left fun created hcreated hbetween => ?_
  obtain ⟨hwindow, hcalled⟩ := Bool.and_eq_true_iff.1 hbetween
  obtain ⟨hfrom, hto⟩ := of_decide_eq_true hwindow
  obtain ⟨call, hcall, hnumber⟩ := List.any_eq_true.1 hcalled
  have hnumber := of_decide_eq_true hnumber
  obtain ⟨hafter, hwithin⟩ := h created hcreated call hcall hnumber
  have hlow : s * 1000 ≤ (call.nowMs + delay) * 1000 := hfrom.trans hwithin
  have hhigh : call.nowMs * 1000 ≤ e * 1000 := hafter.trans hto
  exact List.any_eq_true.2 ⟨call, hcall, decide_eq_true ⟨hnumber, by omega, by omega⟩⟩

/-- Every message was created by a submission with a number of its own that had been granted a call of each limit of its
tenant.  Behind any limit, no more requests whose calls are granted in a window of time get a message than the largest limit
that its calls came with, and what this limit gains in the window; and if messages are created within some delay of the
calls, no more of them are created in a window than this limit and what it gains in the window and the delay. -/
theorem throughput_bounded {startMs : Int} {wallets : TenantId → Option WalletRow} {log : ThrottledLog}
    (h : log.Runs startMs wallets) :
    (log.state.world.db.messages.map MessageRow.content =
        (createdRows log.record).map (fun created => created.2.content) ∧
      ((createdRows log.record).map Prod.fst).Nodup ∧
      ∀ created ∈ createdRows log.record, ∀ name ∈ tenantLimits created.2.tenantId,
        ∃ limit, Granted log.record created.1 .perSecond name limit) ∧
    ∀ kind name (limit : ℕ), 0 < limit → AtMostLimit log.record kind name limit → ∀ s e : Int, s ≤ e →
      ((createdOnCalls log.record kind name s e).length : ℚ) ≤ limit + (e - s) * limit / kind.periodMs ∧
      ∀ delay : ℕ, CreatedWithin delay log.record kind name →
        ((createdBetween log.record kind name s e).length : ℚ) ≤ limit + (e - s + delay) * limit / kind.periodMs := by
  have hadmitted := Admitted.of_runs h
  refine ⟨⟨hadmitted.contents, hadmitted.numbers, hadmitted.granted⟩, ?_⟩
  intro kind name limit hlimit hbound s e hwindow
  have hcalls {s e : Int} (hwindow : s ≤ e) :
      ((createdOnCalls log.record kind name s e).length : ℚ) ≤ limit + (e - s) * limit / kind.periodMs := by
    refine le_trans ?_ (granted_between_le h hlimit hbound hwindow)
    exact_mod_cast hadmitted.createdOnCalls_le kind name s e
  refine ⟨hcalls hwindow, fun delay hwithin => ?_⟩
  have hle : ((createdBetween log.record kind name s e).length : ℚ) ≤
      (createdOnCalls log.record kind name (s - delay) e).length := by
    exact_mod_cast createdBetween_le hwithin s e
  refine hle.trans ((hcalls (by omega)).trans_eq ?_)
  push_cast
  ring

namespace Sample

/-- The tenant may call once a second. -/
def limitedServices : SubmissionServices :=
  { submissionServices with
    enforceLimit := fun key limit =>
      if (key = "rl:tenant:tenant:api" ∨ key = "rl:tenant:tenant:submit") ∧ limit = 1 then .ok ()
      else .error (.error "")
    enforceDailyQuota := fun _ _ => .error (.error "")
    getTenantPolicy := fun _ => some ⟨1, 1⟩ }

def limitCall (number : Nat) (name : String) (nowMs : Int) : LimitCall := ⟨number, .perSecond, name, 1, nowMs⟩

def limitedSubmit : SubmitCall := ⟨⟨[], []⟩, senderIds, limitedServices, context, dto "0911234567", clock 1002000⟩

/-- A submission, and the first call of another one 400 milliseconds later. -/
def throttledActions : List ThrottledAction := [
  .enforce (limitCall 1 "tenant:tenant:api" 1000), .enforce (limitCall 1 "tenant:tenant:submit" 1001),
  .submit 1 limitedSubmit,
  .enforce (limitCall 2 "tenant:tenant:api" 1400)]

def throttledLog : Nat → ThrottledLog
  | 0 => ⟨.start 0 (wallets 100), []⟩
  | count + 1 =>
    match throttledActions[count]? with
    | some action => (recorded Throttled.step Throttled.sees (throttledLog count) action).getD (throttledLog count)
    | none => throttledLog count

theorem limitedServices_answered : limitedServices.Answered (throttledLog 2).record 1 := by
  constructor
  · intro name limit hanswer
    have hallowed : ("rl:" ++ name = "rl:tenant:tenant:api" ∨ "rl:" ++ name = "rl:tenant:tenant:submit") ∧ limit = 1 := by
      by_contra hnot
      rw [show limitedServices.enforceLimit (LimitKind.perSecond.start ++ name) limit = .error (.error "") from
        if_neg hnot] at hanswer
      cases hanswer
    obtain ⟨hname | hname, rfl⟩ := hallowed
    · exact ⟨limitCall 1 "tenant:tenant:api" 1000, by decide +kernel, rfl, rfl,
        (@LimitKind.key_inj .perSecond .perSecond _ _ hname).2.symm, rfl⟩
    · exact ⟨limitCall 1 "tenant:tenant:submit" 1001, by decide +kernel, rfl, rfl,
        (@LimitKind.key_inj .perSecond .perSecond _ _ hname).2.symm, rfl⟩
  · intro name limit hanswer
    cases hanswer

theorem throttledLog_runs : (throttledLog 4).Runs 0 (wallets 100) := by
  have hstart : (throttledLog 0).Runs 0 (wallets 100) := .refl
  have hapi : (throttledLog 1).Runs 0 (wallets 100) :=
    .tail (.enforce (limitCall 1 "tenant:tenant:api" 1000)) hstart (by decide : (0 : Int) ≤ 1000) rfl
  have hsubmit : (throttledLog 2).Runs 0 (wallets 100) :=
    .tail (.enforce (limitCall 1 "tenant:tenant:submit" 1001)) hapi (by decide : (1000 : Int) ≤ 1001) rfl
  have hserved : recorded Throttled.step Throttled.sees (throttledLog 2)
      (.submit 1 limitedSubmit) = some (throttledLog 3) := by
    have hsome : (recorded Throttled.step Throttled.sees (throttledLog 2)
        (.submit 1 limitedSubmit)).isSome = true := by
      decide +kernel
    exact (Option.getD_of_ne_none (Option.isSome_iff_ne_none.1 hsome) (throttledLog 2)).symm
  have hcreated : (throttledLog 3).Runs 0 (wallets 100) :=
    .tail (.submit 1 limitedSubmit) hsubmit
      limitedServices_answered hserved
  have hlater : (throttledLog 3).state.lastMs ≤ 1400 := by decide +kernel
  exact .tail (.enforce (limitCall 2 "tenant:tenant:api" 1400)) hcreated hlater rfl

end Sample

/-- One message in the first second, two milliseconds after its first call, and the next request is refused. -/
theorem throughput_bounded_second : (createdRows (Sample.throttledLog 4).record).length = 1 ∧
    (createdBetween (Sample.throttledLog 4).record .perSecond "tenant:tenant:api" 1000 1400).length = 1 ∧
    ((createdBetween (Sample.throttledLog 4).record .perSecond "tenant:tenant:api" 1000 1400).length : ℚ) ≤
      (1 : ℕ) + (((1400 : Int) : ℚ) - (1000 : Int) + (2 : ℕ)) * (1 : ℕ) / LimitKind.perSecond.periodMs := by
  have hlimits : ((Sample.throttledLog 4).record.all fun
      | .answered call _ => decide (call.limit ≤ 1)
      | .created _ _ => true) = true := by decide +kernel
  have hbound : AtMostLimit (Sample.throttledLog 4).record .perSecond "tenant:tenant:api" 1 :=
    fun call granted hentry _ _ => of_decide_eq_true (List.all_eq_true.1 hlimits _ hentry)
  have hwithin : CreatedWithin 2 (Sample.throttledLog 4).record .perSecond "tenant:tenant:api" := by
    unfold CreatedWithin
    decide +kernel
  exact ⟨by decide +kernel, by decide +kernel, ((throughput_bounded Sample.throttledLog_runs).2 .perSecond
    "tenant:tenant:api" 1 one_pos hbound 1000 1400 (by decide)).2 2 hwithin⟩

end SmsPlatform
