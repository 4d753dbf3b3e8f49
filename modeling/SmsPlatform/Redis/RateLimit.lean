import SmsPlatform.Database
import SmsPlatform.Lib.TokenBucket
import Mathlib.Data.Rat.Floor

/-!
# Rate limits

The token buckets of `rate-limit.service.ts`: the Lua script over the hash of one key, the call that runs it, and the
limits made of it.  Numbers are rational.  `consumeTokens_bounded` bounds what is granted in a window of time, and says
that the expiry of the key cannot be observed.
-/

namespace SmsPlatform

namespace RateLimit

/-- The hash of a key, and the time at which Redis removes it. -/
structure BucketHash where
  tokens : ℚ
  updatedAt : ℚ
  expiresAt : ℚ
  deriving DecidableEq

structure LuaReply where
  allowed : Bool
  tokens : ℚ
  retryAfterMs : ℚ

structure TokenBucketResult where
  allowed : Bool
  remainingTokens : ℚ
  retryAfterMs : ℚ
  deriving DecidableEq

/-- What a command finds under the key at a time. -/
def unexpired (hash : Option BucketHash) (nowMs : ℚ) : Option BucketHash :=
  hash.filter fun hash => decide (nowMs < hash.expiresAt)

/-! ### The service -/

section Service

variable (capacity refillTokens refillPeriodMs : ℚ)

/-- `TOKEN_BUCKET_LUA`: the reply, and the hash with the expiry that `PEXPIRE` sets. -/
def tokenBucketLua (requested nowMs ttlMs : ℚ) (bucket : Option BucketHash) : LuaReply × BucketHash :=
  let tokens := (bucket.map BucketHash.tokens).getD capacity
  let updatedAt := (bucket.map BucketHash.updatedAt).getD nowMs
  let tokens :=
    if updatedAt < nowMs then min capacity (tokens + (nowMs - updatedAt) / refillPeriodMs * refillTokens) else tokens
  if requested ≤ tokens then
    (⟨true, tokens - requested, 0⟩, ⟨tokens - requested, nowMs, nowMs + ttlMs⟩)
  else
    (⟨false, tokens, ⌈(requested - tokens) / refillTokens * refillPeriodMs⌉⟩, ⟨tokens, nowMs, nowMs + ttlMs⟩)

def bucketTtlMs : ℚ := max refillPeriodMs ⌈capacity / refillTokens * refillPeriodMs⌉

/-- The answer, and what is then stored under the key. -/
def consumeTokens (key : String) (amount nowMs : ℚ) (bucket : Option BucketHash) :
    Except Failure TokenBucketResult × Option BucketHash :=
  if capacity ≤ 0 ∨ refillTokens ≤ 0 ∨ refillPeriodMs ≤ 0 then
    (.error (.error ("Invalid token bucket configuration for " ++ key)), bucket)
  else
    let ttlMs := bucketTtlMs capacity refillTokens refillPeriodMs
    let (result, hash) := tokenBucketLua capacity refillTokens refillPeriodMs amount nowMs ttlMs bucket
    (.ok ⟨result.allowed, result.tokens, result.retryAfterMs⟩, some hash)

end Service

/-- What `enforceLimit` and `enforceDailyQuota` make of the answer: the remaining tokens, or a refusal. -/
def enforced (key : String) : Except Failure TokenBucketResult → Except Failure ℚ
  | .error failure => .error failure
  | .ok result =>
    if result.allowed then .ok result.remainingTokens
    else .error (.tooManyRequests ("Rate limit exceeded for " ++ key ++ ". Retry after " ++
      (max 1 ⌈result.retryAfterMs / 1000⌉).repr ++ " seconds"))

def enforceLimit (key : String) (limit ttlSeconds amount nowMs : ℚ) (bucket : Option BucketHash) :
    Except Failure ℚ × Option BucketHash :=
  let (result, bucket) := consumeTokens limit limit (ttlSeconds * 1000) key amount nowMs bucket
  (enforced key result, bucket)

def enforceDailyQuota (key : String) (limit nowMs : ℚ) (bucket : Option BucketHash) :
    Except Failure ℚ × Option BucketHash :=
  let secondsPerDay : ℚ := 24 * 60 * 60
  let (result, bucket) := consumeTokens limit limit (secondsPerDay * 1000) key 1 nowMs bucket
  (enforced key result, bucket)

/-! ### Calls on one key -/

structure Call where
  amount : ℚ
  nowMs : ℚ

structure Served where
  call : Call
  result : Except Failure TokenBucketResult

def Served.allowed (served : Served) : Bool :=
  match served.result with
  | .ok result => result.allowed
  | .error _ => false

/-- The amounts granted at the times from `s` to `e`. -/
def granted (s e : ℚ) (served : List Served) : ℚ :=
  (served.map fun entry =>
    if entry.allowed = true ∧ s ≤ entry.call.nowMs ∧ entry.call.nowMs ≤ e then entry.call.amount else 0).sum

theorem granted_cons (s e : ℚ) (entry : Served) (served : List Served) :
    granted s e (entry :: served) =
      (if entry.allowed = true ∧ s ≤ entry.call.nowMs ∧ entry.call.nowMs ≤ e then entry.call.amount else 0) +
        granted s e served :=
  List.sum_cons

/-- One call after the other; `finds` is what a call finds of what the one before has stored. -/
def consumeAll (finds : Option BucketHash → ℚ → Option BucketHash) (capacity refillTokens refillPeriodMs : ℚ)
    (key : String) : Option BucketHash → List Call → List Served × Option BucketHash
  | bucket, [] => ([], bucket)
  | bucket, call :: calls =>
    let (result, bucket) := consumeTokens capacity refillTokens refillPeriodMs key call.amount call.nowMs
      (finds bucket call.nowMs)
    let (served, bucket) := consumeAll finds capacity refillTokens refillPeriodMs key bucket calls
    (⟨call, result⟩ :: served, bucket)

/-- The key never expires. -/
def always (bucket : Option BucketHash) (_nowMs : ℚ) : Option BucketHash := bucket

/-- No amount is negative, and no call comes before the one it follows. -/
structure InOrder (calls : List Call) : Prop where
  amounts : ∀ call ∈ calls, 0 ≤ call.amount
  times : calls.Pairwise fun call later => call.nowMs ≤ later.nowMs

/-! ### The script is a token bucket -/

/-- The settings of a bucket that `consumeTokens` accepts. -/
structure Settings where
  capacity : ℚ
  refillTokens : ℚ
  refillPeriodMs : ℚ
  capacity_pos : 0 < capacity
  refillTokens_pos : 0 < refillTokens
  refillPeriodMs_pos : 0 < refillPeriodMs

namespace Settings

variable (settings : Settings)

def rate : TokenBucket.Rate ℚ where
  capacity := settings.capacity
  perTime := settings.refillTokens / settings.refillPeriodMs
  capacity_pos := settings.capacity_pos
  perTime_pos := div_pos settings.refillTokens_pos settings.refillPeriodMs_pos

def ttlMs : ℚ := bucketTtlMs settings.capacity settings.refillTokens settings.refillPeriodMs

/-- The bucket that is kept under the key; a missing key is a full one. -/
def bucketOf : Option BucketHash → TokenBucket.Bucket ℚ
  | some hash => ⟨hash.tokens, hash.updatedAt⟩
  | none => settings.rate.full 0

/-- What an answer and the hash are, given the tokens at the time of the call. -/
def answer (amount nowMs level : ℚ) : Except Failure TokenBucketResult × Option BucketHash :=
  if amount ≤ level then
    (.ok ⟨true, level - amount, 0⟩, some ⟨level - amount, nowMs, nowMs + settings.ttlMs⟩)
  else
    (.ok ⟨false, level, ⌈(amount - level) / settings.refillTokens * settings.refillPeriodMs⌉⟩,
      some ⟨level, nowMs, nowMs + settings.ttlMs⟩)

/-- The key lives until the bucket is full. -/
theorem full_before_expiry : settings.capacity / (settings.refillTokens / settings.refillPeriodMs) ≤ settings.ttlMs := by
  have hdiv : settings.capacity / (settings.refillTokens / settings.refillPeriodMs) =
      settings.capacity / settings.refillTokens * settings.refillPeriodMs := by
    rw [div_div_eq_mul_div, div_mul_eq_mul_div]
  rw [hdiv]
  exact (Int.le_ceil _).trans (le_max_right _ _)

theorem consumeTokens_eq (key : String) (amount nowMs : ℚ) (bucket : Option BucketHash) :
    consumeTokens settings.capacity settings.refillTokens settings.refillPeriodMs key amount nowMs bucket =
      settings.answer amount nowMs ((settings.bucketOf bucket).level settings.rate nowMs) := by
  have hvalid : ¬ (settings.capacity ≤ 0 ∨ settings.refillTokens ≤ 0 ∨ settings.refillPeriodMs ≤ 0) := by
    have h1 := settings.capacity_pos
    have h2 := settings.refillTokens_pos
    have h3 := settings.refillPeriodMs_pos
    rintro (h | h | h) <;> linarith
  unfold consumeTokens
  rw [if_neg hvalid]
  have hlevel : (if (bucket.map BucketHash.updatedAt).getD nowMs < nowMs then
      min settings.capacity ((bucket.map BucketHash.tokens).getD settings.capacity +
        (nowMs - (bucket.map BucketHash.updatedAt).getD nowMs) / settings.refillPeriodMs * settings.refillTokens)
      else (bucket.map BucketHash.tokens).getD settings.capacity) =
        (settings.bucketOf bucket).level settings.rate nowMs := by
    cases bucket with
    | none =>
      show (if nowMs < nowMs then _ else settings.capacity) = (settings.rate.full 0).level settings.rate nowMs
      rw [if_neg (lt_irrefl nowMs), TokenBucket.Rate.level_full]
      rfl
    | some hash =>
      show (if hash.updatedAt < nowMs then min settings.capacity (hash.tokens + (nowMs - hash.updatedAt) /
        settings.refillPeriodMs * settings.refillTokens) else hash.tokens) =
          (if hash.updatedAt < nowMs then min settings.capacity (hash.tokens + (nowMs - hash.updatedAt) *
            (settings.refillTokens / settings.refillPeriodMs)) else hash.tokens)
      rw [div_mul_eq_mul_div, mul_div_assoc]
  unfold tokenBucketLua answer
  dsimp only
  rw [hlevel]
  split <;> rfl

/-- What is kept under the key: tokens between none and the capacity, for as long as it takes to fill the bucket. -/
structure Kept (bucket : Option BucketHash) : Prop where
  valid : (settings.bucketOf bucket).Valid settings.rate
  expires : ∀ hash, bucket = some hash → hash.expiresAt = hash.updatedAt + settings.ttlMs

variable {settings}

theorem bucketOf_answer (amount nowMs : ℚ) (bucket : Option BucketHash) :
    settings.bucketOf (settings.answer amount nowMs ((settings.bucketOf bucket).level settings.rate nowMs)).2 =
      ((settings.bucketOf bucket).take settings.rate ⟨amount, nowMs⟩).2 := by
  unfold answer TokenBucket.Bucket.take
  dsimp only
  split <;> rfl

theorem allowed_answer (call : Call) (bucket : Option BucketHash) :
    Served.allowed ⟨call,
        (settings.answer call.amount call.nowMs ((settings.bucketOf bucket).level settings.rate call.nowMs)).1⟩ =
      ((settings.bucketOf bucket).take settings.rate ⟨call.amount, call.nowMs⟩).1 := by
  unfold answer TokenBucket.Bucket.take
  dsimp only
  split <;> rfl

theorem Kept.missing : settings.Kept none :=
  ⟨TokenBucket.Rate.full_valid 0, fun _ h => by cases h⟩

theorem Kept.answer {bucket : Option BucketHash} (h : settings.Kept bucket) {amount : ℚ} (hamount : 0 ≤ amount)
    (nowMs : ℚ) :
    settings.Kept (settings.answer amount nowMs ((settings.bucketOf bucket).level settings.rate nowMs)).2 := by
  constructor
  · rw [bucketOf_answer]
    exact h.valid.take hamount
  · intro hash hhash
    unfold Settings.answer at hhash
    split at hhash
    all_goals
      cases hhash
      rfl

/-- A key that has expired would hold a full bucket. -/
theorem Kept.level_unexpired {bucket : Option BucketHash} (h : settings.Kept bucket) (nowMs : ℚ) :
    (settings.bucketOf (unexpired bucket nowMs)).level settings.rate nowMs =
      (settings.bucketOf bucket).level settings.rate nowMs := by
  cases bucket with
  | none => rfl
  | some hash =>
    by_cases hlive : nowMs < hash.expiresAt
    · have hfound : unexpired (some hash) nowMs = some hash := Option.filter_some_pos (decide_eq_true hlive)
      rw [hfound]
    · have hgone : unexpired (some hash) nowMs = none :=
        Option.filter_some_neg (decide_eq_false hlive)
      have hexpires := h.expires hash rfl
      have hfull := settings.full_before_expiry
      have hlong : hash.updatedAt + settings.rate.capacity / settings.rate.perTime ≤ nowMs := by
        show hash.updatedAt + settings.capacity / (settings.refillTokens / settings.refillPeriodMs) ≤ nowMs
        linarith
      rw [hgone, h.valid.level_eq_capacity hlong]
      exact TokenBucket.Rate.level_full 0 nowMs

section Runs

variable (key : String)

theorem consumeAll_cons (finds : Option BucketHash → ℚ → Option BucketHash) (bucket : Option BucketHash) (call : Call)
    (calls : List Call) :
    consumeAll finds settings.capacity settings.refillTokens settings.refillPeriodMs key bucket (call :: calls) =
      (⟨call, (settings.answer call.amount call.nowMs
          ((settings.bucketOf (finds bucket call.nowMs)).level settings.rate call.nowMs)).1⟩ ::
        (consumeAll finds settings.capacity settings.refillTokens settings.refillPeriodMs key
          (settings.answer call.amount call.nowMs
            ((settings.bucketOf (finds bucket call.nowMs)).level settings.rate call.nowMs)).2 calls).1,
        (consumeAll finds settings.capacity settings.refillTokens settings.refillPeriodMs key
          (settings.answer call.amount call.nowMs
            ((settings.bucketOf (finds bucket call.nowMs)).level settings.rate call.nowMs)).2 calls).2) := by
  conv_lhs => unfold consumeAll
  rw [settings.consumeTokens_eq]

theorem Kept.consumeAll {bucket : Option BucketHash} (h : settings.Kept bucket) {calls : List Call}
    (hcalls : InOrder calls) : settings.Kept
      (RateLimit.consumeAll always settings.capacity settings.refillTokens settings.refillPeriodMs key bucket calls).2 := by
  induction calls generalizing bucket with
  | nil => exact h
  | cons call calls ih =>
    rw [consumeAll_cons]
    refine ih (h.answer (hcalls.amounts call (List.mem_cons_self ..)) call.nowMs) ⟨?_, ?_⟩
    · intro other hother
      exact hcalls.amounts other (List.mem_cons_of_mem _ hother)
    · exact (List.pairwise_cons.1 hcalls.times).2

/-- The calls answer and store what they would if the key did not expire. -/
theorem Kept.consumeAll_unexpired {bucket : Option BucketHash} (h : settings.Kept bucket) {calls : List Call}
    (hcalls : InOrder calls) :
    RateLimit.consumeAll unexpired settings.capacity settings.refillTokens settings.refillPeriodMs key bucket calls =
      RateLimit.consumeAll always settings.capacity settings.refillTokens settings.refillPeriodMs key bucket calls := by
  induction calls generalizing bucket with
  | nil => rfl
  | cons call calls ih =>
    have hkept := h.answer (hcalls.amounts call (List.mem_cons_self ..)) call.nowMs
    have hrest := ih hkept ⟨fun other hother => hcalls.amounts other (List.mem_cons_of_mem _ hother),
      (List.pairwise_cons.1 hcalls.times).2⟩
    rw [consumeAll_cons, consumeAll_cons, h.level_unexpired, hrest]
    rfl

end Runs

/-- The calls are served as demands on a token bucket. -/
theorem granted_consumeAll (settings : Settings) (key : String) (s e : ℚ) (bucket : Option BucketHash) (calls : List Call) :
    granted s e (consumeAll always settings.capacity settings.refillTokens settings.refillPeriodMs key bucket calls).1 =
      TokenBucket.within s e (TokenBucket.serve settings.rate (settings.bucketOf bucket)
        (calls.map fun call => ⟨call.amount, call.nowMs⟩)) := by
  induction calls generalizing bucket with
  | nil => rfl
  | cons call calls ih =>
    rw [consumeAll_cons, List.map_cons, TokenBucket.serve, TokenBucket.within_cons, ← bucketOf_answer,
      ← allowed_answer, ← ih]
    exact granted_cons s e _ _

/-- From what is kept under a key, what is granted in a window is bounded; the key may expire on the way. -/
theorem Kept.granted_le {bucket : Option BucketHash} (h : settings.Kept bucket) (key : String) {calls : List Call}
    (hcalls : InOrder calls) {s e : ℚ} (hwindow : s ≤ e) :
    granted s e (RateLimit.consumeAll unexpired settings.capacity settings.refillTokens settings.refillPeriodMs key bucket
      calls).1 ≤ settings.capacity + (e - s) * settings.refillTokens / settings.refillPeriodMs := by
  have hamounts : ∀ demand ∈ calls.map fun call => (⟨call.amount, call.nowMs⟩ : TokenBucket.Demand ℚ),
      0 ≤ demand.amount := by
    intro demand hdemand
    obtain ⟨call, hcall, rfl⟩ := List.mem_map.1 hdemand
    exact hcalls.amounts call hcall
  rw [h.consumeAll_unexpired key hcalls, settings.granted_consumeAll, mul_div_assoc]
  exact TokenBucket.within_serve_le h.valid hwindow hamounts (List.pairwise_map.2 hcalls.times)

end Settings

/-- The rate of a key with valid settings: the stored tokens stay between none and the capacity, the amounts granted in
a window are bounded, and the key may expire or not. -/
theorem consumeTokens_bounded {capacity refillTokens refillPeriodMs : ℚ} (hcapacity : 0 < capacity)
    (hrefill : 0 < refillTokens) (hperiod : 0 < refillPeriodMs) (key : String) {calls : List Call}
    (hcalls : InOrder calls) :
    let run := consumeAll unexpired capacity refillTokens refillPeriodMs key none calls
    (∀ hash, run.2 = some hash → 0 ≤ hash.tokens ∧ hash.tokens ≤ capacity) ∧
      (∀ s e, s ≤ e → granted s e run.1 ≤ capacity + (e - s) * refillTokens / refillPeriodMs) ∧
      run.1 = (consumeAll always capacity refillTokens refillPeriodMs key none calls).1 := by
  let settings : Settings := ⟨capacity, refillTokens, refillPeriodMs, hcapacity, hrefill, hperiod⟩
  have hmissing : settings.Kept none := Settings.Kept.missing
  have hsame := hmissing.consumeAll_unexpired key hcalls
  have hkept := hmissing.consumeAll key hcalls
  have hrun : consumeAll unexpired capacity refillTokens refillPeriodMs key none calls =
      consumeAll always capacity refillTokens refillPeriodMs key none calls := hsame
  dsimp only
  rw [hrun]
  refine ⟨fun hash hhash => ?_, fun s e hwindow => ?_, rfl⟩
  · have hvalid := hkept.valid
    rw [show consumeAll always settings.capacity settings.refillTokens settings.refillPeriodMs key none calls =
      consumeAll always capacity refillTokens refillPeriodMs key none calls from rfl, hhash] at hvalid
    exact ⟨hvalid.nonneg, hvalid.le_capacity⟩
  · have hamounts : ∀ demand ∈ calls.map fun call => (⟨call.amount, call.nowMs⟩ : TokenBucket.Demand ℚ),
        0 ≤ demand.amount := by
      intro demand hdemand
      obtain ⟨call, hcall, rfl⟩ := List.mem_map.1 hdemand
      exact hcalls.amounts call hcall
    have hsorted : (calls.map fun call => (⟨call.amount, call.nowMs⟩ : TokenBucket.Demand ℚ)).Pairwise
        fun demand later => demand.now ≤ later.now :=
      List.pairwise_map.2 hcalls.times
    have hbound := TokenBucket.within_serve_le (s := s) (e := e) hmissing.valid hwindow hamounts hsorted
    calc granted s e (consumeAll always capacity refillTokens refillPeriodMs key none calls).1
        = TokenBucket.within s e (TokenBucket.serve settings.rate (settings.bucketOf none)
            (calls.map fun call => ⟨call.amount, call.nowMs⟩)) :=
          settings.granted_consumeAll key s e none calls
      _ ≤ capacity + (e - s) * (refillTokens / refillPeriodMs) := hbound
      _ = capacity + (e - s) * refillTokens / refillPeriodMs := by rw [mul_div_assoc]

/-- Two tokens a second: the third of three calls across a second's end is refused. -/
theorem consumeTokens_bounded_burst :
    let run := consumeAll unexpired 2 2 1000 "rl:test" none [⟨1, 999⟩, ⟨1, 999⟩, ⟨1, 1001⟩]
    (∀ hash, run.2 = some hash → 0 ≤ hash.tokens ∧ hash.tokens ≤ 2) ∧
      (∀ s e, s ≤ e → granted s e run.1 ≤ 2 + (e - s) * 2 / 1000) ∧
      run.1 = (consumeAll always 2 2 1000 "rl:test" none [⟨1, 999⟩, ⟨1, 999⟩, ⟨1, 1001⟩]).1 :=
  consumeTokens_bounded (by norm_num) (by norm_num) (by norm_num) "rl:test" ⟨by simp, by norm_num⟩

end RateLimit

end SmsPlatform
