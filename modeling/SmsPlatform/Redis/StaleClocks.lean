import SmsPlatform.Redis.RateLimit

/-!
# Clocks that disagree

`now_ms` is the time of the node that makes the call, so calls on one key may carry times that go back.  The script
gains nothing for such a call, but stores its time all the same, and what lies between is gained once more by the next
call.  `stale_calls_gain` says when such a call does no harm, and bounds what is granted while there is none.

Redis counts the expiry of the key by a clock of its own.
-/

namespace SmsPlatform

namespace RateLimit

/-- A call at the time of its node, and at the time of Redis. -/
structure ClockedCall where
  amount : ℚ
  nowMs : ℚ
  redisMs : ℚ

section Service

variable (capacity refillTokens refillPeriodMs : ℚ)

/-- The tokens that a call at this time has at its disposal: what the script replies to a call for none. -/
def availableTokens (nowMs : ℚ) (bucket : Option BucketHash) : ℚ :=
  (tokenBucketLua capacity refillTokens refillPeriodMs 0 nowMs
    (bucketTtlMs capacity refillTokens refillPeriodMs) bucket).1.tokens

/-- `consumeTokens` where Redis has its own clock. -/
def consumeClocked (key : String) (call : ClockedCall) (bucket : Option BucketHash) : Served × Option BucketHash :=
  match consumeTokens capacity refillTokens refillPeriodMs key call.amount call.nowMs
    (unexpired bucket call.redisMs) with
  | (.error failure, _) => (⟨⟨call.amount, call.nowMs⟩, .error failure⟩, bucket)
  | (.ok result, stored) => (⟨⟨call.amount, call.nowMs⟩, .ok result⟩, stored.map fun hash =>
      { hash with expiresAt := call.redisMs + bucketTtlMs capacity refillTokens refillPeriodMs })

def consumeAllClocked (key : String) : Option BucketHash → List ClockedCall → List Served
  | _, [] => []
  | bucket, call :: calls =>
    let (served, bucket) := consumeClocked capacity refillTokens refillPeriodMs key call bucket
    served :: consumeAllClocked key bucket calls

/-- The node's clock is not behind the stored time, and a key that is gone would hold a full bucket by this clock. -/
structure NotBehind (bucket : Option BucketHash) (call : ClockedCall) : Prop where
  updated : ∀ hash, bucket = some hash → hash.updatedAt ≤ call.nowMs
  expired : ∀ hash, bucket = some hash → hash.expiresAt ≤ call.redisMs →
    capacity ≤ hash.tokens + (call.nowMs - hash.updatedAt) * refillTokens / refillPeriodMs

/-- No call of the sequence is behind what it finds. -/
def NoneBehind (key : String) : Option BucketHash → List ClockedCall → Prop
  | _, [] => True
  | bucket, call :: calls => NotBehind capacity refillTokens refillPeriodMs bucket call ∧
      NoneBehind key (consumeClocked capacity refillTokens refillPeriodMs key call bucket).2 calls

end Service

@[simp] theorem notBehind_none {capacity refillTokens refillPeriodMs : ℚ} {call : ClockedCall} :
    NotBehind capacity refillTokens refillPeriodMs none call :=
  ⟨fun _ h => (nomatch h), fun _ h => (nomatch h)⟩

@[simp] theorem notBehind_some {capacity refillTokens refillPeriodMs : ℚ} {hash : BucketHash} {call : ClockedCall} :
    NotBehind capacity refillTokens refillPeriodMs (some hash) call ↔ hash.updatedAt ≤ call.nowMs ∧
      (hash.expiresAt ≤ call.redisMs →
        capacity ≤ hash.tokens + (call.nowMs - hash.updatedAt) * refillTokens / refillPeriodMs) := by
  constructor
  · intro h
    exact ⟨h.updated hash rfl, h.expired hash rfl⟩
  · rintro ⟨hupdated, hexpired⟩
    refine ⟨?_, ?_⟩
    · intro _ h
      cases h
      exact hupdated
    · intro _ h
      cases h
      exact hexpired

namespace Settings

variable {settings : Settings}

theorem perTime_mul (elapsed : ℚ) :
    elapsed * settings.rate.perTime = elapsed * settings.refillTokens / settings.refillPeriodMs :=
  (mul_div_assoc ..).symm

theorem availableTokens_eq (nowMs : ℚ) (bucket : Option BucketHash) :
    availableTokens settings.capacity settings.refillTokens settings.refillPeriodMs nowMs bucket =
      (settings.bucketOf bucket).level settings.rate nowMs := by
  have hanswer := settings.consumeTokens_eq "" 0 nowMs bucket
  have hvalid : ¬ (settings.capacity ≤ 0 ∨ settings.refillTokens ≤ 0 ∨ settings.refillPeriodMs ≤ 0) := by
    have h1 := settings.capacity_pos
    have h2 := settings.refillTokens_pos
    have h3 := settings.refillPeriodMs_pos
    rintro (h | h | h) <;> linarith
  unfold consumeTokens answer at hanswer
  rw [if_neg hvalid, sub_zero] at hanswer
  unfold availableTokens
  split at hanswer
  all_goals
    injection hanswer with hresult _
    injection hresult with hresult
    injection hresult

/-- Redis's clock matters only for the expiry of the key. -/
theorem consumeClocked_eq (key : String) (call : ClockedCall) (bucket : Option BucketHash) :
    let found := settings.bucketOf (unexpired bucket call.redisMs)
    let answered := settings.answer call.amount call.nowMs (found.level settings.rate call.nowMs)
    consumeClocked settings.capacity settings.refillTokens settings.refillPeriodMs key call bucket =
      (⟨⟨call.amount, call.nowMs⟩, answered.1⟩,
        answered.2.map fun hash => { hash with expiresAt := call.redisMs + settings.ttlMs }) := by
  intro found answered
  unfold consumeClocked
  rw [settings.consumeTokens_eq]
  show (match answered with | (.error _, _) => _ | (.ok _, _) => _) = _
  have hok : ∃ result, answered.1 = .ok result := by
    show ∃ result, (settings.answer _ _ _).1 = .ok result
    unfold answer
    split
    · exact ⟨_, rfl⟩
    · exact ⟨_, rfl⟩
  obtain ⟨result, hresult⟩ := hok
  rcases answered with ⟨_, stored⟩
  dsimp only at hresult
  subst hresult
  rfl

theorem bucketOf_withExpiry (bucket : Option BucketHash) (expiresAt : ℚ) :
    settings.bucketOf (bucket.map fun hash => { hash with expiresAt := expiresAt }) = settings.bucketOf bucket := by
  cases bucket with
  | none => rfl
  | some hash => rfl

/-- A call that is not behind finds the tokens that it would find if the key had not expired. -/
theorem level_unexpired_of_notBehind {bucket : Option BucketHash} {call : ClockedCall}
    (hvalid : (settings.bucketOf bucket).Valid settings.rate)
    (h : NotBehind settings.capacity settings.refillTokens settings.refillPeriodMs bucket call) :
    (settings.bucketOf (unexpired bucket call.redisMs)).level settings.rate call.nowMs =
      (settings.bucketOf bucket).level settings.rate call.nowMs := by
  cases bucket with
  | none => rfl
  | some hash =>
    by_cases hlive : call.redisMs < hash.expiresAt
    · have hfound : unexpired (some hash) call.redisMs = some hash := Option.filter_some_pos (decide_eq_true hlive)
      rw [hfound]
    · have hgone : unexpired (some hash) call.redisMs = none := Option.filter_some_neg (decide_eq_false hlive)
      have hfull := h.expired hash rfl (not_lt.1 hlive)
      rw [← perTime_mul] at hfull
      have hfull' : settings.rate.capacity ≤ (settings.bucketOf (some hash)).tokens +
          (call.nowMs - (settings.bucketOf (some hash)).updatedAt) * settings.rate.perTime := hfull
      rw [hgone, hvalid.level_eq (h.updated hash rfl), min_eq_left hfull']
      exact TokenBucket.Rate.level_full 0 call.nowMs

section Runs

variable (key : String)

/-- After a call that is not behind, the bucket is the one that the demand leaves. -/
theorem bucketOf_consumeClocked {bucket : Option BucketHash} {call : ClockedCall}
    (hvalid : (settings.bucketOf bucket).Valid settings.rate)
    (h : NotBehind settings.capacity settings.refillTokens settings.refillPeriodMs bucket call) :
    settings.bucketOf
        (consumeClocked settings.capacity settings.refillTokens settings.refillPeriodMs key call bucket).2 =
      ((settings.bucketOf bucket).take settings.rate ⟨call.amount, call.nowMs⟩).2 := by
  rw [consumeClocked_eq, bucketOf_withExpiry, level_unexpired_of_notBehind hvalid h]
  exact bucketOf_answer call.amount call.nowMs bucket

theorem allowed_consumeClocked {bucket : Option BucketHash} {call : ClockedCall}
    (hvalid : (settings.bucketOf bucket).Valid settings.rate)
    (h : NotBehind settings.capacity settings.refillTokens settings.refillPeriodMs bucket call) :
    (consumeClocked settings.capacity settings.refillTokens settings.refillPeriodMs key call bucket).1.allowed =
      ((settings.bucketOf bucket).take settings.rate ⟨call.amount, call.nowMs⟩).1 := by
  rw [consumeClocked_eq, level_unexpired_of_notBehind hvalid h]
  exact allowed_answer ⟨call.amount, call.nowMs⟩ bucket

/-- A sequence in which no call is behind is served as demands on a token bucket. -/
theorem granted_consumeAllClocked {bucket : Option BucketHash} {calls : List ClockedCall}
    (hvalid : (settings.bucketOf bucket).Valid settings.rate) (hamounts : ∀ call ∈ calls, 0 ≤ call.amount)
    (hbehind : NoneBehind settings.capacity settings.refillTokens settings.refillPeriodMs key bucket calls) (s e : ℚ) :
    granted s e
        (consumeAllClocked settings.capacity settings.refillTokens settings.refillPeriodMs key bucket calls) =
      TokenBucket.within s e (TokenBucket.serve settings.rate (settings.bucketOf bucket)
        (calls.map fun call => ⟨call.amount, call.nowMs⟩)) := by
  induction calls generalizing bucket with
  | nil => rfl
  | cons call calls ih =>
    obtain ⟨hcall, hcalls⟩ := hbehind
    have hafter := bucketOf_consumeClocked key hvalid hcall
    have hvalid' : ((settings.bucketOf bucket).take settings.rate ⟨call.amount, call.nowMs⟩).2.Valid settings.rate :=
      hvalid.take (hamounts call (List.mem_cons_self ..))
    rw [← hafter] at hvalid'
    have hrest := ih hvalid' (fun other hother => hamounts other (List.mem_cons_of_mem _ hother)) hcalls
    rw [List.map_cons, TokenBucket.serve, TokenBucket.within_cons, ← hafter, ← hrest,
      ← allowed_consumeClocked key hvalid hcall]
    have hserved : (consumeClocked settings.capacity settings.refillTokens settings.refillPeriodMs key call
        bucket).1.call = ⟨call.amount, call.nowMs⟩ := by
      rw [consumeClocked_eq]
    rw [consumeAllClocked, granted_cons, hserved]

/-- Where no call is behind, the times do not go back. -/
theorem times_of_noneBehind {bucket : Option BucketHash} {calls : List ClockedCall}
    (hbehind : NoneBehind settings.capacity settings.refillTokens settings.refillPeriodMs key bucket calls) :
    (∀ hash, bucket = some hash → ∀ call ∈ calls, hash.updatedAt ≤ call.nowMs) ∧
      calls.Pairwise fun call later => call.nowMs ≤ later.nowMs := by
  induction calls generalizing bucket with
  | nil => exact ⟨fun _ _ _ hmem => absurd hmem List.not_mem_nil, .nil⟩
  | cons call calls ih =>
    obtain ⟨hcall, hcalls⟩ := hbehind
    obtain ⟨hlater, hsorted⟩ := ih hcalls
    have hstored : ∃ hash, (consumeClocked settings.capacity settings.refillTokens settings.refillPeriodMs key call
        bucket).2 = some hash ∧ hash.updatedAt = call.nowMs := by
      rw [consumeClocked_eq]
      unfold answer
      split
      · exact ⟨_, rfl, rfl⟩
      · exact ⟨_, rfl, rfl⟩
    obtain ⟨hash, hhash, hupdated⟩ := hstored
    have hafter : ∀ later ∈ calls, call.nowMs ≤ later.nowMs := by
      intro later hmem
      rw [← hupdated]
      exact hlater hash hhash later hmem
    refine ⟨fun old hold later hmem => ?_, List.pairwise_cons.2 ⟨hafter, hsorted⟩⟩
    rcases List.mem_cons.1 hmem with rfl | hmem
    · exact hcall.updated old hold
    · exact (hcall.updated old hold).trans (hafter later hmem)

end Runs

end Settings

/-- A call that comes before the stored time leaves no more for later if and only if the bucket is full by then anyway,
or the call takes what is gained once more.  While no call is behind, what is granted is bounded. -/
theorem stale_calls_gain {capacity refillTokens refillPeriodMs : ℚ} (hcapacity : 0 < capacity)
    (hrefill : 0 < refillTokens) (hperiod : 0 < refillPeriodMs) (key : String) :
    (∀ (hash : BucketHash) (n₁ n₂ amount : ℚ), 0 ≤ hash.tokens → hash.tokens ≤ capacity →
      n₁ < hash.updatedAt → hash.updatedAt ≤ n₂ →
        (availableTokens capacity refillTokens refillPeriodMs n₂
            (consumeTokens capacity refillTokens refillPeriodMs key amount n₁ (some hash)).2 ≤
          availableTokens capacity refillTokens refillPeriodMs n₂ (some hash) ↔
        capacity ≤ hash.tokens + (n₂ - hash.updatedAt) * refillTokens / refillPeriodMs ∨
          (amount ≤ hash.tokens ∧ (hash.updatedAt - n₁) * refillTokens / refillPeriodMs ≤ amount))) ∧
    (∀ (bucket : Option BucketHash) (calls : List ClockedCall) (s e : ℚ),
      (∀ hash, bucket = some hash → 0 ≤ hash.tokens ∧ hash.tokens ≤ capacity) →
      (∀ call ∈ calls, 0 ≤ call.amount ∧ s ≤ call.nowMs ∧ call.nowMs ≤ e) → s ≤ e →
      NoneBehind capacity refillTokens refillPeriodMs key bucket calls →
        granted s e (consumeAllClocked capacity refillTokens refillPeriodMs key bucket calls) ≤
          capacity + (e - s) * refillTokens / refillPeriodMs) := by
  let settings : Settings := ⟨capacity, refillTokens, refillPeriodMs, hcapacity, hrefill, hperiod⟩
  constructor
  · intro hash n₁ n₂ amount hnonneg hle hback hlater
    have hvalid : (settings.bucketOf (some hash)).Valid settings.rate := ⟨hnonneg, hle⟩
    have hbefore := settings.availableTokens_eq n₂ (some hash)
    have hafter : availableTokens capacity refillTokens refillPeriodMs n₂
        (consumeTokens capacity refillTokens refillPeriodMs key amount n₁ (some hash)).2 =
          ((settings.bucketOf (some hash)).take settings.rate ⟨amount, n₁⟩).2.level settings.rate n₂ := by
      rw [← Settings.bucketOf_answer, ← settings.consumeTokens_eq key]
      exact settings.availableTokens_eq n₂ _
    have hiff := hvalid.level_set_back_le_iff ⟨amount, n₁⟩ hback hlater
    rw [Settings.perTime_mul, Settings.perTime_mul, ← hafter] at hiff
    rw [← hbefore] at hiff
    exact hiff
  · intro bucket calls s e hbucket hcalls hwindow hbehind
    have hvalid : (settings.bucketOf bucket).Valid settings.rate := by
      cases bucket with
      | none => exact TokenBucket.Rate.full_valid 0
      | some hash =>
        obtain ⟨hnonneg, hle⟩ := hbucket hash rfl
        exact ⟨hnonneg, hle⟩
    have hamounts : ∀ demand ∈ calls.map fun call => (⟨call.amount, call.nowMs⟩ : TokenBucket.Demand ℚ),
        0 ≤ demand.amount := by
      intro demand hdemand
      obtain ⟨call, hcall, rfl⟩ := List.mem_map.1 hdemand
      exact (hcalls call hcall).1
    have hsorted : (calls.map fun call => (⟨call.amount, call.nowMs⟩ : TokenBucket.Demand ℚ)).Pairwise
        fun demand later => demand.now ≤ later.now :=
      List.pairwise_map.2 (settings.times_of_noneBehind key hbehind).2
    have hbound := TokenBucket.within_serve_le (s := s) (e := e) hvalid hwindow hamounts hsorted
    rw [← settings.granted_consumeAllClocked key hvalid (fun call hcall => (hcalls call hcall).1) hbehind,
      Settings.perTime_mul] at hbound
    exact hbound

/-- One token a second: a call half a second behind takes what is gained once more, and two calls at the end of a second
are not behind. -/
theorem stale_calls_gain_second :
    (availableTokens 1 1 1000 1250 (consumeTokens 1 1 1000 "rl:test" (1 / 2) 500 (some ⟨1 / 2, 1000, 2000⟩)).2 ≤
        availableTokens 1 1 1000 1250 (some ⟨1 / 2, 1000, 2000⟩) ↔
      (1 : ℚ) ≤ 1 / 2 + (1250 - 1000) * 1 / 1000 ∨ ((1 / 2 : ℚ) ≤ 1 / 2 ∧ ((1000 : ℚ) - 500) * 1 / 1000 ≤ 1 / 2)) ∧
    granted 0 1000 (consumeAllClocked 1 1 1000 "rl:test" none [⟨1, 0, 0⟩, ⟨1, 1000, 999⟩, ⟨1, 1000, 1001⟩]) ≤
      1 + (1000 - 0) * 1 / 1000 := by
  have hfirst : (consumeClocked 1 1 1000 "rl:test" ⟨1, 0, 0⟩ none).2 = some ⟨0, 0, 1000⟩ := by decide +kernel
  have hsecond : (consumeClocked 1 1 1000 "rl:test" ⟨1, 1000, 999⟩ (some ⟨0, 0, 1000⟩)).2 = some ⟨0, 1000, 1999⟩ := by
    decide +kernel
  have hbehind : NoneBehind 1 1 1000 "rl:test" none [⟨1, 0, 0⟩, ⟨1, 1000, 999⟩, ⟨1, 1000, 1001⟩] := by
    refine ⟨notBehind_none, ?_, ?_, trivial⟩
    · rw [hfirst, notBehind_some]
      norm_num
    · rw [hfirst, hsecond, notBehind_some]
      norm_num
  have hclaim := stale_calls_gain (show (0 : ℚ) < 1 by norm_num) (show (0 : ℚ) < 1 by norm_num)
    (show (0 : ℚ) < 1000 by norm_num) "rl:test"
  refine ⟨hclaim.1 ⟨1 / 2, 1000, 2000⟩ 500 1250 (1 / 2) ?_ ?_ ?_ ?_, hclaim.2 none _ 0 1000 ?_ ?_ ?_ hbehind⟩
  · norm_num
  · norm_num
  · norm_num
  · norm_num
  · intro hash hhash
    cases hhash
  · intro call hcall
    simp only [List.mem_cons, List.not_mem_nil, or_false] at hcall
    rcases hcall with rfl | rfl | rfl
    all_goals norm_num
  · norm_num

/-- Clocks a second apart: each call of the slower one finds nothing and sets the bucket back, and three tokens are
granted in a second that has room for two. -/
theorem stale_clock_creates_tokens :
    (availableTokens 1 1 1000 1000 (consumeTokens 1 1 1000 "rl:test" 1 0 (some ⟨0, 1000, 2000⟩)).2 = 1 ∧
      availableTokens 1 1 1000 1000 (some ⟨0, 1000, 2000⟩) = 0) ∧
    granted 0 1000 (consumeAllClocked 1 1 1000 "rl:test" none
        [⟨1, 1000, 1⟩, ⟨1, 0, 2⟩, ⟨1, 1000, 3⟩, ⟨1, 0, 4⟩, ⟨1, 1000, 5⟩]) = 3 ∧
      ¬ (3 : ℚ) ≤ 1 + (1000 - 0) * 1 / 1000 := by
  refine ⟨⟨by decide +kernel, by decide +kernel⟩, by decide +kernel, by norm_num⟩

end RateLimit

end SmsPlatform
