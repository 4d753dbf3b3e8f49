import SmsPlatform.Redis.RateLimit

/-!
# When to come back

The `retry_after_ms` of a refused call.  The refused call stores the tokens that it found, with its own time, so the
next call for the same amount is granted as soon as the missing tokens have been gained: `retryAfter_tight` says that
the reply is the first whole millisecond at which this is so, whether the key has expired by then or not.
-/

namespace SmsPlatform

namespace RateLimit

namespace Settings

variable {settings : Settings}

@[simp] theorem allowed_of_answer (amount nowMs level : ℚ) :
    (settings.answer amount nowMs level).1.map TokenBucketResult.allowed = .ok (decide (amount ≤ level)) := by
  unfold answer
  split
  · rename_i hgranted
    rw [decide_eq_true hgranted]
    rfl
  · rename_i hrefused
    rw [decide_eq_false hrefused]
    rfl

theorem valid_unexpired {bucket : Option BucketHash}
    (hbucket : ∀ hash, bucket = some hash → 0 ≤ hash.tokens ∧ hash.tokens ≤ settings.capacity) (nowMs : ℚ) :
    (settings.bucketOf (unexpired bucket nowMs)).Valid settings.rate := by
  cases h : unexpired bucket nowMs with
  | none => exact TokenBucket.Rate.full_valid 0
  | some hash =>
    obtain ⟨hfound, -⟩ := Option.filter_eq_some_iff.1 h
    obtain ⟨hnonneg, hle⟩ := hbucket hash hfound
    exact ⟨hnonneg, hle⟩

/-- A call that comes `wait` after a refused one. -/
theorem allowed_after_refusal {bucket : Option BucketHash} {amount nowMs : ℚ}
    (hvalid : (settings.bucketOf bucket).Valid settings.rate) (hamount : amount ≤ settings.capacity)
    (hrefused : (settings.bucketOf bucket).level settings.rate nowMs < amount) (key : String) {wait : ℚ}
    (hwait : 0 ≤ wait) :
    let level := (settings.bucketOf bucket).level settings.rate nowMs
    (consumeTokens settings.capacity settings.refillTokens settings.refillPeriodMs key amount (nowMs + wait)
        (unexpired (settings.answer amount nowMs level).2 (nowMs + wait))).1.map TokenBucketResult.allowed =
      .ok (decide ((amount - level) / settings.refillTokens * settings.refillPeriodMs ≤ wait)) := by
  intro level
  have hstored : (settings.answer amount nowMs level).2 = some ⟨level, nowMs, nowMs + settings.ttlMs⟩ := by
    unfold answer
    rw [if_neg (not_le.2 hrefused)]
  have hkept : settings.Kept (some ⟨level, nowMs, nowMs + settings.ttlMs⟩) := by
    refine ⟨⟨hvalid.level_nonneg nowMs, hvalid.level_le_capacity nowMs⟩, ?_⟩
    intro hash hhash
    cases hhash
    rfl
  have htaken : settings.bucketOf (some ⟨level, nowMs, nowMs + settings.ttlMs⟩) =
      ((settings.bucketOf bucket).take settings.rate ⟨amount, nowMs⟩).2 := by
    rw [← hstored]
    exact bucketOf_answer amount nowMs bucket
  have hgained : (amount - level) / settings.rate.perTime =
      (amount - level) / settings.refillTokens * settings.refillPeriodMs := by
    show (amount - level) / (settings.refillTokens / settings.refillPeriodMs) = _
    rw [div_div_eq_mul_div, div_mul_eq_mul_div]
  have hiff := TokenBucket.Bucket.le_level_refused ⟨amount, nowMs⟩ hrefused hamount hwait
  rw [settings.consumeTokens_eq, allowed_of_answer, hstored, hkept.level_unexpired, htaken, ← hgained]
  exact congrArg Except.ok (decide_eq_decide.2 hiff)

end Settings

/-- A refused call is granted after `retry_after_ms`, and not at any whole millisecond before. -/
theorem retryAfter_tight {capacity refillTokens refillPeriodMs : ℚ} (hcapacity : 0 < capacity)
    (hrefill : 0 < refillTokens) (hperiod : 0 < refillPeriodMs) (key : String) {amount : ℚ}
    (hamount : amount ≤ capacity) {bucket : Option BucketHash}
    (hbucket : ∀ hash, bucket = some hash → 0 ≤ hash.tokens ∧ hash.tokens ≤ capacity) {nowMs : ℚ}
    {result : TokenBucketResult} :
    let call := fun (nowMs : ℚ) bucket =>
      consumeTokens capacity refillTokens refillPeriodMs key amount nowMs (unexpired bucket nowMs)
    (call nowMs bucket).1 = .ok result → result.allowed = false →
      ∃ retryAfterMs : ℕ, result.retryAfterMs = retryAfterMs ∧ 1 ≤ retryAfterMs ∧
        (call (nowMs + retryAfterMs) (call nowMs bucket).2).1.map TokenBucketResult.allowed = .ok true ∧
        ∀ j < retryAfterMs, (call (nowMs + j) (call nowMs bucket).2).1.map TokenBucketResult.allowed = .ok false := by
  intro call hresult hdenied
  let settings : Settings := ⟨capacity, refillTokens, refillPeriodMs, hcapacity, hrefill, hperiod⟩
  let found := settings.bucketOf (unexpired bucket nowMs)
  let missingMs := (amount - found.level settings.rate nowMs) / refillTokens * refillPeriodMs
  have hcall : call nowMs bucket = settings.answer amount nowMs (found.level settings.rate nowMs) :=
    settings.consumeTokens_eq key amount nowMs (unexpired bucket nowMs)
  have hvalid : found.Valid settings.rate := Settings.valid_unexpired hbucket nowMs
  have hrefused : found.level settings.rate nowMs < amount := by
    rw [hcall] at hresult
    have hallowed := @Settings.allowed_of_answer settings amount nowMs (found.level settings.rate nowMs)
    rw [hresult] at hallowed
    injection hallowed with hallowed
    rw [hdenied] at hallowed
    exact not_le.1 (of_decide_eq_false hallowed.symm)
  have hretry : result.retryAfterMs = ⌈missingMs⌉ := by
    rw [hcall] at hresult
    unfold Settings.answer at hresult
    rw [if_neg (not_le.2 hrefused)] at hresult
    injection hresult with hresult
    rw [← hresult]
  have hmissing : 0 < missingMs := mul_pos (div_pos (sub_pos.2 hrefused) hrefill) hperiod
  have hceil : 1 ≤ ⌈missingMs⌉ := Int.one_le_ceil_iff.2 hmissing
  have hcast : ((⌈missingMs⌉.toNat : ℕ) : ℤ) = ⌈missingMs⌉ := Int.toNat_of_nonneg (by omega)
  have hlater : ∀ j : ℕ, (call (nowMs + j) (call nowMs bucket).2).1.map TokenBucketResult.allowed =
      .ok (decide (missingMs ≤ j)) := by
    intro j
    rw [hcall]
    exact Settings.allowed_after_refusal hvalid hamount hrefused key (Nat.cast_nonneg j)
  have hwhole : ∀ j : ℕ, missingMs ≤ j ↔ ⌈missingMs⌉.toNat ≤ j := by
    intro j
    have hint : missingMs ≤ j ↔ ⌈missingMs⌉ ≤ (j : ℤ) := by
      rw [Int.ceil_le]
      rfl
    rw [hint]
    omega
  refine ⟨⌈missingMs⌉.toNat, ?_, by omega, ?_, ?_⟩
  · rw [hretry, ← hcast]
    rfl
  · rw [hlater, decide_eq_true ((hwhole _).2 (le_refl _))]
  · intro j hj
    rw [hlater, decide_eq_false fun hle => absurd ((hwhole j).1 hle) (not_le.2 hj)]

/-- Two tokens a second: an empty bucket refuses for half a second. -/
theorem retryAfter_tight_empty :
    let call := fun (nowMs : ℚ) bucket => consumeTokens 2 2 1000 "rl:test" 1 nowMs (unexpired bucket nowMs)
    let bucket : Option BucketHash := some ⟨0, 1000, 2000⟩
    ∃ retryAfterMs : ℕ, (500 : ℚ) = retryAfterMs ∧ 1 ≤ retryAfterMs ∧
      (call (1000 + retryAfterMs) (call 1000 bucket).2).1.map TokenBucketResult.allowed = .ok true ∧
      ∀ j < retryAfterMs, (call (1000 + j) (call 1000 bucket).2).1.map TokenBucketResult.allowed = .ok false :=
  @retryAfter_tight 2 2 1000 (by norm_num) (by norm_num) (by norm_num) "rl:test" 1 (by norm_num) (some ⟨0, 1000, 2000⟩)
    (fun hash hhash => by cases hhash; norm_num) 1000 ⟨false, 0, 500⟩ (by decide +kernel) rfl

end RateLimit

end SmsPlatform
