import Mathlib.Algebra.Order.Field.Basic
import Mathlib.Tactic.Linarith
import Mathlib.Tactic.Ring

/-!
# Token buckets

A bucket holds at most `capacity` tokens and gains `perTime` tokens in a unit of time.  A demand takes its amount if
there are as many tokens, and nothing otherwise; either way the bucket is brought up to date.

What is granted in a window of time is bounded by the capacity and the tokens gained in the window (`within_serve_le`):
from the first demand in the window on, the tokens left and the amounts granted grow together by at most `perTime`.  A
bucket that has been left alone for `capacity / perTime` is full (`level_eq_capacity`), so it may as well be forgotten.

A demand that was refused is served after the time in which what was missing is gained, and not before
(`le_level_refused`).  A demand with a time before the last one sets the bucket back, and the time in between is gained
once more (`level_set_back_le_iff`).

The bound holds for whatever is granted under the cover of a bucket (`Bucket.Covers`), such as by a bucket with smaller
settings that change from demand to demand.
-/

namespace TokenBucket

variable {K : Type*} [Field K] [LinearOrder K]

/-- The settings of a bucket. -/
structure Rate (K : Type*) [Field K] [LinearOrder K] where
  capacity : K
  perTime : K
  capacity_pos : 0 < capacity
  perTime_pos : 0 < perTime

structure Bucket (K : Type*) where
  tokens : K
  updatedAt : K

structure Demand (K : Type*) where
  amount : K
  now : K

section Operations

variable (rate : Rate K) (bucket : Bucket K)

/-- The tokens at a time. -/
def Bucket.level (now : K) : K :=
  if bucket.updatedAt < now then min rate.capacity (bucket.tokens + (now - bucket.updatedAt) * rate.perTime)
  else bucket.tokens

def Bucket.take (demand : Demand K) : Bool × Bucket K :=
  let level := bucket.level rate demand.now
  if demand.amount ≤ level then (true, ⟨level - demand.amount, demand.now⟩) else (false, ⟨level, demand.now⟩)

/-- Serve demands one after the other: the demands with their answers. -/
def serve : Bucket K → List (Demand K) → List (Demand K × Bool)
  | _, [] => []
  | bucket, demand :: demands => (demand, (bucket.take rate demand).1) :: serve (bucket.take rate demand).2 demands

/-- A bucket that no one has used. -/
def Rate.full (now : K) : Bucket K := ⟨rate.capacity, now⟩

end Operations

/-- The amount granted in the window from `s` to `e`. -/
def within (s e : K) (served : List (Demand K × Bool)) : K :=
  (served.map fun entry => if entry.2 = true ∧ s ≤ entry.1.now ∧ entry.1.now ≤ e then entry.1.amount else 0).sum

/-- The tokens are between none and the capacity. -/
structure Bucket.Valid (rate : Rate K) (bucket : Bucket K) : Prop where
  nonneg : 0 ≤ bucket.tokens
  le_capacity : bucket.tokens ≤ rate.capacity

variable {rate : Rate K} {bucket : Bucket K}

theorem Rate.full_valid (now : K) : (rate.full now).Valid rate :=
  ⟨rate.capacity_pos.le, le_refl _⟩

theorem Bucket.Valid.level_le_capacity (h : bucket.Valid rate) (now : K) : bucket.level rate now ≤ rate.capacity := by
  unfold level
  split
  · exact min_le_left _ _
  · exact h.le_capacity

variable (rate) in
theorem Bucket.level_le {now : K} (hle : bucket.updatedAt ≤ now) :
    bucket.level rate now ≤ bucket.tokens + (now - bucket.updatedAt) * rate.perTime := by
  unfold level
  split
  · exact min_le_right _ _
  · rename_i hnot
    have hsame : now = bucket.updatedAt := le_antisymm (not_lt.1 hnot) hle
    rw [hsame, sub_self, zero_mul, add_zero]

/-- From its last update on, a bucket holds what it has gained, up to the capacity. -/
theorem Bucket.Valid.level_eq (h : bucket.Valid rate) {now : K} (hle : bucket.updatedAt ≤ now) :
    bucket.level rate now = min rate.capacity (bucket.tokens + (now - bucket.updatedAt) * rate.perTime) := by
  unfold level
  split
  · rfl
  · rename_i hnot
    have hsame : now = bucket.updatedAt := le_antisymm (not_lt.1 hnot) hle
    rw [hsame, sub_self, zero_mul, add_zero, min_eq_right h.le_capacity]

/-- An amount that the bucket can hold is there as soon as it has been gained. -/
theorem Bucket.le_level_iff {amount now : K} (hamount : amount ≤ rate.capacity) (hle : bucket.updatedAt ≤ now) :
    amount ≤ bucket.level rate now ↔ amount ≤ bucket.tokens + (now - bucket.updatedAt) * rate.perTime := by
  unfold level
  split
  · rw [le_min_iff]
    exact and_iff_right hamount
  · rename_i hnot
    have hsame : now = bucket.updatedAt := le_antisymm (not_lt.1 hnot) hle
    rw [hsame, sub_self, zero_mul, add_zero]

variable (rate bucket) in
/-- What is granted comes out of the level. -/
theorem Bucket.take_spec (demand : Demand K) : (bucket.take rate demand).2.updatedAt = demand.now ∧
    (if (bucket.take rate demand).1 = true then demand.amount else 0) + (bucket.take rate demand).2.tokens =
      bucket.level rate demand.now := by
  unfold take
  dsimp only
  split
  · refine ⟨rfl, ?_⟩
    rw [if_pos rfl]
    exact add_sub_cancel _ _
  · refine ⟨rfl, ?_⟩
    rw [if_neg Bool.false_ne_true, zero_add]

theorem within_cons (s e : K) (entry : Demand K × Bool) (served : List (Demand K × Bool)) :
    within s e (entry :: served) =
      (if entry.2 = true ∧ s ≤ entry.1.now ∧ entry.1.now ≤ e then entry.1.amount else 0) + within s e served :=
  List.sum_cons

/-- Nothing is granted in the window after the window. -/
theorem within_of_late {s e : K} {demands : List (Demand K)} (hlate : ∀ demand ∈ demands, e < demand.now) :
    within s e (serve rate bucket demands) = 0 := by
  induction demands generalizing bucket with
  | nil => rfl
  | cons demand demands ih =>
    have hnot : ¬ demand.now ≤ e := not_le.2 (hlate demand (List.mem_cons_self ..))
    rw [serve, within_cons, if_neg fun h => hnot h.2.2, zero_add]
    exact ih fun other hother => hlate other (List.mem_cons_of_mem _ hother)

variable [IsStrictOrderedRing K]

/-- A bucket that no one has used is full at all times. -/
@[simp] theorem Rate.level_full (since now : K) : (rate.full since).level rate now = rate.capacity := by
  unfold Bucket.level
  split
  · rename_i hlater
    have hgain : 0 ≤ (now - since) * rate.perTime := mul_nonneg (sub_nonneg.2 hlater.le) rate.perTime_pos.le
    exact min_eq_left (le_add_of_nonneg_right hgain)
  · rfl

namespace Bucket.Valid

variable (h : bucket.Valid rate)

include h

theorem level_nonneg (now : K) : 0 ≤ bucket.level rate now := by
  unfold level
  split
  · rename_i hlater
    have hgain : 0 ≤ (now - bucket.updatedAt) * rate.perTime :=
      mul_nonneg (sub_nonneg.2 hlater.le) rate.perTime_pos.le
    exact le_min rate.capacity_pos.le (add_nonneg h.nonneg hgain)
  · exact h.nonneg

/-- A bucket left alone for long enough is full. -/
theorem level_eq_capacity {now : K} (hlong : bucket.updatedAt + rate.capacity / rate.perTime ≤ now) :
    bucket.level rate now = rate.capacity := by
  have hpos : 0 < rate.capacity / rate.perTime := div_pos rate.capacity_pos rate.perTime_pos
  have hlater : bucket.updatedAt < now := by linarith
  have hgain : rate.capacity ≤ (now - bucket.updatedAt) * rate.perTime := by
    rw [← div_le_iff₀ rate.perTime_pos]
    linarith
  unfold level
  rw [if_pos hlater]
  refine min_eq_left ?_
  have := h.nonneg
  linarith

theorem take {demand : Demand K} (hamount : 0 ≤ demand.amount) : (bucket.take rate demand).2.Valid rate := by
  have hnonneg := h.level_nonneg demand.now
  have hle := h.level_le_capacity demand.now
  unfold Bucket.take
  dsimp only
  split
  · rename_i hgranted
    exact ⟨sub_nonneg.2 hgranted, by dsimp only; linarith⟩
  · exact ⟨hnonneg, hle⟩

end Bucket.Valid

/-! ### Waiting, and times that go back -/

/-- How long a demand that was refused has to wait. -/
theorem Bucket.le_level_refused (demand : Demand K) (hrefused : bucket.level rate demand.now < demand.amount)
    (hamount : demand.amount ≤ rate.capacity) {wait : K} (hwait : 0 ≤ wait) :
    demand.amount ≤ (bucket.take rate demand).2.level rate (demand.now + wait) ↔
      (demand.amount - bucket.level rate demand.now) / rate.perTime ≤ wait := by
  have hleft : (bucket.take rate demand).2 = ⟨bucket.level rate demand.now, demand.now⟩ := by
    unfold take
    dsimp only
    rw [if_neg (not_le.2 hrefused)]
  have hlater : demand.now ≤ demand.now + wait := le_add_of_nonneg_right hwait
  rw [hleft, Bucket.le_level_iff hamount hlater, div_le_iff₀ rate.perTime_pos, sub_le_iff_le_add]
  dsimp only
  rw [add_sub_cancel_left, add_comm]

/-- After a demand that sets the bucket back, there is no more at a later time than without it if and only if the bucket
is full by then anyway, or the demand takes what is gained once more. -/
theorem Bucket.Valid.level_set_back_le_iff (h : bucket.Valid rate) (demand : Demand K) {now : K}
    (hback : demand.now < bucket.updatedAt) (hlater : bucket.updatedAt ≤ now) :
    (bucket.take rate demand).2.level rate now ≤ bucket.level rate now ↔
      rate.capacity ≤ bucket.tokens + (now - bucket.updatedAt) * rate.perTime ∨
        (demand.amount ≤ bucket.tokens ∧ (bucket.updatedAt - demand.now) * rate.perTime ≤ demand.amount) := by
  have hlevel : bucket.level rate demand.now = bucket.tokens := if_neg (not_lt.2 hback.le)
  have hafter : demand.now < now := hback.trans_le hlater
  have hregained : (now - demand.now) * rate.perTime =
      (now - bucket.updatedAt) * rate.perTime + (bucket.updatedAt - demand.now) * rate.perTime := by ring
  have hgain : 0 < (bucket.updatedAt - demand.now) * rate.perTime := mul_pos (sub_pos.2 hback) rate.perTime_pos
  rw [h.level_eq hlater]
  unfold Bucket.take
  dsimp only
  rw [hlevel]
  split
  · rename_i hgranted
    unfold Bucket.level
    dsimp only
    rw [if_pos hafter, le_min_iff, and_iff_right (min_le_left _ _), min_le_iff, hregained]
    refine or_congr Iff.rfl ⟨fun hle => ⟨hgranted, by linarith⟩, fun hle => by linarith [hle.2]⟩
  · rename_i hrefused
    unfold Bucket.level
    dsimp only
    rw [if_pos hafter, le_min_iff, and_iff_right (min_le_left _ _), min_le_iff, hregained]
    refine or_congr Iff.rfl ⟨fun hle => ?_, fun hle => absurd hle.1 hrefused⟩
    linarith

/-! ### The bound -/

/-- From a bucket that was brought up to date in the window, the rest of the window is granted at most its tokens and
what it gains. -/
theorem within_serve_le_tokens {s e : K} {demands : List (Demand K)} (h : bucket.Valid rate)
    (hupdated : bucket.updatedAt ≤ e) (hamount : ∀ demand ∈ demands, 0 ≤ demand.amount)
    (htime : ∀ demand ∈ demands, bucket.updatedAt ≤ demand.now)
    (hsorted : demands.Pairwise fun demand later => demand.now ≤ later.now) :
    within s e (serve rate bucket demands) ≤ bucket.tokens + (e - bucket.updatedAt) * rate.perTime := by
  induction demands generalizing bucket with
  | nil =>
    have hgain : 0 ≤ (e - bucket.updatedAt) * rate.perTime :=
      mul_nonneg (sub_nonneg.2 hupdated) rate.perTime_pos.le
    exact add_nonneg h.nonneg hgain
  | cons demand demands ih =>
    obtain ⟨hle, hsorted'⟩ := List.pairwise_cons.1 hsorted
    have hfirst := hamount demand (List.mem_cons_self ..)
    have hnow := htime demand (List.mem_cons_self ..)
    by_cases hin : demand.now ≤ e
    · obtain ⟨hat, hspec⟩ := Bucket.take_spec rate bucket demand
      have hlevel := Bucket.level_le rate hnow
      have hrest := ih (h.take hfirst) (hat.symm ▸ hin)
        (fun other hother => hamount other (List.mem_cons_of_mem _ hother))
        (fun other hother => hat.symm ▸ hle other hother) hsorted'
      rw [hat] at hrest
      have hhead : (if (bucket.take rate demand).1 = true ∧ s ≤ demand.now ∧ demand.now ≤ e then demand.amount
          else 0) ≤ if (bucket.take rate demand).1 = true then demand.amount else 0 := by
        split
        · rename_i hgranted
          rw [if_pos hgranted.1]
        · split
          · exact hfirst
          · exact le_refl 0
      rw [serve, within_cons]
      calc _ ≤ (if (bucket.take rate demand).1 = true then demand.amount else 0) +
              ((bucket.take rate demand).2.tokens + (e - demand.now) * rate.perTime) := add_le_add hhead hrest
        _ = bucket.level rate demand.now + (e - demand.now) * rate.perTime := by rw [← add_assoc, hspec]
        _ ≤ bucket.tokens + (demand.now - bucket.updatedAt) * rate.perTime + (e - demand.now) * rate.perTime :=
            add_le_add_left hlevel _
        _ = bucket.tokens + (e - bucket.updatedAt) * rate.perTime := by ring
    · have hlate : ∀ other ∈ demand :: demands, e < other.now := by
        intro other hother
        rcases List.mem_cons.1 hother with rfl | hlater
        · exact not_le.1 hin
        · exact (not_le.1 hin).trans_le (hle other hlater)
      rw [within_of_late hlate]
      have hgain : 0 ≤ (e - bucket.updatedAt) * rate.perTime :=
        mul_nonneg (sub_nonneg.2 hupdated) rate.perTime_pos.le
      exact add_nonneg h.nonneg hgain

/-- The amount granted in any window is at most the capacity and what the bucket gains in the window. -/
theorem within_serve_le {s e : K} {demands : List (Demand K)} (h : bucket.Valid rate) (hwindow : s ≤ e)
    (hamount : ∀ demand ∈ demands, 0 ≤ demand.amount)
    (hsorted : demands.Pairwise fun demand later => demand.now ≤ later.now) :
    within s e (serve rate bucket demands) ≤ rate.capacity + (e - s) * rate.perTime := by
  have hgain : 0 ≤ (e - s) * rate.perTime := mul_nonneg (sub_nonneg.2 hwindow) rate.perTime_pos.le
  induction demands generalizing bucket with
  | nil => exact add_nonneg rate.capacity_pos.le hgain
  | cons demand demands ih =>
    obtain ⟨hle, hsorted'⟩ := List.pairwise_cons.1 hsorted
    have hrest : ∀ other ∈ demands, 0 ≤ other.amount := fun other hother =>
      hamount other (List.mem_cons_of_mem _ hother)
    have htaken := h.take (hamount demand (List.mem_cons_self ..))
    obtain ⟨hat, hspec⟩ := Bucket.take_spec rate bucket demand
    rw [serve, within_cons]
    by_cases hin : s ≤ demand.now ∧ demand.now ≤ e
    · -- the first demand of the window: it finds at most a full bucket
      have htail := within_serve_le_tokens (s := s) (e := e) htaken (hat.symm ▸ hin.2) hrest
        (fun other hother => hat.symm ▸ hle other hother) hsorted'
      rw [hat] at htail
      have hlevel := h.level_le_capacity demand.now
      have hshorter : (e - demand.now) * rate.perTime ≤ (e - s) * rate.perTime :=
        mul_le_mul_of_nonneg_right (by linarith) rate.perTime_pos.le
      have hhead : (if (bucket.take rate demand).1 = true ∧ s ≤ demand.now ∧ demand.now ≤ e then demand.amount
          else 0) = if (bucket.take rate demand).1 = true then demand.amount else 0 := by
        simp only [hin, and_self, and_true]
      dsimp only
      rw [hhead]
      linarith
    · rw [if_neg fun h => hin h.2, zero_add]
      exact ih htaken hrest hsorted'

/-! ### Under a bucket

Demands may be served from something else than a bucket with this rate: one whose settings change from call to call, or
that is forgotten from time to time.  As long as a bucket covers what is there, it could serve whatever is granted, so
that its bound holds. -/

/-- The bucket after the demands. -/
def drain (rate : Rate K) (bucket : Bucket K) (demands : List (Demand K)) : Bucket K :=
  demands.foldl (fun bucket demand => (bucket.take rate demand).2) bucket

omit [IsStrictOrderedRing K] in
theorem serve_append (rate : Rate K) (bucket : Bucket K) (demands later : List (Demand K)) :
    serve rate bucket (demands ++ later) =
      serve rate bucket demands ++ serve rate (drain rate bucket demands) later := by
  induction demands generalizing bucket with
  | nil => rfl
  | cons demand demands ih =>
    rw [List.cons_append, serve, ih]
    rfl

/-- From `since` on the bucket holds at least these tokens and what they gain. -/
structure Bucket.Covers (rate : Rate K) (bucket : Bucket K) (tokens since : K) : Prop where
  valid : bucket.Valid rate
  updatedAt_le : bucket.updatedAt ≤ since
  tokens_le : tokens ≤ bucket.level rate since

theorem Bucket.Valid.level_later (h : bucket.Valid rate) {time now : K} (hle : bucket.updatedAt ≤ time)
    (hlater : time ≤ now) :
    bucket.level rate now = min rate.capacity (bucket.level rate time + (now - time) * rate.perTime) := by
  have hgain : 0 ≤ (now - time) * rate.perTime := mul_nonneg (sub_nonneg.2 hlater) rate.perTime_pos.le
  rw [h.level_eq hle, h.level_eq (hle.trans hlater), ← min_add_add_right, ← min_assoc,
    min_eq_left (le_add_of_nonneg_right hgain)]
  congr 1
  ring

namespace Bucket.Covers

variable {tokens since now : K}

theorem full (since now : K) (hle : since ≤ now) : (rate.full since).Covers rate rate.capacity now :=
  ⟨Rate.full_valid since, hle, le_of_eq (Rate.level_full since now).symm⟩

variable (h : bucket.Covers rate tokens since)

include h

/-- Tokens that are gained no faster, up to no more, stay covered. -/
theorem later {capacity perTime : K} (hcapacity : capacity ≤ rate.capacity) (hperTime : perTime ≤ rate.perTime)
    (hlater : since ≤ now) : bucket.Covers rate (min capacity (tokens + (now - since) * perTime)) now := by
  refine ⟨h.valid, h.updatedAt_le.trans hlater, ?_⟩
  rw [h.valid.level_later h.updatedAt_le hlater]
  apply min_le_min hcapacity
  exact add_le_add h.tokens_le (mul_le_mul_of_nonneg_left hperTime (sub_nonneg.2 hlater))

omit [IsStrictOrderedRing K] in
theorem mono {fewer : K} (hle : fewer ≤ tokens) : bucket.Covers rate fewer since :=
  ⟨h.valid, h.updatedAt_le, hle.trans h.tokens_le⟩

/-- After the time that it takes to fill the bucket, a full one is covered. -/
theorem forgotten (hlong : since + rate.capacity / rate.perTime ≤ now) : bucket.Covers rate rate.capacity now := by
  have hpos : 0 < rate.capacity / rate.perTime := div_pos rate.capacity_pos rate.perTime_pos
  have hlater : since ≤ now := by linarith
  refine ⟨h.valid, h.updatedAt_le.trans hlater, ?_⟩
  have hgain : rate.capacity ≤ (now - since) * rate.perTime := by
    rw [← div_le_iff₀ rate.perTime_pos]
    linarith
  rw [h.valid.level_later h.updatedAt_le hlater]
  have hnonneg := h.valid.level_nonneg since
  exact le_min (le_refl _) (by linarith)

/-- What is granted from the tokens the bucket can serve too, and it covers what is left. -/
theorem take {amount : K} (hamount : 0 ≤ amount) (hgranted : amount ≤ tokens) :
    (bucket.take rate ⟨amount, since⟩).1 = true ∧
      (bucket.take rate ⟨amount, since⟩).2.Covers rate (tokens - amount) since := by
  have hlevel : amount ≤ bucket.level rate since := hgranted.trans h.tokens_le
  have htake : bucket.take rate ⟨amount, since⟩ = (true, ⟨bucket.level rate since - amount, since⟩) := if_pos hlevel
  have hvalid : (bucket.take rate ⟨amount, since⟩).2.Valid rate := h.valid.take hamount
  rw [htake] at hvalid ⊢
  refine ⟨rfl, hvalid, le_refl since, ?_⟩
  have hsame : Bucket.level rate ⟨bucket.level rate since - amount, since⟩ since = bucket.level rate since - amount :=
    if_neg (lt_irrefl since)
  rw [hsame]
  exact sub_le_sub_right h.tokens_le amount

end Bucket.Covers

end TokenBucket
