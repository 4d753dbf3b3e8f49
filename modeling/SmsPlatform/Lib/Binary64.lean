import Mathlib.Algebra.Order.Ring.Nat
import Mathlib.Algebra.Order.Group.Nat
import Mathlib.Tactic.Ring

/-!
# Integers as binary64 numbers

A binary64 number has a significand of 53 bits.  `round` is the number nearest to an integer, ties to the even
significand, for integers far below the largest finite number; every number that is met is an integer again, so numbers
are represented by integers with `round x = x`.  `shortest` is the integer whose decimal text stands for a number: of
those that round to it, the one with the most zeros at the end, and of these the closest.
-/

namespace Binary64

/-! ### Rounding -/

/-- The distance between neighbouring numbers around `m`. -/
def ulp (m : Nat) : Nat := 2 ^ (m.log2 - 52)

def roundNat (m : Nat) : Nat :=
  if 2 * (m % ulp m) < ulp m ∨ (2 * (m % ulp m) = ulp m ∧ m / ulp m % 2 = 0) then m / ulp m * ulp m
  else (m / ulp m + 1) * ulp m

def round (x : Int) : Int :=
  if x < 0 then -(roundNat x.natAbs : Int) else roundNat x.natAbs

theorem ulp_pos (m : Nat) : 0 < ulp m := Nat.pow_pos (by decide)

theorem ulp_of_lt {m : Nat} (h : m < 2 ^ 53) : ulp m = 1 := by
  have hlog : m.log2 ≤ 52 := by
    by_contra hgt
    have hm : m ≠ 0 := by
      rintro rfl
      simp at hgt
    have := (Nat.log2_lt hm).2 h
    omega
  unfold ulp
  rw [Nat.sub_eq_zero_of_le hlog, Nat.pow_zero]

/-- A number that is a multiple of its own distance is represented exactly. -/
theorem roundNat_of_dvd {m : Nat} (h : ulp m ∣ m) : roundNat m = m := by
  have hpos := ulp_pos m
  unfold roundNat
  rw [Nat.mod_eq_zero_of_dvd h, if_pos (.inl (by omega)), Nat.div_mul_cancel h]

theorem roundNat_of_lt {m : Nat} (h : m < 2 ^ 53) : roundNat m = m :=
  roundNat_of_dvd (by rw [ulp_of_lt h]; exact one_dvd m)

theorem le_roundNat (m : Nat) : m / ulp m * ulp m ≤ roundNat m := by
  unfold roundNat
  split
  · exact le_rfl
  · exact Nat.mul_le_mul_right _ (Nat.le_succ _)

theorem roundNat_le (m : Nat) : roundNat m ≤ (m / ulp m + 1) * ulp m := by
  unfold roundNat
  split
  · exact Nat.mul_le_mul_right _ (Nat.le_succ _)
  · exact le_rfl

/-- The significand has at most 53 bits. -/
theorem div_ulp_lt (m : Nat) : m / ulp m < 2 ^ 53 := by
  rw [Nat.div_lt_iff_lt_mul (ulp_pos m)]
  have hlt : m < 2 ^ (m.log2 + 1) := Nat.lt_log2_self
  refine hlt.trans_le ?_
  unfold ulp
  rw [← Nat.pow_add]
  exact Nat.pow_le_pow_right (by decide) (by omega)

/-- A significand of 53 bits before a power of two is represented exactly. -/
theorem roundNat_mul_pow {q : Nat} (hq : q ≤ 2 ^ 53) (e : Nat) : roundNat (q * 2 ^ e) = q * 2 ^ e := by
  refine roundNat_of_dvd ?_
  unfold ulp
  rcases Nat.lt_or_eq_of_le hq with hlt | rfl
  · refine Dvd.dvd.mul_left (Nat.pow_dvd_pow 2 ?_) q
    by_cases hzero : q * 2 ^ e = 0
    · rw [hzero, Nat.log2_zero]
      omega
    · have hlog : (q * 2 ^ e).log2 < 53 + e := by
        rw [Nat.log2_lt hzero, Nat.pow_add]
        exact Nat.mul_lt_mul_of_pos_right hlt (Nat.pow_pos (by decide))
      omega
  · rw [← Nat.pow_add, Nat.log2_two_pow]
    exact Nat.pow_dvd_pow 2 (by omega)

/-- Rounding yields a number. -/
theorem roundNat_idem (m : Nat) : roundNat (roundNat m) = roundNat m := by
  have hlt := div_ulp_lt m
  have hcases : roundNat m = m / ulp m * ulp m ∨ roundNat m = (m / ulp m + 1) * ulp m := by
    unfold roundNat
    split
    · exact .inl rfl
    · exact .inr rfl
  rcases hcases with h | h
  · rw [h]
    exact roundNat_mul_pow hlt.le _
  · rw [h]
    exact roundNat_mul_pow hlt _

/-- Two integers with the same distance are rounded in order. -/
private theorem roundNat_mono_of_ulp {m n : Nat} (hmn : m ≤ n) (hulp : ulp m = ulp n) : roundNat m ≤ roundNat n := by
  have hpos := ulp_pos n
  have hdiv : m / ulp n ≤ n / ulp n := Nat.div_le_div_right hmn
  rcases Nat.lt_or_eq_of_le hdiv with hlt | heq
  · have hm := roundNat_le m
    have hn := le_roundNat n
    rw [hulp] at hm
    exact hm.trans ((Nat.mul_le_mul_right _ hlt).trans hn)
  · -- the same significand below: the remainders decide
    have hm := Nat.div_add_mod m (ulp n)
    have hn := Nat.div_add_mod n (ulp n)
    rw [heq] at hm
    have hmod : m % ulp n ≤ n % ulp n := by omega
    unfold roundNat
    rw [hulp, heq]
    by_cases hup : 2 * (n % ulp n) < ulp n ∨ (2 * (n % ulp n) = ulp n ∧ n / ulp n % 2 = 0)
    · rw [if_pos hup, if_pos]
      rcases hup with hup | ⟨htie, heven⟩
      · exact .inl (by omega)
      · rcases Nat.lt_or_eq_of_le hmod with hlt | hmod
        · exact .inl (by omega)
        · exact .inr ⟨by omega, heven⟩
    · rw [if_neg hup]
      split
      · exact Nat.mul_le_mul_right _ (Nat.le_succ _)
      · exact le_rfl

theorem roundNat_mono {m n : Nat} (hmn : m ≤ n) : roundNat m ≤ roundNat n := by
  by_cases hn : n = 0
  · obtain rfl : m = n := by omega
    exact le_rfl
  by_cases hm : m = 0
  · rw [hm, roundNat_of_lt (by decide : 0 < 2 ^ 53)]
    exact Nat.zero_le _
  have hlog : m.log2 ≤ n.log2 := (Nat.le_log2 hn).2 ((Nat.log2_self_le hm).trans hmn)
  by_cases hexp : m.log2 - 52 = n.log2 - 52
  · exact roundNat_mono_of_ulp hmn (by unfold ulp; rw [hexp])
  · -- a power of two stands between the two results
    have hbelow : roundNat m ≤ 2 ^ n.log2 := by
      have hle : (m / ulp m + 1) * ulp m ≤ 2 ^ 53 * ulp m := Nat.mul_le_mul_right _ (div_ulp_lt m)
      refine (roundNat_le m).trans (hle.trans ?_)
      unfold ulp
      rw [← Nat.pow_add]
      exact Nat.pow_le_pow_right (by decide) (by omega)
    have habove : 2 ^ n.log2 ≤ roundNat n := by
      refine le_trans ?_ (le_roundNat n)
      have hself := Nat.log2_self_le hn
      have hsplit : 2 ^ n.log2 = 2 ^ 52 * ulp n := by
        unfold ulp
        rw [← Nat.pow_add]
        congr 1
        omega
      rw [hsplit] at hself ⊢
      exact Nat.mul_le_mul_right _ ((Nat.le_div_iff_mul_le (ulp_pos n)).2 hself)
    exact hbelow.trans habove

/-- Rounding does not reach twice a positive integer. -/
theorem roundNat_lt_two_mul {m : Nat} (hm : 0 < m) : roundNat m < 2 * m := by
  by_cases hsmall : m < 2 ^ 53
  · rw [roundNat_of_lt hsmall]
    omega
  · have hlog : 53 ≤ m.log2 := (Nat.le_log2 (by omega)).2 (by omega)
    have hself := Nat.log2_self_le (by omega : m ≠ 0)
    have hulp : 2 * ulp m ≤ m := by
      refine le_trans ?_ hself
      unfold ulp
      rw [← Nat.pow_succ']
      exact Nat.pow_le_pow_right (by decide) (by omega)
    have hle := roundNat_le m
    have hmul := Nat.div_mul_le_self m (ulp m)
    have hpos := ulp_pos m
    rw [Nat.add_mul, Nat.one_mul] at hle
    omega

/-! ### The text of a number -/

/-- The closest multiple of `10 ^ j` that rounds to `x`, if one of the two around `x` does; of two equally close ones
the even multiple. -/
def candidate (x j : Nat) : Option Nat :=
  let below := x / 10 ^ j * 10 ^ j
  let above := below + 10 ^ j
  let closer := decide (x - below < above - x ∨ (x - below = above - x ∧ x / 10 ^ j % 2 = 0))
  if roundNat below = x ∧ (closer = true ∨ roundNat above ≠ x) then some below
  else if roundNat above = x then some above
  else none

def shortestNat (x : Nat) : Nat := ((List.range 21).reverse.findSome? (candidate x)).getD x

def shortest (x : Int) : Int :=
  if x < 0 then -(shortestNat x.natAbs : Int) else shortestNat x.natAbs

theorem roundNat_of_candidate {x j c : Nat} (h : candidate x j = some c) : roundNat c = x := by
  unfold candidate at h
  dsimp only at h
  split at h
  · rename_i hbelow
    cases h
    exact hbelow.1
  · split at h
    · rename_i habove
      cases h
      exact habove
    · cases h

/-- The text of a number denotes an integer that rounds to it. -/
theorem roundNat_shortestNat {x : Nat} (hx : roundNat x = x) : roundNat (shortestNat x) = x := by
  unfold shortestNat
  cases h : (List.range 21).reverse.findSome? (candidate x) with
  | none => exact hx
  | some c =>
    obtain ⟨j, -, hc⟩ := List.exists_of_findSome?_eq_some h
    exact roundNat_of_candidate hc

theorem shortestNat_of_lt {x : Nat} (hx : x < 2 ^ 53) : shortestNat x = x := by
  have hround := roundNat_shortestNat (roundNat_of_lt hx)
  by_contra hne
  by_cases hsmall : shortestNat x < 2 ^ 53
  · exact hne ((roundNat_of_lt hsmall).symm.trans hround)
  · have hmono := roundNat_mono (Nat.le_of_not_lt hsmall)
    have hpow : roundNat (2 ^ 53) = 2 ^ 53 := roundNat_mul_pow (q := 1) (by decide) 53
    omega

/-! ### Signs -/

theorem round_neg (x : Int) : round (-x) = -round x := by
  unfold round
  rw [Int.natAbs_neg]
  by_cases hzero : x = 0
  · subst hzero
    rfl
  · by_cases hneg : x < 0
    · rw [if_neg (by omega), if_pos hneg]
      omega
    · rw [if_pos (by omega), if_neg hneg]

theorem round_natCast (m : Nat) : round m = roundNat m := by
  unfold round
  rw [if_neg (by omega), Int.natAbs_natCast]

theorem round_nonneg {x : Int} (hx : 0 ≤ x) : 0 ≤ round x := by
  obtain ⟨m, rfl⟩ := Int.eq_ofNat_of_zero_le hx
  rw [round_natCast]
  omega

theorem round_mono {x y : Int} (hxy : x ≤ y) : round x ≤ round y := by
  by_cases hx : 0 ≤ x
  · obtain ⟨m, rfl⟩ := Int.eq_ofNat_of_zero_le hx
    obtain ⟨n, rfl⟩ := Int.eq_ofNat_of_zero_le (hx.trans hxy)
    rw [round_natCast, round_natCast]
    exact Int.ofNat_le.2 (roundNat_mono (Int.ofNat_le.1 hxy))
  · obtain ⟨m, hm⟩ := Int.eq_ofNat_of_zero_le (by omega : 0 ≤ -x)
    obtain rfl : x = -(m : Int) := by omega
    by_cases hy : 0 ≤ y
    · have hnonneg := round_nonneg hy
      rw [round_neg, round_natCast]
      omega
    · obtain ⟨n, hn⟩ := Int.eq_ofNat_of_zero_le (by omega : 0 ≤ -y)
      obtain rfl : y = -(n : Int) := by omega
      have hmono := roundNat_mono (by omega : n ≤ m)
      rw [round_neg, round_neg, round_natCast, round_natCast]
      omega

theorem round_idem (x : Int) : round (round x) = round x := by
  by_cases hx : 0 ≤ x
  · obtain ⟨m, rfl⟩ := Int.eq_ofNat_of_zero_le hx
    rw [round_natCast, round_natCast, roundNat_idem]
  · obtain ⟨m, hm⟩ := Int.eq_ofNat_of_zero_le (by omega : 0 ≤ -x)
    obtain rfl : x = -(m : Int) := by omega
    rw [round_neg, round_neg, round_natCast, round_natCast, roundNat_idem]

theorem round_of_natAbs_lt {x : Int} (hx : x.natAbs < 2 ^ 53) : round x = x := by
  unfold round
  rw [roundNat_of_lt hx]
  split <;> omega

theorem shortest_of_natAbs_lt {x : Int} (hx : x.natAbs < 2 ^ 53) : shortest x = x := by
  unfold shortest
  rw [shortestNat_of_lt hx]
  split <;> omega

theorem round_shortest {x : Int} (hx : round x = x) : round (shortest x) = x := by
  unfold shortest
  by_cases hneg : x < 0
  · have hnat : roundNat x.natAbs = x.natAbs := by
      unfold round at hx
      rw [if_pos hneg] at hx
      omega
    rw [if_pos hneg, round_neg, round_natCast, roundNat_shortestNat hnat]
    omega
  · have hnat : roundNat x.natAbs = x.natAbs := by
      unfold round at hx
      rw [if_neg hneg] at hx
      omega
    rw [if_neg hneg, round_natCast, roundNat_shortestNat hnat]
    omega

end Binary64
