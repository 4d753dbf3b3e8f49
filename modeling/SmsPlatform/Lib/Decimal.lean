import Mathlib.Data.List.Lex
import Mathlib.Order.Lattice
import Mathlib.Tactic.Ring

/-!
# Decimal texts

The decimal text of an integer (`text`), the integer a text denotes (`parse`), and what happens when texts are treated
as texts: put one behind the other, they denote a number again unless the second has a sign (`parse_text_append`), and
in the lexicographic order they are compared by their leading digits (`digits_lt_iff`).
-/

namespace Decimal

/-- The decimal digits of a natural number. -/
def digits (n : Nat) : List Char := Nat.toDigits 10 n

/-- How many digits `n` has. -/
def len (n : Nat) : Nat := (digits n).length

/-- The number a list of digits denotes. -/
def value (s : List Char) : Nat := Nat.ofDigitChars 10 s 0

/-- The characters are digits. -/
def AllDigits (s : List Char) : Prop := ∀ c ∈ s, c.isDigit = true

instance (s : List Char) : Decidable (AllDigits s) := List.decidableBAll _ s

@[simp] theorem value_digits (n : Nat) : value (digits n) = n := Nat.ofDigitChars_ten_toDigits

theorem allDigits_digits (n : Nat) : AllDigits (digits n) :=
  fun _ hc => Nat.isDigit_of_mem_toDigits (by decide) (by decide) hc

theorem digits_ne_nil (n : Nat) : digits n ≠ [] := Nat.toDigits_ne_nil

theorem len_pos (n : Nat) : 0 < len n := Nat.length_toDigits_pos

theorem value_append (s t : List Char) : value (s ++ t) = value s * 10 ^ t.length + value t := by
  unfold value
  rw [Nat.ofDigitChars_append, Nat.ofDigitChars_eq_ofDigitChars_zero]
  ring

theorem value_cons (c : Char) (s : List Char) : value (c :: s) = (c.toNat - 48) * 10 ^ s.length + value s := by
  have h : value [c] = c.toNat - 48 := by simp [value, Nat.ofDigitChars_cons]
  rw [← h, ← value_append]
  rfl

theorem digit_bounds {c : Char} (h : c.isDigit = true) : 48 ≤ c.toNat ∧ c.toNat ≤ 57 := by
  simp only [Char.isDigit, Bool.and_eq_true, decide_eq_true_eq, UInt32.le_iff_toNat_le, ge_iff_le] at h
  exact h

theorem value_lt {s : List Char} (h : AllDigits s) : value s < 10 ^ s.length := by
  induction s with
  | nil => simp [value]
  | cons c s ih =>
    have hc := digit_bounds (h c (by simp))
    have hs := ih fun d hd => h d (by simp [hd])
    rw [value_cons, List.length_cons, Nat.pow_succ]
    have hle : (c.toNat - 48) * 10 ^ s.length ≤ 9 * 10 ^ s.length := Nat.mul_le_mul_right _ (by omega)
    omega

theorem lt_pow_len (n : Nat) : n < 10 ^ len n := by
  have h := value_lt (allDigits_digits n)
  rwa [value_digits] at h

theorem lt_of_len_lt {m n : Nat} (h : len m < len n) : m < n := by
  by_contra hle
  have hlen : len n ≤ len m :=
    (Nat.length_toDigits_le_iff (by decide) (len_pos m)).2 ((Nat.le_of_not_lt hle).trans_lt (lt_pow_len m))
  omega

/-! ### The lexicographic order -/

/-- Digit texts of one length are ordered as the numbers they denote. -/
theorem lt_iff_value_lt {s t : List Char} (hs : AllDigits s) (ht : AllDigits t) (hlen : s.length = t.length) :
    s < t ↔ value s < value t := by
  induction s generalizing t with
  | nil =>
    cases t with
    | nil => simp
    | cons d t => cases hlen
  | cons c s ih =>
    cases t with
    | nil => cases hlen
    | cons d t =>
      have hlen' : s.length = t.length := by simpa using hlen
      have hs' : AllDigits s := fun x hx => hs x (by simp [hx])
      have ht' : AllDigits t := fun x hx => ht x (by simp [hx])
      have hc := digit_bounds (hs c (by simp))
      have hd := digit_bounds (ht d (by simp))
      have hvs := value_lt hs'
      have hvt := value_lt ht'
      have hlt : c < d ↔ c.toNat < d.toNat := Iff.rfl
      have heq : c = d ↔ c.toNat = d.toNat := Char.toNat_inj.symm
      rw [List.cons_lt_cons_iff, ih hs' ht' hlen', value_cons, value_cons, hlen', hlt, heq]
      rw [hlen'] at hvs
      generalize 10 ^ t.length = p at *
      obtain ⟨x, hx⟩ : ∃ x, c.toNat = 48 + x := ⟨c.toNat - 48, by omega⟩
      obtain ⟨y, hy⟩ : ∃ y, d.toNat = 48 + y := ⟨d.toNat - 48, by omega⟩
      rw [hx, hy, Nat.add_sub_cancel_left, Nat.add_sub_cancel_left]
      constructor
      · rintro (h | ⟨h, hv⟩)
        · have hstep : (x + 1) * p ≤ y * p := Nat.mul_le_mul_right _ (by omega)
          rw [Nat.add_mul, Nat.one_mul] at hstep
          omega
        · have hxy : x = y := by omega
          rw [hxy]
          omega
      · intro h
        rcases Nat.lt_trichotomy x y with hxy | hxy | hxy
        · exact .inl (by omega)
        · exact .inr ⟨by omega, by rw [hxy] at h; omega⟩
        · have hstep : (y + 1) * p ≤ x * p := Nat.mul_le_mul_right _ (by omega)
          rw [Nat.add_mul, Nat.one_mul] at hstep
          omega

/-- A text is compared with a longer one by the part of the same length. -/
theorem lt_append_iff {s t u : List Char} (hlen : s.length = t.length) (hu : u ≠ []) : s < t ++ u ↔ ¬ t < s := by
  induction s generalizing t with
  | nil =>
    obtain rfl : t = [] := List.length_eq_zero_iff.1 hlen.symm
    obtain ⟨c, u, rfl⟩ := List.exists_cons_of_ne_nil hu
    simp
  | cons c s ih =>
    cases t with
    | nil => cases hlen
    | cons d t =>
      have hlen' : s.length = t.length := by simpa using hlen
      rw [List.cons_append, List.cons_lt_cons_iff, ih hlen', List.cons_lt_cons_iff]
      constructor
      · rintro (hlt | ⟨rfl, hnot⟩) (hlt' | ⟨hdc, htail⟩)
        · exact Char.lt_asymm hlt hlt'
        · exact Char.lt_irrefl _ (hdc ▸ hlt)
        · exact Char.lt_irrefl _ hlt'
        · exact hnot htail
      · intro hnot
        by_cases hlt : c < d
        · exact .inl hlt
        · have hdc : ¬ d < c := fun hdc => hnot (.inl hdc)
          have hcd : c = d := Char.le_antisymm (Char.not_lt.1 hdc) (Char.not_lt.1 hlt)
          exact .inr ⟨hcd, fun htail => hnot (.inr ⟨hcd.symm, htail⟩)⟩

theorem append_lt_iff {s t u : List Char} (hlen : s.length = t.length) : s ++ u < t ↔ s < t := by
  induction s generalizing t with
  | nil =>
    obtain rfl : t = [] := List.length_eq_zero_iff.1 hlen.symm
    simp
  | cons c s ih =>
    cases t with
    | nil => cases hlen
    | cons d t =>
      have hlen' : s.length = t.length := by simpa using hlen
      rw [List.cons_append, List.cons_lt_cons_iff, ih hlen', List.cons_lt_cons_iff]

/-- The leading digits of a text denote the quotient by a power of ten. -/
private theorem value_take (s : List Char) (hs : AllDigits s) (k : Nat) :
    value (s.take k) = value s / 10 ^ (s.length - k) := by
  have hdrop : AllDigits (s.drop k) := fun c hc => hs c (List.mem_of_mem_drop hc)
  have hlt := value_lt hdrop
  rw [List.length_drop] at hlt
  have hsplit := value_append (s.take k) (s.drop k)
  rw [List.take_append_drop, List.length_drop] at hsplit
  rw [hsplit, Nat.mul_comm, Nat.mul_add_div (Nat.pow_pos (by decide)), Nat.div_eq_of_lt hlt, Nat.add_zero]

/-- Two decimal texts are compared by their leading digits, as if the shorter number were continued with zeros; when
these are equal the longer text is the greater. -/
theorem digits_lt_iff (m n : Nat) : digits m < digits n ↔
    if len m < len n then m * 10 ^ (len n - len m) ≤ n else ¬ n * 10 ^ (len m - len n) ≤ m := by
  have hm := allDigits_digits m
  have hn := allDigits_digits n
  by_cases hlen : len m < len n
  · rw [if_pos hlen]
    have htake : ((digits n).take (len m)).length = len m := by
      rw [List.length_take]
      exact Nat.min_eq_left hlen.le
    have hdrop : (digits n).drop (len m) ≠ [] := by
      intro h
      have := congrArg List.length h
      rw [List.length_drop] at this
      unfold len at *
      simp at this
      omega
    have hprefix : AllDigits ((digits n).take (len m)) := fun c hc => hn c (List.mem_of_mem_take hc)
    have hvalue := value_take (digits n) hn (len m)
    rw [value_digits] at hvalue
    have hle : ¬ (digits n).take (len m) < digits m ↔ m ≤ value ((digits n).take (len m)) := by
      have horder := lt_iff_value_lt hprefix hm htake
      rw [value_digits] at horder
      exact (not_congr horder).trans Nat.not_lt
    have hsplit : digits m < digits n ↔ digits m < (digits n).take (len m) ++ (digits n).drop (len m) := by
      rw [List.take_append_drop]
    rw [hsplit, lt_append_iff htake.symm hdrop, hle, hvalue, Nat.le_div_iff_mul_le (Nat.pow_pos (by decide))]
    rfl
  · rw [if_neg hlen]
    have hle : len n ≤ len m := Nat.le_of_not_lt hlen
    have htake : ((digits m).take (len n)).length = len n := by
      rw [List.length_take]
      exact Nat.min_eq_left hle
    have hprefix : AllDigits ((digits m).take (len n)) := fun c hc => hm c (List.mem_of_mem_take hc)
    have hvalue := value_take (digits m) hm (len n)
    rw [value_digits] at hvalue
    have hsplit : digits m < digits n ↔ (digits m).take (len n) ++ (digits m).drop (len n) < digits n := by
      rw [List.take_append_drop]
    rw [hsplit, append_lt_iff htake, lt_iff_value_lt hprefix hn htake, value_digits, hvalue, ← not_le,
      Nat.le_div_iff_mul_le (Nat.pow_pos (by decide))]
    rfl

/-! ### Integers -/

/-- The decimal text of an integer. -/
def text (x : Int) : List Char :=
  if x < 0 then '-' :: digits x.natAbs else digits x.natAbs

def parseNat (s : List Char) : Option Nat :=
  if s ≠ [] ∧ AllDigits s then some (value s) else none

/-- The integer a text of digits, with or without a sign in front, denotes. -/
def parse : List Char → Option Int
  | '-' :: s => (parseNat s).map fun n => -(n : Int)
  | s => (parseNat s).map fun n => (n : Int)

theorem parse_minus (s : List Char) : parse ('-' :: s) = (parseNat s).map fun n => -(n : Int) := rfl

theorem parseNat_digits (n : Nat) : parseNat (digits n) = some n := by
  unfold parseNat
  rw [if_pos ⟨digits_ne_nil n, allDigits_digits n⟩, value_digits]

/-- Digits put behind digits. -/
theorem parseNat_append (m n : Nat) : parseNat (digits m ++ digits n) = some (m * 10 ^ len n + n) := by
  unfold parseNat
  have hdigits : AllDigits (digits m ++ digits n) := by
    intro c hc
    rcases List.mem_append.1 hc with hc | hc
    · exact allDigits_digits m c hc
    · exact allDigits_digits n c hc
  rw [if_pos ⟨by simp [digits_ne_nil], hdigits⟩, value_append, value_digits, value_digits]
  rfl

theorem minus_not_digit : ('-' : Char).isDigit = false := rfl

/-- A sign behind digits makes the text no number. -/
theorem parseNat_append_minus (m : Nat) (s : List Char) : parseNat (digits m ++ '-' :: s) = none := by
  unfold parseNat
  rw [if_neg]
  rintro ⟨-, hdigits⟩
  have := hdigits '-' (by simp)
  rw [minus_not_digit] at this
  cases this

/-- A text that starts with a digit is parsed without a sign. -/
private theorem parse_digits_append (m : Nat) (s : List Char) :
    parse (digits m ++ s) = (parseNat (digits m ++ s)).map fun n => (n : Int) := by
  cases h : digits m with
  | nil => exact absurd h (digits_ne_nil m)
  | cons c t =>
    have hc : c.isDigit = true := allDigits_digits m c (by rw [h]; simp)
    have hne : c ≠ '-' := by
      rintro rfl
      cases hc
    unfold parse
    split
    · rename_i u hu
      exact absurd (List.cons.inj hu).1 hne
    · rfl

theorem parse_text (x : Int) : parse (text x) = some x := by
  unfold text
  split
  · rename_i hneg
    rw [parse_minus, parseNat_digits]
    change some (-(x.natAbs : Int)) = some x
    congr 1
    omega
  · rename_i hneg
    have h := parse_digits_append x.natAbs []
    rw [List.append_nil] at h
    rw [h, parseNat_digits]
    change some (x.natAbs : Int) = some x
    congr 1
    omega

/-- The integer that the text of `x` with digits put behind it denotes. -/
def continued (x : Int) (n : Nat) : Int :=
  if x < 0 then -((x.natAbs * 10 ^ len n + n : Nat) : Int) else ((x.natAbs * 10 ^ len n + n : Nat) : Int)

theorem parse_text_append (x : Int) (n : Nat) : parse (text x ++ digits n) = some (continued x n) := by
  unfold text continued
  split
  · rw [List.cons_append, parse_minus, parseNat_append]
    rfl
  · rw [parse_digits_append, parseNat_append]
    rfl

theorem parse_text_append_neg (x : Int) {y : Int} (hy : y < 0) : parse (text x ++ text y) = none := by
  have htext : text y = '-' :: digits y.natAbs := by
    unfold text
    rw [if_pos hy]
  rw [htext]
  unfold text
  split
  · rw [List.cons_append, parse_minus, parseNat_append_minus]
    rfl
  · rw [parse_digits_append, parseNat_append_minus]
    rfl

theorem text_of_nonneg {x : Int} (hx : 0 ≤ x) : text x = digits x.natAbs := by
  unfold text
  rw [if_neg (by omega)]

/-- A sign comes before every digit. -/
theorem text_lt_digits {x : Int} (hx : x < 0) (n : Nat) : text x < digits n := by
  have htext : text x = '-' :: digits x.natAbs := by
    unfold text
    rw [if_pos hx]
  cases h : digits n with
  | nil => exact absurd h (digits_ne_nil n)
  | cons c s =>
    have hc := digit_bounds (allDigits_digits n c (by rw [h]; simp))
    rw [htext, List.cons_lt_cons_iff]
    refine .inl ?_
    show ('-' : Char).toNat < c.toNat
    have : ('-' : Char).toNat = 45 := rfl
    omega

/-- Putting digits behind a number is adding a number of about that size only when there is nothing in front. -/
theorem continued_eq_add_iff {x n : Int} {m : Nat} (hn : n < 2 * m) (hpos : 0 < n) :
    continued x m = x + n ↔ x = 0 ∧ (m : Int) = n := by
  unfold continued
  have hm : m < 10 ^ len m := lt_pow_len m
  by_cases hneg : x < 0
  · rw [if_pos hneg]
    have hge : x.natAbs * 1 ≤ x.natAbs * 10 ^ len m := Nat.mul_le_mul_left _ (Nat.pow_pos (by decide))
    omega
  · rw [if_neg hneg]
    by_cases hzero : x = 0
    · subst hzero
      simp
    · -- the digits in front count at least `m + 1` times
      have hge : x.natAbs * (m + 1) ≤ x.natAbs * 10 ^ len m := Nat.mul_le_mul_left _ hm
      have hone : 1 * m ≤ x.natAbs * m := Nat.mul_le_mul_right _ (by omega)
      rw [Nat.mul_add, Nat.mul_one] at hge
      omega

end Decimal
