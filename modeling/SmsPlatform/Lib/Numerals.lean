import SmsPlatform.Lib.Decimal
import Mathlib.Data.List.TakeWhile
import Mathlib.Data.Rat.Floor
import Mathlib.Tactic.NormNum

/-!
# Numbers written in a text

The number that JavaScript reads from a text (`toNumber`, the StringToNumber of ECMAScript): white space around it is
skipped, nothing is zero, and otherwise it is a decimal literal with an optional sign or a literal of base 16, 8 or 2
without one.  What has been read is rounded to binary64 (`toBinary64`); whole numbers below `2 ^ 53` stay what they are
(`toNumber_digits`).
-/

namespace Numerals

/-- A number of JavaScript. -/
inductive Number
  | nan
  | infinite (negative : Bool)
  | finite (value : ℚ)
  deriving DecidableEq

/-! ### Rounding -/

/-- The exponent of the last binary place of a positive number. -/
def ulpExponent (m : ℚ) : ℤ :=
  let e : ℤ := m.num.natAbs.log2 - m.den.log2
  max ((if m < 2 ^ e then e - 1 else e) - 52) (-1074)

def roundHalfEven (q : ℚ) : ℤ :=
  if 1 / 2 < q - ⌊q⌋ ∨ (q - ⌊q⌋ = 1 / 2 ∧ ⌊q⌋ % 2 = 1) then ⌊q⌋ + 1 else ⌊q⌋

def toBinary64 (x : ℚ) : Number :=
  if x = 0 then .finite 0
  else
    let ulp : ℚ := 2 ^ ulpExponent |x|
    let value := roundHalfEven (|x| / ulp) * ulp
    if 2 ^ 1024 ≤ value then .infinite (decide (x < 0)) else .finite (if x < 0 then -value else value)

/-! ### Literals -/

/-- WhiteSpace and LineTerminator. -/
def isSpace (c : Char) : Bool :=
  c.toNat ∈ [0x9, 0xA, 0xB, 0xC, 0xD, 0x20, 0xA0, 0x1680, 0x2028, 0x2029, 0x202F, 0x205F, 0x3000, 0xFEFF] ||
    decide (0x2000 ≤ c.toNat ∧ c.toNat ≤ 0x200A)

def strip (s : List Char) : List Char := ((s.dropWhile isSpace).reverse.dropWhile isSpace).reverse

def digitValue (c : Char) : Option Nat :=
  if c.isDigit then some (c.toNat - '0'.toNat)
  else if 'a' ≤ c ∧ c ≤ 'f' then some (c.toNat - 'a'.toNat + 10)
  else if 'A' ≤ c ∧ c ≤ 'F' then some (c.toNat - 'A'.toNat + 10)
  else none

/-- The digits of a literal with a prefix. -/
def baseLiteral (base : Nat) (s : List Char) : Number :=
  match s.mapM fun c => (digitValue c).filter fun d => decide (d < base) with
  | some (d :: ds) => toBinary64 ((d :: ds).foldl (fun n d => base * n + d) 0 : Nat)
  | _ => .nan

def exponentPart : List Char → Option ℤ
  | [] => some 0
  | c :: rest =>
    if c = 'e' ∨ c = 'E' then
      match rest with
      | '+' :: ds => (Decimal.parseNat ds).map fun n => (n : ℤ)
      | _ => Decimal.parse rest
    else none

/-- Digits with a point among them or not, and an exponent or none. -/
def unsignedDecimal (s : List Char) : Option ℚ :=
  let (whole, rest) := s.span Char.isDigit
  let (fraction, rest) := match rest with
    | '.' :: rest => rest.span Char.isDigit
    | _ => ([], rest)
  if whole = [] ∧ fraction = [] then none
  else (exponentPart rest).map fun e => (Decimal.value (whole ++ fraction) : ℚ) * (10 : ℚ) ^ (e - (fraction.length : ℤ))

def decimalLiteral (s : List Char) : Number :=
  let (negative, unsigned) := match s with
    | '-' :: rest => (true, rest)
    | '+' :: rest => (false, rest)
    | _ => (false, s)
  if unsigned = "Infinity".toList then .infinite negative
  else
    match unsignedDecimal unsigned with
    | some x => toBinary64 (if negative then -x else x)
    | none => .nan

def toNumber (s : List Char) : Number :=
  match strip s with
  | [] => .finite 0
  | '0' :: 'x' :: ds => baseLiteral 16 ds
  | '0' :: 'X' :: ds => baseLiteral 16 ds
  | '0' :: 'o' :: ds => baseLiteral 8 ds
  | '0' :: 'O' :: ds => baseLiteral 8 ds
  | '0' :: 'b' :: ds => baseLiteral 2 ds
  | '0' :: 'B' :: ds => baseLiteral 2 ds
  | literal => decimalLiteral literal

example : toNumber " 0x1F ".toList = .finite 31 ∧ toNumber "-1.5e1".toList = .finite (-15) ∧
    toNumber "2.0000000000000000001".toList = .finite 2 ∧ toNumber "1e400".toList = .infinite false ∧
    toNumber "1_000".toList = .nan := by decide +kernel

/-! ### Whole numbers -/

theorem roundHalfEven_intCast (k : ℤ) : roundHalfEven k = k := by
  unfold roundHalfEven
  rw [Int.floor_intCast, sub_self]
  norm_num

/-- A whole number below `2 ^ 53` is represented exactly. -/
theorem toBinary64_natCast {n : Nat} (h : n < 2 ^ 53) : toBinary64 n = .finite n := by
  by_cases hzero : n = 0
  · subst hzero
    rfl
  have hpos : (0 : ℚ) < n := by exact_mod_cast Nat.pos_of_ne_zero hzero
  have hlog : n.log2 < 53 := (Nat.log2_lt hzero).2 h
  have hexp : ulpExponent (n : ℚ) = max ((n.log2 : ℤ) - 52) (-1074) := by
    have hnot : ¬ (n : ℚ) < 2 ^ ((n.log2 : ℤ) - (0 : ℤ)) := by
      rw [sub_zero, zpow_natCast, not_lt]
      exact_mod_cast Nat.log2_self_le hzero
    unfold ulpExponent
    rw [Rat.num_natCast, Rat.den_natCast, Int.natAbs_natCast, show Nat.log2 1 = 0 from rfl, Nat.cast_zero]
    dsimp only
    rw [if_neg hnot, sub_zero]
  obtain ⟨k, hk⟩ : ∃ k : ℕ, ulpExponent (n : ℚ) = -(k : ℤ) := ⟨(-ulpExponent (n : ℚ)).toNat, by rw [hexp]; omega⟩
  have hscaled : (n : ℚ) / 2 ^ (-(k : ℤ)) = ((n * 2 ^ k : ℤ) : ℚ) := by
    rw [zpow_neg, zpow_natCast, div_inv_eq_mul]
    push_cast
    rfl
  have hvalue : (roundHalfEven ((n : ℚ) / 2 ^ (-(k : ℤ))) : ℚ) * 2 ^ (-(k : ℤ)) = n := by
    rw [hscaled, roundHalfEven_intCast, ← hscaled]
    exact div_mul_cancel₀ _ (zpow_ne_zero _ two_ne_zero)
  have hbound : ¬ (2 : ℚ) ^ 1024 ≤ n := by
    have hpow : (2 : ℚ) ^ 53 ≤ 2 ^ 1024 := pow_le_pow_right₀ one_le_two (by decide)
    have hlt : (n : ℚ) < 2 ^ 53 := by exact_mod_cast h
    exact not_le.2 (hlt.trans_le hpow)
  unfold toBinary64
  rw [if_neg hpos.ne', abs_of_pos hpos, hk]
  dsimp only
  rw [hvalue, if_neg hbound, if_neg (not_lt.2 hpos.le)]

theorem isSpace_of_isDigit {c : Char} (h : c.isDigit = true) : isSpace c = false := by
  obtain ⟨hlow, hhigh⟩ := Decimal.digit_bounds h
  unfold isSpace
  rw [Bool.or_eq_false_iff, decide_eq_false_iff_not, decide_eq_false_iff_not]
  constructor
  · simp only [List.mem_cons, List.not_mem_nil, or_false]
    omega
  · omega

theorem dropWhile_isSpace {s : List Char} (h : Decimal.AllDigits s) : s.dropWhile isSpace = s := by
  cases s with
  | nil => rfl
  | cons c s =>
    have hc := isSpace_of_isDigit (h c (List.mem_cons_self ..))
    exact List.dropWhile_cons_of_neg (by rw [hc]; exact Bool.false_ne_true)

theorem strip_of_allDigits {s : List Char} (h : Decimal.AllDigits s) : strip s = s := by
  unfold strip
  rw [dropWhile_isSpace h, dropWhile_isSpace fun c hc => h c (List.mem_reverse.1 hc), List.reverse_reverse]

theorem decimalLiteral_digits {n : Nat} (h : n < 2 ^ 53) : decimalLiteral (Decimal.digits n) = .finite n := by
  have hdigits := Decimal.allDigits_digits n
  have hne := Decimal.digits_ne_nil n
  have hunsigned : unsignedDecimal (Decimal.digits n) = some (n : ℚ) := by
    have hspan : (Decimal.digits n).span Char.isDigit = (Decimal.digits n, []) := by
      rw [List.span_eq_takeWhile_dropWhile, List.takeWhile_eq_self_iff.2 hdigits, List.dropWhile_eq_nil_iff.2 hdigits]
    unfold unsignedDecimal
    rw [hspan]
    dsimp only
    rw [if_neg fun hempty => hne hempty.1, List.append_nil, Decimal.value_digits]
    simp [exponentPart]
  unfold decimalLiteral
  split
  rename_i negative unsigned hsign
  -- a digit is neither a sign nor the first letter of `Infinity`
  have hsame : negative = false ∧ unsigned = Decimal.digits n := by
    split at hsign
    · rename_i rest hminus
      rw [hminus] at hdigits
      exact absurd (hdigits '-' (List.mem_cons_self ..)) (by decide)
    · rename_i rest hplus
      rw [hplus] at hdigits
      exact absurd (hdigits '+' (List.mem_cons_self ..)) (by decide)
    · cases hsign
      exact ⟨rfl, rfl⟩
  obtain ⟨rfl, rfl⟩ := hsame
  have hfinite : Decimal.digits n ≠ "Infinity".toList := by
    intro heq
    rw [heq] at hdigits
    exact absurd (hdigits 'I' (by decide)) (by decide)
  rw [if_neg hfinite, hunsigned]
  exact toBinary64_natCast h

/-- The decimal text of a whole number below `2 ^ 53` is read as this number. -/
theorem toNumber_digits {n : Nat} (h : n < 2 ^ 53) : toNumber (Decimal.digits n) = .finite n := by
  have hdigits := Decimal.allDigits_digits n
  have hne := Decimal.digits_ne_nil n
  have hsecond : ∀ {c d : Char} {ds : List Char}, Decimal.digits n = c :: d :: ds → d.isDigit = true := by
    intro c d ds heq
    rw [heq] at hdigits
    exact hdigits d (by simp)
  unfold toNumber
  rw [strip_of_allDigits hdigits]
  split
  · rename_i hnil
    exact absurd hnil hne
  · rename_i heq
    exact absurd (hsecond heq) (by decide)
  · rename_i heq
    exact absurd (hsecond heq) (by decide)
  · rename_i heq
    exact absurd (hsecond heq) (by decide)
  · rename_i heq
    exact absurd (hsecond heq) (by decide)
  · rename_i heq
    exact absurd (hsecond heq) (by decide)
  · rename_i heq
    exact absurd (hsecond heq) (by decide)
  · exact decimalLiteral_digits h

end Numerals
