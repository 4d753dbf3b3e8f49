import SmsPlatform.Lib.Binary64
import SmsPlatform.Lib.Decimal
import SmsPlatform.Wallet.Ledger

/-!
# The wallet arithmetic in JavaScript

`applyWalletLedger` computes with what the driver returns: node-postgres hands a BIGINT column over as a decimal string,
and the amount is a number at submission and such a string afterwards.  On strings `+` and `+=` put texts together and
`<` compares them as texts; `-` and `-=` go through binary64 numbers.  `applyOperationJs_eq_iff` says on which
balances and amounts the decision and the balances written are nevertheless those of integer arithmetic, the
`applyOperation` of the ledger.
-/

namespace SmsPlatform

open Binary64

/-! ### JavaScript values -/

/-- A number: the integer it is, or NaN.  No other numbers come up. -/
inductive JsNumber
  | nan
  | int (x : Int)
  deriving DecidableEq

inductive JsValue
  | string (s : List Char)
  | number (x : JsNumber)
  deriving DecidableEq

def JsNumber.add : JsNumber → JsNumber → JsNumber
  | .int x, .int y => .int (Binary64.round (x + y))
  | _, _ => .nan

def JsNumber.sub : JsNumber → JsNumber → JsNumber
  | .int x, .int y => .int (Binary64.round (x - y))
  | _, _ => .nan

/-- A comparison with NaN is false. -/
def JsNumber.lt : JsNumber → JsNumber → Bool
  | .int x, .int y => decide (x < y)
  | _, _ => false

def JsNumber.le : JsNumber → JsNumber → Bool
  | .int x, .int y => decide (x ≤ y)
  | _, _ => false

namespace JsValue

/-- ToNumber, on the texts that integers and their concatenations have. -/
def toNumber : JsValue → JsNumber
  | .number x => x
  | .string s =>
    match Decimal.parse s with
    | some x => .int (Binary64.round x)
    | none => .nan

/-- ToString. -/
def toText : JsValue → List Char
  | .string s => s
  | .number .nan => "NaN".toList
  | .number (.int x) => Decimal.text (shortest x)

/-- `v + w`: a concatenation as soon as one of the two is a string. -/
def add : JsValue → JsValue → JsValue
  | .number x, .number y => .number (x.add y)
  | v, w => .string (v.toText ++ w.toText)

/-- `v - w`: always on numbers. -/
def sub (v w : JsValue) : JsValue :=
  .number (v.toNumber.sub w.toNumber)

/-- `v < w`: two strings are compared code unit by code unit, anything else as numbers. -/
def lt : JsValue → JsValue → Bool
  | .string s, .string t => decide (s < t)
  | v, w => v.toNumber.lt w.toNumber

/-- `v <= w`. -/
def le : JsValue → JsValue → Bool
  | .string s, .string t => decide (¬ t < s)
  | v, w => v.toNumber.le w.toNumber

end JsValue

/-! ### The driver and the column type -/

/-- The values of a BIGINT column. -/
def IsBigint (x : Int) : Prop := -(2 ^ 63) ≤ x ∧ x < 2 ^ 63

instance (x : Int) : Decidable (IsBigint x) := inferInstanceAs (Decidable (_ ∧ _))

/-- A BIGINT column as the driver returns it. -/
def bigintColumn (x : Int) : JsValue := .string (Decimal.text x)

/-- The BIGINT that PostgreSQL reads from a query parameter. -/
def bigintOf (v : JsValue) : Except Failure Int :=
  match Decimal.parse v.toText with
  | some x => if IsBigint x then .ok x else .error (.error "value out of range for type bigint")
  | none => .error (.error "invalid input syntax for type bigint")

/-! ### The code -/

/-- The amount as the callers pass it: the number of the submission, or `message.price_minor` as read from its row. -/
def amountOf : BillingOperation → Int → JsValue
  | .reserve, amountMinor => .number (.int amountMinor)
  | .debit, amountMinor => bigintColumn amountMinor
  | .release, amountMinor => bigintColumn amountMinor

/-- The sufficiency test, and `availableAfter` and `reservedAfter`. -/
def balancesAfterJs (operation : BillingOperation) (wallet : WalletRow) (amountMinor : JsValue) :
    Except Failure (JsValue × JsValue) :=
  let availableBalanceMinor := bigintColumn wallet.availableBalanceMinor
  let reservedBalanceMinor := bigintColumn wallet.reservedBalanceMinor
  let creditLimitMinor := bigintColumn wallet.creditLimitMinor
  match operation with
  | .reserve =>
    let availableWithCredit := availableBalanceMinor.add creditLimitMinor
    if availableWithCredit.lt amountMinor then .error (.forbidden "Insufficient wallet balance")
    else .ok (availableBalanceMinor.sub amountMinor, reservedBalanceMinor.add amountMinor)
  | .debit =>
    if reservedBalanceMinor.lt amountMinor then
      .error (.conflict "Reserved wallet balance is insufficient for debit")
    else .ok (availableBalanceMinor, reservedBalanceMinor.sub amountMinor)
  | .release =>
    if reservedBalanceMinor.lt amountMinor then
      .error (.conflict "Reserved wallet balance is insufficient for release")
    else .ok (availableBalanceMinor.add amountMinor, reservedBalanceMinor.sub amountMinor)

/-- The UPDATE of the two balances. -/
def writeBalances (balances : JsValue × JsValue) : Except Failure (Option (Int × Int)) := do
  let available ← bigintOf balances.1
  let reserved ← bigintOf balances.2
  return some (available, reserved)

/-- The available and the reserved balance that `applyWalletLedger` writes; `none` when it returns early. -/
def applyOperationJs (operation : BillingOperation) (wallet : WalletRow) (amountMinor : JsValue) :
    Except Failure (Option (Int × Int)) :=
  if amountMinor.le (.number (.int 0)) then .ok none
  else (balancesAfterJs operation wallet amountMinor).bind writeBalances

/-- The same in integer arithmetic. -/
def applyOperationInt (operation : BillingOperation) (wallet : WalletRow) (amountMinor : Int) :
    Except Failure (Option (Int × Int)) :=
  if amountMinor ≤ 0 then .ok none
  else (applyOperation operation wallet amountMinor).map fun after =>
    some (after.availableBalanceMinor, after.reservedBalanceMinor)

/-! ### When the two agree -/

/-- The texts of `m` and `n` are ordered as the numbers: of two numbers with different numbers of digits the shorter one,
continued with zeros to the length of the other, is still not the greater. -/
def SameOrder (m n : Nat) : Prop :=
  (Decimal.len m < Decimal.len n → m * 10 ^ (Decimal.len n - Decimal.len m) ≤ n) ∧
    (Decimal.len n < Decimal.len m → n * 10 ^ (Decimal.len m - Decimal.len n) ≤ m)

instance (m n : Nat) : Decidable (SameOrder m n) := inferInstanceAs (Decidable (_ ∧ _))

/-- The difference of the binary64 numbers next to `x` and `y` is written as `x - y`. -/
def ExactDifference (x y : Int) : Prop :=
  Binary64.round (Binary64.round x - Binary64.round y) = Binary64.round (x - y) ∧
    shortest (Binary64.round (x - y)) = x - y

instance (x y : Int) : Decidable (ExactDifference x y) := inferInstanceAs (Decidable (_ ∧ _))

/-- When the available balance multiplied by a power of ten, which is what the text of the credit limit behind it
amounts to, leads to the same decision as the balance itself. -/
def CreditAgrees (available creditLimit amountMinor : Int) : Prop :=
  if creditLimit < 0 then amountMinor ≤ available + creditLimit
  else if available < 0 then available + creditLimit < amountMinor
  else amountMinor ≤ available + creditLimit ∨
    Binary64.round (available * 10 ^ Decimal.len creditLimit.natAbs + creditLimit) < amountMinor

instance (available creditLimit amountMinor : Int) : Decidable (CreditAgrees available creditLimit amountMinor) :=
  inferInstanceAs (Decidable (if creditLimit < 0 then _ else if available < 0 then _ else _ ∨ _))

/-- The balances on which the code computes what integer arithmetic gives. -/
def JsExact (operation : BillingOperation) (wallet : WalletRow) (amountMinor : Int) : Prop :=
  match operation with
  | .reserve =>
    CreditAgrees wallet.availableBalanceMinor wallet.creditLimitMinor amountMinor ∧
      (amountMinor ≤ wallet.availableBalanceMinor + wallet.creditLimitMinor →
        wallet.reservedBalanceMinor = 0 ∧ shortest amountMinor = amountMinor ∧
          ExactDifference wallet.availableBalanceMinor amountMinor)
  | .debit =>
    (0 ≤ wallet.reservedBalanceMinor → SameOrder wallet.reservedBalanceMinor.natAbs amountMinor.natAbs) ∧
      (amountMinor ≤ wallet.reservedBalanceMinor → ExactDifference wallet.reservedBalanceMinor amountMinor)
  | .release =>
    (0 ≤ wallet.reservedBalanceMinor → SameOrder wallet.reservedBalanceMinor.natAbs amountMinor.natAbs) ∧
      (amountMinor ≤ wallet.reservedBalanceMinor →
        wallet.availableBalanceMinor = 0 ∧ ExactDifference wallet.reservedBalanceMinor amountMinor)

instance (operation : BillingOperation) (wallet : WalletRow) (amountMinor : Int) :
    Decidable (JsExact operation wallet amountMinor) := by
  cases operation <;> exact inferInstanceAs (Decidable (_ ∧ _))

theorem sameOrder_iff (m n : Nat) : SameOrder m n ↔ (Decimal.digits m < Decimal.digits n ↔ m < n) := by
  unfold SameOrder
  rw [Decimal.digits_lt_iff]
  rcases Nat.lt_trichotomy (Decimal.len m) (Decimal.len n) with hlen | hlen | hlen
  · have hlt := Decimal.lt_of_len_lt hlen
    rw [if_pos hlen]
    constructor
    · intro h
      exact ⟨fun _ => hlt, fun _ => h.1 hlen⟩
    · intro h
      exact ⟨fun _ => h.2 hlt, fun _ => by omega⟩
  · rw [if_neg (by omega), hlen, Nat.sub_self, Nat.pow_zero, Nat.mul_one, Nat.mul_one, Nat.not_le]
    exact ⟨fun _ => Iff.rfl, fun _ => ⟨fun _ => by omega, fun _ => by omega⟩⟩
  · have hlt := Decimal.lt_of_len_lt hlen
    rw [if_neg (by omega)]
    constructor
    · intro h
      have hle := h.2 hlen
      exact ⟨fun hnot => absurd hle hnot, fun _ => by omega⟩
    · intro h
      refine ⟨fun _ => by omega, fun _ => ?_⟩
      by_contra hnot
      have := h.1 hnot
      omega

/-- Numbers of one length are ordered alike as texts. -/
theorem SameOrder.of_len {m n : Nat} (h : Decimal.len m = Decimal.len n) : SameOrder m n :=
  ⟨fun _ => by omega, fun _ => by omega⟩

/-- Differences of numbers below `2 ^ 53` are exact. -/
theorem ExactDifference.of_lt {x y : Int} (hx : x.natAbs < 2 ^ 53) (hy : y.natAbs < 2 ^ 53)
    (hd : (x - y).natAbs < 2 ^ 53) : ExactDifference x y := by
  unfold ExactDifference
  rw [round_of_natAbs_lt hx, round_of_natAbs_lt hy, round_of_natAbs_lt hd]
  exact ⟨rfl, shortest_of_natAbs_lt hd⟩

/-! ### The operators on what the driver returns -/

theorem toNumber_bigintColumn (x : Int) : (bigintColumn x).toNumber = .int (Binary64.round x) := by
  show (match Decimal.parse (Decimal.text x) with
    | some x => JsNumber.int (Binary64.round x)
    | none => .nan) = _
  rw [Decimal.parse_text]

/-- The comparison of two BIGINT columns, with a positive one on the right. -/
theorem bigintColumn_lt {x y : Int} (hy : 0 < y) :
    ((bigintColumn x).lt (bigintColumn y) = true ↔ x < y) ↔ (0 ≤ x → SameOrder x.natAbs y.natAbs) := by
  have hlt : (bigintColumn x).lt (bigintColumn y) = true ↔ Decimal.text x < Decimal.digits y.natAbs := by
    rw [← Decimal.text_of_nonneg hy.le]
    exact decide_eq_true_iff
  rw [hlt]
  by_cases hx : 0 ≤ x
  · rw [Decimal.text_of_nonneg hx, sameOrder_iff]
    have hnat : x.natAbs < y.natAbs ↔ x < y := by omega
    rw [hnat]
    exact ⟨fun h _ => h, fun h => h hx⟩
  · have htext := Decimal.text_lt_digits (by omega : x < 0) y.natAbs
    exact ⟨fun _ h => absurd h hx, fun _ => ⟨fun _ => by omega, fun _ => htext⟩⟩

theorem round_pos {x : Int} (hx : 0 < x) : 0 < Binary64.round x := by
  have hone : Binary64.round 1 = 1 := round_of_natAbs_lt (by decide)
  have hle : (1 : Int) ≤ x := by omega
  have hmono := round_mono hle
  omega

/-- The early return is not taken for a positive amount. -/
theorem amountOf_le_zero (operation : BillingOperation) {amountMinor : Int} (hpos : 0 < amountMinor) :
    (amountOf operation amountMinor).le (.number (.int 0)) = false := by
  have hround := round_pos hpos
  have hstring : (bigintColumn amountMinor).le (.number (.int 0)) = false := by
    show (bigintColumn amountMinor).toNumber.le (.int 0) = false
    rw [toNumber_bigintColumn]
    exact decide_eq_false (by omega)
  cases operation with
  | reserve => exact decide_eq_false (by omega)
  | debit => exact hstring
  | release => exact hstring

theorem bigintOf_eq_ok {v : JsValue} {x : Int} :
    bigintOf v = .ok x ↔ Decimal.parse v.toText = some x ∧ IsBigint x := by
  unfold bigintOf
  cases Decimal.parse v.toText with
  | none => simp
  | some y =>
    dsimp only
    split
    · rename_i hy
      constructor
      · intro h
        cases h
        exact ⟨rfl, hy⟩
      · rintro ⟨h, -⟩
        cases h
        rfl
    · rename_i hy
      constructor
      · intro h
        cases h
      · rintro ⟨h, hx⟩
        cases h
        exact absurd hx hy

theorem bigintOf_column {x : Int} (hx : IsBigint x) : bigintOf (bigintColumn x) = .ok x :=
  bigintOf_eq_ok.2 ⟨Decimal.parse_text x, hx⟩

/-- The difference that is written. -/
theorem bigintOf_difference {x y : Int} (hd : IsBigint (x - y)) :
    bigintOf (.number (.int (Binary64.round (Binary64.round x - Binary64.round y)))) = .ok (x - y) ↔
      ExactDifference x y := by
  have htext : Decimal.parse (JsValue.number (.int (Binary64.round (Binary64.round x - Binary64.round y)))).toText =
      some (shortest (Binary64.round (Binary64.round x - Binary64.round y))) := Decimal.parse_text _
  rw [bigintOf_eq_ok, htext, Option.some.injEq]
  unfold ExactDifference
  constructor
  · rintro ⟨hshort, -⟩
    have hround := round_shortest (round_idem (Binary64.round x - Binary64.round y))
    rw [hshort] at hround
    exact ⟨hround.symm, by rw [hround]; exact hshort⟩
  · rintro ⟨hround, hshort⟩
    exact ⟨by rw [hround]; exact hshort, hd⟩

/-- The text that is written when digits were put behind a column. -/
theorem bigintOf_continued {x y : Int} {m : Nat} :
    bigintOf (.string (Decimal.text x ++ Decimal.digits m)) = .ok y ↔ Decimal.continued x m = y ∧ IsBigint y := by
  have htext : Decimal.parse (JsValue.string (Decimal.text x ++ Decimal.digits m)).toText =
      some (Decimal.continued x m) := Decimal.parse_text_append x m
  rw [bigintOf_eq_ok, htext, Option.some.injEq]

theorem writeBalances_eq_ok {balances : JsValue × JsValue} {available reserved : Int} :
    writeBalances balances = .ok (some (available, reserved)) ↔
      bigintOf balances.1 = .ok available ∧ bigintOf balances.2 = .ok reserved := by
  unfold writeBalances
  cases bigintOf balances.1 with
  | error failure => simp [bind, Except.bind]
  | ok x =>
    cases bigintOf balances.2 with
    | error failure => simp [bind, Except.bind]
    | ok y => simp [bind, Except.bind, pure, Except.pure]

theorem writeBalances_error {balances : JsValue × JsValue} {failure : Failure}
    (h : writeBalances balances = .error failure) : ∃ message, failure = .error message := by
  have hbigint : ∀ {v : JsValue}, bigintOf v = .error failure → ∃ message, failure = .error message := by
    intro v hv
    unfold bigintOf at hv
    split at hv
    · split at hv
      · cases hv
      · cases hv
        exact ⟨_, rfl⟩
    · cases hv
      exact ⟨_, rfl⟩
  unfold writeBalances at h
  cases havailable : bigintOf balances.1 with
  | error other =>
    rw [havailable] at h
    cases h
    exact hbigint havailable
  | ok x =>
    cases hreserved : bigintOf balances.2 with
    | error other =>
      rw [havailable, hreserved] at h
      cases h
      exact hbigint hreserved
    | ok y =>
      rw [havailable, hreserved] at h
      cases h

/-- Two computations of decision and balances agree when the decisions do and the balances written are right. -/
theorem decision_eq_iff {refusedJs : Bool} {refused : Prop} [Decidable refused] {failure : Failure}
    (hfailure : ∀ message, failure ≠ .error message) {balances : JsValue × JsValue} {after : WalletRow} :
    (if refusedJs = true then Except.error failure else .ok balances).bind writeBalances =
        (if refused then Except.error failure else .ok after).map
          (fun after => some (after.availableBalanceMinor, after.reservedBalanceMinor)) ↔
      (refusedJs = true ↔ refused) ∧ (¬ refused → bigintOf balances.1 = .ok after.availableBalanceMinor ∧
        bigintOf balances.2 = .ok after.reservedBalanceMinor) := by
  rw [← writeBalances_eq_ok]
  by_cases hjs : refusedJs = true
  · rw [if_pos hjs]
    by_cases hint : refused
    · rw [if_pos hint]
      exact ⟨fun _ => ⟨⟨fun _ => hint, fun _ => hjs⟩, fun hnot => absurd hint hnot⟩, fun _ => rfl⟩
    · rw [if_neg hint]
      constructor
      · intro h
        cases h
      · intro h
        exact absurd (h.1.1 hjs) hint
  · rw [if_neg hjs]
    by_cases hint : refused
    · rw [if_pos hint]
      constructor
      · intro h
        obtain ⟨message, hmessage⟩ := writeBalances_error h
        exact absurd hmessage (hfailure message)
      · intro h
        exact absurd (h.1.2 hint) hjs
    · rw [if_neg hint]
      constructor
      · intro h
        exact ⟨⟨fun h => absurd h hjs, fun h => absurd h hint⟩, fun _ => h⟩
      · intro h
        exact h.2 hint

/-! ### The operations -/

/-- The sum with the credit limit is a text; with a negative limit it is no number at all. -/
theorem creditAgrees_iff {available creditLimit amountMinor : Int} (hpos : 0 < amountMinor)
    (hround : Binary64.round amountMinor = amountMinor) :
    (((bigintColumn available).add (bigintColumn creditLimit)).lt (.number (.int amountMinor)) = true ↔
      available + creditLimit < amountMinor) ↔ CreditAgrees available creditLimit amountMinor := by
  have hlt : ((bigintColumn available).add (bigintColumn creditLimit)).lt (.number (.int amountMinor)) =
      (match Decimal.parse (Decimal.text available ++ Decimal.text creditLimit) with
        | some x => JsNumber.int (Binary64.round x)
        | none => .nan).lt (.int amountMinor) := rfl
  rw [hlt]
  unfold CreditAgrees
  by_cases hcredit : creditLimit < 0
  · rw [if_pos hcredit, Decimal.parse_text_append_neg available hcredit]
    show (false = true ↔ _) ↔ _
    constructor
    · intro h
      by_contra hnot
      exact absurd (h.2 (by omega)) (by decide)
    · intro h
      exact ⟨fun hfalse => absurd hfalse (by decide), fun hless => by omega⟩
  · rw [if_neg hcredit, Decimal.text_of_nonneg (by omega : 0 ≤ creditLimit), Decimal.parse_text_append]
    have hdecide : JsNumber.lt (.int (Binary64.round (Decimal.continued available creditLimit.natAbs)))
        (.int amountMinor) = true ↔
        Binary64.round (Decimal.continued available creditLimit.natAbs) < amountMinor := decide_eq_true_iff
    show (JsNumber.lt (.int (Binary64.round (Decimal.continued available creditLimit.natAbs)))
      (.int amountMinor) = true ↔ _) ↔ _
    rw [hdecide]
    by_cases hneg : available < 0
    · have hcontinued : Decimal.continued available creditLimit.natAbs ≤ 0 := by
        unfold Decimal.continued
        rw [if_pos hneg]
        omega
      have hmono := round_mono hcontinued
      have hzero : Binary64.round 0 = 0 := rfl
      rw [if_pos hneg]
      constructor
      · intro h
        exact h.1 (by omega)
      · intro h
        exact ⟨fun _ => h, fun _ => by omega⟩
    · have hcontinued : Decimal.continued available creditLimit.natAbs =
          available * 10 ^ Decimal.len creditLimit.natAbs + creditLimit := by
        unfold Decimal.continued
        rw [if_neg hneg, Nat.cast_add, Nat.cast_mul, Nat.cast_pow, Int.natAbs_of_nonneg (by omega : 0 ≤ available),
          Int.natAbs_of_nonneg (by omega : 0 ≤ creditLimit)]
        rfl
      have hle : available + creditLimit ≤ available * 10 ^ Decimal.len creditLimit.natAbs + creditLimit := by
        have hge : available * 1 ≤ available * 10 ^ Decimal.len creditLimit.natAbs :=
          Int.mul_le_mul_of_nonneg_left (Int.pow_pos (by decide)) (by omega)
        omega
      -- an amount the balance covers is also covered by the longer text
      have hcovered (h : amountMinor ≤ available + creditLimit) :
          amountMinor ≤ Binary64.round (available * 10 ^ Decimal.len creditLimit.natAbs + creditLimit) := by
        have hmono := round_mono (h.trans hle)
        rwa [hround] at hmono
      rw [if_neg hneg, hcontinued]
      constructor
      · intro h
        by_cases hcover : amountMinor ≤ available + creditLimit
        · exact .inl hcover
        · exact .inr (h.2 (by omega))
      · rintro (h | h)
        · have := hcovered h
          exact ⟨fun _ => by omega, fun _ => by omega⟩
        · refine ⟨fun _ => ?_, fun _ => h⟩
          by_contra hnot
          have := hcovered (by omega)
          omega

/-- The values a row of `wallets` can have. -/
structure WalletRow.Stored (wallet : WalletRow) : Prop where
  available : IsBigint wallet.availableBalanceMinor
  reserved : IsBigint wallet.reservedBalanceMinor
  credit : IsBigint wallet.creditLimitMinor

theorem isBigint_sub {x y : Int} (hx : IsBigint x) (hy : 0 < y) (hle : -(2 ^ 63) ≤ x - y) : IsBigint (x - y) := by
  unfold IsBigint at *
  omega

/-- The reserved balance after a reserve: the amount as text behind the text of the balance. -/
theorem reservedAfter_eq_iff {reserved amountMinor : Int} (hpos : 0 < amountMinor) (hamount : IsBigint amountMinor)
    (hround : Binary64.round amountMinor = amountMinor) :
    bigintOf ((bigintColumn reserved).add (.number (.int amountMinor))) = .ok (reserved + amountMinor) ↔
      reserved = 0 ∧ shortest amountMinor = amountMinor := by
  have hshort := round_shortest hround
  have hshort_pos : 0 < shortest amountMinor := by
    by_contra hnot
    have hmono := round_mono (by omega : shortest amountMinor ≤ 0)
    have hzero : Binary64.round 0 = 0 := rfl
    omega
  have hdouble : amountMinor < 2 * ((shortest amountMinor).natAbs : Int) := by
    have h := roundNat_lt_two_mul (m := (shortest amountMinor).natAbs) (by omega)
    have hnat := round_natCast (shortest amountMinor).natAbs
    rw [Int.natAbs_of_nonneg hshort_pos.le, hshort] at hnat
    omega
  have htext : (bigintColumn reserved).add (.number (.int amountMinor)) =
      .string (Decimal.text reserved ++ Decimal.digits (shortest amountMinor).natAbs) := by
    rw [← Decimal.text_of_nonneg hshort_pos.le]
    rfl
  rw [htext, bigintOf_continued, Decimal.continued_eq_add_iff hdouble hpos, Int.natAbs_of_nonneg hshort_pos.le]
  constructor
  · intro h
    exact h.1
  · rintro ⟨rfl, h⟩
    exact ⟨⟨rfl, h⟩, by rwa [Int.zero_add]⟩

/-- The available balance after a release: one text behind the other. -/
theorem availableAfter_eq_iff {available amountMinor : Int} (hpos : 0 < amountMinor) (hamount : IsBigint amountMinor) :
    bigintOf ((bigintColumn available).add (bigintColumn amountMinor)) = .ok (available + amountMinor) ↔
      available = 0 := by
  have htext : (bigintColumn available).add (bigintColumn amountMinor) =
      .string (Decimal.text available ++ Decimal.digits amountMinor.natAbs) := by
    rw [← Decimal.text_of_nonneg hpos.le]
    rfl
  have hnat : (amountMinor.natAbs : Int) = amountMinor := Int.natAbs_of_nonneg hpos.le
  rw [htext, bigintOf_continued, Decimal.continued_eq_add_iff (by omega) hpos]
  constructor
  · intro h
    exact h.1.1
  · rintro rfl
    exact ⟨⟨rfl, hnat⟩, by rwa [Int.zero_add]⟩

/-- On which balances and positive amounts the decision taken and the balances written are those of integer
arithmetic. -/
theorem applyOperationJs_eq_iff {operation : BillingOperation} {wallet : WalletRow} {amountMinor : Int}
    (hwallet : wallet.Stored) (hpos : 0 < amountMinor) (hamount : IsBigint amountMinor)
    (hnumber : operation = .reserve → Binary64.round amountMinor = amountMinor) :
    applyOperationJs operation wallet (amountOf operation amountMinor) =
        applyOperationInt operation wallet amountMinor ↔ JsExact operation wallet amountMinor := by
  have hwhole : IsBigint wallet.availableBalanceMinor ∧ IsBigint wallet.reservedBalanceMinor ∧
      IsBigint wallet.creditLimitMinor := ⟨hwallet.available, hwallet.reserved, hwallet.credit⟩
  unfold applyOperationJs applyOperationInt
  rw [amountOf_le_zero operation hpos, if_neg (by decide), if_neg (by omega)]
  -- what is written for the reserved balance by a debit and by a release
  have hreserved (h : amountMinor ≤ wallet.reservedBalanceMinor) :
      bigintOf ((bigintColumn wallet.reservedBalanceMinor).sub (bigintColumn amountMinor)) =
        .ok (wallet.reservedBalanceMinor - amountMinor) ↔
          ExactDifference wallet.reservedBalanceMinor amountMinor := by
    have hsub : (bigintColumn wallet.reservedBalanceMinor).sub (bigintColumn amountMinor) =
        .number (.int (Binary64.round (Binary64.round wallet.reservedBalanceMinor - Binary64.round amountMinor))) := by
      unfold JsValue.sub
      rw [toNumber_bigintColumn, toNumber_bigintColumn]
      rfl
    rw [hsub, bigintOf_difference (isBigint_sub hwallet.reserved hpos (by omega))]
  cases operation with
  | reserve =>
    have hround := hnumber rfl
    refine (decision_eq_iff (by intro m h; cases h)).trans (and_congr (creditAgrees_iff hpos hround) ?_)
    rw [Int.not_lt]
    refine forall_congr' fun hcover => ?_
    have hdiff : IsBigint (wallet.availableBalanceMinor - amountMinor) := by
      refine isBigint_sub hwallet.available hpos ?_
      have := hwallet.credit.2
      omega
    have havailable : bigintOf ((bigintColumn wallet.availableBalanceMinor).sub (.number (.int amountMinor))) =
        .ok (wallet.availableBalanceMinor - amountMinor) ↔
          ExactDifference wallet.availableBalanceMinor amountMinor := by
      have hsub : (bigintColumn wallet.availableBalanceMinor).sub (.number (.int amountMinor)) =
          .number (.int (Binary64.round (Binary64.round wallet.availableBalanceMinor -
            Binary64.round amountMinor))) := by
        unfold JsValue.sub
        rw [toNumber_bigintColumn, hround]
        rfl
      rw [hsub, bigintOf_difference hdiff]
    refine (and_congr havailable (reservedAfter_eq_iff hpos hamount hround)).trans ?_
    exact ⟨fun h => ⟨h.2.1, h.2.2, h.1⟩, fun h => ⟨h.2.2, h.1, h.2.1⟩⟩
  | debit =>
    refine (decision_eq_iff (by intro m h; cases h)).trans (and_congr (bigintColumn_lt hpos) ?_)
    rw [Int.not_lt]
    refine forall_congr' fun hcover => ?_
    refine (and_iff_right ?_).trans (hreserved hcover)
    exact bigintOf_column hwallet.available
  | release =>
    refine (decision_eq_iff (by intro m h; cases h)).trans (and_congr (bigintColumn_lt hpos) ?_)
    rw [Int.not_lt]
    refine forall_congr' fun hcover => ?_
    exact and_congr (availableAfter_eq_iff hpos hamount) (hreserved hcover)

/-- A wallet with nothing reserved but the price of one message. -/
def Sample.reservedWallet : WalletRow where
  id := 1
  availableBalanceMinor := 300
  reservedBalanceMinor := 500
  creditLimitMinor := 0
  currency := "ETB"

theorem applyOperationJs_eq_iff_debit :
    applyOperationJs .debit Sample.reservedWallet (amountOf .debit 500) =
      applyOperationInt .debit Sample.reservedWallet 500 :=
  (applyOperationJs_eq_iff ⟨by decide, by decide, by decide⟩ (by decide) (by decide) (by decide)).2
    ⟨fun _ => SameOrder.of_len rfl, fun _ => ExactDifference.of_lt (by decide) (by decide) (by decide)⟩

/-- A wallet with 100 and no credit: "100" and "0" make 1000, which covers an amount of 500. -/
def Sample.smallWallet : WalletRow where
  id := 1
  availableBalanceMinor := 100
  reservedBalanceMinor := 0
  creditLimitMinor := 0
  currency := "ETB"

theorem reserve_beyond_balance :
    applyOperationJs .reserve Sample.smallWallet (amountOf .reserve 500) = .ok (some (-400, 500)) ∧
      applyOperationInt .reserve Sample.smallWallet 500 = .error (.forbidden "Insufficient wallet balance") := by
  decide +kernel

end SmsPlatform
