import SmsPlatform.Lib.Escrow
import SmsPlatform.Database

/-!
# The wallet ledger

`applyWalletLedger` of `messages.service.ts`, cut at its statements: the idempotency check (`ledgerExists`), the
sufficiency test and the new balances of the locked wallet row (`applyOperation`), and the INSERT into
`transactions` under the unique index on ledger date, tenant and key (`insertTransaction`).  Amounts are integers
here.  `applyWalletLedger_ok` says everything a successful call does.
-/

namespace SmsPlatform

open Segments StateExcept

/-! ### The statements -/

/-- The message a ledger row belongs to. -/
def TransactionRow.composite (row : TransactionRow) : MessageCompositeId :=
  ⟨row.messageSubmitDate, row.tenantId, row.messageId⟩

def ledgerExists (transactions : List TransactionRow) (tenantId : TenantId) (idempotencyKey : String) : Bool :=
  transactions.any fun row => decide (row.tenantId = tenantId ∧ row.idempotencyKey = idempotencyKey)

/-- The sufficiency test and the balances after the operation. -/
def applyOperation (operation : BillingOperation) (wallet : WalletRow) (amountMinor : Int) :
    Except Failure WalletRow :=
  match operation with
  | .reserve =>
    if wallet.availableBalanceMinor + wallet.creditLimitMinor < amountMinor then
      .error (.forbidden "Insufficient wallet balance")
    else .ok { wallet with
      availableBalanceMinor := wallet.availableBalanceMinor - amountMinor
      reservedBalanceMinor := wallet.reservedBalanceMinor + amountMinor }
  | .debit =>
    if wallet.reservedBalanceMinor < amountMinor then
      .error (.conflict "Reserved wallet balance is insufficient for debit")
    else .ok { wallet with reservedBalanceMinor := wallet.reservedBalanceMinor - amountMinor }
  | .release =>
    if wallet.reservedBalanceMinor < amountMinor then
      .error (.conflict "Reserved wallet balance is insufficient for release")
    else .ok { wallet with
      availableBalanceMinor := wallet.availableBalanceMinor + amountMinor
      reservedBalanceMinor := wallet.reservedBalanceMinor - amountMinor }

/-- The balance that `balance_before_minor` and `balance_after_minor` show: the available one for a reserve. -/
def WalletRow.ledgerBalance (wallet : WalletRow) : BillingOperation → Int
  | .reserve => wallet.availableBalanceMinor
  | .debit => wallet.reservedBalanceMinor
  | .release => wallet.reservedBalanceMinor

/-- The row of `transactions` for an operation that took the wallet from `before` to `after`. -/
def ledgerRow (ledgerDate : SqlDate) (tenantId : TenantId) (amountMinor : Int) (operation : BillingOperation)
    (idempotencyKey : String) (messageRef : MessageCompositeId) (before after : WalletRow) : TransactionRow where
  ledgerDate := ledgerDate
  tenantId := tenantId
  walletId := before.id
  messageSubmitDate := messageRef.submitDate
  messageId := messageRef.id
  kind := operation
  amountMinor := amountMinor
  currency := before.currency
  balanceBeforeMinor := before.ledgerBalance operation
  balanceAfterMinor := after.ledgerBalance operation
  idempotencyKey := idempotencyKey

/-- `uq_transactions_idempotency` on the ledger date, the tenant and the key. -/
def violatesIdempotency (transactions : List TransactionRow) (row : TransactionRow) : Bool :=
  transactions.any fun other => decide (other.ledgerDate = row.ledgerDate ∧ other.tenantId = row.tenantId ∧
    other.idempotencyKey = row.idempotencyKey)

/-! A wallet is an account with held funds: `reserve` holds, `debit` captures and `release` refunds. -/

def BillingOperation.kind : BillingOperation → Escrow.Kind
  | .reserve => .hold
  | .debit => .capture
  | .release => .refund

def WalletRow.account (wallet : WalletRow) : Escrow.Account Int :=
  ⟨wallet.availableBalanceMinor, wallet.reservedBalanceMinor⟩

theorem WalletRow.ledgerBalance_eq (wallet : WalletRow) (operation : BillingOperation) :
    wallet.ledgerBalance operation = wallet.account.source operation.kind := by
  cases operation <;> rfl

/-- The sufficiency test is the admissibility of the posting, and the new balances are the posted ones. -/
theorem applyOperation_ok {operation : BillingOperation} {wallet after : WalletRow} {amountMinor : Int}
    (hpos : 0 < amountMinor) : applyOperation operation wallet amountMinor = .ok after ↔
      Escrow.Admissible wallet.creditLimitMinor wallet.account operation.kind amountMinor ∧
        after = { wallet with
          availableBalanceMinor := (wallet.account.post operation.kind amountMinor).available
          reservedBalanceMinor := (wallet.account.post operation.kind amountMinor).held } := by
  cases operation
  all_goals
    simp only [applyOperation, Escrow.Admissible, BillingOperation.kind, WalletRow.account, Escrow.Account.post]
    split
    · constructor
      · intro h; cases h
      · intro h; omega
    · constructor
      · intro h
        cases h
        exact ⟨⟨hpos, by omega⟩, rfl⟩
      · rintro ⟨-, rfl⟩
        rfl

def insertTransaction (transactions : List TransactionRow) (row : TransactionRow) :
    Except Failure (List TransactionRow) :=
  if violatesIdempotency transactions row then .error (.uniqueViolation "uq_transactions_idempotency")
  else .ok (transactions ++ [row])

def Db.setWallet (db : Db) (tenantId : TenantId) (wallet : WalletRow) : Db :=
  { db with wallets := fun t => if t = tenantId then some wallet else db.wallets t }

def applyWalletLedger (clock : TxClock) (tenantId : TenantId) (amountMinor : Int) (operation : BillingOperation)
    (idempotencyKey : String) (messageRef : MessageCompositeId) : Tx Bool := do
  if amountMinor ≤ 0 then
    return false
  let db ← get
  if ledgerExists db.transactions tenantId idempotencyKey then
    return false
  match db.wallets tenantId with
  | none => throw (.notFound "Wallet not found")
  | some wallet =>
    let after ← applyOperation operation wallet amountMinor
    let transactions ← insertTransaction db.transactions
      (ledgerRow clock.currentDate tenantId amountMinor operation idempotencyKey messageRef wallet after)
    set { db.setWallet tenantId after with transactions := transactions }
    return true

def reserveWallet (clock : TxClock) (tenantId : TenantId) (amountMinor : Int) (idempotencyKey : String)
    (messageRef : MessageCompositeId) : Tx Bool :=
  applyWalletLedger clock tenantId amountMinor .reserve idempotencyKey messageRef

def debitReservedWallet (clock : TxClock) (tenantId : TenantId) (amountMinor : Int) (idempotencyKey : String)
    (messageRef : MessageCompositeId) : Tx Bool :=
  applyWalletLedger clock tenantId amountMinor .debit idempotencyKey messageRef

def releaseReservedWallet (clock : TxClock) (tenantId : TenantId) (amountMinor : Int) (idempotencyKey : String)
    (messageRef : MessageCompositeId) : Tx Bool :=
  applyWalletLedger clock tenantId amountMinor .release idempotencyKey messageRef

/-! ### What a call does -/

/-- The effect of a call that does not throw: nothing when the amount is not positive or the key is already in the
ledger, and otherwise new balances and one ledger row. -/
inductive LedgerEffect (clock : TxClock) (tenantId : TenantId) (amountMinor : Int) (operation : BillingOperation)
    (idempotencyKey : String) (messageRef : MessageCompositeId) (db : Db) : Bool → Db → Prop
  | skipped (h : amountMinor ≤ 0 ∨ ledgerExists db.transactions tenantId idempotencyKey = true) :
      LedgerEffect clock tenantId amountMinor operation idempotencyKey messageRef db false db
  | applied (wallet after : WalletRow) (hpos : 0 < amountMinor)
      (hkey : ledgerExists db.transactions tenantId idempotencyKey = false)
      (hwallet : db.wallets tenantId = some wallet) (hafter : applyOperation operation wallet amountMinor = .ok after) :
      LedgerEffect clock tenantId amountMinor operation idempotencyKey messageRef db true
        { db.setWallet tenantId after with
          transactions := db.transactions ++ [ledgerRow clock.currentDate tenantId amountMinor operation
            idempotencyKey messageRef wallet after] }

theorem ledgerExists_eq_false {transactions : List TransactionRow} {tenantId : TenantId} {idempotencyKey : String} :
    ledgerExists transactions tenantId idempotencyKey = false ↔
      ∀ row ∈ transactions, row.tenantId = tenantId → row.idempotencyKey ≠ idempotencyKey := by
  simp [ledgerExists]

/-- A key that the ledger does not hold for the tenant cannot violate the unique index. -/
theorem insertTransaction_of_fresh {transactions : List TransactionRow} {row : TransactionRow}
    (h : ledgerExists transactions row.tenantId row.idempotencyKey = false) :
    insertTransaction transactions row = .ok (transactions ++ [row]) := by
  have hv : violatesIdempotency transactions row = false := by
    rw [ledgerExists_eq_false] at h
    simp only [violatesIdempotency, List.any_eq_false, decide_eq_true_eq, not_and]
    exact fun other hother _ ht => h other hother ht
  simp [insertTransaction, hv]

section Spec

variable {clock : TxClock} {tenantId : TenantId} {amountMinor : Int} {operation : BillingOperation}
  {idempotencyKey : String} {messageRef : MessageCompositeId} {db db' : Db} {posted : Bool}

/-- A successful call is one of the two effects, and each of them is a successful call. -/
theorem applyWalletLedger_ok :
    (applyWalletLedger clock tenantId amountMinor operation idempotencyKey messageRef).run db = .ok (posted, db') ↔
      LedgerEffect clock tenantId amountMinor operation idempotencyKey messageRef db posted db' := by
  unfold applyWalletLedger
  by_cases hpos : amountMinor ≤ 0
  · rw [if_pos hpos]
    constructor
    · intro h
      cases h
      exact .skipped (.inl hpos)
    · intro h
      cases h with
      | skipped _ => rfl
      | applied _ _ hp => omega
  · rw [if_neg hpos, bind_of_ok (a := db) (t := db) rfl]
    by_cases hkey : ledgerExists db.transactions tenantId idempotencyKey = true
    · rw [if_pos hkey]
      constructor
      · intro h
        cases h
        exact .skipped (.inr hkey)
      · intro h
        cases h with
        | skipped _ => rfl
        | applied _ _ _ hk => rw [hk] at hkey; cases hkey
    · rw [if_neg hkey]
      have hkey' : ledgerExists db.transactions tenantId idempotencyKey = false := by simpa using hkey
      cases hw : db.wallets tenantId with
      | none =>
        constructor
        · intro h; cases h
        · intro h
          cases h with
          | skipped h => exact absurd h (by simp [hpos, hkey])
          | applied _ _ _ _ hw' => rw [hw] at hw'; cases hw'
      | some wallet =>
        simp only [bind_eq_ok]
        constructor
        · rintro ⟨after, db₁, hop, rows, db₂, hins, _, db₃, hset, hret⟩
          cases ha : applyOperation operation wallet amountMinor with
          | error e => rw [ha] at hop; cases hop
          | ok a =>
            rw [ha] at hop
            cases hop
            rw [insertTransaction_of_fresh hkey'] at hins
            cases hins
            cases hset
            cases hret
            exact .applied wallet after (by omega) hkey' hw ha
        · intro h
          cases h with
          | skipped h => exact absurd h (by simp [hpos, hkey])
          | applied wallet' after _ hk hw' ha =>
            rw [hw] at hw'
            cases hw'
            exact ⟨after, db, by rw [ha]; rfl, _, db, by rw [insertTransaction_of_fresh hk]; rfl, (), _, rfl, rfl⟩

/-- A call touches the tenant's wallet and the ledger only. -/
theorem LedgerEffect.frame
    (h : LedgerEffect clock tenantId amountMinor operation idempotencyKey messageRef db posted db') :
    db' = { db with wallets := db'.wallets, transactions := db'.transactions } := by
  cases h <;> rfl

/-- The ledger after a call whose key is not used yet: one row longer, or unchanged when the amount is not positive. -/
theorem LedgerEffect.transactions_eq
    (h : LedgerEffect clock tenantId amountMinor operation idempotencyKey messageRef db posted db')
    (hfresh : ledgerExists db.transactions tenantId idempotencyKey = false) :
    ∃ rows, db'.transactions = db.transactions ++ rows ∧
      ((amountMinor ≤ 0 ∧ rows = []) ∨ (0 < amountMinor ∧ ∃ wallet after, rows = [ledgerRow clock.currentDate tenantId
        amountMinor operation idempotencyKey messageRef wallet after])) := by
  cases h with
  | skipped h =>
    rcases h with hle | hkey
    · exact ⟨[], by simp, .inl ⟨hle, rfl⟩⟩
    · rw [hfresh] at hkey
      cases hkey
  | applied wallet after hpos hkey hwallet hafter => exact ⟨_, rfl, .inr ⟨hpos, wallet, after, rfl⟩⟩

/-- The wallets after a call whose key is not used yet: the tenant's account is posted the positive part of the
amount, every other wallet is unchanged. -/
theorem LedgerEffect.wallets_eq
    (h : LedgerEffect clock tenantId amountMinor operation idempotencyKey messageRef db posted db')
    (hfresh : ledgerExists db.transactions tenantId idempotencyKey = false) {t : TenantId} {wallet : WalletRow}
    (hw : db.wallets t = some wallet) : ∃ wallet', db'.wallets t = some wallet' ∧ wallet'.account =
      if t = tenantId then wallet.account.post operation.kind (max amountMinor 0) else wallet.account := by
  cases h with
  | skipped h =>
    rcases h with hle | hkey
    · refine ⟨wallet, hw, ?_⟩
      rw [max_eq_right hle]
      split
      · cases operation <;> simp [Escrow.Account.post, BillingOperation.kind]
      · rfl
    · rw [hfresh] at hkey
      cases hkey
  | applied wallet₀ after hpos hkey hwallet hafter =>
    obtain ⟨-, rfl⟩ := (applyOperation_ok hpos).1 hafter
    rw [max_eq_left hpos.le]
    by_cases ht : t = tenantId
    · subst ht
      rw [hwallet] at hw
      cases hw
      exact ⟨_, if_pos rfl, by rw [if_pos rfl]; rfl⟩
    · exact ⟨wallet, (if_neg ht).trans hw, by rw [if_neg ht]⟩

end Spec

end SmsPlatform
