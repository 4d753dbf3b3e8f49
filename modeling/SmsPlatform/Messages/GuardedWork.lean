import SmsPlatform.Dlr.Processor

/-!
# Transactions around one guarded update

Every transaction of the handlers that writes a message has one shape: a guarded UPDATE of the row the handler read,
at most one wallet operation for the message's price, one log row, and at most one follow-up (an outbox event or the
UPDATE of a webhook).  `GuardedWork` is that shape with its data; `run_ok` says what a committed one has done, and
`run_of_mem` computes it on a table that still holds the row.
-/

namespace SmsPlatform

open StateExcept

/-- The last statement of a guarded transaction. -/
inductive FollowUp
  | nothing
  | event (input : OutboxEventInput)
  | webhook (report : DlrWebhookRow) (message : MessageRow)

def FollowUp.run (clock : TxClock) : FollowUp → Tx Unit
  | .nothing => pure ()
  | .event input => enqueue clock input
  | .webhook report message => markApplied report message

def FollowUp.apply (clock : TxClock) (db : Db) : FollowUp → Db
  | .nothing => db
  | .event input => db.enqueue clock input
  | .webhook report message => db.updateWebhook report.receivedDate report.id fun row =>
      { row with processed := true, tenantId := row.tenantId.or (some message.tenantId) }

theorem FollowUp.run_eq (clock : TxClock) (followUp : FollowUp) (db : Db) :
    (followUp.run clock).run db = .ok ((), followUp.apply clock db) := by
  cases followUp <;> rfl

/-- A wallet operation on the price of the message, by its kind and key. -/
structure Billing where
  operation : BillingOperation
  idempotencyKey : String

structure GuardedWork where
  message : MessageRow
  ref : MessageCompositeId
  assign : MessageRow → MessageRow
  billing : Option Billing
  log : MessageRow → MessageLogRow
  followUp : MessageRow → FollowUp

namespace GuardedWork

variable (work : GuardedWork) (clock : TxClock)

def bill : Tx Unit :=
  match work.billing with
  | none => pure ()
  | some billing => do
    let _ ← applyWalletLedger clock work.message.tenantId work.message.priceMinor billing.operation
      billing.idempotencyKey work.ref

def run : Tx MessageRow := do
  let updated ← updateMessage work.message work.assign
  work.bill clock
  insertLog (work.log updated)
  (work.followUp updated).run clock
  return updated

/-- What the wallet operation of a guarded transaction has done. -/
inductive Billed (db : Db) : Db → Prop
  | free (h : work.billing = none) : Billed db db
  | charged {db' : Db} (billing : Billing) (posted : Bool) (h : work.billing = some billing)
      (effect : LedgerEffect clock work.message.tenantId work.message.priceMinor billing.operation
        billing.idempotencyKey work.ref db posted db') : Billed db db'

/-- The database after the statements that follow the wallet operation. -/
def finish (updated : MessageRow) (db : Db) : Db :=
  (work.followUp updated).apply clock (db.insertLog (work.log updated))

/-- What a committed guarded transaction has done. -/
structure Committed (db : Db) (updated : MessageRow) (db' : Db) where
  before : List MessageRow
  old : MessageRow
  after : List MessageRow
  billed : Db
  messages : db.messages = before ++ old :: after
  guard : guardedBy work.message old = true
  storable : (work.assign old).Storable
  trigger : enforceMessageStateTransition old (work.assign old) = .ok ()
  updated_eq : updated = work.assign old
  logged : (work.log updated).Storable
  bill : work.Billed clock { db with messages := before ++ updated :: after } billed
  db_eq : db' = work.finish clock updated billed

variable {work clock} {db db' : Db} {updated : MessageRow}

theorem bill_ok : (work.bill clock).run db = .ok ((), db') ↔ work.Billed clock db db' := by
  unfold bill
  cases hb : work.billing with
  | none =>
    constructor
    · intro h
      cases h
      exact .free hb
    · intro h
      cases h with
      | free _ => rfl
      | charged _ _ h _ => rw [hb] at h; cases h
  | some billing =>
    constructor
    · intro h
      obtain ⟨posted, db₁, hrun, hret⟩ := bind_eq_ok.1 h
      cases hret
      exact .charged billing posted hb (applyWalletLedger_ok.1 hrun)
    · intro h
      cases h with
      | free h => rw [hb] at h; cases h
      | charged billing' posted h effect =>
        rw [hb] at h
        cases h
        exact bind_eq_ok.2 ⟨posted, db', applyWalletLedger_ok.2 effect, rfl⟩

/-- The statements after the UPDATE. -/
private theorem rest_ok (db₁ : Db) :
    (do work.bill clock
        insertLog (work.log updated)
        (work.followUp updated).run clock
        return updated : Tx MessageRow).run db₁ = .ok (updated, db') ↔
      (work.log updated).Storable ∧ ∃ billed, work.Billed clock db₁ billed ∧
        db' = work.finish clock updated billed := by
  constructor
  · intro h
    obtain ⟨_, billed, hbill, h⟩ := bind_eq_ok.1 h
    obtain ⟨_, logged, hlog, h⟩ := bind_eq_ok.1 h
    obtain ⟨_, followed, hfollow, hret⟩ := bind_eq_ok.1 h
    obtain ⟨hlogged, rfl⟩ := insertLog_ok.1 hlog
    rw [FollowUp.run_eq] at hfollow
    cases hfollow
    cases hret
    exact ⟨hlogged, billed, bill_ok.1 hbill, rfl⟩
  · rintro ⟨hlogged, billed, hbill, rfl⟩
    rw [bind_of_ok (bill_ok.2 hbill), bind_of_ok (insertLog_ok.2 ⟨hlogged, rfl⟩),
      bind_of_ok (FollowUp.run_eq clock _ _)]
    rfl

theorem run_ok (h : (work.run clock).run db = .ok (updated, db')) :
    Nonempty (work.Committed clock db updated db') := by
  obtain ⟨new, db₁, hupdate, hrest⟩ := bind_eq_ok.1 h
  obtain ⟨u⟩ := updateMessage_ok hupdate
  have hnew : updated = new := by
    obtain ⟨_, _, _, h⟩ := bind_eq_ok.1 hrest
    obtain ⟨_, _, _, h⟩ := bind_eq_ok.1 h
    obtain ⟨_, _, _, h⟩ := bind_eq_ok.1 h
    cases h
    rfl
  subst hnew
  obtain ⟨hlogged, billed, hbill, hdb⟩ := (rest_ok db₁).1 hrest
  exact ⟨u.before, u.old, u.after, billed, u.messages, u.guard, u.storable, u.trigger, u.new_eq, hlogged,
    u.db_eq ▸ hbill, hdb⟩

/-- On a table that holds the row the handler read, the transaction commits exactly when the columns and the trigger
accept the new row, the wallet operation succeeds and the log row fits its columns. -/
theorem run_of_mem (hk : Rows.Keyed MessageRow.composite db.messages) (hm : work.message ∈ db.messages) :
    ∃ before after, db.messages = before ++ work.message :: after ∧ ∀ updated db',
      (work.run clock).run db = .ok (updated, db') ↔
        updated = work.assign work.message ∧ updated.Storable ∧
          enforceMessageStateTransition work.message updated = .ok () ∧ (work.log updated).Storable ∧
          ∃ billed, work.Billed clock { db with messages := before ++ updated :: after } billed ∧
            db' = work.finish clock updated billed := by
  obtain ⟨before, after, hmessages, hrun⟩ := @updateMessage_of_mem work.message work.assign db hk hm
  have hcommits : (work.assign work.message).Storable →
      enforceMessageStateTransition work.message (work.assign work.message) = .ok () →
      (updateMessage work.message work.assign).run db =
        .ok (work.assign work.message, { db with messages := before ++ work.assign work.message :: after }) := by
    intro hstorable htrigger
    rw [hrun, MessageRow.checkColumns_ok.2 hstorable]
    show (enforceMessageStateTransition _ _).map _ = _
    rw [htrigger]
    rfl
  refine ⟨before, after, hmessages, fun updated db' => ?_⟩
  constructor
  · intro h
    obtain ⟨c⟩ := run_ok h
    have hold : c.old = work.message := by
      refine hk.unique ?_ hm (guardedBy_eq_true.1 c.guard).1
      rw [c.messages]
      simp
    have hupdated : updated = work.assign work.message := by rw [c.updated_eq, hold]
    have hstorable := c.storable
    have htrigger := c.trigger
    rw [← c.updated_eq] at hstorable htrigger
    rw [hold] at htrigger
    subst hupdated
    unfold run at h
    rw [bind_of_ok (hcommits hstorable htrigger)] at h
    obtain ⟨hlogged, hbilled⟩ := (rest_ok _).1 h
    exact ⟨rfl, hstorable, htrigger, hlogged, hbilled⟩
  · rintro ⟨rfl, hstorable, htrigger, hlogged, hbilled⟩
    unfold run
    rw [bind_of_ok (hcommits hstorable htrigger)]
    exact (rest_ok _).2 ⟨hlogged, hbilled⟩

/-- A row that has changed since the handler read it: the transaction throws the version conflict. -/
theorem run_conflict (h : ∀ row ∈ db.messages, guardedBy work.message row = false) :
    (work.run clock).run db = .error (.conflict "Message version conflict") :=
  bind_of_error (updateMessage_conflict h)

/-! ### The tables after a committed transaction -/

theorem finish_messages (updated : MessageRow) (db : Db) : (work.finish clock updated db).messages = db.messages := by
  unfold finish
  cases work.followUp updated <;> simp [FollowUp.apply, Db.updateWebhook]

theorem finish_wallets (updated : MessageRow) (db : Db) : (work.finish clock updated db).wallets = db.wallets := by
  unfold finish
  cases work.followUp updated <;> simp [FollowUp.apply, Db.updateWebhook]

theorem finish_transactions (updated : MessageRow) (db : Db) :
    (work.finish clock updated db).transactions = db.transactions := by
  unfold finish
  cases work.followUp updated <;> simp [FollowUp.apply, Db.updateWebhook]

theorem finish_nextMessageId (updated : MessageRow) (db : Db) :
    (work.finish clock updated db).nextMessageId = db.nextMessageId := by
  unfold finish
  cases work.followUp updated <;> simp [FollowUp.apply, Db.updateWebhook]

theorem finish_reconciliationEvents (updated : MessageRow) (db : Db) :
    (work.finish clock updated db).reconciliationEvents = db.reconciliationEvents := by
  unfold finish
  cases work.followUp updated <;> simp [FollowUp.apply, Db.updateWebhook]

theorem Billed.of_none {db db' : Db} (h : work.Billed clock db db') (hb : work.billing = none) : db' = db := by
  cases h with
  | free _ => rfl
  | charged billing posted h effect => rw [hb] at h; cases h

theorem Billed.of_some {db db' : Db} {billing : Billing} (h : work.Billed clock db db')
    (hb : work.billing = some billing) : ∃ posted, LedgerEffect clock work.message.tenantId work.message.priceMinor
      billing.operation billing.idempotencyKey work.ref db posted db' := by
  cases h with
  | free h => rw [hb] at h; cases h
  | charged billing' posted h effect =>
    rw [hb] at h
    cases h
    exact ⟨posted, effect⟩

theorem Billed.frame {db db' : Db} (h : work.Billed clock db db') :
    db' = { db with wallets := db'.wallets, transactions := db'.transactions } := by
  cases h with
  | free _ => rfl
  | charged _ _ _ effect => exact effect.frame

theorem Committed.messages_eq (c : work.Committed clock db updated db') :
    db'.messages = c.before ++ updated :: c.after := by
  have hdb := congrArg Db.messages c.db_eq
  rw [finish_messages] at hdb
  have hbill := congrArg Db.messages c.bill.frame
  exact hdb.trans hbill

theorem Committed.reconciliationEvents_eq (c : work.Committed clock db updated db') :
    db'.reconciliationEvents = db.reconciliationEvents := by
  have hdb := congrArg Db.reconciliationEvents c.db_eq
  rw [finish_reconciliationEvents] at hdb
  have hbill := congrArg Db.reconciliationEvents c.bill.frame
  exact hdb.trans hbill

theorem Committed.nextMessageId_eq (c : work.Committed clock db updated db') :
    db'.nextMessageId = db.nextMessageId := by
  have hdb := congrArg Db.nextMessageId c.db_eq
  rw [finish_nextMessageId] at hdb
  have hbill := congrArg Db.nextMessageId c.bill.frame
  exact hdb.trans hbill

end GuardedWork

end SmsPlatform
