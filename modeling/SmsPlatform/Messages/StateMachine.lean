import SmsPlatform.Lib.Rows
import SmsPlatform.Database

/-!
# The message row and its guarded updates

`patchMessage` and `transitionMessage` of `messages.service.ts`, and the trigger
`enforce_message_state_transition` that PostgreSQL runs on every UPDATE of `messages`.  Both functions build one
UPDATE that is guarded by the key, the status and the version of the row the caller holds, and throw when it
changes no row.
-/

namespace SmsPlatform

open StateExcept

/-! ### Reading a row -/

def Db.findMessage (db : Db) (messageRef : MessageCompositeId) : Option MessageRow :=
  db.messages.find? fun row => decide (row.composite = messageRef)

def getMessageRow (db : Db) (messageRef : MessageCompositeId) : Except Failure MessageRow :=
  match db.findMessage messageRef with
  | some row => .ok row
  | none => .error (.notFound "Message not found")

/-! ### The trigger -/

/-- The status steps the trigger lets through. -/
def legalStatusStep (old new : MessageRow) : Bool :=
  match old.status, new.status with
  | .accepted, .routed => true
  | .routed, .submitting => true
  | .submitting, .providerAccepted => true
  | .submitting, .failed => true
  | .providerAccepted, .delivered => true
  | .providerAccepted, .failed => decide (new.lastErrorCode.getD "" = "dlr_failed")
  | _, _ => false

def enforceMessageStateTransition (old new : MessageRow) : Except Failure Unit :=
  if new.version ≠ old.version + 1 then
    .error (.trigger "messages.version must increment by exactly 1")
  else if new.stateChangedAt ≤ old.stateChangedAt then
    .error (.trigger "messages.state_changed_at must move forward")
  else if new.status = old.status then .ok ()
  else if legalStatusStep old new then .ok ()
  else .error (.trigger ("illegal message status transition " ++ old.status.text ++ " -> " ++ new.status.text))

/-! ### The assignments of an UPDATE -/

/-- The `fields` record of the two update functions: a column that is absent (or `undefined`) is `none`. -/
structure MessageFields where
  attemptCount : Option Nat := none
  providerId : Option (Option Nat) := none
  smppConfigId : Option (Option Nat) := none
  routeRuleId : Option (Option Nat) := none
  costMinor : Option Int := none
  billingState : Option BillingState := none
  providerMessageId : Option (Option String) := none
  lastErrorCode : Option (Option String) := none
  lastErrorMessage : Option (Option String) := none

def MessageFields.assign (fields : MessageFields) (row : MessageRow) : MessageRow :=
  { row with
    attemptCount := fields.attemptCount.getD row.attemptCount
    providerId := fields.providerId.getD row.providerId
    smppConfigId := fields.smppConfigId.getD row.smppConfigId
    routeRuleId := fields.routeRuleId.getD row.routeRuleId
    costMinor := fields.costMinor.getD row.costMinor
    billingState := fields.billingState.getD row.billingState
    providerMessageId := fields.providerMessageId.getD row.providerMessageId
    lastErrorCode := fields.lastErrorCode.getD row.lastErrorCode
    lastErrorMessage := fields.lastErrorMessage.getD row.lastErrorMessage }

/-- `version = version + 1, state_changed_at = now()`, the assignments every guarded update makes. -/
def MessageRow.bump (row : MessageRow) (clock : TxClock) : MessageRow :=
  { row with version := row.version + 1, stateChangedAt := clock.now }

/-- The row after the UPDATE of `patchMessage`. -/
def patchedRow (clock : TxClock) (fields : MessageFields) (row : MessageRow) : MessageRow :=
  fields.assign (row.bump clock)

/-- The row after the UPDATE of `transitionMessage`; right-hand sides read the old row, as in SQL. -/
def transitionedRow (clock : TxClock) (nextStatus : MessageStatus) (fields : MessageFields)
    (incrementAttempt : Bool) (row : MessageRow) : MessageRow :=
  let assigned := fields.assign { row.bump clock with status := nextStatus }
  { assigned with
    attemptCount := if incrementAttempt then row.attemptCount + 1 else assigned.attemptCount
    sentAt := if nextStatus = .providerAccepted then some (row.sentAt.getD clock.now) else row.sentAt
    billingState := if nextStatus = .providerAccepted then .debited else assigned.billingState
    deliveredAt := if nextStatus = .delivered then some (row.deliveredAt.getD clock.now) else row.deliveredAt
    failedAt := if nextStatus = .failed then some (row.failedAt.getD clock.now) else row.failedAt }

/-! ### The guarded UPDATE -/

/-- The new row fits the columns that an UPDATE of the handlers can overflow. -/
structure MessageRow.Storable (row : MessageRow) : Prop where
  providerMessageId : FitsVarchar 128 row.providerMessageId
  attemptCount : row.attemptCount ≤ maxSmallint
  lastErrorCode : FitsVarchar 40 row.lastErrorCode

instance (row : MessageRow) : Decidable row.Storable :=
  decidable_of_iff (FitsVarchar 128 row.providerMessageId ∧ row.attemptCount ≤ maxSmallint ∧
    FitsVarchar 40 row.lastErrorCode) ⟨fun h => ⟨h.1, h.2.1, h.2.2⟩, fun h => ⟨h.1, h.2, h.3⟩⟩

/-- The column types of `messages`, in the order of the table. -/
def MessageRow.checkColumns (row : MessageRow) : Except Failure Unit := do
  checkVarchar 128 row.providerMessageId
  checkSmallint row.attemptCount
  checkVarchar 40 row.lastErrorCode

/-- `WHERE submit_date = … AND tenant_id = … AND id = … AND status = … AND version = …`. -/
def guardedBy (message row : MessageRow) : Bool :=
  decide (row.composite = message.composite ∧ row.status = message.status ∧ row.version = message.version)

/-- The UPDATE with its trigger, which sees the row as the columns hold it; no matching row is a version conflict. -/
def updateMessage (message : MessageRow) (assign : MessageRow → MessageRow) : Tx MessageRow := do
  let db ← get
  match Rows.splitFirst (guardedBy message) db.messages with
  | none => throw (.conflict "Message version conflict")
  | some (before, row, after) =>
    (assign row).checkColumns
    enforceMessageStateTransition row (assign row)
    set { db with messages := before ++ assign row :: after }
    return assign row

def patchMessage (clock : TxClock) (message : MessageRow) (fields : MessageFields) : Tx MessageRow :=
  updateMessage message (patchedRow clock fields)

def transitionMessage (clock : TxClock) (message : MessageRow) (nextStatus : MessageStatus)
    (fields : MessageFields) (incrementAttempt : Bool) : Tx MessageRow :=
  if nextStatus ∈ AllowedTransitions message.status then
    updateMessage message (transitionedRow clock nextStatus fields incrementAttempt)
  else
    throw (.conflict ("Invalid status transition " ++ message.status.text ++ " -> " ++ nextStatus.text))

/-! ### What the two functions do -/

section Columns

variable (clock : TxClock) (fields : MessageFields) (next : MessageStatus) (inc : Bool) (row : MessageRow)

@[simp] theorem patchedRow_version : (patchedRow clock fields row).version = row.version + 1 := rfl

@[simp] theorem patchedRow_status : (patchedRow clock fields row).status = row.status := rfl

@[simp] theorem patchedRow_stateChangedAt : (patchedRow clock fields row).stateChangedAt = clock.now := rfl

@[simp] theorem patchedRow_composite : (patchedRow clock fields row).composite = row.composite := rfl

@[simp] theorem transitionedRow_version : (transitionedRow clock next fields inc row).version = row.version + 1 := rfl

@[simp] theorem transitionedRow_status : (transitionedRow clock next fields inc row).status = next := rfl

@[simp] theorem transitionedRow_stateChangedAt :
    (transitionedRow clock next fields inc row).stateChangedAt = clock.now := rfl

@[simp] theorem transitionedRow_composite :
    (transitionedRow clock next fields inc row).composite = row.composite := rfl

end Columns

theorem MessageRow.checkColumns_ok {row : MessageRow} : row.checkColumns = .ok () ↔ row.Storable := by
  unfold MessageRow.checkColumns
  rw [except_seq_eq_ok, except_seq_eq_ok, checkVarchar_ok, checkSmallint_ok, checkVarchar_ok]
  exact ⟨fun h => ⟨h.1, h.2.1, h.2.2⟩, fun h => ⟨h.1, h.2, h.3⟩⟩

theorem guardedBy_eq_true {message row : MessageRow} : guardedBy message row = true ↔
    row.composite = message.composite ∧ row.status = message.status ∧ row.version = message.version := by
  simp [guardedBy]

/-- What an UPDATE that changed a row has done: it found a row with the key, status and version of the caller's
row, the columns and the trigger let the new row through, and the new row stands in its place. -/
structure RowUpdate (message : MessageRow) (assign : MessageRow → MessageRow) (db db' : Db) (new : MessageRow) where
  before : List MessageRow
  old : MessageRow
  after : List MessageRow
  messages : db.messages = before ++ old :: after
  guard : guardedBy message old = true
  storable : (assign old).Storable
  trigger : enforceMessageStateTransition old (assign old) = .ok ()
  new_eq : new = assign old
  db_eq : db' = { db with messages := before ++ new :: after }

theorem updateMessage_ok {message : MessageRow} {assign : MessageRow → MessageRow} {db db' : Db} {new : MessageRow}
    (h : (updateMessage message assign).run db = .ok (new, db')) :
    Nonempty (RowUpdate message assign db db' new) := by
  unfold updateMessage at h
  rw [bind_of_ok (a := db) (t := db) rfl] at h
  cases hs : Rows.splitFirst (guardedBy message) db.messages with
  | none => rw [hs] at h; cases h
  | some parts =>
    obtain ⟨before, old, after⟩ := parts
    rw [hs] at h
    obtain ⟨hm, hg⟩ := Rows.eq_append_of_splitFirst hs
    simp only [bind_eq_ok] at h
    obtain ⟨_, db₀, hcheck, _, db₁, htrig, _, db₂, hset, hret⟩ := h
    obtain ⟨hcolumns, rfl⟩ := lift_eq_ok.1 hcheck
    obtain ⟨ht, rfl⟩ := lift_eq_ok.1 htrig
    cases hset
    cases hret
    exact ⟨⟨before, old, after, hm, hg, MessageRow.checkColumns_ok.1 hcolumns, ht, rfl, rfl⟩⟩

/-- The row the caller holds is not in the table any more, or never was: the UPDATE throws. -/
theorem updateMessage_conflict {message : MessageRow} {assign : MessageRow → MessageRow} {db : Db}
    (h : ∀ row ∈ db.messages, guardedBy message row = false) :
    (updateMessage message assign).run db = .error (.conflict "Message version conflict") := by
  unfold updateMessage
  rw [bind_of_ok (a := db) (t := db) rfl, Rows.splitFirst_eq_none.2 h]
  rfl

/-- The UPDATE on a table that holds the caller's row, under its key once. -/
theorem updateMessage_of_mem {message : MessageRow} {assign : MessageRow → MessageRow} {db : Db}
    (hk : Rows.Keyed MessageRow.composite db.messages) (hm : message ∈ db.messages) :
    ∃ before after, db.messages = before ++ message :: after ∧
      (updateMessage message assign).run db =
        ((assign message).checkColumns.bind fun _ => enforceMessageStateTransition message (assign message)).map
          fun _ => (assign message, { db with messages := before ++ assign message :: after }) := by
  cases hs : Rows.splitFirst (guardedBy message) db.messages with
  | none =>
    have := Rows.splitFirst_eq_none.1 hs message hm
    simp [guardedBy] at this
  | some parts =>
    obtain ⟨before, old, after⟩ := parts
    obtain ⟨hmsg, hg⟩ := Rows.eq_append_of_splitFirst hs
    have hold : old = message :=
      hk.unique (by rw [hmsg]; simp) hm (guardedBy_eq_true.1 hg).1
    subst hold
    refine ⟨before, after, hmsg, ?_⟩
    unfold updateMessage
    rw [bind_of_ok (a := db) (t := db) rfl, hs]
    cases hcheck : (assign old).checkColumns with
    | error e => simp only [hcheck]; rfl
    | ok u =>
      cases ht : enforceMessageStateTransition old (assign old) <;> simp only [hcheck, ht] <;> rfl

section Outcome

variable {message : MessageRow} {assign : MessageRow → MessageRow} {db : Db}

end Outcome

end SmsPlatform
