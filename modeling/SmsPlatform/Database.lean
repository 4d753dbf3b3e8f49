import SmsPlatform.Lib.Json
import SmsPlatform.Lib.StateExcept
import SmsPlatform.Messages.Types

/-!
# The database and its transactions

The tables the message pipeline reads and writes, as far as its statements name their columns, and the transactions
over them.  A transaction (`Tx`) either runs to COMMIT with a new database or fails; `withTransaction` rolls a
failed one back.  `now()` and `CURRENT_DATE` are fixed for a whole transaction (`TxClock`), and the date is not
derived from the time, so a run may cross midnight between any two transactions.
-/

namespace SmsPlatform

/-- The clock readings of one transaction: `now()`, `CURRENT_DATE` and the process's `Date.now()`. -/
structure TxClock where
  now : Timestamp
  currentDate : SqlDate
  clientNow : Timestamp

/-- What a handler can throw: the HTTP exceptions of the services and the errors raised by PostgreSQL. -/
inductive Failure
  | badRequest (message : String)
  | conflict (message : String)
  | forbidden (message : String)
  | notFound (message : String)
  | tooManyRequests (message : String)
  | trigger (message : String)
  | uniqueViolation (index : String)
  | error (message : String)
  deriving DecidableEq

/-- A text is longer than its VARCHAR column. -/
def Failure.valueTooLong (limit : Nat) : Failure :=
  .error ("value too long for type character varying(" ++ limit.repr ++ ")")

/-! ### What PostgreSQL stores

No text and no JSON holds U+0000, and PostgreSQL refuses a text that is longer than its VARCHAR column, unless the excess
is all blanks, which it cuts off: the texts of this development are those that do not run on in blanks like that.  INTEGER
and BIGINT columns are taken to be wide enough. -/

/-- No text of PostgreSQL has this character. -/
def nul : Char := Char.ofNat 0

def Clean (text : String) : Prop := nul ∉ text.toList

instance (text : String) : Decidable (Clean text) := inferInstanceAs (Decidable (_ ∉ _))

/-- The parameters of a statement, which are decoded before it runs. -/
def checkTexts (texts : List String) : Except Failure Unit :=
  if ∀ text ∈ texts, Clean text then .ok () else .error (.error "invalid byte sequence for encoding UTF8: 0x00")

mutual

/-- No text in the value has the character U+0000. -/
def cleanValue : JsonValue → Bool
  | .null => true
  | .boolean _ => true
  | .number _ => true
  | .string text => decide (Clean text)
  | .array items => cleanItems items
  | .object fields => cleanFields fields

def cleanItems : List JsonValue → Bool
  | [] => true
  | item :: items => cleanValue item && cleanItems items

def cleanFields : List (String × JsonValue) → Bool
  | [] => true
  | (key, value) :: fields => decide (Clean key) && cleanValue value && cleanFields fields

end

/-- An object of a request in a JSONB column. -/
def storeObject (object : JsonObject) : Except Failure Unit :=
  if cleanFields object then .ok () else .error (.error "unsupported Unicode escape sequence")

/-- The value of a VARCHAR column; NULL fits. -/
def FitsVarchar (limit : Nat) : Option String → Prop
  | none => True
  | some text => text.length ≤ limit

instance (limit : Nat) : (value : Option String) → Decidable (FitsVarchar limit value)
  | none => .isTrue trivial
  | some text => inferInstanceAs (Decidable (text.length ≤ limit))

def checkVarchar (limit : Nat) (value : Option String) : Except Failure Unit :=
  if FitsVarchar limit value then .ok () else .error (.valueTooLong limit)

def maxSmallint : Nat := 32767

/-- PostgreSQL words the error differently for a parameter and for an expression. -/
def checkSmallint (value : Nat) : Except Failure Unit :=
  if value ≤ maxSmallint then .ok () else .error (.error "smallint out of range")

@[simp] theorem checkTexts_ok {texts : List String} : checkTexts texts = .ok () ↔ ∀ text ∈ texts, Clean text := by
  unfold checkTexts
  by_cases h : ∀ text ∈ texts, Clean text
  · rw [if_pos h]
    exact ⟨fun _ => h, fun _ => rfl⟩
  · rw [if_neg h]
    exact ⟨fun hok => (nomatch hok), fun hclean => absurd hclean h⟩

@[simp] theorem storeObject_ok {object : JsonObject} : storeObject object = .ok () ↔ cleanFields object = true := by
  unfold storeObject
  split <;> simp [*]

@[simp] theorem checkVarchar_ok {limit : Nat} {value : Option String} :
    checkVarchar limit value = .ok () ↔ FitsVarchar limit value := by
  unfold checkVarchar
  split <;> simp [*]

@[simp] theorem checkSmallint_ok {value : Nat} : checkSmallint value = .ok () ↔ value ≤ maxSmallint := by
  unfold checkSmallint
  split <;> simp [*]

/-- A default that fits takes no part in whether the value does. -/
theorem fitsVarchar_getD {limit : Nat} {value : Option String} {default : String} (h : default.length ≤ limit) :
    FitsVarchar limit (some (value.getD default)) ↔ FitsVarchar limit value := by
  cases value with
  | none => exact ⟨fun _ => trivial, fun _ => h⟩
  | some text => exact Iff.rfl

/-! ### Wallets and the ledger -/

inductive BillingOperation
  | reserve | debit | release
  deriving DecidableEq, Repr

structure WalletRow where
  id : Nat
  availableBalanceMinor : Int
  reservedBalanceMinor : Int
  creditLimitMinor : Int
  currency : String
  deriving DecidableEq

/-- A row of `transactions`, the wallet ledger. -/
structure TransactionRow where
  ledgerDate : SqlDate
  tenantId : TenantId
  walletId : Nat
  messageSubmitDate : SqlDate
  messageId : Nat
  kind : BillingOperation
  amountMinor : Int
  currency : String
  balanceBeforeMinor : Int
  balanceAfterMinor : Int
  idempotencyKey : String
  deriving DecidableEq

/-! ### The outbox -/

inductive KafkaTopic
  | smsAccepted | smsDispatchRealtime | smsDispatchBulk | smsRetry | smsDlr | smsReconcile | smsDispatchResults
  deriving DecidableEq, Repr

inductive EventType
  | messageAccepted | messageDispatch | messageDispatchRetry | messageDispatchResult | messageRetry
  | messageReconcile | dlrReceived | dlrReconcile
  deriving DecidableEq, Repr

inductive DlrStatus
  | delivered | failed | unknown
  deriving DecidableEq, Repr

/-- The payload of an `sms.dlr` event. -/
structure DlrEventPayload where
  receivedDate : SqlDate
  webhookId : Nat
  providerId : Nat
  deriving DecidableEq

/-- The fields that `processWebhook` takes out of a webhook's JSON payload. -/
structure ExtractedFields where
  phoneNumber : Option String
  senderId : Option String
  eventAt : Option String
  bodyHash : Option String
  campaignId : Option ℚ
  routeRuleId : Option ℚ
  deriving DecidableEq

/-- What `enqueueReconciliation` adds to a webhook's own fields. -/
inductive DlrReconcileExtra
  | fields (fields : ExtractedFields)
  | correlated (correlatedMessageId : Nat)
  | transition (correlatedMessageId : Nat) (currentStatus : MessageStatus)
  deriving DecidableEq

/-- The inner payload of a reconciliation event, from the workflow or from the DLR processor. -/
inductive ReconciliationDetail
  | message (payload : MessageEventPayload)
  | dlr (receivedDate : SqlDate) (webhookId : Nat) (providerMessageId : Option String)
      (normalizedStatus : Option DlrStatus) (extra : DlrReconcileExtra) (raw : JsonObject)
  deriving DecidableEq

structure ReconciliationPayload where
  tenantId : Option TenantId
  providerId : Option Nat
  submitDate : Option SqlDate
  messageId : Option Nat
  kind : String
  reason : String
  payload : ReconciliationDetail
  deriving DecidableEq

inductive EventPayload
  | message (payload : MessageEventPayload)
  | dlr (payload : DlrEventPayload)
  | reconcile (payload : ReconciliationPayload)
  deriving DecidableEq

/-- The payload of an event of the message workflow. -/
def EventPayload.workflow : EventPayload → Option MessageEventPayload
  | .message payload => some payload
  | _ => none

@[simp] theorem EventPayload.workflow_eq_some {payload : EventPayload} {event : MessageEventPayload} :
    payload.workflow = some event ↔ payload = .message event := by
  cases payload <;> simp [EventPayload.workflow]

structure OutboxEventInput where
  tenantId : Option TenantId
  aggregateType : String
  aggregateId : String
  eventType : EventType
  topicName : KafkaTopic
  partitionKey : String
  dedupeKey : String
  payload : EventPayload
  nextAttemptAt : Option Timestamp := none
  deriving DecidableEq

structure OutboxRow where
  id : Nat
  eventDate : SqlDate
  tenantId : Option TenantId
  aggregateType : String
  aggregateId : String
  eventType : EventType
  topicName : KafkaTopic
  partitionKey : String
  dedupeKey : String
  payload : EventPayload
  nextAttemptAt : Timestamp
  deriving DecidableEq

/-! ### Logs, webhooks and reconciliation -/

structure MessageLogRow where
  logDate : SqlDate
  tenantId : TenantId
  messageSubmitDate : SqlDate
  messageId : Nat
  eventType : String
  statusFrom : Option MessageStatus
  statusTo : Option MessageStatus
  providerId : Option Nat
  providerMessageId : Option String
  attemptNo : Nat
  deriving DecidableEq

structure DlrWebhookRow where
  id : Nat
  receivedDate : SqlDate
  providerId : Nat
  tenantId : Option TenantId
  providerMessageId : Option String
  callbackId : Option String
  payload : JsonObject
  normalizedStatus : Option DlrStatus
  processed : Bool
  processingError : Option String
  deriving DecidableEq

structure ReconciliationEventRow where
  eventDate : SqlDate
  tenantId : Option TenantId
  providerId : Option Nat
  messageSubmitDate : Option SqlDate
  messageId : Option Nat
  kind : String
  reason : String
  payload : ReconciliationDetail
  status : String
  deriving DecidableEq

/-! ### The database -/

/-- The tables.  `suppressed` is no table: it records every event whose INSERT met ON CONFLICT DO NOTHING, so that
the development can speak about enqueues that had no effect. -/
structure Db where
  wallets : TenantId → Option WalletRow
  transactions : List TransactionRow
  messages : List MessageRow
  nextMessageId : Nat
  outbox : List OutboxRow
  suppressed : List OutboxEventInput
  messageLogs : List MessageLogRow
  dlrWebhooks : List DlrWebhookRow
  nextWebhookId : Nat
  reconciliationEvents : List ReconciliationEventRow

/-- The database before the first submission: wallets with arbitrary balances and nothing else. -/
def Db.initial (wallets : TenantId → Option WalletRow) : Db where
  wallets := wallets
  transactions := []
  messages := []
  nextMessageId := 1
  outbox := []
  suppressed := []
  messageLogs := []
  dlrWebhooks := []
  nextWebhookId := 1
  reconciliationEvents := []

/-- The body of a transaction. -/
abbrev Tx := StateT Db (Except Failure)

/-- BEGIN, the body, and COMMIT; or ROLLBACK when the body throws. -/
def withTransaction {α : Type} (executor : Tx α) (db : Db) : Except Failure α × Db :=
  match executor.run db with
  | .ok (result, db') => (.ok result, db')
  | .error failure => (.error failure, db)

namespace Sample

def tenant : TenantId := ⟨"tenant", by decide⟩

def neighbour : TenantId := ⟨"neighbour", by decide⟩

def day : SqlDate := ⟨"2026-01-01", by decide⟩

def nextDay : SqlDate := ⟨"2026-01-02", by decide⟩

def clock (time : Timestamp) : TxClock := ⟨time, day, time⟩

def route : RouteDecision := ⟨1, 1, none, .http, 1⟩

def wallets (available : Int) (tenantId : TenantId) : Option WalletRow :=
  if tenantId = tenant then some ⟨1, available, 0, 0, "ETB"⟩ else none

theorem wallets_reserved (available : Int) (tenantId : TenantId) (opening : WalletRow)
    (h : wallets available tenantId = some opening) : 0 ≤ opening.reservedBalanceMinor := by
  unfold wallets at h
  split at h
  · cases h
    exact Int.le_refl 0
  · cases h

end Sample

end SmsPlatform
