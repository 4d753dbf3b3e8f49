import Mathlib.Data.PNat.Defs
import SmsPlatform.Auth.Guards
import SmsPlatform.Lib.Binary64
import SmsPlatform.Lib.Queries
import SmsPlatform.Messages.Preparation

/-!
# The explorers

`getMessage`, `listMessages` and `getMessageTrace` of the messages service, `listTransactions` of the wallets service and
`list` of the audit service, over the columns that they select.  The text that a parameter has to be turned into a UUID,
a date or a time, and ILIKE, are PostgreSQL's own (`Sql`); a JSONB value is its text.
-/

namespace SmsPlatform.Explorers

open Queries

/-! ### Rows -/

structure MessageLogRow where
  tenantId : TenantId
  messageSubmitDate : SqlDate
  messageId : Nat
  eventType : String
  statusFrom : Option String
  statusTo : Option String
  providerId : Option Nat
  providerMessageId : Option String
  attemptNo : Nat
  payload : String
  createdAt : Timestamp
  deriving DecidableEq

/-- A row of `transactions`. -/
structure LedgerRow where
  ledgerDate : SqlDate
  id : Nat
  tenantId : TenantId
  walletId : Nat
  messageSubmitDate : Option SqlDate
  messageId : Option Nat
  campaignId : Option Nat
  providerId : Option Nat
  kind : String
  amountMinor : Int
  currency : String
  balanceBeforeMinor : Int
  balanceAfterMinor : Int
  idempotencyKey : String
  metadata : String
  createdAt : Timestamp
  deriving DecidableEq

/-- A webhook has no tenant before it has been correlated. -/
structure WebhookRow where
  id : Nat
  providerId : Option Nat
  tenantId : Option TenantId
  providerMessageId : Option String
  payload : String
  normalizedStatus : Option String
  processed : Bool
  processingError : Option String
  receivedAt : Timestamp
  processedAt : Option Timestamp
  deriving DecidableEq

structure AuditLogRow where
  logDate : SqlDate
  id : Nat
  tenantId : Option TenantId
  userId : Option TenantId
  apiKeyId : Option TenantId
  action : String
  targetType : Option String
  targetId : Option String
  sourceIp : Option String
  metadata : String
  createdAt : Timestamp
  deriving DecidableEq

structure Tables where
  messages : List MessageRow
  messageLogs : List MessageLogRow
  transactions : List LedgerRow
  dlrWebhooks : List WebhookRow
  auditLogs : List AuditLogRow
  deriving DecidableEq

/-- PostgreSQL: the input of its types, ILIKE, and the order of rows that an ORDER BY leaves open. -/
structure Sql where
  uuid : String → Option TenantId
  date : String → Option SqlDate
  timestamptz : String → Option Timestamp
  ilike : String → String → Bool
  messageTie : MessageRow → Nat
  logTie : MessageLogRow → Nat
  ledgerTie : LedgerRow → Nat
  webhookTie : WebhookRow → Nat
  auditTie : AuditLogRow → Nat

/-! ### Conditions -/

/-- A parameter of a type of PostgreSQL. -/
def cast {α : Type} (input : String → Option α) (text : String) : Except Failure α :=
  match input text with
  | some value => .ok value
  | none => .error (.error "invalid input syntax")

/-- A whole number of JavaScript as a BIGINT. -/
def bigint (number : Nat) : Except Failure Nat :=
  if number < 2 ^ 63 then .ok number else .error (.error "invalid input syntax for type bigint")

section Conditions

variable {ρ α : Type} [DecidableEq α]

/-- `column = $n`, which is not true of a NULL. -/
def equals (column : ρ → Option α) (value : α) : ρ → Bool := fun row => decide (column row = some value)

/-- The condition that is pushed when a value has been given. -/
def pushed {β : Type} (condition : β → ρ → Bool) (value : Option β) : List (ρ → Bool) := value.toList.map condition

def notBefore (column : ρ → Timestamp) (time : Timestamp) : ρ → Bool := fun row => decide (time ≤ column row)

def notAfter (column : ρ → Timestamp) (time : Timestamp) : ρ → Bool := fun row => decide (column row ≤ time)

end Conditions

/-! ### Pages -/

structure Pagination where
  page : Nat
  limit : Nat
  total : Nat
  deriving DecidableEq

structure Listing (ι : Type) where
  items : List ι
  pagination : Pagination
  deriving DecidableEq

/-- `(query.page - 1) * query.limit` in JavaScript's numbers. -/
def offsetOf (page limit : ℕ+) : Except Failure Nat :=
  bigint (Binary64.roundNat (Binary64.roundNat (page - 1) * limit))

/-- What the three lists do once they have their filters: the scope, the count and one page of the rows. -/
def list {ρ ι : Type} (sql : Sql) (tenantOf : ρ → Option TenantId) (createdAt : ρ → Timestamp) (tie : ρ → Nat)
    (item : ρ → ι) (user : JwtClaims) (requestedTenantId : Option String) (page limit : ℕ+)
    (filters : Except Failure (List (ρ → Bool))) (rows : List ρ) : Except Failure (Listing ι) := do
  let tenantId ← resolveTenantScope user requestedTenantId
  let filters ← filters
  let tenant ← cast sql.uuid tenantId
  let count ← bigint limit
  let offset ← offsetOf page limit
  -- the count and the page have the same conditions
  let selected := select (equals tenantOf tenant :: filters) rows
  return {
    items := (Queries.page count offset (newestFirst createdAt tie selected)).map item
    pagination := ⟨page, limit, selected.length⟩ }

/-! ### Messages -/

/-- What `buildMessageResponse` makes of a row without a route preview. -/
structure MessageResponse where
  id : Nat
  submitDate : SqlDate
  tenantId : TenantId
  clientMessageId : Option String
  phoneNumber : String
  body : String
  trafficType : TrafficType
  status : MessageStatus
  version : Nat
  attemptCount : Nat
  providerId : Option Nat
  providerMessageId : Option String
  priceMinor : Int
  billingState : BillingState
  acceptedAt : Timestamp
  sentAt : Option Timestamp
  deliveredAt : Option Timestamp
  failedAt : Option Timestamp
  lastErrorCode : Option String
  lastErrorMessage : Option String
  deriving DecidableEq

structure Correlation where
  clientMessageId : Option String
  apiIdempotencyKey : Option String
  providerMessageId : Option String
  routeRuleId : Option Nat
  smppConfigId : Option Nat
  version : Nat
  deriving DecidableEq

structure TimelineEntry where
  eventType : String
  statusFrom : Option String
  statusTo : Option String
  providerId : Option Nat
  providerMessageId : Option String
  attemptNo : Nat
  payload : String
  createdAt : Timestamp
  deriving DecidableEq

structure BillingEntry where
  kind : String
  amountMinor : Int
  currency : String
  balanceBeforeMinor : Int
  balanceAfterMinor : Int
  idempotencyKey : String
  createdAt : Timestamp
  metadata : String
  deriving DecidableEq

structure DlrEntry where
  id : Nat
  normalizedStatus : Option String
  processed : Bool
  processingError : Option String
  receivedAt : Timestamp
  processedAt : Option Timestamp
  payload : String
  deriving DecidableEq

structure RoutingDecision where
  providerId : Option Nat
  smppConfigId : Option Nat
  routeRuleId : Option Nat
  priceMinor : Int
  billingState : BillingState
  attemptCount : Nat
  lastErrorCode : Option String
  lastErrorMessage : Option String
  deriving DecidableEq

structure MessageTrace where
  message : MessageResponse
  correlation : Correlation
  timeline : List TimelineEntry
  billing : List BillingEntry
  dlrHistory : List DlrEntry
  routingDecision : RoutingDecision
  deriving DecidableEq

structure MessageExplorerQueryDto where
  tenantId : Option String := none
  status : Option MessageStatus := none
  senderId : Option String := none
  providerId : Option ℕ+ := none
  campaignId : Option ℕ+ := none
  phoneNumber : Option String := none
  providerMessageId : Option String := none
  «from» : Option String := none
  «to» : Option String := none
  page : ℕ+ := 1
  limit : ℕ+ := 25

/-- The path of a message, as the handlers hand it on. -/
structure MessageRef where
  submitDate : String
  tenantId : String
  id : Int

namespace MessagesService

def buildMessageResponse (row : MessageRow) : MessageResponse where
  id := row.id
  submitDate := row.submitDate
  tenantId := row.tenantId
  clientMessageId := row.clientMessageId
  phoneNumber := row.phoneNumber
  body := row.body
  trafficType := row.trafficType
  status := row.status
  version := row.version
  attemptCount := row.attemptCount
  providerId := row.providerId
  providerMessageId := row.providerMessageId
  priceMinor := row.priceMinor
  billingState := row.billingState
  acceptedAt := row.acceptedAt
  sentAt := row.sentAt
  deliveredAt := row.deliveredAt
  failedAt := row.failedAt
  lastErrorCode := row.lastErrorCode
  lastErrorMessage := row.lastErrorMessage

def getMessageRow (sql : Sql) (db : Tables) (messageRef : MessageRef) : Except Failure MessageRow := do
  let submitDate ← cast sql.date messageRef.submitDate
  let tenant ← cast sql.uuid messageRef.tenantId
  match (select [equals (fun row => some row.submitDate) submitDate, equals (fun row => some row.tenantId) tenant,
    equals (fun row => some (row.id : Int)) messageRef.id] db.messages).head? with
  | some row => return row
  | none => .error (.notFound "Message not found")

def getMessage (sql : Sql) (db : Tables) (messageRef : MessageRef) : Except Failure MessageResponse :=
  (getMessageRow sql db messageRef).map buildMessageResponse

def messageFilters (sql : Sql) (query : MessageExplorerQueryDto) : Except Failure (List (MessageRow → Bool)) := do
  let phoneNumber ← (given query.phoneNumber).mapM SmsPlatform.MessagesService.normalizePhoneNumber
  let acceptedFrom ← (given query.«from»).mapM (cast sql.timestamptz)
  let acceptedTo ← (given query.«to»).mapM (cast sql.timestamptz)
  let providerId ← query.providerId.mapM fun id => bigint id
  let campaignId ← query.campaignId.mapM fun id => bigint id
  return pushed (equals fun row => some row.status) query.status ++
    pushed (equals MessageRow.sourceAddr) (given query.senderId) ++
    pushed (equals MessageRow.providerId) providerId ++
    pushed (equals MessageRow.campaignId) campaignId ++
    pushed (equals fun row => some row.phoneNumber) phoneNumber ++
    pushed (equals MessageRow.providerMessageId) (given query.providerMessageId) ++
    pushed (notBefore MessageRow.acceptedAt) acceptedFrom ++
    pushed (notAfter MessageRow.acceptedAt) acceptedTo

def listMessages (sql : Sql) (db : Tables) (user : JwtClaims) (query : MessageExplorerQueryDto) :
    Except Failure (Listing MessageResponse) :=
  list sql (fun row => some row.tenantId) MessageRow.acceptedAt sql.messageTie buildMessageResponse user query.tenantId
    query.page query.limit (messageFilters sql query) db.messages

def timelineEntry (row : MessageLogRow) : TimelineEntry :=
  ⟨row.eventType, row.statusFrom, row.statusTo, row.providerId, row.providerMessageId, row.attemptNo, row.payload,
    row.createdAt⟩

def billingEntry (row : LedgerRow) : BillingEntry :=
  ⟨row.kind, row.amountMinor, row.currency, row.balanceBeforeMinor, row.balanceAfterMinor, row.idempotencyKey,
    row.createdAt, row.metadata⟩

def dlrEntry (row : WebhookRow) : DlrEntry :=
  ⟨row.id, row.normalizedStatus, row.processed, row.processingError, row.receivedAt, row.processedAt, row.payload⟩

/-- `provider_id = $1 AND ($2::uuid IS NULL OR tenant_id = $2) AND provider_message_id = $3`. -/
def webhookFilters (providerId : Option Nat) (tenant : Option TenantId) (providerMessageId : Option String) :
    List (WebhookRow → Bool) :=
  [fun row => providerId.any fun id => equals WebhookRow.providerId id row,
    fun row => tenant.all fun id => equals WebhookRow.tenantId id row,
    fun row => providerMessageId.any fun id => equals WebhookRow.providerMessageId id row]

def getMessageTrace (sql : Sql) (db : Tables) (user : JwtClaims) (messageRef : MessageRef) :
    Except Failure MessageTrace := do
  let tenantId ← resolveTenantScope user (some messageRef.tenantId)
  let scopedRef := { messageRef with tenantId := tenantId }
  let message ← getMessageRow sql db scopedRef
  let submitDate ← cast sql.date scopedRef.submitDate
  let tenant ← cast sql.uuid tenantId
  let logs := select [equals (fun row => some row.tenantId) tenant,
    equals (fun row => some row.messageSubmitDate) submitDate,
    equals (fun row => some (row.messageId : Int)) scopedRef.id] db.messageLogs
  let ledger := select [equals (fun row => some row.tenantId) tenant, equals LedgerRow.messageSubmitDate submitDate,
    equals (fun row => row.messageId.map (Int.ofNat ·)) scopedRef.id] db.transactions
  -- the webhooks are found by the provider's id of the message
  let webhooks := select (webhookFilters message.providerId (some tenant) message.providerMessageId) db.dlrWebhooks
  return {
    message := buildMessageResponse message
    correlation := ⟨message.clientMessageId, message.apiIdempotencyKey, message.providerMessageId, message.routeRuleId,
      message.smppConfigId, message.version⟩
    timeline := (oldestFirst MessageLogRow.createdAt sql.logTie logs).map timelineEntry
    billing := (oldestFirst LedgerRow.createdAt sql.ledgerTie ledger).map billingEntry
    dlrHistory := ((newestFirst WebhookRow.receivedAt sql.webhookTie webhooks).take 20).map dlrEntry
    routingDecision := ⟨message.providerId, message.smppConfigId, message.routeRuleId, message.priceMinor,
      message.billingState, message.attemptCount, message.lastErrorCode, message.lastErrorMessage⟩ }

end MessagesService

/-! ### The ledger -/

structure WalletTransactionsQueryDto where
  kind : Option String := none
  «from» : Option String := none
  «to» : Option String := none
  campaignId : Option ℕ+ := none
  messageId : Option ℕ+ := none
  providerId : Option ℕ+ := none
  page : ℕ+ := 1
  limit : ℕ+ := 25

structure TransactionItem where
  ledgerDate : SqlDate
  id : Nat
  walletId : Nat
  kind : String
  amountMinor : Int
  currency : String
  balanceBeforeMinor : Int
  balanceAfterMinor : Int
  idempotencyKey : String
  messageSubmitDate : Option SqlDate
  messageId : Option Nat
  campaignId : Option Nat
  providerId : Option Nat
  metadata : String
  createdAt : Timestamp
  deriving DecidableEq

namespace WalletsService

def transactionItem (row : LedgerRow) : TransactionItem :=
  ⟨row.ledgerDate, row.id, row.walletId, row.kind, row.amountMinor, row.currency, row.balanceBeforeMinor,
    row.balanceAfterMinor, row.idempotencyKey, row.messageSubmitDate, row.messageId, row.campaignId, row.providerId,
    row.metadata, row.createdAt⟩

def transactionFilters (sql : Sql) (query : WalletTransactionsQueryDto) : Except Failure (List (LedgerRow → Bool)) := do
  let createdFrom ← (given query.«from»).mapM (cast sql.timestamptz)
  let createdTo ← (given query.«to»).mapM (cast sql.timestamptz)
  let campaignId ← query.campaignId.mapM fun id => bigint id
  let messageId ← query.messageId.mapM fun id => bigint id
  let providerId ← query.providerId.mapM fun id => bigint id
  return pushed (equals fun row => some row.kind) (given query.kind) ++
    pushed (notBefore LedgerRow.createdAt) createdFrom ++
    pushed (notAfter LedgerRow.createdAt) createdTo ++
    pushed (equals LedgerRow.campaignId) campaignId ++
    pushed (equals LedgerRow.messageId) messageId ++
    pushed (equals LedgerRow.providerId) providerId

def listTransactions (sql : Sql) (db : Tables) (user : JwtClaims) (query : WalletTransactionsQueryDto)
    (requestedTenantId : Option String) : Except Failure (Listing TransactionItem) :=
  list sql (fun row => some row.tenantId) LedgerRow.createdAt sql.ledgerTie transactionItem user requestedTenantId
    query.page query.limit (transactionFilters sql query) db.transactions

end WalletsService

/-! ### The audit log -/

structure AuditLogQueryDto where
  tenantId : Option String := none
  userId : Option String := none
  apiKeyId : Option String := none
  action : Option String := none
  «from» : Option String := none
  «to» : Option String := none
  page : ℕ+ := 1
  limit : ℕ+ := 25

namespace AuditService

def auditFilters (sql : Sql) (query : AuditLogQueryDto) : Except Failure (List (AuditLogRow → Bool)) := do
  let userId ← (given query.userId).mapM (cast sql.uuid)
  let apiKeyId ← (given query.apiKeyId).mapM (cast sql.uuid)
  let createdFrom ← (given query.«from»).mapM (cast sql.timestamptz)
  let createdTo ← (given query.«to»).mapM (cast sql.timestamptz)
  return pushed (equals AuditLogRow.userId) userId ++
    pushed (equals AuditLogRow.apiKeyId) apiKeyId ++
    pushed (fun action row => sql.ilike row.action ("%" ++ action ++ "%")) (given query.action) ++
    pushed (notBefore AuditLogRow.createdAt) createdFrom ++
    pushed (notAfter AuditLogRow.createdAt) createdTo

/-- An item has all the columns that are selected. -/
def list (sql : Sql) (db : Tables) (user : JwtClaims) (query : AuditLogQueryDto) :
    Except Failure (Listing AuditLogRow) :=
  Explorers.list sql AuditLogRow.tenantId AuditLogRow.createdAt sql.auditTie id user query.tenantId query.page
    query.limit (auditFilters sql query) db.auditLogs

end AuditService

end SmsPlatform.Explorers
