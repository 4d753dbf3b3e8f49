import SmsPlatform.Outbox.Outbox
import SmsPlatform.Wallet.Ledger
import SmsPlatform.Messages.StateMachine

/-!
# Submission

The transaction of `submitMessageWithContext`: the lookup of an earlier submission of the day, the INSERT of the
message row, the reservation of its price, the log row and the `message.accepted` event.  What the method computes
before the transaction (normalised phone, rendered body, route preview, unit price) enters as a `Submission`.
-/

namespace SmsPlatform

open Segments StateExcept

structure Submission where
  tenantId : TenantId
  apiKeyId : Option String
  idempotencyKey : Option String
  clientMessageId : Option String
  senderId : String
  phoneNumber : String
  body : String
  bodyHash : String
  trafficType : TrafficType
  messageParts : Nat
  routePreview : RouteDecision
  sellUnitPriceMinor : Int
  templateRef : Option String := none

def Submission.totalSellPriceMinor (submission : Submission) : Int :=
  submission.sellUnitPriceMinor * submission.messageParts

def Submission.totalProviderCostMinor (submission : Submission) : Int :=
  submission.routePreview.estimatedUnitCostMinor * submission.messageParts

/-! ### Keys of the ledger -/

def reserveKey (composite : MessageCompositeId) : String :=
  joinColon ["reserve", composite.submitDate.text, composite.tenantId.text, composite.id.repr]

def debitKey (composite : MessageCompositeId) : String :=
  joinColon ["debit", composite.submitDate.text, composite.tenantId.text, composite.id.repr]

/-- The three places that release a reservation, by the suffix of their key. -/
inductive ReleaseReason
  | fraud | final | dlr
  deriving DecidableEq, Repr

def ReleaseReason.text : ReleaseReason → String
  | .fraud => "fraud"
  | .final => "final"
  | .dlr => "dlr"

/-- The workflow prints the date of the event's payload, the DLR processor the Date object of the row. -/
def releaseKey (dateText : String) (composite : MessageCompositeId) (reason : ReleaseReason) : String :=
  joinColon ["release", dateText, composite.tenantId.text, composite.id.repr, reason.text]

/-- The keys that an operation on a message's price uses. -/
inductive LedgerKey : BillingOperation → MessageCompositeId → String → Prop
  | reserve (composite : MessageCompositeId) : LedgerKey .reserve composite (reserveKey composite)
  | debit (composite : MessageCompositeId) : LedgerKey .debit composite (debitKey composite)
  | release (dateText : String) (composite : MessageCompositeId) (reason : ReleaseReason) :
      LedgerKey .release composite (releaseKey dateText composite reason)

private theorem tail_inj {l m : List String} {c d : MessageCompositeId} (hl : l ≠ []) (hm : m ≠ [])
    (h : joinColon (l ++ [c.tenantId.text] ++ [c.id.repr]) = joinColon (m ++ [d.tenantId.text] ++ [d.id.repr])) :
    c.tenantId = d.tenantId ∧ c.id = d.id := by
  obtain ⟨hid, h⟩ := joinColon_snoc_inj (colon_not_mem_repr _) (colon_not_mem_repr _) (by simp) (by simp) h
  obtain ⟨htenant, -⟩ := joinColon_snoc_inj c.tenantId.colonFree d.tenantId.colonFree hl hm h
  exact ⟨Segment.ext_text htenant, repr_injective hid⟩

private theorem head_ne {s t : String} {l m : List String} (hs : ':' ∉ s.toList) (ht : ':' ∉ t.toList) (hl : l ≠ [])
    (hm : m ≠ []) (hne : s ≠ t) : joinColon (s :: l) ≠ joinColon (t :: m) :=
  fun h => hne (joinColon_cons_inj hs ht hl hm h).1

theorem ReleaseReason.colonFree (reason : ReleaseReason) : ':' ∉ reason.text.toList := by
  cases reason <;> decide

/-- A ledger key determines the operation, the tenant and the id of the message; the date of a release key may be
printed in any way. -/
theorem LedgerKey.determines {op op' : BillingOperation} {c c' : MessageCompositeId} {key : String}
    (h : LedgerKey op c key) (h' : LedgerKey op' c' key) :
    op = op' ∧ c.tenantId = c'.tenantId ∧ c.id = c'.id := by
  generalize hkey : key = key' at h'
  cases h with
  | reserve c =>
    cases h' with
    | reserve c' => exact ⟨rfl, tail_inj (l := ["reserve", c.submitDate.text]) (m := ["reserve", c'.submitDate.text])
        (by simp) (by simp) hkey⟩
    | debit c' => exact absurd hkey (head_ne (by decide) (by decide) (by simp) (by simp) (by decide))
    | release dateText c' reason => exact absurd hkey (head_ne (by decide) (by decide) (by simp) (by simp) (by decide))
  | debit c =>
    cases h' with
    | reserve c' => exact absurd hkey (head_ne (by decide) (by decide) (by simp) (by simp) (by decide))
    | debit c' => exact ⟨rfl, tail_inj (l := ["debit", c.submitDate.text]) (m := ["debit", c'.submitDate.text])
        (by simp) (by simp) hkey⟩
    | release dateText c' reason => exact absurd hkey (head_ne (by decide) (by decide) (by simp) (by simp) (by decide))
  | release dateText c reason =>
    cases h' with
    | reserve c' => exact absurd hkey (head_ne (by decide) (by decide) (by simp) (by simp) (by decide))
    | debit c' => exact absurd hkey (head_ne (by decide) (by decide) (by simp) (by simp) (by decide))
    | release dateText' c' reason' =>
      have hkey : joinColon (["release", dateText, c.tenantId.text, c.id.repr] ++ [reason.text]) =
        joinColon (["release", dateText', c'.tenantId.text, c'.id.repr] ++ [reason'.text]) := hkey
      obtain ⟨-, htail⟩ := joinColon_snoc_inj reason.colonFree reason'.colonFree (by simp) (by simp) hkey
      exact ⟨rfl, tail_inj (l := ["release", dateText]) (m := ["release", dateText']) (by simp) (by simp) htail⟩

/-! ### Logging -/

def logRow (messageRef : MessageCompositeId) (eventType : String) (statusFrom statusTo : Option MessageStatus)
    (providerId : Option Nat) (providerMessageId : Option String) (attemptNo : Nat) : MessageLogRow where
  logDate := messageRef.submitDate
  tenantId := messageRef.tenantId
  messageSubmitDate := messageRef.submitDate
  messageId := messageRef.id
  eventType := eventType
  statusFrom := statusFrom
  statusTo := statusTo
  providerId := providerId
  providerMessageId := providerMessageId
  attemptNo := attemptNo

/-- The columns of `message_logs` that can overflow. -/
structure MessageLogRow.Storable (row : MessageLogRow) : Prop where
  providerMessageId : FitsVarchar 128 row.providerMessageId
  attemptNo : row.attemptNo ≤ maxSmallint

instance (row : MessageLogRow) : Decidable row.Storable :=
  decidable_of_iff (FitsVarchar 128 row.providerMessageId ∧ row.attemptNo ≤ maxSmallint)
    ⟨fun h => ⟨h.1, h.2⟩, fun h => ⟨h.1, h.2⟩⟩

def MessageLogRow.checkColumns (row : MessageLogRow) : Except Failure Unit := do
  checkVarchar 128 row.providerMessageId
  checkSmallint row.attemptNo

def Db.insertLog (db : Db) (row : MessageLogRow) : Db := { db with messageLogs := db.messageLogs ++ [row] }

section InsertLog

variable (db : Db) (row : MessageLogRow)

@[simp] theorem Db.insertLog_wallets : (db.insertLog row).wallets = db.wallets := rfl

@[simp] theorem Db.insertLog_transactions : (db.insertLog row).transactions = db.transactions := rfl

@[simp] theorem Db.insertLog_messages : (db.insertLog row).messages = db.messages := rfl

@[simp] theorem Db.insertLog_nextMessageId : (db.insertLog row).nextMessageId = db.nextMessageId := rfl

@[simp] theorem Db.insertLog_outbox : (db.insertLog row).outbox = db.outbox := rfl

@[simp] theorem Db.insertLog_suppressed : (db.insertLog row).suppressed = db.suppressed := rfl

@[simp] theorem Db.insertLog_messageLogs : (db.insertLog row).messageLogs = db.messageLogs ++ [row] := rfl

@[simp] theorem Db.insertLog_dlrWebhooks : (db.insertLog row).dlrWebhooks = db.dlrWebhooks := rfl

@[simp] theorem Db.insertLog_nextWebhookId : (db.insertLog row).nextWebhookId = db.nextWebhookId := rfl

@[simp] theorem Db.insertLog_reconciliationEvents :
    (db.insertLog row).reconciliationEvents = db.reconciliationEvents := rfl

end InsertLog

/-- The INSERT of `logEvent`. -/
def insertLog (row : MessageLogRow) : Tx Unit := do
  row.checkColumns
  modify fun db => db.insertLog row

def logEvent (messageRef : MessageCompositeId) (eventType : String) (statusFrom statusTo : Option MessageStatus)
    (providerId : Option Nat) (providerMessageId : Option String) (attemptNo : Nat) : Tx Unit :=
  insertLog (logRow messageRef eventType statusFrom statusTo providerId providerMessageId attemptNo)

theorem MessageLogRow.checkColumns_ok {row : MessageLogRow} : row.checkColumns = .ok () ↔ row.Storable := by
  unfold MessageLogRow.checkColumns
  rw [except_seq_eq_ok, checkVarchar_ok, checkSmallint_ok]
  exact ⟨fun ⟨hid, hcount⟩ => ⟨hid, hcount⟩, fun ⟨hid, hcount⟩ => ⟨hid, hcount⟩⟩

theorem insertLog_ok {row : MessageLogRow} {db db' : Db} :
    (insertLog row).run db = .ok ((), db') ↔ row.Storable ∧ db' = db.insertLog row := by
  unfold insertLog
  rw [bind_eq_ok]
  constructor
  · rintro ⟨_, db₁, hcheck, hmodify⟩
    obtain ⟨hcolumns, rfl⟩ := lift_eq_ok.1 hcheck
    cases hmodify
    exact ⟨MessageLogRow.checkColumns_ok.1 hcolumns, rfl⟩
  · rintro ⟨hstorable, rfl⟩
    exact ⟨(), db, lift_eq_ok.2 ⟨MessageLogRow.checkColumns_ok.2 hstorable, rfl⟩, rfl⟩

/-- JavaScript's truthiness of an optional string. -/
def truthy (text : Option String) : Bool := text.any fun t => decide (t ≠ "")

/-- The submission of the same day that the lookup finds by idempotency key or client message id. -/
def Db.findExisting (db : Db) (clock : TxClock) (submission : Submission) : Option MessageRow :=
  db.messages.find? fun row => decide (row.submitDate = clock.currentDate ∧ row.tenantId = submission.tenantId ∧
    ((submission.idempotencyKey.isSome ∧ row.apiIdempotencyKey = submission.idempotencyKey) ∨
      (submission.clientMessageId.isSome ∧ row.clientMessageId = submission.clientMessageId)))

/-- The inserted row, with the column defaults of the table. -/
def Submission.row (submission : Submission) (clock : TxClock) (id : Nat) : MessageRow where
  id := id
  submitDate := clock.currentDate
  tenantId := submission.tenantId
  campaignId := none
  apiKeyId := submission.apiKeyId
  clientMessageId := submission.clientMessageId
  apiIdempotencyKey := submission.idempotencyKey
  sourceAddr := some submission.senderId
  phoneNumber := submission.phoneNumber
  body := submission.body
  bodyHash := some submission.bodyHash
  messageParts := submission.messageParts
  trafficType := submission.trafficType
  status := .accepted
  billingState := .reserved
  providerId := some submission.routePreview.providerId
  smppConfigId := submission.routePreview.smppConfigId
  routeRuleId := some submission.routePreview.routingRuleId
  providerMessageId := none
  priceMinor := submission.totalSellPriceMinor
  costMinor := submission.totalProviderCostMinor
  attemptCount := 0
  lastErrorCode := none
  lastErrorMessage := none
  acceptedAt := clock.now
  sentAt := none
  deliveredAt := none
  failedAt := none
  version := 0
  stateChangedAt := clock.now

/-- `uq_messages_api_idempotency` on the date, the tenant and the key, where NULL keys do not collide. -/
def Db.violatesApiIdempotency (db : Db) (row : MessageRow) : Bool :=
  row.apiIdempotencyKey.isSome && db.messages.any fun other => decide (other.submitDate = row.submitDate ∧
    other.tenantId = row.tenantId ∧ other.apiIdempotencyKey = row.apiIdempotencyKey)

/-- The texts among the parameters of the INSERT. -/
def Submission.texts (submission : Submission) : List String :=
  submission.clientMessageId.toList ++ submission.idempotencyKey.toList ++
    [submission.senderId, submission.phoneNumber, submission.body] ++ submission.templateRef.toList

/-- The texts and the number of parts fit the columns of `messages`. -/
structure Submission.Storable (submission : Submission) : Prop where
  clean : ∀ text ∈ submission.texts, Clean text
  clientMessageId : FitsVarchar 100 submission.clientMessageId
  idempotencyKey : FitsVarchar 128 submission.idempotencyKey
  senderId : FitsVarchar 32 (some submission.senderId)
  phoneNumber : FitsVarchar 20 (some submission.phoneNumber)
  messageParts : submission.messageParts ≤ maxSmallint
  templateRef : FitsVarchar 100 submission.templateRef

/-- The column types of `messages`, in the order of the table. -/
def Submission.checkColumns (submission : Submission) : Except Failure Unit := do
  checkTexts submission.texts
  checkVarchar 100 submission.clientMessageId
  checkVarchar 128 submission.idempotencyKey
  checkVarchar 32 (some submission.senderId)
  checkVarchar 20 (some submission.phoneNumber)
  checkSmallint submission.messageParts
  checkVarchar 100 submission.templateRef

theorem Submission.storable_iff {submission : Submission} : submission.Storable ↔
    (∀ text ∈ submission.texts, Clean text) ∧ FitsVarchar 100 submission.clientMessageId ∧ FitsVarchar 128 submission.idempotencyKey ∧
      FitsVarchar 32 (some submission.senderId) ∧ FitsVarchar 20 (some submission.phoneNumber) ∧
      submission.messageParts ≤ maxSmallint ∧ FitsVarchar 100 submission.templateRef := by
  constructor
  · rintro ⟨hclean, hclient, hkey, hsender, hphone, hparts, htemplate⟩
    exact ⟨hclean, hclient, hkey, hsender, hphone, hparts, htemplate⟩
  · rintro ⟨hclean, hclient, hkey, hsender, hphone, hparts, htemplate⟩
    exact ⟨hclean, hclient, hkey, hsender, hphone, hparts, htemplate⟩

theorem Submission.checkColumns_ok {submission : Submission} :
    submission.checkColumns = .ok () ↔ submission.Storable := by
  unfold Submission.checkColumns
  simp only [except_seq_eq_ok, checkTexts_ok, checkVarchar_ok, checkSmallint_ok, Submission.storable_iff]

instance (submission : Submission) : Decidable submission.Storable :=
  decidable_of_iff _ Submission.storable_iff.symm

def insertMessage (clock : TxClock) (submission : Submission) : Tx MessageRow := do
  let db ← get
  submission.checkColumns
  let row := submission.row clock db.nextMessageId
  if db.violatesApiIdempotency row then
    throw (.uniqueViolation "uq_messages_api_idempotency")
  set { db with messages := db.messages ++ [row], nextMessageId := db.nextMessageId + 1 }
  return row

/-- The `message.accepted` event of a new row. -/
def acceptedEvent (submission : Submission) (message : MessageRow) : OutboxEventInput where
  tenantId := some message.tenantId
  aggregateType := "message"
  aggregateId := buildAggregateId message.composite
  eventType := .messageAccepted
  topicName := .smsAccepted
  partitionKey := message.tenantId.text
  dedupeKey := acceptedKey message.composite
  payload := .message {
    submitDate := message.submitDate
    tenantId := message.tenantId
    messageId := message.id
    version := message.version
    phoneNumber := message.phoneNumber
    body := message.body
    senderId := submission.senderId
    trafficType := message.trafficType
    providerId := some submission.routePreview.providerId
    smppConfigId := submission.routePreview.smppConfigId }

def createMessage (clock : TxClock) (submission : Submission) : Tx MessageRow := do
  let message ← insertMessage clock submission
  let _ ← reserveWallet clock submission.tenantId submission.totalSellPriceMinor (reserveKey message.composite)
    message.composite
  logEvent message.composite "api_accepted" none (some .accepted) (some submission.routePreview.providerId) none 0
  enqueue clock (acceptedEvent submission message)
  return message

/-- The transaction of `submitMessageWithContext`; the row that answers the request. -/
def submitMessageWithContext (clock : TxClock) (submission : Submission) : Tx MessageRow := do
  let db ← get
  if truthy submission.idempotencyKey || truthy submission.clientMessageId then
    match db.findExisting clock submission with
    | some existing => return existing
    | none => createMessage clock submission
  else createMessage clock submission

/-! ### What a submission does -/

/-- The statements of `createMessage` after the INSERT: the reservation, the log row and the event. -/
def chargeMessage (clock : TxClock) (submission : Submission) (message : MessageRow) : Tx MessageRow := do
  let _ ← reserveWallet clock submission.tenantId submission.totalSellPriceMinor (reserveKey message.composite)
    message.composite
  logEvent message.composite "api_accepted" none (some .accepted) (some submission.routePreview.providerId) none 0
  enqueue clock (acceptedEvent submission message)
  return message

theorem createMessage_eq (clock : TxClock) (submission : Submission) :
    createMessage clock submission = insertMessage clock submission >>= chargeMessage clock submission := rfl

/-- What the statements after the INSERT have done: they reserved the price, logged, and enqueued the
`message.accepted` event. -/
structure Charged (clock : TxClock) (submission : Submission) (message : MessageRow) (db db' : Db) where
  posted : Bool
  reserved : Db
  bill : LedgerEffect clock submission.tenantId submission.totalSellPriceMinor .reserve
    (reserveKey message.composite) message.composite db posted reserved
  db_eq : db' = (reserved.insertLog (logRow message.composite "api_accepted" none (some .accepted)
    (some submission.routePreview.providerId) none 0)).enqueue clock (acceptedEvent submission message)

theorem chargeMessage_ok {clock : TxClock} {submission : Submission} {message result : MessageRow} {db db' : Db}
    (h : (chargeMessage clock submission message).run db = .ok (result, db')) :
    result = message ∧ Nonempty (Charged clock submission message db db') := by
  obtain ⟨posted, db₁, hreserve, h⟩ := bind_eq_ok.1 h
  obtain ⟨_, db₂, hlog, h⟩ := bind_eq_ok.1 h
  obtain ⟨_, db₃, henqueue, hret⟩ := bind_eq_ok.1 h
  obtain ⟨-, rfl⟩ := insertLog_ok.1 hlog
  cases henqueue
  cases hret
  exact ⟨rfl, ⟨posted, db₁, applyWalletLedger_ok.1 hreserve, rfl⟩⟩

/-- What a transaction that creates a message has done: it appended the row under a fresh id, reserved the price,
logged, and enqueued the `message.accepted` event. -/
structure Created (clock : TxClock) (submission : Submission) (db : Db) (message : MessageRow) (db' : Db) where
  posted : Bool
  reserved : Db
  message_eq : message = submission.row clock db.nextMessageId
  bill : LedgerEffect clock submission.tenantId submission.totalSellPriceMinor .reserve
    (reserveKey message.composite) message.composite
    { db with messages := db.messages ++ [message], nextMessageId := db.nextMessageId + 1 } posted reserved
  db_eq : db' = (reserved.insertLog (logRow message.composite "api_accepted" none (some .accepted)
    (some submission.routePreview.providerId) none 0)).enqueue clock (acceptedEvent submission message)

theorem insertMessage_ok {clock : TxClock} {submission : Submission} {db db' : Db} {message : MessageRow}
    (h : (insertMessage clock submission).run db = .ok (message, db')) :
    message = submission.row clock db.nextMessageId ∧ submission.Storable ∧
      db.violatesApiIdempotency message = false ∧
        db' = { db with messages := db.messages ++ [message], nextMessageId := db.nextMessageId + 1 } := by
  unfold insertMessage at h
  rw [bind_of_ok (a := db) (t := db) rfl] at h
  obtain ⟨_, db₁, hcheck, h⟩ := bind_eq_ok.1 h
  obtain ⟨hcolumns, rfl⟩ := lift_eq_ok.1 hcheck
  dsimp only at h
  split at h
  · cases h
  · rename_i hfree
    cases h
    exact ⟨rfl, Submission.checkColumns_ok.1 hcolumns, by simpa using hfree, rfl⟩

/-- The INSERT of a submission that fits its columns under a key that is free. -/
theorem insertMessage_run {clock : TxClock} {submission : Submission} {db : Db} (hstorable : submission.Storable)
    (hfree : db.violatesApiIdempotency (submission.row clock db.nextMessageId) = false) :
    (insertMessage clock submission).run db = .ok (submission.row clock db.nextMessageId,
      { db with
        messages := db.messages ++ [submission.row clock db.nextMessageId]
        nextMessageId := db.nextMessageId + 1 }) := by
  have hcheck : (liftM submission.checkColumns : Tx Unit).run db = .ok ((), db) :=
    lift_eq_ok.2 ⟨Submission.checkColumns_ok.2 hstorable, rfl⟩
  unfold insertMessage
  rw [bind_of_ok (a := db) (t := db) rfl, bind_of_ok hcheck]
  dsimp only
  rw [if_neg (by rw [hfree]; exact Bool.false_ne_true)]
  rfl

theorem createMessage_ok {clock : TxClock} {submission : Submission} {db db' : Db} {message : MessageRow}
    (h : (createMessage clock submission).run db = .ok (message, db')) :
    Nonempty (Created clock submission db message db') := by
  rw [createMessage_eq] at h
  obtain ⟨row, db₁, hinsert, hcharge⟩ := bind_eq_ok.1 h
  obtain ⟨hrow, -, -, rfl⟩ := insertMessage_ok hinsert
  obtain ⟨rfl, ⟨charged⟩⟩ := chargeMessage_ok hcharge
  exact ⟨charged.posted, charged.reserved, hrow, charged.bill, charged.db_eq⟩

/-- A submission that succeeds has found an earlier one and changed nothing, or has created a message. -/
theorem submitMessageWithContext_ok {clock : TxClock} {submission : Submission} {db db' : Db} {message : MessageRow}
    (h : (submitMessageWithContext clock submission).run db = .ok (message, db')) :
    db' = db ∨ Nonempty (Created clock submission db message db') := by
  unfold submitMessageWithContext at h
  rw [bind_of_ok (a := db) (t := db) rfl] at h
  split at h
  · split at h
    · cases h
      exact .inl rfl
    · exact .inr (createMessage_ok h)
  · exact .inr (createMessage_ok h)

end SmsPlatform
