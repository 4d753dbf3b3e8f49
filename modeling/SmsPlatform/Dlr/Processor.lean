import Mathlib.Data.List.Sort
import SmsPlatform.Lib.Numerals
import SmsPlatform.Messages.Submission

/-!
# Delivery reports

`acceptWebhook` of `dlr.service.ts`, `correlateMessageForDlr` of `messages.service.ts` and `processWebhook` of
`dlr.processor.service.ts`, with the consumer of reconciliation events.  Under a list of keys, both services take the
first string that is not empty, or the first finite number, out of a provider's JSON object.  `DatePrinter` is the text
a template literal makes of a DATE column, which the driver delivers as a Date object.
-/

namespace SmsPlatform

open Segments StateExcept

/-- The text of a DATE column in a template literal of the DLR services. -/
abbrev DatePrinter := SqlDate → String

/-! ### Extraction -/

def extractFirstString (payload : JsonObject) (keys : List String) : Option String :=
  keys.findSome? fun key =>
    match payload.lookup key with
    | some (.string text) => if text = "" then none else some text
    | _ => none

def extractFirstNumber (payload : JsonObject) (keys : List String) : Option ℚ :=
  keys.findSome? fun key =>
    match payload.lookup key with
    | some (.number value) => some value
    | some (.string text) =>
      if text = "" then none
      else match Numerals.toNumber text.toList with
        | .finite value => some value
        | _ => none
    | _ => none

/-- Of the letters that `toLowerCase` changes, only those of ASCII occur in the words compared with. -/
def normalizeStatus (payload : JsonObject) : DlrStatus :=
  let candidates := ["status", "deliveryStatus", "delivery_status", "message_status", "state"].filterMap fun key =>
    match payload.lookup key with
    | some (.string text) => some (text.map Char.toLower)
    | _ => none
  if candidates.any fun value => value ∈ ["delivered", "deliverd", "success", "successdelivrd"] then .delivered
  else if candidates.any fun value => value ∈ ["failed", "undelivered", "rejected", "expired", "deleted"] then .failed
  else .unknown

/-- What is computed outside the program: SHA-256 in hexadecimal, and the readings of a text as a UUID and as a
TIMESTAMPTZ, `none` when PostgreSQL raises an error.  A time that cannot be moved by six hours counts as such an error,
and an infinite time is the microsecond count it is stored as, far from every other. -/
structure DlrReadings where
  sha256 : String → String
  uuid : String → Option TenantId
  timestamptz : String → Option Timestamp

def extractFields (readings : DlrReadings) (payload : JsonObject) : ExtractedFields where
  phoneNumber := extractFirstString payload ["phoneNumber", "phone_number", "to", "destination"]
  senderId := extractFirstString payload ["senderId", "sender_id", "from", "source"]
  eventAt := extractFirstString payload ["eventAt", "event_at", "deliveredAt", "submitDate", "sentAt"]
  bodyHash := (extractFirstString payload ["bodyHash", "body_hash"]).or
    ((extractFirstString payload ["body", "text", "message", "shortMessage"]).map readings.sha256)
  campaignId := extractFirstNumber payload ["campaignId", "campaign_id"]
  routeRuleId := extractFirstNumber payload ["routeRuleId", "route_rule_id"]

/-! ### Accepting a webhook -/

/-- What `acceptWebhook` extracts from a request before its transaction. -/
structure DlrWebhookInput where
  providerId : Nat
  tenantId : Option TenantId
  providerMessageId : Option String
  callbackId : Option String
  payload : JsonObject
  normalizedStatus : DlrStatus

/-- A request to the endpoint of a provider; `requestId` is the header `x-request-id` if it is one string. -/
structure DlrRequest where
  providerId : Nat
  payload : JsonObject
  requestId : Option String

/-- What `acceptWebhook` inserts, unless PostgreSQL does not read the tenant id. -/
def DlrRequest.input (readings : DlrReadings) (request : DlrRequest) : Option DlrWebhookInput :=
  let payload := request.payload
  let tenantId := match extractFirstString payload ["tenantId", "tenant_id"] with
    | none => some none
    | some text => (readings.uuid text).map some
  tenantId.map fun tenantId =>
    { providerId := request.providerId
      tenantId := tenantId
      providerMessageId :=
        extractFirstString payload ["providerMessageId", "provider_message_id", "messageId", "message_id"]
      callbackId :=
        (extractFirstString payload ["callbackId", "callback_id", "eventId", "event_id"]).or request.requestId
      payload := payload
      normalizedStatus := normalizeStatus payload }

def DlrWebhookInput.row (input : DlrWebhookInput) (clock : TxClock) (id : Nat) : DlrWebhookRow where
  id := id
  receivedDate := clock.currentDate
  providerId := input.providerId
  tenantId := input.tenantId
  providerMessageId := input.providerMessageId
  callbackId := input.callbackId
  payload := input.payload
  normalizedStatus := some input.normalizedStatus
  processed := false
  processingError := none

/-- The assignments of `ON CONFLICT … DO UPDATE SET`; `processed` is not among them. -/
def DlrWebhookInput.merge (input : DlrWebhookInput) (row : DlrWebhookRow) : DlrWebhookRow :=
  { row with
    tenantId := row.tenantId.or input.tenantId
    providerMessageId := input.providerMessageId.or row.providerMessageId
    payload := input.payload
    normalizedStatus := some input.normalizedStatus }

/-- `uq_dlr_webhooks_callback_id`, the conflict target: NULL callback ids do not collide. -/
def DlrWebhookInput.conflicts (input : DlrWebhookInput) (clock : TxClock) (row : DlrWebhookRow) : Bool :=
  input.callbackId.isSome && decide (row.receivedDate = clock.currentDate ∧ row.providerId = input.providerId ∧
    row.callbackId = input.callbackId)

/-- The request fits the columns of `dlr_webhooks`. -/
structure DlrWebhookInput.Storable (input : DlrWebhookInput) : Prop where
  clean : ∀ text ∈ input.providerMessageId.toList ++ input.callbackId.toList, Clean text
  payload : cleanFields input.payload = true
  providerMessageId : FitsVarchar 128 input.providerMessageId
  callbackId : FitsVarchar 128 input.callbackId

theorem DlrWebhookInput.storable_iff {input : DlrWebhookInput} : input.Storable ↔
    (∀ text ∈ input.providerMessageId.toList ++ input.callbackId.toList, Clean text) ∧
      cleanFields input.payload = true ∧ FitsVarchar 128 input.providerMessageId ∧ FitsVarchar 128 input.callbackId := by
  constructor
  · rintro ⟨hclean, hpayload, hid, hcallback⟩
    exact ⟨hclean, hpayload, hid, hcallback⟩
  · rintro ⟨hclean, hpayload, hid, hcallback⟩
    exact ⟨hclean, hpayload, hid, hcallback⟩

instance DlrWebhookInput.decidableStorable (input : DlrWebhookInput) : Decidable input.Storable :=
  decidable_of_iff _ DlrWebhookInput.storable_iff.symm

def DlrWebhookInput.checkColumns (input : DlrWebhookInput) : Except Failure Unit := do
  checkTexts (input.providerMessageId.toList ++ input.callbackId.toList)
  storeObject input.payload
  checkVarchar 128 input.providerMessageId
  checkVarchar 128 input.callbackId

theorem DlrWebhookInput.checkColumns_ok {input : DlrWebhookInput} : input.checkColumns = .ok () ↔ input.Storable := by
  unfold DlrWebhookInput.checkColumns
  simp only [except_seq_eq_ok, checkTexts_ok, storeObject_ok, checkVarchar_ok, DlrWebhookInput.storable_iff]

/-- The columns refuse a text before the statement looks for a conflict. -/
def upsertWebhook (clock : TxClock) (input : DlrWebhookInput) : Tx DlrWebhookRow := do
  input.checkColumns
  let db ← get
  match Rows.splitFirst (input.conflicts clock) db.dlrWebhooks with
  | some (before, row, after) =>
    set { db with dlrWebhooks := before ++ input.merge row :: after }
    return input.merge row
  | none =>
    let row := input.row clock db.nextWebhookId
    set { db with dlrWebhooks := db.dlrWebhooks ++ [row], nextWebhookId := db.nextWebhookId + 1 }
    return row

/-- `dlr:${received_date}:${id}`. -/
def dlrKey (printer : DatePrinter) (row : DlrWebhookRow) : String :=
  joinColon ["dlr", printer row.receivedDate, row.id.repr]

def dlrReceivedEvent (printer : DatePrinter) (input : DlrWebhookInput) (row : DlrWebhookRow) : OutboxEventInput where
  tenantId := input.tenantId
  aggregateType := "dlr_webhook"
  aggregateId := joinColon [printer row.receivedDate, row.id.repr]
  eventType := .dlrReceived
  topicName := .smsDlr
  partitionKey := input.providerId.repr
  dedupeKey := dlrKey printer row
  payload := .dlr { receivedDate := row.receivedDate, webhookId := row.id, providerId := input.providerId }

def acceptWebhook (clock : TxClock) (printer : DatePrinter) (input : DlrWebhookInput) : Tx Unit := do
  let row ← upsertWebhook clock input
  enqueue clock (dlrReceivedEvent printer input row)

/-- The row that an accepted webhook is kept in. -/
theorem upsertWebhook_cases {clock : TxClock} {input : DlrWebhookInput} {db db' : Db} {row : DlrWebhookRow}
    (h : (upsertWebhook clock input).run db = .ok (row, db')) : input.Storable ∧
    ((∃ before old after, db.dlrWebhooks = before ++ old :: after ∧ input.conflicts clock old = true ∧
      row = input.merge old ∧ db' = { db with dlrWebhooks := before ++ input.merge old :: after }) ∨
    ((∀ old ∈ db.dlrWebhooks, input.conflicts clock old = false) ∧ row = input.row clock db.nextWebhookId ∧
      db' = { db with
        dlrWebhooks := db.dlrWebhooks ++ [input.row clock db.nextWebhookId]
        nextWebhookId := db.nextWebhookId + 1 })) := by
  unfold upsertWebhook at h
  obtain ⟨_, db₁, hcheck, hrest⟩ := bind_eq_ok.1 h
  obtain ⟨hcolumns, hdb : db₁ = db⟩ := lift_eq_ok.1 hcheck
  subst hdb
  refine ⟨DlrWebhookInput.checkColumns_ok.1 hcolumns, ?_⟩
  rw [bind_of_ok (a := db₁) (t := db₁) rfl] at hrest
  cases hsplit : Rows.splitFirst (input.conflicts clock) db₁.dlrWebhooks with
  | some parts =>
    obtain ⟨before, old, after⟩ := parts
    obtain ⟨hrows, hconflicts⟩ := Rows.eq_append_of_splitFirst hsplit
    rw [hsplit] at hrest
    cases hrest
    exact .inl ⟨before, old, after, hrows, hconflicts, rfl, rfl⟩
  | none =>
    rw [hsplit] at hrest
    cases hrest
    exact .inr ⟨Rows.splitFirst_eq_none.1 hsplit, rfl, rfl⟩

/-! ### Correlation -/

/-- The extracted fields as PostgreSQL reads them. -/
structure DlrFields where
  phoneNumber : Option String := none
  senderId : Option String := none
  eventAt : Option Timestamp := none
  bodyHash : Option String := none
  campaignId : Option Nat := none
  routeRuleId : Option Nat := none
  deriving DecidableEq

structure DlrCorrelationInput where
  tenantId : Option TenantId
  providerId : Nat
  providerMessageId : Option String
  fields : DlrFields

/-- `sent_at DESC NULLS LAST`. -/
def sentAtDescNullsLast (a b : MessageRow) : Ordering :=
  match a.sentAt, b.sentAt with
  | some s, some t => compare t s
  | some _, none => .lt
  | none, some _ => .gt
  | none, none => .eq

/-- ORDER BY; `tie` is the order in which PostgreSQL happens to deliver rows with equal sort keys. -/
def orderBy (cmp : MessageRow → MessageRow → Ordering) (tie : MessageRow → Nat) (rows : List MessageRow) :
    List MessageRow :=
  rows.insertionSort fun a b => ((cmp a b).then (compare (tie a) (tie b))).isLE = true

/-- The WHERE clause of the direct lookup; in SQL a comparison with NULL is not true. -/
def directMatch (input : DlrCorrelationInput) (row : MessageRow) : Bool :=
  decide (row.providerId = some input.providerId ∧ (input.tenantId = none ∨ input.tenantId = some row.tenantId) ∧
    row.providerMessageId.isSome ∧ row.providerMessageId = input.providerMessageId)

def microsPerSecond : Nat := 1000000

def hours (n : Nat) : Int := n * 3600 * microsPerSecond

/-- The WHERE clause of the fallback lookup. -/
def fallbackMatch (clock : TxClock) (input : DlrCorrelationInput) (row : MessageRow) : Bool :=
  decide (row.providerId = some input.providerId ∧ (input.tenantId = none ∨ input.tenantId = some row.tenantId) ∧
    some row.phoneNumber = input.fields.phoneNumber) &&
  match row.sentAt with
  | none => false
  | some sentAt =>
    decide ((input.fields.eventAt.map (· - hours 6)).getD (clock.now - hours 24) ≤ sentAt ∧
      sentAt ≤ (input.fields.eventAt.map (· + hours 6)).getD clock.now)

/-- `CASE WHEN wanted IS NOT NULL AND column = wanted THEN points ELSE 0 END`. -/
def scoreIfEqual {α : Type} [DecidableEq α] (wanted column : Option α) (points : Nat) : Nat :=
  if wanted.isSome ∧ column = wanted then points else 0

def confidenceScore (input : DlrCorrelationInput) (row : MessageRow) : Nat :=
  scoreIfEqual input.fields.senderId row.sourceAddr 3 +
  scoreIfEqual input.fields.bodyHash row.bodyHash 6 +
  scoreIfEqual input.fields.campaignId row.campaignId 4 +
  scoreIfEqual input.fields.routeRuleId row.routeRuleId 4 +
  match input.fields.eventAt, row.sentAt with
  | some eventAt, some sentAt =>
    if (sentAt - eventAt).natAbs ≤ 900 * microsPerSecond then 3
    else if (sentAt - eventAt).natAbs ≤ 21600 * microsPerSecond then 1
    else 0
  | _, _ => 0

/-- `confidence_score DESC, sent_at DESC NULLS LAST`. -/
def fallbackOrder (input : DlrCorrelationInput) (a b : MessageRow) : Ordering :=
  (compare (confidenceScore input b) (confidenceScore input a)).then (sentAtDescNullsLast a b)

def correlateFallback (db : Db) (clock : TxClock) (tie : MessageRow → Nat) (input : DlrCorrelationInput) :
    Option MessageRow :=
  match (orderBy (fallbackOrder input) tie (db.messages.filter (fallbackMatch clock input))).take 5 with
  | [] => none
  | best :: rest =>
    if confidenceScore input best < 4 then none
    else match rest with
      | [] => some best
      | runnerUp :: _ => if confidenceScore input runnerUp = confidenceScore input best then none else some best

def correlateMessageForDlr (db : Db) (clock : TxClock) (tie : MessageRow → Nat) (input : DlrCorrelationInput) :
    Option MessageRow :=
  let direct :=
    if truthy input.providerMessageId then
      (orderBy sentAtDescNullsLast tie (db.messages.filter (directMatch input))).head?
    else none
  match direct with
  | some row => some row
  | none => if truthy input.fields.phoneNumber then correlateFallback db clock tie input else none

/-! ### What a correlation finds -/

theorem mem_orderBy {cmp : MessageRow → MessageRow → Ordering} {tie : MessageRow → Nat} {rows : List MessageRow}
    {row : MessageRow} : row ∈ orderBy cmp tie rows ↔ row ∈ rows :=
  List.mem_insertionSort _

theorem correlateFallback_mem {db : Db} {clock : TxClock} {tie : MessageRow → Nat} {input : DlrCorrelationInput}
    {row : MessageRow} (h : correlateFallback db clock tie input = some row) :
    row ∈ db.messages ∧ fallbackMatch clock input row = true := by
  have hsub : ∀ best ∈ (orderBy (fallbackOrder input) tie (db.messages.filter (fallbackMatch clock input))).take 5,
      best ∈ db.messages ∧ fallbackMatch clock input best = true := by
    intro best hbest
    simpa [mem_orderBy] using List.mem_of_mem_take hbest
  unfold correlateFallback at h
  split at h
  · cases h
  · rename_i best rest hsorted
    rw [hsorted] at hsub
    split at h
    · cases h
    · split at h
      · cases h
        exact hsub _ (by simp)
      · split at h
        · cases h
        · cases h
          exact hsub _ (by simp)

/-- A correlated message is in the table; it matches the direct lookup, or the fallback lookup when no row matches
the direct one. -/
theorem correlateMessageForDlr_mem {db : Db} {clock : TxClock} {tie : MessageRow → Nat} {input : DlrCorrelationInput}
    {row : MessageRow} (h : correlateMessageForDlr db clock tie input = some row) :
    row ∈ db.messages ∧ (directMatch input row = true ∨ fallbackMatch clock input row = true) := by
  unfold correlateMessageForDlr at h
  dsimp only at h
  split at h
  · rename_i direct hdirect
    cases h
    split at hdirect
    · have hmem := List.mem_of_head? hdirect
      rw [mem_orderBy, List.mem_filter] at hmem
      exact ⟨hmem.1, .inl hmem.2⟩
    · cases hdirect
  · split at h
    · obtain ⟨hm, hf⟩ := correlateFallback_mem h
      exact ⟨hm, .inr hf⟩
    · cases h

/-! ### Processing a webhook -/

/-- The SELECT of `processWebhook`. -/
def Db.findWebhook (db : Db) (payload : DlrEventPayload) : Option DlrWebhookRow :=
  db.dlrWebhooks.find? fun row => decide (row.receivedDate = payload.receivedDate ∧ row.id = payload.webhookId ∧
    row.providerId = payload.providerId)

/-- An UPDATE of the webhook with this date and id. -/
def Db.updateWebhook (db : Db) (receivedDate : SqlDate) (webhookId : Nat) (assign : DlrWebhookRow → DlrWebhookRow) :
    Db :=
  { db with dlrWebhooks := db.dlrWebhooks.map fun row =>
      if row.receivedDate = receivedDate ∧ row.id = webhookId then assign row else row }

def updateWebhook (webhook : DlrWebhookRow) (assign : DlrWebhookRow → DlrWebhookRow) : Tx Unit :=
  modify fun db => db.updateWebhook webhook.receivedDate webhook.id assign

def markProcessed (webhook : DlrWebhookRow) (processingError : String) : Tx Unit :=
  updateWebhook webhook fun row => { row with processed := true, processingError := some processingError }

/-- The UPDATE that ends the two applying transactions. -/
def markApplied (webhook : DlrWebhookRow) (message : MessageRow) : Tx Unit :=
  updateWebhook webhook fun row => { row with processed := true, tenantId := row.tenantId.or (some message.tenantId) }

/-- `dlr:${received_date}:${id}:reconcile:${reason}`. -/
def dlrReconcileKey (printer : DatePrinter) (row : DlrWebhookRow) (reason : String) : String :=
  joinColon ["dlr", printer row.receivedDate, row.id.repr, "reconcile", reason]

def dlrReconcileEvent (printer : DatePrinter) (webhook : DlrWebhookRow) (reason : String)
    (extra : DlrReconcileExtra) : OutboxEventInput where
  tenantId := webhook.tenantId
  aggregateType := "dlr_webhook"
  aggregateId := joinColon [printer webhook.receivedDate, webhook.id.repr]
  eventType := .dlrReconcile
  topicName := .smsReconcile
  partitionKey := (webhook.tenantId.map (·.text)).getD webhook.providerId.repr
  dedupeKey := dlrReconcileKey printer webhook reason
  payload := .reconcile {
    tenantId := webhook.tenantId
    providerId := some webhook.providerId
    submitDate := none
    messageId := none
    kind := "dlr_unmatched"
    reason := reason
    payload := .dlr webhook.receivedDate webhook.id webhook.providerMessageId webhook.normalizedStatus extra
      webhook.payload }

def enqueueReconciliation (clock : TxClock) (printer : DatePrinter) (webhook : DlrWebhookRow) (reason : String)
    (extra : DlrReconcileExtra) : Tx Unit := do
  enqueue clock (dlrReconcileEvent printer webhook reason extra)
  markProcessed webhook reason

/-- The transaction of a delivered report. -/
def dlrDeliveredTx (clock : TxClock) (webhook : DlrWebhookRow) (message : MessageRow) : Tx Unit := do
  let updated ← transitionMessage clock message .delivered {} false
  logEvent message.composite "delivered" (some .providerAccepted) (some .delivered) updated.providerId
    updated.providerMessageId updated.attemptCount
  markApplied webhook message

def dlrFailedFields (message : MessageRow) : MessageFields where
  lastErrorCode := some (some "dlr_failed")
  lastErrorMessage := some (some "Provider DLR marked message as failed")
  billingState := some (if message.billingState = .reserved then .released else message.billingState)

/-- The transaction of a failed report. -/
def dlrFailedTx (clock : TxClock) (printer : DatePrinter) (webhook : DlrWebhookRow) (message : MessageRow) :
    Tx Unit := do
  let updated ← transitionMessage clock message .failed (dlrFailedFields message) false
  if message.billingState = .reserved then
    let _ ← releaseReservedWallet clock message.tenantId message.priceMinor
      (releaseKey (printer message.submitDate) message.composite .dlr) message.composite
  logEvent message.composite "failed" (some message.status) (some .failed) updated.providerId
    updated.providerMessageId updated.attemptCount
  markApplied webhook message

/-- `processWebhook` after the correlation. -/
def processCorrelatedTx (readings : DlrReadings) (clock : TxClock) (printer : DatePrinter) (webhook : DlrWebhookRow) :
    Option MessageRow → Tx Unit
  | none =>
    enqueueReconciliation clock printer webhook "message_not_found" (.fields (extractFields readings webhook.payload))
  | some message =>
    match webhook.normalizedStatus with
    | none => enqueueReconciliation clock printer webhook "unknown_status" (.correlated message.id)
    | some .unknown => enqueueReconciliation clock printer webhook "unknown_status" (.correlated message.id)
    | some .delivered =>
      if message.status = .delivered then markProcessed webhook "duplicate_delivered"
      else if message.status ≠ .providerAccepted then
        enqueueReconciliation clock printer webhook "invalid_delivered_transition"
          (.transition message.id message.status)
      else dlrDeliveredTx clock webhook message
    | some .failed =>
      if message.status = .failed then markProcessed webhook "duplicate_failed"
      else if message.status ≠ .providerAccepted ∧ message.status ≠ .submitting then
        enqueueReconciliation clock printer webhook "invalid_failed_transition"
          (.transition message.id message.status)
      else dlrFailedTx clock printer webhook message

/-! ### The consumer of reconciliation events -/

def ReconciliationPayload.row (payload : ReconciliationPayload) (clock : TxClock) : ReconciliationEventRow where
  eventDate := clock.currentDate
  tenantId := payload.tenantId
  providerId := payload.providerId
  messageSubmitDate := payload.submitDate
  messageId := payload.messageId
  kind := payload.kind
  reason := payload.reason
  payload := payload.payload
  status := "pending"

def recordReconciliation (clock : TxClock) (payload : ReconciliationPayload) : Tx Unit :=
  modify fun db => { db with reconciliationEvents := db.reconciliationEvents ++ [payload.row clock] }

end SmsPlatform
