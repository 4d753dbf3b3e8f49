import SmsPlatform.Dlr.Payload
import SmsPlatform.Lib.Runs
import SmsPlatform.Pipeline.Works

/-!
# The pipeline as a system

The database, the outbox events on their way through Kafka, and the handler executions in flight.  A step submits a
message, accepts a webhook, delivers an outbox event to its handler, advances an execution to its next transaction or
service call, or crashes an execution.  Any event may be delivered at any time and any number of times, executions of
any number of processes interleave, and each step chooses the clock and the answers of the services anew.  A handler
reads its row when the event is delivered, and writes later, from the row it has read.
-/

namespace SmsPlatform

open StateExcept

/-! ### Executions -/

/-- The row that a handler has read for an event, past its check of the status. -/
structure Job (statuses : List MessageStatus) where
  payload : MessageEventPayload
  message : MessageRow
  found : message.composite = payload.toComposite
  admitted : message.status ∈ statuses

theorem getMessageRow_mem {db : Db} {messageRef : MessageCompositeId} {message : MessageRow}
    (h : getMessageRow db messageRef = .ok message) : message ∈ db.messages ∧ message.composite = messageRef := by
  unfold getMessageRow Db.findMessage at h
  split at h
  · rename_i row hrow
    cases h
    exact ⟨List.mem_of_find?_eq_some hrow, by simpa using List.find?_some hrow⟩
  · cases h

/-- The start of a handler: read the row, return early unless its status is one of `statuses`. -/
def Job.read (statuses : List MessageStatus) (db : Db) (payload : MessageEventPayload) :
    Except Failure (Option (Job statuses)) :=
  match h : getMessageRow db payload.toComposite with
  | .error failure => .error failure
  | .ok message =>
    if hs : message.status ∈ statuses then .ok (some ⟨payload, message, (getMessageRow_mem h).2, hs⟩)
    else .ok none

/-- Where an execution of a handler stands between two of its database accesses. -/
inductive Stage
  | accepted (job : Job [.accepted])
  | retry (job : Job [.submitting])
  | dispatch (job : Job [.routed, .submitting])
  | provider (job : Job [.routed, .submitting]) (submittingVersion : Nat)
  | dispatched (job : Job [.routed, .submitting]) (submittingVersion : Nat) (execution : DispatchExecutionResult)
  | result (job : Job [.submitting])
  | webhook (payload : DlrEventPayload) (webhook : DlrWebhookRow)
  | correlated (webhook : DlrWebhookRow) (message : Option MessageRow)
  | reconcile (payload : ReconciliationPayload)

structure Execution where
  event : Nat
  stage : Stage

/-- What an execution step takes from outside the program. -/
structure Environment where
  clock : TxClock
  services : Services
  tie : MessageRow → Nat
  printer : DatePrinter
  readings : DlrReadings

/-- The subscriptions: which handler an event goes to, up to its first read. -/
def startHandler (db : Db) (row : OutboxRow) : Except Failure (Option Stage) :=
  match row.topicName, row.payload with
  | .smsAccepted, .message payload => (Job.read _ db payload).map (Option.map .accepted)
  | .smsDispatchRealtime, .message payload => (Job.read _ db payload).map (Option.map .dispatch)
  | .smsDispatchBulk, .message payload => (Job.read _ db payload).map (Option.map .dispatch)
  | .smsRetry, .message payload => (Job.read _ db payload).map (Option.map .retry)
  | .smsDispatchResults, .message payload => (Job.read _ db payload).map (Option.map .result)
  | .smsDlr, .dlr payload =>
    match db.findWebhook payload with
    | none => .ok none
    | some webhook => .ok (if webhook.processed then none else some (.webhook payload webhook))
  | .smsReconcile, .reconcile payload => .ok (some (.reconcile payload))
  | _, _ => .error (.error "unexpected payload")

/-- One step of an execution: the next transaction or service call, and the stage it leaves, if any. -/
def Stage.advance (env : Environment) : Stage → Tx (Option Stage)
  | .accepted job => do
    let message := job.message
    match env.services.selectRoute message.tenantId message.phoneNumber message.trafficType
        (acceptedRouteOptions message) with
    | .error e => throw (.error e)
    | .ok route =>
      handleAcceptedTx env.clock job.payload message route
      return none
  | .retry job => do
    handleRetryTx env.clock job.payload job.message
    return none
  | .dispatch job => do
    let evaluation := env.services.evaluate (fraudInput job.payload job.message)
    match evaluation.action with
    | .block =>
      fraudBlockTx env.clock job.payload job.message evaluation
      return none
    | .throttle =>
      fraudThrottleTx env.clock job.payload job.message evaluation
      return none
    | _ =>
      let updated ← submitAttemptTx env.clock job.payload job.message
      return some (.provider job updated.version)
  | .provider job submittingVersion => do
    let db ← get
    return some (.dispatched job submittingVersion (dispatchThroughProvider env.services db job.payload))
  | .dispatched job submittingVersion execution => do
    dispatchResultTx env.clock job.payload job.message submittingVersion execution
    return none
  | .result job => do
    handleDispatchResultTx env.services env.clock job.payload job.message
    return none
  | .webhook payload report => do
    let db ← get
    match report.correlate env.readings db env.clock env.tie payload.providerId with
    | .error failure => throw failure
    | .ok message => return some (.correlated report message)
  | .correlated report message => do
    processCorrelatedTx env.readings env.clock env.printer report message
    return none
  | .reconcile payload => do
    recordReconciliation env.clock payload
    return none

/-- The message a step of this stage submits to a provider, if it does. -/
def Stage.submits (env : Environment) (db : Db) : Stage → Option MessageCompositeId
  | .provider job _ => if submitsToProvider env.services db job.payload then some job.message.composite else none
  | _ => none

/-! ### The system -/

/-- A call of a provider's submit, with the event whose execution makes it. -/
structure ProviderSubmit where
  event : Nat
  message : MessageCompositeId

structure World where
  db : Db
  executions : List Execution
  consumed : List Nat
  submits : List ProviderSubmit

def World.initial (wallets : TenantId → Option WalletRow) : World where
  db := Db.initial wallets
  executions := []
  consumed := []
  submits := []

inductive Action
  | submit (clock : TxClock) (submission : Submission)
  | acceptWebhook (clock : TxClock) (printer : DatePrinter) (input : DlrWebhookInput)
  | deliver (event : Nat)
  | advance (index : Nat) (env : Environment)
  | crash (index : Nat)

/-- Deliver an event: a handler that throws leaves it to be redelivered, one that returns early consumes it. -/
def World.deliver (world : World) (row : OutboxRow) : World :=
  match startHandler world.db row with
  | .error _ => world
  | .ok none => { world with consumed := row.id :: world.consumed }
  | .ok (some stage) => { world with executions := ⟨row.id, stage⟩ :: world.executions }

/-- The provider calls after a step of an execution. -/
def World.submitsAfter (world : World) (execution : Execution) (env : Environment) : List ProviderSubmit :=
  match execution.stage.submits env world.db with
  | some message => ⟨execution.event, message⟩ :: world.submits
  | none => world.submits

/-- Advance an execution that has been taken out of `rest`: when it throws, its transaction is rolled back and the
event may be redelivered; when it returns, the event is consumed. -/
def World.advance (world : World) (execution : Execution) (rest : List Execution) (env : Environment) : World :=
  let submits := world.submitsAfter execution env
  match withTransaction (execution.stage.advance env) world.db with
  | (.error _, db) => { world with db := db, executions := rest, submits := submits }
  | (.ok none, db) =>
    { db := db, executions := rest, consumed := execution.event :: world.consumed, submits := submits }
  | (.ok (some stage), db) =>
    { world with db := db, executions := ⟨execution.event, stage⟩ :: rest, submits := submits }

def World.step (world : World) : Action → Option World
  | .submit clock submission =>
    some { world with db := (withTransaction (submitMessageWithContext clock submission) world.db).2 }
  | .acceptWebhook clock printer input =>
    some { world with db := (withTransaction (acceptWebhook clock printer input) world.db).2 }
  | .deliver event => (world.db.outbox.find? fun row => decide (row.id = event)).map world.deliver
  | .advance index env =>
    world.executions[index]?.map fun execution => world.advance execution (world.executions.eraseIdx index) env
  | .crash index =>
    if index < world.executions.length then some { world with executions := world.executions.eraseIdx index }
    else none

/-! ### A small instance

One provider reached over HTTP: the data of the concrete runs in this development. -/

namespace Sample

def submission : Submission where
  tenantId := tenant
  apiKeyId := none
  idempotencyKey := none
  clientMessageId := none
  senderId := "ACME"
  phoneNumber := "251911000000"
  body := "hello"
  bodyHash := "hash"
  trafficType := .transactional
  messageParts := 1
  routePreview := route
  sellUnitPriceMinor := 10

/-- Services that route every message alike and answer every submit with `result`. -/
def services (action : FraudAction) (maxAttempts : Int) (result : DispatchResult) : Services where
  selectRoute := fun _ _ _ _ => .ok route
  getRetryPolicy := fun _ _ _ => ⟨maxAttempts, [30], ["throttle"]⟩
  evaluate := fun _ => ⟨action, ["rule"]⟩
  getProvider := fun id => .ok ⟨id, .http, some "https://provider", 10⟩
  assertProviderDispatchAllowed := fun _ _ => .ok ()
  getSmppConfig := fun _ => .error "SMPP config not found"
  submit := fun _ => .ok result
  submitSm := fun _ => .ok result

def accepts (providerMessageId : String) : DispatchResult :=
  { accepted := true, providerMessageId := some providerMessageId }

def refuses : DispatchResult := { accepted := false, errorCode := some "throttle" }

def readings : DlrReadings where
  sha256 := id
  uuid := fun _ => none
  timestamptz := fun text => if text = "2026-01-01T00:00:00Z" then some 1767225600000000 else none

def env (time : Timestamp) (services : Services) : Environment where
  clock := clock time
  services := services
  tie := fun row => row.id
  printer := fun date => date.text
  readings := readings

/-- Run a list of actions from a wallet with 100 available. -/
def run (actions : List Action) : Option World :=
  Transition.execute World.step (World.initial (wallets 100)) actions

end Sample

end SmsPlatform
