import SmsPlatform.Messages.Submission

/-!
# The workflow handlers

`message-workflow.service.ts`: for each handler the check it makes on the row it reads, the transactions it runs,
and the events it enqueues.  The services outside the database (routing, retry policies, fraud evaluation, providers
and connectors) enter as functions (`Services`), so that a step of the system can choose their answers freely.
-/

namespace SmsPlatform

open StateExcept

/-! ### The services around the workflow -/

structure RouteSelectionOptions where
  excludedProviderIds : List Nat := []
  excludedRuleIds : List Nat := []
  preferProtocol : Option Protocol := none

structure RetryPolicy where
  maxAttempts : Int
  retryIntervals : List Int
  retryOnErrors : List String

structure FraudEvaluationInput where
  tenantId : TenantId
  phoneNumber : String
  body : String
  senderId : String
  trafficType : TrafficType

inductive FraudAction
  | allow | alert | throttle | block
  deriving DecidableEq, Repr

structure FraudEvaluationResult where
  action : FraudAction
  reasons : List String

structure ProviderProfile where
  id : Nat
  defaultProtocol : Protocol
  httpBaseUrl : Option String
  maxGlobalTps : Nat

structure SmppConfigProfile where
  host : String
  port : Nat
  systemId : String
  secretRef : String
  maxSessions : Int
  sessionTps : Nat

structure HttpDispatchRequest where
  url : String
  toNumber : String
  fromSender : String
  text : String
  clientRef : String

structure SmppDispatchRequest where
  providerId : Nat
  config : SmppConfigProfile
  sourceAddr : String
  destinationAddr : String
  shortMessage : String

structure DispatchResult where
  accepted : Bool
  providerMessageId : Option String := none
  errorCode : Option String := none
  errorMessage : Option String := none
  latencyMs : Option Nat := none
  retryable : Option Bool := none
  uncertain : Option Bool := none

/-- The answers of the services a handler calls; `Except.error` is the message of a thrown Error. -/
structure Services where
  selectRoute : TenantId → String → TrafficType → RouteSelectionOptions → Except String RouteDecision
  getRetryPolicy : TenantId → Nat → TrafficType → RetryPolicy
  evaluate : FraudEvaluationInput → FraudEvaluationResult
  getProvider : Nat → Except String ProviderProfile
  assertProviderDispatchAllowed : Nat → Nat → Except String Unit
  getSmppConfig : Nat → Except String SmppConfigProfile
  submit : HttpDispatchRequest → Except String DispatchResult
  submitSm : SmppDispatchRequest → Except String DispatchResult

/-! ### Helpers of the service -/

def dispatchTopicFor : TrafficType → KafkaTopic
  | .marketing => .smsDispatchBulk
  | _ => .smsDispatchRealtime

def shouldExcludeCurrentProvider (errorCode : Option String) : Bool :=
  match errorCode with
  | none => false
  | some code => [
      "circuit_open",
      "provider_throttled",
      "throttle",
      "smpp_throttle",
      "http_provider_error",
      "provider_dispatch_exception",
      "provider_dispatch_rejected",
      "missing_http_base_url",
      "missing_smpp_config"].contains code

/-- `trafficType === 'otp' ? 'smpp' : undefined`. -/
def preferProtocolFor : TrafficType → Option Protocol
  | .otp => some .smpp
  | _ => none

/-- The outbox event of a message; the fields that differ between the workflow's events are the parameters. -/
def messageEvent (message : MessageRow) (composite : MessageCompositeId) (eventType : EventType)
    (topicName : KafkaTopic) (kind : WorkflowKind) (version : Nat) (payload : EventPayload)
    (nextAttemptAt : Option Timestamp) : OutboxEventInput where
  tenantId := some message.tenantId
  aggregateType := "message"
  aggregateId := buildAggregateId composite
  eventType := eventType
  topicName := topicName
  partitionKey := message.tenantId.text
  dedupeKey := workflowKey composite kind version
  payload := payload
  nextAttemptAt := nextAttemptAt

/-! ### handleAccepted -/

def dispatchEvent (payload : MessageEventPayload) (message : MessageRow) (route : RouteDecision)
    (updated : MessageRow) : OutboxEventInput :=
  messageEvent message payload.toComposite .messageDispatch (dispatchTopicFor message.trafficType) .dispatch
    updated.version
    (.message { payload with
      version := updated.version
      providerId := some route.providerId
      smppConfigId := route.smppConfigId
      routeRuleId := some route.routingRuleId
      protocol := some route.protocol })
    none

def acceptedFields (message : MessageRow) (route : RouteDecision) : MessageFields where
  providerId := some (some route.providerId)
  smppConfigId := some route.smppConfigId
  routeRuleId := some (some route.routingRuleId)
  costMinor := some (route.estimatedUnitCostMinor * message.messageParts)
  lastErrorCode := some none
  lastErrorMessage := some none

def handleAcceptedTx (clock : TxClock) (payload : MessageEventPayload) (message : MessageRow)
    (route : RouteDecision) : Tx Unit := do
  let composite := payload.toComposite
  let updated ← transitionMessage clock message .routed (acceptedFields message route) false
  logEvent composite "routed" (some .accepted) (some .routed) (some route.providerId) none updated.attemptCount
  enqueue clock (dispatchEvent payload message route updated)

/-- The options `handleAccepted` selects its route with. -/
def acceptedRouteOptions (message : MessageRow) : RouteSelectionOptions :=
  { preferProtocol := preferProtocolFor message.trafficType }

/-! ### handleRetry -/

def retryDispatchEvent (payload : MessageEventPayload) (message : MessageRow) : OutboxEventInput :=
  messageEvent message payload.toComposite .messageDispatchRetry (dispatchTopicFor message.trafficType)
    .retryDispatch message.version
    (.message { payload with
      version := message.version
      providerId := message.providerId
      smppConfigId := message.smppConfigId })
    none

def handleRetryTx (clock : TxClock) (payload : MessageEventPayload) (message : MessageRow) : Tx Unit :=
  enqueue clock (retryDispatchEvent payload message)

/-! ### handleDispatch -/

/-- What `dispatchThroughProvider` decides before it calls a connector. -/
inductive DispatchPlan
  | answer (protocol : Protocol) (result : DispatchResult)
  | http (request : HttpDispatchRequest)
  | smpp (request : SmppDispatchRequest)

structure DispatchExecutionResult where
  protocol : Protocol
  result : DispatchResult

def planDispatch (services : Services) (db : Db) (payload : MessageEventPayload) : Except String DispatchPlan := do
  match payload.providerId with
  | none => return .answer (payload.protocol.getD .http) {
      accepted := false
      errorCode := some "missing_provider"
      errorMessage := some "No provider selected" }
  | some providerId =>
    let provider ← services.getProvider providerId
    services.assertProviderDispatchAllowed provider.id provider.maxGlobalTps
    match db.findMessage payload.toComposite with
    | none => throw "Message not found"
    | some message =>
      let protocol := payload.protocol.getD (if message.smppConfigId.isSome then .smpp else provider.defaultProtocol)
      match protocol with
      | .http =>
        match provider.httpBaseUrl.filter (· ≠ "") with
        | none => return .answer .http {
            accepted := false
            errorCode := some "missing_http_base_url"
            errorMessage := some "Provider HTTP base URL is missing" }
        | some httpBaseUrl => return .http {
            url := httpBaseUrl ++ "/messages"
            toNumber := payload.phoneNumber
            fromSender := payload.senderId
            text := payload.body
            clientRef := payload.submitDate.text ++ ":" ++ payload.messageId.repr }
      | .smpp =>
        match message.smppConfigId with
        | none => return .answer .smpp {
            accepted := false
            errorCode := some "missing_smpp_config"
            errorMessage := some "SMPP config missing for routed message" }
        | some smppConfigId =>
          let smppConfig ← services.getSmppConfig smppConfigId
          return .smpp {
            providerId := provider.id
            config := smppConfig
            sourceAddr := payload.senderId
            destinationAddr := payload.phoneNumber
            shortMessage := payload.body }

/-- The connector call of a plan. -/
def DispatchPlan.execute (services : Services) : DispatchPlan → Except String DispatchExecutionResult
  | .answer protocol result => .ok ⟨protocol, result⟩
  | .http request => (services.submit request).map fun result => ⟨.http, result⟩
  | .smpp request => (services.submitSm request).map fun result => ⟨.smpp, result⟩

/-- The plan hands the message to a provider. -/
def DispatchPlan.submits : DispatchPlan → Bool
  | .answer _ _ => false
  | .http _ => true
  | .smpp _ => true

/-- A provider's submit is invoked in this execution of `dispatchThroughProvider`. -/
def submitsToProvider (services : Services) (db : Db) (payload : MessageEventPayload) : Bool :=
  match planDispatch services db payload with
  | .ok plan => plan.submits
  | .error _ => false

/-- The `try`/`catch` around `dispatchThroughProvider`. -/
def dispatchThroughProvider (services : Services) (db : Db) (payload : MessageEventPayload) :
    DispatchExecutionResult :=
  match (planDispatch services db payload).bind fun plan => plan.execute services with
  | .ok execution => execution
  | .error message => ⟨payload.protocol.getD .http, {
      accepted := false
      errorCode := some (if message = "Provider circuit is open" then "circuit_open" else "provider_dispatch_exception")
      errorMessage := some message
      latencyMs := some 0
      retryable := some true
      uncertain := some false }⟩

def fraudInput (payload : MessageEventPayload) (message : MessageRow) : FraudEvaluationInput where
  tenantId := message.tenantId
  phoneNumber := message.phoneNumber
  body := message.body
  senderId := message.sourceAddr.getD payload.senderId
  trafficType := message.trafficType

/-- The conditional that opens the block and the attempt transaction: `routed` moves on to `submitting`, a row that
is `submitting` already is patched with `fields`. -/
def enterSubmitting (clock : TxClock) (message : MessageRow) (fields : MessageFields) : Tx MessageRow :=
  if message.status = .routed then transitionMessage clock message .submitting {} true
  else patchMessage clock message fields

def fraudBlockFields (evaluation : FraudEvaluationResult) : MessageFields where
  lastErrorCode := some (some "fraud_blocked")
  lastErrorMessage := some (some (String.intercalate ", " evaluation.reasons))
  billingState := some .released

/-- The transaction of the `block` verdict. -/
def fraudBlockTx (clock : TxClock) (payload : MessageEventPayload) (message : MessageRow)
    (evaluation : FraudEvaluationResult) : Tx Unit := do
  let composite := payload.toComposite
  let submitting ← enterSubmitting clock message {}
  let updated ← transitionMessage clock submitting .failed (fraudBlockFields evaluation) false
  let _ ← releaseReservedWallet clock message.tenantId message.priceMinor
    (releaseKey composite.submitDate.text composite .fraud) composite
  logEvent composite "failed" (some submitting.status) (some .failed) message.providerId none updated.attemptCount

def fraudThrottleEvent (clock : TxClock) (payload : MessageEventPayload) (message updated : MessageRow) :
    OutboxEventInput :=
  messageEvent message payload.toComposite .messageRetry .smsRetry .fraudThrottle updated.version
    (.message { payload with version := updated.version })
    (some (clock.clientNow + 30000000))

def fraudThrottleFields (evaluation : FraudEvaluationResult) : MessageFields where
  lastErrorCode := some (some "fraud_throttled")
  lastErrorMessage := some (some (String.intercalate ", " evaluation.reasons))

/-- The transaction of the `throttle` verdict. -/
def fraudThrottleTx (clock : TxClock) (payload : MessageEventPayload) (message : MessageRow)
    (evaluation : FraudEvaluationResult) : Tx Unit := do
  let composite := payload.toComposite
  let updated ← patchMessage clock message (fraudThrottleFields evaluation)
  logEvent composite "submit_throttled" (some .routed) (some .routed) message.providerId none updated.attemptCount
  enqueue clock (fraudThrottleEvent clock payload message updated)

/-- The transaction that opens an attempt; its row carries `submittingVersion`. -/
def submitAttemptTx (clock : TxClock) (payload : MessageEventPayload) (message : MessageRow) : Tx MessageRow := do
  let composite := payload.toComposite
  let updated ← enterSubmitting clock message { attemptCount := some (message.attemptCount + 1) }
  logEvent composite "submit_attempt" (some message.status) (some .submitting) updated.providerId
    updated.providerMessageId updated.attemptCount
  return updated

def dispatchResultEvent (payload : MessageEventPayload) (message : MessageRow) (submittingVersion : Nat)
    (execution : DispatchExecutionResult) : OutboxEventInput :=
  messageEvent message payload.toComposite .messageDispatchResult .smsDispatchResults .dispatchResult
    submittingVersion
    (.message { payload with
      version := submittingVersion
      accepted := some execution.result.accepted
      providerMessageId := execution.result.providerMessageId
      errorCode := execution.result.errorCode
      errorMessage := execution.result.errorMessage
      latencyMs := execution.result.latencyMs
      retryable := execution.result.retryable
      uncertain := execution.result.uncertain
      protocol := some execution.protocol })
    none

/-- The transaction that hands the outcome of an attempt to `handleDispatchResult`. -/
def dispatchResultTx (clock : TxClock) (payload : MessageEventPayload) (message : MessageRow)
    (submittingVersion : Nat) (execution : DispatchExecutionResult) : Tx Unit :=
  enqueue clock (dispatchResultEvent payload message submittingVersion execution)

/-! ### handleDispatchResult -/

def submitAckFields (payload : MessageEventPayload) : MessageFields where
  providerMessageId := some payload.providerMessageId
  lastErrorCode := some none
  lastErrorMessage := some none

/-- What the event reports fits the columns that `handleDispatchResult` writes it to; an accepted dispatch brings no
error code. -/
def MessageEventPayload.Storable (payload : MessageEventPayload) : Prop :=
  FitsVarchar 128 payload.providerMessageId ∧ (payload.accepted = some true ∨ FitsVarchar 40 payload.errorCode)

instance MessageEventPayload.decidableStorable (payload : MessageEventPayload) : Decidable payload.Storable :=
  inferInstanceAs (Decidable (_ ∧ _))

/-- The transaction of an accepted dispatch. -/
def submitAckTx (clock : TxClock) (payload : MessageEventPayload) (message : MessageRow) : Tx Unit := do
  let composite := payload.toComposite
  let updated ← transitionMessage clock message .providerAccepted (submitAckFields payload) false
  let _ ← debitReservedWallet clock message.tenantId message.priceMinor (debitKey composite) composite
  logEvent composite "submit_ack" (some .submitting) (some .providerAccepted) updated.providerId
    payload.providerMessageId updated.attemptCount

def uncertainEvent (payload : MessageEventPayload) (message updated : MessageRow) : OutboxEventInput :=
  messageEvent message payload.toComposite .messageReconcile .smsReconcile .dispatchUncertain updated.version
    (.reconcile {
      tenantId := some message.tenantId
      providerId := message.providerId
      submitDate := some payload.submitDate
      messageId := some payload.messageId
      kind := "unknown_submit_outcome"
      reason := payload.errorCode.getD "unknown_submit_outcome"
      payload := .message payload })
    none

def submitUnknownFields (payload : MessageEventPayload) : MessageFields where
  lastErrorCode := some (some (payload.errorCode.getD "unknown_submit_outcome"))
  lastErrorMessage := some (some (payload.errorMessage.getD "Dispatch outcome is uncertain"))

/-- The transaction of an uncertain dispatch. -/
def submitUnknownTx (clock : TxClock) (payload : MessageEventPayload) (message : MessageRow) : Tx Unit := do
  let composite := payload.toComposite
  let updated ← patchMessage clock message (submitUnknownFields payload)
  logEvent composite "submit_unknown" (some .submitting) (some .submitting) updated.providerId
    payload.providerMessageId updated.attemptCount
  enqueue clock (uncertainEvent payload message updated)

def shouldRetry (payload : MessageEventPayload) (message : MessageRow) (retryPolicy : RetryPolicy) : Bool :=
  match payload.errorCode with
  | none => false
  | some code => decide (code ≠ "") && retryPolicy.retryOnErrors.contains code &&
      decide ((message.attemptCount : Int) < retryPolicy.maxAttempts)

def retryDelaySeconds (message : MessageRow) (retryPolicy : RetryPolicy) : Int :=
  retryPolicy.retryIntervals.getD (min (message.attemptCount - 1) (retryPolicy.retryIntervals.length - 1)) 30

/-- The options a retry selects its next route with. -/
def retryRouteOptions (payload : MessageEventPayload) (message : MessageRow) : RouteSelectionOptions where
  preferProtocol := preferProtocolFor message.trafficType
  excludedProviderIds :=
    if shouldExcludeCurrentProvider payload.errorCode then message.providerId.toList else []
  excludedRuleIds := message.routeRuleId.toList

/-- `nextRoute?.smppConfigId ?? message.smpp_config_id` and its siblings. -/
def retryFields (payload : MessageEventPayload) (message : MessageRow) (nextRoute : Option RouteDecision) :
    MessageFields where
  providerId := some ((nextRoute.map (·.providerId)).or message.providerId)
  smppConfigId := some ((nextRoute.bind (·.smppConfigId)).or message.smppConfigId)
  routeRuleId := some ((nextRoute.map (·.routingRuleId)).or message.routeRuleId)
  costMinor := nextRoute.map fun route => route.estimatedUnitCostMinor * message.messageParts
  lastErrorCode := some payload.errorCode
  lastErrorMessage := some payload.errorMessage

def retryEvent (clock : TxClock) (payload : MessageEventPayload) (message : MessageRow) (retryPolicy : RetryPolicy)
    (nextRoute : Option RouteDecision) (updated : MessageRow) : OutboxEventInput :=
  messageEvent message payload.toComposite .messageRetry .smsRetry .retry updated.version
    (.message { payload with
      version := updated.version
      accepted := some false
      providerId := updated.providerId
      smppConfigId := updated.smppConfigId
      routeRuleId := updated.routeRuleId
      protocol := (nextRoute.map (·.protocol)).or payload.protocol })
    (some (clock.clientNow + retryDelaySeconds message retryPolicy * 1000000))

/-- The transaction that schedules a retry. -/
def submitRetryTx (clock : TxClock) (payload : MessageEventPayload) (message : MessageRow)
    (retryPolicy : RetryPolicy) (nextRoute : Option RouteDecision) : Tx Unit := do
  let composite := payload.toComposite
  let updated ← patchMessage clock message (retryFields payload message nextRoute)
  logEvent composite "submit_retry_scheduled" (some .submitting) (some .submitting) updated.providerId
    payload.providerMessageId updated.attemptCount
  enqueue clock (retryEvent clock payload message retryPolicy nextRoute updated)

def finalFailureFields (payload : MessageEventPayload) : MessageFields where
  lastErrorCode := some (some (payload.errorCode.getD "dispatch_failed"))
  lastErrorMessage := some (some (payload.errorMessage.getD "Dispatch failed"))
  billingState := some .released

/-- The transaction of a final failure. -/
def finalFailureTx (clock : TxClock) (payload : MessageEventPayload) (message : MessageRow) : Tx Unit := do
  let composite := payload.toComposite
  let updated ← transitionMessage clock message .failed (finalFailureFields payload) false
  let _ ← releaseReservedWallet clock message.tenantId message.priceMinor
    (releaseKey composite.submitDate.text composite .final) composite
  logEvent composite "failed" (some .submitting) (some .failed) updated.providerId payload.providerMessageId
    updated.attemptCount

/-- The body of `handleDispatchResult` after its status check. -/
def handleDispatchResultTx (services : Services) (clock : TxClock) (payload : MessageEventPayload)
    (message : MessageRow) : Tx Unit :=
  if payload.accepted.getD false then submitAckTx clock payload message
  else if payload.uncertain.getD false then submitUnknownTx clock payload message
  else
    let retryPolicy := services.getRetryPolicy message.tenantId (message.providerId.getD 0) message.trafficType
    if shouldRetry payload message retryPolicy then
      let nextRoute := (services.selectRoute message.tenantId message.phoneNumber message.trafficType
        (retryRouteOptions payload message)).toOption
      submitRetryTx clock payload message retryPolicy nextRoute
    else finalFailureTx clock payload message

end SmsPlatform
