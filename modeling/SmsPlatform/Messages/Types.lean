import SmsPlatform.Lib.Segments

/-!
# Messages: statuses, keys, rows and events

The status type and `AllowedTransitions` of `messages.types.ts`, the columns of the `messages` table that the
handlers read or write, and the payload that travels through the outbox and Kafka (`MessageEventPayload`).  Dates
and tenant ids are texts without a colon (a DATE rendered `YYYY-MM-DD`, a UUID); timestamps are microseconds.
-/

namespace SmsPlatform

open Segments (Segment)

abbrev Timestamp := Int
abbrev SqlDate := Segment
abbrev TenantId := Segment

inductive MessageStatus
  | accepted | routed | submitting | providerAccepted | delivered | failed
  deriving DecidableEq, Repr

def MessageStatus.text : MessageStatus → String
  | .accepted => "accepted"
  | .routed => "routed"
  | .submitting => "submitting"
  | .providerAccepted => "provider_accepted"
  | .delivered => "delivered"
  | .failed => "failed"

def AllowedTransitions : MessageStatus → List MessageStatus
  | .accepted => [.routed]
  | .routed => [.submitting]
  | .submitting => [.providerAccepted, .failed]
  | .providerAccepted => [.delivered, .failed]
  | .delivered => []
  | .failed => []

/-- The values of `messages.billing_state` that occur in the code, and the column's default. -/
inductive BillingState
  | pending | reserved | debited | released
  deriving DecidableEq, Repr

inductive TrafficType
  | transactional | otp | marketing
  deriving DecidableEq, Repr

inductive Protocol
  | http | smpp
  deriving DecidableEq, Repr

/-- The primary key of `messages`. -/
structure MessageCompositeId where
  submitDate : SqlDate
  tenantId : TenantId
  id : Nat
  deriving DecidableEq

structure MessageRow where
  id : Nat
  submitDate : SqlDate
  tenantId : TenantId
  campaignId : Option Nat
  apiKeyId : Option String
  clientMessageId : Option String
  apiIdempotencyKey : Option String
  sourceAddr : Option String
  phoneNumber : String
  body : String
  bodyHash : Option String
  messageParts : Nat
  trafficType : TrafficType
  status : MessageStatus
  billingState : BillingState
  providerId : Option Nat
  smppConfigId : Option Nat
  routeRuleId : Option Nat
  providerMessageId : Option String
  priceMinor : Int
  costMinor : Int
  attemptCount : Nat
  lastErrorCode : Option String
  lastErrorMessage : Option String
  acceptedAt : Timestamp
  sentAt : Option Timestamp
  deliveredAt : Option Timestamp
  failedAt : Option Timestamp
  version : Nat
  stateChangedAt : Timestamp
  deriving DecidableEq

def MessageRow.composite (row : MessageRow) : MessageCompositeId :=
  ⟨row.submitDate, row.tenantId, row.id⟩

/-- `RouteDecision` of the routing service, without the score it was chosen by. -/
structure RouteDecision where
  routingRuleId : Nat
  providerId : Nat
  smppConfigId : Option Nat
  protocol : Protocol
  estimatedUnitCostMinor : Int
  deriving DecidableEq

/-- The payload of the workflow events.  A field that is absent or `null` is `none`. -/
structure MessageEventPayload where
  submitDate : SqlDate
  tenantId : TenantId
  messageId : Nat
  version : Nat
  phoneNumber : String
  body : String
  senderId : String
  trafficType : TrafficType
  providerId : Option Nat := none
  smppConfigId : Option Nat := none
  routeRuleId : Option Nat := none
  protocol : Option Protocol := none
  providerMessageId : Option String := none
  accepted : Option Bool := none
  errorCode : Option String := none
  errorMessage : Option String := none
  latencyMs : Option Nat := none
  retryable : Option Bool := none
  uncertain : Option Bool := none
  deriving DecidableEq

def MessageEventPayload.toComposite (payload : MessageEventPayload) : MessageCompositeId :=
  ⟨payload.submitDate, payload.tenantId, payload.messageId⟩

def buildAggregateId (composite : MessageCompositeId) : String :=
  Segments.joinColon [composite.submitDate.text, composite.tenantId.text, composite.id.repr]

end SmsPlatform
