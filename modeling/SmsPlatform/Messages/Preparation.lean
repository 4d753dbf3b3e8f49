import SmsPlatform.Compliance.OptOuts
import SmsPlatform.SenderIds.SenderIds
import SmsPlatform.Messages.Workflow

/-!
# What a submission goes through before its transaction

`submitMessageWithContext` of `messages.service.ts` from its first check to its transaction: scope, quotas, the number,
the opt-out check, the body, the route preview, the approval of the sender, the fraud rules and the price.  The
services it asks enter as functions (`SubmissionServices`); the compliance tables and the sender IDs enter as they
stand.  `prepareSubmission_ok` says what every prepared submission has passed.
-/

namespace SmsPlatform

open StateExcept

structure SubmissionContext where
  tenantId : TenantId
  apiKeyId : Option String := none
  scopes : List String
  rateLimitRps : Option Nat := none
  dailyQuota : Option Nat := none
  idempotencyKey : Option String := none

structure SubmitMessageDto where
  phoneNumber : String
  senderId : String
  body : Option String := none
  templateRef : Option String := none
  mergeData : List (String × String) := []
  trafficType : Option TrafficType := none
  clientMessageId : Option String := none

structure TenantPolicyRow where
  apiRateLimitRps : Int
  submitTpsLimit : Int

/-- The answers of the services a submission calls, and the day of the process's clock. -/
structure SubmissionServices where
  getTenantPolicy : TenantId → Option TenantPolicyRow
  enforceLimit : String → Int → Except Failure Unit
  enforceDailyQuota : String → Int → Except Failure Unit
  resolveTemplate : TenantId → String → Except Failure String
  render : String → List (String × String) → Except Failure String
  selectRoute : TenantId → String → TrafficType → RouteSelectionOptions → Except String RouteDecision
  evaluate : FraudEvaluationInput → FraudEvaluationResult
  unitPriceMinor : TenantId → String → TrafficType → Nat → Option Int
  sha256 : String → String
  currentDay : String

namespace MessagesService

/-- The normaliser of the compliance service, except that a text that starts with none of the three is refused. -/
def normalizePhoneNumber (phoneNumber : String) : Except Failure String :=
  let trimmed := digitsAndPlus phoneNumber
  if startsWith trimmed "+" then .ok (.ofList trimmed)
  else if startsWith trimmed "251" then .ok (.ofList ('+' :: trimmed))
  else if startsWith trimmed "0" then .ok (.ofList ("+251".toList ++ trimmed.drop 1))
  else .error (.badRequest "Phone number must be in Ethiopian local format or E.164")

/-- `text.length`, in UTF-16 code units. -/
def utf16Length (text : String) : Nat := (text.toList.map fun c => if c.toNat < 0x10000 then 1 else 2).sum

def computeMessageParts (body : String) : Nat :=
  if utf16Length body ≤ 160 then 1 else (utf16Length body + 152) / 153

def countryCodeFor (phoneNumber : String) : String :=
  if startsWith phoneNumber.toList "+251" then "ET" else "INTL"

variable (services : SubmissionServices) (compliance : ComplianceDb) (senderIds : List SenderIdRow)
  (context : SubmissionContext) (dto : SubmitMessageDto)

def getTenantPolicy (tenantId : TenantId) : Except Failure TenantPolicyRow :=
  match services.getTenantPolicy tenantId with
  | none => .error (.notFound "Tenant not found")
  | some row => .ok row

/-- A limit of an API key applies when it is set and not zero. -/
def consumeSubmissionQuotas (tenantPolicy : TenantPolicyRow) : Except Failure Unit := do
  let apiKeyId := context.apiKeyId.getD "control-plane"
  services.enforceLimit ("rl:tenant:" ++ context.tenantId.text ++ ":api") tenantPolicy.apiRateLimitRps
  services.enforceLimit ("rl:tenant:" ++ context.tenantId.text ++ ":submit") tenantPolicy.submitTpsLimit
  match context.rateLimitRps.filter (· ≠ 0) with
  | some rateLimitRps => services.enforceLimit ("rl:key:" ++ apiKeyId ++ ":api") rateLimitRps
  | none => pure ()
  match context.dailyQuota.filter (· ≠ 0) with
  | some dailyQuota => services.enforceDailyQuota ("quota:key:" ++ apiKeyId ++ ":" ++ services.currentDay) dailyQuota
  | none => pure ()

/-- The body of the request, or its template rendered. -/
def messageBody : Except Failure String := do
  if dto.body.getD "" = "" ∧ truthy dto.templateRef = false then
    throw (.badRequest "Either body or templateRef is required")
  let body ← match dto.templateRef.filter (· ≠ "") with
    | some templateRef => do services.render (← services.resolveTemplate context.tenantId templateRef) dto.mergeData
    | none => pure (dto.body.getD "")
  if body = "" then
    throw (.badRequest "Message body must not be empty")
  return body

/-- `enforceSubmission` of the fraud service. -/
def enforceSubmission (input : FraudEvaluationInput) : Except Failure Unit :=
  let evaluation := services.evaluate input
  match evaluation.action with
  | .block => .error (.badRequest ("Message blocked by fraud policy: " ++ String.intercalate ", " evaluation.reasons))
  | .throttle =>
    .error (.tooManyRequests ("Message throttled by fraud policy: " ++ String.intercalate ", " evaluation.reasons))
  | _ => .ok ()

/-- The submission of a message with its route and its body. -/
def submissionOf (phoneNumber body : String) (trafficType : TrafficType) (routePreview : RouteDecision) :
    Submission where
  tenantId := context.tenantId
  apiKeyId := context.apiKeyId
  idempotencyKey := context.idempotencyKey
  clientMessageId := dto.clientMessageId
  senderId := dto.senderId
  phoneNumber := phoneNumber
  body := body
  bodyHash := services.sha256 body
  trafficType := trafficType
  messageParts := computeMessageParts body
  routePreview := routePreview
  sellUnitPriceMinor := (services.unitPriceMinor context.tenantId (countryCodeFor phoneNumber) trafficType
    (computeMessageParts body)).getD 0
  templateRef := dto.templateRef

/-- What follows for a destination that is not blocked. -/
def completeSubmission (phoneNumber : String) : Except Failure Submission := do
  let trafficType := dto.trafficType.getD .transactional
  let body ← messageBody services context dto
  let routePreview ← (services.selectRoute context.tenantId phoneNumber trafficType {}).mapError Failure.error
  ensureApproved senderIds context.tenantId dto.senderId (some routePreview.providerId)
  enforceSubmission services ⟨context.tenantId, phoneNumber, body, dto.senderId, trafficType⟩
  return submissionOf services context dto phoneNumber body trafficType routePreview

/-- `submitMessageWithContext` up to its transaction. -/
def prepareSubmission : Except Failure Submission := do
  if !context.scopes.contains "sms:send" then
    throw (.forbidden "Sender does not have sms:send scope")
  let tenantPolicy ← getTenantPolicy services context.tenantId
  consumeSubmissionQuotas services context tenantPolicy
  let phoneNumber ← normalizePhoneNumber dto.phoneNumber
  ComplianceService.assertNotOptedOut compliance context.tenantId phoneNumber
  completeSubmission services senderIds context dto phoneNumber

/-- The whole method: what it answers, and the database it leaves. -/
def submitMessageWithContext (clock : TxClock) (db : Db) : Except Failure MessageRow × Db :=
  match prepareSubmission services compliance senderIds context dto with
  | .error failure => (.error failure, db)
  | .ok submission => withTransaction (SmsPlatform.submitMessageWithContext clock submission) db

/-! ### What a prepared submission has passed -/

/-- The number is normal and not blocked, the preview is a selected route, and the sender is approved for it. -/
structure Prepared (submission : Submission) : Prop where
  scope : context.scopes.contains "sms:send" = true
  phone : normalizePhoneNumber dto.phoneNumber = .ok submission.phoneNumber
  cleared : ComplianceService.assertNotOptedOut compliance context.tenantId submission.phoneNumber = .ok ()
  route : services.selectRoute context.tenantId submission.phoneNumber submission.trafficType {} =
    .ok submission.routePreview
  tenantId : submission.tenantId = context.tenantId
  senderId : submission.senderId = dto.senderId
  approved : Approved senderIds submission.tenantId submission.senderId submission.routePreview.providerId

variable {services compliance senderIds context dto} {submission : Submission}

theorem completeSubmission_ok {phoneNumber : String}
    (h : completeSubmission services senderIds context dto phoneNumber = .ok submission) :
    ∃ body routePreview,
      submission = submissionOf services context dto phoneNumber body (dto.trafficType.getD .transactional)
        routePreview ∧
      services.selectRoute context.tenantId phoneNumber (dto.trafficType.getD .transactional) {} = .ok routePreview ∧
      Approved senderIds context.tenantId dto.senderId routePreview.providerId := by
  obtain ⟨body, -, h⟩ := except_bind_eq_ok.1 h
  obtain ⟨routePreview, hroute, h⟩ := except_bind_eq_ok.1 h
  obtain ⟨_, happroved, h⟩ := except_bind_eq_ok.1 h
  obtain ⟨_, -, h⟩ := except_bind_eq_ok.1 h
  refine ⟨body, routePreview, (Except.ok.inj h).symm, ?_, ensureApproved_ok happroved⟩
  cases hselect : services.selectRoute context.tenantId phoneNumber (dto.trafficType.getD .transactional) {} with
  | error e =>
    rw [hselect] at hroute
    cases hroute
  | ok route =>
    rw [hselect] at hroute
    cases hroute
    rfl

theorem prepareSubmission_ok (h : prepareSubmission services compliance senderIds context dto = .ok submission) :
    Prepared services compliance senderIds context dto submission := by
  unfold prepareSubmission at h
  split at h
  · cases h
  · rename_i hscope
    obtain ⟨tenantPolicy, -, h⟩ := except_bind_eq_ok.1 h
    obtain ⟨_, -, h⟩ := except_bind_eq_ok.1 h
    obtain ⟨phoneNumber, hphone, h⟩ := except_bind_eq_ok.1 h
    obtain ⟨_, hcleared, h⟩ := except_bind_eq_ok.1 h
    obtain ⟨body, routePreview, rfl, hroute, happroved⟩ := completeSubmission_ok h
    exact ⟨by simpa using hscope, hphone, hcleared, hroute, rfl, rfl, happroved⟩

/-- The method when its preparation and its transaction succeed. -/
theorem submitMessageWithContext_of_ok {clock : TxClock} {db db' : Db} {message : MessageRow}
    (hprepare : prepareSubmission services compliance senderIds context dto = .ok submission)
    (hrun : (SmsPlatform.submitMessageWithContext clock submission).run db = .ok (message, db')) :
    submitMessageWithContext services compliance senderIds context dto clock db = (.ok message, db') := by
  unfold submitMessageWithContext withTransaction
  rw [hprepare]
  dsimp only
  rw [hrun]

end MessagesService

/-! ### A small instance

A tenant without limits, one sender that is approved for the one provider, and a request of a message. -/

namespace Sample

def submissionServices : SubmissionServices where
  getTenantPolicy := fun _ => some ⟨100, 100⟩
  enforceLimit := fun _ _ => .ok ()
  enforceDailyQuota := fun _ _ => .ok ()
  resolveTemplate := fun _ _ => .error (.notFound "Template not found")
  render := fun body _ => .ok body
  selectRoute := fun _ _ _ _ => .ok route
  evaluate := fun _ => ⟨.allow, []⟩
  unitPriceMinor := fun _ _ _ _ => some 0
  sha256 := fun _ => "hash"
  currentDay := day.text

def senderIds : List SenderIdRow := [⟨tenant, 1, "ACME", .approved, 0⟩]

def context : SubmissionContext where
  tenantId := tenant
  scopes := ["sms:send"]
  idempotencyKey := some "key"

def dto (phoneNumber : String) : SubmitMessageDto where
  phoneNumber := phoneNumber
  senderId := "ACME"
  body := some "hello"

end Sample

end SmsPlatform
