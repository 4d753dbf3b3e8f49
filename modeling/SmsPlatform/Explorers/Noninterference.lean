import SmsPlatform.Explorers.Explorers

/-!
# Tenants cannot see each other in the explorers

Every query of the explorers has the tenant of its scope among its conditions, and without one of the cross-tenant roles
the scope is the user's own tenant.  So what such a user is shown is a function of the rows of that tenant
(`explorers_noninterfering`).  A webhook without a tenant is nobody's row.
-/

namespace SmsPlatform.Explorers

open Queries StateExcept

/-- The states have the same rows of a tenant. -/
structure AgreeOn (tenant : TenantId) (db db' : Tables) : Prop where
  messages : Agree (equals (fun row => some row.tenantId) tenant) db.messages db'.messages
  messageLogs : Agree (equals (fun row => some row.tenantId) tenant) db.messageLogs db'.messageLogs
  transactions : Agree (equals (fun row => some row.tenantId) tenant) db.transactions db'.transactions
  dlrWebhooks : Agree (equals WebhookRow.tenantId tenant) db.dlrWebhooks db'.dlrWebhooks
  auditLogs : Agree (equals AuditLogRow.tenantId tenant) db.auditLogs db'.auditLogs

theorem cast_ok {α : Type} {input : String → Option α} {text : String} {value : α} (h : cast input text = .ok value) :
    input text = some value := by
  unfold cast at h
  split at h
  · rename_i value' hinput
    cases h
    exact hinput
  · cases h

section Services

variable {sql : Sql} {user : JwtClaims} {db db' : Tables}

/-- The three lists see the rows of the user's tenant only. -/
theorem list_congr {ρ ι : Type} {tenantOf : ρ → Option TenantId} {createdAt : ρ → Timestamp} {tie : ρ → Nat}
    {item : ρ → ι} {requestedTenantId : Option String} {page limit : ℕ+} {filters : Except Failure (List (ρ → Bool))}
    {rows rows' : List ρ} (hrole : user.role ∉ crossTenantRoles)
    (hrows : ∀ tenant, sql.uuid user.tenantId = some tenant → Agree (equals tenantOf tenant) rows rows') :
    list sql tenantOf createdAt tie item user requestedTenantId page limit filters rows =
      list sql tenantOf createdAt tie item user requestedTenantId page limit filters rows' := by
  unfold list
  refine except_bind_congr fun scope hscope => except_bind_congr fun filters _ => except_bind_congr fun tenant htenant =>
    except_bind_congr fun count _ => except_bind_congr fun offset _ => ?_
  rw [resolveTenantScope_own hrole hscope] at htenant
  have hselected := (hrows tenant (cast_ok htenant)).select (equals tenantOf tenant :: filters) (List.mem_cons_self ..)
  dsimp only
  rw [hselected]

theorem getMessageRow_congr (messageRef : MessageRef)
    (hrows : ∀ tenant, sql.uuid messageRef.tenantId = some tenant → AgreeOn tenant db db') :
    MessagesService.getMessageRow sql db messageRef = MessagesService.getMessageRow sql db' messageRef := by
  unfold MessagesService.getMessageRow
  refine except_bind_congr fun submitDate _ => except_bind_congr fun tenant htenant => ?_
  have hselected := (hrows tenant (cast_ok htenant)).messages.select
    [equals (fun row => some row.submitDate) submitDate, equals (fun row => some row.tenantId) tenant,
      equals (fun row => some (row.id : Int)) messageRef.id]
    (List.mem_cons_of_mem _ (List.mem_cons_self ..))
  rw [hselected]

theorem getMessageTrace_congr {messageRef : MessageRef} (hrole : user.role ∉ crossTenantRoles)
    (hrows : ∀ tenant, sql.uuid user.tenantId = some tenant → AgreeOn tenant db db') :
    MessagesService.getMessageTrace sql db user messageRef =
      MessagesService.getMessageTrace sql db' user messageRef := by
  unfold MessagesService.getMessageTrace
  refine except_bind_congr fun scope hscope => ?_
  have hscope := resolveTenantScope_own hrole hscope
  subst hscope
  dsimp only
  rw [getMessageRow_congr { messageRef with tenantId := user.tenantId } hrows]
  refine except_bind_congr fun message _ => except_bind_congr fun submitDate _ =>
    except_bind_congr fun tenant htenant => ?_
  have hagree := hrows tenant (cast_ok htenant)
  have hlogs := hagree.messageLogs.select
    [equals (fun row => some row.tenantId) tenant, equals (fun row => some row.messageSubmitDate) submitDate,
      equals (fun row => some (row.messageId : Int)) messageRef.id] (List.mem_cons_self ..)
  have hledger := hagree.transactions.select
    [equals (fun row => some row.tenantId) tenant, equals LedgerRow.messageSubmitDate submitDate,
      equals (fun row => row.messageId.map (Int.ofNat ·)) messageRef.id] (List.mem_cons_self ..)
  -- a webhook without a tenant does not pass `tenant_id = $2`
  have hwebhooks := hagree.dlrWebhooks.select
    (MessagesService.webhookFilters message.providerId (some tenant) message.providerMessageId)
    (List.mem_cons_of_mem _ (List.mem_cons_self ..))
  rw [hlogs, hledger, hwebhooks]

end Services

/-- Two states with the same rows of a user's tenant give the user the same answers, unless the role may look across
tenants: the same items and counts, the same trace, or the same failure. -/
theorem explorers_noninterfering (sql : Sql) {user : JwtClaims} (hrole : user.role ≠ "admin" ∧ user.role ≠ "support")
    {db db' : Tables} (hrows : ∀ tenant, sql.uuid user.tenantId = some tenant → AgreeOn tenant db db') :
    (∀ query, MessagesService.listMessages sql db user query = MessagesService.listMessages sql db' user query) ∧
    (∀ messageRef,
      MessagesService.getMessageTrace sql db user messageRef = MessagesService.getMessageTrace sql db' user messageRef) ∧
    (∀ query requestedTenantId, WalletsService.listTransactions sql db user query requestedTenantId =
      WalletsService.listTransactions sql db' user query requestedTenantId) ∧
    ∀ query, AuditService.list sql db user query = AuditService.list sql db' user query := by
  have hrole : user.role ∉ crossTenantRoles := by
    intro hmem
    rcases List.mem_cons.1 hmem with hadmin | hsupport
    · exact hrole.1 hadmin
    · exact hrole.2 (List.mem_singleton.1 hsupport)
  refine ⟨fun query => ?_, fun messageRef => ?_, fun query requestedTenantId => ?_, fun query => ?_⟩
  · exact list_congr hrole fun tenant htenant => (hrows tenant htenant).messages
  · exact getMessageTrace_congr hrole hrows
  · exact list_congr hrole fun tenant htenant => (hrows tenant htenant).transactions
  · exact list_congr hrole fun tenant htenant => (hrows tenant htenant).auditLogs

/-! ### A small instance -/

namespace Sample

def sql : Sql where
  uuid := fun text => [SmsPlatform.Sample.tenant, SmsPlatform.Sample.neighbour].find? fun tenant =>
    decide (tenant.text = text)
  date := fun text => [SmsPlatform.Sample.day].find? fun day => decide (day.text = text)
  timestamptz := fun _ => none
  ilike := fun text pattern => decide ("%" ++ text ++ "%" = pattern)
  messageTie := MessageRow.id
  logTie := MessageLogRow.messageId
  ledgerTie := LedgerRow.id
  webhookTie := WebhookRow.id
  auditTie := AuditLogRow.id

def viewer : JwtClaims where
  sub := "user"
  tenantId := "tenant"
  role := "viewer"

def message (tenantId : TenantId) : MessageRow where
  id := 1
  submitDate := SmsPlatform.Sample.day
  tenantId := tenantId
  campaignId := none
  apiKeyId := none
  clientMessageId := none
  apiIdempotencyKey := none
  sourceAddr := some "MYAPP"
  phoneNumber := "+251911234567"
  body := "Hello"
  bodyHash := none
  messageParts := 1
  trafficType := .transactional
  status := .delivered
  billingState := .debited
  providerId := some 1
  smppConfigId := none
  routeRuleId := some 1
  providerMessageId := some "provider-message"
  priceMinor := 18
  costMinor := 10
  attemptCount := 1
  lastErrorCode := none
  lastErrorMessage := none
  acceptedAt := 100
  sentAt := some 200
  deliveredAt := some 300
  failedAt := none
  version := 4
  stateChangedAt := 300

def webhook (tenantId : Option TenantId) : WebhookRow where
  id := 1
  providerId := some 1
  tenantId := tenantId
  providerMessageId := some "provider-message"
  payload := "{}"
  normalizedStatus := some "delivered"
  processed := true
  processingError := none
  receivedAt := 300
  processedAt := some 300

/-- One message of the tenant and its webhook. -/
def mine : Tables where
  messages := [message SmsPlatform.Sample.tenant]
  messageLogs := []
  transactions := []
  dlrWebhooks := [webhook (some SmsPlatform.Sample.tenant)]
  auditLogs := []

/-- The same beside the message of another tenant, and a webhook of nobody yet. -/
def shared : Tables :=
  { mine with
    messages := [message SmsPlatform.Sample.neighbour, message SmsPlatform.Sample.tenant]
    dlrWebhooks := [webhook none, webhook (some SmsPlatform.Sample.tenant)] }

def messageRef (tenantId : String) : MessageRef := ⟨"2026-01-01", tenantId, 1⟩

end Sample

theorem explorers_noninterfering_neighbour :
    (MessagesService.listMessages Sample.sql Sample.shared Sample.viewer {}).toOption.map
      (fun listing => listing.pagination.total) = some 1 ∧
    (MessagesService.getMessageTrace Sample.sql Sample.shared Sample.viewer (Sample.messageRef "tenant")).toOption.map
      (fun trace => trace.dlrHistory.length) = some 1 := by
  have hagree : ∀ tenant, Sample.sql.uuid Sample.viewer.tenantId = some tenant →
      AgreeOn tenant Sample.mine Sample.shared := by
    intro tenant htenant
    cases htenant
    exact ⟨rfl, rfl, rfl, rfl, rfl⟩
  have hrole : Sample.viewer.role ≠ "admin" ∧ Sample.viewer.role ≠ "support" := by decide
  obtain ⟨hlist, htrace, -⟩ := explorers_noninterfering Sample.sql hrole hagree
  rw [← hlist, ← htrace]
  decide +kernel

end SmsPlatform.Explorers
