import SmsPlatform.Auth.ApiKeys
import SmsPlatform.Auth.Tenants
import SmsPlatform.Pipeline.World

/-!
# Suspended tenants

Between a credential and the INSERT of a message the status of the tenant is read by nobody: `validateApiKey` reads the
row of the key, the guards read the claims of the token, and `getTenantPolicy` reads two limits of the tenant's row.  So
a tenant that has been suspended sends on with the credentials it has; `suspended_tenant_silent` says when it does not.
A submission is three steps here, the authentication, the checks and the transaction, and anything may happen between
them.
-/

namespace SmsPlatform

open StateExcept

/-! ### When the transaction creates a row -/

/-- There is no earlier submission of the day, the row fits its columns and can be inserted, and its price can be
reserved. -/
structure Creatable (clock : TxClock) (submission : Submission) (db : Db) : Prop where
  new : (truthy submission.idempotencyKey || truthy submission.clientMessageId) = true →
    db.findExisting clock submission = none
  fits : submission.Storable
  free : db.violatesApiIdempotency (submission.row clock db.nextMessageId) = false
  funded : submission.totalSellPriceMinor ≤ 0 ∨ ledgerExists db.transactions submission.tenantId
      (reserveKey (submission.row clock db.nextMessageId).composite) = true ∨
    ∃ wallet after, db.wallets submission.tenantId = some wallet ∧
      applyOperation .reserve wallet submission.totalSellPriceMinor = .ok after

variable {clock : TxClock} {submission : Submission} {db : Db}

theorem createMessage_creatable {message : MessageRow} {db' : Db}
    (h : (createMessage clock submission).run db = .ok (message, db'))
    (hnew : (truthy submission.idempotencyKey || truthy submission.clientMessageId) = true →
      db.findExisting clock submission = none) : Creatable clock submission db := by
  rw [createMessage_eq] at h
  obtain ⟨row, inserted, hinsert, hcharge⟩ := bind_eq_ok.1 h
  obtain ⟨rfl, hfits, hfree, rfl⟩ := insertMessage_ok hinsert
  obtain ⟨rfl, ⟨_, _, bill, -⟩⟩ := chargeMessage_ok hcharge
  refine ⟨hnew, hfits, hfree, ?_⟩
  cases bill with
  | skipped hskipped =>
    rcases hskipped with hfree | hposted
    · exact .inl hfree
    · exact .inr (.inl hposted)
  | applied wallet after hpos hkey hwallet hafter => exact .inr (.inr ⟨wallet, after, hwallet, hafter⟩)

theorem Creatable.createMessage (h : Creatable clock submission db) : ∃ db',
    (SmsPlatform.createMessage clock submission).run db = .ok (submission.row clock db.nextMessageId, db') ∧
      db'.messages = db.messages ++ [submission.row clock db.nextMessageId] := by
  have hcharged : ∃ posted reserved, LedgerEffect clock submission.tenantId submission.totalSellPriceMinor .reserve
      (reserveKey (submission.row clock db.nextMessageId).composite) (submission.row clock db.nextMessageId).composite
      { db with
        messages := db.messages ++ [submission.row clock db.nextMessageId]
        nextMessageId := db.nextMessageId + 1 } posted reserved ∧
      reserved.messages = db.messages ++ [submission.row clock db.nextMessageId] := by
    by_cases hskipped : submission.totalSellPriceMinor ≤ 0 ∨ ledgerExists db.transactions submission.tenantId
        (reserveKey (submission.row clock db.nextMessageId).composite) = true
    · exact ⟨false, _, .skipped hskipped, rfl⟩
    · obtain ⟨hpos, hkey⟩ := not_or.1 hskipped
      obtain ⟨wallet, after, hwallet, hafter⟩ := (h.funded.resolve_left hpos).resolve_left hkey
      exact ⟨true, _, .applied wallet after (not_le.1 hpos) (by simpa using hkey) hwallet hafter, rfl⟩
  obtain ⟨posted, reserved, hbill, hmessages⟩ := hcharged
  refine ⟨(reserved.insertLog (logRow (submission.row clock db.nextMessageId).composite "api_accepted" none
    (some .accepted) (some submission.routePreview.providerId) none 0)).enqueue clock
      (acceptedEvent submission (submission.row clock db.nextMessageId)), ?_, ?_⟩
  · rw [createMessage_eq, bind_of_ok (insertMessage_run h.fits h.free)]
    unfold chargeMessage reserveWallet
    rw [bind_of_ok (applyWalletLedger_ok.2 hbill)]
    rfl
  · rw [Db.enqueue_messages]
    exact hmessages

theorem submitMessageWithContext_existing {existing : MessageRow}
    (hkey : (truthy submission.idempotencyKey || truthy submission.clientMessageId) = true)
    (hexisting : db.findExisting clock submission = some existing) :
    (submitMessageWithContext clock submission).run db = .ok (existing, db) := by
  unfold submitMessageWithContext
  rw [bind_of_ok (a := db) (t := db) rfl, if_pos hkey, hexisting]
  rfl

theorem submitMessageWithContext_new
    (hnew : (truthy submission.idempotencyKey || truthy submission.clientMessageId) = true →
      db.findExisting clock submission = none) :
    (submitMessageWithContext clock submission).run db = (createMessage clock submission).run db := by
  unfold submitMessageWithContext
  rw [bind_of_ok (a := db) (t := db) rfl]
  by_cases hkey : (truthy submission.idempotencyKey || truthy submission.clientMessageId) = true
  · rw [if_pos hkey, hnew hkey]
  · rw [if_neg hkey]

/-- The whole transaction. -/
theorem messages_submitMessageWithContext_ne_iff :
    (withTransaction (submitMessageWithContext clock submission) db).2.messages ≠ db.messages ↔
      Creatable clock submission db := by
  unfold withTransaction
  constructor
  · intro hne
    by_cases hnew : (truthy submission.idempotencyKey || truthy submission.clientMessageId) = true →
        db.findExisting clock submission = none
    · rw [submitMessageWithContext_new hnew] at hne
      cases hrun : (createMessage clock submission).run db with
      | error failure =>
        rw [hrun] at hne
        exact absurd rfl hne
      | ok result => exact createMessage_creatable hrun hnew
    · -- an earlier submission is answered as it was
      obtain ⟨hkey, hfound⟩ := Classical.not_imp.1 hnew
      obtain ⟨existing, hexisting⟩ := Option.ne_none_iff_exists'.1 hfound
      rw [submitMessageWithContext_existing hkey hexisting] at hne
      exact absurd rfl hne
  · intro h
    obtain ⟨db', hcreate, hmessages⟩ := h.createMessage
    rw [submitMessageWithContext_new h.new, hcreate]
    dsimp only
    rw [hmessages]
    simp

instance : Decidable (Creatable clock submission db) := decidable_of_iff _ messages_submitMessageWithContext_ne_iff

/-! ### From the credential to the transaction -/

inductive Credential
  | apiKey (text : String) (now : Int)
  | token (claims : JwtClaims)

/-- `POST /messages/control-plane`, which is `@Roles('owner', 'admin', 'developer', 'support')`. -/
def controlPlaneRoute : Route := ⟨{ roles := some ["owner", "admin", "developer", "support"] }, {}⟩

namespace Directory

variable (scrypt : String → List UInt8 → List UInt8) (directory : Directory)

/-- The guards of the two routes, and the context that `submitMessage` and `submitControlPlaneMessage` make.  A token of
an unknown tenant fails in `getTenantPolicy`. -/
def authenticate (idempotencyKey : Option String) : Credential → Except HttpError SubmissionContext
  | .apiKey text now =>
    if text = "" then .error (.unauthorized "Missing X-API-Key header")
    else
      (validateApiKey scrypt directory.apiKeys now text).map fun principal => {
        tenantId := principal.tenantId
        apiKeyId := some principal.apiKeyId
        scopes := principal.scopes
        rateLimitRps := principal.rateLimitRps
        dailyQuota := principal.dailyQuota
        idempotencyKey := idempotencyKey }
  | .token claims =>
    match RolesGuard.canActivate controlPlaneRoute (some claims) with
    | .error failure => .error failure
    | .ok _ =>
      match directory.findTenant claims.tenantId with
      | none => .error (.failed (.notFound "Tenant not found"))
      | some tenant => .ok { tenantId := tenant.id, scopes := ["sms:send"], idempotencyKey := idempotencyKey }

/-- `SELECT api_rate_limit_rps, submit_tps_limit FROM tenants WHERE id = $1` -/
def policyOf (tenantId : TenantId) : Option TenantPolicyRow :=
  (directory.findTenant tenantId.text).map fun tenant => ⟨tenant.apiRateLimitRps, tenant.submitTpsLimit⟩

variable {directory}

end Directory

/-! ### The system -/

/-- A submission past its credential, and past its checks. -/
inductive PendingSubmission
  | authenticated (context : SubmissionContext) (dto : SubmitMessageDto)
  | prepared (submission : Submission)

/-- A token that was signed, and whether its tenant was active then. -/
structure SignedToken where
  claims : JwtClaims
  tenantActive : Bool

/-- A message row that a submission has created, and whether its tenant was active then. -/
structure Creation where
  tenantId : TenantId
  tenantActive : Bool

structure Gateway where
  directory : Directory
  tokens : List SignedToken
  pending : List PendingSubmission
  world : World
  created : List Creation

inductive GatewayAction
  /-- Tenants, users and keys are created, changed or removed. -/
  | administer (directory : Directory)
  | login (lower : String → String) (verifyPassword : String → String → Except Failure Bool)
      (tie : UserRow × TenantRow → Nat) (dto : LoginDto)
  | switchTenant (claims : JwtClaims) (tenantId : String)
  | authenticate (credential : Credential) (idempotencyKey : Option String) (dto : SubmitMessageDto)
  | prepare (index : Nat) (services : SubmissionServices) (compliance : ComplianceDb) (senderIds : List SenderIdRow)
  | transact (index : Nat) (clock : TxClock)
  | handle (action : Action)

namespace Gateway

def start (wallets : TenantId → Option WalletRow) : Gateway := ⟨⟨[], [], []⟩, [], [], World.initial wallets, []⟩

variable (scrypt : String → List UInt8 → List UInt8) (gateway : Gateway)

def signed (session : Except HttpError AuthSession) : Gateway :=
  match session with
  | .error _ => gateway
  | .ok session =>
    { gateway with
      tokens := ⟨session.claims, decide (gateway.directory.IsActive session.claims.tenantId)⟩ :: gateway.tokens }

/-- The token has been signed; an API key may be any text. -/
def Presented : Credential → Prop
  | .apiKey _ _ => True
  | .token claims => claims ∈ gateway.tokens.map SignedToken.claims

instance (credential : Credential) : Decidable (gateway.Presented credential) :=
  match credential with
  | .apiKey _ _ => .isTrue trivial
  | .token _ => inferInstanceAs (Decidable (_ ∈ _))

/-- The submission that awaits its transaction at this place. -/
def preparedAt (index : Nat) : Option Submission :=
  gateway.pending[index]?.bind fun
    | .authenticated _ _ => none
    | .prepared submission => some submission

/-- The transaction of a submission, and the row that it has created, if any. -/
def transact (clock : TxClock) (submission : Submission) (rest : List PendingSubmission) : Gateway :=
  let db := (withTransaction (submitMessageWithContext clock submission) gateway.world.db).2
  { gateway with
    pending := rest
    world := { gateway.world with db := db }
    created :=
      if db.messages ≠ gateway.world.db.messages then
        ⟨submission.tenantId, decide (gateway.directory.IsActive submission.tenantId.text)⟩ :: gateway.created
      else gateway.created }

def step : GatewayAction → Option Gateway
  | .administer directory => some { gateway with directory := directory }
  | .login lower verifyPassword tie dto => some (gateway.signed (gateway.directory.login lower verifyPassword tie dto))
  | .switchTenant claims tenantId =>
    if claims ∈ gateway.tokens.map SignedToken.claims then
      some (gateway.signed (gateway.directory.switchTenant claims tenantId))
    else none
  | .authenticate credential idempotencyKey dto =>
    if gateway.Presented credential then
      match gateway.directory.authenticate scrypt idempotencyKey credential with
      | .error _ => some gateway
      | .ok context => some { gateway with pending := .authenticated context dto :: gateway.pending }
    else none
  | .prepare index services compliance senderIds =>
    match gateway.pending[index]? with
    | some (.authenticated context dto) =>
      let rest := gateway.pending.eraseIdx index
      match MessagesService.prepareSubmission { services with getTenantPolicy := gateway.directory.policyOf } compliance
          senderIds context dto with
      | .error _ => some { gateway with pending := rest }
      | .ok submission => some { gateway with pending := .prepared submission :: rest }
    | _ => none
  | .transact index clock =>
    (gateway.preparedAt index).map fun submission =>
      gateway.transact clock submission (gateway.pending.eraseIdx index)
  | .handle action =>
    match action with
    | .submit _ _ => none
    | action => (gateway.world.step action).map fun world => { gateway with world := world }

/-- Every row was created while its tenant was active. -/
def SentWhileActive : Prop := ∀ creation ∈ gateway.created, creation.tenantActive = true

/-- Every token was signed while its tenant was active. -/
def SignedWhileActive : Prop := ∀ token ∈ gateway.tokens, token.tenantActive = true

/-- At the transaction of a submission its tenant is active, or nothing comes of it anyway. -/
def ActiveOrStopped : GatewayAction → Prop
  | .transact index clock => ∀ submission ∈ gateway.preparedAt index,
      gateway.directory.IsActive submission.tenantId.text ∨ ¬ Creatable clock submission gateway.world.db
  | _ => True

instance (action : GatewayAction) : Decidable (gateway.ActiveOrStopped action) :=
  match action with
  | .transact index _ => inferInstanceAs (Decidable (∀ submission ∈ gateway.preparedAt index, _ ∨ _))
  | .administer _ => .isTrue trivial
  | .login _ _ _ _ => .isTrue trivial
  | .switchTenant _ _ => .isTrue trivial
  | .authenticate _ _ _ => .isTrue trivial
  | .prepare _ _ _ _ => .isTrue trivial
  | .handle _ => .isTrue trivial

/-! ### Runs -/

variable {scrypt gateway} {gateway' : Gateway} {action : GatewayAction}

theorem SignedWhileActive.signed (h : gateway.SignedWhileActive) {session : Except HttpError AuthSession}
    (hactive : ∀ signed, session = .ok signed → gateway.directory.IsActive signed.claims.tenantId) :
    (gateway.signed session).SignedWhileActive := by
  cases session with
  | error failure => exact h
  | ok signed => exact List.forall_mem_cons.2 ⟨decide_eq_true (hactive signed rfl), h⟩

/-- What a step does to the tokens and to the record of the created rows. -/
theorem step_cases (hstep : gateway.step scrypt action = some gateway') :
    (gateway'.tokens = gateway.tokens ∧ gateway'.created = gateway.created) ∨
    (∃ session, gateway' = gateway.signed session ∧
      ∀ signed, session = .ok signed → gateway.directory.IsActive signed.claims.tenantId) ∨
    (∃ index clock submission, action = .transact index clock ∧
      gateway.preparedAt index = some submission ∧
      gateway' = gateway.transact clock submission (gateway.pending.eraseIdx index)) := by
  cases action with
  | administer directory =>
    cases hstep
    exact .inl ⟨rfl, rfl⟩
  | login lower verifyPassword tie dto =>
    cases hstep
    exact .inr (.inl ⟨_, rfl, fun _ hsigned => Directory.login_ok hsigned⟩)
  | switchTenant claims tenantId =>
    unfold step at hstep
    dsimp only at hstep
    split at hstep
    · cases hstep
      refine .inr (.inl ⟨_, rfl, fun signed hsigned => ?_⟩)
      obtain ⟨htenant, hactive⟩ := Directory.switchTenant_ok hsigned
      rw [htenant]
      exact hactive
    · cases hstep
  | authenticate credential idempotencyKey dto =>
    unfold step at hstep
    dsimp only at hstep
    split at hstep
    · split at hstep
      · cases hstep
        exact .inl ⟨rfl, rfl⟩
      · cases hstep
        exact .inl ⟨rfl, rfl⟩
    · cases hstep
  | prepare index services compliance senderIds =>
    unfold step at hstep
    dsimp only at hstep
    split at hstep
    · split at hstep
      · cases hstep
        exact .inl ⟨rfl, rfl⟩
      · cases hstep
        exact .inl ⟨rfl, rfl⟩
    · cases hstep
  | transact index clock =>
    obtain ⟨submission, hpending, rfl⟩ := Option.map_eq_some_iff.1 hstep
    exact .inr (.inr ⟨index, clock, submission, rfl, hpending, rfl⟩)
  | handle action =>
    unfold step at hstep
    dsimp only at hstep
    split at hstep
    · cases hstep
    · obtain ⟨world, -, rfl⟩ := Option.map_eq_some_iff.1 hstep
      exact .inl ⟨rfl, rfl⟩

theorem SignedWhileActive.step (h : gateway.SignedWhileActive) (hstep : gateway.step scrypt action = some gateway') :
    gateway'.SignedWhileActive := by
  rcases step_cases hstep with ⟨htokens, -⟩ | ⟨session, rfl, hactive⟩ | ⟨index, clock, submission, -, -, rfl⟩
  · unfold SignedWhileActive
    rw [htokens]
    exact h
  · exact h.signed hactive
  · exact h

theorem SentWhileActive.step (h : gateway.SentWhileActive) (hok : gateway.ActiveOrStopped action)
    (hstep : gateway.step scrypt action = some gateway') : gateway'.SentWhileActive := by
  rcases step_cases hstep with ⟨-, hcreated⟩ | ⟨session, rfl, -⟩ | ⟨index, clock, submission, rfl, hpending, rfl⟩
  · unfold SentWhileActive
    rw [hcreated]
    exact h
  · cases session with
    | error failure => exact h
    | ok session => exact h
  · unfold SentWhileActive transact
    dsimp only
    split
    · rename_i hcreates
      refine List.forall_mem_cons.2 ⟨decide_eq_true ?_, h⟩
      exact (hok submission hpending).resolve_right
        (not_not.2 (messages_submitMessageWithContext_ne_iff.1 hcreates))
    · exact h

end Gateway

namespace Sample

/-- A tenant with one user and one API key, whose text is `sk_live_61_k`. -/
def directory (status : String) : Directory where
  tenants := [⟨tenant, "acme-et", "Acme Ethiopia", "Africa/Addis_Ababa", status, 100, 100⟩]
  users := [⟨"user-1", tenant, "owner@acme.et", "hash", "owner", true⟩]
  apiKeys := [⟨"key-1", tenant, "61", "61", [], "Primary", ["sms:send"], none, none, true, none⟩]

end Sample

end SmsPlatform
