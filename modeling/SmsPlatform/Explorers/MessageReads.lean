import SmsPlatform.Explorers.Noninterference

/-!
# Who may read a message over HTTP

`GET messages/:submitDate/:tenantId/:id` and its `/trace` behind the global guards.  The trace has `@Roles`, so only a
verified token reaches it, and its service asks for the token's tenant scope.  The message itself has neither `@Roles` nor
a guard of its own: `JwtAuthGuard` lets any `x-api-key` pass and leaves the key to a guard that is not there, and no tenant
is compared.  So it is answered for credentials of its tenant exactly when a request is not `Unchecked`
(`message_reads_authorized`).
-/

namespace SmsPlatform.Explorers

open Queries StateExcept

/-- What a handler asks of libraries; `parseInt` is `ParseIntPipe` with the BIGINT that becomes of its number. -/
structure Libraries where
  sql : Sql
  verify : String → Option JwtClaims
  scrypt : String → List UInt8 → List UInt8
  parseInt : String → Option Int

inductive Endpoint
  | getMessage | getTrace
  deriving DecidableEq

def Endpoint.route : Endpoint → Route
  | .getMessage => ⟨{}, {}⟩
  | .getTrace => ⟨{ roles := some ["owner", "admin", "developer", "support", "viewer"] }, {}⟩

structure Request where
  headers : Headers
  submitDate : String
  tenantId : String
  id : String

inductive Answer
  | message (response : MessageResponse)
  | trace (trace : MessageTrace)

def Answer.tenantId : Answer → TenantId
  | .message response => response.tenantId
  | .trace found => found.message.tenantId

/-- The handler behind the guards. -/
def MessagesController.read (lib : Libraries) (db : Tables) (user : Option JwtClaims) (messageRef : MessageRef) :
    Endpoint → Except Failure Answer
  | .getMessage => (MessagesService.getMessage lib.sql db messageRef).map .message
  | .getTrace =>
    match user with
    | none => .error (.error "Cannot read properties of undefined (reading 'tenantId')")
    | some claims => (MessagesService.getMessageTrace lib.sql db claims messageRef).map .trace

def handle (lib : Libraries) (db : Tables) (endpoint : Endpoint) (request : Request) : Except HttpError Answer := do
  let user ← JwtAuthGuard.canActivate lib.verify endpoint.route request.headers
  RolesGuard.canActivate endpoint.route user
  match lib.parseInt request.id with
  | none => .error (.failed (.badRequest "Validation failed (numeric string is expected)"))
  | some id =>
    (MessagesController.read lib db user ⟨request.submitDate, request.tenantId, id⟩ endpoint).mapError .failed

/-! ### What a request carries -/

/-- The scope of a token can be the tenant. -/
def Admits (sql : Sql) (claims : JwtClaims) (tenant : TenantId) : Prop :=
  ∃ requested scope, resolveTenantScope claims requested = .ok scope ∧ sql.uuid scope = some tenant

/-- The headers carry a token whose scope is the tenant, or an API key of the tenant. -/
inductive Authorized (lib : Libraries) (apiKeys : List ApiKeyRow) (now : Int) (headers : Headers) (tenant : TenantId) :
    Prop
  | bearer (token : String) (claims : JwtClaims) (htoken : headers.bearerToken = some token)
      (hverify : lib.verify token = some claims) (hscope : Admits lib.sql claims tenant)
  | apiKey (key : String) (principal : ApiPrincipal) (hkey : headers.apiKey = some key)
      (hvalid : validateApiKey lib.scrypt apiKeys now key = .ok principal) (htenant : principal.tenantId = tenant)

/-- Anything that makes `JwtAuthGuard` let a request pass: a text in `x-api-key`, or a token that is verified. -/
def Passes (lib : Libraries) (headers : Headers) : Prop :=
  given headers.apiKey ≠ none ∨ ∃ token ∈ headers.bearerToken, lib.verify token ≠ none

/-- A request for a message itself that passes, names a message, and carries no credentials for the tenant it names. -/
structure Unchecked (lib : Libraries) (db : Tables) (apiKeys : List ApiKeyRow) (now : Int) (endpoint : Endpoint)
    (request : Request) : Prop where
  endpoint : endpoint = .getMessage
  passes : Passes lib request.headers
  names : ∃ row ∈ db.messages, lib.sql.date request.submitDate = some row.submitDate ∧
    lib.sql.uuid request.tenantId = some row.tenantId ∧ lib.parseInt request.id = some (row.id : Int)
  unauthorized : ∀ tenant, lib.sql.uuid request.tenantId = some tenant →
    ¬ Authorized lib apiKeys now request.headers tenant

/-! ### Messages that are found -/

section Found

variable {sql : Sql} {db : Tables} {messageRef : MessageRef}

theorem getMessageRow_tenant {row : MessageRow} (h : MessagesService.getMessageRow sql db messageRef = .ok row) :
    row ∈ db.messages ∧ sql.date messageRef.submitDate = some row.submitDate ∧
      sql.uuid messageRef.tenantId = some row.tenantId ∧ (row.id : Int) = messageRef.id := by
  obtain ⟨submitDate, hdate, h⟩ := except_bind_eq_ok.1 h
  obtain ⟨tenant, htenant, h⟩ := except_bind_eq_ok.1 h
  split at h
  · rename_i row' hfound
    cases h
    have hselected := List.mem_of_mem_head? (Option.mem_def.2 hfound)
    obtain ⟨hmem, hall⟩ := List.mem_filter.1 hselected
    simp only [equals, List.all_cons, List.all_nil, Bool.and_true, Bool.and_eq_true, decide_eq_true_eq,
      Option.some.injEq] at hall
    obtain ⟨hsubmitDate, hrowTenant, hid⟩ := hall
    refine ⟨hmem, ?_, ?_, hid⟩
    · rw [hsubmitDate]
      exact cast_ok hdate
    · rw [hrowTenant]
      exact cast_ok htenant
  · cases h

theorem getMessageRow_of_mem (messageRef : MessageRef) {row : MessageRow} (hrow : row ∈ db.messages)
    (hdate : sql.date messageRef.submitDate = some row.submitDate)
    (htenant : sql.uuid messageRef.tenantId = some row.tenantId) (hid : messageRef.id = row.id) :
    ∃ row', MessagesService.getMessageRow sql db messageRef = .ok row' := by
  unfold MessagesService.getMessageRow cast
  rw [hdate, htenant, hid]
  have hselected : row ∈ select [equals (fun row => some row.submitDate) row.submitDate,
      equals (fun row => some row.tenantId) row.tenantId, equals (fun row => some (row.id : Int)) (row.id : Int)]
        db.messages := by
    refine List.mem_filter.2 ⟨hrow, ?_⟩
    simp [equals]
  obtain ⟨first, hfirst⟩ := Option.isSome_iff_exists.1 (List.isSome_head?.2 (List.ne_nil_of_mem hselected))
  refine ⟨first, ?_⟩
  dsimp only [bind, Except.bind]
  rw [hfirst]
  rfl

theorem getMessageTrace_tenant {user : JwtClaims} {trace : MessageTrace}
    (h : MessagesService.getMessageTrace sql db user messageRef = .ok trace) :
    Admits sql user trace.message.tenantId := by
  obtain ⟨scope, hscope, h⟩ := except_bind_eq_ok.1 h
  obtain ⟨row, hrow, h⟩ := except_bind_eq_ok.1 h
  obtain ⟨submitDate, -, h⟩ := except_bind_eq_ok.1 h
  obtain ⟨tenant, -, h⟩ := except_bind_eq_ok.1 h
  cases h
  obtain ⟨-, -, htenant, -⟩ := getMessageRow_tenant hrow
  exact ⟨some messageRef.tenantId, scope, hscope, htenant⟩

end Found

/-! ### Guards and handlers -/

section Handle

variable {lib : Libraries} {db : Tables} {apiKeys : List ApiKeyRow} {now : Int} {endpoint : Endpoint} {request : Request}

theorem Endpoint.not_public (endpoint : Endpoint) : endpoint.route.getAllAndOverride Metadata.isPublic = none := by
  cases endpoint <;> rfl

theorem canActivate_passes {user : Option JwtClaims}
    (h : JwtAuthGuard.canActivate lib.verify endpoint.route request.headers = .ok user) :
    Passes lib request.headers := by
  unfold JwtAuthGuard.canActivate at h
  rw [endpoint.not_public, if_neg (by simp)] at h
  split at h
  · rename_i hkey
    exact .inl (Option.isSome_iff_ne_none.1 hkey)
  · split at h
    · cases h
    · rename_i token htoken
      split at h
      · cases h
      · rename_i payload hverify
        refine .inr ⟨token, htoken, ?_⟩
        rw [hverify]
        exact Option.some_ne_none payload

theorem canActivate_of_passes (endpoint : Endpoint) (h : Passes lib request.headers) :
    ∃ user, JwtAuthGuard.canActivate lib.verify endpoint.route request.headers = .ok user := by
  unfold JwtAuthGuard.canActivate
  rw [endpoint.not_public, if_neg (by simp)]
  by_cases hkey : (given request.headers.apiKey).isSome = true
  · exact ⟨none, if_pos hkey⟩
  · rw [if_neg hkey]
    rcases h with hkey' | ⟨token, htoken, hverify⟩
    · exact absurd (Option.isSome_iff_ne_none.2 hkey') hkey
    · obtain ⟨claims, hclaims⟩ := Option.ne_none_iff_exists'.1 hverify
      refine ⟨some claims, ?_⟩
      rw [Option.mem_def.1 htoken]
      dsimp only
      rw [hclaims]

theorem mapError_ok {α : Type} {x : Except Failure α} {value : α} (h : x.mapError HttpError.failed = .ok value) :
    x = .ok value := by
  cases x with
  | error failure => cases h
  | ok value' =>
    cases h
    rfl

/-- What an answered request has gone through. -/
theorem handle_ok {answer : Answer} (h : handle lib db endpoint request = .ok answer) :
    ∃ user id, JwtAuthGuard.canActivate lib.verify endpoint.route request.headers = .ok user ∧
      RolesGuard.canActivate endpoint.route user = .ok () ∧ lib.parseInt request.id = some id ∧
      MessagesController.read lib db user ⟨request.submitDate, request.tenantId, id⟩ endpoint = .ok answer := by
  obtain ⟨user, huser, h⟩ := except_bind_eq_ok.1 h
  obtain ⟨_, hroles, h⟩ := except_bind_eq_ok.1 h
  split at h
  · cases h
  · rename_i id hid
    exact ⟨user, id, huser, hroles, hid, mapError_ok h⟩

/-- A trace is answered for a token whose scope is the message's tenant. -/
theorem getTrace_authorized {answer : Answer} (h : handle lib db .getTrace request = .ok answer) :
    Authorized lib apiKeys now request.headers answer.tenantId := by
  obtain ⟨user, id, huser, hroles, -, h⟩ := handle_ok h
  -- an API key leaves no user, so the roles have come from a token
  obtain ⟨claims, rfl, -⟩ := RolesGuard.canActivate_ok rfl (by simp) hroles
  obtain ⟨token, htoken, hverify⟩ := JwtAuthGuard.canActivate_user huser
  obtain ⟨found, hfound, rfl⟩ := except_map_eq_ok.1 h
  exact .bearer token claims htoken hverify (getMessageTrace_tenant hfound)

/-- A message is answered to anyone who passes. -/
theorem getMessage_answered (hpasses : Passes lib request.headers) (hnames : ∃ row ∈ db.messages,
      lib.sql.date request.submitDate = some row.submitDate ∧ lib.sql.uuid request.tenantId = some row.tenantId ∧
        lib.parseInt request.id = some (row.id : Int)) :
    ∃ answer, handle lib db .getMessage request = .ok answer ∧
      lib.sql.uuid request.tenantId = some answer.tenantId := by
  obtain ⟨row, hrow, hdate, htenant, hid⟩ := hnames
  obtain ⟨user, huser⟩ := canActivate_of_passes .getMessage hpasses
  obtain ⟨found, hfound⟩ :=
    getMessageRow_of_mem ⟨request.submitDate, request.tenantId, row.id⟩ hrow hdate htenant rfl
  obtain ⟨-, -, hfoundTenant, -⟩ := getMessageRow_tenant hfound
  refine ⟨.message (MessagesService.buildMessageResponse found), ?_, hfoundTenant⟩
  unfold handle MessagesController.read MessagesService.getMessage
  rw [huser]
  dsimp only [bind, Except.bind]
  rw [hid, show RolesGuard.canActivate Endpoint.getMessage.route user = .ok () from rfl]
  dsimp only
  rw [hfound]
  rfl

end Handle

/-- Every message that is answered is answered for credentials of its tenant if and only if the request is not an
unchecked one; a request for a trace never is. -/
theorem message_reads_authorized (lib : Libraries) (db : Tables) (apiKeys : List ApiKeyRow) (now : Int)
    (endpoint : Endpoint) (request : Request) :
    (∀ answer, handle lib db endpoint request = .ok answer →
      Authorized lib apiKeys now request.headers answer.tenantId) ↔
        ¬ Unchecked lib db apiKeys now endpoint request := by
  constructor
  · rintro hauthorized ⟨rfl, hpasses, hnames, hnone⟩
    obtain ⟨answer, hanswer, htenant⟩ := getMessage_answered hpasses hnames
    exact hnone _ htenant (hauthorized answer hanswer)
  · intro hchecked answer hanswer
    cases endpoint with
    | getTrace => exact getTrace_authorized hanswer
    | getMessage =>
      -- whoever is answered without credentials has sent an unchecked request
      by_contra hnone
      obtain ⟨user, id, huser, -, hid, hread⟩ := handle_ok hanswer
      obtain ⟨response, hresponse, rfl⟩ := except_map_eq_ok.1 hread
      obtain ⟨row, hfound, rfl⟩ := except_map_eq_ok.1 hresponse
      obtain ⟨hrow, hdate, htenant, hrowId⟩ := getMessageRow_tenant hfound
      have hrowId : (row.id : Int) = id := hrowId
      refine hchecked ⟨rfl, canActivate_passes huser, ⟨row, hrow, hdate, htenant, ?_⟩, fun tenant htenant' => ?_⟩
      · rw [hid, hrowId]
      · rw [Option.some.inj (htenant'.symm.trans htenant)]
        exact hnone

/-- Nobody's key reads the message of a tenant. -/
theorem message_read_unauthorized :
    let lib : Libraries := ⟨Sample.sql, fun _ => none, fun _ salt => salt, fun _ => some 1⟩
    let request : Request := ⟨{ apiKey := some "x" }, "2026-01-01", "tenant", "1"⟩
    ∃ answer, handle lib Sample.shared .getMessage request = .ok answer ∧
      ¬ Authorized lib [] 0 request.headers answer.tenantId := by
  intro lib request
  refine ⟨.message (MessagesService.buildMessageResponse (Sample.message SmsPlatform.Sample.tenant)), rfl, ?_⟩
  rintro (⟨token, claims, htoken, -, -⟩ | ⟨key, principal, hkey, hvalid, -⟩)
  · cases htoken
  · cases hkey
    have hmalformed : validateApiKey lib.scrypt [] 0 "x" = .error (.unauthorized "Malformed API key") := by
      decide +kernel
    rw [hmalformed] at hvalid
    cases hvalid

end SmsPlatform.Explorers
