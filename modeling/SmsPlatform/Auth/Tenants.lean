import SmsPlatform.Auth.Guards
import SmsPlatform.Lib.Queries
import SmsPlatform.Messages.Preparation

/-!
# Tenants, users and sessions

The tables of tenants and users, and the three methods of `auth.service.ts` that read the status of a tenant: `login`,
`getCurrentUser` and `switchTenant`.  The comparison of passwords, PostgreSQL's LOWER and the order in which it delivers
rows enter as functions; the audit rows and the counters are left out.
-/

namespace SmsPlatform

structure TenantRow where
  id : TenantId
  code : String
  name : String
  timezone : String
  status : String
  apiRateLimitRps : Int
  submitTpsLimit : Int

structure UserRow where
  id : String
  tenantId : TenantId
  email : String
  passwordHash : String
  role : String
  isActive : Bool

/-- What the authentication reads. -/
structure Directory where
  tenants : List TenantRow
  users : List UserRow
  apiKeys : List ApiKeyRow

structure LoginDto where
  tenantCode : String
  email : String
  password : String

/-- The answer of `login` and `switchTenant`, with the claims of the token that they sign. -/
structure AuthSession where
  claims : JwtClaims
  tenant : TenantRow

namespace Directory

variable (directory : Directory)

/-- `WHERE id = $1`, for an id as a token carries it. -/
def findTenant (id : String) : Option TenantRow := directory.tenants.find? fun tenant => decide (tenant.id.text = id)

/-- The tenant is there, and its status is `active`. -/
def IsActive (id : String) : Prop := ∃ tenant, directory.findTenant id = some tenant ∧ tenant.status = "active"

instance (id : String) : Decidable (directory.IsActive id) :=
  decidable_of_iff ((directory.findTenant id).any (fun tenant => decide (tenant.status = "active")) = true) <| by
    rw [Option.any_eq_true]
    exact exists_congr fun tenant => and_congr_right fun _ => decide_eq_true_iff

/-- The users of a tenant code and an email, each with its tenant. -/
def loginRows (lower : String → String) (dto : LoginDto) : List (UserRow × TenantRow) :=
  let joined := directory.users.filterMap fun user =>
    (directory.findTenant user.tenantId.text).map fun tenant => (user, tenant)
  joined.filter fun row => decide (row.2.code = dto.tenantCode ∧ lower row.1.email = lower dto.email)

def login (lower : String → String) (verifyPassword : String → String → Except Failure Bool)
    (tie : UserRow × TenantRow → Nat) (dto : LoginDto) : Except HttpError AuthSession :=
  match Queries.first tie (directory.loginRows lower dto) with
  | none => .error (.unauthorized "Invalid login credentials")
  | some (user, tenant) =>
    if user.isActive = false ∨ tenant.status ≠ "active" then .error (.unauthorized "Invalid login credentials")
    else
      match verifyPassword dto.password user.passwordHash with
      | .error failure => .error (.failed failure)
      | .ok false => .error (.unauthorized "Invalid login credentials")
      | .ok true =>
        .ok ⟨⟨user.id, user.tenantId.text, some user.tenantId.text, user.role, some user.email⟩, tenant⟩

/-- The user of a token, in its home tenant. -/
def findUser (claims : JwtClaims) : Option UserRow :=
  directory.users.find? fun user =>
    decide (user.id = claims.sub ∧ user.tenantId.text = claims.homeTenantId.getD claims.tenantId)

def switchTenant (claims : JwtClaims) (tenantId : String) : Except HttpError AuthSession :=
  if claims.role ∉ crossTenantRoles then
    .error (.unauthorized "Cross-tenant access is not allowed for this role")
  else
    match directory.findUser claims, directory.findTenant tenantId with
    | some user, some tenant =>
      if user.isActive = false ∨ tenant.status ≠ "active" then .error (.unauthorized "Unable to switch tenant context")
      else
        .ok ⟨⟨user.id, tenant.id.text, some (claims.homeTenantId.getD claims.tenantId), user.role, some user.email⟩,
          tenant⟩
    | _, _ => .error (.unauthorized "Unable to switch tenant context")

variable {directory}

theorem findTenant_id {id : String} {tenant : TenantRow} (h : directory.findTenant id = some tenant) :
    tenant.id.text = id := by
  simpa using List.find?_some h

/-! ### The status is checked -/

theorem login_ok {lower : String → String} {verifyPassword : String → String → Except Failure Bool}
    {tie : UserRow × TenantRow → Nat} {dto : LoginDto} {session : AuthSession}
    (h : directory.login lower verifyPassword tie dto = .ok session) : directory.IsActive session.claims.tenantId := by
  unfold login at h
  split at h
  · cases h
  · rename_i user tenant hfirst
    split at h
    · cases h
    · rename_i hactive
      split at h
      · cases h
      · cases h
      · cases h
        have hrow := (List.mem_filter.1 (Queries.mem_of_first hfirst)).1
        obtain ⟨found, -, hpair⟩ := List.mem_filterMap.1 hrow
        obtain ⟨_, htenant, hsame⟩ := Option.map_eq_some_iff.1 hpair
        cases hsame
        exact ⟨tenant, htenant, by_contra fun hnot => hactive (.inr hnot)⟩

theorem switchTenant_ok {claims : JwtClaims} {tenantId : String} {session : AuthSession}
    (h : directory.switchTenant claims tenantId = .ok session) :
    session.claims.tenantId = tenantId ∧ directory.IsActive tenantId := by
  unfold switchTenant at h
  split at h
  · cases h
  · split at h
    · rename_i user tenant huser htenant
      split at h
      · cases h
      · rename_i hactive
        cases h
        exact ⟨findTenant_id htenant, tenant, htenant, by_contra fun hnot => hactive (.inr hnot)⟩
    · cases h

end Directory

end SmsPlatform
