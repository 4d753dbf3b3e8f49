import SmsPlatform.Database

/-!
# Tokens, API keys and guards

What stands before a handler: `JwtAuthGuard` and `RolesGuard`, which are global, over the metadata that the decorators
leave on a handler and its class; `validateApiKey`; and the tenant scope of a token.  The verification of a token and
scrypt enter as functions.  Headers are texts, as Node.js delivers these two.
-/

namespace SmsPlatform

structure JwtClaims where
  sub : String
  tenantId : String
  homeTenantId : Option String := none
  role : String
  email : Option String := none
  deriving DecidableEq

structure ApiPrincipal where
  apiKeyId : String
  tenantId : TenantId
  name : String
  scopes : List String
  rateLimitRps : Option Nat
  dailyQuota : Option Nat
  deriving DecidableEq

/-- What a request can be answered with instead of a result. -/
inductive HttpError
  | unauthorized (message : String)
  | failed (failure : Failure)
  deriving DecidableEq

/-- A text that is truthy in JavaScript. -/
def given (text : Option String) : Option String := text.filter fun t => decide (t ≠ "")

/-! ### The tenant scope of a token -/

def crossTenantRoles : List String := ["admin", "support"]

def resolveTenantScope (user : JwtClaims) (requestedTenantId : Option String) : Except Failure String :=
  match given requestedTenantId with
  | none => .ok user.tenantId
  | some requested =>
    if requested = user.tenantId then .ok user.tenantId
    else if user.role ∈ crossTenantRoles then .ok requested
    else .error (.forbidden "Cross-tenant access is not allowed for this role")

/-- Without one of the two roles the scope is the tenant of the token. -/
theorem resolveTenantScope_own {user : JwtClaims} (hrole : user.role ∉ crossTenantRoles) {requested : Option String}
    {scope : String} (h : resolveTenantScope user requested = .ok scope) : scope = user.tenantId := by
  unfold resolveTenantScope at h
  split at h
  · cases h
    rfl
  · split at h
    · cases h
      rfl
    · cases h

/-! ### API keys -/

structure ApiKeyRow where
  id : String
  tenantId : TenantId
  keyPrefix : String
  keyHash : String
  keySalt : List UInt8
  name : String
  scopes : List String
  rateLimitRps : Option Nat
  dailyQuota : Option Nat
  isActive : Bool
  expiresAt : Option Int
  deriving DecidableEq

def hexDigit (c : Char) : Option Nat :=
  if '0' ≤ c ∧ c ≤ '9' then some (c.toNat - '0'.toNat)
  else if 'a' ≤ c ∧ c ≤ 'f' then some (c.toNat - 'a'.toNat + 10)
  else if 'A' ≤ c ∧ c ≤ 'F' then some (c.toNat - 'A'.toNat + 10)
  else none

/-- `Buffer.from(text, 'hex')`, which stops at the first pair that is none. -/
def hexBytes : List Char → List UInt8
  | high :: low :: rest =>
    match hexDigit high, hexDigit low with
    | some h, some l => .ofNat (16 * h + l) :: hexBytes rest
    | _, _ => []
  | _ => []

/-- The update of `last_used_at`, which nothing reads, is left out.  Times are milliseconds. -/
def validateApiKey (scrypt : String → List UInt8 → List UInt8) (apiKeys : List ApiKeyRow) (now : Int)
    (apiKey : String) : Except HttpError ApiPrincipal :=
  match apiKey.toList.splitOn '_' with
  | _ :: _ :: keyPrefix :: _ :: _ =>
    match apiKeys.find? fun row => decide (row.keyPrefix = .ofList keyPrefix) with
    | none => .error (.unauthorized "API key is not active")
    | some row =>
      if row.isActive = false then .error (.unauthorized "API key is not active")
      else if row.expiresAt.any fun expiresAt => decide (expiresAt < now) then
        .error (.unauthorized "API key has expired")
      else if scrypt apiKey row.keySalt ≠ hexBytes row.keyHash.toList then .error (.unauthorized "Invalid API key")
      else .ok ⟨row.id, row.tenantId, row.name, row.scopes, row.rateLimitRps, row.dailyQuota⟩
  | _ => .error (.unauthorized "Malformed API key")

/-! ### Guards -/

/-- The metadata that decorators leave on a handler or on a class. -/
structure Metadata where
  isPublic : Option Bool := none
  roles : Option (List String) := none

structure Route where
  handler : Metadata
  controller : Metadata

def Route.getAllAndOverride {α : Type} (route : Route) (key : Metadata → Option α) : Option α :=
  (key route.handler).or (key route.controller)

structure Headers where
  apiKey : Option String := none
  authorization : Option String := none

/-- `authorization.slice(7)` of a header that starts with `Bearer `. -/
def Headers.bearerToken (headers : Headers) : Option String :=
  headers.authorization.bind fun authorization =>
    (List.isPrefixOf? "Bearer ".toList authorization.toList).map String.ofList

/-- The `request.user` that the guard leaves. -/
def JwtAuthGuard.canActivate (verify : String → Option JwtClaims) (route : Route) (headers : Headers) :
    Except HttpError (Option JwtClaims) :=
  if route.getAllAndOverride Metadata.isPublic = some true then .ok none
  -- an API key is left to a guard of the route
  else if (given headers.apiKey).isSome then .ok none
  else
    match headers.bearerToken with
    | none => .error (.unauthorized "Missing bearer token or API key")
    | some token =>
      match verify token with
      | none => .error (.unauthorized "Invalid bearer token")
      | some payload => .ok (some payload)

def RolesGuard.canActivate (route : Route) (user : Option JwtClaims) : Except HttpError Unit :=
  match route.getAllAndOverride Metadata.roles with
  | none => .ok ()
  | some roles =>
    if roles = [] then .ok ()
    else if ∃ claims ∈ user, claims.role ≠ "" ∧ claims.role ∈ roles then .ok ()
    else .error (.failed (.forbidden "Insufficient role"))

/-- A handler with `@Roles` runs only for a token that has been verified. -/
theorem RolesGuard.canActivate_ok {route : Route} {user : Option JwtClaims} {roles : List String}
    (hroles : route.getAllAndOverride Metadata.roles = some roles) (hsome : roles ≠ [])
    (h : RolesGuard.canActivate route user = .ok ()) : ∃ claims, user = some claims ∧ claims.role ∈ roles := by
  unfold RolesGuard.canActivate at h
  rw [hroles] at h
  dsimp only at h
  rw [if_neg hsome] at h
  split at h
  · rename_i hclaims
    obtain ⟨claims, huser, -, hrole⟩ := hclaims
    exact ⟨claims, huser, hrole⟩
  · cases h

theorem JwtAuthGuard.canActivate_user {verify : String → Option JwtClaims} {route : Route} {headers : Headers}
    {claims : JwtClaims} (h : JwtAuthGuard.canActivate verify route headers = .ok (some claims)) :
    ∃ token, headers.bearerToken = some token ∧ verify token = some claims := by
  unfold JwtAuthGuard.canActivate at h
  split at h
  · cases h
  · split at h
    · cases h
    · split at h
      · cases h
      · rename_i token htoken
        split at h
        · cases h
        · rename_i payload hverify
          cases h
          exact ⟨token, htoken, hverify⟩

end SmsPlatform
