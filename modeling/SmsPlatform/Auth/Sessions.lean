import SmsPlatform.Auth.Tenants
import SmsPlatform.Lib.Records

/-!
# Sessions and password confirmation

The tokens that `auth.service.ts` signs and what they open.  `login` and `switchTenant` sign a session token of twelve
hours, `reauthenticate` one of five minutes that `ReauthGuard` asks for before a dangerous action.  All three are signed
with one key, and `JwtAuthGuard` looks at the claims only.  The system is the directory, which anybody may change at any
time, and the payloads signed so far; a step is a change of the directory or a request.  What a request has shown is
written down (`AuthEntry`).
-/

namespace SmsPlatform

open Transition

deriving instance DecidableEq for TenantRow, UserRow, Directory, LoginDto

/-! ### Tokens -/

/-- What `signAsync` puts under its signature; `iat` and `exp` are seconds, `reauthAt` is milliseconds. -/
structure TokenPayload where
  claims : JwtClaims
  kind : Option String := none
  scope : Option String := none
  reauthAt : Option Int := none
  iat : Int
  exp : Int
  deriving DecidableEq

/-- The package `@nestjs/jwt` with the key pair of the configuration; `verifyAsync` is asked at a time in
milliseconds. -/
structure JwtService where
  signAsync : TokenPayload → String
  verifyAsync : Int → String → Option TokenPayload

/-- `Math.floor(Date.now() / 1000)` -/
def unixSeconds (now : Int) : Int := now / 1000

/-- The token of `login` and `switchTenant`, `expiresIn` is `'12h'`. -/
def sessionPayload (now : Int) (claims : JwtClaims) : TokenPayload where
  claims := claims
  iat := unixSeconds now
  exp := unixSeconds now + 12 * 60 * 60

namespace Directory

def reauthenticate (directory : Directory) (verifyPassword : String → String → Except Failure Bool)
    (claims : JwtClaims) (password : String) (now : Int) : Except HttpError TokenPayload :=
  match (directory.findUser claims).filter UserRow.isActive with
  | none => .error (.unauthorized "User session is no longer active")
  | some user =>
    match verifyPassword password user.passwordHash with
    | .error failure => .error (.failed failure)
    | .ok false => .error (.unauthorized "Password confirmation failed")
    | .ok true => .ok {
        claims := { claims with homeTenantId := some (claims.homeTenantId.getD claims.tenantId) }
        kind := some "reauth"
        scope := some "dangerous_action"
        reauthAt := some now
        iat := unixSeconds now
        exp := unixSeconds now + 300 }

end Directory

/-! ### The guard of dangerous actions -/

def ReauthGuard.canActivate (verify : String → Option TokenPayload) (user : Option JwtClaims)
    (reauthToken : Option String) : Except HttpError Unit :=
  match user with
  | none => .error (.unauthorized "A valid session is required before password confirmation can be checked")
  | some currentUser =>
    match given reauthToken with
    | none => .error (.unauthorized "Password confirmation is required for this action")
    | some token =>
      match verify token with
      | none => .error (.unauthorized "Re-authentication token is invalid or expired")
      | some payload =>
        if payload.kind ≠ some "reauth" ∨ payload.scope ≠ some "dangerous_action" then
          .error (.unauthorized "Invalid re-authentication token scope")
        else if payload.claims.sub ≠ currentUser.sub ∨ payload.claims.tenantId ≠ currentUser.tenantId ∨
            payload.claims.homeTenantId ≠ currentUser.homeTenantId then
          .error (.unauthorized "Re-authentication token does not match the active session context")
        else .ok ()

/-- The handlers with `@UseGuards(ReauthGuard)`. -/
inductive DangerousAction
  | rotateApiKey | disableApiKey | cancelCampaign | approveSenderId | rejectSenderId | updateCircuitState
  | createRule | updateRule | createPricingRule | updatePricingRule | createRetryPolicy | updateRetryPolicy
  deriving DecidableEq

/-- Their `@Roles`. -/
def DangerousAction.roles : DangerousAction → List String
  | .rotateApiKey | .disableApiKey => ["owner", "admin"]
  | .cancelCampaign => ["owner", "admin", "developer"]
  | .approveSenderId | .rejectSenderId | .updateCircuitState | .createRule | .updateRule | .createPricingRule
  | .updatePricingRule | .createRetryPolicy | .updateRetryPolicy => ["admin", "support"]

def DangerousAction.route (action : DangerousAction) : Route := ⟨{ roles := some action.roles }, {}⟩

theorem DangerousAction.roles_ne_nil (action : DangerousAction) : action.roles ≠ [] := by
  cases action <;> exact List.cons_ne_nil _ _

/-! ### The system -/

/-- What the authentication takes from outside. -/
structure AuthLibraries where
  jwt : JwtService
  lower : String → String
  verifyPassword : String → String → Except Failure Bool
  tie : UserRow × TenantRow → Nat

inductive AuthRequest
  | login (dto : LoginDto)
  | switchTenant (headers : Headers) (tenantId : String)
  | reauthenticate (headers : Headers) (password : String)
  | dangerous (action : DangerousAction) (headers : Headers) (reauthToken : Option String)

/-- The texts that a request presents as tokens. -/
def AuthRequest.tokens : AuthRequest → List String
  | .login _ => []
  | .switchTenant headers _ => headers.bearerToken.toList
  | .reauthenticate headers _ => headers.bearerToken.toList
  | .dangerous _ headers reauthToken => headers.bearerToken.toList ++ reauthToken.toList

structure AuthWorld where
  directory : Directory
  issued : List TokenPayload
  deriving DecidableEq

inductive AuthAction
  | change (directory : Directory)
  | serve (now : Int) (request : AuthRequest)

/-- What a successful request has shown. -/
inductive AuthEvent
  | loggedIn (dto : LoginDto) (claims : JwtClaims)
  | switched (session claims : JwtClaims)
  | confirmed (session : JwtClaims) (password : String)
  | acted (action : DangerousAction) (session : JwtClaims)
  deriving DecidableEq

/-- An event, with its time and the directory it was served from. -/
structure AuthEntry where
  directory : Directory
  now : Int
  event : AuthEvent
  deriving DecidableEq

namespace AuthWorld

variable (lib : AuthLibraries)

/-- `JwtAuthGuard` at a time. -/
def currentUser (route : Route) (headers : Headers) (now : Int) : Except HttpError (Option JwtClaims) :=
  JwtAuthGuard.canActivate (fun token => (lib.jwt.verifyAsync now token).map TokenPayload.claims) route headers

/-- `POST auth/switch-tenant`. -/
def switchTenantRoute : Route := ⟨{ roles := some ["admin", "support"] }, {}⟩

/-- `POST auth/re-auth`, for any role. -/
def reauthRoute : Route := ⟨{}, {}⟩

/-- The guards and the handler of a request: what it shows, and the payload it signs, if any.  Without a user the
handlers read a field of `undefined`. -/
def handle (directory : Directory) (now : Int) : AuthRequest → Except HttpError (AuthEvent × Option TokenPayload)
  | .login dto => do
    let session ← directory.login lib.lower lib.verifyPassword lib.tie dto
    return (.loggedIn dto session.claims, some (sessionPayload now session.claims))
  | .switchTenant headers tenantId => do
    let user ← currentUser lib switchTenantRoute headers now
    RolesGuard.canActivate switchTenantRoute user
    match user with
    | none => throw (.failed (.error "Cannot read properties of undefined (reading 'role')"))
    | some claims =>
      let session ← directory.switchTenant claims tenantId
      return (.switched claims session.claims, some (sessionPayload now session.claims))
  | .reauthenticate headers password => do
    let user ← currentUser lib reauthRoute headers now
    RolesGuard.canActivate reauthRoute user
    match user with
    | none => throw (.failed (.error "Cannot read properties of undefined (reading 'homeTenantId')"))
    | some claims =>
      let payload ← directory.reauthenticate lib.verifyPassword claims password now
      return (.confirmed claims password, some payload)
  | .dangerous action headers reauthToken => do
    let user ← currentUser lib action.route headers now
    RolesGuard.canActivate action.route user
    ReauthGuard.canActivate (lib.jwt.verifyAsync now) user reauthToken
    match user with
    | none => throw (.failed (.error "Cannot read properties of undefined (reading 'tenantId')"))
    | some claims => return (.acted action claims, none)

def step (world : AuthWorld) : AuthAction → Option AuthWorld
  | .change directory => some { world with directory := directory }
  | .serve now request =>
    match handle lib world.directory now request with
    | .ok (_, some payload) => some { world with issued := payload :: world.issued }
    | .ok (_, none) => some world
    | .error _ => some world

def sees (world : AuthWorld) (action : AuthAction) (_ : AuthWorld) : List AuthEntry :=
  match action with
  | .change _ => []
  | .serve now request =>
    match handle lib world.directory now request with
    | .ok (event, _) => [⟨world.directory, now, event⟩]
    | .error _ => []

/-- The signature cannot be forged: what the package accepts has been signed, and has not expired. -/
def Genuine (world : AuthWorld) (now : Int) (token : String) : Prop :=
  ∀ payload, lib.jwt.verifyAsync now token = some payload → payload ∈ world.issued ∧ unixSeconds now < payload.exp

/-- The steps whose requests present no forged token. -/
def Unforged (world : AuthWorld) : AuthAction → Prop
  | .change _ => True
  | .serve now request => ∀ token ∈ request.tokens, world.Genuine lib now token

end AuthWorld

abbrev AuthLog := Recorded AuthWorld AuthEntry

/-- The runs that start without any token. -/
abbrev AuthLog.Runs (lib : AuthLibraries) (directory : Directory) (log : AuthLog) : Prop :=
  Transition.Runs (recorded (AuthWorld.step lib) (AuthWorld.sees lib))
    (fun log action => AuthWorld.Unforged lib log.state action) ⟨⟨directory, []⟩, []⟩ log

end SmsPlatform
