import Mathlib.Logic.Equiv.List
import SmsPlatform.Auth.Sessions
import SmsPlatform.Lib.Segments
import SmsPlatform.Lib.StateExcept

/-!
# Who holds a session, and who has confirmed

Every session goes back to a login, and every dangerous action to a confirmation of the password in the five minutes
before it (`dangerous_confirmed`).  A user who is deactivated keeps the tokens that are out, so the lock-out is complete
after twelve hours (`deactivated_locked_out`).  The token of a confirmation is a token like any other for
`JwtAuthGuard`, and it carries the role of the session instead of the role of the row: a user who has lost a role keeps
it for as long as the password is confirmed (`confirmations_keep_role`).
-/

namespace SmsPlatform

open Segments StateExcept Transition

/-! ### What a request goes through -/

/-- The headers carry a token that is accepted, with these claims. -/
def Bearer (lib : AuthLibraries) (headers : Headers) (now : Int) (claims : JwtClaims) : Prop :=
  ∃ token payload, headers.bearerToken = some token ∧ lib.jwt.verifyAsync now token = some payload ∧
    payload.claims = claims

/-- The payload that `reauthenticate` signs for a session. -/
def confirmationPayload (now : Int) (claims : JwtClaims) : TokenPayload where
  claims := { claims with homeTenantId := some (claims.homeTenantId.getD claims.tenantId) }
  kind := some "reauth"
  scope := some "dangerous_action"
  reauthAt := some now
  iat := unixSeconds now
  exp := unixSeconds now + 300

/-- The four ways through `AuthWorld.handle`. -/
inductive Served (lib : AuthLibraries) (directory : Directory) (now : Int) :
    AuthRequest → AuthEvent → Option TokenPayload → Prop
  | login (dto : LoginDto) (session : AuthSession)
      (hlogin : directory.login lib.lower lib.verifyPassword lib.tie dto = .ok session) :
      Served lib directory now (.login dto) (.loggedIn dto session.claims) (some (sessionPayload now session.claims))
  | switchTenant (headers : Headers) (tenantId : String) (claims : JwtClaims) (session : AuthSession)
      (hbearer : Bearer lib headers now claims)
      (hswitch : directory.switchTenant claims tenantId = .ok session) :
      Served lib directory now (.switchTenant headers tenantId) (.switched claims session.claims)
        (some (sessionPayload now session.claims))
  | reauthenticate (headers : Headers) (password : String) (claims : JwtClaims) (user : UserRow)
      (hbearer : Bearer lib headers now claims) (huser : directory.findUser claims = some user)
      (hactive : user.isActive = true) (hpassword : lib.verifyPassword password user.passwordHash = .ok true) :
      Served lib directory now (.reauthenticate headers password) (.confirmed claims password)
        (some (confirmationPayload now claims))
  | dangerous (action : DangerousAction) (headers : Headers) (token : String) (claims : JwtClaims)
      (payload : TokenPayload) (hbearer : Bearer lib headers now claims) (hrole : claims.role ∈ action.roles)
      (hverify : lib.jwt.verifyAsync now token = some payload) (hkind : payload.kind = some "reauth")
      (hsub : payload.claims.sub = claims.sub) (htenant : payload.claims.tenantId = claims.tenantId)
      (hhome : payload.claims.homeTenantId = claims.homeTenantId) :
      Served lib directory now (.dangerous action headers (some token)) (.acted action claims) none

section

variable {lib : AuthLibraries} {directory : Directory} {now : Int}

theorem currentUser_some {route : Route} {headers : Headers} {claims : JwtClaims}
    (h : AuthWorld.currentUser lib route headers now = .ok (some claims)) : Bearer lib headers now claims := by
  obtain ⟨token, htoken, hverify⟩ := JwtAuthGuard.canActivate_user h
  obtain ⟨payload, hpayload, hclaims⟩ := Option.map_eq_some_iff.1 hverify
  exact ⟨token, payload, htoken, hpayload, hclaims⟩

theorem reauthenticate_ok {claims : JwtClaims} {password : String} {payload : TokenPayload}
    (h : directory.reauthenticate lib.verifyPassword claims password now = .ok payload) :
    ∃ user, directory.findUser claims = some user ∧ user.isActive = true ∧
      lib.verifyPassword password user.passwordHash = .ok true ∧ payload = confirmationPayload now claims := by
  unfold Directory.reauthenticate at h
  split at h
  · cases h
  · rename_i user huser
    obtain ⟨hfound, hactive⟩ := Option.filter_eq_some_iff.1 huser
    split at h
    · cases h
    · cases h
    · rename_i hpassword
      cases h
      exact ⟨user, hfound, hactive, hpassword, rfl⟩

theorem ReauthGuard.canActivate_ok {verify : String → Option TokenPayload} {claims : JwtClaims}
    {reauthToken : Option String} (h : ReauthGuard.canActivate verify (some claims) reauthToken = .ok ()) :
    ∃ token payload, reauthToken = some token ∧ verify token = some payload ∧ payload.kind = some "reauth" ∧
      payload.claims.sub = claims.sub ∧ payload.claims.tenantId = claims.tenantId ∧
      payload.claims.homeTenantId = claims.homeTenantId := by
  unfold ReauthGuard.canActivate at h
  dsimp only at h
  split at h
  · cases h
  · rename_i token htoken
    obtain ⟨htoken, -⟩ := Option.filter_eq_some_iff.1 htoken
    split at h
    · cases h
    · rename_i payload hpayload
      split at h
      · cases h
      · rename_i hscope
        split at h
        · cases h
        · rename_i hcontext
          simp only [not_or, not_not] at hscope hcontext
          exact ⟨token, payload, htoken, hpayload, hscope.1, hcontext⟩

theorem served_of_handle {request : AuthRequest} {event : AuthEvent} {payload : Option TokenPayload}
    (h : AuthWorld.handle lib directory now request = .ok (event, payload)) :
    Served lib directory now request event payload := by
  cases request with
  | login dto =>
    obtain ⟨session, hlogin, h⟩ := except_bind_eq_ok.1 h
    cases h
    exact .login dto session hlogin
  | switchTenant headers tenantId =>
    obtain ⟨user, huser, h⟩ := except_bind_eq_ok.1 h
    obtain ⟨_, -, h⟩ := except_bind_eq_ok.1 h
    cases user with
    | none => cases h
    | some claims =>
      obtain ⟨session, hswitch, h⟩ := except_bind_eq_ok.1 h
      cases h
      exact .switchTenant headers tenantId claims session (currentUser_some huser) hswitch
  | reauthenticate headers password =>
    obtain ⟨user, huser, h⟩ := except_bind_eq_ok.1 h
    obtain ⟨_, -, h⟩ := except_bind_eq_ok.1 h
    cases user with
    | none => cases h
    | some claims =>
      obtain ⟨payload, hpayload, h⟩ := except_bind_eq_ok.1 h
      cases h
      obtain ⟨user, hfound, hactive, hpassword, rfl⟩ := reauthenticate_ok hpayload
      exact .reauthenticate headers password claims user (currentUser_some huser) hfound hactive hpassword
  | dangerous action headers reauthToken =>
    obtain ⟨user, huser, h⟩ := except_bind_eq_ok.1 h
    obtain ⟨_, hroles, h⟩ := except_bind_eq_ok.1 h
    obtain ⟨_, hreauth, h⟩ := except_bind_eq_ok.1 h
    obtain ⟨claims, rfl, hrole⟩ := RolesGuard.canActivate_ok rfl action.roles_ne_nil hroles
    cases h
    obtain ⟨token, payload, rfl, hverify, hkind, hsub, htenant, hhome⟩ := ReauthGuard.canActivate_ok hreauth
    exact .dangerous action headers token claims payload (currentUser_some huser) hrole hverify hkind hsub htenant
      hhome

end

/-! ### What the entries of a record stand for -/

def AuthEvent.password : AuthEvent → Option String
  | .loggedIn dto _ => some dto.password
  | .confirmed _ password => some password
  | .switched _ _ => none
  | .acted _ _ => none

/-- The entry shows the password of the user, which fits the row of the time; the user was active. -/
def AuthEntry.Authenticates (lib : AuthLibraries) (entry : AuthEntry) (sub home : String) : Prop :=
  ∃ user ∈ entry.directory.users, user.id = sub ∧ user.tenantId.text = home ∧ user.isActive = true ∧
    ∃ password, entry.event.password = some password ∧ lib.verifyPassword password user.passwordHash = .ok true

/-- The entry opens a session with these claims: a login, or a switch to an active tenant by an active user with one of
the two roles.  The role of the claims is the one of the user's row. -/
inductive AuthEntry.Opens (entry : AuthEntry) (claims : JwtClaims) : Prop
  | login (dto : LoginDto) (user : UserRow) (hevent : entry.event = .loggedIn dto claims)
      (huser : user ∈ entry.directory.users) (hrole : user.role = claims.role) (hhome : claims.homeTenantId =
        some claims.tenantId) (htenant : entry.directory.IsActive claims.tenantId)
  | switched (session : JwtClaims) (user : UserRow) (hevent : entry.event = .switched session claims)
      (huser : user ∈ entry.directory.users) (hrole : user.role = claims.role)
      (hcross : session.role ∈ crossTenantRoles) (htenant : entry.directory.IsActive claims.tenantId)

/-- Where the claims of a token come from. -/
structure Rooted (lib : AuthLibraries) (record : List AuthEntry) (claims : JwtClaims) : Prop where
  login : ∃ home, claims.homeTenantId = some home ∧ ∃ entry ∈ record, ∃ dto opened,
    entry.event = .loggedIn dto opened ∧ entry.Authenticates lib claims.sub home
  opened : ∃ entry ∈ record, entry.Opens claims

/-- The session has been confirmed, and the confirmation is younger than five minutes. -/
structure ConfirmedBy (lib : AuthLibraries) (session : JwtClaims) (now : Int) (entry : AuthEntry) : Prop where
  event : ∃ confirmed password, entry.event = .confirmed confirmed password ∧ confirmed.sub = session.sub ∧
    confirmed.tenantId = session.tenantId
  authenticates : ∃ home, session.homeTenantId = some home ∧ entry.Authenticates lib session.sub home
  fresh : now < entry.now + 300000

/-- What holds of the payloads that are out. -/
structure Issued (lib : AuthLibraries) (record : List AuthEntry) (payload : TokenPayload) : Prop where
  rooted : Rooted lib record payload.claims
  confirmed : payload.kind = some "reauth" → ∃ entry ∈ record, payload.exp = unixSeconds entry.now + 300 ∧
    ∀ now, now < entry.now + 300000 → ConfirmedBy lib payload.claims now entry

def SignedTokens (lib : AuthLibraries) (world : AuthWorld) (record : List AuthEntry) : Prop :=
  ∀ payload ∈ world.issued, Issued lib record payload

/-- An action is written down after a confirmation of its session. -/
def Acted (lib : AuthLibraries) (entry : AuthEntry) (before : List AuthEntry) : Prop :=
  ∀ action session, entry.event = .acted action session → session.role ∈ action.roles ∧
    ∃ confirmation ∈ before, ConfirmedBy lib session entry.now confirmation

section

variable {lib : AuthLibraries} {record : List AuthEntry} {claims : JwtClaims}

theorem Rooted.mono (h : Rooted lib record claims) (entries : List AuthEntry) :
    Rooted lib (record ++ entries) claims := by
  obtain ⟨⟨home, hhome, entry, hentry, hlogin⟩, opening, hopening, hopens⟩ := h
  exact ⟨⟨home, hhome, entry, List.mem_append_left _ hentry, hlogin⟩, opening, List.mem_append_left _ hopening, hopens⟩

theorem Issued.mono {payload : TokenPayload} (h : Issued lib record payload) (entries : List AuthEntry) :
    Issued lib (record ++ entries) payload := by
  refine ⟨h.rooted.mono entries, fun hkind => ?_⟩
  obtain ⟨entry, hentry, hconfirmed⟩ := h.confirmed hkind
  exact ⟨entry, List.mem_append_left _ hentry, hconfirmed⟩

/-- A claim set with a home is not changed by a confirmation. -/
theorem confirmationPayload_claims {home : String} (hhome : claims.homeTenantId = some home) (now : Int) :
    (confirmationPayload now claims).claims = claims := by
  cases claims
  cases hhome
  rfl

theorem findUser_eq_some {directory : Directory} {user : UserRow} {home : String}
    (hhome : claims.homeTenantId = some home) (h : directory.findUser claims = some user) :
    user ∈ directory.users ∧ user.id = claims.sub ∧ user.tenantId.text = home := by
  unfold Directory.findUser at h
  rw [hhome] at h
  exact ⟨List.mem_of_find?_eq_some h, by simpa using List.find?_some h⟩

theorem login_eq_ok {directory : Directory} {dto : LoginDto} {session : AuthSession}
    (h : directory.login lib.lower lib.verifyPassword lib.tie dto = .ok session) :
    ∃ user ∈ directory.users, user.isActive = true ∧ lib.verifyPassword dto.password user.passwordHash = .ok true ∧
      session.claims = ⟨user.id, user.tenantId.text, some user.tenantId.text, user.role, some user.email⟩ := by
  unfold Directory.login at h
  split at h
  · cases h
  · rename_i user tenant hfirst
    split at h
    · cases h
    · rename_i hactive
      split at h
      · cases h
      · cases h
      · rename_i hpassword
        cases h
        have hrow := (List.mem_filter.1 (Queries.mem_of_first hfirst)).1
        obtain ⟨found, hfound, hpair⟩ := List.mem_filterMap.1 hrow
        obtain ⟨_, _, hsame⟩ := Option.map_eq_some_iff.1 hpair
        cases hsame
        exact ⟨user, hfound, by simpa using (not_or.1 hactive).1, hpassword, rfl⟩

theorem switchTenant_eq_ok {directory : Directory} {tenantId : String} {session : AuthSession}
    (h : directory.switchTenant claims tenantId = .ok session) : claims.role ∈ crossTenantRoles ∧
      ∃ user, directory.findUser claims = some user ∧ user.isActive = true ∧ session.claims =
        ⟨user.id, tenantId, some (claims.homeTenantId.getD claims.tenantId), user.role, some user.email⟩ := by
  unfold Directory.switchTenant at h
  split at h
  · cases h
  · rename_i hcross
    split at h
    · rename_i user tenant huser htenant
      split at h
      · cases h
      · rename_i hactive
        cases h
        refine ⟨not_not.1 hcross, user, huser, by simpa using (not_or.1 hactive).1, ?_⟩
        rw [Directory.findTenant_id htenant]
    · cases h

/-- The claims of a bearer token that is no forgery are rooted. -/
theorem SignedTokens.rooted {world : AuthWorld} (h : SignedTokens lib world record) {headers : Headers} {now : Int}
    (hgenuine : ∀ token ∈ headers.bearerToken.toList, world.Genuine lib now token)
    (hbearer : Bearer lib headers now claims) : Rooted lib record claims := by
  obtain ⟨token, payload, htoken, hverify, rfl⟩ := hbearer
  have hmem : token ∈ headers.bearerToken.toList := by simp [htoken]
  exact (h payload (hgenuine token hmem payload hverify).1).rooted

/-- A session that is opened by a login or a switch. -/
theorem issued_sessionPayload {now : Int} (h : Rooted lib record claims) :
    Issued lib record (sessionPayload now claims) := ⟨h, fun hkind => by cases hkind⟩

end

/-! ### One request -/

section

variable {lib : AuthLibraries} {world : AuthWorld} {record : List AuthEntry} {now : Int} {request : AuthRequest}
  {event : AuthEvent} {signed : Option TokenPayload}

/-- What a request signs, and what it shows: both stand after the record with its entry. -/
theorem Served.keeps (h : Served lib world.directory now request event signed) (htokens : SignedTokens lib world record)
    (hunforged : ∀ token ∈ request.tokens, world.Genuine lib now token) :
    (∀ payload ∈ signed, Issued lib (record ++ [⟨world.directory, now, event⟩]) payload) ∧
      Acted lib ⟨world.directory, now, event⟩ record := by
  have hlast : (⟨world.directory, now, event⟩ : AuthEntry) ∈ record ++ [⟨world.directory, now, event⟩] :=
    List.mem_append_right _ (List.mem_singleton.2 rfl)
  cases h with
  | login dto session hlogin =>
    refine ⟨fun payload hpayload => ?_, fun action acting hevent => by cases hevent⟩
    cases hpayload
    have hactive := Directory.login_ok hlogin
    obtain ⟨user, huser, hon, hpassword, hclaims⟩ := login_eq_ok hlogin
    rw [hclaims] at hactive hlast ⊢
    exact issued_sessionPayload ⟨⟨user.tenantId.text, rfl, _, hlast, dto, _, rfl, user, huser, rfl, rfl, hon,
      dto.password, rfl, hpassword⟩, _, hlast, .login dto user rfl huser rfl rfl hactive⟩
  | switchTenant headers tenantId claims session hbearer hswitch =>
    refine ⟨fun payload hpayload => ?_, fun action acting hevent => by cases hevent⟩
    cases hpayload
    obtain ⟨htenant, hactive⟩ := Directory.switchTenant_ok hswitch
    obtain ⟨hcross, user, huser, -, hclaims⟩ := switchTenant_eq_ok hswitch
    obtain ⟨home, hhome, entry, hentry, hlogin⟩ := (htokens.rooted hunforged hbearer).login
    obtain ⟨hmem, hsub, -⟩ := findUser_eq_some hhome huser
    rw [hclaims, hhome] at hlast ⊢
    rw [← hsub] at hlogin
    exact issued_sessionPayload ⟨⟨home, rfl, entry, List.mem_append_left _ hentry, hlogin⟩, _, hlast,
      .switched claims user rfl hmem rfl hcross hactive⟩
  | reauthenticate headers password claims user hbearer huser hactive hpassword =>
    refine ⟨fun payload hpayload => ?_, fun action acting hevent => by cases hevent⟩
    cases hpayload
    have hrooted := htokens.rooted hunforged hbearer
    obtain ⟨home, hhome, -⟩ := hrooted.login
    obtain ⟨hmem, hsub, htenant⟩ := findUser_eq_some hhome huser
    have hclaims := confirmationPayload_claims hhome now
    refine ⟨?_, fun _ => ⟨_, hlast, rfl, fun now' hfresh => ?_⟩⟩
    · rw [hclaims]
      exact hrooted.mono _
    · rw [hclaims]
      exact ⟨⟨claims, password, rfl, rfl, rfl⟩, ⟨home, hhome, user, hmem, hsub, htenant, hactive, password, rfl,
        hpassword⟩, hfresh⟩
  | dangerous action headers token claims payload hbearer hrole hverify hkind hsub htenant hhome =>
    refine ⟨fun payload hpayload => absurd hpayload (Option.not_mem_none payload), fun acted session hevent => ?_⟩
    cases hevent
    obtain ⟨hissued, hvalid⟩ := hunforged token (by simp [AuthRequest.tokens]) payload hverify
    obtain ⟨confirmation, hmem, hexp, hconfirmed⟩ := (htokens payload hissued).confirmed hkind
    -- the expiry is a whole second, rounded down from the time of the confirmation
    have hfresh : now < confirmation.now + 300000 := by
      unfold unixSeconds at hvalid hexp
      omega
    obtain ⟨⟨confirmed, password, hevent, hsame, hscope⟩, ⟨home, hpayload, hauth⟩, -⟩ := hconfirmed now hfresh
    rw [hsub] at hsame hauth
    rw [htenant] at hscope
    rw [hhome] at hpayload
    exact ⟨hrole, confirmation, hmem, ⟨confirmed, password, hevent, hsame, hscope⟩, ⟨home, hpayload, hauth⟩, hfresh⟩

end

/-! ### A small instance

One user, who logs in, confirms the password a second later, and then rotates a key. -/

instance {lib : AuthLibraries} (world : AuthWorld) (now : Int) (token : String) :
    Decidable (world.Genuine lib now token) :=
  inferInstanceAs (Decidable (∀ payload ∈ lib.jwt.verifyAsync now token, payload ∈ world.issued ∧
    unixSeconds now < payload.exp))

instance {lib : AuthLibraries} (world : AuthWorld) : (action : AuthAction) → Decidable (world.Unforged lib action)
  | .change _ => .isTrue trivial
  | .serve now request => inferInstanceAs (Decidable (∀ token ∈ request.tokens, world.Genuine lib now token))

deriving instance DecidableEq for Recorded

namespace Sample

def userClaims : JwtClaims := ⟨"user", "tenant", some "tenant", "owner", some "a@b.et"⟩

/-- A directory in which the user is active, or not. -/
def userDirectory (isActive : Bool) : Directory where
  tenants := [⟨tenant, "acme", "Acme", "UTC", "active", 1, 1⟩]
  users := [⟨"user", tenant, "a@b.et", "secret", "owner", isActive⟩]
  apiKeys := []

def authLibraries : AuthLibraries where
  jwt := {
    signAsync := fun payload => if payload.kind = none then "session" else "confirmation"
    verifyAsync := fun now token =>
      if token = "session" ∧ unixSeconds now < 43200 then some (sessionPayload 0 userClaims)
      else if token = "confirmation" ∧ unixSeconds now < 301 then some (confirmationPayload 1000 userClaims)
      else none }
  lower := id
  verifyPassword := fun password passwordHash => .ok (decide (password = passwordHash))
  tie := fun _ => 0

def session : Headers := { authorization := some "Bearer session" }

def authActions : List AuthAction := [
  .serve 0 (.login ⟨"acme", "a@b.et", "secret"⟩),
  .serve 1000 (.reauthenticate session "secret"),
  .serve 2000 (.dangerous .rotateApiKey session (some "confirmation"))]

/-- The end of their run. -/
def rotationLog : AuthLog where
  state := ⟨userDirectory true, [confirmationPayload 1000 userClaims, sessionPayload 0 userClaims]⟩
  record := [⟨userDirectory true, 0, .loggedIn ⟨"acme", "a@b.et", "secret"⟩ userClaims⟩,
    ⟨userDirectory true, 1000, .confirmed userClaims "secret"⟩, ⟨userDirectory true, 2000, .acted .rotateApiKey userClaims⟩]

/-- Execute actions that present no forged token. -/
def authRun (actions : List AuthAction) : Option AuthLog :=
  execute (guarded (recorded (AuthWorld.step authLibraries) (AuthWorld.sees authLibraries))
    fun log action => decide (AuthWorld.Unforged authLibraries log.state action)) ⟨⟨userDirectory true, []⟩, []⟩ actions

theorem authRun_runs {actions : List AuthAction} {log : AuthLog} (h : authRun actions = some log) :
    log.Runs authLibraries (userDirectory true) :=
  (runs_of_execute h).mono fun _ _ hunforged => of_decide_eq_true hunforged

end Sample

/-! ### Runs -/

/-- What holds of every state of a run, together with its record. -/
structure Kept (lib : AuthLibraries) (world : AuthWorld) (record : List AuthEntry) : Prop where
  tokens : SignedTokens lib world record
  acted : Preceded (Acted lib) record

section

variable {lib : AuthLibraries} {directory : Directory} {log : AuthLog}

/-- One step: a change of the directory touches neither tokens nor the record, a refused request neither. -/
theorem Kept.step {world world' : AuthWorld} {record : List AuthEntry} {action : AuthAction}
    (h : Kept lib world record) (hunforged : world.Unforged lib action) (hstep : world.step lib action = some world') :
    Kept lib world' (record ++ world.sees lib action world') := by
  cases action with
  | change directory =>
    cases hstep
    unfold AuthWorld.sees
    rw [List.append_nil]
    exact ⟨h.tokens, h.acted⟩
  | serve now request =>
    unfold AuthWorld.step at hstep
    unfold AuthWorld.sees
    cases hhandle : AuthWorld.handle lib world.directory now request with
    | error e =>
      simp only [hhandle, Option.some.injEq] at hstep ⊢
      rw [← hstep, List.append_nil]
      exact h
    | ok result =>
      obtain ⟨event, signed⟩ := result
      obtain ⟨hsigned, hacted⟩ := (served_of_handle hhandle).keeps h.tokens hunforged
      simp only [hhandle] at hstep ⊢
      refine ⟨?_, h.acted.snoc hacted⟩
      cases signed with
      | none =>
        cases hstep
        exact fun payload hpayload => (h.tokens payload hpayload).mono _
      | some signed =>
        cases hstep
        intro payload hpayload
        rcases List.mem_cons.1 hpayload with rfl | hold
        · exact hsigned payload rfl
        · exact (h.tokens payload hold).mono _

theorem AuthLog.Runs.kept (h : log.Runs lib directory) : Kept lib log.state log.record := by
  refine Runs.record_invariant (Q := fun _ => True) h (fun _ _ => trivial) ⟨fun payload hpayload => ?_, .nil⟩
    fun world record action world' _ hkept hunforged hstep => hkept.step hunforged hstep
  cases hpayload

/-- In every run, whatever happens to the directory: a dangerous action is taken by a session with a role of the
action, and in the five minutes before it the session's user has confirmed the password in the session's tenant. -/
theorem dangerous_confirmed (h : log.Runs lib directory) {before after : List AuthEntry} {entry : AuthEntry}
    (hrecord : log.record = before ++ entry :: after) {action : DangerousAction} {session : JwtClaims}
    (hevent : entry.event = .acted action session) : session.role ∈ action.roles ∧
      ∃ confirmation ∈ before, ConfirmedBy lib session entry.now confirmation :=
  h.kept.acted before entry after hrecord action session hevent

theorem dangerous_confirmed_rotation : ∃ confirmation ∈ Sample.rotationLog.record.take 2,
    ConfirmedBy Sample.authLibraries Sample.userClaims 2000 confirmation :=
  (dangerous_confirmed (Sample.authRun_runs (by decide +kernel : Sample.authRun Sample.authActions = _))
    (show Sample.rotationLog.record = Sample.rotationLog.record.take 2 ++ _ :: [] from rfl) rfl).2

/-- In every run, whoever is let in by `JwtAuthGuard` with a token goes back to a login of the same user with the
password, and the claims are those of a login or of a switch by a session with one of the two roles. -/
theorem session_rooted (h : log.Runs lib directory) {headers : Headers} {now : Int} {claims : JwtClaims}
    (hgenuine : ∀ token ∈ headers.bearerToken.toList, log.state.Genuine lib now token) {route : Route}
    (haccepted : AuthWorld.currentUser lib route headers now = .ok (some claims)) : Rooted lib log.record claims :=
  h.kept.tokens.rooted hgenuine (currentUser_some haccepted)

theorem session_rooted_rotation : Rooted Sample.authLibraries Sample.rotationLog.record Sample.userClaims :=
  session_rooted (Sample.authRun_runs (by decide +kernel : Sample.authRun Sample.authActions = _))
    (by decide +kernel : ∀ token ∈ Sample.session.bearerToken.toList, _)
    (show AuthWorld.currentUser Sample.authLibraries DangerousAction.rotateApiKey.route Sample.session 2000 =
      .ok (some Sample.userClaims) by rfl)

end

/-! ### Deactivated users -/

/-- No row of the user is active. -/
def Directory.Locked (directory : Directory) (sub home : String) : Prop :=
  ∀ user ∈ directory.users, user.id = sub → user.tenantId.text = home → user.isActive = false

section

variable {lib : AuthLibraries} {directory : Directory} {now : Int} {request : AuthRequest} {event : AuthEvent}
  {payload : TokenPayload}

/-- A token is signed for a user who is active, and for twelve hours at most. -/
theorem Served.active (h : Served lib directory now request event (some payload)) :
    (∃ user ∈ directory.users, user.isActive = true ∧ user.id = payload.claims.sub ∧
      payload.claims.homeTenantId = some user.tenantId.text) ∧ payload.exp ≤ payload.iat + 43200 := by
  cases h with
  | login dto session hlogin =>
    obtain ⟨user, huser, hactive, -, hclaims⟩ := login_eq_ok hlogin
    refine ⟨⟨user, huser, hactive, ?_, ?_⟩, le_refl _⟩
    · show user.id = session.claims.sub
      rw [hclaims]
    · show session.claims.homeTenantId = _
      rw [hclaims]
  | switchTenant headers tenantId claims session hbearer hswitch =>
    obtain ⟨-, user, huser, hactive, hclaims⟩ := switchTenant_eq_ok hswitch
    have hhome := List.find?_some huser
    simp only [decide_eq_true_eq] at hhome
    refine ⟨⟨user, List.mem_of_find?_eq_some huser, hactive, ?_, ?_⟩, le_refl _⟩
    · show user.id = session.claims.sub
      rw [hclaims]
    · show session.claims.homeTenantId = _
      rw [hclaims, hhome.2]
  | reauthenticate headers password claims user hbearer huser hactive hpassword =>
    have hhome := List.find?_some huser
    simp only [decide_eq_true_eq] at hhome
    refine ⟨⟨user, List.mem_of_find?_eq_some huser, hactive, hhome.1, ?_⟩, ?_⟩
    · show some _ = _
      rw [hhome.2]
    · unfold confirmationPayload
      dsimp only
      omega

/-- A step signs at most one token. -/
theorem AuthWorld.step_issued {world world' : AuthWorld} {action : AuthAction}
    (hstep : world.step lib action = some world') (hissued : payload ∈ world'.issued) :
    payload ∈ world.issued ∨ ∃ now request event, Served lib world.directory now request event (some payload) := by
  cases action with
  | change directory =>
    cases hstep
    exact .inl hissued
  | serve now request =>
    unfold AuthWorld.step at hstep
    dsimp only at hstep
    split at hstep
    · rename_i event signed hhandle
      cases hstep
      rcases List.mem_cons.1 hissued with rfl | hold
      · exact .inr ⟨now, request, event, served_of_handle hhandle⟩
      · exact .inl hold
    · cases hstep
      exact .inl hissued
    · cases hstep
      exact .inl hissued

theorem lifetime_le {world : AuthWorld} (h : Reaches (AuthWorld.step lib) ⟨directory, []⟩ world) :
    ∀ payload ∈ world.issued, payload.exp ≤ payload.iat + 43200 := by
  refine Runs.invariant (P := fun world => ∀ payload ∈ world.issued, payload.exp ≤ payload.iat + 43200) h
    (fun payload hpayload => by cases hpayload) ?_
  intro before action after hlifetimes _ hstep payload hpayload
  rcases AuthWorld.step_issued hstep hpayload with hold | ⟨now, request, event, hserved⟩
  · exact hlifetimes payload hold
  · exact hserved.active.2

/-- While the user is locked out, no token of the user is signed. -/
theorem locked_keeps_tokens {sub home : String} {world world' : AuthWorld}
    (h : Runs (AuthWorld.step lib) (fun world _ => world.directory.Locked sub home) world world') :
    ∀ payload ∈ world'.issued, payload.claims.sub = sub → payload.claims.homeTenantId = some home →
      payload ∈ world.issued := by
  refine Runs.invariant (P := fun after => ∀ payload ∈ after.issued, payload.claims.sub = sub →
    payload.claims.homeTenantId = some home → payload ∈ world.issued) h (fun payload hpayload _ _ => hpayload) ?_
  intro before action after hkept hlocked hstep payload hpayload hsub hhome
  rcases AuthWorld.step_issued hstep hpayload with hold | ⟨now, request, event, hserved⟩
  · exact hkept payload hold hsub hhome
  · obtain ⟨user, huser, hactive, hid, htenant⟩ := hserved.active.1
    have hsame : user.tenantId.text = home := Option.some.inj (htenant.symm.trans hhome)
    rw [hlocked user huser (hid.trans hsub) hsame] at hactive
    cases hactive

/-- A deactivated user is locked out after twelve hours: from a state in which no token of the user is younger than
`lockedAt`, in every run along which the user stays inactive, no token of the user is accepted twelve hours later. -/
theorem deactivated_locked_out {world world' : AuthWorld}
    (hreaches : Reaches (AuthWorld.step lib) ⟨directory, []⟩ world) {sub home : String} {lockedAt : Int}
    (houtstanding : ∀ payload ∈ world.issued, payload.claims.sub = sub →
      payload.claims.homeTenantId = some home → payload.iat ≤ lockedAt)
    (hlocked : Runs (AuthWorld.step lib) (fun world _ => world.directory.Locked sub home) world world')
    {route : Route} {headers : Headers} {claims : JwtClaims}
    (hgenuine : ∀ token ∈ headers.bearerToken.toList, world'.Genuine lib now token)
    (haccepted : AuthWorld.currentUser lib route headers now = .ok (some claims)) (hsub : claims.sub = sub)
    (hhome : claims.homeTenantId = some home) : unixSeconds now < lockedAt + 12 * 60 * 60 := by
  obtain ⟨token, payload, htoken, hverify, rfl⟩ := currentUser_some haccepted
  have hmem : token ∈ headers.bearerToken.toList := by simp [htoken]
  obtain ⟨hissued, hvalid⟩ := hgenuine token hmem payload hverify
  have hold := locked_keeps_tokens hlocked payload hissued hsub hhome
  have hsigned := houtstanding payload hold hsub hhome
  have hlifetime := lifetime_le hreaches payload hold
  omega

/-- The user who has logged in at 0 and is inactive since: a confirmation at 4000 is refused, while the token of the login
is still accepted at 5000, within its twelve hours. -/
theorem deactivated_locked_out_user :
    let loggedIn : AuthWorld := ⟨Sample.userDirectory false, [sessionPayload 0 Sample.userClaims]⟩
    Reaches (AuthWorld.step Sample.authLibraries) ⟨Sample.userDirectory true, []⟩ loggedIn ∧
      loggedIn.directory.Locked "user" "tenant" ∧
      AuthWorld.handle Sample.authLibraries loggedIn.directory 4000 (.reauthenticate Sample.session "secret") =
        .error (.unauthorized "User session is no longer active") ∧
      AuthWorld.currentUser Sample.authLibraries AuthWorld.reauthRoute Sample.session 5000 =
        .ok (some Sample.userClaims) ∧ unixSeconds 5000 < 0 + 12 * 60 * 60 := by
  intro loggedIn
  have hreaches : Reaches (AuthWorld.step Sample.authLibraries) ⟨Sample.userDirectory true, []⟩ loggedIn :=
    @reaches_of_execute _ _ _ [.serve 0 (.login ⟨"acme", "a@b.et", "secret"⟩), .change (Sample.userDirectory false)]
      _ _ (by decide +kernel)
  have hinactive : loggedIn.directory.Locked "user" "tenant" :=
    fun user huser _ _ => by rw [List.mem_singleton.1 huser]
  have hrefused : AuthWorld.handle Sample.authLibraries loggedIn.directory 4000
      (.reauthenticate Sample.session "secret") = .error (.unauthorized "User session is no longer active") := by
    rfl
  have hstep : AuthWorld.step Sample.authLibraries loggedIn (.serve 4000 (.reauthenticate Sample.session "secret")) =
      some loggedIn := by
    unfold AuthWorld.step
    simp only [hrefused]
  have hlocked : Runs (AuthWorld.step Sample.authLibraries) (fun world _ => world.directory.Locked "user" "tenant")
      loggedIn loggedIn := .tail _ .refl hinactive hstep
  have haccepted : AuthWorld.currentUser Sample.authLibraries AuthWorld.reauthRoute Sample.session 5000 =
      .ok (some Sample.userClaims) := by
    rfl
  exact ⟨hreaches, hinactive, hrefused, haccepted, deactivated_locked_out hreaches (by decide) hlocked
    (by decide +kernel : ∀ token ∈ Sample.session.bearerToken.toList, _) haccepted rfl rfl⟩

end

/-! ### Roles that are gone -/

section

variable {lib : AuthLibraries}

/-- The headers of a browser session. -/
def bearerHeaders (token : String) : Headers := { authorization := some ("Bearer " ++ token) }

theorem bearerToken_bearerHeaders (token : String) : (bearerHeaders token).bearerToken = some token := by
  unfold bearerHeaders Headers.bearerToken
  show (List.isPrefixOf? "Bearer ".toList ("Bearer " ++ token).toList).map String.ofList = _
  rw [String.toList_append]
  have hbearer : List.isPrefixOf? "Bearer ".toList ("Bearer ".toList ++ token.toList) = some token.toList := by
    simp [List.isPrefixOf?]
  rw [hbearer]
  simp

theorem currentUser_bearerHeaders {route : Route} (hroute : route.getAllAndOverride Metadata.isPublic ≠ some true)
    {now : Int} {token : String} {payload : TokenPayload} (hverify : lib.jwt.verifyAsync now token = some payload) :
    AuthWorld.currentUser lib route (bearerHeaders token) now = .ok (some payload.claims) := by
  unfold AuthWorld.currentUser JwtAuthGuard.canActivate
  rw [if_neg hroute, bearerToken_bearerHeaders]
  simp [bearerHeaders, given, hverify]

/-- One confirmation: the new token carries the claims of the old one. -/
theorem confirm_step (hjwt : ∀ payload now, unixSeconds now < payload.exp →
      lib.jwt.verifyAsync now (lib.jwt.signAsync payload) = some payload) {world : AuthWorld} {payload : TokenPayload}
    (hissued : payload ∈ world.issued) {user : UserRow} (huser : world.directory.findUser payload.claims = some user)
    (hactive : user.isActive = true) {password : String}
    (hpassword : lib.verifyPassword password user.passwordHash = .ok true) {now : Int}
    (hvalid : unixSeconds now < payload.exp) :
    let action := AuthAction.serve now (.reauthenticate (bearerHeaders (lib.jwt.signAsync payload)) password)
    world.Unforged lib action ∧ world.step lib action =
      some { world with issued := confirmationPayload now payload.claims :: world.issued } := by
  intro action
  have hverify := hjwt payload now hvalid
  constructor
  · intro token htoken payload' hpayload'
    have htoken : token = lib.jwt.signAsync payload := by
      simpa [AuthRequest.tokens, bearerToken_bearerHeaders] using htoken
    rw [htoken, hverify] at hpayload'
    cases hpayload'
    exact ⟨hissued, hvalid⟩
  · have hcurrent : AuthWorld.currentUser lib AuthWorld.reauthRoute (bearerHeaders (lib.jwt.signAsync payload)) now =
        .ok (some payload.claims) := currentUser_bearerHeaders (by decide) hverify
    have hsigned : world.directory.reauthenticate lib.verifyPassword payload.claims password now =
        .ok (confirmationPayload now payload.claims) := by
      unfold Directory.reauthenticate
      rw [huser, Option.filter_some_pos hactive]
      dsimp only
      rw [hpassword]
      rfl
    have hhandle : AuthWorld.handle lib world.directory now
        (.reauthenticate (bearerHeaders (lib.jwt.signAsync payload)) password) =
          .ok (.confirmed payload.claims password, some (confirmationPayload now payload.claims)) := by
      unfold AuthWorld.handle
      dsimp only
      rw [hcurrent]
      dsimp only [bind, Except.bind]
      rw [hsigned]
      rfl
    unfold AuthWorld.step
    simp only [action, hhandle]

/-- A confirmation renews the session it confirms: for as long as the password is confirmed, once in 299 seconds, the
claims of an old token are accepted, with the role that they had, whatever the row of the user says meanwhile. -/
theorem confirmations_keep_role (hjwt : ∀ payload now, unixSeconds now < payload.exp →
      lib.jwt.verifyAsync now (lib.jwt.signAsync payload) = some payload) {world : AuthWorld} {payload : TokenPayload}
    (hissued : payload ∈ world.issued) {home : String} (hhome : payload.claims.homeTenantId = some home)
    {user : UserRow} (huser : world.directory.findUser payload.claims = some user) (hactive : user.isActive = true)
    {password : String} (hpassword : lib.verifyPassword password user.passwordHash = .ok true) {now : Int}
    (hvalid : unixSeconds now < payload.exp) {route : Route}
    (hroute : route.getAllAndOverride Metadata.isPublic ≠ some true) (n : Nat) :
    ∃ world' token, Runs (AuthWorld.step lib) (AuthWorld.Unforged lib) world world' ∧
      world'.directory = world.directory ∧ world'.Genuine lib (now + 299000 * n) token ∧
      AuthWorld.currentUser lib route (bearerHeaders token) (now + 299000 * n) = .ok (some payload.claims) := by
  have hchain : ∃ world' payload', Runs (AuthWorld.step lib) (AuthWorld.Unforged lib) world world' ∧
      world'.directory = world.directory ∧ payload' ∈ world'.issued ∧ payload'.claims = payload.claims ∧
      unixSeconds (now + 299000 * n) < payload'.exp := by
    induction n with
    | zero =>
      refine ⟨world, payload, .refl, rfl, hissued, rfl, ?_⟩
      simpa using hvalid
    | succ n ih =>
      obtain ⟨world', payload', hruns, hdirectory, hissued', hclaims, hvalid'⟩ := ih
      rw [← hdirectory, ← hclaims] at huser
      rw [← hclaims] at hhome ⊢
      obtain ⟨hunforged, hstep⟩ := confirm_step hjwt hissued' huser hactive hpassword hvalid'
      refine ⟨_, _, hruns.tail _ hunforged hstep, hdirectory, List.mem_cons_self .., confirmationPayload_claims hhome _,
        ?_⟩
      unfold confirmationPayload unixSeconds
      dsimp only
      push_cast
      omega
  obtain ⟨world', payload', hruns, hdirectory, hissued', hclaims, hvalid'⟩ := hchain
  have hverify := hjwt payload' _ hvalid'
  refine ⟨world', lib.jwt.signAsync payload', hruns, hdirectory, fun found hfound => ?_, ?_⟩
  · rw [hverify] at hfound
    cases hfound
    exact ⟨hissued', hvalid'⟩
  · rw [← hclaims]
    exact currentUser_bearerHeaders hroute hverify

/-! A key pair under which every payload has a text of its own: the text names the payload. -/

namespace Sample

def textCode (text : String) : List ℕ := text.toList.map Char.toNat

def optionCode (text : Option String) : List ℕ := text.elim [] fun t => 0 :: textCode t

def payloadCode (payload : TokenPayload) : List (List ℕ) := [
  textCode payload.claims.sub, textCode payload.claims.tenantId, optionCode payload.claims.homeTenantId,
  textCode payload.claims.role, optionCode payload.claims.email, optionCode payload.kind, optionCode payload.scope,
  [Encodable.encode payload.reauthAt, Encodable.encode payload.iat, Encodable.encode payload.exp]]

theorem textCode_injective : Function.Injective textCode := fun _ _ h =>
  String.toList_injective (List.map_injective_iff.2 (fun _ _ h => Char.toNat_inj.1 h) h)

theorem optionCode_injective : Function.Injective optionCode
  | none, none, _ => rfl
  | none, some _, h => by cases h
  | some _, none, h => by cases h
  | some _, some _, h => congrArg some (textCode_injective (List.cons.inj h).2)

theorem payloadCode_injective : Function.Injective payloadCode := by
  rintro ⟨⟨sub, tenantId, homeTenantId, role, email⟩, kind, scope, reauthAt, iat, exp⟩
    ⟨⟨sub', tenantId', homeTenantId', role', email'⟩, kind', scope', reauthAt', iat', exp'⟩ h
  simp only [payloadCode, List.cons.injEq, Encodable.encode_inj, and_true, textCode_injective.eq_iff,
    optionCode_injective.eq_iff] at h
  obtain ⟨rfl, rfl, rfl, rfl, rfl, rfl, rfl, rfl, rfl, rfl⟩ := h
  rfl

def signed (payload : TokenPayload) : String := (Encodable.encode (payloadCode payload)).repr

theorem signed_injective : Function.Injective signed := fun _ _ h =>
  payloadCode_injective (Encodable.encode_injective (repr_injective h))

open Classical in
noncomputable def keyPair : JwtService where
  signAsync := signed
  verifyAsync := fun now token =>
    if h : ∃ payload, signed payload = token ∧ unixSeconds now < payload.exp then some h.choose else none

theorem keyPair_verifyAsync (payload : TokenPayload) (now : Int) (hvalid : unixSeconds now < payload.exp) :
    keyPair.verifyAsync now (keyPair.signAsync payload) = some payload := by
  have h : ∃ found, signed found = signed payload ∧ unixSeconds now < found.exp := ⟨payload, rfl, hvalid⟩
  unfold keyPair
  dsimp only
  rw [dif_pos h, signed_injective h.choose_spec.1]

end Sample

/-- A user whose row says `owner` is an `admin` a day after the login that said so. -/
theorem confirmations_keep_role_admin :
    let lib := { Sample.authLibraries with jwt := Sample.keyPair }
    let claims : JwtClaims := { Sample.userClaims with role := "admin" }
    ∃ world' token, Runs (AuthWorld.step lib) (AuthWorld.Unforged lib)
        ⟨Sample.userDirectory true, [sessionPayload 0 claims]⟩ world' ∧ world'.directory = Sample.userDirectory true ∧
      world'.Genuine lib (0 + 299000 * (300 : ℕ)) token ∧
      AuthWorld.currentUser lib AuthWorld.switchTenantRoute (bearerHeaders token) (0 + 299000 * (300 : ℕ)) =
        .ok (some claims) :=
  @confirmations_keep_role { Sample.authLibraries with jwt := Sample.keyPair } Sample.keyPair_verifyAsync
    ⟨Sample.userDirectory true, [sessionPayload 0 { Sample.userClaims with role := "admin" }]⟩
    (sessionPayload 0 { Sample.userClaims with role := "admin" }) (List.mem_singleton.2 rfl) "tenant" rfl
    ⟨"user", Sample.tenant, "a@b.et", "secret", "owner", true⟩ (by decide) rfl "secret" rfl 0 (by decide)
    AuthWorld.switchTenantRoute (by decide) 300

end

end SmsPlatform
