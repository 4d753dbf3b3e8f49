import SmsPlatform.Connectors.Smpp
import SmsPlatform.Lib.Rows

/-!
# The bound on SMPP sessions

A carrier allows an account a number of sessions, and the pool has as many slots.  `ensureSession` checks a slot long
before it stores a session there, and the handlers of a session delete whatever is stored under its key; so the pool is
safe as long as a slot is opened again only after everything that was opened for it is over.  Then the sessions that are
not over are the last ones of their slots, which is the invariant (`LastOfSlot`).
-/

namespace SmsPlatform

namespace Smpp

namespace SmppConnector

variable (connector : SmppConnector)

def boundSessions (account : Account) : List SmppSessionState :=
  connector.opened.filter fun session => session.isBound && decide (session.request.account = account)

/-- No account has more bound sessions than the requests for which they were opened allow. -/
def Bounded : Prop :=
  ∀ (account : Account) (maxSessions : Int),
    (∀ session ∈ connector.opened, session.request.account = account → session.request.maxSessions ≤ maxSessions) →
    (connector.boundSessions account).length ≤ max maxSessions 1

/-- An event leaves the healthy sessions of the map in it, except the session it comes from. -/
def KeepsOthers (action : SmppAction) (after : SmppConnector) : Prop :=
  ∀ id, action = .close id ∨ action = .error id →
    ∀ key session, connector.existing key = some session → session.healthy = true → session.id ≠ id →
      after.sessions key = some session.id

/-- No session was opened later under the key of this one. -/
def LastOfSlot (session : SmppSessionState) : Prop :=
  ∀ other ∈ connector.opened, other.sessionKey = session.sessionKey → other.id ≤ session.id

/-- A slot is opened only if everything opened for it before is over, and a closed session emits no error any more once
its slot has been opened again. -/
def SlotFree : SmppAction → Prop
  | .submitSm request =>
    (connector.existing (getSessionKey request)).any SmppSessionState.healthy = true ∨
      ∀ session ∈ connector.opened, session.sessionKey = getSessionKey request → session.settled = true
  | .error id => ∀ session ∈ connector.opened, session.id = id → session.closed = true → connector.LastOfSlot session
  | _ => True

instance (session : SmppSessionState) : Decidable (connector.LastOfSlot session) :=
  inferInstanceAs (Decidable (∀ other ∈ connector.opened, _ → _))

instance (action : SmppAction) : Decidable (connector.SlotFree action) :=
  match action with
  | .submitSm _ => inferInstanceAs (Decidable (_ ∨ _))
  | .error _ => inferInstanceAs (Decidable (∀ session ∈ connector.opened, _ → _ → _))
  | .bindResponse _ _ => .isTrue trivial
  | .afterBind _ => .isTrue trivial
  | .close _ => .isTrue trivial

structure Inv : Prop where
  ids : Rows.Keyed SmppSessionState.id connector.opened
  fresh : ∀ session ∈ connector.opened, session.id < connector.opened.length
  known : ∀ key id, connector.sessions key = some id → id < connector.opened.length
  last : ∀ session ∈ connector.opened, session.settled = false → connector.LastOfSlot session
  stored : ∀ key, ∀ session ∈ connector.opened, connector.sessions key = some session.id →
    session.sessionKey = key ∧ (session.healthy = true → connector.LastOfSlot session)

variable {connector}

theorem mem_of_find {id : Nat} {session : SmppSessionState} (h : connector.find id = some session) :
    session ∈ connector.opened ∧ session.id = id :=
  ⟨List.mem_of_find?_eq_some h, by simpa using List.find?_some h⟩

theorem mem_of_existing {key : String} {session : SmppSessionState} (h : connector.existing key = some session) :
    session ∈ connector.opened ∧ connector.sessions key = some session.id := by
  obtain ⟨id, hkey, hfind⟩ := Option.bind_eq_some_iff.1 h
  obtain ⟨hmem, rfl⟩ := mem_of_find hfind
  exact ⟨hmem, hkey⟩

theorem Inv.find (h : connector.Inv) {session : SmppSessionState} (hmem : session ∈ connector.opened) :
    connector.find session.id = some session := by
  cases hfind : connector.find session.id with
  | none =>
    have := List.find?_eq_none.1 hfind session hmem
    simp at this
  | some found =>
    obtain ⟨hfound, hid⟩ := mem_of_find hfind
    rw [h.ids.unique hfound hmem hid]

theorem Inv.start : SmppConnector.start.Inv :=
  ⟨List.nodup_nil, fun _ h => (nomatch h), fun _ _ h => (nomatch h), fun _ h => (nomatch h), fun _ _ h => (nomatch h)⟩

/-! ### One session changes -/

section Put

variable {session session' : SmppSessionState}

theorem mem_put {other : SmppSessionState} (h : other ∈ (connector.put session').opened) :
    other = session' ∨ other ∈ connector.opened ∧ other.id ≠ session'.id := by
  obtain ⟨old, hold, rfl⟩ := List.mem_map.1 h
  by_cases hid : old.id = session'.id
  · exact .inl (if_pos hid)
  · rw [if_neg hid]
    exact .inr ⟨hold, hid⟩

/-- The key of a session and the order of the sessions do not change. -/
theorem lastOfSlot_put (hmem : session ∈ connector.opened) (hid : session'.id = session.id)
    (hrequest : session'.request = session.request) {other other' : SmppSessionState} (hid' : other'.id = other.id)
    (hrequest' : other'.request = other.request) (h : connector.LastOfSlot other) :
    (connector.put session').LastOfSlot other' := by
  intro x hx hkey
  have hother : other'.sessionKey = other.sessionKey := congrArg getSessionKey hrequest'
  rw [hother] at hkey
  rw [hid']
  rcases mem_put hx with rfl | ⟨hx, -⟩
  · rw [hid]
    refine h session hmem (Eq.trans ?_ hkey)
    exact (congrArg getSessionKey hrequest).symm
  · exact h x hx hkey

/-- What a step may do to a session and to the map: nothing that is over begins again, a session becomes healthy only
while it is not over, and it is only stored while it is not over. -/
theorem Inv.put (h : connector.Inv) (session' : SmppSessionState) (hmem : session ∈ connector.opened)
    (hid : session'.id = session.id) (hrequest : session'.request = session.request)
    (hsettled : session.settled = true → session'.settled = true ∧ (session'.healthy = true → session.healthy = true))
    {sessions' : String → Option Nat}
    (hsessions : ∀ key id, sessions' key = some id → connector.sessions key = some id ∨
      id = session.id ∧ key = session.sessionKey ∧ session.settled = false) :
    SmppConnector.Inv ⟨(connector.put session').opened, sessions'⟩ := by
  have hlast : session.settled = false → (connector.put session').LastOfSlot session' := fun hopen =>
    lastOfSlot_put hmem hid hrequest hid hrequest (h.last session hmem hopen)
  have hlength : (connector.put session').opened.length = connector.opened.length := List.length_map _
  refine ⟨?_, ?_, ?_, ?_, ?_⟩
  · have hids : (connector.put session').opened.map SmppSessionState.id = connector.opened.map SmppSessionState.id := by
      unfold SmppConnector.put
      rw [List.map_map]
      refine List.map_congr_left fun other _ => ?_
      show (if other.id = session'.id then session' else other).id = other.id
      split
      · rename_i heq
        exact heq.symm
      · rfl
    show List.Nodup _
    rw [hids]
    exact h.ids
  · intro other hother
    rw [hlength]
    rcases mem_put hother with rfl | ⟨hother, -⟩
    · rw [hid]
      exact h.fresh session hmem
    · exact h.fresh other hother
  · intro key id hstored
    rw [hlength]
    rcases hsessions key id hstored with hold | ⟨rfl, -, -⟩
    · exact h.known key id hold
    · exact h.fresh session hmem
  · intro other hother hopen
    rcases mem_put hother with rfl | ⟨hother, -⟩
    · cases hover : session.settled with
      | true =>
        rw [(hsettled hover).1] at hopen
        cases hopen
      | false => exact hlast hover
    · exact lastOfSlot_put hmem hid hrequest rfl rfl (h.last other hother hopen)
  · intro key other hother hstored
    rcases mem_put hother with rfl | ⟨hother, hne⟩
    · have hkey : other.sessionKey = session.sessionKey := congrArg getSessionKey hrequest
      rcases hsessions key _ hstored with hold | ⟨-, rfl, hopen⟩
      · rw [hid] at hold
        obtain ⟨hsession, hhealthy⟩ := h.stored key session hmem hold
        refine ⟨hkey.trans hsession, fun hnew => ?_⟩
        cases hover : session.settled with
        | true =>
          exact lastOfSlot_put hmem hid hrequest hid hrequest (hhealthy ((hsettled hover).2 hnew))
        | false => exact hlast hover
      · exact ⟨hkey, fun _ => hlast hopen⟩
    · rcases hsessions key _ hstored with hold | ⟨heq, -, -⟩
      · obtain ⟨hsession, hhealthy⟩ := h.stored key other hother hold
        exact ⟨hsession, fun hnew => lastOfSlot_put hmem hid hrequest rfl rfl (hhealthy hnew)⟩
      · exact absurd (heq.trans hid.symm) hne

end Put

/-! ### Steps -/

variable {connector' : SmppConnector} {action : SmppAction}

theorem Inv.ensureSession (h : connector.Inv) {request : SmppDispatchRequest}
    (hfree : connector.SlotFree (.submitSm request)) : (connector.ensureSession request).Inv := by
  unfold SmppConnector.ensureSession
  by_cases hhit : (connector.existing (getSessionKey request)).any SmppSessionState.healthy = true
  · rw [if_pos hhit]
    exact h
  rw [if_neg hhit]
  have hover := hfree.resolve_left hhit
  -- the sessions that must be the last of their slot are in other slots
  have hkept : ∀ other ∈ connector.opened, other.sessionKey ≠ getSessionKey request → connector.LastOfSlot other →
      ∀ x ∈ connector.opened ++ [⟨connector.opened.length, request, .binding, false, false⟩],
        x.sessionKey = other.sessionKey → x.id ≤ other.id := by
    intro other _ hne hlast x hx hkey
    rcases List.mem_append.1 hx with hx | hx
    · exact hlast x hx hkey
    · rw [List.mem_singleton.1 hx] at hkey
      exact absurd hkey.symm hne
  refine ⟨?_, ?_, ?_, ?_, ?_⟩
  · refine h.ids.append_fresh fun other hother => ?_
    exact Nat.ne_of_lt (h.fresh other hother)
  · intro other hother
    show other.id < (connector.opened ++ [_]).length
    rw [List.length_append]
    rcases List.mem_append.1 hother with hother | hother
    · exact Nat.lt_succ_of_lt (h.fresh other hother)
    · rw [List.mem_singleton.1 hother]
      exact Nat.lt_succ_self _
  · intro key id hstored
    show id < (connector.opened ++ [_]).length
    rw [List.length_append]
    exact Nat.lt_succ_of_lt (h.known key id hstored)
  · intro other hother hopen
    rcases List.mem_append.1 hother with hother | hother
    · refine hkept other hother (fun hkey => ?_) (h.last other hother hopen)
      rw [hover other hother hkey] at hopen
      cases hopen
    · intro x hx _
      rw [List.mem_singleton.1 hother]
      rcases List.mem_append.1 hx with hx | hx
      · exact Nat.le_of_lt (h.fresh x hx)
      · rw [List.mem_singleton.1 hx]
  · intro key other hother hstored
    rcases List.mem_append.1 hother with hother | hother
    · obtain ⟨hsession, hhealthy⟩ := h.stored key other hother hstored
      refine ⟨hsession, fun hnew => hkept other hother (fun hkey => hhit ?_) (hhealthy hnew)⟩
      -- a healthy session under this key would have been found
      have hfound : connector.existing (getSessionKey request) = some other := by
        unfold existing
        rw [← hkey, hsession]
        have hstored' : connector.sessions key = some other.id := hstored
        rw [hstored']
        exact h.find hother
      rw [hfound]
      exact hnew
    · -- no key leads to the new session yet
      rw [List.mem_singleton.1 hother] at hstored
      exact absurd (h.known key _ hstored) (Nat.lt_irrefl _)

theorem Inv.handleEvent (h : connector.Inv) {session session' : SmppSessionState} (hmem : session ∈ connector.opened)
    (hid : session'.id = session.id) (hrequest : session'.request = session.request)
    (hphase : session'.phase = session.phase) (hclosed : session.closed = true → session'.closed = true)
    (hhealthy : session'.healthy = session.healthy) : (connector.handleEvent session').Inv := by
  have hsettled : session.settled = true → session'.settled = true := by
    unfold SmppSessionState.settled
    rw [hphase]
    cases session.phase with
    | binding | stored => exact hclosed
    | bound | failed => exact id
  unfold SmppConnector.handleEvent
  by_cases hstored : session'.phase = .stored
  · rw [if_pos hstored]
    refine h.put { session' with healthy := false } hmem hid hrequest ?_ ?_
    · exact fun hover => ⟨hsettled hover, fun hnew => (nomatch hnew)⟩
    · intro key id hkey
      have hkey' : (if key = session'.sessionKey then none else connector.sessions key) = some id := hkey
      split at hkey'
      · cases hkey'
      · exact .inl hkey'
  · rw [if_neg hstored]
    refine h.put session' hmem hid hrequest ?_ fun _ _ hkey => .inl hkey
    exact fun hover => ⟨hsettled hover, fun hnew => hhealthy ▸ hnew⟩

/-- An event is that of a session.  A closed session only emits errors. -/
theorem event_cases {id : Nat} (hevent : action = .close id ∨ action = .error id)
    (hstep : connector.step action = some connector') :
    ∃ (session : SmppSessionState) (closed : Bool), session ∈ connector.opened ∧ session.id = id ∧
      (session.closed = true → closed = true) ∧ (session.closed = true → action = .error id) ∧
      connector' = connector.handleEvent { session with closed := closed } := by
  rcases hevent with rfl | rfl
  · obtain ⟨session, hfind, hdone⟩ := Option.bind_eq_some_iff.1 hstep
    obtain ⟨hmem, hid⟩ := mem_of_find hfind
    by_cases hclosed : session.closed = false
    · rw [if_pos hclosed] at hdone
      cases hdone
      refine ⟨session, true, hmem, hid, fun _ => rfl, fun hover => ?_, rfl⟩
      rw [hclosed] at hover
      cases hover
    · rw [if_neg hclosed] at hdone
      cases hdone
  · obtain ⟨session, hfind, hdone⟩ := Option.map_eq_some_iff.1 hstep
    obtain ⟨hmem, hid⟩ := mem_of_find hfind
    cases hdone
    exact ⟨session, session.closed, hmem, hid, fun hclosed => hclosed, fun _ => rfl, rfl⟩

theorem Inv.step (h : connector.Inv) (hfree : connector.SlotFree action)
    (hstep : connector.step action = some connector') : connector'.Inv := by
  cases action with
  | submitSm request =>
    cases hstep
    exact h.ensureSession hfree
  | bindResponse id commandStatus =>
    obtain ⟨session, hfind, hdone⟩ := Option.bind_eq_some_iff.1 hstep
    obtain ⟨hmem, rfl⟩ := mem_of_find hfind
    split at hdone
    · rename_i hbinding
      have hopen : session.settled = false := by
        unfold SmppSessionState.settled
        rw [hbinding.1]
        exact hbinding.2
      have hcontra : session.settled = true → False := fun hover => by
        rw [hopen] at hover
        cases hover
      split at hdone
      · cases hdone
        exact h.put { session with healthy := true, phase := .bound } hmem rfl rfl (fun hover => (hcontra hover).elim)
          fun _ _ hkey => .inl hkey
      · cases hdone
        exact h.put { session with phase := .failed } hmem rfl rfl (fun hover => (hcontra hover).elim)
          fun _ _ hkey => .inl hkey
    · cases hdone
  | afterBind id =>
    obtain ⟨session, hfind, hdone⟩ := Option.bind_eq_some_iff.1 hstep
    obtain ⟨hmem, rfl⟩ := mem_of_find hfind
    split at hdone
    · rename_i hbound
      cases hdone
      have hopen : session.settled = false := by
        unfold SmppSessionState.settled
        rw [hbound]
      refine h.put { session with phase := .stored } hmem rfl rfl (fun hover => ?_) fun key id hkey => ?_
      · rw [hopen] at hover
        cases hover
      · have hkey' : (if key = session.sessionKey then some session.id else connector.sessions key) = some id := hkey
        split at hkey'
        · rename_i heq
          cases hkey'
          exact .inr ⟨rfl, heq, hopen⟩
        · exact .inl hkey'
    · cases hdone
  | close id =>
    obtain ⟨session, closed, hmem, rfl, hclosed, -, rfl⟩ := event_cases (.inl rfl) hstep
    exact h.handleEvent hmem rfl rfl rfl hclosed rfl
  | error id =>
    obtain ⟨session, closed, hmem, rfl, hclosed, -, rfl⟩ := event_cases (.inr rfl) hstep
    exact h.handleEvent hmem rfl rfl rfl hclosed rfl

/-! ### What the invariant gives -/

theorem not_settled_of_isBound {session : SmppSessionState} (h : session.isBound = true) : session.settled = false := by
  unfold SmppSessionState.isBound at h
  unfold SmppSessionState.settled
  rw [Bool.and_eq_true] at h
  cases hphase : session.phase with
  | bound => rfl
  | stored => simpa using h.2
  | binding | failed =>
    rw [hphase] at h
    cases h.1

/-- Two sessions of one slot that are not over are one session. -/
theorem Inv.eq_of_sessionKey (h : connector.Inv) {session other : SmppSessionState}
    (hmem : session ∈ connector.opened) (hother : other ∈ connector.opened)
    (hlast : connector.LastOfSlot session) (hlast' : connector.LastOfSlot other)
    (hkey : session.sessionKey = other.sessionKey) : session = other := by
  have hle := hlast other hother hkey.symm
  have hge := hlast' session hmem hkey
  exact h.ids.unique hmem hother (by omega)

theorem Inv.bounded (h : connector.Inv) : connector.Bounded := by
  intro account maxSessions hrequests
  have hmem : ∀ session ∈ connector.boundSessions account,
      session ∈ connector.opened ∧ session.isBound = true ∧ session.request.account = account := by
    intro session hsession
    obtain ⟨hopened, hboth⟩ := List.mem_filter.1 hsession
    rw [Bool.and_eq_true, decide_eq_true_eq] at hboth
    exact ⟨hopened, hboth⟩
  -- each of them has a slot of its own
  have hslots : ((connector.boundSessions account).map fun session => session.request.slot.toNat).Nodup := by
    refine List.Nodup.map_on ?_ (h.ids.of_map.filter _)
    intro session hsession other hother hslot
    obtain ⟨hopened, hbound, haccount⟩ := hmem session hsession
    obtain ⟨hopened', hbound', haccount'⟩ := hmem other hother
    have hsame : session.request.slot = other.request.slot := by
      have hnonneg : 0 ≤ session.request.slot := computeSessionSlot_nonneg ..
      have hnonneg' : 0 ≤ other.request.slot := computeSessionSlot_nonneg ..
      omega
    refine h.eq_of_sessionKey hopened hopened' (h.last _ hopened (not_settled_of_isBound hbound))
      (h.last _ hopened' (not_settled_of_isBound hbound')) ?_
    show Account.sessionKey _ _ = Account.sessionKey _ _
    rw [haccount, haccount', hsame]
  have hrange : ((connector.boundSessions account).map fun session => session.request.slot.toNat) ⊆
      List.range (max maxSessions 1).toNat := by
    intro slot hslot
    obtain ⟨session, hsession, rfl⟩ := List.mem_map.1 hslot
    obtain ⟨hopened, -, haccount⟩ := hmem session hsession
    have hmax := hrequests session hopened haccount
    have hlt : session.request.slot < max session.request.maxSessions 1 := computeSessionSlot_lt ..
    have hnonneg : 0 ≤ session.request.slot := computeSessionSlot_nonneg ..
    rw [List.mem_range]
    omega
  have hlength := (List.subperm_of_subset hslots hrange).length_le
  rw [List.length_map, List.length_range] at hlength
  omega

theorem Inv.keepsOthers (h : connector.Inv) (hfree : connector.SlotFree action)
    (hstep : connector.step action = some connector') : connector.KeepsOthers action connector' := by
  intro id hevent key other hexisting hhealthy hne
  obtain ⟨hother, hstored⟩ := mem_of_existing hexisting
  obtain ⟨session, closed, hmem, rfl, -, herror, rfl⟩ := event_cases hevent hstep
  obtain ⟨hkey, hlast⟩ := h.stored key other hother hstored
  unfold SmppConnector.handleEvent
  by_cases hphase : session.phase = .stored
  · rw [if_pos hphase]
    refine Eq.trans (if_neg fun heq => hne ?_) hstored
    -- the session the event comes from is the last of its slot, and so is a healthy one
    have hlast' : connector.LastOfSlot session := by
      cases hclosed : session.closed with
      | true =>
        rw [herror hclosed] at hfree
        exact hfree session hmem rfl hclosed
      | false =>
        refine h.last session hmem ?_
        unfold SmppSessionState.settled
        rw [hphase]
        exact hclosed
    rw [h.eq_of_sessionKey hother hmem (hlast hhealthy) hlast' (hkey.trans heq)]
  · rw [if_neg hphase]
    exact hstored

end SmppConnector

/-- In every run in which a slot is opened only when it is free, no account has more bound sessions than its requests
allow, and no event removes another healthy session from the map. -/
theorem sessions_bounded {connector : SmppConnector}
    (hrun : Transition.Runs SmppConnector.step SmppConnector.SlotFree SmppConnector.start connector) :
    connector.Bounded ∧ ∀ action after, connector.SlotFree action → connector.step action = some after →
      connector.KeepsOthers action after := by
  have hinv : connector.Inv := hrun.invariant .start fun _ _ _ h hfree hstep => h.step hfree hstep
  exact ⟨hinv.bounded, fun _ _ hfree hstep => hinv.keepsOthers hfree hstep⟩

namespace Sample

/-- A provider that allows one session. -/
def request : SmppDispatchRequest := ⟨1, "smpp.example.test", 2775, "sys", 1, "+251911234567"⟩

/-- The session is closed before the next is opened. -/
def oneByOne : List SmppAction :=
  [.submitSm request, .bindResponse 0 0, .afterBind 0, .submitSm request, .close 0, .submitSm request,
    .bindResponse 1 0, .afterBind 1]

/-- The second call comes while the first awaits its bind response. -/
def together : List SmppAction :=
  [.submitSm request, .submitSm request, .bindResponse 0 0, .afterBind 0, .bindResponse 1 0, .afterBind 1]

end Sample

theorem sessions_bounded_one_by_one : ∃ connector : SmppConnector,
    (connector.boundSessions Sample.request.account).length = 1 ∧ connector.Bounded ∧
      ∀ action after, connector.SlotFree action → connector.step action = some after →
        connector.KeepsOthers action after := by
  have h : (Transition.execute (Transition.guarded SmppConnector.step fun connector action =>
      decide (connector.SlotFree action)) SmppConnector.start Sample.oneByOne).any (fun connector =>
      decide ((connector.boundSessions Sample.request.account).length = 1)) = true := by
    decide +kernel
  obtain ⟨connector, hrun, hone⟩ := (Option.any_eq_true _ _).1 h
  have hruns := (Transition.runs_of_execute hrun).mono fun _ _ hok => of_decide_eq_true hok
  exact ⟨connector, of_decide_eq_true hone, sessions_bounded hruns⟩

/-- Two sessions are bound where one is allowed, and the end of the first takes the healthy second out of the map. -/
theorem two_sessions_bound : ∃ connector : SmppConnector,
    Transition.Reaches SmppConnector.step SmppConnector.start connector ∧ ¬ connector.Bounded ∧
      ∃ after, connector.step (.close 0) = some after ∧ ¬ connector.KeepsOthers (.close 0) after := by
  have h : (Transition.execute SmppConnector.step SmppConnector.start Sample.together).any (fun connector =>
      decide ((connector.boundSessions Sample.request.account).length = 2 ∧
        (∀ session ∈ connector.opened, session.request.maxSessions ≤ 1) ∧
        (connector.existing (getSessionKey Sample.request)).any (fun session =>
          session.healthy && session.id == 1) = true ∧
        (connector.step (.close 0)).any (fun after =>
          (after.sessions (getSessionKey Sample.request)).isNone) = true)) = true := by
    decide +kernel
  obtain ⟨connector, hrun, hboth⟩ := (Option.any_eq_true _ _).1 h
  obtain ⟨htwo, hmax, hsecond, hclose⟩ := of_decide_eq_true hboth
  obtain ⟨second, hexisting, hhealthy⟩ := (Option.any_eq_true _ _).1 hsecond
  obtain ⟨after, hstep, hnone⟩ := (Option.any_eq_true _ _).1 hclose
  rw [Bool.and_eq_true, beq_iff_eq] at hhealthy
  refine ⟨connector, Transition.reaches_of_execute hrun, fun hbounded => ?_, after, hstep, fun hkeeps => ?_⟩
  · have hle := hbounded Sample.request.account 1 fun session hsession _ => hmax session hsession
    rw [htwo] at hle
    exact absurd hle (by decide)
  · have hkept := hkeeps 0 (.inl rfl) _ second hexisting hhealthy.1 (by rw [hhealthy.2]; decide)
    rw [hkept] at hnone
    cases hnone

end Smpp

end SmsPlatform
