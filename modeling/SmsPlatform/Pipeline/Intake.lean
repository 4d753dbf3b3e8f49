import SmsPlatform.Pipeline.Events

/-!
# Overlapping submissions

Any number of open transactions of `submitMessageWithContext`, cut at their statements, over the pipeline's tables.
The lookup reads the committed rows; the INSERT fails on a committed row with its idempotency key and waits for an
uncommitted one.  The wallet row stays locked from the reservation to COMMIT, so the statements after the INSERT are
one step.  Between any two statements other submissions run, and so do the handlers of the pipeline.

`seen` and `answers` are no part of the program: they record how many messages a lookup has gone through and how the
submissions ended, so that the development can speak about them.
-/

namespace SmsPlatform

open StateExcept

/-! ### The statements -/

/-- The lookup of an earlier submission is made. -/
def Submission.looksUp (submission : Submission) : Bool :=
  truthy submission.idempotencyKey || truthy submission.clientMessageId

/-- The WHERE clause of the lookup. -/
def Submission.finds (submission : Submission) (currentDate : SqlDate) (row : MessageRow) : Bool :=
  decide (row.submitDate = currentDate ∧ row.tenantId = submission.tenantId ∧
    ((submission.idempotencyKey.isSome ∧ row.apiIdempotencyKey = submission.idempotencyKey) ∨
      (submission.clientMessageId.isSome ∧ row.clientMessageId = submission.clientMessageId)))

/-- `uq_messages_api_idempotency` holds the two rows apart. -/
def MessageRow.collides (row other : MessageRow) : Bool :=
  row.apiIdempotencyKey.isSome && decide (other.submitDate = row.submitDate ∧ other.tenantId = row.tenantId ∧
    other.apiIdempotencyKey = row.apiIdempotencyKey)

theorem any_collides (db : Db) (row : MessageRow) : db.messages.any row.collides = db.violatesApiIdempotency row := by
  unfold MessageRow.collides Db.violatesApiIdempotency
  by_cases h : row.apiIdempotencyKey.isSome = true
  · simp [h]
  · simp [h]

/-! ### The system -/

/-- Where an open submission stands: before its lookup, before its INSERT, or before the rest. -/
inductive SubmitStage
  | begun
  | cleared (seen : Nat)
  | inserted (message : MessageRow) (seen : Nat)
  deriving DecidableEq

structure SubmitSession where
  clock : TxClock
  submission : Submission
  stage : SubmitStage

/-- How a submission ended. -/
inductive SubmitOutcome
  | created (message : MessageCompositeId)
  | existing (message : MessageCompositeId)
  | failed
  deriving DecidableEq

structure SubmitAnswer where
  currentDate : SqlDate
  submission : Submission
  outcome : SubmitOutcome

structure Intake where
  world : World
  sessions : List SubmitSession
  answers : List SubmitAnswer

inductive IntakeAction
  | begin (clock : TxClock) (submission : Submission)
  | lookup (index pick : Nat)
  | insert (index : Nat)
  | finish (index : Nat)
  | rollback (index : Nat)
  | handle (action : Action)

/-- The row that a session has inserted and not committed. -/
def SubmitSession.pending (session : SubmitSession) : Option MessageRow :=
  match session.stage with
  | .inserted message _ => some message
  | _ => none

theorem SubmitSession.pending_of_inserted {session : SubmitSession} {message : MessageRow} {seen : Nat}
    (h : session.stage = .inserted message seen) : session.pending = some message := by
  unfold SubmitSession.pending
  rw [h]

namespace Intake

def initial (wallets : TenantId → Option WalletRow) : Intake where
  world := World.initial wallets
  sessions := []
  answers := []

variable (intake : Intake)

/-- The rows that are inserted and not committed. -/
def pending : List MessageRow := intake.sessions.filterMap SubmitSession.pending

/-- End an open submission; the others are `rest`. -/
def answer (session : SubmitSession) (rest : List SubmitSession) (outcome : SubmitOutcome) : Intake :=
  { intake with
    sessions := rest
    answers := intake.answers ++ [⟨session.clock.currentDate, session.submission, outcome⟩] }

/-- The lookup, with LIMIT 1 taking any of the rows: the one at position `pick`. -/
def lookup (session : SubmitSession) (rest : List SubmitSession) (pick : Nat) : Option Intake :=
  let found := intake.world.db.messages.filter (session.submission.finds session.clock.currentDate)
  if session.submission.looksUp then
    if found.isEmpty then
      some { intake with sessions := { session with stage := .cleared intake.world.db.messages.length } :: rest }
    else found[pick]?.map fun row => intake.answer session rest (.existing row.composite)
  else some { intake with sessions := { session with stage := .cleared 0 } :: rest }

/-- The INSERT takes an id from the sequence, whatever becomes of the transaction. -/
def insert (session : SubmitSession) (rest : List SubmitSession) (seen : Nat) : Option Intake :=
  let db := intake.world.db
  let row := session.submission.row session.clock db.nextMessageId
  if ¬ session.submission.Storable then some (intake.answer session rest .failed)
  else if db.messages.any row.collides then some (intake.answer session rest .failed)
  else if (rest.filterMap SubmitSession.pending).any row.collides then none
  else some { intake with
    world := { intake.world with db := { db with nextMessageId := db.nextMessageId + 1 } }
    sessions := { session with stage := .inserted row seen } :: rest }

/-- The rest of the transaction and its COMMIT, or its ROLLBACK when a statement fails. -/
def finish (session : SubmitSession) (rest : List SubmitSession) (message : MessageRow) : Intake :=
  let db := intake.world.db
  match (chargeMessage session.clock session.submission message).run
      { db with messages := db.messages ++ [message] } with
  | .ok (_, db') =>
    { intake with world := { intake.world with db := db' } }.answer session rest (.created message.composite)
  | .error _ => intake.answer session rest .failed

/-- One statement of an open submission, or one step of the handlers. -/
def step (intake : Intake) : IntakeAction → Option Intake
  | .begin clock submission => some { intake with sessions := ⟨clock, submission, .begun⟩ :: intake.sessions }
  | .lookup index pick =>
    intake.sessions[index]?.bind fun session =>
      match session.stage with
      | .begun => intake.lookup session (intake.sessions.eraseIdx index) pick
      | _ => none
  | .insert index =>
    intake.sessions[index]?.bind fun session =>
      match session.stage with
      | .cleared seen => intake.insert session (intake.sessions.eraseIdx index) seen
      | _ => none
  | .finish index =>
    intake.sessions[index]?.bind fun session =>
      match session.stage with
      | .inserted message _ => some (intake.finish session (intake.sessions.eraseIdx index) message)
      | _ => none
  | .rollback index =>
    intake.sessions[index]?.map fun session => intake.answer session (intake.sessions.eraseIdx index) .failed
  | .handle (.submit _ _) => none
  | .handle action => (intake.world.step action).map fun world => { intake with world := world }

/-! ### What a step can do -/

/-- Everything a step can do. -/
inductive Stepped (intake : Intake) : IntakeAction → Intake → Prop
  | begun (clock : TxClock) (submission : Submission) :
      Stepped intake (.begin clock submission)
        { intake with sessions := ⟨clock, submission, .begun⟩ :: intake.sessions }
  | cleared {index : Nat} (pick : Nat) {session : SubmitSession} (hsession : intake.sessions[index]? = some session)
      (hnone : session.submission.looksUp = true →
        ∀ row ∈ intake.world.db.messages, session.submission.finds session.clock.currentDate row = false) :
      Stepped intake (.lookup index pick)
        { intake with
          sessions := { session with
            stage := .cleared (if session.submission.looksUp then intake.world.db.messages.length else 0) } ::
              intake.sessions.eraseIdx index }
  | found {index pick : Nat} {session : SubmitSession} {row : MessageRow}
      (hsession : intake.sessions[index]? = some session) (hstage : session.stage = .begun)
      (hlooks : session.submission.looksUp = true)
      (hpick : (intake.world.db.messages.filter
        (session.submission.finds session.clock.currentDate))[pick]? = some row) :
      Stepped intake (.lookup index pick)
        (intake.answer session (intake.sessions.eraseIdx index) (.existing row.composite))
  | inserted {index seen : Nat} {session : SubmitSession} {row : MessageRow}
      (hsession : intake.sessions[index]? = some session) (hstage : session.stage = .cleared seen)
      (hrow : row = session.submission.row session.clock intake.world.db.nextMessageId)
      (hcommitted : ∀ other ∈ intake.world.db.messages, row.collides other = false)
      (hpending : ∀ other ∈ (intake.sessions.eraseIdx index).filterMap SubmitSession.pending,
        row.collides other = false) :
      Stepped intake (.insert index)
        { intake with
          world := { intake.world with
            db := { intake.world.db with nextMessageId := intake.world.db.nextMessageId + 1 } }
          sessions := { session with stage := .inserted row seen } :: intake.sessions.eraseIdx index }
  | finished {index seen : Nat} {session : SubmitSession} {message result : MessageRow} {db' : Db}
      (hsession : intake.sessions[index]? = some session) (hstage : session.stage = .inserted message seen)
      (hcharge : (chargeMessage session.clock session.submission message).run
        { intake.world.db with messages := intake.world.db.messages ++ [message] } = .ok (result, db')) :
      Stepped intake (.finish index)
        ({ intake with world := { intake.world with db := db' } }.answer session (intake.sessions.eraseIdx index)
          (.created message.composite))
  | failed (action : IntakeAction) {index : Nat} {session : SubmitSession}
      (hsession : intake.sessions[index]? = some session) :
      Stepped intake action (intake.answer session (intake.sessions.eraseIdx index) .failed)
  | handled {action : Action} {world : World} (hsubmit : ∀ clock submission, action ≠ .submit clock submission)
      (hstep : intake.world.step action = some world) :
      Stepped intake (.handle action) { intake with world := world }

variable {intake} {intake' : Intake} {action : IntakeAction}

theorem step_cases (h : intake.step action = some intake') : Stepped intake action intake' := by
  cases action with
  | begin clock submission =>
    cases h
    exact .begun clock submission
  | lookup index pick =>
    obtain ⟨session, hsession, h⟩ := Option.bind_eq_some_iff.1 h
    split at h
    · rename_i hstage
      unfold lookup at h
      dsimp only at h
      split at h
      · rename_i hlooks
        split at h
        · rename_i hempty
          cases h
          have hstepped := Stepped.cleared pick hsession fun _ row hrow => ?_
          · rwa [if_pos hlooks] at hstepped
          · rw [List.isEmpty_iff, List.filter_eq_nil_iff] at hempty
            simpa using hempty row hrow
        · obtain ⟨row, hpick, rfl⟩ := Option.map_eq_some_iff.1 h
          exact .found hsession hstage hlooks hpick
      · rename_i hlooks
        cases h
        have hstepped := Stepped.cleared pick hsession fun hlooks' => absurd hlooks' hlooks
        rwa [if_neg hlooks] at hstepped
    · cases h
  | insert index =>
    obtain ⟨session, hsession, h⟩ := Option.bind_eq_some_iff.1 h
    split at h
    · rename_i seen hstage
      unfold insert at h
      dsimp only at h
      split at h
      · cases h
        exact .failed _ hsession
      · split at h
        · cases h
          exact .failed _ hsession
        · rename_i hcommitted
          split at h
          · cases h
          · rename_i hpending
            cases h
            refine .inserted hsession hstage rfl ?_ ?_
            · simpa only [List.any_eq_true, not_exists, not_and, Bool.not_eq_true] using hcommitted
            · simpa only [List.any_eq_true, not_exists, not_and, Bool.not_eq_true] using hpending
    · cases h
  | finish index =>
    obtain ⟨session, hsession, h⟩ := Option.bind_eq_some_iff.1 h
    split at h
    · rename_i message seen hstage
      unfold finish at h
      dsimp only at h
      split at h
      · rename_i result db' hcharge
        cases h
        exact .finished hsession hstage hcharge
      · cases h
        exact .failed _ hsession
    · cases h
  | rollback index =>
    obtain ⟨session, hsession, rfl⟩ := Option.map_eq_some_iff.1 h
    exact .failed _ hsession
  | handle action =>
    cases action with
    | submit clock submission => cases h
    | _ =>
      unfold step at h
      obtain ⟨world, hstep, rfl⟩ := Option.map_eq_some_iff.1 h
      exact .handled (fun _ _ hsubmit => by cases hsubmit) hstep

/-! ### A submission alone -/

theorem findExisting_eq (db : Db) (clock : TxClock) (submission : Submission) :
    db.findExisting clock submission = (db.messages.filter (submission.finds clock.currentDate))[0]? := by
  rw [← List.head?_eq_getElem?, List.head?_filter]
  rfl

/-- After a lookup that finds nothing, a submission that nothing interrupts inserts its message and charges it. -/
private theorem execute_created {world : World} {answers : List SubmitAnswer} {clock : TxClock} {submission : Submission}
    {message : MessageRow} {db' : Db} {seen : Nat}
    (h : (createMessage clock submission).run world.db = .ok (message, db'))
    (hlookup : step ⟨world, [⟨clock, submission, .begun⟩], answers⟩ (.lookup 0 0) =
      some ⟨world, [⟨clock, submission, .cleared seen⟩], answers⟩) :
    Transition.execute step ⟨world, [], answers⟩ [.begin clock submission, .lookup 0 0, .insert 0, .finish 0] = some
      ⟨{ world with db := db' }, [], answers ++ [⟨clock.currentDate, submission, .created message.composite⟩]⟩ := by
  have hbegin : step ⟨world, [], answers⟩ (.begin clock submission) =
      some ⟨world, [⟨clock, submission, .begun⟩], answers⟩ := rfl
  rw [createMessage_eq] at h
  obtain ⟨row, db₁, hinsert, hcharge⟩ := bind_eq_ok.1 h
  obtain ⟨hrow, hfits, hfree, rfl⟩ := insertMessage_ok hinsert
  obtain ⟨rfl, -⟩ := chargeMessage_ok hcharge
  have hinserted : step ⟨world, [⟨clock, submission, .cleared seen⟩], answers⟩ (.insert 0) =
      some ⟨{ world with db := { world.db with nextMessageId := world.db.nextMessageId + 1 } },
        [⟨clock, submission, .inserted message seen⟩], answers⟩ := by
    show insert ⟨world, [⟨clock, submission, .cleared seen⟩], answers⟩ ⟨clock, submission, .cleared seen⟩ [] seen = _
    unfold insert
    dsimp only
    rw [← hrow, if_neg (not_not.2 hfits), any_collides, hfree]
    rfl
  have hfinished : step ⟨{ world with db := { world.db with nextMessageId := world.db.nextMessageId + 1 } },
      [⟨clock, submission, .inserted message seen⟩], answers⟩ (.finish 0) = some
        ⟨{ world with db := db' }, [], answers ++ [⟨clock.currentDate, submission, .created message.composite⟩]⟩ := by
    show some (finish _ ⟨clock, submission, .inserted message seen⟩ [] message) = _
    unfold finish
    dsimp only
    rw [hcharge]
    rfl
  rw [Transition.execute_cons hbegin, Transition.execute_cons hlookup, Transition.execute_cons hinserted,
    Transition.execute_cons hfinished]
  rfl

section Lookup

variable {world : World} {answers : List SubmitAnswer} {clock : TxClock} {submission : Submission}

/-- The lookup of a submission alone answers it with the first message that it finds. -/
private theorem lookup_existing (hlooks : submission.looksUp = true) {message : MessageRow}
    (hfound : world.db.findExisting clock submission = some message) :
    step ⟨world, [⟨clock, submission, .begun⟩], answers⟩ (.lookup 0 0) =
      some ⟨world, [], answers ++ [⟨clock.currentDate, submission, .existing message.composite⟩]⟩ := by
  rw [findExisting_eq] at hfound
  show lookup ⟨world, [⟨clock, submission, .begun⟩], answers⟩ ⟨clock, submission, .begun⟩ [] 0 = _
  unfold lookup
  dsimp only
  rw [if_pos hlooks, if_neg, hfound]
  · rfl
  · intro hempty
    rw [List.isEmpty_iff.1 hempty] at hfound
    cases hfound

private theorem lookup_nothing (hlooks : submission.looksUp = true)
    (hfound : world.db.findExisting clock submission = none) :
    step ⟨world, [⟨clock, submission, .begun⟩], answers⟩ (.lookup 0 0) =
      some ⟨world, [⟨clock, submission, .cleared world.db.messages.length⟩], answers⟩ := by
  rw [findExisting_eq] at hfound
  show lookup ⟨world, [⟨clock, submission, .begun⟩], answers⟩ ⟨clock, submission, .begun⟩ [] 0 = _
  unfold lookup
  dsimp only
  rw [if_pos hlooks, if_pos]
  rw [List.isEmpty_iff, ← List.length_eq_zero_iff]
  exact Nat.le_zero.1 (List.getElem?_eq_none_iff.1 hfound)

private theorem lookup_skipped (hlooks : ¬ submission.looksUp = true) :
    step ⟨world, [⟨clock, submission, .begun⟩], answers⟩ (.lookup 0 0) =
      some ⟨world, [⟨clock, submission, .cleared 0⟩], answers⟩ := by
  show lookup ⟨world, [⟨clock, submission, .begun⟩], answers⟩ ⟨clock, submission, .begun⟩ [] 0 = _
  unfold lookup
  dsimp only
  rw [if_neg hlooks]

end Lookup

/-- The statements of one submission, with no other in between, are the transaction of `submitMessageWithContext`. -/
theorem execute_alone (hsessions : intake.sessions = []) {clock : TxClock} {submission : Submission}
    {message : MessageRow} {db' : Db}
    (h : (submitMessageWithContext clock submission).run intake.world.db = .ok (message, db')) :
    ∃ actions outcome, Transition.execute step intake actions = some
      { world := { intake.world with db := db' }
        sessions := []
        answers := intake.answers ++ [⟨clock.currentDate, submission, outcome⟩] } := by
  obtain ⟨world, sessions, answers⟩ := intake
  subst hsessions
  have hbegin : step ⟨world, [], answers⟩ (.begin clock submission) =
      some ⟨world, [⟨clock, submission, .begun⟩], answers⟩ := rfl
  unfold submitMessageWithContext at h
  rw [bind_of_ok (a := world.db) (t := world.db) rfl] at h
  split at h
  · rename_i hlooks
    split at h
    · rename_i existing hfound
      cases h
      refine ⟨[.begin clock submission, .lookup 0 0], .existing message.composite, ?_⟩
      rw [Transition.execute_cons hbegin, Transition.execute_cons (lookup_existing hlooks hfound)]
      rfl
    · rename_i hfound
      exact ⟨_, _, execute_created h (lookup_nothing hlooks hfound)⟩
  · rename_i hlooks
    exact ⟨_, _, execute_created h (lookup_skipped hlooks)⟩

end Intake

end SmsPlatform
