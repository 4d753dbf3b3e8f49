import SmsPlatform.Pipeline.Idempotency

/-!
# Client message ids

`submitMessageWithContext` looks up the client message id, but no index keeps it unique.  So a client message id names
one message of a day exactly as long as no submission commits a message whose client message id another one has
committed since the lookup (`one_message_per_client_id`); two submissions that overlap both create one
(`overlapping_submissions_create_two`).
-/

namespace SmsPlatform

section Carries

variable (currentDate : SqlDate) (tenantId : TenantId) (clientId : String)

def MessageContent.hasClientId (content : MessageContent) : Bool :=
  decide (content.submitDate = currentDate ∧ content.tenantId = tenantId ∧ content.clientMessageId = some clientId)

/-- The message carries the client message id on the day. -/
def MessageRow.hasClientId (row : MessageRow) : Bool := row.content.hasClientId currentDate tenantId clientId

def SubmitSession.carries (session : SubmitSession) : Prop :=
  session.clock.currentDate = currentDate ∧ session.submission.tenantId = tenantId ∧
    session.submission.clientMessageId = some clientId

def SubmitAnswer.carries (answer : SubmitAnswer) : Prop :=
  answer.currentDate = currentDate ∧ answer.submission.tenantId = tenantId ∧
    answer.submission.clientMessageId = some clientId

theorem SubmitSession.hasClientId_row (session : SubmitSession) (id : Nat) :
    (session.submission.row session.clock id).hasClientId currentDate tenantId clientId = true ↔
      session.carries currentDate tenantId clientId :=
  decide_eq_true_iff

end Carries

/-- The message that answers the request. -/
def SubmitOutcome.ref : SubmitOutcome → Option MessageCompositeId
  | .created message => some message
  | .existing message => some message
  | .failed => none

/-- How many messages the session's lookup has gone through. -/
def SubmitSession.seen (session : SubmitSession) : Option Nat :=
  match session.stage with
  | .begun => none
  | .cleared seen => some seen
  | .inserted _ seen => some seen

namespace Intake

/-- No submission with the client message id is answered with a message that matches its idempotency key alone, and
none commits a message when another one with the client message id has been committed since its lookup, or at all if
it made none. -/
def Separate (currentDate : SqlDate) (tenantId : TenantId) (clientId : String) (intake : Intake) :
    IntakeAction → Prop
  | .lookup index pick => ∀ session row, intake.sessions[index]? = some session → session.stage = .begun →
      session.carries currentDate tenantId clientId → session.submission.looksUp = true →
        (intake.world.db.messages.filter (session.submission.finds session.clock.currentDate))[pick]? = some row →
          row.clientMessageId = some clientId
  | .finish index => ∀ session message seen, intake.sessions[index]? = some session →
      session.stage = .inserted message seen → session.carries currentDate tenantId clientId →
        ∀ row ∈ intake.world.db.messages.drop seen, row.hasClientId currentDate tenantId clientId = false
  | _ => True

/-- On the day at most one message with the client message id is created and charged; every submission that carries it
is answered with that message or fails; and the messages, reservations and events are those of the submissions that
were answered with a new message. -/
structure OneMessage (currentDate : SqlDate) (tenantId : TenantId) (clientId : String) (intake : Intake) : Prop where
  once : intake.world.db.AtMostOnce (MessageRow.hasClientId currentDate tenantId clientId)
  answered : ∀ answer ∈ intake.answers, answer.carries currentDate tenantId clientId → ∀ ref,
    answer.outcome.ref = some ref → ∃ row ∈ intake.world.db.messages,
      row.hasClientId currentDate tenantId clientId = true ∧ row.composite = ref
  created : intake.created = intake.composites
  reserves : ∀ ref ∈ intake.world.db.reserveRefs, ref ∈ intake.created
  accepted : ∀ ref ∈ intake.world.db.acceptedRefs, ref ∈ intake.created

/-- The columns of the messages that are written once. -/
def table (intake : Intake) : List MessageContent := intake.world.db.messages.map MessageRow.content

/-- The invariant: what a lookup has gone through holds no message with the client message id. -/
structure Apart (currentDate : SqlDate) (tenantId : TenantId) (clientId : String) (intake : Intake) : Prop where
  single : intake.table.countP (MessageContent.hasClientId currentDate tenantId clientId) ≤ 1
  cleared : ∀ session ∈ intake.sessions, session.carries currentDate tenantId clientId → ∀ seen,
    session.seen = some seen → seen ≤ intake.table.length ∧ ∀ content ∈ intake.table.take seen,
      content.hasClientId currentDate tenantId clientId = false
  answered : ∀ answer ∈ intake.answers, answer.carries currentDate tenantId clientId → ∀ ref,
    answer.outcome.ref = some ref → ∃ content ∈ intake.table,
      content.hasClientId currentDate tenantId clientId = true ∧ content.composite = ref

namespace Apart

variable {currentDate : SqlDate} {tenantId : TenantId} {clientId : String} {intake intake' : Intake}

theorem initial (wallets : TenantId → Option WalletRow) :
    Apart currentDate tenantId clientId (Intake.initial wallets) := by
  refine ⟨Nat.zero_le 1, ?_, ?_⟩
  all_goals
    intro x h
    cases h

/-- Sessions change over the same table. -/
theorem resume (h : intake.Apart currentDate tenantId clientId) (htable : intake'.table = intake.table)
    (hsessions : ∀ session ∈ intake'.sessions, session ∈ intake.sessions ∨
      (session.carries currentDate tenantId clientId → ∀ seen, session.seen = some seen →
        seen ≤ intake.table.length ∧ ∀ content ∈ intake.table.take seen,
          content.hasClientId currentDate tenantId clientId = false))
    (hanswers : ∀ answer ∈ intake'.answers, answer ∈ intake.answers ∨
      (answer.carries currentDate tenantId clientId → ∀ ref, answer.outcome.ref = some ref →
        ∃ content ∈ intake.table, content.hasClientId currentDate tenantId clientId = true ∧
          content.composite = ref)) : intake'.Apart currentDate tenantId clientId := by
  refine ⟨htable ▸ h.single, ?_, ?_⟩
  · rw [htable]
    intro session hsession
    rcases hsessions session hsession with hold | hnew
    · exact h.cleared session hold
    · exact hnew
  · rw [htable]
    intro answer hanswer
    rcases hanswers answer hanswer with hold | hnew
    · exact h.answered answer hold
    · exact hnew

/-- A session ends over the same table. -/
theorem drop (h : intake.Apart currentDate tenantId clientId) {index : Nat} {session : SubmitSession}
    {outcome : SubmitOutcome}
    (houtcome : session.carries currentDate tenantId clientId → ∀ ref, outcome.ref = some ref →
      ∃ content ∈ intake.table, content.hasClientId currentDate tenantId clientId = true ∧ content.composite = ref) :
    Apart currentDate tenantId clientId (intake.answer session (intake.sessions.eraseIdx index) outcome) := by
  refine h.resume rfl (fun other hother => .inl (List.mem_of_mem_eraseIdx hother)) fun answer hanswer => ?_
  rcases List.mem_append.1 hanswer with hanswer | hanswer
  · exact .inl hanswer
  · rw [List.mem_singleton.1 hanswer]
    exact .inr houtcome

theorem begin (h : intake.Apart currentDate tenantId clientId) (clock : TxClock) (submission : Submission) :
    Apart currentDate tenantId clientId
      { intake with sessions := ⟨clock, submission, .begun⟩ :: intake.sessions } := by
  refine h.resume rfl (fun session hsession => ?_) fun answer hanswer => .inl hanswer
  rcases List.mem_cons.1 hsession with rfl | hsession
  · exact .inr fun _ seen hseen => by cases hseen
  · exact .inl hsession

theorem clear (h : intake.Apart currentDate tenantId clientId) {index : Nat} {session : SubmitSession}
    (hnone : session.submission.looksUp = true →
      ∀ row ∈ intake.world.db.messages, session.submission.finds session.clock.currentDate row = false) :
    Apart currentDate tenantId clientId { intake with
      sessions := { session with
        stage := .cleared (if session.submission.looksUp then intake.world.db.messages.length else 0) } ::
          intake.sessions.eraseIdx index } := by
  refine h.resume rfl (fun other hother => ?_) fun answer hanswer => .inl hanswer
  rcases List.mem_cons.1 hother with rfl | hother
  · refine .inr fun hcarries seen hseen => ?_
    cases hseen
    by_cases hlooks : session.submission.looksUp = true
    · rw [if_pos hlooks]
      refine ⟨(List.length_map _).ge, fun content hcontent => ?_⟩
      obtain ⟨row, hrow, rfl⟩ := List.mem_map.1 (List.mem_of_mem_take hcontent)
      have hfree := of_decide_eq_false (hnone hlooks row hrow)
      obtain ⟨hdate, htenant, hclient⟩ := hcarries
      refine decide_eq_false fun hrow => hfree ⟨?_, ?_, .inr ⟨?_, ?_⟩⟩
      · exact hrow.1.trans hdate.symm
      · exact hrow.2.1.trans htenant.symm
      · rw [show session.submission.clientMessageId = _ from hclient]
        rfl
      · exact hrow.2.2.trans hclient.symm
    · rw [if_neg hlooks]
      exact ⟨Nat.zero_le _, fun content hcontent => by cases hcontent⟩
  · exact .inl (List.mem_of_mem_eraseIdx hother)

theorem insert (h : intake.Apart currentDate tenantId clientId) {index seen : Nat} {session : SubmitSession}
    (row : MessageRow) (hsession : intake.sessions[index]? = some session) (hstage : session.stage = .cleared seen)
    {world : World} (hworld : world.db.messages = intake.world.db.messages) :
    Apart currentDate tenantId clientId { intake with
      world := world
      sessions := { session with stage := .inserted row seen } :: intake.sessions.eraseIdx index } := by
  have htable : Intake.table { intake with
      world := world
      sessions := { session with stage := .inserted row seen } :: intake.sessions.eraseIdx index } = intake.table :=
    congrArg (List.map MessageRow.content) hworld
  refine h.resume htable (fun other hother => ?_) fun answer hanswer => .inl hanswer
  rcases List.mem_cons.1 hother with rfl | hother
  · refine .inr fun hcarries seen' hseen => ?_
    cases hseen
    refine h.cleared session (List.mem_of_getElem? hsession) hcarries seen ?_
    unfold SubmitSession.seen
    rw [hstage]
  · exact .inl (List.mem_of_mem_eraseIdx hother)

/-- A COMMIT adds the session's message, which carries the client message id if the session does. -/
theorem finish (h : intake.Apart currentDate tenantId clientId) {index seen id : Nat} {session : SubmitSession}
    {message : MessageRow} (hsession : intake.sessions[index]? = some session)
    (hstage : session.stage = .inserted message seen) (hmessage : message = session.submission.row session.clock id)
    (hseparate : intake.Separate currentDate tenantId clientId (.finish index)) (world : World)
    (hworld : world.db.messages = intake.world.db.messages ++ [message]) :
    Apart currentDate tenantId clientId ({ intake with world := world }.answer session
      (intake.sessions.eraseIdx index) (.created message.composite)) := by
  have htable : world.db.messages.map MessageRow.content = intake.table ++ [message.content] := by
    rw [hworld, List.map_append]
    rfl
  have hcarries : message.content.hasClientId currentDate tenantId clientId = true ↔
      session.carries currentDate tenantId clientId := by
    rw [hmessage]
    exact session.hasClientId_row currentDate tenantId clientId id
  have hseen : session.seen = some seen := by
    unfold SubmitSession.seen
    rw [hstage]
  refine ⟨?_, ?_, ?_⟩
  · show (world.db.messages.map MessageRow.content).countP _ ≤ 1
    rw [htable, List.countP_append, List.countP_singleton]
    by_cases hc : session.carries currentDate tenantId clientId
    · -- neither the messages of the lookup nor those after it carry the client message id
      have hbefore := (h.cleared session (List.mem_of_getElem? hsession) hc seen hseen).2
      have hafter := hseparate session message seen hsession hstage hc
      have hzero : intake.table.countP (MessageContent.hasClientId currentDate tenantId clientId) = 0 := by
        rw [List.countP_eq_zero]
        intro content hcontent
        rw [← List.take_append_drop seen intake.table, List.mem_append] at hcontent
        rw [Bool.not_eq_true]
        rcases hcontent with hcontent | hcontent
        · exact hbefore content hcontent
        · unfold Intake.table at hcontent
          rw [← List.map_drop] at hcontent
          obtain ⟨row, hrow, rfl⟩ := List.mem_map.1 hcontent
          exact hafter row hrow
      rw [hzero, if_pos (hcarries.2 hc)]
    · rw [if_neg (mt hcarries.1 hc)]
      exact h.single
  · intro other hother hc seen' hseen'
    obtain ⟨hle, hfree⟩ := h.cleared other (List.mem_of_mem_eraseIdx hother) hc seen' hseen'
    show seen' ≤ (world.db.messages.map MessageRow.content).length ∧
      ∀ content ∈ (world.db.messages.map MessageRow.content).take seen', _
    rw [htable, List.take_append_of_le_length hle]
    refine ⟨?_, hfree⟩
    rw [List.length_append]
    omega
  · intro answer hanswer hc ref href
    show ∃ content ∈ world.db.messages.map MessageRow.content, _
    rw [htable]
    rcases List.mem_append.1 hanswer with hanswer | hanswer
    · obtain ⟨content, hcontent, hfacts⟩ := h.answered answer hanswer hc ref href
      exact ⟨content, List.mem_append_left _ hcontent, hfacts⟩
    · rw [List.mem_singleton.1 hanswer] at hc href
      cases href
      exact ⟨message.content, List.mem_append_right _ (List.mem_singleton_self _), hcarries.2 hc, rfl⟩

theorem step (h : intake.Apart currentDate tenantId clientId) (hsound : intake.Sound) {action : IntakeAction}
    (hseparate : intake.Separate currentDate tenantId clientId action) (hstep : intake.step action = some intake') :
    intake'.Apart currentDate tenantId clientId := by
  cases step_cases hstep with
  | begun clock submission => exact h.begin clock submission
  | cleared pick hsession hnone => exact h.clear hnone
  | @found index pick session row hsession hstage hlooks hpick =>
    refine h.drop fun hcarries ref href => ?_
    cases href
    have hmem := List.mem_filter.1 (List.mem_of_getElem? hpick)
    have hfinds := of_decide_eq_true hmem.2
    refine ⟨row.content, List.mem_map_of_mem hmem.1, decide_eq_true ⟨?_, ?_, ?_⟩, rfl⟩
    · exact hfinds.1.trans hcarries.1
    · exact hfinds.2.1.trans hcarries.2.1
    · exact hseparate session row hsession hstage hcarries hlooks hpick
  | inserted hsession hstage hrow hcommitted hpending => exact h.insert _ hsession hstage rfl
  | @finished index seen session message result db' hsession hstage hcharge =>
    obtain ⟨-, ⟨c⟩⟩ := chargeMessage_ok hcharge
    obtain ⟨id, hmessage⟩ := hsound.submitted session (List.mem_of_getElem? hsession) message
      (SubmitSession.pending_of_inserted hstage)
    have htenant : message.tenantId = session.submission.tenantId := by
      rw [hmessage]
      rfl
    exact h.finish hsession hstage hmessage hseparate { intake.world with db := db' } (c.tables htenant).1
  | failed action hsession => exact h.drop fun _ ref href => by cases href
  | handled hsubmit hworld =>
    have hquiet := (World.step_cases (keyed_composite hsound.snapshots.keyed) hworld).quiet hsubmit
    exact h.resume hquiet.contents (fun session hsession => .inl hsession) fun answer hanswer => .inl hanswer

theorem of_runs {wallets : TenantId → Option WalletRow}
    (h : Transition.Runs Intake.step (Separate currentDate tenantId clientId) (Intake.initial wallets) intake) :
    intake.Apart currentDate tenantId clientId :=
  h.invariant_of (fun _ hrun => Sound.of_reaches hrun.reaches) (Apart.initial wallets)
    fun _ _ _ hsound _ hapart hseparate hstep => hapart.step hsound hseparate hstep

theorem oneMessage (h : intake.Apart currentDate tenantId clientId) (hsound : intake.Sound) :
    intake.OneMessage currentDate tenantId clientId := by
  refine ⟨hsound.atMostOnce ?_, ?_, hsound.created, ?_, ?_⟩
  · have hsingle := h.single
    unfold Intake.table at hsingle
    rwa [List.countP_map] at hsingle
  · intro answer hanswer hcarries ref href
    obtain ⟨content, hcontent, hid, hcomposite⟩ := h.answered answer hanswer hcarries ref href
    obtain ⟨row, hrow, rfl⟩ := List.mem_map.1 hcontent
    exact ⟨row, hrow, hid, hcomposite⟩
  · rw [hsound.created]
    exact hsound.reserves.2
  · rw [hsound.created]
    exact hsound.accepted.2

end Apart

/-- Once a step does not satisfy the condition, its submission fails or there is more than one message. -/
theorem Sound.separate_of_oneMessage {currentDate : SqlDate} {tenantId : TenantId} {clientId : String}
    {intake intake' : Intake} (h : intake.Sound) {action : IntakeAction} (hstep : intake.step action = some intake')
    (hone : intake'.OneMessage currentDate tenantId clientId) :
    (∃ session rest, intake' = intake.answer session rest .failed) ∨
      intake.Separate currentDate tenantId clientId action := by
  cases step_cases hstep with
  | begun clock submission => exact .inr trivial
  | @cleared index pick session hsession hnone =>
    refine .inr fun session' row hsession' _ _ hlooks hpick => ?_
    cases hsession.symm.trans hsession'
    have hmem := List.mem_filter.1 (List.mem_of_getElem? hpick)
    rw [hnone hlooks row hmem.1] at hmem
    cases hmem.2
  | @found index pick session row hsession hstage hlooks hpick =>
    refine .inr fun session' row' hsession' _ hcarries _ hpick' => ?_
    cases hsession.symm.trans hsession'
    cases hpick.symm.trans hpick'
    obtain ⟨named, hnamed, hid, hcomposite⟩ := hone.answered _ (List.mem_append_right _ (List.mem_singleton_self _))
      hcarries row.composite rfl
    have hrow := (List.mem_filter.1 (List.mem_of_getElem? hpick)).1
    rw [← (keyed_composite h.snapshots.keyed).unique hnamed hrow hcomposite]
    exact (of_decide_eq_true hid).2.2
  | inserted hsession hstage hrow hcommitted hpending => exact .inr trivial
  | @finished index seen session message result db' hsession hstage hcharge =>
    refine .inr fun session' message' seen' hsession' hstage' hcarries row hrow => ?_
    cases hsession.symm.trans hsession'
    cases hstage.symm.trans hstage'
    obtain ⟨-, ⟨c⟩⟩ := chargeMessage_ok hcharge
    obtain ⟨id, hmessage⟩ := h.submitted session (List.mem_of_getElem? hsession) message
      (SubmitSession.pending_of_inserted hstage)
    have htenant : message.tenantId = session.submission.tenantId := by
      rw [hmessage]
      rfl
    have hnew : message.hasClientId currentDate tenantId clientId = true := by
      rw [hmessage]
      exact (session.hasClientId_row currentDate tenantId clientId id).2 hcarries
    have hmessages : db'.messages = intake.world.db.messages ++ [message] := (c.tables htenant).1
    have hcount : db'.messages.countP (MessageRow.hasClientId currentDate tenantId clientId) ≤ 1 := hone.once.messages
    rw [hmessages, List.countP_append, List.countP_singleton, if_pos hnew] at hcount
    have hzero : intake.world.db.messages.countP (MessageRow.hasClientId currentDate tenantId clientId) = 0 := by
      omega
    rw [← Bool.not_eq_true]
    exact List.countP_eq_zero.1 hzero row (List.mem_of_mem_drop hrow)
  | failed action hsession => exact .inl ⟨_, _, rfl⟩
  | handled hsubmit hworld => exact .inr trivial

end Intake

/-- In every run whose steps keep the submissions with a client message id apart, the client message id names one
message; and a step that does not keep them apart lets its submission fail or breaks that. -/
theorem one_message_per_client_id {wallets : TenantId → Option WalletRow} {intake : Intake} {currentDate : SqlDate}
    {tenantId : TenantId} {clientId : String}
    (h : Transition.Runs Intake.step (Intake.Separate currentDate tenantId clientId) (Intake.initial wallets) intake) :
    intake.OneMessage currentDate tenantId clientId ∧ ∀ action intake', intake.step action = some intake' →
      ¬ intake.Separate currentDate tenantId clientId action →
        (∃ session rest, intake' = intake.answer session rest .failed) ∨
          ¬ intake'.OneMessage currentDate tenantId clientId := by
  have hsound := Intake.Sound.of_reaches h.reaches
  refine ⟨(Intake.Apart.of_runs h).oneMessage hsound, fun action intake' hstep hapart => ?_⟩
  by_cases hone : intake'.OneMessage currentDate tenantId clientId
  · exact .inl ((hsound.separate_of_oneMessage hstep hone).resolve_right hapart)
  · exact .inr hone

namespace Sample

def identified : Submission := { submission with clientMessageId := some "id" }

/-- Two submissions without an idempotency key both look up before either commits. -/
def overlapping : List IntakeAction :=
  [.begin (clock 1) identified, .begin (clock 2) identified, .lookup 0 0, .lookup 1 0, .insert 0, .insert 1,
    .finish 0, .finish 0]

end Sample

/-- A client that repeats its request gets the message of the first one. -/
theorem one_message_per_client_id_repeated : ∃ intake,
    Transition.Runs Intake.step (Intake.Separate Sample.day Sample.tenant "id")
      (Intake.initial (Sample.wallets 100)) intake ∧ intake.answers.length = 2 ∧
        intake.OneMessage Sample.day Sample.tenant "id" := by
  have h : (Transition.execute (Transition.guarded Intake.step fun intake action =>
      match action with
      | .lookup _ _ => intake.world.db.messages.all fun row => decide (row.clientMessageId = some "id")
      | .finish _ => intake.world.db.messages.isEmpty
      | _ => true) (Intake.initial (Sample.wallets 100))
      (Sample.submits (Sample.clock 1) Sample.identified ++ [.begin (Sample.clock 2) Sample.identified, .lookup 0 0])).any
        (fun intake => decide (intake.answers.length = 2)) = true := by
    decide +kernel
  obtain ⟨intake, hrun, hanswers⟩ := (Option.any_eq_true _ _).1 h
  have hapart : Transition.Runs Intake.step (Intake.Separate Sample.day Sample.tenant "id")
      (Intake.initial (Sample.wallets 100)) intake := by
    refine (Transition.runs_of_execute hrun).mono fun intake action hguard => ?_
    cases action with
    | lookup index pick =>
      intro session row _ _ _ _ hpick
      have hrow := (List.mem_filter.1 (List.mem_of_getElem? hpick)).1
      exact of_decide_eq_true (List.all_eq_true.1 hguard row hrow)
    | finish index =>
      intro session message seen _ _ _ row hrow
      have hmem := List.mem_of_mem_drop hrow
      rw [List.isEmpty_iff.1 hguard] at hmem
      cases hmem
    | _ => trivial
  exact ⟨intake, hapart, of_decide_eq_true hanswers, (one_message_per_client_id hapart).1⟩

theorem overlapping_submissions_create_two : ∃ intake,
    Transition.Reaches Intake.step (Intake.initial (Sample.wallets 100)) intake ∧
      intake.world.db.messages.countP (MessageRow.hasClientId Sample.day Sample.tenant "id") = 2 ∧
        intake.world.db.reserveRefs.length = 2 := by
  have h : (Transition.execute Intake.step (Intake.initial (Sample.wallets 100)) Sample.overlapping).any
      (fun intake => decide (intake.world.db.messages.countP
        (MessageRow.hasClientId Sample.day Sample.tenant "id") = 2 ∧
          intake.world.db.reserveRefs.length = 2)) = true := by
    decide +kernel
  obtain ⟨intake, hrun, htwice⟩ := (Option.any_eq_true _ _).1 h
  exact ⟨intake, Transition.reaches_of_execute hrun, of_decide_eq_true htwice⟩

end SmsPlatform
