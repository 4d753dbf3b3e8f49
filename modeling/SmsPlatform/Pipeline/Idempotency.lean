import SmsPlatform.Pipeline.Intake

/-!
# One message for one submission

The unique index keeps an idempotency key to one message a day, over every interleaving of submissions and handlers
(`one_submission_per_day`).  A client message id has no index: it names one message of a day as long as no two
submissions that carry it overlap (`one_message_per_client_id`).
-/

namespace SmsPlatform

/-! ### What names a message -/

def TransactionRow.reserveRef (row : TransactionRow) : Option MessageCompositeId :=
  if row.kind = .reserve then some row.composite else none

/-- The messages that a reservation is posted for. -/
def Db.reserveRefs (db : Db) : List MessageCompositeId := db.transactions.filterMap TransactionRow.reserveRef

def OutboxRow.acceptedRef (event : OutboxRow) : Option MessageCompositeId :=
  if event.topicName = .smsAccepted then event.payload.workflow.map MessageEventPayload.toComposite else none

/-- The messages that a `message.accepted` event is enqueued for. -/
def Db.acceptedRefs (db : Db) : List MessageCompositeId := db.outbox.filterMap OutboxRow.acceptedRef

/-- Of the messages that satisfy `p` there is at most one, and it is charged and accepted at most once. -/
structure Db.AtMostOnce (db : Db) (p : MessageRow → Bool) : Prop where
  messages : db.messages.countP p ≤ 1
  reserves : db.reserveRefs.countP (fun ref => db.messages.any fun row => p row && decide (row.composite = ref)) ≤ 1
  accepted : db.acceptedRefs.countP (fun ref => db.messages.any fun row => p row && decide (row.composite = ref)) ≤ 1

/-- A list without repetition has at most one entry that names a row satisfying `p` when there is at most one row. -/
theorem countP_refs_le_one {messages : List MessageRow} {p : MessageRow → Bool} (h : messages.countP p ≤ 1)
    {refs : List MessageCompositeId} (hrefs : refs.Nodup) :
    refs.countP (fun ref => messages.any fun row => p row && decide (row.composite = ref)) ≤ 1 := by
  rw [List.countP_eq_length_filter] at h
  have hany : ∀ ref, (messages.any fun row => p row && decide (row.composite = ref)) = true ↔
      ∃ row ∈ messages.filter p, row.composite = ref := by
    intro ref
    simp only [List.any_eq_true, Bool.and_eq_true, decide_eq_true_eq, List.mem_filter, and_assoc]
  by_cases hnone : messages.filter p = []
  · have hzero : refs.countP (fun ref => messages.any fun row => p row && decide (row.composite = ref)) = 0 := by
      rw [List.countP_eq_zero]
      intro ref _ hnamed
      obtain ⟨row, hrow, -⟩ := (hany ref).1 hnamed
      rw [hnone] at hrow
      cases hrow
    omega
  · obtain ⟨only, honly⟩ : ∃ only, messages.filter p = [only] := by
      rw [← List.length_eq_one_iff]
      have hpos := List.length_pos_iff.2 hnone
      omega
    have hcount := List.nodup_iff_count_le_one.1 hrefs only.composite
    refine (List.countP_mono_left fun ref _ hnamed => ?_).trans hcount
    obtain ⟨row, hrow, hcomposite⟩ := (hany ref).1 hnamed
    rw [honly, List.mem_singleton] at hrow
    rw [← hcomposite, hrow]
    exact beq_self_eq_true _

/-! ### What the handlers leave alone -/

section Frame

variable {db db' : Db} {clock : TxClock}

theorem Db.acceptedRefs_enqueue {event : OutboxEventInput} (h : event.topicName ≠ .smsAccepted) :
    (db.enqueue clock event).acceptedRefs = db.acceptedRefs := by
  unfold Db.acceptedRefs
  rcases db.enqueue_outbox clock event with ⟨-, ho, -⟩ | ⟨-, ho, -⟩
  · rw [ho]
  · have hnone : (event.row clock db.outbox.length).acceptedRef = none := if_neg h
    rw [ho, List.filterMap_append, List.filterMap_cons, hnone, List.filterMap_nil, List.append_nil]

theorem Db.reserveRefs_enqueue (event : OutboxEventInput) : (db.enqueue clock event).reserveRefs = db.reserveRefs := by
  unfold Db.reserveRefs
  rw [Db.enqueue_transactions]

/-- The columns written once, the reservations and the accepted messages are the same. -/
structure Quiet (db db' : Db) : Prop where
  contents : db'.messages.map MessageRow.content = db.messages.map MessageRow.content
  nextMessageId : db'.nextMessageId = db.nextMessageId
  reserveRefs : db'.reserveRefs = db.reserveRefs
  acceptedRefs : db'.acceptedRefs = db.acceptedRefs

theorem Quiet.refl (db : Db) : Quiet db db := ⟨rfl, rfl, rfl, rfl⟩

theorem Quiet.enqueue {event : OutboxEventInput} (h : event.topicName ≠ .smsAccepted) :
    Quiet db (db.enqueue clock event) :=
  ⟨by rw [Db.enqueue_messages], db.enqueue_nextMessageId clock event, Db.reserveRefs_enqueue event,
    Db.acceptedRefs_enqueue h⟩

theorem Quiet.of_tables {db₁ : Db} (h : Quiet db db₁) (hm : db'.messages = db₁.messages)
    (hn : db'.nextMessageId = db₁.nextMessageId) (ht : db'.transactions = db₁.transactions)
    (ho : db'.outbox = db₁.outbox) : Quiet db db' := by
  refine ⟨by rw [hm, h.contents], hn.trans h.nextMessageId, ?_, ?_⟩
  · rw [← h.reserveRefs, Db.reserveRefs, ht, Db.reserveRefs]
  · rw [← h.acceptedRefs, Db.acceptedRefs, ho, Db.acceptedRefs]

end Frame

namespace Stage

variable {env : Environment} {stage : Stage} {work : GuardedWork} {next : MessageRow → Option Stage}

theorem WorkOf.not_accepted (h : WorkOf env stage work next) {updated : MessageRow} {input : OutboxEventInput}
    (hin : work.followUp updated = .event input) : input.topicName ≠ .smsAccepted := by
  have hdispatch : ∀ trafficType, dispatchTopicFor trafficType ≠ .smsAccepted := by
    intro trafficType
    cases trafficType <;> decide
  cases h with
  | accepted job route hroute =>
    cases hin
    exact hdispatch _
  | throttle job haction =>
    cases hin
    exact KafkaTopic.noConfusion
  | unknown job =>
    cases hin
    exact KafkaTopic.noConfusion
  | retrySubmit job retryPolicy nextRoute hpolicy hretry =>
    cases hin
    exact KafkaTopic.noConfusion
  | attempt job => cases hin
  | ack job haccepted => cases hin
  | failure job => cases hin
  | delivered report message hstatus => cases hin
  | dlrFailed report message hstatus => cases hin

theorem EventOf.not_accepted {input : OutboxEventInput} (h : EventOf stage input) : input.topicName ≠ .smsAccepted := by
  cases h with
  | retry job =>
    show dispatchTopicFor job.message.trafficType ≠ .smsAccepted
    cases job.message.trafficType <;> decide
  | dispatched job submittingVersion execution => exact KafkaTopic.noConfusion

theorem WorkOf.not_reserve (h : WorkOf env stage work next) {billing : Billing} (hb : work.billing = some billing) :
    billing.operation ≠ .reserve := by
  cases h with
  | ack job haccepted =>
    cases hb
    exact BillingOperation.noConfusion
  | failure job =>
    cases hb
    exact BillingOperation.noConfusion
  | dlrFailed report message hstatus =>
    unfold dlrFailedWork at hb
    dsimp only at hb
    split at hb <;> cases hb
    exact BillingOperation.noConfusion
  | accepted job route hroute => cases hb
  | throttle job haction => cases hb
  | attempt job => cases hb
  | unknown job => cases hb
  | retrySubmit job retryPolicy nextRoute hpolicy hretry => cases hb
  | delivered report message hstatus => cases hb

end Stage

/-- A ledger call that is no reservation. -/
theorem LedgerEffect.reserveRefs {clock : TxClock} {tenantId : TenantId} {amountMinor : Int}
    {operation : BillingOperation} {idempotencyKey : String} {messageRef : MessageCompositeId} {db db' : Db}
    {posted : Bool} (h : LedgerEffect clock tenantId amountMinor operation idempotencyKey messageRef db posted db')
    (hoperation : operation ≠ .reserve) : db'.reserveRefs = db.reserveRefs := by
  cases h with
  | skipped _ => rfl
  | applied wallet after hpos hkey hwallet hafter =>
    have hnone : (ledgerRow clock.currentDate tenantId amountMinor operation idempotencyKey messageRef wallet
        after).reserveRef = none := if_neg hoperation
    unfold Db.reserveRefs
    dsimp only
    rw [List.filterMap_append, List.filterMap_cons, hnone, List.filterMap_nil, List.append_nil]

/-- A reservation of a message of the tenant. -/
theorem LedgerEffect.reserveRefs_reserve {clock : TxClock} {tenantId : TenantId} {amountMinor : Int}
    {idempotencyKey : String} {messageRef : MessageCompositeId} {db db' : Db} {posted : Bool}
    (h : LedgerEffect clock tenantId amountMinor .reserve idempotencyKey messageRef db posted db')
    (htenant : messageRef.tenantId = tenantId) :
    db'.reserveRefs = db.reserveRefs ∨ db'.reserveRefs = db.reserveRefs ++ [messageRef] := by
  cases h with
  | skipped _ => exact .inl rfl
  | applied wallet after hpos hkey hwallet hafter =>
    right
    unfold Db.reserveRefs
    dsimp only
    rw [List.filterMap_append, ← htenant]
    rfl

theorem GuardedWork.Committed.quiet {env : Environment} {stage : Stage} {work : GuardedWork}
    {next : MessageRow → Option Stage} {db db' : Db} {updated : MessageRow} (hw : Stage.WorkOf env stage work next)
    (c : work.Committed env.clock db updated db') : Quiet db db' := by
  have hcontent : updated.content = c.old.content := by
    have hstep := hw.rowStep (guardedBy_eq_true.1 c.guard).2.1
    rw [← c.updated_eq] at hstep
    exact hstep.content
  have hbilled : c.billed.reserveRefs = db.reserveRefs := by
    cases hb : work.billing with
    | none => rw [c.bill.of_none hb]; rfl
    | some billing =>
      obtain ⟨posted, effect⟩ := c.bill.of_some hb
      exact effect.reserveRefs (hw.not_reserve hb)
  have hreserve : db'.reserveRefs = c.billed.reserveRefs := by
    have hdb := congrArg Db.reserveRefs c.db_eq
    exact hdb.trans (congrArg (List.filterMap _) (GuardedWork.finish_transactions updated c.billed))
  refine ⟨?_, c.nextMessageId_eq, hreserve.trans hbilled, ?_⟩
  · rw [c.messages_eq, c.messages, List.map_append, List.map_append, List.map_cons, List.map_cons, hcontent]
  · have hframe := congrArg Db.outbox c.bill.frame
    have houtbox : c.billed.outbox = db.outbox := hframe
    have hsame : c.billed.acceptedRefs = db.acceptedRefs := congrArg (List.filterMap _) houtbox
    have hdb := congrArg Db.acceptedRefs c.db_eq
    refine (hdb.trans ?_).trans hsame
    unfold GuardedWork.finish
    cases hf : work.followUp updated with
    | nothing => rfl
    | event input => exact Db.acceptedRefs_enqueue (hw.not_accepted hf)
    | webhook report message => rfl

theorem Stage.Advanced.quiet {env : Environment} {db db' : Db} {stage : Stage} {next : Option Stage}
    (h : Stage.Advanced env db stage next db') : Quiet db db' := by
  cases h with
  | work hw c => exact c.quiet hw
  | event h => exact .enqueue h.not_accepted
  | read h => exact .refl db
  | side h =>
    cases h with
    | reconcile report message reason extra =>
      have henqueued : Quiet db (db.enqueue env.clock (dlrReconcileEvent env.printer report reason extra)) :=
        .enqueue KafkaTopic.noConfusion
      exact henqueued.of_tables rfl rfl rfl rfl
    | duplicate report message reason => exact (Quiet.refl db).of_tables rfl rfl rfl rfl
    | record payload => exact (Quiet.refl db).of_tables rfl rfl rfl rfl

/-- Handlers and webhooks leave the columns written once, the reservations and the accepted messages alone. -/
theorem World.Stepped.quiet {world world' : World} {action : Action} (h : World.Stepped world action world')
    (hsubmit : ∀ clock submission, action ≠ .submit clock submission) : Quiet world.db world'.db := by
  have htransacted := h.transacted
  clear h
  generalize world'.db = db' at htransacted ⊢
  cases htransacted with
  | same a => exact .refl world.db
  | created c => exact absurd rfl (hsubmit _ _)
  | @webhook clock printer input db' h =>
    obtain ⟨row, webhooks, nextId, rfl⟩ := acceptWebhook_ok h
    have henqueued : Quiet { world.db with dlrWebhooks := webhooks, nextWebhookId := nextId } (Db.enqueue
        { world.db with dlrWebhooks := webhooks, nextWebhookId := nextId } clock (dlrReceivedEvent printer input row)) :=
      .enqueue KafkaTopic.noConfusion
    exact ⟨henqueued.contents, henqueued.nextMessageId, henqueued.reserveRefs, henqueued.acceptedRefs⟩
  | advanced hexec hadvance => exact hadvance.quiet

/-- What the rest of a submission does after its INSERT: it posts at most one reservation and enqueues at most one
`message.accepted` event, both for its own message. -/
theorem Charged.tables {clock : TxClock} {submission : Submission} {message : MessageRow} {db db' : Db}
    (c : Charged clock submission message db db') (htenant : message.tenantId = submission.tenantId) :
    db'.messages = db.messages ∧ db'.nextMessageId = db.nextMessageId ∧
      (db'.reserveRefs = db.reserveRefs ∨ db'.reserveRefs = db.reserveRefs ++ [message.composite]) ∧
      (db'.acceptedRefs = db.acceptedRefs ∨ db'.acceptedRefs = db.acceptedRefs ++ [message.composite]) := by
  have hframe := c.bill.frame
  have hmessages := congrArg Db.messages hframe
  have hnext := congrArg Db.nextMessageId hframe
  have houtbox := congrArg Db.outbox hframe
  rw [c.db_eq]
  refine ⟨?_, ?_, ?_, ?_⟩
  · rw [Db.enqueue_messages]
    exact hmessages
  · rw [Db.enqueue_nextMessageId]
    exact hnext
  · rw [Db.reserveRefs_enqueue]
    exact c.bill.reserveRefs_reserve htenant
  · unfold Db.acceptedRefs
    rcases (c.reserved.insertLog (logRow message.composite "api_accepted" none (some .accepted)
      (some submission.routePreview.providerId) none 0)).enqueue_outbox clock (acceptedEvent submission message) with
        ⟨-, ho, -⟩ | ⟨-, ho, -⟩
    · rw [ho]
      exact .inl (congrArg _ houtbox)
    · rw [ho, List.filterMap_append]
      exact .inr (congrArg (· ++ _) (congrArg _ houtbox))

/-! ### The invariant -/

def MessageContent.composite (content : MessageContent) : MessageCompositeId :=
  ⟨content.submitDate, content.tenantId, content.id⟩

/-- The columns of `uq_messages_api_idempotency`, unless the key is NULL. -/
def MessageContent.idempotency (content : MessageContent) : Option (SqlDate × TenantId × String) :=
  content.apiIdempotencyKey.map fun key => (content.submitDate, content.tenantId, key)

def SubmitOutcome.createdRef : SubmitOutcome → Option MessageCompositeId
  | .created message => some message
  | _ => none

namespace Intake

/-- The rows that are in the table or will be when the open transactions commit. -/
def contents (intake : Intake) : List MessageContent :=
  (intake.world.db.messages ++ intake.pending).map MessageRow.content

def composites (intake : Intake) : List MessageCompositeId := intake.world.db.messages.map MessageRow.composite

/-- The messages that submissions have created. -/
def created (intake : Intake) : List MessageCompositeId :=
  intake.answers.filterMap fun answer => answer.outcome.createdRef

structure Sound (intake : Intake) : Prop where
  snapshots : Snapshots intake.world
  keyed : (intake.contents.map MessageContent.id).Nodup
  fresh : ∀ content ∈ intake.contents, content.id < intake.world.db.nextMessageId
  unique : (intake.contents.filterMap MessageContent.idempotency).Nodup
  submitted : ∀ session ∈ intake.sessions, ∀ message, session.pending = some message →
    ∃ id, message = session.submission.row session.clock id
  reserves : intake.world.db.reserveRefs.Nodup ∧ ∀ ref ∈ intake.world.db.reserveRefs, ref ∈ intake.composites
  accepted : intake.world.db.acceptedRefs.Nodup ∧ ∀ ref ∈ intake.world.db.acceptedRefs, ref ∈ intake.composites
  created : intake.created = intake.composites

variable {intake intake' : Intake}

namespace Sound

theorem initial (wallets : TenantId → Option WalletRow) : Sound (Intake.initial wallets) := by
  refine ⟨Snapshots.initial wallets, List.nodup_nil, ?_, List.nodup_nil, ?_, ⟨List.nodup_nil, ?_⟩,
    ⟨List.nodup_nil, ?_⟩, rfl⟩
  all_goals
    intro x h
    cases h

theorem created_answer (intake : Intake) (session : SubmitSession) (rest : List SubmitSession)
    (outcome : SubmitOutcome) :
    (intake.answer session rest outcome).created = intake.created ++ outcome.createdRef.toList := by
  unfold Intake.created answer
  rw [List.filterMap_append, List.filterMap_cons, List.filterMap_nil]
  cases outcome <;> rfl

/-- Sessions change, and what they have inserted stays or goes. -/
theorem resume (h : intake.Sound) (dropped : List MessageRow) {sessions : List SubmitSession}
    {answers : List SubmitAnswer} (hpending : intake.pending.Perm (dropped ++ sessions.filterMap SubmitSession.pending))
    (hsubmitted : ∀ session ∈ sessions, ∀ message, session.pending = some message →
      ∃ id, message = session.submission.row session.clock id)
    (hanswers : Intake.created { intake with answers := answers } = intake.created) :
    Sound { intake with sessions := sessions, answers := answers } := by
  have hperm : intake.contents.Perm ((intake.world.db.messages ++ (dropped ++
      sessions.filterMap SubmitSession.pending)).map MessageRow.content) :=
    (hpending.append_left _).map _
  have hsub : (Intake.contents { intake with sessions := sessions, answers := answers }).Sublist
      ((intake.world.db.messages ++ (dropped ++ sessions.filterMap SubmitSession.pending)).map MessageRow.content) :=
    ((List.sublist_append_right dropped _).append_left _).map _
  refine ⟨h.snapshots, ?_, ?_, ?_, hsubmitted, h.reserves, h.accepted, hanswers.trans h.created⟩
  · exact ((hperm.map _).nodup_iff.1 h.keyed).sublist (hsub.map _)
  · intro content hcontent
    exact h.fresh content (hperm.mem_iff.2 (hsub.mem hcontent))
  · exact ((hperm.filterMap _).nodup_iff.1 h.unique).sublist (hsub.filterMap _)

theorem pending_perm {index : Nat} {session : SubmitSession} (hsession : intake.sessions[index]? = some session) :
    intake.pending.Perm (session.pending.toList ++
      (intake.sessions.eraseIdx index).filterMap SubmitSession.pending) := by
  have hperm := (Rows.perm_cons_eraseIdx hsession).filterMap SubmitSession.pending
  unfold Intake.pending
  cases hp : session.pending with
  | none => rwa [List.filterMap_cons_none hp] at hperm
  | some message => rwa [List.filterMap_cons_some hp] at hperm

/-- A session ends without a new message. -/
theorem drop (h : intake.Sound) {index : Nat} {session : SubmitSession}
    (hsession : intake.sessions[index]? = some session) {outcome : SubmitOutcome} (houtcome : outcome.createdRef = none) :
    Sound (intake.answer session (intake.sessions.eraseIdx index) outcome) := by
  refine h.resume _ (pending_perm hsession) ?_ ?_
  · intro other hother
    exact h.submitted other (List.mem_of_mem_eraseIdx hother)
  · have hcreated := created_answer intake session (intake.sessions.eraseIdx index) outcome
    rw [houtcome] at hcreated
    exact hcreated.trans (List.append_nil _)

theorem begin (h : intake.Sound) (clock : TxClock) (submission : Submission) :
    Sound { intake with sessions := ⟨clock, submission, .begun⟩ :: intake.sessions } := by
  refine h.resume [] (List.Perm.refl _) ?_ rfl
  intro other hother message hmessage
  rcases List.mem_cons.1 hother with rfl | hother
  · cases hmessage
  · exact h.submitted other hother message hmessage

theorem clear (h : intake.Sound) {index : Nat} {session : SubmitSession}
    (hsession : intake.sessions[index]? = some session) (seen : Nat) :
    Sound { intake with
      sessions := { session with stage := .cleared seen } :: intake.sessions.eraseIdx index } := by
  refine h.resume _ (pending_perm hsession) ?_ rfl
  intro other hother message hmessage
  rcases List.mem_cons.1 hother with rfl | hother
  · cases hmessage
  · exact h.submitted other (List.mem_of_mem_eraseIdx hother) message hmessage

theorem collides_eq_false {row other : MessageRow} (h : row.collides other = false) {key : SqlDate × TenantId × String}
    (hrow : row.content.idempotency = some key) : other.content.idempotency ≠ some key := by
  intro hother
  obtain ⟨text, htext, rfl⟩ := Option.map_eq_some_iff.1 hrow
  obtain ⟨text', htext', heq⟩ := Option.map_eq_some_iff.1 hother
  simp only [Prod.mk.injEq] at heq
  obtain ⟨hdate, htenant, rfl⟩ := heq
  have hrow : row.apiIdempotencyKey = some text' := htext
  have hother : other.apiIdempotencyKey = some text' := htext'
  unfold MessageRow.collides at h
  rw [hrow, hother] at h
  simp only [Option.isSome_some, Bool.true_and, decide_eq_false_iff_not] at h
  exact h ⟨hdate, htenant, trivial⟩

theorem insert (h : intake.Sound) {index seen : Nat} {session : SubmitSession} {row : MessageRow}
    (hsession : intake.sessions[index]? = some session) (hstage : session.stage = .cleared seen)
    (hrow : row = session.submission.row session.clock intake.world.db.nextMessageId)
    (hcommitted : ∀ other ∈ intake.world.db.messages, row.collides other = false)
    (hpending : ∀ other ∈ (intake.sessions.eraseIdx index).filterMap SubmitSession.pending,
      row.collides other = false) :
    Sound { intake with
      world := { intake.world with
        db := { intake.world.db with nextMessageId := intake.world.db.nextMessageId + 1 } }
      sessions := { session with stage := .inserted row seen } :: intake.sessions.eraseIdx index } := by
  have hid : row.content.id = intake.world.db.nextMessageId := by rw [hrow]; rfl
  have hnone : session.pending = none := by
    unfold SubmitSession.pending
    rw [hstage]
  have hperm := pending_perm hsession
  rw [hnone, Option.toList_none, List.nil_append] at hperm
  have hcontents : (Intake.contents { intake with
      world := { intake.world with
        db := { intake.world.db with nextMessageId := intake.world.db.nextMessageId + 1 } }
      sessions := { session with stage := .inserted row seen } :: intake.sessions.eraseIdx index }).Perm
      (row.content :: intake.contents) := by
    have hrows := (hperm.symm.cons row).append_left intake.world.db.messages
    exact (hrows.trans List.perm_middle).map MessageRow.content
  have hfree : ∀ content ∈ intake.contents, ∀ key, row.content.idempotency = some key →
      content.idempotency ≠ some key := by
    intro content hcontent key hkey
    obtain ⟨other, hother, rfl⟩ := List.mem_map.1 hcontent
    rcases List.mem_append.1 hother with hother | hother
    · exact collides_eq_false (hcommitted other hother) hkey
    · exact collides_eq_false (hpending other (hperm.mem_iff.1 hother)) hkey
  refine ⟨⟨h.snapshots.keyed, fun other hother => (h.snapshots.fresh other hother).trans (Nat.lt_succ_self _),
    h.snapshots.held⟩, ?_, ?_, ?_, ?_, h.reserves, h.accepted, h.created⟩
  · rw [(hcontents.map _).nodup_iff, List.map_cons, List.nodup_cons]
    refine ⟨fun hmem => ?_, h.keyed⟩
    obtain ⟨content, hcontent, heq⟩ := List.mem_map.1 hmem
    have hlt := h.fresh content hcontent
    omega
  · intro content hcontent
    show content.id < intake.world.db.nextMessageId + 1
    rcases List.mem_cons.1 (hcontents.mem_iff.1 hcontent) with rfl | hcontent
    · omega
    · have hlt := h.fresh content hcontent
      omega
  · rw [(hcontents.filterMap _).nodup_iff]
    cases hkey : row.content.idempotency with
    | none =>
      rw [List.filterMap_cons_none hkey]
      exact h.unique
    | some key =>
      rw [List.filterMap_cons_some hkey, List.nodup_cons]
      refine ⟨fun hmem => ?_, h.unique⟩
      obtain ⟨content, hcontent, heq⟩ := List.mem_filterMap.1 hmem
      exact hfree content hcontent key hkey heq
  · intro other hother message hmessage
    rcases List.mem_cons.1 hother with rfl | hother
    · cases hmessage
      exact ⟨_, hrow⟩
    · exact h.submitted other (List.mem_of_mem_eraseIdx hother) message hmessage

/-- One more message, which is named at most once. -/
theorem refs_grow {refs refs' composites : List MessageCompositeId} {ref : MessageCompositeId}
    (h : refs.Nodup ∧ ∀ r ∈ refs, r ∈ composites) (hfresh : ref ∉ composites)
    (hrefs : refs' = refs ∨ refs' = refs ++ [ref]) : refs'.Nodup ∧ ∀ r ∈ refs', r ∈ composites ++ [ref] := by
  rcases hrefs with rfl | rfl
  · exact ⟨h.1, fun r hr => List.mem_append_left _ (h.2 r hr)⟩
  · refine ⟨?_, fun r hr => ?_⟩
    · rw [List.nodup_append]
      refine ⟨h.1, List.nodup_singleton _, ?_⟩
      rintro r hr s hs rfl
      rw [List.mem_singleton] at hs
      exact hfresh (h.2 ref (hs ▸ hr))
    · rcases List.mem_append.1 hr with hr | hr
      · exact List.mem_append_left _ (h.2 r hr)
      · exact List.mem_append_right _ hr

theorem finish (h : intake.Sound) {index : Nat} {session : SubmitSession} {message : MessageRow} {db' : Db}
    (hsession : intake.sessions[index]? = some session) (hpending : session.pending = some message)
    (c : Charged session.clock session.submission message
      { intake.world.db with messages := intake.world.db.messages ++ [message] } db') :
    Sound ({ intake with world := { intake.world with db := db' } }.answer session (intake.sessions.eraseIdx index)
      (.created message.composite)) := by
  have htenant : message.tenantId = session.submission.tenantId := by
    obtain ⟨id, hrow⟩ := h.submitted session (List.mem_of_getElem? hsession) message hpending
    rw [hrow]
    rfl
  obtain ⟨hmessages, hnext, hreserves, haccepted⟩ := c.tables htenant
  have hmessages : db'.messages = intake.world.db.messages ++ [message] := hmessages
  have hperm := pending_perm hsession
  rw [hpending, Option.toList_some] at hperm
  have hcontents : (Intake.contents ({ intake with world := { intake.world with db := db' } }.answer session
      (intake.sessions.eraseIdx index) (.created message.composite))).Perm intake.contents := by
    have hrows := hperm.symm.append_left intake.world.db.messages
    rw [← List.append_assoc, ← hmessages] at hrows
    exact hrows.map MessageRow.content
  have hcomposites : Intake.composites ({ intake with world := { intake.world with db := db' } }.answer session
      (intake.sessions.eraseIdx index) (.created message.composite)) = intake.composites ++ [message.composite] := by
    show db'.messages.map MessageRow.composite = _
    rw [hmessages, List.map_append]
    rfl
  -- the ids of the table and of what is pending are different
  have hfresh : ∀ row ∈ intake.world.db.messages, row.id ≠ message.id := by
    have hkeyed := h.keyed
    unfold Intake.contents at hkeyed
    rw [List.map_append, List.map_append, List.nodup_append] at hkeyed
    intro row hrow heq
    refine hkeyed.2.2 row.id ?_ message.id ?_ heq
    · exact List.mem_map.2 ⟨row.content, List.mem_map_of_mem hrow, rfl⟩
    · refine List.mem_map.2 ⟨message.content, List.mem_map_of_mem (hperm.mem_iff.2 ?_), rfl⟩
      exact List.mem_append_left _ (List.mem_singleton_self message)
  have hnew : message.composite ∉ intake.composites := by
    intro hmem
    obtain ⟨row, hrow, heq⟩ := List.mem_map.1 hmem
    exact hfresh row hrow (congrArg MessageCompositeId.id heq)
  refine ⟨⟨?_, ?_, ?_⟩, ?_, ?_, ?_, ?_, ?_, ?_, ?_⟩
  · show Rows.Keyed MessageRow.id db'.messages
    rw [hmessages]
    exact h.snapshots.keyed.append_fresh hfresh
  · intro row hrow
    show row.id < db'.nextMessageId
    have hrow : row ∈ db'.messages := hrow
    rw [hmessages, List.mem_append, List.mem_singleton] at hrow
    rw [hnext]
    refine h.fresh row.content (List.mem_map_of_mem ?_)
    rcases hrow with hrow | rfl
    · exact List.mem_append_left _ hrow
    · exact List.mem_append_right _ (hperm.mem_iff.2 (List.mem_append_left _ (List.mem_singleton_self row)))
  · intro execution he snapshot hsnapshot
    obtain ⟨current, hcurrent, hearlier⟩ := h.snapshots.held execution he snapshot hsnapshot
    refine ⟨current, ?_, hearlier⟩
    show current ∈ db'.messages
    rw [hmessages]
    exact List.mem_append_left _ hcurrent
  · exact (hcontents.map _).nodup_iff.2 h.keyed
  · intro content hcontent
    show content.id < db'.nextMessageId
    rw [hnext]
    exact h.fresh content (hcontents.mem_iff.1 hcontent)
  · exact (hcontents.filterMap _).nodup_iff.2 h.unique
  · intro other hother
    exact h.submitted other (List.mem_of_mem_eraseIdx hother)
  · rw [hcomposites]
    exact refs_grow h.reserves hnew hreserves
  · rw [hcomposites]
    exact refs_grow h.accepted hnew haccepted
  · rw [hcomposites, created_answer]
    show intake.created ++ _ = _
    rw [h.created]
    rfl

theorem composites_eq (intake : Intake) :
    intake.composites = (intake.world.db.messages.map MessageRow.content).map MessageContent.composite := by
  unfold composites
  rw [List.map_map]
  rfl

theorem handle (h : intake.Sound) {action : Action} {world : World}
    (hsubmit : ∀ clock submission, action ≠ .submit clock submission)
    (hstep : intake.world.step action = some world) : Sound { intake with world := world } := by
  have hquiet := (World.step_cases (keyed_composite h.snapshots.keyed) hstep).quiet hsubmit
  have hcontents : Intake.contents { intake with world := world } = intake.contents := by
    unfold Intake.contents
    rw [List.map_append, List.map_append, hquiet.contents]
    rfl
  have hcomposites : Intake.composites { intake with world := world } = intake.composites := by
    rw [composites_eq, composites_eq, ← hquiet.contents]
  refine ⟨h.snapshots.step hstep, ?_, ?_, ?_, h.submitted, ?_, ?_, ?_⟩
  · rw [hcontents]
    exact h.keyed
  · rw [hcontents, hquiet.nextMessageId]
    exact h.fresh
  · rw [hcontents]
    exact h.unique
  · rw [hcomposites, hquiet.reserveRefs]
    exact h.reserves
  · rw [hcomposites, hquiet.acceptedRefs]
    exact h.accepted
  · rw [hcomposites]
    exact h.created

theorem step (h : intake.Sound) {action : IntakeAction} (hstep : intake.step action = some intake') :
    intake'.Sound := by
  cases step_cases hstep with
  | begun clock submission => exact h.begin clock submission
  | cleared pick hsession hnone => exact h.clear hsession _
  | found hsession hstage hlooks hpick => exact h.drop hsession rfl
  | inserted hsession hstage hrow hcommitted hpending => exact h.insert hsession hstage hrow hcommitted hpending
  | finished hsession hstage hcharge =>
    obtain ⟨-, ⟨c⟩⟩ := chargeMessage_ok hcharge
    exact h.finish hsession (SubmitSession.pending_of_inserted hstage) c
  | failed action hsession => exact h.drop hsession rfl
  | handled hsubmit hworld => exact h.handle hsubmit hworld

theorem of_reaches {wallets : TenantId → Option WalletRow}
    (h : Transition.Reaches Intake.step (Intake.initial wallets) intake) : intake.Sound :=
  h.invariant (Sound.initial wallets) fun _ _ _ hsound _ hstep => hsound.step hstep

theorem atMostOnce (h : intake.Sound) {p : MessageRow → Bool} (hp : intake.world.db.messages.countP p ≤ 1) :
    intake.world.db.AtMostOnce p :=
  ⟨hp, countP_refs_le_one hp h.reserves.1, countP_refs_le_one hp h.accepted.1⟩

end Sound

end Intake

/-! ### The idempotency key -/

/-- The message carries the idempotency key on the day. -/
def MessageRow.hasKey (currentDate : SqlDate) (tenantId : TenantId) (key : String) (row : MessageRow) : Bool :=
  decide (row.submitDate = currentDate ∧ row.tenantId = tenantId ∧ row.apiIdempotencyKey = some key)

theorem MessageContent.idempotency_of_hasKey {currentDate : SqlDate} {tenantId : TenantId} {key : String}
    {row : MessageRow} (h : row.hasKey currentDate tenantId key = true) :
    row.content.idempotency = some (currentDate, tenantId, key) := by
  obtain ⟨rfl, rfl, hkey⟩ := of_decide_eq_true h
  show row.apiIdempotencyKey.map _ = _
  rw [hkey]
  rfl

/-- However many submissions carry an idempotency key, one after the other or overlapping, on one day they create,
charge and accept at most one message. -/
theorem one_submission_per_day {wallets : TenantId → Option WalletRow} {intake : Intake}
    (h : Transition.Reaches Intake.step (Intake.initial wallets) intake) (currentDate : SqlDate) (tenantId : TenantId)
    (key : String) : intake.world.db.AtMostOnce (MessageRow.hasKey currentDate tenantId key) := by
  have hsound := Intake.Sound.of_reaches h
  refine hsound.atMostOnce ?_
  have hunique := hsound.unique
  unfold Intake.contents at hunique
  rw [List.map_append, List.filterMap_append, List.filterMap_map] at hunique
  have hcount := List.nodup_iff_count_le_one.1 (List.nodup_append.1 hunique).1 (currentDate, tenantId, key)
  rw [List.count_filterMap] at hcount
  refine (List.countP_mono_left fun row _ hkey => ?_).trans hcount
  rw [beq_iff_eq]
  exact MessageContent.idempotency_of_hasKey hkey

namespace Sample

/-- The statements of a submission that finds no earlier one. -/
def submits (clock : TxClock) (submission : Submission) : List IntakeAction :=
  [.begin clock submission, .lookup 0 0, .insert 0, .finish 0]

def keyed : Submission := { submission with idempotencyKey := some "key" }

/-- The client repeats its request after midnight. -/
def repeatedOvernight : List IntakeAction := submits (clock 1) keyed ++ submits ⟨2, nextDay, 2⟩ keyed

end Sample

theorem one_submission_per_day_repeated : ∃ intake,
    Transition.Reaches Intake.step (Intake.initial (Sample.wallets 100)) intake ∧ intake.answers.length = 2 ∧
      intake.world.db.AtMostOnce (MessageRow.hasKey Sample.day Sample.tenant "key") := by
  have h : (Transition.execute Intake.step (Intake.initial (Sample.wallets 100))
      (Sample.submits (Sample.clock 1) Sample.keyed ++ [.begin (Sample.clock 2) Sample.keyed, .lookup 0 0])).any
        (fun intake => decide (intake.answers.length = 2)) = true := by
    decide +kernel
  obtain ⟨intake, hrun, hanswers⟩ := (Option.any_eq_true _ _).1 h
  have hreach := Transition.reaches_of_execute hrun
  exact ⟨intake, hreach, of_decide_eq_true hanswers, one_submission_per_day hreach Sample.day Sample.tenant "key"⟩

theorem key_repeated_overnight : ∃ intake,
    Transition.Reaches Intake.step (Intake.initial (Sample.wallets 100)) intake ∧
      intake.world.db.messages.countP (fun row => decide (row.tenantId = Sample.tenant ∧
        row.apiIdempotencyKey = some "key")) = 2 ∧ intake.world.db.reserveRefs.length = 2 ∧
          intake.world.db.acceptedRefs.length = 2 := by
  have h : (Transition.execute Intake.step (Intake.initial (Sample.wallets 100)) Sample.repeatedOvernight).any
      (fun intake => decide (intake.world.db.messages.countP (fun row => decide (row.tenantId = Sample.tenant ∧
        row.apiIdempotencyKey = some "key")) = 2 ∧ intake.world.db.reserveRefs.length = 2 ∧
          intake.world.db.acceptedRefs.length = 2)) = true := by
    decide +kernel
  obtain ⟨intake, hrun, htwice⟩ := (Option.any_eq_true _ _).1 h
  exact ⟨intake, Transition.reaches_of_execute hrun, of_decide_eq_true htwice⟩

end SmsPlatform
