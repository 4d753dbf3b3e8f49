import SmsPlatform.Pipeline.Budget

/-!
# The workflow of a message ends

How many events a message can have when every event is handled once and no retry policy allows more than `bound`
attempts.  An attempt costs three events, the one that leads to it, its result and the retry that follows; a throttle of
the fraud rules costs two.  The unconsumed event of a message is its turn (`Turn`): it knows how far the events of the
message are ahead of its attempts, and an attempt that has been opened pays for three of them.
-/

namespace SmsPlatform

/-! ### Events of a message -/

/-- The row is the event of a throttle verdict on this message. -/
def OutboxRow.throttles (row : OutboxRow) (composite : MessageCompositeId) : Bool :=
  row.workflowFor composite && row.payload.workflow.any fun payload =>
    decide (row.dedupeKey = workflowKey composite .fraudThrottle payload.version)

/-- The workflow events that a message has had. -/
def World.eventsOf (world : World) (composite : MessageCompositeId) : Nat :=
  world.db.outbox.countP fun row => row.workflowFor composite

def World.throttlesOf (world : World) (composite : MessageCompositeId) : Nat :=
  world.db.outbox.countP fun row => row.throttles composite

/-- How far the events of a message are ahead of its attempts while its event is on this topic. -/
def KafkaTopic.lead (topic : KafkaTopic) : Nat :=
  if topic.isDispatch then 2 else if topic = .smsDispatchResults then 0 else 1

theorem KafkaTopic.lead_le (topic : KafkaTopic) : topic.lead ≤ 2 := by
  cases topic <;> decide

theorem OutboxRow.throttles_imp {row : OutboxRow} {composite : MessageCompositeId}
    (h : row.throttles composite = true) : row.workflowFor composite = true := by
  unfold OutboxRow.throttles at h
  exact (Bool.and_eq_true _ _ ▸ h).1

/-- The turn of a message: its event has not led to an attempt yet, or has opened one that is not reported. -/
inductive Turn (bound : Int) (world : World) (row : OutboxRow) (message : MessageRow) : Prop
  | waiting (hidle : ¬ world.Spent row.id)
      (howed : world.eventsOf message.composite ≤
        3 * message.attemptCount + row.topicName.lead + 2 * world.throttlesOf message.composite)
      (hallowed : row.topicName ≠ .smsDispatchResults → (message.attemptCount : Int) + 1 ≤ max 1 bound)
  | opened (hspent : world.Spent row.id)
      (howed : world.eventsOf message.composite + 1 ≤
        3 * message.attemptCount + 2 * world.throttlesOf message.composite)

structure Metered (bound : Int) (world : World) : Prop where
  turn : ∀ row ∈ world.db.outbox, row.id ∉ world.consumed → ∀ message ∈ world.db.messages,
    row.workflowFor message.composite = true → Turn bound world row message
  bounded : ∀ message ∈ world.db.messages,
    (world.eventsOf message.composite : Int) ≤ 3 * max 1 bound + 2 * world.throttlesOf message.composite

theorem Metered.initial (bound : Int) (wallets : TenantId → Option WalletRow) :
    Metered bound (World.initial wallets) where
  turn := by
    intro row hrow
    cases hrow
  bounded := by
    intro message hm
    cases hm

section Step

variable {bound : Int} {world world' : World} {a : Action}

/-! ### Attempts of a step -/

/-- A row of the table after a step that opens no attempt counts what it did. -/
inductive Uncounted (world : World) (message' : MessageRow) : Prop
  | fresh (hid : message'.id = world.db.nextMessageId) (hcount : message'.attemptCount = 0)
  | same {message : MessageRow} (hm : message ∈ world.db.messages) (hc : message.composite = message'.composite)
      (hcount : message.attemptCount = message'.attemptCount)

/-- What a step does to the attempts: it opens one, or leaves them alone. -/
inductive MeterStep (world world' : World) : Prop
  | quiet (hspent : ∀ event, world'.Spent event → world.Spent event)
      (hcount : ∀ message' ∈ world'.db.messages, Uncounted world message')
  | opened (execution : Execution) (job : Job [.routed, .submitting]) (he : execution ∈ world.executions)
      (hstage : execution.stage = .dispatch job) (hmessage : job.message ∈ world.db.messages)
      (hopened : world'.Spent execution.event)
      (hspent : ∀ event, world'.Spent event → event = execution.event ∨ world.Spent event)
      (hcount : ∀ message' ∈ world'.db.messages,
        message'.composite = job.message.composite ∧ message'.attemptCount = job.message.attemptCount + 1 ∨
        message'.composite ≠ job.message.composite ∧ message' ∈ world.db.messages)

/-- Executions that are dropped open no attempt. -/
private theorem spent_of_eraseIdx {index event : Nat}
    (h : ∃ execution ∈ world.executions.eraseIdx index, execution.event = event ∧
      execution.stage.attempt.isSome = true) : world.Spent event := by
  obtain ⟨execution, he, hid, hattempt⟩ := h
  exact ⟨execution, List.mem_of_mem_eraseIdx he, hid, hattempt⟩

/-- A handler that has just started stands before its attempt. -/
private theorem Started.attempt_eq {db : Db} {row : OutboxRow} {stage : Stage} (h : Started db row stage) :
    stage.attempt = none := by
  cases h <;> rfl

/-- A guarded work that is not an attempt leaves the count of its message alone. -/
private theorem Snapshots.uncounted_of_work (hs : Snapshots world) {env : Environment} {execution : Execution}
    (he : execution ∈ world.executions) {work : GuardedWork} {next : MessageRow → Option Stage}
    (hw : Stage.WorkOf env execution.stage work next) {updated : MessageRow} {db' : Db}
    (c : work.Committed env.clock world.db updated db')
    (hcount : (work.assign work.message).attemptCount = work.message.attemptCount) :
    ∀ message' ∈ db'.messages, Uncounted world message' := by
  intro message' hm
  have hold := hs.committed_old he hw c
  rw [c.messages_eq] at hm
  rcases Rows.mem_replace (r := c.old) hm with hupdated | hm
  · have hassign : message' = work.assign work.message := by rw [hupdated, c.updated_eq, hold]
    have hbefore : work.message ∈ world.db.messages := by
      rw [← hold, c.messages]
      simp
    have hcontent := (hw.rowStep rfl).content
    refine .same hbefore ?_ ?_
    · rw [hassign]
      exact (MessageRow.composite_of_content hcontent).symm
    · rw [hassign, hcount]
  · exact .same (by rw [c.messages]; exact hm) rfl rfl

private theorem uncounted_of_eq {db' : Db} (h : db'.messages = world.db.messages) :
    ∀ message' ∈ db'.messages, Uncounted world message' := by
  intro message' hm
  exact .same (h ▸ hm) rfl rfl

private theorem Snapshots.meter_attempt (hs : Snapshots world) (hs' : Snapshots world') {index : Nat}
    {env : Environment} {event version : Nat} {job : Job [.routed, .submitting]}
    (hexec : world.executions[index]? = some ⟨event, .dispatch job⟩)
    (haction : (env.services.evaluate (fraudInput job.payload job.message)).action ≠ .throttle) {updated : MessageRow}
    (c : (submitAttemptWork env.clock job.payload job.message).Committed env.clock world.db updated world'.db)
    (hexecutions : world'.executions = ⟨event, .provider job version⟩ :: world.executions.eraseIdx index) :
    MeterStep world world' := by
  have he := List.mem_of_getElem? hexec
  have hold : c.old = job.message := hs.committed_old he (.attempt job haction) c
  have hstatus : job.message.status = .routed ∨ job.message.status = .submitting := by simpa using job.admitted
  have hupdated : updated = attemptRow env.clock job.message job.message := by
    rw [c.updated_eq, hold]
    rfl
  rw [attemptRow_eq env.clock hstatus] at hupdated
  have hmessage : job.message ∈ world.db.messages := by
    rw [← hold, c.messages]
    simp
  have hmem : updated ∈ world'.db.messages := by
    rw [c.messages_eq]
    simp
  have hc : updated.composite = job.message.composite := by
    rw [hupdated]
    rfl
  refine .opened _ job he rfl hmessage
    ⟨⟨event, .provider job version⟩, by rw [hexecutions]; exact List.mem_cons_self .., rfl, rfl⟩ ?_ ?_
  · rintro other ⟨execution, hexecution, hid, hattempt⟩
    rw [hexecutions] at hexecution
    rcases List.mem_cons.1 hexecution with rfl | hexecution
    · exact .inl hid.symm
    · exact .inr (spent_of_eraseIdx ⟨execution, hexecution, hid, hattempt⟩)
  · intro message' hm
    by_cases hsame : message'.composite = job.message.composite
    · left
      rw [(keyed_composite hs'.keyed).unique hm hmem (hsame.trans hc.symm), hupdated]
      exact ⟨rfl, rfl⟩
    · right
      refine ⟨hsame, ?_⟩
      rw [c.messages_eq] at hm
      rcases Rows.mem_replace (r := c.old) hm with rfl | hm
      · exact absurd hc hsame
      · rw [c.messages]
        exact hm

private theorem Snapshots.meterStep (hs : Snapshots world) (hs' : Snapshots world')
    (h : World.Stepped world a world') : MeterStep world world' := by
  cases h with
  | created c =>
    refine .quiet (fun _ hspent => hspent) ?_
    intro message' hm
    rw [c.messages_eq.1, List.mem_append, List.mem_singleton] at hm
    rcases hm with hm | rfl
    · exact .same hm rfl rfl
    · exact .fresh (by rw [c.message_eq]; rfl) (by rw [c.message_eq]; rfl)
  | webhook h =>
    obtain ⟨report, webhooks, nextId, rfl⟩ := acceptWebhook_ok h
    exact .quiet (fun _ hspent => hspent) (uncounted_of_eq (by simp))
  | started hrow hstart =>
    refine .quiet ?_ (uncounted_of_eq rfl)
    rintro event ⟨execution, he, hid, hattempt⟩
    rcases List.mem_cons.1 he with rfl | he
    · rw [(startHandler_some hstart).attempt_eq] at hattempt
      cases hattempt
    · exact ⟨execution, he, hid, hattempt⟩
  | crashed hexec => exact .quiet (fun _ => spent_of_eraseIdx) (uncounted_of_eq rfl)
  | threw hexec hadvance => exact .quiet (fun _ => spent_of_eraseIdx) (uncounted_of_eq rfl)
  | continued hexec hadvance =>
    rename_i index env execution stage db'
    have he := List.mem_of_getElem? hexec
    obtain ⟨id, before⟩ := execution
    generalize hn : some stage = next at hadvance
    cases hadvance with
    | work hw c =>
      cases hw with
      | attempt job haction =>
        cases hn
        exact hs.meter_attempt hs' hexec haction c rfl
      | _ => cases hn
    | event h => cases hn
    | side h => cases hn
    | read h =>
      cases hn
      refine .quiet ?_ (uncounted_of_eq rfl)
      rintro event ⟨execution, hexecution, hid, hattempt⟩
      rcases List.mem_cons.1 hexecution with rfl | hexecution
      · cases h with
        | provider job submittingVersion => exact ⟨_, he, hid, rfl⟩
        | webhook payload report => cases hattempt
      · exact spent_of_eraseIdx ⟨execution, hexecution, hid, hattempt⟩
  | finished hexec hadvance =>
    rename_i index env execution db'
    refine .quiet (fun _ => spent_of_eraseIdx) ?_
    have he := List.mem_of_getElem? hexec
    generalize hn : (none : Option Stage) = next at hadvance
    cases hadvance with
    | work hw c =>
      refine hs.uncounted_of_work he hw c ?_
      rcases hw.attemptCount with hcount | ⟨-, job, hstage, -⟩
      · exact hcount
      · obtain ⟨id, before⟩ := execution
        subst hstage
        cases hw with
        | throttle job haction => rfl
        | attempt job => cases hn
    | event h => exact uncounted_of_eq (by simp)
    | read h => cases hn
    | side h => exact uncounted_of_eq h.frame.1
  | _ => exact .quiet (fun _ hspent => hspent) (uncounted_of_eq rfl)

/-! ### Events of a step -/

private theorem OutboxStep.appended {db db' : Db} {P : OutboxEventInput → Prop} (h : OutboxStep db db' P) :
    db'.outbox = db.outbox ∨
      ∃ clock input, P input ∧ db'.outbox = db.outbox ++ [input.row clock db.outbox.length] := by
  cases h with
  | same h hs => exact .inl h
  | enqueued clock input hp h hs =>
    rcases db.enqueue_outbox clock input with ⟨-, ho, -⟩ | ⟨-, ho, -⟩
    · exact .inl (h.trans ho)
    · exact .inr ⟨clock, input, hp, h.trans ho⟩

private theorem World.counts_of_append {row : OutboxRow} (h : world'.db.outbox = world.db.outbox ++ [row])
    (composite : MessageCompositeId) :
    world'.eventsOf composite = world.eventsOf composite + (if row.workflowFor composite then 1 else 0) ∧
      world'.throttlesOf composite = world.throttlesOf composite + if row.throttles composite then 1 else 0 := by
  unfold World.eventsOf World.throttlesOf
  rw [h, List.countP_append, List.countP_append, List.countP_singleton, List.countP_singleton]
  exact ⟨rfl, rfl⟩

/-- The counts of a message after a step that has enqueued no event of it. -/
private theorem World.counts_kept {P : OutboxEventInput → Prop} (h : OutboxStep world.db world'.db P)
    {composite : MessageCompositeId} (hnone : ∀ clock input, P input →
      input.row clock world.db.outbox.length ∈ world'.db.outbox →
        (input.row clock world.db.outbox.length).workflowFor composite = false) :
    world'.eventsOf composite = world.eventsOf composite ∧
      world'.throttlesOf composite = world.throttlesOf composite := by
  rcases h.appended with hsame | ⟨clock, input, hp, hnew⟩
  · unfold World.eventsOf World.throttlesOf
    rw [hsame]
    exact ⟨rfl, rfl⟩
  · have hfor := hnone clock input hp (by rw [hnew]; simp)
    obtain ⟨hevents, hthrottles⟩ := World.counts_of_append hnew composite
    have hthrottle : (input.row clock world.db.outbox.length).throttles composite = false := by
      by_contra hthrottle
      rw [Bool.not_eq_false] at hthrottle
      rw [OutboxRow.throttles_imp hthrottle] at hfor
      cases hfor
    rw [hevents, hthrottles, hfor, hthrottle]
    exact ⟨rfl, rfl⟩

private theorem throttles_fraudThrottleEvent {clock clock' : TxClock} {payload : MessageEventPayload}
    {message updated : MessageRow} {id : Nat} (hc : message.composite = payload.toComposite) :
    ((fraudThrottleEvent clock payload message updated).row clock' id).throttles message.composite = true := by
  unfold OutboxRow.throttles
  rw [Bool.and_eq_true]
  constructor
  · exact OutboxRow.workflowFor_eq_true.2 ⟨rfl, _, rfl, hc.symm⟩
  · rw [hc]
    exact decide_eq_true rfl

/-- The event that follows a guarded work is about the message of the work. -/
private theorem Stage.WorkOf.followUp_composite {env : Environment} {stage : Stage} {work : GuardedWork}
    {next : MessageRow → Option Stage} (hw : Stage.WorkOf env stage work next) {updated : MessageRow}
    {input : OutboxEventInput} (hin : work.followUp updated = .event input) {payload : MessageEventPayload}
    (hp : input.payload = .message payload) : work.message.composite = payload.toComposite := by
  cases hw with
  | accepted job route hroute => cases hin; cases hp; exact job.found
  | throttle job haction => cases hin; cases hp; exact job.found
  | retrySubmit job retryPolicy nextRoute hpolicy hretry => cases hin; cases hp; exact job.found
  | unknown job => cases hin; cases hp
  | _ => cases hin

/-- The row of the outbox whose event an execution of the workflow handles. -/
theorem Tokens.source (ev : Events world) (tok : Tokens world) {execution : Execution}
    (he : execution ∈ world.executions) {payload : MessageEventPayload} (hevent : execution.stage.event = some payload) :
    ∃ row ∈ world.db.outbox, row.id = execution.event ∧ row.id ∉ world.consumed ∧
      row.workflowFor payload.toComposite = true ∧ execution.stage.handles row.topicName = true := by
  obtain ⟨row, hrow, hid, hhandles, hpayload⟩ := (ev.sourced execution he).row
  have hp := hpayload _ (Stage.payload_of_event hevent)
  refine ⟨row, hrow, hid, ?_, ?_, hhandles⟩
  · rw [hid]
    exact tok.pending execution he
  · exact OutboxRow.workflowFor_eq_true.2 ⟨Stage.isWorkflow_of_event hevent hhandles, payload, hp, rfl⟩

theorem KafkaTopic.lead_of_isDispatch {topic : KafkaTopic} (h : topic.isDispatch = true) : topic.lead = 2 := by
  unfold KafkaTopic.lead
  rw [if_pos h]

theorem KafkaTopic.ne_results_of_isDispatch {topic : KafkaTopic} (h : topic.isDispatch = true) :
    topic ≠ .smsDispatchResults := by
  rintro rfl
  cases h

/-! ### The turn of an old event -/

private theorem Metered.turn_old (hs : Snapshots world) (hs' : Snapshots world') (ev : Events world)
    (ev' : Events world') (tok : Tokens world) (metered : Metered bound world) (hok : world.handlesOnce a = true)
    (h : world.step a = some world') {row : OutboxRow} (hrow : row ∈ world.db.outbox)
    (hunconsumed : row.id ∉ world'.consumed) {message' : MessageRow} (hm : message' ∈ world'.db.messages)
    (hfor : row.workflowFor message'.composite = true) : Turn bound world' row message' := by
  have hstepped := World.step_cases (keyed_composite hs.keyed) h
  have hbefore : row.id ∉ world.consumed := fun hconsumed => hunconsumed (hstepped.consumed_subset _ hconsumed)
  have hspent : world.Spent row.id → world'.Spent row.id := fun hspent => hstepped.spent hok hspent hunconsumed
  -- a new event of the message would have consumed this one
  obtain ⟨hevents, hthrottles⟩ : world'.eventsOf message'.composite = world.eventsOf message'.composite ∧
      world'.throttlesOf message'.composite = world.throttlesOf message'.composite := by
    refine World.counts_kept (hs.world_emits h) ?_
    intro clock input hemits hmem
    by_contra hnew
    rw [Bool.not_eq_false] at hnew
    exact hunconsumed (tok.emitted hs ev ev' hstepped.consumed_subset hemits hmem hnew hrow hfor).2
  have hkept : ∀ message ∈ world.db.messages, message.composite = message'.composite →
      message.attemptCount = message'.attemptCount → (world'.Spent row.id → world.Spent row.id) →
        Turn bound world' row message' := by
    intro message hmem hc hcount hback
    rw [← hc] at hfor hevents hthrottles
    cases metered.turn row hrow hbefore message hmem hfor with
    | waiting hidle howed hallowed =>
      refine .waiting (fun hspent' => hidle (hback hspent')) ?_ ?_
      · rw [← hc, ← hcount, hevents, hthrottles]
        exact howed
      · rw [← hcount]
        exact hallowed
    | opened hspent' howed =>
      refine .opened (hspent hspent') ?_
      rw [← hc, ← hcount, hevents, hthrottles]
      exact howed
  cases hs.meterStep hs' hstepped with
  | quiet hback hcount =>
    cases hcount message' hm with
    | fresh hid hzero =>
      have hfresh := ev.no_event_of_fresh hs hrow hfor
      exact absurd (hfresh.trans_eq hid.symm) (lt_irrefl _)
    | same hmem hc hcount => exact hkept _ hmem hc hcount (hback _)
  | opened execution job he hstage hmessage hopened hback hcount =>
    obtain ⟨source, hsource, hid, hpending, hsourceFor, hhandles⟩ :=
      tok.source ev he (show execution.stage.event = some job.payload by rw [hstage]; rfl)
    rw [hstage] at hhandles
    rw [← job.found] at hsourceFor
    rcases hcount message' hm with ⟨hc, hnew⟩ | ⟨hc, hmem⟩
    · rw [hc] at hfor hevents hthrottles
      obtain rfl : source = row := tok.unique hsource hrow hpending hbefore hsourceFor hfor
      have hidle : ¬ world.Spent source.id := by
        rw [hid]
        exact tok.not_spent he (by rw [hstage]; rfl)
      cases metered.turn source hsource hpending job.message hmessage hsourceFor with
      | waiting _ howed hallowed =>
        rw [KafkaTopic.lead_of_isDispatch hhandles] at howed
        refine .opened (by rw [hid]; exact hopened) ?_
        rw [hc, hnew, hevents, hthrottles]
        omega
      | opened hspent' _ => exact absurd hspent' hidle
    · refine hkept message' hmem rfl rfl ?_
      intro hspent'
      rcases hback _ hspent' with hsame | hbefore'
      · obtain rfl : source = row := ev.row_unique hsource hrow (hid.trans hsame.symm)
        exact absurd (OutboxRow.workflowFor_unique hfor hsourceFor) hc
      · exact hbefore'

/-! ### The turn of a new event -/

/-- The account of an event that a step enqueues, over the table after the step. -/
structure Accounted (bound : Int) (world' : World) (row : OutboxRow) (message' : MessageRow) : Prop where
  owed : world'.eventsOf message'.composite ≤
    3 * message'.attemptCount + row.topicName.lead + 2 * world'.throttlesOf message'.composite
  allowed : row.topicName ≠ .smsDispatchResults → (message'.attemptCount : Int) + 1 ≤ max 1 bound

/-- The account of the message before the event that an execution enqueues. -/
private theorem Metered.account (ev : Events world) (tok : Tokens world) (metered : Metered bound world)
    {execution : Execution} (he : execution ∈ world.executions) (hattempt : execution.stage.attempt = none)
    {payload : MessageEventPayload} (hevent : execution.stage.event = some payload) {message : MessageRow}
    (hm : message ∈ world.db.messages) (hc : message.composite = payload.toComposite) :
    ∃ row ∈ world.db.outbox, execution.stage.handles row.topicName = true ∧ Accounted bound world row message := by
  obtain ⟨source, hsource, hid, hpending, hfor, hhandles⟩ := tok.source ev he hevent
  rw [← hc] at hfor
  refine ⟨source, hsource, hhandles, ?_⟩
  cases metered.turn source hsource hpending message hm hfor with
  | waiting _ howed hallowed => exact ⟨howed, hallowed⟩
  | opened hspent _ =>
    rw [hid] at hspent
    exact absurd hspent (tok.not_spent he hattempt)

private theorem Metered.account_opened (ev : Events world) (tok : Tokens world) (metered : Metered bound world)
    {execution : Execution} (he : execution ∈ world.executions) (hattempt : execution.stage.attempt.isSome = true)
    {payload : MessageEventPayload} (hevent : execution.stage.event = some payload) {message : MessageRow}
    (hm : message ∈ world.db.messages) (hc : message.composite = payload.toComposite) :
    world.eventsOf message.composite + 1 ≤
      3 * message.attemptCount + 2 * world.throttlesOf message.composite := by
  obtain ⟨source, hsource, hid, hpending, hfor, hhandles⟩ := tok.source ev he hevent
  rw [← hc] at hfor
  cases metered.turn source hsource hpending message hm hfor with
  | waiting hidle _ _ => exact absurd ⟨execution, he, hid.symm, hattempt⟩ hidle
  | opened _ howed => exact howed

/-- One event more: it is accounted for by its own lead, or by the throttle that it is. -/
private theorem Accounted.next {row : OutboxRow} {message message' : MessageRow} {lead : Nat}
    (hc : message'.composite = message.composite) (hcount : message'.attemptCount = message.attemptCount)
    (hevents : world'.eventsOf message.composite = world.eventsOf message.composite + 1)
    (hthrottles : world'.throttlesOf message.composite = world.throttlesOf message.composite +
      if row.throttles message.composite then 1 else 0)
    (howed : world.eventsOf message.composite ≤
      3 * message.attemptCount + lead + 2 * world.throttlesOf message.composite)
    (hlead : lead < row.topicName.lead ∨ row.throttles message.composite = true ∧ lead ≤ row.topicName.lead + 1)
    (hallowed : row.topicName ≠ .smsDispatchResults → (message.attemptCount : Int) + 1 ≤ max 1 bound) :
    Accounted bound world' row message' where
  owed := by
    rw [hc, hcount, hevents, hthrottles]
    rcases hlead with hlead | ⟨hthrottle, hlead⟩
    · omega
    · rw [if_pos hthrottle]
      omega
  allowed := by
    rw [hcount]
    exact hallowed

private theorem Metered.emitted_follow (ev : Events world) (tok : Tokens world) (metered : Metered bound world)
    {index : Nat} {env : Environment} {execution : Execution} (he : execution ∈ world.executions)
    (hbound : (Action.advance index env).policiesWithin bound) {work : GuardedWork}
    {next : MessageRow → Option Stage} {input : OutboxEventInput} (hw : Stage.WorkOf env execution.stage work next)
    (hbefore : work.message ∈ world.db.messages) (hin : work.followUp (work.assign work.message) = .event input)
    (clock : TxClock) (id : Nat) (hfor : (input.row clock id).workflowFor work.message.composite = true)
    (hevents : world'.eventsOf work.message.composite = world.eventsOf work.message.composite + 1)
    (hthrottles : world'.throttlesOf work.message.composite = world.throttlesOf work.message.composite +
      if (input.row clock id).throttles work.message.composite then 1 else 0) :
    Accounted bound world' (input.row clock id) (work.assign work.message) := by
  have hc := MessageRow.composite_of_content (hw.rowStep rfl).content
  obtain ⟨event, stage⟩ := execution
  cases hw with
  | accepted job route hroute =>
    cases hin
    obtain ⟨row, -, hhandles, howed, hallowed⟩ := metered.account ev tok he rfl rfl hbefore job.found
    have htopic : row.topicName = .smsAccepted := of_decide_eq_true hhandles
    rw [htopic] at howed hallowed
    refine .next hc rfl hevents hthrottles howed ?_ fun _ => hallowed (by decide)
    have hlead : (dispatchTopicFor job.message.trafficType).lead = 2 :=
      KafkaTopic.lead_of_isDispatch (isDispatch_dispatchTopicFor _)
    exact .inl hlead.ge
  | throttle job haction =>
    cases hin
    obtain ⟨row, -, hhandles, howed, hallowed⟩ := metered.account ev tok he rfl rfl hbefore job.found
    rw [KafkaTopic.lead_of_isDispatch hhandles] at howed
    refine .next hc rfl hevents hthrottles howed (.inr ⟨throttles_fraudThrottleEvent job.found, le_rfl⟩) ?_
    exact fun _ => hallowed (KafkaTopic.ne_results_of_isDispatch hhandles)
  | retrySubmit job retryPolicy nextRoute hpolicy hretry =>
    cases hin
    obtain ⟨row, -, hhandles, howed, -⟩ := metered.account ev tok he rfl rfl hbefore job.found
    have htopic : row.topicName = .smsDispatchResults := of_decide_eq_true hhandles
    rw [htopic] at howed
    refine .next hc rfl hevents hthrottles howed (.inl Nat.one_pos) fun _ => ?_
    -- the policy that allowed the retry
    have hpolicyBound : retryPolicy.maxAttempts ≤ bound := hpolicy ▸ hbound _ _ _
    have hattempts := attemptCount_lt_of_shouldRetry hretry
    change (job.message.attemptCount : Int) + 1 ≤ max 1 bound
    omega
  | unknown job =>
    cases hin
    cases (OutboxRow.workflowFor_eq_true.1 hfor).1
  | attempt job => cases hin
  | ack job haccepted => cases hin
  | failure job => cases hin
  | delivered report message hstatus => cases hin
  | dlrFailed report message hstatus => cases hin

private theorem Events.no_events_of_fresh (hs : Snapshots world) (ev : Events world) {composite : MessageCompositeId}
    (hfresh : world.db.nextMessageId ≤ composite.id) : world.eventsOf composite = 0 := by
  unfold World.eventsOf
  rw [List.countP_eq_zero]
  intro row hrow hfor
  have hold := ev.no_event_of_fresh hs hrow hfor
  omega

/-- Every new event of the workflow is accounted for. -/
private theorem Metered.emitted (hs : Snapshots world) (hs' : Snapshots world') (ev : Events world)
    (tok : Tokens world) (metered : Metered bound world) (hbound : a.policiesWithin bound)
    {input : OutboxEventInput} (h : World.Emits world world' a input) {clock : TxClock}
    (hnew : world'.db.outbox = world.db.outbox ++ [input.row clock world.db.outbox.length]) {message' : MessageRow}
    (hm : message' ∈ world'.db.messages)
    (hfor : (input.row clock world.db.outbox.length).workflowFor message'.composite = true) :
    Accounted bound world' (input.row clock world.db.outbox.length) message' := by
  obtain ⟨hevents, hthrottles⟩ := World.counts_of_append hnew message'.composite
  rw [if_pos hfor] at hevents
  obtain ⟨-, payload, hp, hc⟩ := OutboxRow.workflowFor_eq_true.1 hfor
  have hcurrent : ∀ {row : MessageRow}, row ∈ world'.db.messages → row.composite = payload.toComposite →
      message' = row := fun hrow hrc => (keyed_composite hs'.keyed).unique hm hrow (hc.symm.trans hrc.symm)
  cases h with
  | created hmem hmessage =>
    cases hp
    obtain rfl := hcurrent hmem rfl
    -- a message that is being created has had no event and no attempt
    have hnone : world.eventsOf message'.composite = 0 :=
      ev.no_events_of_fresh hs (congrArg MessageRow.id hmessage).ge
    have hzero : message'.attemptCount = 0 := congrArg MessageRow.attemptCount hmessage
    constructor
    · rw [hevents, hnone]
      exact Nat.le_add_right_of_le (Nat.le_add_left _ _)
    · intro _
      rw [hzero]
      omega
  | webhook report => cases hp
  | advanced hexec hconsumed hemits =>
    rename_i index env execution
    have he := List.mem_of_getElem? hexec
    cases hemits with
    | follow hw hbefore htrigger hafter hin =>
      rename_i work next
      have hcomposite := MessageRow.composite_of_content (hw.rowStep rfl).content
      have hafterComposite := hcomposite.trans (hw.followUp_composite hin hp)
      obtain rfl := hcurrent hafter hafterComposite
      rw [hcomposite] at hfor hevents hthrottles
      exact metered.emitted_follow ev tok he hbound hw hbefore hin clock _ hfor hevents hthrottles
    | event h hsame =>
      rw [hsame] at hm
      obtain ⟨event, stage⟩ := execution
      cases h with
      | retry job =>
        cases hp
        obtain ⟨row, -, hhandles, howed, hallowed⟩ := metered.account ev tok he rfl rfl hm hc.symm
        have htopic : row.topicName = .smsRetry := of_decide_eq_true hhandles
        rw [htopic] at howed hallowed
        refine .next rfl rfl hevents hthrottles howed ?_ fun _ => hallowed (by decide)
        have hlead : (dispatchTopicFor job.message.trafficType).lead = 2 :=
          KafkaTopic.lead_of_isDispatch (isDispatch_dispatchTopicFor _)
        exact .inl hlead.ge
      | dispatched job submittingVersion result =>
        cases hp
        have howed := metered.account_opened ev tok he rfl rfl hm hc.symm
        constructor
        · rw [hevents, hthrottles]
          exact howed.trans (Nat.add_le_add_left (Nat.mul_le_mul_left _ (Nat.le_add_right _ _)) _)
        · intro hne
          exact absurd rfl hne
    | reconcile report message reason extra hstage => cases hp

/-- No execution handles the next event yet. -/
private theorem Snapshots.new_idle (hs : Snapshots world) (hs' : Snapshots world') (ev : Events world)
    (h : World.Stepped world a world') : ¬ world'.Spent world.db.outbox.length := by
  have hold : ∀ execution ∈ world.executions, execution.event ≠ world.db.outbox.length := by
    intro execution he hlast
    obtain ⟨row, hrow, hid, -⟩ := (ev.sourced execution he).row
    have hmem := List.mem_map_of_mem (f := OutboxRow.id) hrow
    rw [ev.numbered, List.mem_range] at hmem
    omega
  have hspent : ¬ world.Spent world.db.outbox.length := by
    rintro ⟨execution, he, hlast, -⟩
    exact hold execution he hlast
  intro hspent'
  cases hs.meterStep hs' h with
  | quiet hback hcount => exact hspent (hback _ hspent')
  | opened execution job he hstage hmessage hopened hback hcount =>
    rcases hback _ hspent' with hlast | hbefore
    · exact hold execution he hlast.symm
    · exact hspent hbefore

/-- The events of a message that a step adds nothing to stay within the bound. -/
private theorem Metered.bounded_kept (hs : Snapshots world) (hs' : Snapshots world') (ev : Events world)
    (metered : Metered bound world) (h : World.Stepped world a world') {message' : MessageRow}
    (hm : message' ∈ world'.db.messages)
    (hevents : world'.eventsOf message'.composite = world.eventsOf message'.composite)
    (hthrottles : world'.throttlesOf message'.composite = world.throttlesOf message'.composite) :
    (world'.eventsOf message'.composite : Int) ≤ 3 * max 1 bound + 2 * world'.throttlesOf message'.composite := by
  rw [hevents, hthrottles]
  cases hs.meterStep hs' h with
  | quiet hback hcount =>
    cases hcount message' hm with
    | fresh hid hzero =>
      rw [ev.no_events_of_fresh hs (show world.db.nextMessageId ≤ message'.composite.id from hid.ge)]
      omega
    | same hmem hc hcount =>
      rw [← hc]
      exact metered.bounded _ hmem
  | opened execution job he hstage hmessage hopened hback hcount =>
    rcases hcount message' hm with ⟨hc, -⟩ | ⟨-, hmem⟩
    · rw [hc]
      exact metered.bounded _ hmessage
    · exact metered.bounded _ hmem

theorem Metered.step (hs : Snapshots world) (hs' : Snapshots world') (ev : Events world) (ev' : Events world')
    (tok : Tokens world) (budget' : Budget bound world') (metered : Metered bound world)
    (hok : world.handlesOnce a = true) (hbound : a.policiesWithin bound) (h : world.step a = some world') :
    Metered bound world' := by
  have hstep := hs.world_emits h
  have hstepped := World.step_cases (keyed_composite hs.keyed) h
  constructor
  · intro row hrow hunconsumed message' hm hfor
    by_cases hold : row ∈ world.db.outbox
    · exact metered.turn_old hs hs' ev ev' tok hok h hold hunconsumed hm hfor
    · rcases hstep.appended with hsame | ⟨clock, input, hemits, hnew⟩
      · exact absurd (hsame ▸ hrow) hold
      · rw [hnew, List.mem_append, List.mem_singleton] at hrow
        obtain rfl := hrow.resolve_left hold
        obtain ⟨howed, hallowed⟩ := metered.emitted hs hs' ev tok hbound hemits hnew hm hfor
        exact .waiting (hs.new_idle hs' ev hstepped) howed hallowed
  · intro message' hm
    rcases hstep.appended with hsame | ⟨clock, input, hemits, hnew⟩
    · refine metered.bounded_kept hs hs' ev hstepped hm ?_ ?_
      · unfold World.eventsOf
        rw [hsame]
      · unfold World.throttlesOf
        rw [hsame]
    · obtain ⟨hevents, hthrottles⟩ := World.counts_of_append hnew message'.composite
      by_cases hfor : (input.row clock world.db.outbox.length).workflowFor message'.composite = true
      · obtain ⟨howed, hallowed⟩ := metered.emitted hs hs' ev tok hbound hemits hnew hm hfor
        have hbounded := budget'.bounded message' hm
        have hlead := (input.row clock world.db.outbox.length).topicName.lead_le
        by_cases hresult : (input.row clock world.db.outbox.length).topicName = .smsDispatchResults
        · rw [hresult] at howed
          change _ ≤ 3 * message'.attemptCount + 0 + _ at howed
          omega
        · have hnext := hallowed hresult
          omega
      · have hthrottle : (input.row clock world.db.outbox.length).throttles message'.composite ≠ true :=
          fun hthrottle => hfor (OutboxRow.throttles_imp hthrottle)
        rw [if_neg hfor] at hevents
        rw [if_neg hthrottle] at hthrottles
        exact metered.bounded_kept hs hs' ev hstepped hm hevents hthrottles

end Step

theorem metered_of_runs {wallets : TenantId → Option WalletRow} {bound : Int} {world : World}
    (h : Transition.Runs World.step (fun world a => world.handlesOnce a = true ∧ a.policiesWithin bound)
      (World.initial wallets) world) : Metered bound world :=
  h.invariant_of
    (Q := fun world => Snapshots world ∧ Events world ∧ Tokens world ∧ Budget bound world)
    (fun _ hr => ⟨snapshots_of_reaches hr.reaches, events_of_reaches hr.reaches,
      tokens_of_runs (hr.mono fun _ _ hok => hok.1), budget_of_runs hr⟩)
    (Metered.initial bound wallets)
    fun _ _ _ ⟨hs, ev, tok, _⟩ ⟨hs', ev', _, budget'⟩ metered hok hstep =>
      metered.step hs hs' ev ev' tok budget' hok.1 hok.2 hstep

/-- The workflow of a message ends: in a run that handles every event once, and whose retry policies allow no more than
`bound` attempts, a message never has more than three events for each attempt it may take and two for each verdict of
the fraud rules that throttled it. -/
theorem workflow_events_bounded {wallets : TenantId → Option WalletRow} {bound : Int} {world : World}
    (h : Transition.Runs World.step (fun world a => world.handlesOnce a = true ∧ a.policiesWithin bound)
      (World.initial wallets) world) {message : MessageRow} (hm : message ∈ world.db.messages) :
    (world.eventsOf message.composite : Int) ≤ 3 * max 1 bound + 2 * world.throttlesOf message.composite :=
  (metered_of_runs h).bounded message hm

/-- A refused attempt, its retry, and a second attempt up to its result. -/
def Sample.secondResult : List Action :=
  Sample.retried ++ [.advance 0 (env 10 (services .allow 2 refuses))]

theorem workflow_events_bounded_twice : ∃ world, Transition.execute
      (Transition.guarded World.step World.handlesOnce) (World.initial (Sample.wallets 100)) Sample.secondResult =
        some world ∧
    ∃ message ∈ world.db.messages, world.eventsOf message.composite = 6 ∧
      (world.eventsOf message.composite : Int) ≤ 3 * max 1 2 + 2 * world.throttlesOf message.composite := by
  have h : (Transition.execute (Transition.guarded World.step World.handlesOnce) (World.initial (Sample.wallets 100))
      Sample.secondResult).any (fun world =>
        world.db.messages.any fun message => decide (world.eventsOf message.composite = 6)) = true := by
    decide +kernel
  obtain ⟨world, hrun, hany⟩ := (Option.any_eq_true _ _).1 h
  obtain ⟨message, hm, hcount⟩ := List.any_eq_true.1 hany
  have hpolicies : ∀ a ∈ Sample.secondResult, a.policiesWithin 2 := by
    simp [Sample.secondResult, Sample.retried, Action.policiesWithin, Sample.env, Sample.services]
  have hbounded := workflow_events_bounded (Transition.runs_of_execute_all hpolicies hrun) hm
  exact ⟨world, hrun, message, hm, of_decide_eq_true hcount, hbounded⟩

end SmsPlatform
