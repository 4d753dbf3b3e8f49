import Mathlib.Data.List.MinMax
import SmsPlatform.Pipeline.Trigger
import SmsPlatform.Pipeline.Events

/-!
# Orphans

Whether a message in progress always has something left to move it.  A consumed event of the message has been followed
by a heavier one or by an event for reconciliation (`Followed`), so the heaviest event of the message is unconsumed,
and its handler goes on in the status the message has.  One branch breaks this: the throttle verdict on a message that
is still `routed` sends it to `sms.retry`, whose handler returns early unless the message is `submitting`.
-/

namespace SmsPlatform

/-! ### What is left to do for a message -/

/-- The handler of the event goes on in the status the message has, and an event of `sms.retry` is not one whose
dispatch event is in the outbox already. -/
def OutboxRow.moves (row : OutboxRow) (db : Db) (message : MessageRow) : Prop :=
  row.workflowFor message.composite = true ∧ message.status ∈ row.topicName.admits ∧
    (row.topicName = .smsRetry → ∀ other ∈ db.outbox,
      other.dedupeKey ≠ workflowKey message.composite .retryDispatch message.version)

instance (row : OutboxRow) (db : Db) (message : MessageRow) : Decidable (row.moves db message) :=
  inferInstanceAs (Decidable (_ ∧ _ ∧ (_ → _)))

/-- The reconciliation event is about this message. -/
def ReconciliationEventRow.about (event : ReconciliationEventRow) (composite : MessageCompositeId) : Prop :=
  event.tenantId = some composite.tenantId ∧ event.messageSubmitDate = some composite.submitDate ∧
    event.messageId = some composite.id

instance (event : ReconciliationEventRow) (composite : MessageCompositeId) : Decidable (event.about composite) :=
  inferInstanceAs (Decidable (_ ∧ _ ∧ _))

/-- A reconciliation event is recorded for the message, or on its way to be. -/
def World.Reconciling (world : World) (composite : MessageCompositeId) : Prop :=
  (∃ row ∈ world.db.outbox, row.id ∉ world.consumed ∧ row.reconciles composite = true) ∨
    ∃ event ∈ world.db.reconciliationEvents, event.about composite

instance (world : World) (composite : MessageCompositeId) : Decidable (world.Reconciling composite) :=
  inferInstanceAs (Decidable (_ ∨ _))

/-- Something is left that moves the message, or reconciliation has it. -/
def World.HasWork (world : World) (message : MessageRow) : Prop :=
  (∃ row ∈ world.db.outbox, row.id ∉ world.consumed ∧ row.moves world.db message) ∨
    world.Reconciling message.composite

instance (world : World) (message : MessageRow) : Decidable (world.HasWork message) :=
  inferInstanceAs (Decidable (_ ∨ _))

/-- The step commits the transaction of a throttle verdict on a message that is still `routed`. -/
def World.throttlesRouted (world : World) : Action → Bool
  | .advance index env =>
    match world.executions[index]? with
    | some ⟨_, .dispatch job⟩ => decide (job.message ∈ world.db.messages ∧ job.message.status = .routed ∧
        job.message.stateChangedAt < env.clock.now ∧
        (env.services.evaluate (fraudInput job.payload job.message)).action = .throttle)
    | _ => false
  | _ => false

theorem MessageStatus.inProgress_iff_rank {status : MessageStatus} : status.InProgress ↔ status.rank ≤ 2 := by
  cases status <;> decide

/-! ### How an event can come to be consumed -/

inductive World.Consumes (world world' : World) (event : Nat) : Prop
  | before (h : event ∈ world.consumed)
  | returned (row : OutboxRow) (hrow : row ∈ world.db.outbox) (hid : row.id = event)
      (hstart : startHandler world.db row = .ok none) (hdb : world'.db = world.db)
  | finished (env : Environment) (execution : Execution) (he : execution ∈ world.executions)
      (hid : execution.event = event) (h : Stage.Advanced env world.db execution.stage none world'.db)

theorem World.Stepped.consumes {world world' : World} {a : Action} (h : World.Stepped world a world') {event : Nat}
    (hevent : event ∈ world'.consumed) : World.Consumes world world' event := by
  cases h with
  | returned hrow hstart =>
    rcases List.mem_cons.1 hevent with rfl | hevent
    · exact .returned _ hrow rfl hstart rfl
    · exact .before hevent
  | finished hexec hadvance =>
    rcases List.mem_cons.1 hevent with rfl | hevent
    · exact .finished _ _ (List.mem_of_getElem? hexec) rfl hadvance
    · exact .before hevent
  | _ => exact .before hevent

/-! ### The invariant -/

/-- An event for reconciliation, or an event of the message heavier than `weight`, is in the outbox. -/
def Db.Continues (db : Db) (composite : MessageCompositeId) (weight : Nat) : Prop :=
  ∃ row ∈ db.outbox, row.reconciles composite = true ∨ (row.workflowFor composite = true ∧ weight < row.weight)

structure Followed (world : World) : Prop where
  known : ∀ event ∈ world.consumed, ∃ row ∈ world.db.outbox, row.id = event
  heavier : ∀ row ∈ world.db.outbox, row.id ∈ world.consumed → ∀ message ∈ world.db.messages,
    row.workflowFor message.composite = true → message.status.InProgress →
      world.db.Continues message.composite row.weight
  recorded : ∀ row ∈ world.db.outbox, row.id ∈ world.consumed → ∀ composite, row.reconciles composite = true →
    ∃ event ∈ world.db.reconciliationEvents, event.about composite
  retry : ∀ row ∈ world.db.outbox, row.topicName = .smsRetry → ∀ message ∈ world.db.messages,
    row.workflowFor message.composite = true → 2 ≤ message.status.rank

theorem Followed.initial (wallets : TenantId → Option WalletRow) : Followed (World.initial wallets) where
  known := by
    intro event hevent
    cases hevent
  heavier := by
    intro row hrow
    cases hrow
  recorded := by
    intro row hrow
    cases hrow
  retry := by
    intro row hrow
    cases hrow

/-! ### Events and the statuses their handlers go on in -/

/-- A message in progress that has reached the status which a kind of event presupposes is in one that the handler of the
event goes on in. -/
theorem WorkflowKind.mem_admits {kind : WorkflowKind} {topic : KafkaTopic} {status : MessageStatus}
    (ht : kind.sends topic = true) (hkind : kind ≠ .dispatchUncertain) (hprogress : status.InProgress)
    (hrank : kind.rank ≤ status.rank) (hretry : topic = .smsRetry → 2 ≤ status.rank) : status ∈ topic.admits := by
  have hsubmitting (h : 2 ≤ status.rank) : status = .submitting := by
    rcases hprogress with rfl | rfl | rfl
    · exact absurd h (by decide)
    · exact absurd h (by decide)
    · rfl
  have hdispatch (hdispatch : topic.isDispatch = true) (h : 1 ≤ status.rank) : status ∈ topic.admits := by
    have hlate : status = .routed ∨ status = .submitting := by
      rcases hprogress with rfl | hlate
      · exact absurd h (by decide)
      · exact hlate
    rcases of_decide_eq_true hdispatch with rfl | rfl <;> rcases hlate with rfl | rfl <;> decide
  cases kind with
  | dispatch => exact hdispatch ht hrank
  | retryDispatch => exact hdispatch ht (Nat.le_of_succ_le hrank)
  | fraudThrottle | retry =>
    obtain rfl : topic = .smsRetry := of_decide_eq_true ht
    rw [hsubmitting (hretry rfl)]
    decide
  | dispatchResult =>
    obtain rfl : topic = .smsDispatchResults := of_decide_eq_true ht
    rw [hsubmitting hrank]
    decide
  | dispatchUncertain => exact absurd rfl hkind

section Admits

variable {world : World} {row : OutboxRow} {message : MessageRow}

/-- The handler of an event goes on in the status of its message, or the message has a heavier event. -/
theorem Events.admits_or_heavier (ev : Events world) (hk : Rows.Keyed MessageRow.composite world.db.messages)
    (hrow : row ∈ world.db.outbox) (hm : message ∈ world.db.messages)
    (hfor : row.workflowFor message.composite = true) (hprogress : message.status.InProgress)
    (hretry : row.topicName = .smsRetry → 2 ≤ message.status.rank) :
    message.status ∈ row.topicName.admits ∨
      ∃ other ∈ world.db.outbox, other.workflowFor message.composite = true ∧ row.weight < other.weight := by
  obtain ⟨hwork, payload, hp, hc⟩ := OutboxRow.workflowFor_eq_true.1 hfor
  cases ev.described row hrow with
  | accepted payload' message' hp' ht he hkey hversion hm' hc' =>
    cases hp.symm.trans hp'
    by_cases hs : message.status = .accepted
    · exact .inl (by rw [ht, hs]; decide)
    · -- a message that has left `accepted` has its dispatch event, of a later version
      have hrank : 1 ≤ message.status.rank := by
        revert hs
        cases message.status <;> decide
      obtain ⟨other, hother, version, hlater, hkey'⟩ := ev.routed message hm hrank
      obtain ⟨hfor', hweight⟩ := (ev.described other hother).weight_of_key (by decide) hkey'
      refine .inr ⟨other, hother, hfor', ?_⟩
      have hzero : row.weight = 0 := by
        rw [OutboxRow.weight_eq hp, hversion, he]
        rfl
      rw [hweight, hzero]
      change 0 < 2 * version + 0
      omega
  | workflow payload' kind message' hkind hp' ht he hkey hm' hc' hversion hrank =>
    cases hp.symm.trans hp'
    obtain rfl : message' = message := hk.unique hm' hm (hc'.trans hc)
    exact .inl (WorkflowKind.mem_admits ht hkind hprogress hrank hretry)
  | uncertain payload' composite version hp' ht hkey hnames => cases hp.symm.trans hp'
  | report ht hkey => rcases ht with ht | ht <;> rw [ht] at hwork <;> cases hwork

end Admits

/-! ### What a handler that returns leaves behind -/

section Handlers

variable {world world' : World} {env : Environment} {execution : Execution}

/-- A workflow handler ends with an enqueue, or with its message settled. -/
theorem Snapshots.emits_or_settles (hs : Snapshots world) (he : execution ∈ world.executions)
    {payload : MessageEventPayload} {db' : Db} (hevent : execution.stage.event = some payload)
    (h : Stage.Advanced env world.db execution.stage none db') :
    (∃ input, Stage.Emits env world.db db' execution.stage input ∧
        ∃ row ∈ db'.outbox, row.dedupeKey = input.dedupeKey) ∨
      ∃ message ∈ db'.messages, message.composite = payload.toComposite ∧ ¬ message.status.InProgress := by
  generalize hn : (none : Option Stage) = next at h
  cases h with
  | work hw c =>
    rename_i work nextOf updated
    have hold := hs.committed_old he hw c
    have hupdated : updated = work.assign work.message := by rw [c.updated_eq, hold]
    have hcurrent : work.message ∈ world.db.messages := by
      rw [← hold, c.messages]
      simp
    have hm : updated ∈ db'.messages := by
      rw [c.messages_eq]
      simp
    -- the transactions that end with an enqueue
    have hemits : ∀ input, work.followUp updated = .event input →
        ∃ input, Stage.Emits env world.db db' execution.stage input ∧
          ∃ row ∈ db'.outbox, row.dedupeKey = input.dedupeKey := by
      intro input hinput
      refine ⟨input, .follow hw hcurrent (hold ▸ c.trigger) (hupdated ▸ hm) (hupdated ▸ hinput), ?_⟩
      rw [c.db_eq, GuardedWork.finish, hinput]
      exact Db.exists_key_of_enqueue _ _ _
    obtain ⟨event, stage⟩ := execution
    cases hw with
    | accepted job route hroute => exact .inl (hemits _ rfl)
    | throttle job haction => exact .inl (hemits _ rfl)
    | attempt job => cases hn
    | ack job haccepted =>
      cases hevent
      rw [hupdated] at hm
      refine .inr ⟨_, hm, (transitionedRow_composite ..).trans job.found, ?_⟩
      exact (transitionedRow_status ..).symm ▸ (by decide : ¬ MessageStatus.InProgress .providerAccepted)
    | unknown job => exact .inl (hemits _ rfl)
    | retrySubmit job retryPolicy nextRoute hpolicy hretry => exact .inl (hemits _ rfl)
    | failure job =>
      cases hevent
      rw [hupdated] at hm
      refine .inr ⟨_, hm, (transitionedRow_composite ..).trans job.found, ?_⟩
      exact (transitionedRow_status ..).symm ▸ (by decide : ¬ MessageStatus.InProgress .failed)
    | delivered report message hstatus => cases hevent
    | dlrFailed report message hstatus => cases hevent
  | event h => exact .inl ⟨_, .event h (by simp), Db.exists_key_of_enqueue _ _ _⟩
  | read h => cases hn
  | side h =>
    obtain ⟨event, stage⟩ := execution
    cases h <;> cases hevent

/-- Whatever a workflow handler has done, a message still in progress has a heavier event or one for
reconciliation. -/
theorem Events.finished_continues (hs : Snapshots world) (ev : Events world) (hs' : Snapshots world')
    (ev' : Events world') (he : execution ∈ world.executions)
    (h : Stage.Advanced env world.db execution.stage none world'.db) {row : OutboxRow} (hrow : row ∈ world.db.outbox)
    (hid : row.id = execution.event) {message : MessageRow} (hm : message ∈ world'.db.messages)
    (hfor : row.workflowFor message.composite = true) (hprogress : message.status.InProgress) :
    world'.db.Continues message.composite row.weight := by
  obtain ⟨hwork, payload, hp, hc⟩ := OutboxRow.workflowFor_eq_true.1 hfor
  obtain ⟨hhandles, hpayload⟩ := ev.source_row he hrow hid
  obtain ⟨payload', hevent⟩ := Stage.event_of_isWorkflow hhandles hwork
  cases hp.symm.trans (hpayload _ (Stage.payload_of_event hevent))
  rcases hs.emits_or_settles he hevent h with ⟨input, hemits, other, hother, hkey⟩ | ⟨settled, hsettled, hc', hdone⟩
  · refine ⟨other, hother, ?_⟩
    rw [← hc]
    rcases ev.emits_heavier he hevent hemits hrow hid with ⟨version, hinput, -⟩ | ⟨kind, version, hkind, hinput, hweight⟩
    · exact .inl ((ev'.described other hother).reconciles_of_key (hkey.trans hinput))
    · obtain ⟨hfor', hweight'⟩ := (ev'.described other hother).weight_of_key hkind (hkey.trans hinput)
      exact .inr ⟨hfor', by rw [hweight']; exact hweight⟩
  · have heq := (keyed_composite hs'.keyed).unique hsettled hm (hc'.trans hc)
    rw [heq] at hdone
    exact absurd hprogress hdone

/-- Recorded reconciliation events stay. -/
theorem Stage.Advanced.reconciliationEvents {stage : Stage} {next : Option Stage} {db db' : Db}
    (h : Stage.Advanced env db stage next db') : ∀ event ∈ db.reconciliationEvents, event ∈ db'.reconciliationEvents := by
  intro event hevent
  cases h with
  | work hw c => rwa [c.reconciliationEvents_eq]
  | event h => simpa using hevent
  | read h => exact hevent
  | side h =>
    cases h with
    | reconcile report message reason extra => simpa [Db.updateWebhook] using hevent
    | duplicate report message reason => exact hevent
    | record payload => exact List.mem_append_left _ hevent

theorem World.Stepped.reconciliationEvents {a : Action} (h : World.Stepped world a world') :
    ∀ event ∈ world.db.reconciliationEvents, event ∈ world'.db.reconciliationEvents := by
  intro event hevent
  have htransacted := h.transacted
  clear h
  generalize world'.db = db' at htransacted ⊢
  cases htransacted with
  | same a => exact hevent
  | created c =>
    have hdb := congrArg Db.reconciliationEvents c.db_eq
    rw [Db.enqueue_reconciliationEvents] at hdb
    have hbill := congrArg Db.reconciliationEvents c.bill.frame
    have hsame := hdb.trans hbill
    rwa [hsame]
  | webhook h =>
    obtain ⟨report, webhooks, nextId, rfl⟩ := acceptWebhook_ok h
    simpa using hevent
  | advanced hexec hadvance => exact hadvance.reconciliationEvents event hevent

/-- A consumed reconciliation event has been recorded. -/
theorem Events.finished_recorded (ev : Events world) (he : execution ∈ world.executions) {db' : Db}
    (h : Stage.Advanced env world.db execution.stage none db') {row : OutboxRow} (hrow : row ∈ world.db.outbox)
    (hid : row.id = execution.event) {composite : MessageCompositeId} (hfor : row.reconciles composite = true) :
    ∃ event ∈ db'.reconciliationEvents, event.about composite := by
  obtain ⟨hhandles, hpayload⟩ := ev.source_row he hrow hid
  unfold OutboxRow.reconciles at hfor
  rw [Bool.and_eq_true, decide_eq_true_eq] at hfor
  obtain ⟨ht, hnames⟩ := hfor
  rw [ht] at hhandles
  obtain ⟨event, stage⟩ := execution
  cases stage with
  | reconcile payload =>
    rw [hpayload _ rfl] at hnames
    generalize hstage : Stage.reconcile payload = stage at h
    generalize hn : (none : Option Stage) = next at h
    cases h with
    | work hw c => subst hstage; cases hw
    | event h => subst hstage; cases h
    | read h => cases hn
    | side h =>
      subst hstage
      cases h with
      | record payload =>
        refine ⟨payload.row env.clock, by simp, ?_⟩
        exact of_decide_eq_true hnames
  | _ => cases hhandles

end Handlers

/-! ### The invariant is kept -/

section Step

variable {world world' : World} {a : Action}

/-- The consumed events of the next state are rows of this one. -/
private theorem Followed.consumes_row (ev : Events world) (fol : Followed world) {event : Nat}
    (h : World.Consumes world world' event) : ∃ row ∈ world.db.outbox, row.id = event := by
  cases h with
  | before h => exact fol.known event h
  | returned row hrow hid hstart hdb => exact ⟨row, hrow, hid⟩
  | finished env execution he hid h =>
    obtain ⟨row, hrow, hrow', -⟩ := (ev.sourced execution he).row
    exact ⟨row, hrow, hrow'.trans hid⟩

/-- The message of an event before a step, when the event's message is in progress after it. -/
private theorem Events.message_before (hs : Snapshots world) (hs' : Snapshots world') (ev : Events world)
    (h : world.step a = some world') {row : OutboxRow} (hrow : row ∈ world.db.outbox) {message : MessageRow}
    (hm : message ∈ world'.db.messages) (hfor : row.workflowFor message.composite = true) :
    ∃ before ∈ world.db.messages, before.composite = message.composite ∧
      before.status.rank ≤ message.status.rank := by
  obtain ⟨before, hbefore, hc⟩ := ev.exists_message hrow hfor
  obtain ⟨after, hafter, hc', -, hrank⟩ := (World.step_cases (keyed_composite hs.keyed) h).messages.later before hbefore
  have heq := (keyed_composite hs'.keyed).unique hafter hm (hc'.trans hc)
  rw [heq] at hrank
  exact ⟨before, hbefore, hc, hrank⟩

private theorem Db.Continues.mono {db db' : Db} {composite : MessageCompositeId} {weight : Nat}
    (h : db.Continues composite weight) (ho : ∀ row ∈ db.outbox, row ∈ db'.outbox) :
    db'.Continues composite weight := by
  obtain ⟨row, hrow, hcontinues⟩ := h
  exact ⟨row, ho row hrow, hcontinues⟩

private theorem Followed.step_heavier (hs : Snapshots world) (hs' : Snapshots world') (ev : Events world)
    (ev' : Events world') (fol : Followed world) (h : world.step a = some world') {row : OutboxRow}
    (hrow : row ∈ world.db.outbox) (hconsumes : World.Consumes world world' row.id) {message : MessageRow}
    (hm : message ∈ world'.db.messages) (hfor : row.workflowFor message.composite = true)
    (hprogress : message.status.InProgress) : world'.db.Continues message.composite row.weight := by
  cases hconsumes with
  | before hbefore =>
    obtain ⟨before, hmem, hc, hrank⟩ := ev.message_before hs hs' h hrow hm hfor
    have hprogress' : before.status.InProgress :=
      MessageStatus.inProgress_iff_rank.2 (hrank.trans (MessageStatus.inProgress_iff_rank.1 hprogress))
    have hcontinues := fol.heavier row hrow hbefore before hmem (by rw [hc]; exact hfor) hprogress'
    rw [hc] at hcontinues
    exact hcontinues.mono fun row hrow => (hs.world_emits h).mem_of_mem hrow
  | returned row' hrow' hid hstart hdb =>
    obtain rfl : row' = row := ev.row_unique hrow' hrow hid
    rw [hdb] at hm ⊢
    have hretry : row'.topicName = .smsRetry → 2 ≤ message.status.rank :=
      fun ht => fol.retry row' hrow ht message hm hfor
    rcases ev.admits_or_heavier (keyed_composite hs.keyed) hrow hm hfor hprogress hretry with hadmits | hheavier
    · obtain ⟨hwork, payload, hp, hc⟩ := OutboxRow.workflowFor_eq_true.1 hfor
      cases startHandler_none hstart with
      | message payload' message' hp' hm' hc' hstatus =>
        cases hp.symm.trans hp'
        rw [(keyed_composite hs.keyed).unique hm' hm (hc'.trans hc)] at hstatus
        exact absurd hadmits hstatus
      | webhook ht =>
        rw [ht] at hwork
        cases hwork
    · obtain ⟨other, hother, hheavier⟩ := hheavier
      exact ⟨other, hother, .inr hheavier⟩
  | finished env execution he hid hadvance =>
    exact ev.finished_continues hs hs' ev' he hadvance hrow hid.symm hm hfor hprogress

private theorem Followed.step_recorded (hs : Snapshots world) (ev : Events world) (fol : Followed world)
    (h : world.step a = some world') {row : OutboxRow} (hrow : row ∈ world.db.outbox)
    (hconsumes : World.Consumes world world' row.id) {composite : MessageCompositeId}
    (hfor : row.reconciles composite = true) : ∃ event ∈ world'.db.reconciliationEvents, event.about composite := by
  cases hconsumes with
  | before hbefore =>
    obtain ⟨event, hevent, habout⟩ := fol.recorded row hrow hbefore composite hfor
    exact ⟨event, (World.step_cases (keyed_composite hs.keyed) h).reconciliationEvents event hevent, habout⟩
  | returned row' hrow' hid hstart hdb =>
    obtain rfl : row' = row := ev.row_unique hrow' hrow hid
    unfold OutboxRow.reconciles at hfor
    rw [Bool.and_eq_true, decide_eq_true_eq] at hfor
    obtain ⟨ht, hnames⟩ := hfor
    cases startHandler_none hstart with
    | message payload message hp hm hc hstatus =>
      rw [hp] at hnames
      cases hnames
    | webhook ht' => cases ht.symm.trans ht'
  | finished env execution he hid hadvance => exact ev.finished_recorded he hadvance hrow hid.symm hfor

/-- An event of `sms.retry` that an execution enqueues is about a message that is `submitting`, except after a throttle
of a routed message. -/
private theorem Snapshots.emits_retry (hs' : Snapshots world') {index : Nat}
    {env : Environment} {execution : Execution} (hexec : world.executions[index]? = some execution)
    (hok : world.throttlesRouted (.advance index env) = false) {input : OutboxEventInput}
    (h : Stage.Emits env world.db world'.db execution.stage input) {clock : TxClock} {id : Nat}
    (ht : input.topicName = .smsRetry) {message : MessageRow} (hm : message ∈ world'.db.messages)
    (hfor : (input.row clock id).workflowFor message.composite = true) : 2 ≤ message.status.rank := by
  obtain ⟨-, payload, hp, hc⟩ := OutboxRow.workflowFor_eq_true.1 hfor
  have hcurrent : ∀ {row : MessageRow}, row ∈ world'.db.messages → row.composite = payload.toComposite →
      message = row := fun hrow hrc => (keyed_composite hs'.keyed).unique hm hrow (hc.symm.trans hrc.symm)
  unfold World.throttlesRouted at hok
  dsimp only at hok
  rw [hexec] at hok
  obtain ⟨event, stage⟩ := execution
  cases h with
  | follow hw hbefore htrigger hafter hin =>
    cases hw with
    | accepted job route hroute =>
      cases hin
      have hdispatch := isDispatch_dispatchTopicFor job.message.trafficType
      rw [show dispatchTopicFor job.message.trafficType = .smsRetry from ht] at hdispatch
      cases hdispatch
    | throttle job haction =>
      cases hin
      cases hp
      rw [hcurrent hafter job.found]
      change 2 ≤ job.message.status.rank
      have hstatus : job.message.status = .routed ∨ job.message.status = .submitting := by simpa using job.admitted
      rcases hstatus with hstatus | hstatus
      · have hnow : job.message.stateChangedAt < env.clock.now := by
          by_contra hle
          rw [enforce_not_later rfl (not_lt.1 hle)] at htrigger
          cases htrigger
        exact absurd ⟨hbefore, hstatus, hnow, haction⟩ (of_decide_eq_false hok)
      · rw [hstatus]
        decide
    | unknown job =>
      cases hin
      cases ht
    | retrySubmit job retryPolicy nextRoute hpolicy hretry =>
      cases hin
      cases hp
      rw [hcurrent hafter job.found]
      change 2 ≤ job.message.status.rank
      have hstatus : job.message.status = .submitting := by simpa using job.admitted
      rw [hstatus]
      decide
    | attempt job => cases hin
    | ack job haccepted => cases hin
    | failure job => cases hin
    | delivered report message hstatus => cases hin
    | dlrFailed report message hstatus => cases hin
  | event h hsame =>
    cases h with
    | retry job =>
      have hdispatch := isDispatch_dispatchTopicFor job.message.trafficType
      rw [show dispatchTopicFor job.message.trafficType = .smsRetry from ht] at hdispatch
      cases hdispatch
    | dispatched job submittingVersion result => cases ht
  | reconcile report message reason extra hstage => cases ht

private theorem Followed.step_retry (hs : Snapshots world) (hs' : Snapshots world') (ev : Events world)
    (fol : Followed world) (hok : world.throttlesRouted a = false) (h : world.step a = some world') {row : OutboxRow}
    (hrow : row ∈ world'.db.outbox) (ht : row.topicName = .smsRetry) {message : MessageRow}
    (hm : message ∈ world'.db.messages) (hfor : row.workflowFor message.composite = true) :
    2 ≤ message.status.rank := by
  rcases (hs.world_emits h).origin hrow with hold | ⟨clock, input, hemits, rfl⟩
  · obtain ⟨before, hbefore, hc, hrank⟩ := ev.message_before hs hs' h hold hm hfor
    exact (fol.retry row hold ht before hbefore (by rw [hc]; exact hfor)).trans hrank
  · cases hemits with
    | created hm' hmessage => cases ht
    | webhook report => cases ht
    | advanced hexec hconsumed hemits => exact hs'.emits_retry hexec hok hemits ht hm hfor

theorem Followed.step (hs : Snapshots world) (hs' : Snapshots world') (ev : Events world) (ev' : Events world')
    (fol : Followed world) (hok : world.throttlesRouted a = false) (h : world.step a = some world') :
    Followed world' := by
  have hconsumes : ∀ {event : Nat}, event ∈ world'.consumed → World.Consumes world world' event :=
    fun hevent => (World.step_cases (keyed_composite hs.keyed) h).consumes hevent
  -- a consumed row of the new outbox stood in the old one
  have hbefore : ∀ row ∈ world'.db.outbox, row.id ∈ world'.consumed → row ∈ world.db.outbox := by
    intro row hrow hevent
    obtain ⟨row', hrow', hid⟩ := fol.consumes_row ev (hconsumes hevent)
    rwa [ev'.row_unique hrow ((hs.world_emits h).mem_of_mem hrow') hid.symm]
  refine ⟨?_, ?_, ?_, ?_⟩
  · intro event hevent
    obtain ⟨row, hrow, hid⟩ := fol.consumes_row ev (hconsumes hevent)
    exact ⟨row, (hs.world_emits h).mem_of_mem hrow, hid⟩
  · intro row hrow hevent message hm hfor hprogress
    exact fol.step_heavier hs hs' ev ev' h (hbefore row hrow hevent) (hconsumes hevent) hm hfor hprogress
  · intro row hrow hevent composite hfor
    exact fol.step_recorded hs ev h (hbefore row hrow hevent) (hconsumes hevent) hfor
  · intro row hrow ht message hm hfor
    exact fol.step_retry hs hs' ev hok h hrow ht hm hfor

end Step

theorem followed_of_runs {wallets : TenantId → Option WalletRow} {world : World}
    (h : Transition.Runs World.step (fun world a => world.throttlesRouted a = false) (World.initial wallets) world) :
    Followed world :=
  h.invariant_of (Q := fun world => Snapshots world ∧ Events world)
    (fun _ hr => ⟨snapshots_of_reaches hr.reaches, events_of_reaches hr.reaches⟩) (Followed.initial wallets)
    fun _ _ _ hq hq' fol hok hstep => fol.step hq.1 hq'.1 hq.2 hq'.2 hok hstep

/-! ### The heaviest event -/

/-- The heaviest event of a message moves it, or has been followed by one for reconciliation. -/
theorem Followed.hasWork {world : World} (hs : Snapshots world) (ev : Events world) (fol : Followed world)
    {message : MessageRow} (hm : message ∈ world.db.messages) (hprogress : message.status.InProgress) :
    world.HasWork message := by
  have hkeyed := keyed_composite hs.keyed
  obtain ⟨first, hfirst, hkey⟩ := ev.accepted message hm
  obtain ⟨payload, hp, hc, -, ht, -⟩ := (ev.described first hfirst).of_acceptedKey hkey
  have hmem : first ∈ world.db.outbox.filter (·.workflowFor message.composite) := by
    refine List.mem_filter.2 ⟨hfirst, OutboxRow.workflowFor_eq_true.2 ⟨?_, payload, hp, hc⟩⟩
    rw [ht]
    rfl
  cases hrow : (world.db.outbox.filter (·.workflowFor message.composite)).argmax OutboxRow.weight with
  | none =>
    rw [List.argmax_eq_none.1 hrow] at hmem
    cases hmem
  | some row =>
    obtain ⟨hmember, hfor⟩ := List.mem_filter.1 (List.argmax_mem hrow)
    have hmax : ∀ other ∈ world.db.outbox, other.workflowFor message.composite = true → ¬ row.weight < other.weight :=
      fun other hother hfor' => not_lt.2 (List.le_of_mem_argmax (List.mem_filter.2 ⟨hother, hfor'⟩) hrow)
    by_cases hconsumed : row.id ∈ world.consumed
    · right
      obtain ⟨other, hother, hreconciles | ⟨hfor', hweight⟩⟩ := fol.heavier row hmember hconsumed message hm hfor hprogress
      · by_cases hrecorded : other.id ∈ world.consumed
        · exact .inr (fol.recorded other hother hrecorded _ hreconciles)
        · exact .inl ⟨other, hother, hrecorded, hreconciles⟩
      · exact absurd hweight (hmax other hother hfor')
    · left
      refine ⟨row, hmember, hconsumed, hfor, ?_, ?_⟩
      · have hretry : row.topicName = .smsRetry → 2 ≤ message.status.rank :=
          fun ht => fol.retry row hmember ht message hm hfor
        rcases ev.admits_or_heavier hkeyed hmember hm hfor hprogress hretry with hadmits | ⟨other, hother, hfor', hweight⟩
        · exact hadmits
        · exact absurd hweight (hmax other hother hfor')
      · -- the dispatch event of this version would be heavier than the retry event it came from
        intro ht other hother hkey'
        obtain ⟨hfor', hweight⟩ := (ev.described other hother).weight_of_key (by decide) hkey'
        refine hmax other hother hfor' ?_
        obtain ⟨hwork, payload', hp', hc'⟩ := OutboxRow.workflowFor_eq_true.1 hfor
        have hversion := (ev.described row hmember).version_le hkeyed hwork hp' hm hc'.symm
        rw [(ev.described row hmember).weight_of_retry hp' ht, hweight]
        change 2 * payload'.version < 2 * message.version + 1
        omega

/-- No message is orphaned in a run without a throttle of a routed message: in every reachable state a message that is
in progress, or that keeps its funds reserved, has an unconsumed event that moves it, or reconciliation has it. -/
theorem in_progress_has_work {wallets : TenantId → Option WalletRow} {world : World}
    (h : Transition.Runs World.step (fun world a => world.throttlesRouted a = false) (World.initial wallets) world) :
    ∀ message ∈ world.db.messages, message.status.InProgress ∨ message.billingState = .reserved →
      world.HasWork message := by
  intro message hm hreserved
  have hprogress : message.status.InProgress := by
    rcases hreserved with hprogress | hreserved
    · exact hprogress
    · exact ((sound_of_reaches h.reaches).accounts.status message hm).1 hreserved
  exact (followed_of_runs h).hasWork (snapshots_of_reaches h.reaches) (events_of_reaches h.reaches) hm hprogress

namespace Sample

/-- Submit, route, and attempt a dispatch that the provider refuses: the retry event is left. -/
def refused : List Action :=
  [.submit (clock 1) submission, .deliver 0, .advance 0 (env 2 (services .allow 3 refuses)),
    .deliver 1, .advance 0 (env 3 (services .allow 3 refuses)), .advance 0 (env 4 (services .allow 3 refuses)),
    .advance 0 (env 5 (services .allow 3 refuses)), .deliver 2, .advance 0 (env 6 (services .allow 3 refuses))]

/-- The routed message is throttled, and its retry event is consumed. -/
def throttled : List Action :=
  [.submit (clock 1) submission, .deliver 0, .advance 0 (env 2 (services .allow 3 refuses)),
    .deliver 1, .advance 0 (env 3 (services .throttle 3 refuses)), .deliver 2]

end Sample

theorem in_progress_has_work_refused : ∃ world, Transition.execute
      (Transition.guarded World.step fun world a => !world.throttlesRouted a) (World.initial (Sample.wallets 100))
        Sample.refused = some world ∧
    ∃ message ∈ world.db.messages, message.status = .submitting ∧ world.HasWork message := by
  have h : (Transition.execute (Transition.guarded World.step fun world a => !world.throttlesRouted a)
      (World.initial (Sample.wallets 100)) Sample.refused).any (fun world =>
        world.db.messages.any fun message => decide (message.status = .submitting)) = true := by decide +kernel
  obtain ⟨world, hrun, hany⟩ := (Option.any_eq_true _ _).1 h
  obtain ⟨message, hm, hstatus⟩ := List.any_eq_true.1 hany
  have hstatus : message.status = .submitting := of_decide_eq_true hstatus
  have hruns := (Transition.runs_of_execute hrun).mono fun world a hp => by simpa using hp
  exact ⟨world, hrun, message, hm, hstatus, in_progress_has_work hruns message hm (.inl (.inr (.inr hstatus)))⟩

/-- The throttle of a routed message strands it: every event is consumed, no handler runs, nothing is recorded for
reconciliation, and the message is `routed` with its funds reserved. -/
theorem throttled_message_orphaned : ∃ world, Transition.Reaches World.step (World.initial (Sample.wallets 100)) world ∧
    world.executions.length = 0 ∧ (∀ row ∈ world.db.outbox, row.id ∈ world.consumed) ∧
      ∃ message ∈ world.db.messages, message.status = .routed ∧ message.billingState = .reserved ∧
        ¬ world.HasWork message := by
  have h : (Sample.run Sample.throttled).any (fun world => decide (world.executions.length = 0 ∧
      (∀ row ∈ world.db.outbox, row.id ∈ world.consumed) ∧ ∃ message ∈ world.db.messages,
        message.status = .routed ∧ message.billingState = .reserved ∧ ¬ world.HasWork message)) = true := by
    decide +kernel
  obtain ⟨world, hrun, hfacts⟩ := (Option.any_eq_true _ _).1 h
  exact ⟨world, Transition.reaches_of_execute hrun, of_decide_eq_true hfacts⟩

end SmsPlatform
