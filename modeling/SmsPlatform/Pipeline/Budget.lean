import SmsPlatform.Pipeline.Tokens

/-!
# The budget of attempts

How many attempts a message can take when every event is handled once and no retry policy allows more than `bound`
attempts.  A message gets its first attempt when it is `routed`, and every further one from a retry that the policy has
allowed; the allowance travels with the event of the message, through `sms.retry`, a fraud throttle and a change of
route (`Budget.allowed`), and is spent when the attempt opens.
-/

namespace SmsPlatform

/-- No retry policy that the step consults allows more than `bound` attempts. -/
def Action.policiesWithin (bound : Int) : Action → Prop
  | .advance _ env => ∀ tenantId providerId trafficType,
      (env.services.getRetryPolicy tenantId providerId trafficType).maxAttempts ≤ bound
  | _ => True

/-- An execution of the event has opened an attempt that it has not reported yet. -/
def World.Spent (world : World) (event : Nat) : Prop :=
  ∃ execution ∈ world.executions, execution.event = event ∧ execution.stage.attempt.isSome = true

/-- The events that lead to an attempt of a message that is `submitting`. -/
def KafkaTopic.leadsToAttempt (topic : KafkaTopic) : Bool :=
  topic.isDispatch || decide (topic = .smsRetry)

structure Budget (bound : Int) (world : World) : Prop where
  unattempted : ∀ message ∈ world.db.messages, message.status.rank ≤ 1 → message.attemptCount = 0
  bounded : ∀ message ∈ world.db.messages, (message.attemptCount : Int) ≤ max 1 bound
  allowed : ∀ row ∈ world.db.outbox, row.id ∉ world.consumed → row.topicName.leadsToAttempt = true →
    ∀ message ∈ world.db.messages, row.workflowFor message.composite = true → message.status = .submitting →
      world.Spent row.id ∨ (message.attemptCount : Int) + 1 ≤ max 1 bound

theorem Budget.initial (bound : Int) (wallets : TenantId → Option WalletRow) :
    Budget bound (World.initial wallets) where
  unattempted := by
    intro message hm
    cases hm
  bounded := by
    intro message hm
    cases hm
  allowed := by
    intro row hrow
    cases hrow

section Step

variable {bound : Int} {world world' : World} {a : Action}

/-- An event whose execution stands before its attempt has not been spent. -/
theorem Tokens.not_spent (tok : Tokens world) {execution : Execution} (he : execution ∈ world.executions)
    (hstage : execution.stage.attempt = none) : ¬ world.Spent execution.event := by
  rintro ⟨other, hother, hid, hspent⟩
  rw [List.inj_on_of_nodup_map tok.alone hother he hid, hstage] at hspent
  cases hspent

/-- The allowance that comes with the event of an execution. -/
private theorem Budget.allowance (ev : Events world) (tok : Tokens world) (budget : Budget bound world)
    {execution : Execution} (he : execution ∈ world.executions) (hattempt : execution.stage.attempt = none)
    {payload : MessageEventPayload} (hevent : execution.stage.event = some payload)
    (htopics : ∀ topic, execution.stage.handles topic = true → topic.leadsToAttempt = true) {message : MessageRow}
    (hm : message ∈ world.db.messages) (hc : message.composite = payload.toComposite)
    (hstatus : message.status = .submitting) : (message.attemptCount : Int) + 1 ≤ max 1 bound := by
  obtain ⟨row, hrow, hid, hhandles, hpayload⟩ := (ev.sourced execution he).row
  have hp := hpayload _ (Stage.payload_of_event hevent)
  have hfor : row.workflowFor message.composite = true :=
    OutboxRow.workflowFor_eq_true.2 ⟨Stage.isWorkflow_of_event hevent hhandles, payload, hp, hc.symm⟩
  have hunconsumed : row.id ∉ world.consumed := by
    rw [hid]
    exact tok.pending execution he
  rcases budget.allowed row hrow hunconsumed (htopics _ hhandles) message hm hfor hstatus with hspent | hallowed
  · rw [hid] at hspent
    exact absurd hspent (tok.not_spent he hattempt)
  · exact hallowed

/-! ### The counts -/

private theorem Budget.step_bounded (hs : Snapshots world) (ev : Events world) (tok : Tokens world)
    (budget : Budget bound world) (h : world.step a = some world') : ∀ message ∈ world'.db.messages,
      (message.attemptCount : Int) ≤ max 1 bound := by
  intro message hm
  cases hs.origin h hm with
  | kept hkept => exact budget.bounded message hkept
  | created clock submission hnew =>
    rw [hnew]
    change ((0 : Nat) : Int) ≤ max 1 bound
    omega
  | written hexec hw hbefore hwritten hfits =>
    rename_i env execution work next
    rcases hw.attemptCount with hcount | ⟨hcount, job, hstage, hwork⟩
    · rw [hwritten, hcount]
      exact budget.bounded work.message hbefore
    · rw [hwritten, hcount]
      have hmessage : work.message = job.message := by rw [hwork]; rfl
      rw [hmessage] at hbefore ⊢
      have hstatus : job.message.status = .routed ∨ job.message.status = .submitting := by simpa using job.admitted
      rcases hstatus with hstatus | hstatus
      · -- the first attempt
        have hzero := budget.unattempted job.message hbefore (by rw [hstatus]; decide)
        omega
      · have hallowed : (job.message.attemptCount : Int) + 1 ≤ max 1 bound := by
          have hevent : execution.stage.event = some job.payload := by rw [hstage]; rfl
          refine budget.allowance ev tok (List.mem_of_getElem? hexec) (by rw [hstage]; rfl) hevent ?_ hbefore job.found
            hstatus
          intro topic hhandles
          rw [hstage] at hhandles
          unfold KafkaTopic.leadsToAttempt
          rw [show topic.isDispatch = true from hhandles]
          rfl
        omega

/-! ### The allowance -/

theorem mem_eraseIdx_or_eq {index : Nat} {execution other : Execution}
    (hexec : world.executions[index]? = some execution) (hother : other ∈ world.executions) :
    other = execution ∨ other ∈ world.executions.eraseIdx index :=
  List.mem_cons.1 ((Rows.perm_cons_eraseIdx hexec).mem_iff.1 hother)

/-- A step of an execution past its attempt that is not the last one leads past the attempt again. -/
private theorem Stage.Advanced.attempt_kept {env : Environment} {db db' : Db} {stage next : Stage}
    (h : Stage.Advanced env db stage (some next) db') (hattempt : stage.attempt.isSome = true) :
    next.attempt.isSome = true := by
  generalize hn : some next = o at h
  cases h with
  | work hw c =>
    cases hw with
    | attempt job => cases hattempt
    | _ => cases hn
  | event h => cases hn
  | read h =>
    cases hn
    cases h with
    | provider job submittingVersion => rfl
    | webhook payload report => cases hattempt
  | side h => cases hn

/-- An attempt that has not been reported stays open until its event is consumed. -/
theorem World.Stepped.spent (h : World.Stepped world a world') (hok : world.handlesOnce a = true) {event : Nat}
    (hspent : world.Spent event) (hunconsumed : event ∉ world'.consumed) : world'.Spent event := by
  obtain ⟨other, hother, hid, hattempt⟩ := hspent
  cases h with
  | started hrow hstart => exact ⟨other, List.mem_cons_of_mem _ hother, hid, hattempt⟩
  | crashed hexec =>
    rcases mem_eraseIdx_or_eq hexec hother with rfl | hmem
    · unfold World.handlesOnce at hok
      dsimp only at hok
      rw [hexec] at hok
      simp only [Option.all_some, Option.isNone_iff_eq_none] at hok
      rw [hok] at hattempt
      cases hattempt
    · exact ⟨other, hmem, hid, hattempt⟩
  | threw hexec hadvance =>
    rcases mem_eraseIdx_or_eq hexec hother with rfl | hmem
    · -- neither the call of the provider nor the report of its result throws
      obtain ⟨otherEvent, stage⟩ := other
      cases stage with
      | provider job submittingVersion => cases hadvance
      | dispatched job submittingVersion result => cases hadvance
      | _ => cases hattempt
    · exact ⟨other, hmem, hid, hattempt⟩
  | continued hexec hadvance =>
    rcases mem_eraseIdx_or_eq hexec hother with rfl | hmem
    · exact ⟨_, List.mem_cons_self .., hid, hadvance.attempt_kept hattempt⟩
    · exact ⟨other, List.mem_cons_of_mem _ hmem, hid, hattempt⟩
  | finished hexec hadvance =>
    rcases mem_eraseIdx_or_eq hexec hother with rfl | hmem
    · exact absurd (hid ▸ List.mem_cons_self ..) hunconsumed
    · exact ⟨other, hmem, hid, hattempt⟩
  | _ => exact ⟨other, hother, hid, hattempt⟩

/-- The event of an execution that writes a message is the unconsumed event of the message, unless it is a delivery
report that settles the message. -/
private theorem Tokens.source_of_work (ev : Events world) (tok : Tokens world) {env : Environment}
    {execution : Execution} (he : execution ∈ world.executions) {work : GuardedWork}
    {next : MessageRow → Option Stage} (hw : Stage.WorkOf env execution.stage work next) {row : OutboxRow}
    (hrow : row ∈ world.db.outbox) (hunconsumed : row.id ∉ world.consumed)
    (hfor : row.workflowFor work.message.composite = true)
    (hstatus : (work.assign work.message).status = .submitting) : execution.event = row.id := by
  have hevent : ∃ payload, execution.stage.event = some payload ∧ work.message.composite = payload.toComposite := by
    obtain ⟨event, stage⟩ := execution
    cases hw with
    | accepted job route hroute => exact ⟨_, rfl, job.found⟩
    | throttle job haction => exact ⟨_, rfl, job.found⟩
    | attempt job => exact ⟨_, rfl, job.found⟩
    | ack job haccepted => exact ⟨_, rfl, job.found⟩
    | unknown job => exact ⟨_, rfl, job.found⟩
    | retrySubmit job retryPolicy nextRoute hpolicy hretry => exact ⟨_, rfl, job.found⟩
    | failure job => exact ⟨_, rfl, job.found⟩
    | delivered report message hs => cases hstatus
    | dlrFailed report message hs => cases hstatus
  obtain ⟨payload, hevent, hc⟩ := hevent
  obtain ⟨source, hsource, hid, hhandles, hpayload⟩ := (ev.sourced execution he).row
  have hp := hpayload _ (Stage.payload_of_event hevent)
  have hsourceFor : source.workflowFor work.message.composite = true :=
    OutboxRow.workflowFor_eq_true.2 ⟨Stage.isWorkflow_of_event hevent hhandles, payload, hp, hc.symm⟩
  have hpending : source.id ∉ world.consumed := by
    rw [hid]
    exact tok.pending execution he
  rw [← hid, tok.unique hsource hrow hpending hunconsumed hsourceFor hfor]

private theorem Budget.step_allowed_old (hs : Snapshots world) (ev : Events world) (tok : Tokens world)
    (budget : Budget bound world) (hok : world.handlesOnce a = true) (h : world.step a = some world')
    {row : OutboxRow} (hrow : row ∈ world.db.outbox) (hunconsumed : row.id ∉ world'.consumed)
    (htopic : row.topicName.leadsToAttempt = true) {message : MessageRow} (hm : message ∈ world'.db.messages)
    (hfor : row.workflowFor message.composite = true) (hstatus : message.status = .submitting) :
    world'.Spent row.id ∨ (message.attemptCount : Int) + 1 ≤ max 1 bound := by
  have hstepped := World.step_cases (keyed_composite hs.keyed) h
  have hbefore : row.id ∉ world.consumed := fun hconsumed => hunconsumed (hstepped.consumed_subset _ hconsumed)
  have hkept : message ∈ world.db.messages →
      world'.Spent row.id ∨ (message.attemptCount : Int) + 1 ≤ max 1 bound := by
    intro hmem
    rcases budget.allowed row hrow hbefore htopic message hmem hfor hstatus with hspent | hallowed
    · exact .inl (hstepped.spent hok hspent hunconsumed)
    · exact .inr hallowed
  have hwritten : ∀ {env : Environment} {execution : Execution} {work : GuardedWork}
      {next : MessageRow → Option Stage}, execution ∈ world.executions → Stage.WorkOf env execution.stage work next →
        message = work.assign work.message → execution.event = row.id := by
    intro env execution work next he hw hmessage
    have hcontent := (hw.rowStep rfl).content
    rw [← hmessage] at hcontent
    rw [MessageRow.composite_of_content hcontent] at hfor
    exact tok.source_of_work ev he hw hrow hbefore hfor (hmessage ▸ hstatus)
  clear h
  cases hstepped with
  | created c =>
    rw [c.messages_eq.1, List.mem_append, List.mem_singleton] at hm
    rcases hm with hm | rfl
    · exact hkept hm
    · rw [c.message_eq] at hstatus
      cases hstatus
  | webhook h =>
    obtain ⟨report, webhooks, nextId, rfl⟩ := acceptWebhook_ok h
    exact hkept (by simpa using hm)
  | continued hexec hadvance =>
    rename_i index env execution stage db'
    have he := List.mem_of_getElem? hexec
    generalize hn : some stage = next at hadvance
    cases hadvance with
    | work hw c =>
      have hold := hs.committed_old he hw c
      rw [c.messages_eq] at hm
      rcases Rows.mem_replace (r := c.old) hm with hupdated | hm
      · have hid := hwritten he hw (by rw [hupdated, c.updated_eq, hold])
        have hopened : stage.attempt.isSome = true := by
          generalize execution.stage = before at hw
          cases hw with
          | attempt job => cases hn; rfl
          | _ => cases hn
        exact .inl ⟨_, List.mem_cons_self .., hid, hopened⟩
      · exact hkept (by rw [c.messages]; exact hm)
    | event h => cases hn
    | read h => exact hkept hm
    | side h => cases hn
  | finished hexec hadvance =>
    rename_i index env execution db'
    have he := List.mem_of_getElem? hexec
    generalize hn : (none : Option Stage) = next at hadvance
    cases hadvance with
    | work hw c =>
      have hold := hs.committed_old he hw c
      rw [c.messages_eq] at hm
      rcases Rows.mem_replace (r := c.old) hm with hupdated | hm
      · have hid := hwritten he hw (by rw [hupdated, c.updated_eq, hold])
        exact absurd (hid ▸ List.mem_cons_self ..) hunconsumed
      · exact hkept (by rw [c.messages]; exact hm)
    | event h => exact hkept (by simpa using hm)
    | read h => cases hn
    | side h => exact hkept (h.frame.1 ▸ hm)
  | _ => exact hkept hm

theorem attemptCount_lt_of_shouldRetry {payload : MessageEventPayload} {message : MessageRow}
    {retryPolicy : RetryPolicy} (h : shouldRetry payload message retryPolicy = true) :
    (message.attemptCount : Int) < retryPolicy.maxAttempts := by
  unfold shouldRetry at h
  split at h
  · cases h
  · simp only [Bool.and_eq_true, decide_eq_true_eq] at h
    exact h.2

theorem leadsToAttempt_of_isDispatch {topic : KafkaTopic} (h : topic.isDispatch = true) :
    topic.leadsToAttempt = true := by
  unfold KafkaTopic.leadsToAttempt
  rw [h]
  rfl

private theorem Budget.emitted (hs' : Snapshots world') (ev : Events world) (tok : Tokens world)
    (budget : Budget bound world) {index : Nat} {env : Environment} {execution : Execution}
    (he : execution ∈ world.executions) (hbound : (Action.advance index env).policiesWithin bound)
    {input : OutboxEventInput} (h : Stage.Emits env world.db world'.db execution.stage input) {clock : TxClock}
    {id : Nat} (htopic : input.topicName.leadsToAttempt = true) {message : MessageRow}
    (hm : message ∈ world'.db.messages) (hfor : (input.row clock id).workflowFor message.composite = true)
    (hstatus : message.status = .submitting) : (message.attemptCount : Int) + 1 ≤ max 1 bound := by
  obtain ⟨-, payload, hp, hc⟩ := OutboxRow.workflowFor_eq_true.1 hfor
  have hcurrent : ∀ {row : MessageRow}, row ∈ world'.db.messages → row.composite = payload.toComposite →
      message = row := fun hrow hrc => (keyed_composite hs'.keyed).unique hm hrow (hc.symm.trans hrc.symm)
  obtain ⟨event, stage⟩ := execution
  cases h with
  | follow hw hbefore htrigger hafter hin =>
    cases hw with
    | accepted job route hroute =>
      cases hin
      cases hp
      rw [hcurrent hafter job.found] at hstatus
      cases hstatus
    | throttle job haction =>
      cases hin
      cases hp
      rw [hcurrent hafter job.found] at hstatus ⊢
      have hallowed : (job.message.attemptCount : Int) + 1 ≤ max 1 bound :=
        budget.allowance ev tok he rfl rfl (fun _ => leadsToAttempt_of_isDispatch) hbefore job.found hstatus
      exact hallowed
    | unknown job =>
      cases hin
      cases htopic
    | retrySubmit job retryPolicy nextRoute hpolicy hretry =>
      cases hin
      cases hp
      rw [hcurrent hafter job.found]
      change (job.message.attemptCount : Int) + 1 ≤ max 1 bound
      -- the policy that allowed the retry
      have hpolicyBound : retryPolicy.maxAttempts ≤ bound := hpolicy ▸ hbound _ _ _
      have hattempts := attemptCount_lt_of_shouldRetry hretry
      omega
    | attempt job => cases hin
    | ack job haccepted => cases hin
    | failure job => cases hin
    | delivered report message hstatus => cases hin
    | dlrFailed report message hstatus => cases hin
  | event h hsame =>
    rw [hsame] at hm
    cases h with
    | retry job =>
      cases hp
      refine budget.allowance ev tok he rfl rfl ?_ hm hc.symm hstatus
      intro topic hhandles
      rw [show topic = .smsRetry from of_decide_eq_true hhandles]
      rfl
    | dispatched job submittingVersion result => cases htopic
  | reconcile report message reason extra hstage => cases htopic

private theorem Budget.step_allowed (hs : Snapshots world) (hs' : Snapshots world') (ev : Events world)
    (tok : Tokens world) (budget : Budget bound world) (hok : world.handlesOnce a = true)
    (hbound : a.policiesWithin bound) (h : world.step a = some world') : ∀ row ∈ world'.db.outbox,
      row.id ∉ world'.consumed → row.topicName.leadsToAttempt = true → ∀ message ∈ world'.db.messages,
        row.workflowFor message.composite = true → message.status = .submitting →
          world'.Spent row.id ∨ (message.attemptCount : Int) + 1 ≤ max 1 bound := by
  intro row hrow hunconsumed htopic message hm hfor hstatus
  rcases (hs.world_emits h).origin hrow with hold | ⟨clock, input, hemits, rfl⟩
  · exact budget.step_allowed_old hs ev tok hok h hold hunconsumed htopic hm hfor hstatus
  · cases hemits with
    | created hm' hmessage => cases htopic
    | webhook report => cases htopic
    | advanced hexec hconsumed hemits =>
      exact .inr (budget.emitted hs' ev tok (List.mem_of_getElem? hexec) hbound hemits htopic hm hfor hstatus)

theorem Budget.step (hs : Snapshots world) (hs' : Snapshots world') (ev : Events world) (tok : Tokens world)
    (budget : Budget bound world) (hok : world.handlesOnce a = true) (hbound : a.policiesWithin bound)
    (h : world.step a = some world') : Budget bound world' where
  unattempted := hs.unattempted_step budget.unattempted h
  bounded := budget.step_bounded hs ev tok h
  allowed := budget.step_allowed hs hs' ev tok hok hbound h

end Step

theorem budget_of_runs {wallets : TenantId → Option WalletRow} {bound : Int} {world : World}
    (h : Transition.Runs World.step (fun world a => world.handlesOnce a = true ∧ a.policiesWithin bound)
      (World.initial wallets) world) : Budget bound world :=
  h.invariant_of (Q := fun world => Snapshots world ∧ Events world ∧ Tokens world)
    (fun _ hr => ⟨snapshots_of_reaches hr.reaches, events_of_reaches hr.reaches,
      tokens_of_runs (hr.mono fun _ _ hok => hok.1)⟩)
    (Budget.initial bound wallets)
    fun _ _ _ hq hq' budget hok hstep => budget.step hq.1 hq'.1 hq.2.1 hq.2.2 hok.1 hok.2 hstep

/-- In a run that handles every event once, in every reachable state: a message has at most one unconsumed event of the
workflow; no such event has met the dedupe key of an earlier one; and if no retry policy of the run allows more than
`bound` attempts, no message counts more than `max 1 bound` attempts, nor is handed to a provider more often. -/
theorem one_event_in_flight {wallets : TenantId → Option WalletRow} {world : World}
    (h : Transition.Runs World.step (fun world a => world.handlesOnce a = true) (World.initial wallets) world) :
    (∀ composite, ∀ row ∈ world.db.outbox, ∀ other ∈ world.db.outbox, row.id ∉ world.consumed →
      other.id ∉ world.consumed → row.workflowFor composite = true → other.workflowFor composite = true →
        row = other) ∧
    (∀ input ∈ world.db.suppressed, input.topicName.isWorkflow = false) ∧
    ∀ bound, Transition.Runs World.step (fun world a => world.handlesOnce a = true ∧ a.policiesWithin bound)
        (World.initial wallets) world →
      ∀ message ∈ world.db.messages, (message.attemptCount : Int) ≤ max 1 bound ∧
        ((world.submitsOf message.composite).length : Int) ≤ max 1 bound := by
  have htokens := tokens_of_runs h
  refine ⟨?_, htokens.kept, ?_⟩
  · intro composite row hrow other hother hunconsumed hunconsumed' hfor hfor'
    exact htokens.unique hrow hother hunconsumed hunconsumed' hfor hfor'
  · intro bound hruns message hm
    have hbounded := (budget_of_runs hruns).bounded message hm
    have hsubmits := (counted_of_reaches h.reaches).submits_le (snapshots_of_reaches h.reaches) hm
    exact ⟨hbounded, by omega⟩

/-- A refused attempt, its retry, and a second attempt under a policy of two. -/
def Sample.retried : List Action :=
  [.submit (clock 1) submission, .deliver 0, .advance 0 (env 2 (services .allow 2 refuses)),
    .deliver 1, .advance 0 (env 3 (services .allow 2 refuses)), .advance 0 (env 4 (services .allow 2 refuses)),
    .advance 0 (env 5 (services .allow 2 refuses)), .deliver 2, .advance 0 (env 6 (services .allow 2 refuses)),
    .deliver 3, .advance 0 (env 7 (services .allow 2 refuses)),
    .deliver 4, .advance 0 (env 8 (services .allow 2 refuses)), .advance 0 (env 9 (services .allow 2 refuses))]

theorem one_event_in_flight_retried : ∃ world, Transition.execute
      (Transition.guarded World.step World.handlesOnce) (World.initial (Sample.wallets 100)) Sample.retried =
        some world ∧
    (∀ composite, ∀ row ∈ world.db.outbox, ∀ other ∈ world.db.outbox, row.id ∉ world.consumed →
      other.id ∉ world.consumed → row.workflowFor composite = true → other.workflowFor composite = true →
        row = other) ∧
    ∃ message ∈ world.db.messages, message.attemptCount = 2 ∧ (message.attemptCount : Int) ≤ max 1 2 ∧
      ((world.submitsOf message.composite).length : Int) ≤ max 1 2 := by
  have h : (Transition.execute (Transition.guarded World.step World.handlesOnce) (World.initial (Sample.wallets 100))
      Sample.retried).any (fun world => world.db.messages.any fun message => decide (message.attemptCount = 2)) =
        true := by decide +kernel
  obtain ⟨world, hrun, hany⟩ := (Option.any_eq_true _ _).1 h
  obtain ⟨message, hm, hcount⟩ := List.any_eq_true.1 hany
  have hpolicies : ∀ a ∈ Sample.retried, a.policiesWithin 2 := by
    simp [Sample.retried, Action.policiesWithin, Sample.env, Sample.services]
  have hflight := one_event_in_flight (Transition.runs_of_execute hrun)
  have hbounded := hflight.2.2 2 (Transition.runs_of_execute_all hpolicies hrun) message hm
  exact ⟨world, hrun, hflight.1, message, hm, of_decide_eq_true hcount, hbounded⟩

end SmsPlatform
