import SmsPlatform.Pipeline.World

/-!
# What a step of the pipeline can do

The inversion of `Stage.advance` and of `World.step`: a step of an execution is a guarded work, a bare enqueue, a
read, or a write to tables that no message depends on (`Stage.Advanced`); a step of the world is one of these, a new
message, a webhook, the start or the end of an execution, or nothing (`World.Stepped`).  Every invariant of the
pipeline is proved from these two lists and from what is known of each guarded work (`Stage.WorkOf`).
-/

namespace SmsPlatform

open StateExcept

namespace Stage

/-- The guarded works of a stage, with the stage that follows their commit. -/
inductive WorkOf (env : Environment) : Stage → GuardedWork → (MessageRow → Option Stage) → Prop
  | accepted (job : Job [.accepted]) (route : RouteDecision)
      (hroute : env.services.selectRoute job.message.tenantId job.message.phoneNumber job.message.trafficType
        (acceptedRouteOptions job.message) = .ok route) :
      WorkOf env (.accepted job) (acceptedWork env.clock job.payload job.message route) fun _ => none
  | throttle (job : Job [.routed, .submitting])
      (haction : (env.services.evaluate (fraudInput job.payload job.message)).action = .throttle) :
      WorkOf env (.dispatch job) (fraudThrottleWork env.clock job.payload job.message
        (env.services.evaluate (fraudInput job.payload job.message))) fun _ => none
  | attempt (job : Job [.routed, .submitting])
      (haction : (env.services.evaluate (fraudInput job.payload job.message)).action ≠ .throttle) :
      WorkOf env (.dispatch job) (submitAttemptWork env.clock job.payload job.message)
        fun updated => some (.provider job updated.version)
  | ack (job : Job [.submitting]) (haccepted : job.payload.accepted = some true) :
      WorkOf env (.result job) (submitAckWork env.clock job.payload job.message) fun _ => none
  | unknown (job : Job [.submitting]) (haccepted : job.payload.accepted.getD false = false) :
      WorkOf env (.result job) (submitUnknownWork env.clock job.payload job.message) fun _ => none
  | retrySubmit (job : Job [.submitting]) (retryPolicy : RetryPolicy) (nextRoute : Option RouteDecision)
      (hpolicy : env.services.getRetryPolicy job.message.tenantId (job.message.providerId.getD 0)
        job.message.trafficType = retryPolicy)
      (hretry : shouldRetry job.payload job.message retryPolicy = true)
      (hroute : nextRoute = (env.services.selectRoute job.message.tenantId job.message.phoneNumber
        job.message.trafficType (retryRouteOptions job.payload job.message)).toOption)
      (haccepted : job.payload.accepted.getD false = false) (huncertain : job.payload.uncertain.getD false = false) :
      WorkOf env (.result job) (submitRetryWork env.clock job.payload job.message retryPolicy nextRoute) fun _ => none
  | failure (job : Job [.submitting]) (haccepted : job.payload.accepted.getD false = false) :
      WorkOf env (.result job) (finalFailureWork env.clock job.payload job.message) fun _ => none
  | delivered (report : DlrWebhookRow) (message : MessageRow) (hstatus : message.status = .providerAccepted) :
      WorkOf env (.correlated report (some message)) (dlrDeliveredWork env.clock report message) fun _ => none
  | dlrFailed (report : DlrWebhookRow) (message : MessageRow)
      (hstatus : message.status = .providerAccepted ∨ message.status = .submitting) :
      WorkOf env (.correlated report (some message)) (dlrFailedWork env.clock env.printer report message)
        fun _ => none

/-- The events that a stage enqueues without writing a message. -/
inductive EventOf : Stage → OutboxEventInput → Prop
  | retry (job : Job [.submitting]) : EventOf (.retry job) (retryDispatchEvent job.payload job.message)
  | dispatched (job : Job [.routed, .submitting]) (submittingVersion : Nat) (execution : DispatchExecutionResult) :
      EventOf (.dispatched job submittingVersion execution)
        (dispatchResultEvent job.payload job.message submittingVersion execution)

/-- The steps that only look at the database. -/
inductive ReadOf (env : Environment) (db : Db) : Stage → Stage → Prop
  | provider (job : Job [.routed, .submitting]) (submittingVersion : Nat) :
      ReadOf env db (.provider job submittingVersion)
        (.dispatched job submittingVersion (dispatchThroughProvider env.services db job.payload))
  | webhook (payload : DlrEventPayload) (report : DlrWebhookRow) (message : Option MessageRow)
      (hfound : report.correlate env.readings db env.clock env.tie payload.providerId = .ok message) :
      ReadOf env db (.webhook payload report) (.correlated report message)

/-- The writes to webhooks and reconciliation events. -/
inductive SideOf (env : Environment) (db : Db) : Stage → Db → Prop
  | reconcile (report : DlrWebhookRow) (message : Option MessageRow) (reason : String) (extra : DlrReconcileExtra) :
      SideOf env db (.correlated report message)
        ((db.enqueue env.clock (dlrReconcileEvent env.printer report reason extra)).updateWebhook report.receivedDate
          report.id fun row => { row with processed := true, processingError := some reason })
  | duplicate (report : DlrWebhookRow) (message : Option MessageRow) (reason : String) :
      SideOf env db (.correlated report message) (db.updateWebhook report.receivedDate report.id fun row =>
        { row with processed := true, processingError := some reason })
  | record (payload : ReconciliationPayload) :
      SideOf env db (.reconcile payload)
        { db with reconciliationEvents := db.reconciliationEvents ++ [payload.row env.clock] }

/-- Everything a successful step of an execution can have done. -/
inductive Advanced (env : Environment) (db : Db) (stage : Stage) : Option Stage → Db → Prop
  | work {work : GuardedWork} {next : MessageRow → Option Stage} {updated : MessageRow} {db' : Db}
      (h : WorkOf env stage work next) (committed : work.Committed env.clock db updated db') :
      Advanced env db stage (next updated) db'
  | event {input : OutboxEventInput} (h : EventOf stage input) :
      Advanced env db stage none (db.enqueue env.clock input)
  | read {next : Stage} (h : ReadOf env db stage next) : Advanced env db stage (some next) db
  | side {db' : Db} (h : SideOf env db stage db') : Advanced env db stage none db'

/-! ### The inversion of `advance` -/

variable {env : Environment} {db db' : Db}

private theorem exec_ok {work : GuardedWork} {clock : TxClock} {u : Unit}
    (h : (work.exec clock).run db = .ok (u, db')) :
    ∃ updated, Nonempty (work.Committed clock db updated db') := by
  obtain ⟨updated, db₁, hrun, hret⟩ := bind_eq_ok.1 h
  cases hret
  exact ⟨updated, GuardedWork.run_ok hrun⟩

/-- The tail `return none` of the handlers that end with their transaction. -/
private theorem then_none_ok {x : Tx Unit} {next : Option Stage}
    (h : (do x; return (none : Option Stage) : Tx (Option Stage)).run db = .ok (next, db')) :
    next = none ∧ x.run db = .ok ((), db') := by
  obtain ⟨_, db₁, hrun, hret⟩ := bind_eq_ok.1 h
  cases hret
  exact ⟨rfl, hrun⟩

private theorem work_exec {stage : Stage} {work : GuardedWork} (hw : WorkOf env stage work fun _ => none)
    (h : (work.exec env.clock).run db = .ok ((), db')) : Advanced env db stage none db' := by
  obtain ⟨updated, ⟨committed⟩⟩ := exec_ok h
  exact .work hw committed

private theorem advance_dispatch (hk : Rows.Keyed MessageRow.composite db.messages) (job : Job [.routed, .submitting])
    {next : Option Stage} (h : ((Stage.dispatch job).advance env).run db = .ok (next, db')) :
    Advanced env db (.dispatch job) next db' := by
  have hstatus : job.message.status = .routed ∨ job.message.status = .submitting := by
    simpa using job.admitted
  unfold advance at h
  dsimp only at h
  cases haction : (env.services.evaluate (fraudInput job.payload job.message)).action with
  | block =>
    rw [haction] at h
    exact absurd (then_none_ok h).2 (fraudBlockTx_fails env.clock job.payload job.message _ hk _)
  | throttle =>
    rw [haction] at h
    obtain ⟨rfl, hrun⟩ := then_none_ok h
    rw [fraudThrottleTx_eq] at hrun
    exact work_exec (.throttle job haction) hrun
  | allow =>
    rw [haction] at h
    obtain ⟨updated, db₁, hrun, hret⟩ := bind_eq_ok.1 h
    cases hret
    rw [submitAttemptTx_eq env.clock job.payload job.message hstatus] at hrun
    obtain ⟨committed⟩ := GuardedWork.run_ok hrun
    exact .work (.attempt job (by rw [haction]; decide)) committed
  | alert =>
    rw [haction] at h
    obtain ⟨updated, db₁, hrun, hret⟩ := bind_eq_ok.1 h
    cases hret
    rw [submitAttemptTx_eq env.clock job.payload job.message hstatus] at hrun
    obtain ⟨committed⟩ := GuardedWork.run_ok hrun
    exact .work (.attempt job (by rw [haction]; decide)) committed

private theorem advance_result (job : Job [.submitting])
    (h : (handleDispatchResultTx env.services env.clock job.payload job.message).run db = .ok ((), db')) :
    Advanced env db (.result job) none db' := by
  have hstatus : job.message.status = .submitting := by simpa using job.admitted
  unfold handleDispatchResultTx at h
  split at h
  · rename_i haccepted
    rw [submitAckTx_eq env.clock job.payload job.message hstatus] at h
    exact work_exec (.ack job (by simpa [Option.getD_eq_iff] using haccepted)) h
  · rename_i haccepted
    split at h
    · rw [submitUnknownTx_eq] at h
      exact work_exec (.unknown job (by simpa using haccepted)) h
    · rename_i huncertain
      dsimp only at h
      split at h
      · rename_i hretry
        rw [submitRetryTx_eq] at h
        exact work_exec (.retrySubmit job _ _ rfl hretry rfl (by simpa using haccepted) (by simpa using huncertain)) h
      · rw [finalFailureTx_eq env.clock job.payload job.message hstatus] at h
        exact work_exec (.failure job (by simpa using haccepted)) h

private theorem advance_reconcile (report : DlrWebhookRow) (message : Option MessageRow) (reason : String)
    (extra : DlrReconcileExtra)
    (h : (enqueueReconciliation env.clock env.printer report reason extra).run db = .ok ((), db')) :
    Advanced env db (.correlated report message) none db' := by
  obtain ⟨_, db₁, henqueue, hmark⟩ := bind_eq_ok.1 h
  cases henqueue
  cases hmark
  exact .side (.reconcile report message reason extra)

private theorem advance_duplicate (report : DlrWebhookRow) (message : Option MessageRow) (reason : String)
    (h : (markProcessed report reason).run db = .ok ((), db')) :
    Advanced env db (.correlated report message) none db' := by
  cases h
  exact .side (.duplicate report message reason)

private theorem advance_correlated (report : DlrWebhookRow) (message : Option MessageRow)
    (h : (processCorrelatedTx env.readings env.clock env.printer report message).run db = .ok ((), db')) :
    Advanced env db (.correlated report message) none db' := by
  cases message with
  | none => exact advance_reconcile _ _ _ _ h
  | some message =>
    unfold processCorrelatedTx at h
    dsimp only at h
    split at h
    · exact advance_reconcile _ _ _ _ h
    · exact advance_reconcile _ _ _ _ h
    · split at h
      · exact advance_duplicate _ _ _ h
      · split at h
        · exact advance_reconcile _ _ _ _ h
        · rename_i hstatus
          rw [dlrDeliveredTx_eq _ _ _ (by simpa using hstatus)] at h
          exact work_exec (.delivered report message (by simpa using hstatus)) h
    · split at h
      · exact advance_duplicate _ _ _ h
      · split at h
        · exact advance_reconcile _ _ _ _ h
        · rename_i hstatus
          have hstatus : message.status = .providerAccepted ∨ message.status = .submitting := by
            by_contra hne
            exact hstatus (by simpa [not_or] using hne)
          rw [dlrFailedTx_eq _ _ _ _ hstatus] at h
          exact work_exec (.dlrFailed report message hstatus) h

/-- Every successful step of an execution is in the list. -/
theorem advance_ok (hk : Rows.Keyed MessageRow.composite db.messages) {stage : Stage} {next : Option Stage}
    (h : (stage.advance env).run db = .ok (next, db')) : Advanced env db stage next db' := by
  cases stage with
  | accepted job =>
    have hstatus : job.message.status = .accepted := by simpa using job.admitted
    unfold advance at h
    dsimp only at h
    split at h
    · cases h
    · rename_i route hroute
      obtain ⟨rfl, hrun⟩ := then_none_ok h
      rw [handleAcceptedTx_eq env.clock job.payload job.message route hstatus] at hrun
      exact work_exec (.accepted job route hroute) hrun
  | retry job =>
    obtain ⟨rfl, hrun⟩ := then_none_ok h
    cases hrun
    exact .event (.retry job)
  | dispatch job => exact advance_dispatch hk job h
  | provider job submittingVersion =>
    cases h
    exact .read (.provider job submittingVersion)
  | dispatched job submittingVersion execution =>
    obtain ⟨rfl, hrun⟩ := then_none_ok h
    cases hrun
    exact .event (.dispatched job submittingVersion execution)
  | result job =>
    obtain ⟨rfl, hrun⟩ := then_none_ok h
    exact advance_result job hrun
  | webhook payload report =>
    unfold advance at h
    rw [bind_of_ok (a := db) (t := db) rfl] at h
    cases hfound : report.correlate env.readings db env.clock env.tie payload.providerId with
    | error failure =>
      rw [hfound] at h
      cases h
    | ok message =>
      rw [hfound] at h
      cases h
      exact .read (.webhook payload report message hfound)
  | correlated report message =>
    obtain ⟨rfl, hrun⟩ := then_none_ok h
    exact advance_correlated report message hrun
  | reconcile payload =>
    obtain ⟨rfl, hrun⟩ := then_none_ok h
    cases hrun
    exact .side (.record payload)

/-! ### The stages that write a message -/

/-- The next step of the stage is a transaction that updates the message. -/
def writesMessage (env : Environment) : Stage → Bool
  | .accepted job => (env.services.selectRoute job.message.tenantId job.message.phoneNumber job.message.trafficType
      (acceptedRouteOptions job.message)).isOk
  | .dispatch _ => true
  | .result _ => true
  | .correlated report (some message) =>
    decide ((report.normalizedStatus = some .delivered ∧ message.status = .providerAccepted) ∨
      (report.normalizedStatus = some .failed ∧
        (message.status = .providerAccepted ∨ message.status = .submitting)))
  | _ => false

/-- The next step of the stage is the transaction of a block verdict. -/
def blocks (env : Environment) : Stage → Bool
  | .dispatch job => decide ((env.services.evaluate (fraudInput job.payload job.message)).action = .block)
  | _ => false

/-- The columns hold what the next step of the stage writes: a further attempt overflows the count some day, and the
result of an attempt may bring an id or an error code that is too long. -/
def storable (env : Environment) : Stage → Bool
  | .dispatch job => decide ((env.services.evaluate (fraudInput job.payload job.message)).action = .throttle ∨
      job.message.attemptCount < maxSmallint)
  | .result job => decide job.payload.Storable
  | _ => true

theorem exec_then_none (work : GuardedWork) (clock : TxClock) :
    (do work.exec clock; return none : Tx (Option Stage)) = do let _ ← work.run clock; return none := by
  simp only [GuardedWork.exec, bind_assoc, pure_bind]

/-- A stage that writes a message runs one guarded work, except for a block verdict. -/
theorem advance_work {stage : Stage} (hwrites : stage.writesMessage env = true) (hblocks : stage.blocks env = false) :
    ∃ work next, WorkOf env stage work next ∧
      stage.advance env = do let updated ← work.run env.clock; return next updated := by
  cases stage with
  | accepted job =>
    have hs : job.message.status = .accepted := by simpa using job.admitted
    simp only [writesMessage] at hwrites
    cases hroute : env.services.selectRoute job.message.tenantId job.message.phoneNumber job.message.trafficType
        (acceptedRouteOptions job.message) with
    | error e => rw [hroute] at hwrites; cases hwrites
    | ok route =>
      refine ⟨_, _, .accepted job route hroute, ?_⟩
      unfold advance
      dsimp only
      rw [hroute]
      dsimp only
      rw [handleAcceptedTx_eq _ _ _ _ hs, exec_then_none]
  | dispatch job =>
    have hs : job.message.status = .routed ∨ job.message.status = .submitting := by simpa using job.admitted
    simp only [blocks, decide_eq_false_iff_not] at hblocks
    unfold advance
    dsimp only
    cases haction : (env.services.evaluate (fraudInput job.payload job.message)).action with
    | block => exact absurd haction hblocks
    | throttle =>
      dsimp only
      rw [fraudThrottleTx_eq, exec_then_none]
      exact ⟨_, _, .throttle job haction, rfl⟩
    | allow =>
      dsimp only
      rw [submitAttemptTx_eq _ _ _ hs]
      exact ⟨_, _, .attempt job (by rw [haction]; decide), rfl⟩
    | alert =>
      dsimp only
      rw [submitAttemptTx_eq _ _ _ hs]
      exact ⟨_, _, .attempt job (by rw [haction]; decide), rfl⟩
  | result job =>
    have hs : job.message.status = .submitting := by simpa using job.admitted
    unfold advance
    dsimp only
    unfold handleDispatchResultTx
    split
    · rename_i haccepted
      rw [submitAckTx_eq _ _ _ hs, exec_then_none]
      exact ⟨_, _, .ack job (by simpa [Option.getD_eq_iff] using haccepted), rfl⟩
    · rename_i haccepted
      split
      · rw [submitUnknownTx_eq, exec_then_none]
        exact ⟨_, _, .unknown job (by simpa using haccepted), rfl⟩
      · rename_i huncertain
        dsimp only
        split
        · rename_i hretry
          rw [submitRetryTx_eq, exec_then_none]
          exact ⟨_, _, .retrySubmit job _ _ rfl hretry rfl (by simpa using haccepted) (by simpa using huncertain), rfl⟩
        · rw [finalFailureTx_eq _ _ _ hs, exec_then_none]
          exact ⟨_, _, .failure job (by simpa using haccepted), rfl⟩
  | correlated report message =>
    cases message with
    | none => cases hwrites
    | some message =>
      unfold advance processCorrelatedTx
      dsimp only
      simp only [writesMessage, decide_eq_true_eq] at hwrites
      rcases hwrites with ⟨hn, hs⟩ | ⟨hn, hs⟩
      · rw [hn]
        dsimp only
        rw [if_neg (by rw [hs]; decide), if_neg (by rw [hs]; decide), dlrDeliveredTx_eq _ _ _ hs, exec_then_none]
        exact ⟨_, _, .delivered report message hs, rfl⟩
      · rw [hn]
        dsimp only
        rw [if_neg (by rcases hs with hs | hs <;> rw [hs] <;> decide),
          if_neg (by rcases hs with hs | hs <;> rw [hs] <;> decide), dlrFailedTx_eq _ _ _ _ hs, exec_then_none]
        exact ⟨_, _, .dlrFailed report message hs, rfl⟩
  | retry job => cases hwrites
  | provider job submittingVersion => cases hwrites
  | dispatched job submittingVersion execution => cases hwrites
  | webhook payload report => cases hwrites
  | reconcile payload => cases hwrites

/-- Calling a provider is part of a step that does not throw. -/
theorem submits_of_error {stage : Stage} {failure : Failure} (h : (stage.advance env).run db = .error failure) :
    stage.submits env db = none := by
  cases stage with
  | provider job submittingVersion => cases h
  | _ => rfl

end Stage

/-- A report is correlated by the lookup of its webhook only. -/
theorem Stage.Advanced.to_correlated {env : Environment} {db db' : Db} {stage : Stage} {report : DlrWebhookRow}
    {message : Option MessageRow} (h : Stage.Advanced env db stage (some (.correlated report message)) db') :
    ∃ payload, stage = .webhook payload report ∧ db' = db ∧
      message = correlateMessageForDlr db env.clock env.tie
        (report.correlationInput env.readings payload.providerId) := by
  generalize ho : some (Stage.correlated report message) = o at h
  cases h with
  | work hw c =>
    cases hw with
    | attempt job => cases ho
    | _ => cases ho
  | event h => cases ho
  | side h => cases ho
  | read h =>
    cases h with
    | provider job submittingVersion => cases ho
    | webhook payload report' message' hfound =>
      cases ho
      exact ⟨payload, rfl, rfl, DlrWebhookRow.correlate_ok hfound⟩

/-! ### The start of a handler -/

/-- The statuses in which the handler of a topic goes on. -/
def KafkaTopic.admits : KafkaTopic → List MessageStatus
  | .smsAccepted => [.accepted]
  | .smsDispatchRealtime => [.routed, .submitting]
  | .smsDispatchBulk => [.routed, .submitting]
  | .smsRetry => [.submitting]
  | .smsDispatchResults => [.submitting]
  | .smsDlr => []
  | .smsReconcile => []

def KafkaTopic.isDispatch (topic : KafkaTopic) : Bool :=
  decide (topic = .smsDispatchRealtime ∨ topic = .smsDispatchBulk)

/-- How a handler can have started. -/
inductive Started (db : Db) (row : OutboxRow) : Stage → Prop
  | accepted (job : Job [.accepted]) (ht : row.topicName = .smsAccepted) (hp : row.payload = .message job.payload)
      (hm : job.message ∈ db.messages) : Started db row (.accepted job)
  | dispatch (job : Job [.routed, .submitting]) (ht : row.topicName.isDispatch = true)
      (hp : row.payload = .message job.payload) (hm : job.message ∈ db.messages) : Started db row (.dispatch job)
  | retry (job : Job [.submitting]) (ht : row.topicName = .smsRetry) (hp : row.payload = .message job.payload)
      (hm : job.message ∈ db.messages) : Started db row (.retry job)
  | result (job : Job [.submitting]) (ht : row.topicName = .smsDispatchResults)
      (hp : row.payload = .message job.payload) (hm : job.message ∈ db.messages) : Started db row (.result job)
  | webhook (payload : DlrEventPayload) (report : DlrWebhookRow) (ht : row.topicName = .smsDlr)
      (hp : row.payload = .dlr payload) : Started db row (.webhook payload report)
  | reconcile (payload : ReconciliationPayload) (ht : row.topicName = .smsReconcile)
      (hp : row.payload = .reconcile payload) : Started db row (.reconcile payload)

/-- How a handler can have returned early. -/
inductive Returned (db : Db) (row : OutboxRow) : Prop
  | message (payload : MessageEventPayload) (message : MessageRow) (hp : row.payload = .message payload)
      (hm : message ∈ db.messages) (hc : message.composite = payload.toComposite)
      (hs : message.status ∉ row.topicName.admits)
  | webhook (ht : row.topicName = .smsDlr)

private theorem read_some {statuses : List MessageStatus} {db : Db} {payload : MessageEventPayload}
    {job : Job statuses} (h : Job.read statuses db payload = .ok (some job)) :
    job.payload = payload ∧ job.message ∈ db.messages := by
  unfold Job.read at h
  split at h
  · cases h
  · rename_i message hget
    split at h
    · cases h
      exact ⟨rfl, (getMessageRow_mem hget).1⟩
    · cases h

private theorem read_none {statuses : List MessageStatus} {db : Db} {payload : MessageEventPayload}
    (h : Job.read statuses db payload = .ok none) :
    ∃ message ∈ db.messages, message.composite = payload.toComposite ∧ message.status ∉ statuses := by
  unfold Job.read at h
  split at h
  · cases h
  · rename_i message hget
    split at h
    · cases h
    · rename_i hs
      exact ⟨message, (getMessageRow_mem hget).1, (getMessageRow_mem hget).2, hs⟩

private theorem read_stage {statuses : List MessageStatus} {db : Db} {payload : MessageEventPayload}
    {f : Job statuses → Stage} {stage : Stage}
    (h : (Job.read statuses db payload).map (Option.map f) = .ok (some stage)) :
    ∃ job, stage = f job ∧ job.payload = payload ∧ job.message ∈ db.messages := by
  obtain ⟨o, hread, ho⟩ := except_map_eq_ok.1 h
  obtain ⟨job, rfl, rfl⟩ := Option.map_eq_some_iff.1 ho
  exact ⟨job, rfl, read_some hread⟩

theorem startHandler_some {db : Db} {row : OutboxRow} {stage : Stage}
    (h : startHandler db row = .ok (some stage)) : Started db row stage := by
  unfold startHandler at h
  split at h
  · rename_i payload ht hp
    obtain ⟨job, rfl, rfl, hm⟩ := read_stage h
    exact .accepted job ht hp hm
  · rename_i payload ht hp
    obtain ⟨job, rfl, rfl, hm⟩ := read_stage h
    exact .dispatch job (by rw [ht]; rfl) hp hm
  · rename_i payload ht hp
    obtain ⟨job, rfl, rfl, hm⟩ := read_stage h
    exact .dispatch job (by rw [ht]; rfl) hp hm
  · rename_i payload ht hp
    obtain ⟨job, rfl, rfl, hm⟩ := read_stage h
    exact .retry job ht hp hm
  · rename_i payload ht hp
    obtain ⟨job, rfl, rfl, hm⟩ := read_stage h
    exact .result job ht hp hm
  · rename_i payload ht hp
    split at h
    · cases h
    · split at h
      · cases h
      · cases h
        exact .webhook payload _ ht hp
  · rename_i payload ht hp
    cases h
    exact .reconcile payload ht hp
  · cases h

private theorem read_return {statuses : List MessageStatus} {db : Db} {row : OutboxRow}
    {payload : MessageEventPayload} {f : Job statuses → Stage}
    (h : (Job.read statuses db payload).map (Option.map f) = .ok none) (hp : row.payload = .message payload)
    (ht : row.topicName.admits = statuses) : Returned db row := by
  obtain ⟨o, hread, ho⟩ := except_map_eq_ok.1 h
  obtain ⟨message, hm, hc, hs⟩ := read_none (Option.map_eq_none_iff.1 ho ▸ hread)
  exact .message payload message hp hm hc (ht ▸ hs)

theorem startHandler_none {db : Db} {row : OutboxRow} (h : startHandler db row = .ok none) : Returned db row := by
  unfold startHandler at h
  split at h
  · rename_i payload ht hp
    exact read_return h hp (by rw [ht]; rfl)
  · rename_i payload ht hp
    exact read_return h hp (by rw [ht]; rfl)
  · rename_i payload ht hp
    exact read_return h hp (by rw [ht]; rfl)
  · rename_i payload ht hp
    exact read_return h hp (by rw [ht]; rfl)
  · rename_i payload ht hp
    exact read_return h hp (by rw [ht]; rfl)
  · rename_i payload ht hp
    exact .webhook ht
  · cases h
  · cases h

/-! ### The inversion of a step of the world -/

namespace World

/-- Everything a step of the world can have done. -/
inductive Stepped (world : World) : Action → World → Prop
  | refused (a : Action) : Stepped world a world
  | created {clock : TxClock} {submission : Submission} {message : MessageRow} {db' : Db}
      (c : Created clock submission world.db message db') :
      Stepped world (.submit clock submission) { world with db := db' }
  | webhook {clock : TxClock} {printer : DatePrinter} {input : DlrWebhookInput} {db' : Db}
      (h : (acceptWebhook clock printer input).run world.db = .ok ((), db')) :
      Stepped world (.acceptWebhook clock printer input) { world with db := db' }
  | started {row : OutboxRow} {stage : Stage} (hrow : row ∈ world.db.outbox)
      (hstart : startHandler world.db row = .ok (some stage)) :
      Stepped world (.deliver row.id) { world with executions := ⟨row.id, stage⟩ :: world.executions }
  | returned {row : OutboxRow} (hrow : row ∈ world.db.outbox) (hstart : startHandler world.db row = .ok none) :
      Stepped world (.deliver row.id) { world with consumed := row.id :: world.consumed }
  | crashed {index : Nat} {execution : Execution} (hexec : world.executions[index]? = some execution) :
      Stepped world (.crash index) { world with executions := world.executions.eraseIdx index }
  | threw {index : Nat} {env : Environment} {execution : Execution} {failure : Failure}
      (hexec : world.executions[index]? = some execution)
      (hadvance : (execution.stage.advance env).run world.db = .error failure) :
      Stepped world (.advance index env) { world with executions := world.executions.eraseIdx index }
  | continued {index : Nat} {env : Environment} {execution : Execution} {stage : Stage} {db' : Db}
      (hexec : world.executions[index]? = some execution)
      (hadvance : Stage.Advanced env world.db execution.stage (some stage) db') :
      Stepped world (.advance index env)
        { world with
          db := db'
          executions := ⟨execution.event, stage⟩ :: world.executions.eraseIdx index
          submits := world.submitsAfter execution env }
  | finished {index : Nat} {env : Environment} {execution : Execution} {db' : Db}
      (hexec : world.executions[index]? = some execution)
      (hadvance : Stage.Advanced env world.db execution.stage none db') :
      Stepped world (.advance index env)
        { db := db'
          executions := world.executions.eraseIdx index
          consumed := execution.event :: world.consumed
          submits := world.submitsAfter execution env }

theorem step_cases {world world' : World} {a : Action}
    (hk : Rows.Keyed MessageRow.composite world.db.messages) (h : world.step a = some world') :
    Stepped world a world' := by
  cases a with
  | submit clock submission =>
    cases h
    unfold withTransaction
    split
    · rename_i message db' hrun
      rcases submitMessageWithContext_ok hrun with hsame | hcreated
      · rw [hsame]
        exact .refused _
      · obtain ⟨c⟩ := hcreated
        exact .created c
    · exact .refused _
  | acceptWebhook clock printer input =>
    cases h
    unfold withTransaction
    split
    · rename_i u db' hrun
      exact .webhook hrun
    · exact .refused _
  | deliver event =>
    obtain ⟨row, hfind, rfl⟩ := Option.map_eq_some_iff.1 h
    have hrow : row ∈ world.db.outbox := List.mem_of_find?_eq_some hfind
    have hid : row.id = event := by simpa using List.find?_some hfind
    subst hid
    unfold World.deliver
    split
    · exact .refused _
    · rename_i hstart
      exact .returned hrow hstart
    · rename_i stage hstart
      exact .started hrow hstart
  | advance index env =>
    obtain ⟨execution, hexec, rfl⟩ := Option.map_eq_some_iff.1 h
    unfold World.advance withTransaction
    cases hrun : (execution.stage.advance env).run world.db with
    | error failure =>
      have hsubmits : world.submitsAfter execution env = world.submits := by
        unfold World.submitsAfter
        rw [Stage.submits_of_error hrun]
      simp only [hsubmits]
      exact .threw hexec hrun
    | ok r =>
      obtain ⟨next, db'⟩ := r
      cases next with
      | none => exact .finished hexec (Stage.advance_ok hk hrun)
      | some stage => exact .continued hexec (Stage.advance_ok hk hrun)
  | crash index =>
    unfold World.step at h
    dsimp only at h
    split at h
    · rename_i hlt
      cases h
      exact .crashed (List.getElem?_eq_getElem hlt)
    · cases h

/-- What a step does with the database: nothing, or the transaction of a submission, a webhook or one execution. -/
inductive Transacted (world : World) : Action → Db → Prop
  | same (a : Action) : Transacted world a world.db
  | created {clock : TxClock} {submission : Submission} {message : MessageRow} {db' : Db}
      (c : Created clock submission world.db message db') : Transacted world (.submit clock submission) db'
  | webhook {clock : TxClock} {printer : DatePrinter} {input : DlrWebhookInput} {db' : Db}
      (h : (acceptWebhook clock printer input).run world.db = .ok ((), db')) :
      Transacted world (.acceptWebhook clock printer input) db'
  | advanced {index : Nat} {env : Environment} {execution : Execution} {next : Option Stage} {db' : Db}
      (hexec : world.executions[index]? = some execution)
      (hadvance : Stage.Advanced env world.db execution.stage next db') : Transacted world (.advance index env) db'

theorem Stepped.transacted {world world' : World} {a : Action} (h : Stepped world a world') :
    Transacted world a world'.db := by
  cases h with
  | created c => exact .created c
  | webhook h => exact .webhook h
  | continued hexec hadvance => exact .advanced hexec hadvance
  | finished hexec hadvance => exact .advanced hexec hadvance
  | _ => exact .same _

/-- Where an execution in flight comes from: it was there before the step, has been started, or has been advanced. -/
inductive Flight (world : World) (a : Action) (db' : Db) : Execution → Prop
  | kept {execution : Execution} (he : execution ∈ world.executions) : Flight world a db' execution
  | started {row : OutboxRow} {stage : Stage} (hrow : row ∈ world.db.outbox) (ha : a = .deliver row.id)
      (hdb : db' = world.db) (hstart : Started world.db row stage) : Flight world a db' ⟨row.id, stage⟩
  | continued {index : Nat} {env : Environment} {execution : Execution} {stage : Stage} (ha : a = .advance index env)
      (hexec : world.executions[index]? = some execution)
      (hadvance : Stage.Advanced env world.db execution.stage (some stage) db') :
      Flight world a db' ⟨execution.event, stage⟩

theorem Stepped.flight {world world' : World} {a : Action} (h : Stepped world a world') {execution : Execution}
    (he : execution ∈ world'.executions) : Flight world a world'.db execution := by
  cases h with
  | started hrow hstart =>
    rcases List.mem_cons.1 he with rfl | he
    · exact .started hrow rfl rfl (startHandler_some hstart)
    · exact .kept he
  | crashed hexec => exact .kept (List.mem_of_mem_eraseIdx he)
  | threw hexec hadvance => exact .kept (List.mem_of_mem_eraseIdx he)
  | continued hexec hadvance =>
    rcases List.mem_cons.1 he with rfl | he
    · exact .continued rfl hexec hadvance
    · exact .kept (List.mem_of_mem_eraseIdx he)
  | finished hexec hadvance => exact .kept (List.mem_of_mem_eraseIdx he)
  | _ => exact .kept he

/-- A message that an execution has correlated was correlated before the step, or is what the lookup has just found. -/
theorem Stepped.correlated_origin {world world' : World} {a : Action} (h : Stepped world a world')
    {execution : Execution} (he : execution ∈ world'.executions) {report : DlrWebhookRow} {message : Option MessageRow}
    (hstage : execution.stage = .correlated report message) :
    execution ∈ world.executions ∨ ∃ clock tie input, correlateMessageForDlr world.db clock tie input = message := by
  cases h.flight he with
  | kept he => exact .inl he
  | started hrow ha hdb hstart =>
    dsimp only at hstage
    rw [hstage] at hstart
    cases hstart
  | continued ha hexec hadvance =>
    dsimp only at hstage
    rw [hstage] at hadvance
    obtain ⟨payload, -, -, hfound⟩ := hadvance.to_correlated
    exact .inr ⟨_, _, _, hfound.symm⟩

end World

end SmsPlatform
