import SmsPlatform.Pipeline.Snapshots

/-!
# The events of the workflow

What every row of the outbox is (`Described`): the event of a message that exists, under the key of its kind and of a
version the message has reached, in a status the kind presupposes; or an event for reconciliation or of a delivery
report.  Every execution handles a row of the outbox (`Sourced`).  The weight of a workflow event orders the events of
a message: what a handler enqueues weighs more than the event it handles (`Snapshots.emits_heavier`).
-/

namespace SmsPlatform

open Segments StateExcept Optimistic

/-! ### Kinds, topics and weights -/

/-- The topics whose consumers move a message along. -/
def KafkaTopic.isWorkflow : KafkaTopic → Bool
  | .smsAccepted => true
  | .smsDispatchRealtime => true
  | .smsDispatchBulk => true
  | .smsRetry => true
  | .smsDispatchResults => true
  | .smsDlr => false
  | .smsReconcile => false

/-- The kinds of workflow event are sent to these topics. -/
def WorkflowKind.sends : WorkflowKind → KafkaTopic → Bool
  | .dispatch, topic => topic.isDispatch
  | .retryDispatch, topic => topic.isDispatch
  | .fraudThrottle, topic => decide (topic = .smsRetry)
  | .retry, topic => decide (topic = .smsRetry)
  | .dispatchResult, topic => decide (topic = .smsDispatchResults)
  | .dispatchUncertain, topic => decide (topic = .smsReconcile)

def WorkflowKind.eventType : WorkflowKind → EventType
  | .dispatch => .messageDispatch
  | .retryDispatch => .messageDispatchRetry
  | .fraudThrottle => .messageRetry
  | .retry => .messageRetry
  | .dispatchResult => .messageDispatchResult
  | .dispatchUncertain => .messageReconcile

/-- The rank of the first status in which an event of this kind can exist. -/
def WorkflowKind.rank : WorkflowKind → Nat
  | .dispatch => 1
  | .fraudThrottle => 1
  | _ => 2

/-- The row is an event of the workflow of this message. -/
def OutboxRow.workflowFor (row : OutboxRow) (composite : MessageCompositeId) : Bool :=
  row.topicName.isWorkflow && row.payload.workflow.any fun payload => decide (payload.toComposite = composite)

/-- The version of the event, and behind the events of one version the dispatch that a retry turns into. -/
def OutboxRow.weight (row : OutboxRow) : Nat :=
  match row.payload.workflow with
  | some payload => 2 * payload.version + if row.eventType = .messageDispatchRetry then 1 else 0
  | none => 0

theorem OutboxRow.workflowFor_eq_true {row : OutboxRow} {composite : MessageCompositeId} :
    row.workflowFor composite = true ↔ row.topicName.isWorkflow = true ∧
      ∃ payload, row.payload = .message payload ∧ payload.toComposite = composite := by
  unfold OutboxRow.workflowFor
  rw [Bool.and_eq_true, Option.any_eq_true]
  simp only [EventPayload.workflow_eq_some, decide_eq_true_eq]

theorem OutboxRow.weight_eq {row : OutboxRow} {payload : MessageEventPayload} (h : row.payload = .message payload) :
    row.weight = 2 * payload.version + if row.eventType = .messageDispatchRetry then 1 else 0 := by
  unfold OutboxRow.weight
  rw [h]
  rfl

theorem KafkaTopic.isWorkflow_of_isDispatch {topic : KafkaTopic} (h : topic.isDispatch = true) :
    topic.isWorkflow = true := by
  rcases of_decide_eq_true h with rfl | rfl <;> rfl

theorem WorkflowKind.isWorkflow_of_sends {kind : WorkflowKind} {topic : KafkaTopic} (h : kind.sends topic = true)
    (hkind : kind ≠ .dispatchUncertain) : topic.isWorkflow = true := by
  cases kind with
  | dispatch | retryDispatch => exact KafkaTopic.isWorkflow_of_isDispatch h
  | fraudThrottle | retry | dispatchResult =>
    rw [of_decide_eq_true h]
    rfl
  | dispatchUncertain => exact absurd rfl hkind

/-! ### What a row of the outbox is -/

/-- What is known of a row of the outbox over the message table. -/
inductive Described (messages : List MessageRow) (row : OutboxRow) : Prop
  | accepted (payload : MessageEventPayload) (message : MessageRow) (hp : row.payload = .message payload)
      (ht : row.topicName = .smsAccepted) (he : row.eventType = .messageAccepted)
      (hkey : row.dedupeKey = acceptedKey payload.toComposite) (hversion : payload.version = 0)
      (hm : message ∈ messages) (hc : message.composite = payload.toComposite)
  | workflow (payload : MessageEventPayload) (kind : WorkflowKind) (message : MessageRow)
      (hkind : kind ≠ .dispatchUncertain) (hp : row.payload = .message payload)
      (ht : kind.sends row.topicName = true) (he : row.eventType = kind.eventType)
      (hkey : row.dedupeKey = workflowKey payload.toComposite kind payload.version) (hm : message ∈ messages)
      (hc : message.composite = payload.toComposite) (hversion : payload.version ≤ message.version)
      (hrank : kind.rank ≤ message.status.rank)
  | uncertain (payload : ReconciliationPayload) (composite : MessageCompositeId) (version : Nat)
      (hp : row.payload = .reconcile payload) (ht : row.topicName = .smsReconcile)
      (hkey : row.dedupeKey = workflowKey composite .dispatchUncertain version)
      (hnames : payload.tenantId = some composite.tenantId ∧ payload.submitDate = some composite.submitDate ∧
        payload.messageId = some composite.id)
  | report (ht : row.topicName = .smsDlr ∨ row.topicName = .smsReconcile)
      (hkey : ∃ parts, parts ≠ [] ∧ row.dedupeKey = joinColon ("dlr" :: parts))

/-- The messages after a step: each is there, at a version and in a status that are not behind. -/
def Later (messages messages' : List MessageRow) : Prop :=
  ∀ message ∈ messages, ∃ message' ∈ messages', message'.composite = message.composite ∧
    message.version ≤ message'.version ∧ message.status.rank ≤ message'.status.rank

theorem MessagesStep.later {db db' : Db} (h : MessagesStep db db') : Later db.messages db'.messages := by
  intro message hm
  obtain ⟨message', hm', hearlier⟩ := h.earlier ⟨message, hm, .refl⟩
  have hhistory := messageHistory_of_earlier hearlier
  exact ⟨message', hm', MessageRow.composite_of_content hhistory.content, hhistory.version, hhistory.rank⟩

theorem Described.later {messages messages' : List MessageRow} {row : OutboxRow} (h : Described messages row)
    (hl : Later messages messages') : Described messages' row := by
  cases h with
  | accepted payload message hp ht he hkey hversion hm hc =>
    obtain ⟨message', hm', hc', -, -⟩ := hl message hm
    exact .accepted payload message' hp ht he hkey hversion hm' (hc'.trans hc)
  | workflow payload kind message hkind hp ht he hkey hm hc hversion hrank =>
    obtain ⟨message', hm', hc', hversion', hrank'⟩ := hl message hm
    exact .workflow payload kind message' hkind hp ht he hkey hm' (hc'.trans hc) (hversion.trans hversion')
      (hrank.trans hrank')
  | uncertain payload composite version hp ht hkey hnames =>
    exact .uncertain payload composite version hp ht hkey hnames
  | report ht hkey => exact .report ht hkey

/-- The keys of delivery reports are none of the workflow's. -/
theorem report_key_ne {parts : List String} (hparts : parts ≠ []) (composite : MessageCompositeId) :
    joinColon ("dlr" :: parts) ≠ acceptedKey composite ∧
      ∀ kind version, joinColon ("dlr" :: parts) ≠ workflowKey composite kind version := by
  have hne : ∀ rest, rest ≠ [] → joinColon ("dlr" :: parts) ≠ joinColon ("message" :: rest) := by
    intro rest hrest hkey
    have hhead := (joinColon_cons_inj (by decide) (by decide) hparts hrest hkey).1
    exact absurd hhead (by decide)
  exact ⟨hne _ (by simp), fun kind version => hne _ (by simp)⟩

/-- A row under a workflow key is the event the key names. -/
theorem Described.of_workflowKey {messages : List MessageRow} {row : OutboxRow} (h : Described messages row)
    {composite : MessageCompositeId} {kind : WorkflowKind} {version : Nat} (hkind : kind ≠ .dispatchUncertain)
    (hkey : row.dedupeKey = workflowKey composite kind version) :
    ∃ payload, row.payload = .message payload ∧ payload.toComposite = composite ∧ payload.version = version ∧
      kind.sends row.topicName = true ∧ row.eventType = kind.eventType := by
  cases h with
  | accepted payload message hp ht he hkey' hversion hm hc =>
    exact absurd (hkey'.symm.trans hkey) (acceptedKey_ne_workflowKey _ _ _ _)
  | workflow payload kind' message hkind' hp ht he hkey' hm hc hversion hrank =>
    obtain ⟨hcomposite, hkinds, hversions⟩ := workflowKey_injective (hkey'.symm.trans hkey)
    rw [hkinds] at ht he
    exact ⟨payload, hp, hcomposite, hversions, ht, he⟩
  | uncertain payload composite' version' hp ht hkey' hnames =>
    exact absurd (workflowKey_injective (hkey'.symm.trans hkey)).2.1.symm hkind
  | report ht hreport =>
    obtain ⟨parts, hparts, hreport⟩ := hreport
    exact absurd (hreport.symm.trans hkey) ((report_key_ne hparts composite).2 kind version)

theorem Described.of_acceptedKey {messages : List MessageRow} {row : OutboxRow} (h : Described messages row)
    {composite : MessageCompositeId} (hkey : row.dedupeKey = acceptedKey composite) :
    ∃ payload, row.payload = .message payload ∧ payload.toComposite = composite ∧ payload.version = 0 ∧
      row.topicName = .smsAccepted ∧ row.eventType = .messageAccepted := by
  cases h with
  | accepted payload message hp ht he hkey' hversion hm hc =>
    exact ⟨payload, hp, acceptedKey_injective (hkey'.symm.trans hkey), hversion, ht, he⟩
  | workflow payload kind' message hkind' hp ht he hkey' hm hc hversion hrank =>
    exact absurd (hkey.symm.trans hkey') (acceptedKey_ne_workflowKey _ _ _ _)
  | uncertain payload composite' version' hp ht hkey' hnames =>
    exact absurd (hkey.symm.trans hkey') (acceptedKey_ne_workflowKey _ _ _ _)
  | report ht hreport =>
    obtain ⟨parts, hparts, hreport⟩ := hreport
    exact absurd (hreport.symm.trans hkey) (report_key_ne hparts composite).1

/-! ### What a step enqueues -/

/-- The outbox after a step: the same, or the outbox after one enqueue of an event that satisfies `P`. -/
inductive OutboxStep (db db' : Db) (P : OutboxEventInput → Prop) : Prop
  | same (h : db'.outbox = db.outbox) (hs : db'.suppressed = db.suppressed)
  | enqueued (clock : TxClock) (input : OutboxEventInput) (hp : P input)
      (h : db'.outbox = (db.enqueue clock input).outbox) (hs : db'.suppressed = (db.enqueue clock input).suppressed)

namespace OutboxStep

variable {db db' : Db} {P Q : OutboxEventInput → Prop}

theorem imp (h : OutboxStep db db' P) (hpq : ∀ input, P input → Q input) : OutboxStep db db' Q := by
  cases h with
  | same h hs => exact .same h hs
  | enqueued clock input hp h hs => exact .enqueued clock input (hpq input hp) h hs

theorem mem_of_mem (h : OutboxStep db db' P) {row : OutboxRow} (hrow : row ∈ db.outbox) : row ∈ db'.outbox := by
  cases h with
  | same h hs => rwa [h]
  | enqueued clock input hp h hs =>
    obtain ⟨tail, htail⟩ := db.outbox_prefix_enqueue clock input
    rw [h, htail]
    exact List.mem_append_left _ hrow

/-- A row of the outbox after the step is an old one or the enqueued event. -/
theorem origin (h : OutboxStep db db' P) {row : OutboxRow} (hrow : row ∈ db'.outbox) :
    row ∈ db.outbox ∨ ∃ clock input, P input ∧ row = input.row clock db.outbox.length := by
  cases h with
  | same h hs => exact .inl (h ▸ hrow)
  | enqueued clock input hp h hs =>
    rw [h] at hrow
    rcases db.enqueue_outbox clock input with ⟨-, ho, -⟩ | ⟨-, ho, -⟩
    · exact .inl (ho ▸ hrow)
    · rw [ho, List.mem_append, List.mem_singleton] at hrow
      rcases hrow with hrow | hrow
      · exact .inl hrow
      · exact .inr ⟨clock, input, hp, hrow⟩

/-- Ids count the rows. -/
theorem numbered (h : OutboxStep db db' P) (hn : db.outbox.map (·.id) = List.range db.outbox.length) :
    db'.outbox.map (·.id) = List.range db'.outbox.length := by
  cases h with
  | same h hs => rw [h, hn]
  | enqueued clock input hp h hs =>
    rw [h]
    rcases db.enqueue_outbox clock input with ⟨-, ho, -⟩ | ⟨-, ho, -⟩
    · rw [ho, hn]
    · rw [ho, List.map_append, List.length_append, hn, List.map_singleton, List.length_singleton, List.range_succ]
      rfl

end OutboxStep

/-- An enqueue looks at the outbox only. -/
theorem Db.enqueue_congr {db db₀ : Db} (clock : TxClock) (input : OutboxEventInput) (h : db₀.outbox = db.outbox)
    (hs : db₀.suppressed = db.suppressed) : (db₀.enqueue clock input).outbox = (db.enqueue clock input).outbox ∧
      (db₀.enqueue clock input).suppressed = (db.enqueue clock input).suppressed := by
  have hkey : db₀.hasOutboxKey clock.currentDate input.dedupeKey = db.hasOutboxKey clock.currentDate input.dedupeKey := by
    unfold Db.hasOutboxKey
    rw [h]
  unfold Db.enqueue
  rw [hkey]
  split
  · exact ⟨h, by rw [hs]⟩
  · exact ⟨by rw [h], hs⟩

theorem Created.outbox_eq {clock : TxClock} {submission : Submission} {db db' : Db} {message : MessageRow}
    (c : Created clock submission db message db') :
    db'.outbox = (db.enqueue clock (acceptedEvent submission message)).outbox ∧
      db'.suppressed = (db.enqueue clock (acceptedEvent submission message)).suppressed := by
  have houtbox := congrArg Db.outbox c.bill.frame
  have hsuppressed := congrArg Db.suppressed c.bill.frame
  rw [c.db_eq]
  exact Db.enqueue_congr clock (acceptedEvent submission message) houtbox hsuppressed

/-- The events that a step of an execution enqueues. -/
inductive Stage.Emits (env : Environment) (db db' : Db) (stage : Stage) : OutboxEventInput → Prop
  | follow {work : GuardedWork} {next : MessageRow → Option Stage} {input : OutboxEventInput}
      (hw : Stage.WorkOf env stage work next) (hcurrent : work.message ∈ db.messages)
      (htrigger : enforceMessageStateTransition work.message (work.assign work.message) = .ok ())
      (hm : work.assign work.message ∈ db'.messages)
      (hin : work.followUp (work.assign work.message) = .event input) : Emits env db db' stage input
  | event {input : OutboxEventInput} (h : Stage.EventOf stage input) (hsame : db'.messages = db.messages) :
      Emits env db db' stage input
  | reconcile (report : DlrWebhookRow) (message : Option MessageRow) (reason : String) (extra : DlrReconcileExtra)
      (hs : stage = .correlated report message) :
      Emits env db db' stage (dlrReconcileEvent env.printer report reason extra)

theorem Snapshots.emits {world : World} {env : Environment} {execution : Execution} {next : Option Stage} {db' : Db}
    (hs : Snapshots world) (he : execution ∈ world.executions)
    (h : Stage.Advanced env world.db execution.stage next db') :
    OutboxStep world.db db' (Stage.Emits env world.db db' execution.stage) := by
  cases h with
  | work hw c =>
    rename_i work nextOf updated
    have hupdated : updated = work.assign work.message := by rw [c.updated_eq, hs.committed_old he hw c]
    have hframe := c.bill.frame
    have hbilled := congrArg Db.outbox hframe
    have hsuppressed := congrArg Db.suppressed hframe
    cases hf : work.followUp updated with
    | nothing =>
      refine .same ?_ ?_
      · rw [c.db_eq, GuardedWork.finish, hf]
        exact hbilled
      · rw [c.db_eq, GuardedWork.finish, hf]
        exact hsuppressed
    | webhook report message =>
      refine .same ?_ ?_
      · rw [c.db_eq, GuardedWork.finish, hf]
        exact hbilled
      · rw [c.db_eq, GuardedWork.finish, hf]
        exact hsuppressed
    | event input =>
      have hemits : Stage.Emits env world.db db' execution.stage input := by
        have hold := hs.committed_old he hw c
        refine .follow hw ?_ ?_ ?_ ?_
        · rw [← hold, c.messages]
          simp
        · rw [← hold]
          exact c.trigger
        · rw [← hupdated, c.messages_eq]
          simp
        · rw [← hupdated, hf]
      obtain ⟨ho, hsup⟩ := @Db.enqueue_congr world.db (c.billed.insertLog (work.log updated)) env.clock input hbilled
        hsuppressed
      refine .enqueued env.clock input hemits ?_ ?_
      · rw [c.db_eq, GuardedWork.finish, hf]
        exact ho
      · rw [c.db_eq, GuardedWork.finish, hf]
        exact hsup
  | event h => exact .enqueued _ _ (.event h (by simp)) rfl rfl
  | read h => exact .same rfl rfl
  | side h =>
    generalize hstage : execution.stage = stage at h
    cases h with
    | reconcile report message reason extra =>
      exact .enqueued _ _ (.reconcile report message reason extra rfl) rfl rfl
    | duplicate report message reason => exact .same rfl rfl
    | record payload => exact .same rfl rfl

/-- A step that is not the last of its execution enqueues nothing. -/
theorem Stage.Advanced.outbox_eq {env : Environment} {db db' : Db} {stage next : Stage}
    (h : Stage.Advanced env db stage (some next) db') :
    db'.outbox = db.outbox ∧ db'.suppressed = db.suppressed := by
  generalize hn : some next = o at h
  cases h with
  | work hw c =>
    cases hw with
    | attempt job =>
      have hframe := c.bill.frame
      have hbilled := congrArg Db.outbox hframe
      have hsuppressed := congrArg Db.suppressed hframe
      rw [c.db_eq]
      exact ⟨hbilled, hsuppressed⟩
    | _ => cases hn
  | event h => cases hn
  | read h => exact ⟨rfl, rfl⟩
  | side h => cases hn

/-- The events that a step of the world enqueues. -/
inductive World.Emits (world world' : World) : Action → OutboxEventInput → Prop
  | created {clock : TxClock} {submission : Submission} {message : MessageRow} (hm : message ∈ world'.db.messages)
      (h : message = submission.row clock world.db.nextMessageId) :
      Emits world world' (.submit clock submission) (acceptedEvent submission message)
  | webhook {clock : TxClock} {printer : DatePrinter} {input : DlrWebhookInput} (row : DlrWebhookRow) :
      Emits world world' (.acceptWebhook clock printer input) (dlrReceivedEvent printer input row)
  | advanced {index : Nat} {env : Environment} {execution : Execution} {input : OutboxEventInput}
      (hexec : world.executions[index]? = some execution) (hconsumed : execution.event ∈ world'.consumed)
      (h : Stage.Emits env world.db world'.db execution.stage input) : Emits world world' (.advance index env) input

theorem Snapshots.world_emits {world world' : World} {a : Action} (hs : Snapshots world)
    (h : world.step a = some world') : OutboxStep world.db world'.db (World.Emits world world' a) := by
  have hstepped := World.step_cases (keyed_composite hs.keyed) h
  clear h
  cases hstepped with
  | created c =>
    obtain ⟨ho, hsup⟩ := c.outbox_eq
    exact .enqueued _ _ (.created (by rw [c.messages_eq.1]; simp) c.message_eq) ho hsup
  | webhook h =>
    obtain ⟨row, webhooks, nextId, rfl⟩ := acceptWebhook_ok h
    obtain ⟨ho, hsup⟩ := @Db.enqueue_congr world.db { world.db with dlrWebhooks := webhooks, nextWebhookId := nextId }
      _ (dlrReceivedEvent _ _ row) rfl rfl
    exact .enqueued _ _ (.webhook row) ho hsup
  | continued hexec hadvance =>
    obtain ⟨ho, hsup⟩ := hadvance.outbox_eq
    exact .same ho hsup
  | finished hexec hadvance =>
    exact (hs.emits (List.mem_of_getElem? hexec) hadvance).imp fun _ h => .advanced hexec (List.mem_cons_self ..) h
  | _ => exact .same rfl rfl

/-! ### The events of executions -/

/-- The payload an execution of the workflow works on. -/
def Stage.event : Stage → Option MessageEventPayload
  | .accepted job => some job.payload
  | .retry job => some job.payload
  | .dispatch job => some job.payload
  | .provider job _ => some job.payload
  | .dispatched job _ _ => some job.payload
  | .result job => some job.payload
  | .webhook _ _ => none
  | .correlated _ _ => none
  | .reconcile _ => none

/-- The payload of the event that an execution handles, as far as its stage holds it. -/
def Stage.payload : Stage → Option EventPayload
  | .webhook payload _ => some (.dlr payload)
  | .reconcile payload => some (.reconcile payload)
  | stage => stage.event.map .message

theorem Stage.payload_of_event {stage : Stage} {payload : MessageEventPayload} (h : stage.event = some payload) :
    stage.payload = some (.message payload) := by
  cases stage <;> cases h <;> rfl

/-- The topics a stage is reached from. -/
def Stage.handles : Stage → KafkaTopic → Bool
  | .accepted _, topic => decide (topic = .smsAccepted)
  | .retry _, topic => decide (topic = .smsRetry)
  | .dispatch _, topic => topic.isDispatch
  | .provider _ _, topic => topic.isDispatch
  | .dispatched _ _ _, topic => topic.isDispatch
  | .result _, topic => decide (topic = .smsDispatchResults)
  | .webhook _ _, topic => decide (topic = .smsDlr)
  | .correlated _ _, topic => decide (topic = .smsDlr)
  | .reconcile _, topic => decide (topic = .smsReconcile)

/-- The row and the version of an attempt past its first transaction. -/
def Stage.attempt : Stage → Option (MessageRow × Nat)
  | .provider job submittingVersion => some (job.message, submittingVersion)
  | .dispatched job submittingVersion _ => some (job.message, submittingVersion)
  | _ => none

/-- What is known of an execution over the database. -/
structure Sourced (db : Db) (execution : Execution) : Prop where
  row : ∃ row ∈ db.outbox, row.id = execution.event ∧ execution.stage.handles row.topicName = true ∧
    ∀ payload, execution.stage.payload = some payload → row.payload = payload
  read : ∀ payload message, execution.stage.event = some payload → execution.stage.row = some message →
    payload.version ≤ message.version ∧ message.composite = payload.toComposite
  attempt : ∀ message version, execution.stage.attempt = some (message, version) →
    version = message.version + 1 ∧ ∃ current ∈ db.messages, current.composite = message.composite ∧
      version ≤ current.version ∧ 2 ≤ current.status.rank

theorem Sourced.later {db db' : Db} {execution : Execution} (h : Sourced db execution)
    (ho : ∀ row ∈ db.outbox, row ∈ db'.outbox) (hl : Later db.messages db'.messages) : Sourced db' execution where
  row := by
    obtain ⟨row, hrow, hid, hhandles, hpayload⟩ := h.row
    exact ⟨row, ho row hrow, hid, hhandles, hpayload⟩
  read := h.read
  attempt := by
    intro message version ha
    obtain ⟨hversion, current, hm, hc, hle, hrank⟩ := h.attempt message version ha
    obtain ⟨current', hm', hc', hle', hrank'⟩ := hl current hm
    exact ⟨hversion, current', hm', hc'.trans hc, hle.trans hle', hrank.trans hrank'⟩

theorem isDispatch_dispatchTopicFor (trafficType : TrafficType) : (dispatchTopicFor trafficType).isDispatch = true := by
  cases trafficType <;> rfl

/-- Everything an execution enqueues is described. -/
theorem Snapshots.emits_described {world : World} {env : Environment} {execution : Execution} {db' : Db}
    {input : OutboxEventInput} (hs : Snapshots world) (he : execution ∈ world.executions)
    (hsource : Sourced world.db execution) (hl : Later world.db.messages db'.messages)
    (h : Stage.Emits env world.db db' execution.stage input) (clock : TxClock) (id : Nat) :
    Described db'.messages (input.row clock id) := by
  cases h with
  | follow hw hcurrent htrigger hm hin =>
    generalize execution.stage = stage at hw
    cases hw with
    | accepted job route hroute =>
      cases hin
      exact .workflow _ .dispatch _ (by decide) rfl (isDispatch_dispatchTopicFor _) rfl rfl hm job.found le_rfl
        (show 1 ≤ MessageStatus.rank .routed by decide)
    | throttle job haction =>
      cases hin
      have hrank : 1 ≤ job.message.status.rank := by
        have hs : job.message.status = .routed ∨ job.message.status = .submitting := by simpa using job.admitted
        rcases hs with hs | hs <;> rw [hs] <;> decide
      exact .workflow _ .fraudThrottle _ (by decide) rfl rfl rfl rfl hm job.found le_rfl hrank
    | unknown job =>
      cases hin
      refine .uncertain _ job.payload.toComposite _ rfl rfl rfl ⟨?_, rfl, rfl⟩
      exact congrArg (fun composite => some composite.tenantId) job.found
    | retrySubmit job retryPolicy nextRoute hpolicy hretry =>
      cases hin
      have hrank : 2 ≤ job.message.status.rank := by
        have hs : job.message.status = .submitting := by simpa using job.admitted
        rw [hs]
        decide
      exact .workflow _ .retry _ (by decide) rfl rfl rfl rfl hm job.found le_rfl hrank
    | attempt job => cases hin
    | ack job haccepted => cases hin
    | failure job => cases hin
    | delivered report message hstatus => cases hin
    | dlrFailed report message hstatus => cases hin
  | event h hsame =>
    generalize hstage : execution.stage = stage at h
    cases h with
    | retry job =>
      have hstatus : job.message.status = .submitting := by simpa using job.admitted
      -- the row that was read is an earlier state of a row of the table
      obtain ⟨current, hm, hearlier⟩ := hs.held execution he job.message (by rw [hstage]; rfl)
      have hhistory := messageHistory_of_earlier hearlier
      have hc := MessageRow.composite_of_content hhistory.content
      obtain ⟨current', hm', hc', hle', hrank'⟩ := hl current hm
      refine .workflow _ .retryDispatch current' (by decide) rfl (isDispatch_dispatchTopicFor _) rfl rfl hm'
        ((hc'.trans hc).trans job.found) (hhistory.version.trans hle') ?_
      refine le_trans ?_ (hhistory.rank.trans hrank')
      rw [hstatus]
      decide
    | dispatched job submittingVersion result =>
      obtain ⟨-, current, hm, hc, hle, hrank⟩ := hsource.attempt job.message submittingVersion (by rw [hstage]; rfl)
      obtain ⟨current', hm', hc', hle', hrank'⟩ := hl current hm
      exact .workflow _ .dispatchResult current' (by decide) rfl rfl rfl rfl hm' ((hc'.trans hc).trans job.found)
        (hle.trans hle') (hrank.trans hrank')
  | reconcile report message reason extra hstage => exact .report (.inr rfl) ⟨_, by simp, rfl⟩

/-! ### The invariant -/

/-- What is known of outbox and executions in every reachable state. -/
structure Events (world : World) : Prop where
  numbered : world.db.outbox.map (·.id) = List.range world.db.outbox.length
  described : ∀ row ∈ world.db.outbox, Described world.db.messages row
  sourced : ∀ execution ∈ world.executions, Sourced world.db execution
  accepted : ∀ message ∈ world.db.messages, ∃ row ∈ world.db.outbox, row.dedupeKey = acceptedKey message.composite
  routed : ∀ message ∈ world.db.messages, 1 ≤ message.status.rank →
    ∃ row ∈ world.db.outbox, ∃ version, 1 ≤ version ∧ row.dedupeKey = workflowKey message.composite .dispatch version

theorem Events.initial (wallets : TenantId → Option WalletRow) : Events (World.initial wallets) where
  numbered := rfl
  described := by
    intro row hrow
    cases hrow
  sourced := by
    intro execution he
    cases he
  accepted := by
    intro message hm
    cases hm
  routed := by
    intro message hm
    cases hm

/-- Two rows of the outbox with one id are one row. -/
theorem Events.row_unique {world : World} (ev : Events world) {row row' : OutboxRow} (hrow : row ∈ world.db.outbox)
    (hrow' : row' ∈ world.db.outbox) (hid : row.id = row'.id) : row = row' := by
  have hkeyed : Rows.Keyed OutboxRow.id world.db.outbox := by
    unfold Rows.Keyed
    rw [ev.numbered]
    exact List.nodup_range
  exact hkeyed.unique hrow hrow' hid

section Step

variable {world world' : World} {a : Action}

private theorem Events.step_described (hs : Snapshots world) (ev : Events world) (h : world.step a = some world') :
    ∀ row ∈ world'.db.outbox, Described world'.db.messages row := by
  have hlater := (World.step_cases (keyed_composite hs.keyed) h).messages.later
  intro row hrow
  rcases (hs.world_emits h).origin hrow with hold | ⟨clock, input, hemits, rfl⟩
  · exact (ev.described row hold).later hlater
  · cases hemits with
    | created hm hmessage =>
      exact .accepted _ _ rfl rfl rfl rfl (congrArg MessageRow.version hmessage) hm rfl
    | webhook report => exact .report (.inl rfl) ⟨_, by simp, rfl⟩
    | advanced hexec hconsumed hemits =>
      have he := List.mem_of_getElem? hexec
      exact hs.emits_described he (ev.sourced _ he) hlater hemits clock _

/-- A row of the table is not behind a workflow event about it. -/
theorem Described.version_le {db : Db} {row : OutboxRow} (hd : Described db.messages row)
    (hk : Rows.Keyed MessageRow.composite db.messages) (ht : row.topicName.isWorkflow = true)
    {payload : MessageEventPayload} {message : MessageRow} (hp : row.payload = .message payload)
    (hm : message ∈ db.messages) (hc : message.composite = payload.toComposite) :
    payload.version ≤ message.version := by
  cases hd with
  | accepted payload' message' hp' ht' he hkey hversion hm' hc' =>
    cases hp'.symm.trans hp
    omega
  | workflow payload' kind message' hkind hp' ht' he hkey hm' hc' hversion hrank =>
    cases hp'.symm.trans hp
    rwa [hk.unique hm hm' (hc.trans hc'.symm)]
  | uncertain payload' composite version hp' ht' hkey hnames => cases hp'.symm.trans hp
  | report ht' hkey =>
    rcases ht' with ht' | ht' <;> rw [ht'] at ht <;> cases ht

private theorem sourced_of_read {db : Db} {row : OutboxRow} {stage : Stage} {payload : MessageEventPayload}
    {message : MessageRow} (hrow : row ∈ db.outbox) (hd : Described db.messages row)
    (hk : Rows.Keyed MessageRow.composite db.messages) (ht : row.topicName.isWorkflow = true)
    (hhandles : stage.handles row.topicName = true) (hevent : stage.event = some payload)
    (hread : stage.row = some message) (hattempt : stage.attempt = none) (hp : row.payload = .message payload)
    (hm : message ∈ db.messages) (hc : message.composite = payload.toComposite) : Sourced db ⟨row.id, stage⟩ where
  row := ⟨row, hrow, rfl, hhandles, fun payload' he => by
    rw [hp, ← Option.some.inj ((Stage.payload_of_event hevent).symm.trans he)]⟩
  read := by
    intro payload' message' he hr
    cases hevent.symm.trans he
    cases hread.symm.trans hr
    exact ⟨hd.version_le hk ht hp hm hc, hc⟩
  attempt := by
    intro message' version ha
    cases hattempt.symm.trans ha

private theorem sourced_of_other {db : Db} {row : OutboxRow} {stage : Stage} (hrow : row ∈ db.outbox)
    (hhandles : stage.handles row.topicName = true)
    (hpayload : ∀ payload, stage.payload = some payload → row.payload = payload) (hevent : stage.event = none)
    (hattempt : stage.attempt = none) : Sourced db ⟨row.id, stage⟩ where
  row := ⟨row, hrow, rfl, hhandles, hpayload⟩
  read := by
    intro payload message he
    cases hevent.symm.trans he
  attempt := by
    intro message version ha
    cases hattempt.symm.trans ha

/-- A handler that has just started is sourced. -/
theorem Started.sourced {db : Db} {row : OutboxRow} {stage : Stage} (h : Started db row stage)
    (hrow : row ∈ db.outbox) (hd : Described db.messages row) (hk : Rows.Keyed MessageRow.composite db.messages) :
    Sourced db ⟨row.id, stage⟩ := by
  cases h with
  | accepted job ht hp hm =>
    exact sourced_of_read hrow hd hk (by rw [ht]; rfl) (by simp [Stage.handles, ht]) rfl rfl rfl hp hm job.found
  | dispatch job ht hp hm =>
    exact sourced_of_read hrow hd hk (KafkaTopic.isWorkflow_of_isDispatch ht) ht rfl rfl rfl hp hm job.found
  | retry job ht hp hm =>
    exact sourced_of_read hrow hd hk (by rw [ht]; rfl) (by simp [Stage.handles, ht]) rfl rfl rfl hp hm job.found
  | result job ht hp hm =>
    exact sourced_of_read hrow hd hk (by rw [ht]; rfl) (by simp [Stage.handles, ht]) rfl rfl rfl hp hm job.found
  | webhook payload report ht hp =>
    refine sourced_of_other hrow (by simp [Stage.handles, ht]) ?_ rfl rfl
    intro payload' he
    cases he
    exact hp
  | reconcile payload ht hp =>
    refine sourced_of_other hrow (by simp [Stage.handles, ht]) ?_ rfl rfl
    intro payload' he
    cases he
    exact hp

/-- The stage that follows a step handles the same event. -/
theorem Stage.Advanced.sourced {env : Environment} {execution : Execution} {next : Stage} {db' : Db}
    (hs : Snapshots world) (he : execution ∈ world.executions)
    (h : Stage.Advanced env world.db execution.stage (some next) db') (hsource : Sourced world.db execution)
    (ho : ∀ row ∈ world.db.outbox, row ∈ db'.outbox) (hl : Later world.db.messages db'.messages) :
    Sourced db' ⟨execution.event, next⟩ := by
  have hlater := hsource.later ho hl
  generalize hn : some next = o at h
  cases h with
  | work hw c =>
    have hold := hs.committed_old he hw c
    obtain ⟨event, stage⟩ := execution
    cases hw with
    | attempt job haction =>
      cases hn
      rename_i updated
      have hstatus : job.message.status = .routed ∨ job.message.status = .submitting := by simpa using job.admitted
      have hupdated : updated = attemptRow env.clock job.message job.message := by
        rw [c.updated_eq, hold]
        rfl
      rw [attemptRow_eq env.clock hstatus] at hupdated
      have hversion : updated.version = job.message.version + 1 := by rw [hupdated]; rfl
      refine ⟨hlater.row, hlater.read, ?_⟩
      intro message version ha
      cases ha
      refine ⟨hversion, updated, ?_, ?_, le_rfl, ?_⟩
      · rw [c.messages_eq]
        simp
      · rw [hupdated]
        rfl
      · rw [hupdated]
        exact le_rfl
    | _ => cases hn
  | event h => cases hn
  | read h =>
    obtain ⟨event, stage⟩ := execution
    cases hn
    cases h with
    | provider job submittingVersion => exact ⟨hlater.row, hlater.read, hlater.attempt⟩
    | webhook payload report =>
      obtain ⟨row, hrow, rfl, hhandles, -⟩ := hlater.row
      exact sourced_of_other hrow hhandles (by intro payload' he; cases he) rfl rfl
  | side h => cases hn

private theorem Events.step_sourced (hs : Snapshots world) (ev : Events world) (h : world.step a = some world') :
    ∀ execution ∈ world'.executions, Sourced world'.db execution := by
  have hk := keyed_composite hs.keyed
  have hstepped := World.step_cases hk h
  have hlater := hstepped.messages.later
  have houtbox : ∀ row ∈ world.db.outbox, row ∈ world'.db.outbox := fun row hrow => (hs.world_emits h).mem_of_mem hrow
  have hold : ∀ execution ∈ world.executions, Sourced world'.db execution :=
    fun execution he => (ev.sourced execution he).later houtbox hlater
  intro execution he
  cases hstepped.flight he with
  | kept he => exact hold execution he
  | started hrow ha hdb hstart =>
    rw [hdb]
    exact hstart.sourced hrow (ev.described _ hrow) hk
  | continued ha hexec hadvance =>
    have hmem := List.mem_of_getElem? hexec
    exact hadvance.sourced hs hmem (ev.sourced _ hmem) houtbox hlater

/-- The first status of a row that a guarded work other than that of `handleAccepted` writes. -/
theorem Stage.WorkOf.accepted_or_rank {env : Environment} {stage : Stage} {work : GuardedWork}
    {next : MessageRow → Option Stage} (h : Stage.WorkOf env stage work next) :
    (∃ job route, stage = .accepted job ∧ work = acceptedWork env.clock job.payload job.message route) ∨
      1 ≤ work.message.status.rank := by
  have hsubmitting : ∀ job : Job [.submitting], 1 ≤ job.message.status.rank := by
    intro job
    have hs : job.message.status = .submitting := by simpa using job.admitted
    rw [hs]
    decide
  have hdispatch : ∀ job : Job [.routed, .submitting], 1 ≤ job.message.status.rank := by
    intro job
    have hs : job.message.status = .routed ∨ job.message.status = .submitting := by simpa using job.admitted
    rcases hs with hs | hs <;> rw [hs] <;> decide
  cases h with
  | accepted job route hroute => exact .inl ⟨job, route, rfl, rfl⟩
  | throttle job haction => exact .inr (hdispatch job)
  | attempt job => exact .inr (hdispatch job)
  | ack job haccepted => exact .inr (hsubmitting job)
  | unknown job => exact .inr (hsubmitting job)
  | retrySubmit job retryPolicy nextRoute hpolicy hretry => exact .inr (hsubmitting job)
  | failure job => exact .inr (hsubmitting job)
  | delivered report message hstatus =>
    right
    change 1 ≤ message.status.rank
    rw [hstatus]
    decide
  | dlrFailed report message hstatus =>
    right
    change 1 ≤ message.status.rank
    rcases hstatus with hs | hs <;> rw [hs] <;> decide

/-- A message that an execution routes has its dispatch event from then on. -/
private theorem Snapshots.advanced_routed {env : Environment} {execution : Execution} {next : Option Stage} {db' : Db}
    (hs : Snapshots world) (he : execution ∈ world.executions)
    (h : Stage.Advanced env world.db execution.stage next db') {message : MessageRow} (hm : message ∈ db'.messages)
    (hrank : 1 ≤ message.status.rank) :
    (∃ old ∈ world.db.messages, 1 ≤ old.status.rank ∧ old.composite = message.composite) ∨
      ∃ row ∈ db'.outbox, ∃ version, 1 ≤ version ∧ row.dedupeKey = workflowKey message.composite .dispatch version := by
  cases h with
  | work hw c =>
    rename_i work nextOf updated
    have hold := hs.committed_old he hw c
    have hupdated : updated = work.assign work.message := by rw [c.updated_eq, hold]
    rw [c.messages_eq] at hm
    rcases Rows.mem_replace (r := c.old) hm with rfl | hm
    · have hcomposite : (work.assign work.message).composite = work.message.composite :=
        MessageRow.composite_of_content (hw.rowStep rfl).content
      rcases hw.accepted_or_rank with ⟨job, route, -, hwork⟩ | holdRank
      · right
        obtain ⟨row, hrow, hkey⟩ := (c.billed.insertLog (work.log message)).exists_key_of_enqueue env.clock
          (dispatchEvent job.payload job.message route message)
        refine ⟨row, ?_, message.version, ?_, ?_⟩
        · have hfollow : work.followUp message = .event (dispatchEvent job.payload job.message route message) := by
            rw [hwork]
            rfl
          rw [c.db_eq, GuardedWork.finish, hfollow]
          exact hrow
        · have hversion := (hw.rowStep rfl).version
          rw [← hupdated] at hversion
          omega
        · have hmessage : work.message = job.message := by rw [hwork]; rfl
          rw [hkey, hupdated, hcomposite, hmessage, job.found]
          rfl
      · refine .inl ⟨work.message, ?_, holdRank, ?_⟩
        · rw [← hold, c.messages]
          simp
        · rw [hupdated, hcomposite]
    · exact .inl ⟨message, by rw [c.messages]; exact hm, hrank, rfl⟩
  | event h => exact .inl ⟨message, by simpa using hm, hrank, rfl⟩
  | read h => exact .inl ⟨message, hm, hrank, rfl⟩
  | side h => exact .inl ⟨message, h.frame.1 ▸ hm, hrank, rfl⟩

private theorem Events.step_routed (hs : Snapshots world) (ev : Events world) (h : world.step a = some world') :
    ∀ message ∈ world'.db.messages, 1 ≤ message.status.rank → ∃ row ∈ world'.db.outbox, ∃ version, 1 ≤ version ∧
      row.dedupeKey = workflowKey message.composite .dispatch version := by
  have houtbox : ∀ row ∈ world.db.outbox, row ∈ world'.db.outbox := fun row hrow => (hs.world_emits h).mem_of_mem hrow
  have hkept : ∀ message old : MessageRow, old ∈ world.db.messages → 1 ≤ old.status.rank →
      old.composite = message.composite → ∃ row ∈ world'.db.outbox, ∃ version, 1 ≤ version ∧
        row.dedupeKey = workflowKey message.composite .dispatch version := by
    intro message old hm hrank hc
    obtain ⟨row, hrow, version, hversion, hkey⟩ := ev.routed old hm hrank
    exact ⟨row, houtbox row hrow, version, hversion, by rw [hkey, hc]⟩
  have htransacted := (World.step_cases (keyed_composite hs.keyed) h).transacted
  clear h houtbox
  generalize world'.db = db' at htransacted hkept ⊢
  intro message hm hrank
  cases htransacted with
  | same a => exact hkept message message hm hrank rfl
  | created c =>
    rw [c.messages_eq.1, List.mem_append, List.mem_singleton] at hm
    rcases hm with hm | rfl
    · exact hkept message message hm hrank rfl
    · rw [c.message_eq] at hrank
      cases hrank
  | webhook h =>
    obtain ⟨report, webhooks, nextId, rfl⟩ := acceptWebhook_ok h
    exact hkept message message (by simpa using hm) hrank rfl
  | advanced hexec hadvance =>
    rcases hs.advanced_routed (List.mem_of_getElem? hexec) hadvance hm hrank with ⟨old, hold, hr, hc⟩ | hrow
    · exact hkept message old hold hr hc
    · exact hrow

/-- No execution creates a message. -/
theorem Stage.Advanced.exists_composite {env : Environment} {db db' : Db} {stage : Stage} {next : Option Stage}
    (h : Stage.Advanced env db stage next db') {message : MessageRow} (hm : message ∈ db'.messages) :
    ∃ old ∈ db.messages, old.composite = message.composite := by
  cases h with
  | work hw c =>
    rw [c.messages_eq] at hm
    rcases Rows.mem_replace (r := c.old) hm with rfl | hm
    · have hstep := hw.rowStep (guardedBy_eq_true.1 c.guard).2.1
      rw [← c.updated_eq] at hstep
      exact ⟨c.old, by rw [c.messages]; simp, (MessageRow.composite_of_content hstep.content).symm⟩
    · exact ⟨message, by rw [c.messages]; exact hm, rfl⟩
  | event h => exact ⟨message, by simpa using hm, rfl⟩
  | read h => exact ⟨message, hm, rfl⟩
  | side h => exact ⟨message, h.frame.1 ▸ hm, rfl⟩

private theorem Events.step_accepted (hs : Snapshots world) (ev : Events world) (h : world.step a = some world') :
    ∀ message ∈ world'.db.messages, ∃ row ∈ world'.db.outbox, row.dedupeKey = acceptedKey message.composite := by
  have houtbox : ∀ row ∈ world.db.outbox, row ∈ world'.db.outbox := fun row hrow => (hs.world_emits h).mem_of_mem hrow
  have hkept : ∀ message old : MessageRow, old ∈ world.db.messages → old.composite = message.composite →
      ∃ row ∈ world'.db.outbox, row.dedupeKey = acceptedKey message.composite := by
    intro message old hm hc
    obtain ⟨row, hrow, hkey⟩ := ev.accepted old hm
    exact ⟨row, houtbox row hrow, by rw [hkey, hc]⟩
  have htransacted := (World.step_cases (keyed_composite hs.keyed) h).transacted
  clear h houtbox
  generalize world'.db = db' at htransacted hkept ⊢
  intro message hm
  cases htransacted with
  | same a => exact hkept message message hm rfl
  | created c =>
    rw [c.messages_eq.1, List.mem_append, List.mem_singleton] at hm
    rcases hm with hm | rfl
    · exact hkept message message hm rfl
    · have hkey := Db.exists_key_of_enqueue world.db
      rw [c.outbox_eq.1]
      exact hkey _ (acceptedEvent _ message)
  | webhook h =>
    obtain ⟨report, webhooks, nextId, rfl⟩ := acceptWebhook_ok h
    exact hkept message message (by simpa using hm) rfl
  | advanced hexec hadvance =>
    obtain ⟨old, hold, hc⟩ := hadvance.exists_composite hm
    exact hkept message old hold hc

theorem Events.step (hs : Snapshots world) (ev : Events world) (h : world.step a = some world') : Events world' where
  numbered := (hs.world_emits h).numbered ev.numbered
  described := ev.step_described hs h
  sourced := ev.step_sourced hs h
  accepted := ev.step_accepted hs h
  routed := ev.step_routed hs h

end Step

theorem events_of_reaches {wallets : TenantId → Option WalletRow} {world : World}
    (h : Transition.Reaches World.step (World.initial wallets) world) : Events world :=
  h.invariant_of (fun _ hr => snapshots_of_reaches hr.reaches) (Events.initial wallets)
    fun _ _ _ hs _ ev _ hstep => ev.step hs hstep

/-! ### Weights -/

/-- The weight of an event by its kind and version. -/
def WorkflowKind.weight (kind : WorkflowKind) (version : Nat) : Nat :=
  2 * version + if kind = .retryDispatch then 1 else 0

/-- The row is a reconciliation event of this message. -/
def OutboxRow.reconciles (row : OutboxRow) (composite : MessageCompositeId) : Bool :=
  decide (row.topicName = .smsReconcile) && match row.payload with
    | .reconcile payload => decide (payload.tenantId = some composite.tenantId ∧
        payload.submitDate = some composite.submitDate ∧ payload.messageId = some composite.id)
    | _ => false

theorem OutboxRow.weight_le {row : OutboxRow} {payload : MessageEventPayload} (h : row.payload = .message payload) :
    row.weight ≤ 2 * payload.version + 1 := by
  rw [OutboxRow.weight_eq h]
  split <;> omega

namespace Described

variable {messages : List MessageRow} {row : OutboxRow} {composite : MessageCompositeId} {version : Nat}

/-- The row under a workflow key is an event of the message, as heavy as its kind and version. -/
theorem weight_of_key (h : Described messages row) {kind : WorkflowKind} (hkind : kind ≠ .dispatchUncertain)
    (hkey : row.dedupeKey = workflowKey composite kind version) :
    row.workflowFor composite = true ∧ row.weight = kind.weight version := by
  obtain ⟨payload, hp, hc, hversion, ht, he⟩ := h.of_workflowKey hkind hkey
  refine ⟨OutboxRow.workflowFor_eq_true.2 ⟨kind.isWorkflow_of_sends ht hkind, payload, hp, hc⟩, ?_⟩
  rw [OutboxRow.weight_eq hp, hversion, he]
  unfold WorkflowKind.weight
  cases kind <;> rfl

/-- The row under the key of an uncertain dispatch is the message's event for reconciliation. -/
theorem reconciles_of_key (h : Described messages row)
    (hkey : row.dedupeKey = workflowKey composite .dispatchUncertain version) : row.reconciles composite = true := by
  cases h with
  | accepted payload message hp ht he hkey' hversion hm hc =>
    exact absurd (hkey'.symm.trans hkey) (acceptedKey_ne_workflowKey _ _ _ _)
  | workflow payload kind message hkind hp ht he hkey' hm hc hversion hrank =>
    exact absurd (workflowKey_injective (hkey'.symm.trans hkey)).2.1 hkind
  | uncertain payload composite' version' hp ht hkey' hnames =>
    obtain ⟨rfl, -, -⟩ := workflowKey_injective (hkey'.symm.trans hkey)
    unfold OutboxRow.reconciles
    rw [hp, ht]
    simpa using hnames
  | report ht hreport =>
    obtain ⟨parts, hparts, hreport⟩ := hreport
    exact absurd (hreport.symm.trans hkey) ((report_key_ne hparts composite).2 .dispatchUncertain version)

/-- The events that ask for a retry are no dispatch events. -/
theorem weight_of_retry (h : Described messages row) {payload : MessageEventPayload}
    (hp : row.payload = .message payload) (ht : row.topicName = .smsRetry) : row.weight = 2 * payload.version := by
  rw [OutboxRow.weight_eq hp, if_neg, Nat.add_zero]
  cases h with
  | accepted payload' message hp' ht' he hkey hversion hm hc => rw [he]; decide
  | workflow payload' kind message hkind hp' ht' he hkey hm hc hversion hrank =>
    rw [he]
    rw [ht] at ht'
    revert ht'
    cases kind <;> simp [WorkflowKind.sends, WorkflowKind.eventType, KafkaTopic.isDispatch]
  | uncertain payload' composite version hp' ht' hkey hnames => cases hp.symm.trans hp'
  | report ht' hkey => rcases ht' with ht' | ht' <;> cases ht.symm.trans ht'

end Described

/-- A workflow event names one message. -/
theorem OutboxRow.workflowFor_unique {row : OutboxRow} {c d : MessageCompositeId} (hc : row.workflowFor c = true)
    (hd : row.workflowFor d = true) : c = d := by
  obtain ⟨-, payload, hp, rfl⟩ := OutboxRow.workflowFor_eq_true.1 hc
  obtain ⟨-, payload', hp', rfl⟩ := OutboxRow.workflowFor_eq_true.1 hd
  cases hp.symm.trans hp'
  rfl

theorem Stage.event_of_isWorkflow {stage : Stage} {topic : KafkaTopic} (h : stage.handles topic = true)
    (ht : topic.isWorkflow = true) : ∃ payload, stage.event = some payload := by
  cases stage with
  | webhook | correlated | reconcile =>
    rw [of_decide_eq_true h] at ht
    cases ht
  | _ => exact ⟨_, rfl⟩

theorem Stage.isWorkflow_of_event {stage : Stage} {topic : KafkaTopic} {payload : MessageEventPayload}
    (hevent : stage.event = some payload) (h : stage.handles topic = true) : topic.isWorkflow = true := by
  cases stage with
  | accepted | retry | result =>
    rw [of_decide_eq_true h]
    rfl
  | dispatch | provider | dispatched => exact KafkaTopic.isWorkflow_of_isDispatch h
  | webhook | correlated | reconcile => cases hevent

section Executions

variable {world : World} {execution : Execution} {row : OutboxRow}

/-- The message of a workflow event is in the table. -/
theorem Events.exists_message (ev : Events world) (hrow : row ∈ world.db.outbox) {composite : MessageCompositeId}
    (hfor : row.workflowFor composite = true) : ∃ message ∈ world.db.messages, message.composite = composite := by
  obtain ⟨hwork, payload, hp, hc⟩ := OutboxRow.workflowFor_eq_true.1 hfor
  cases ev.described row hrow with
  | accepted payload' message hp' ht he hkey hversion hm hc' =>
    cases hp.symm.trans hp'
    exact ⟨message, hm, hc'.trans hc⟩
  | workflow payload' kind message hkind hp' ht he hkey hm hc' hversion hrank =>
    cases hp.symm.trans hp'
    exact ⟨message, hm, hc'.trans hc⟩
  | uncertain payload' composite' version hp' ht hkey hnames => cases hp.symm.trans hp'
  | report ht hkey => rcases ht with ht | ht <;> rw [ht] at hwork <;> cases hwork

/-- The event of an execution, in the outbox. -/
theorem Events.source_row (ev : Events world) (he : execution ∈ world.executions) (hrow : row ∈ world.db.outbox)
    (hid : row.id = execution.event) : execution.stage.handles row.topicName = true ∧
      ∀ payload, execution.stage.payload = some payload → row.payload = payload := by
  obtain ⟨row', hrow', hid', hhandles, hpayload⟩ := (ev.sourced execution he).row
  rw [ev.row_unique hrow hrow' (hid.trans hid'.symm)]
  exact ⟨hhandles, hpayload⟩

/-- What a workflow handler enqueues is for reconciliation, or a heavier event of the same message. -/
theorem Events.emits_heavier {env : Environment} {db' : Db} {input : OutboxEventInput} {payload : MessageEventPayload}
    (ev : Events world) (he : execution ∈ world.executions) (hevent : execution.stage.event = some payload)
    (h : Stage.Emits env world.db db' execution.stage input) (hrow : row ∈ world.db.outbox)
    (hid : row.id = execution.event) :
    (∃ version, input.dedupeKey = workflowKey payload.toComposite .dispatchUncertain version ∧
        input.topicName = .smsReconcile) ∨
      ∃ kind version, kind ≠ .dispatchUncertain ∧ input.dedupeKey = workflowKey payload.toComposite kind version ∧
        row.weight < kind.weight version := by
  have hsource := ev.sourced execution he
  obtain ⟨hhandles, hpayload⟩ := ev.source_row he hrow hid
  have hp := hpayload _ (Stage.payload_of_event hevent)
  have hle := OutboxRow.weight_le hp
  obtain ⟨event, stage⟩ := execution
  cases h with
  | follow hw hcurrent htrigger hm hin =>
    cases hw with
    | accepted job route hroute =>
      cases hevent
      cases hin
      have hread := (hsource.read _ _ rfl rfl).1
      refine .inr ⟨.dispatch, job.message.version + 1, by decide, rfl, ?_⟩
      change row.weight < 2 * (job.message.version + 1) + 0
      omega
    | throttle job haction =>
      cases hevent
      cases hin
      have hread := (hsource.read _ _ rfl rfl).1
      refine .inr ⟨.fraudThrottle, job.message.version + 1, by decide, rfl, ?_⟩
      change row.weight < 2 * (job.message.version + 1) + 0
      omega
    | unknown job =>
      cases hevent
      cases hin
      exact .inl ⟨_, rfl, rfl⟩
    | retrySubmit job retryPolicy nextRoute hpolicy hretry =>
      cases hevent
      cases hin
      have hread := (hsource.read _ _ rfl rfl).1
      refine .inr ⟨.retry, job.message.version + 1, by decide, rfl, ?_⟩
      change row.weight < 2 * (job.message.version + 1) + 0
      omega
    | attempt job => cases hin
    | ack job haccepted => cases hin
    | failure job => cases hin
    | delivered report message hstatus => cases hevent
    | dlrFailed report message hstatus => cases hevent
  | event h hsame =>
    cases h with
    | retry job =>
      cases hevent
      have hread := (hsource.read _ _ rfl rfl).1
      have hretry := (ev.described row hrow).weight_of_retry hp (by simpa [Stage.handles] using hhandles)
      refine .inr ⟨.retryDispatch, job.message.version, by decide, rfl, ?_⟩
      change row.weight < 2 * job.message.version + 1
      omega
    | dispatched job submittingVersion result =>
      cases hevent
      have hread := (hsource.read _ _ rfl rfl).1
      have hversion := (hsource.attempt _ _ rfl).1
      refine .inr ⟨.dispatchResult, submittingVersion, by decide, rfl, ?_⟩
      change row.weight < 2 * submittingVersion + 0
      omega
  | reconcile report message reason extra hstage =>
    subst hstage
    cases hevent

end Executions

end SmsPlatform
