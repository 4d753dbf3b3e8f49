import SmsPlatform.Pipeline.Marks
import SmsPlatform.Pipeline.ReportOrder
import SmsPlatform.Pipeline.Reports

/-!
# Settlement by delivery reports

Beside the pipeline it is written down what the transaction of each processor that returned has left behind
(`Completion`).  Of the reports correlated to a message, the first delivered or failed one whose transaction commits
decides its status; the later ones change neither the message nor wallet and ledger; and no report is dropped: its
webhook is processed, and it was applied, or marked as a duplicate, or handed to reconciliation (`reports_settle`).
-/

namespace SmsPlatform

open Segments StateExcept Transition

/-! ### What a processor leaves behind -/

structure Completion where
  receivedDate : SqlDate
  webhookId : Nat
  reported : Option DlrStatus
  message : Option MessageCompositeId
  applied : Option MessageStatus
  enqueued : List OutboxRow
  processed : Bool
  processingError : Option String

def Db.webhook (db : Db) (report : DlrWebhookRow) : Option DlrWebhookRow :=
  db.dlrWebhooks.find? fun row => decide (row.receivedDate = report.receivedDate ∧ row.id = report.id)

/-- The completion of a processor, seen from the database before and after its transaction: the status that the message
has been given, if a message was changed, the events that were added, and the state of the webhook. -/
def completion (db db' : Db) (report : DlrWebhookRow) (message : Option MessageRow) : Completion where
  receivedDate := report.receivedDate
  webhookId := report.id
  reported := report.normalizedStatus
  message := message.map MessageRow.composite
  applied :=
    if db'.messages = db.messages then none
    else message.bind fun message => (db'.findMessage message.composite).map MessageRow.status
  enqueued := db'.outbox.drop db.outbox.length
  processed := (db'.webhook report).any DlrWebhookRow.processed
  processingError := (db'.webhook report).bind DlrWebhookRow.processingError

/-- The processor that a step advances, past its correlation. -/
def World.correlating (world : World) : Action → Option (DlrWebhookRow × Option MessageRow)
  | .advance index _ =>
    match world.executions[index]? with
    | some ⟨_, .correlated report message⟩ => some (report, message)
    | _ => none
  | _ => none

/-- A processor has returned when its event is consumed. -/
def completions (world : World) (a : Action) (world' : World) : List Completion :=
  match world.correlating a with
  | some (report, message) =>
    if world'.consumed = world.consumed then [] else [completion world.db world'.db report message]
  | none => []

/-- A report has been applied to this message. -/
def SettledIn (record : List Completion) (message : MessageCompositeId) : Prop :=
  ∃ entry ∈ record, entry.applied.isSome = true ∧ entry.message = some message

/-- A delivered or failed report is applied, or comes after one that was. -/
def FirstDecides (entry : Completion) (before : List Completion) : Prop :=
  ∀ message status, entry.message = some message → entry.reported.bind DlrStatus.outcome = some status →
    SettledIn before message ∨ entry.applied = some status

/-- An event for reconciliation that names the webhook. -/
def Completion.Reconciles (entry : Completion) (event : OutboxRow) : Prop :=
  event.topicName = .smsReconcile ∧ ∃ payload providerMessageId normalizedStatus extra raw,
    event.payload = .reconcile payload ∧
      payload.payload = .dlr entry.receivedDate entry.webhookId providerMessageId normalizedStatus extra raw

/-- The webhook was marked by a transaction that applied it, or found it to be a duplicate, or enqueued its
reconciliation. -/
def Completion.Accounted (entry : Completion) : Prop :=
  entry.processed = true ∧
    (entry.applied.isSome = true ∨ entry.processingError = some "duplicate_delivered" ∨
      entry.processingError = some "duplicate_failed" ∨ ∃ event ∈ entry.enqueued, entry.Reconciles event)

/-! ### The transaction of a processor -/

/-- The reasons for a reconciliation. -/
def reconcileReasons : List String :=
  ["message_not_found", "unknown_status", "invalid_delivered_transition", "invalid_failed_transition"]

/-- A status that is past `provider_accepted`. -/
def MessageStatus.Final (status : MessageStatus) : Prop := status = .delivered ∨ status = .failed

/-- Everything the transaction of a processor can have done. -/
inductive Processed (env : Environment) (db : Db) (report : DlrWebhookRow) : Option MessageRow → Db → Prop
  | reconciled (message : Option MessageRow) (reason : String) (extra : DlrReconcileExtra)
      (hreason : reason ∈ reconcileReasons)
      (hopen : ∀ found status, message = some found → report.normalizedStatus.bind DlrStatus.outcome = some status →
        found.status ≠ .providerAccepted) :
      Processed env db report message
        ((db.enqueue env.clock (dlrReconcileEvent env.printer report reason extra)).updateWebhook report.receivedDate
          report.id fun row => { row with processed := true, processingError := some reason })
  | duplicate (message : MessageRow) (reason : String)
      (hreason : reason = "duplicate_delivered" ∨ reason = "duplicate_failed") (hfinal : message.status.Final) :
      Processed env db report (some message) (db.updateWebhook report.receivedDate report.id fun row =>
        { row with processed := true, processingError := some reason })
  | applied (message : MessageRow) {status : MessageStatus} {work : GuardedWork}
      {next : MessageRow → Option Stage} {updated : MessageRow} {db' : Db}
      (hstatus : report.normalizedStatus.bind DlrStatus.outcome = some status)
      (hw : Stage.WorkOf env (.correlated report (some message)) work next)
      (hassign : (work.assign message).status = status) (c : work.Committed env.clock db updated db') :
      Processed env db report (some message) db'

theorem processed_of_ok {env : Environment} {db db' : Db} {report : DlrWebhookRow} {message : Option MessageRow}
    (h : (processCorrelatedTx env.readings env.clock env.printer report message).run db = .ok ((), db')) :
    Processed env db report message db' := by
  have hreconcile : ∀ reason extra, reason ∈ reconcileReasons →
      (∀ found status, message = some found → report.normalizedStatus.bind DlrStatus.outcome = some status →
        found.status ≠ .providerAccepted) →
      (enqueueReconciliation env.clock env.printer report reason extra).run db = .ok ((), db') →
      Processed env db report message db' := by
    intro reason extra hreason hopen hrun
    obtain ⟨_, db₁, henqueue, hmark⟩ := bind_eq_ok.1 hrun
    cases henqueue
    cases hmark
    exact .reconciled message reason extra hreason hopen
  have happly : ∀ {found : MessageRow} {status : MessageStatus} {work : GuardedWork}, message = some found →
      report.normalizedStatus.bind DlrStatus.outcome = some status →
      Stage.WorkOf env (.correlated report (some found)) work (fun _ => none) →
      (work.assign found).status = status → (work.exec env.clock).run db = .ok ((), db') →
      Processed env db report message db' := by
    intro found status work hmessage hstatus hw hassign hrun
    obtain ⟨updated, db₁, hrun, hret⟩ := bind_eq_ok.1 hrun
    cases hret
    obtain ⟨c⟩ := GuardedWork.run_ok hrun
    rw [hmessage]
    exact .applied found hstatus hw hassign c
  cases message with
  | none => exact hreconcile _ _ (by decide) (fun _ _ hnone => by cases hnone) h
  | some message =>
    unfold processCorrelatedTx at h
    dsimp only at h
    split at h
    · rename_i hnone
      exact hreconcile _ _ (by decide) (fun _ _ _ hsome => by rw [hnone] at hsome; cases hsome) h
    · rename_i hunknown
      exact hreconcile _ _ (by decide) (fun _ _ _ hsome => by rw [hunknown] at hsome; cases hsome) h
    · rename_i hdelivered
      split at h
      · rename_i hstatus
        cases h
        exact .duplicate message _ (.inl rfl) (.inl hstatus)
      · split at h
        · rename_i hnot
          refine hreconcile _ _ (by decide) (fun found _ hfound _ => ?_) h
          cases hfound
          exact hnot
        · rename_i hstatus
          have hstatus : message.status = .providerAccepted := by simpa using hstatus
          rw [dlrDeliveredTx_eq _ _ _ hstatus] at h
          exact happly rfl (by rw [hdelivered]; rfl) (.delivered report message hstatus) rfl h
    · rename_i hfailed
      split at h
      · rename_i hstatus
        cases h
        exact .duplicate message _ (.inr rfl) (.inr hstatus)
      · split at h
        · rename_i hnot
          refine hreconcile _ _ (by decide) (fun found _ hfound _ => ?_) h
          cases hfound
          exact hnot.1
        · rename_i hstatus
          have hstatus : message.status = .providerAccepted ∨ message.status = .submitting := by
            by_contra hne
            exact hstatus (by simpa [not_or] using hne)
          rw [dlrFailedTx_eq _ _ _ _ hstatus] at h
          exact happly rfl (by rw [hfailed]; rfl) (.dlrFailed report message hstatus) rfl h

/-! ### Steps of processors and other steps -/

section Steps

variable {world world' : World} {a : Action}

theorem World.correlating_eq_some {report : DlrWebhookRow} {message : Option MessageRow} :
    world.correlating a = some (report, message) ↔ ∃ index env execution, a = .advance index env ∧
      world.executions[index]? = some execution ∧ execution.stage = .correlated report message := by
  constructor
  · intro h
    cases a with
    | advance index env =>
      unfold World.correlating at h
      dsimp only at h
      split at h
      · rename_i event report' message' hexec
        cases h
        exact ⟨index, env, _, rfl, hexec, rfl⟩
      · cases h
    | _ => cases h
  · rintro ⟨index, env, ⟨event, stage⟩, rfl, hexec, hstage⟩
    cases hstage
    unfold World.correlating
    dsimp only
    rw [hexec]

theorem World.correlating_ne_none {index : Nat} {env : Environment} {execution : Execution} {report : DlrWebhookRow}
    {message : Option MessageRow} (hexec : world.executions[index]? = some execution)
    (hstage : execution.stage = .correlated report message) : world.correlating (.advance index env) ≠ none := by
  rw [World.correlating_eq_some.2 ⟨index, env, execution, rfl, hexec, hstage⟩]
  exact Option.some_ne_none _

/-- The transaction of a processor fails, or it has done one of the things it can do. -/
theorem World.step_correlating {index : Nat} {env : Environment} {execution : Execution} {report : DlrWebhookRow}
    {message : Option MessageRow} (hexec : world.executions[index]? = some execution)
    (hstage : execution.stage = .correlated report message) (hstep : world.step (.advance index env) = some world') :
    world' = { world with executions := world.executions.eraseIdx index } ∨
      ∃ db', Processed env world.db report message db' ∧ world' = { world with
        db := db'
        executions := world.executions.eraseIdx index
        consumed := execution.event :: world.consumed } := by
  obtain ⟨execution', hexec', rfl⟩ := Option.map_eq_some_iff.1 hstep
  cases hexec.symm.trans hexec'
  have hsubmits : world.submitsAfter execution env = world.submits := by
    unfold World.submitsAfter
    rw [hstage]
    rfl
  unfold World.advance withTransaction
  cases hrun : (execution.stage.advance env).run world.db with
  | error failure =>
    dsimp only
    rw [hsubmits]
    exact .inl rfl
  | ok result =>
    obtain ⟨next, db'⟩ := result
    rw [hstage] at hrun
    obtain ⟨_, db₁, hprocess, hret⟩ := bind_eq_ok.1 hrun
    cases hret
    dsimp only
    rw [hsubmits]
    exact .inr ⟨_, processed_of_ok hprocess, rfl⟩

/-- A step that completes no processor: it is none of a processor past its correlation, or that one has thrown. -/
def QuietStep (world : World) (a : Action) (world' : World) : Prop :=
  world.correlating a = none ∨ ∃ index, world' = { world with executions := world.executions.eraseIdx index }

/-- A step that completes a processor. -/
structure Completes (world : World) (world' : World) (report : DlrWebhookRow) (message : Option MessageRow) where
  index : Nat
  env : Environment
  execution : Execution
  hexec : world.executions[index]? = some execution
  hstage : execution.stage = .correlated report message
  processed : Processed env world.db report message world'.db
  consumed : world'.consumed = execution.event :: world.consumed
  executions : world'.executions = world.executions.eraseIdx index

/-- A step completes the processor that it advances, or none. -/
theorem World.step_processor (hstep : world.step a = some world') :
    (QuietStep world a world' ∧ (world.correlating a = none ∨ world'.consumed = world.consumed)) ∨
      ∃ report message, world.correlating a = some (report, message) ∧ world'.consumed ≠ world.consumed ∧
        Nonempty (Completes world world' report message) := by
  cases hc : world.correlating a with
  | none => exact .inl ⟨.inl hc, .inl rfl⟩
  | some processor =>
    obtain ⟨report, message⟩ := processor
    obtain ⟨index, env, execution, rfl, hexec, hstage⟩ := World.correlating_eq_some.1 hc
    rcases World.step_correlating hexec hstage hstep with rfl | ⟨db', hprocessed, rfl⟩
    · exact .inl ⟨.inr ⟨index, rfl⟩, .inr rfl⟩
    · exact .inr ⟨report, message, rfl, List.cons_ne_self _ _,
        ⟨⟨index, env, execution, hexec, hstage, hprocessed, rfl, rfl⟩⟩⟩

theorem completions_cases (hstep : world.step a = some world') :
    (completions world a world' = [] ∧ QuietStep world a world') ∨
      ∃ report message, completions world a world' = [completion world.db world'.db report message] ∧
        Nonempty (Completes world world' report message) := by
  unfold completions
  rcases World.step_processor hstep with ⟨hquiet, hnone | hsame⟩ | ⟨report, message, hc, hne, hcompletes⟩
  · rw [hnone]
    exact .inl ⟨rfl, hquiet⟩
  · left
    refine ⟨?_, hquiet⟩
    split
    · exact if_pos hsame
    · rfl
  · rw [hc]
    exact .inr ⟨report, message, if_neg hne, hcompletes⟩

end Steps

/-! ### What is kept of a completion -/

section Completion

variable {env : Environment} {db db' : Db} {report : DlrWebhookRow} {message : Option MessageRow}

/-- The webhook that a processor has marked. -/
theorem webhook_marked {mark : DlrWebhookRow → DlrWebhookRow} (hmark : Marking mark)
    (hrow : ∃ row ∈ db.dlrWebhooks, row.event = report.event)
    (h : db'.dlrWebhooks = db.dlrWebhooks.map (markKey report mark)) :
    ∃ row, db'.webhook report = some (mark row) := by
  obtain ⟨row, hrow, hevent⟩ := hrow
  have hdate : row.receivedDate = report.receivedDate := congrArg DlrEventPayload.receivedDate hevent
  have hid : row.id = report.id := DlrWebhookRow.id_of_event hevent
  have hmarked : markKey report mark row = mark row := if_pos ⟨hdate, hid⟩
  have hsome : (db'.webhook report).isSome = true := by
    unfold Db.webhook
    rw [List.find?_isSome, h]
    refine ⟨markKey report mark row, List.mem_map_of_mem hrow, ?_⟩
    have hlater : ReportLater row (markKey report mark row) := markKey_later hmark row
    have hsame := hlater.event
    exact decide_eq_true ⟨(congrArg DlrEventPayload.receivedDate hsame).trans hdate,
      (DlrWebhookRow.id_of_event hsame).trans hid⟩
  obtain ⟨found, hfound⟩ := Option.isSome_iff_exists.1 hsome
  have hmem := List.mem_of_find?_eq_some hfound
  have hkey : found.receivedDate = report.receivedDate ∧ found.id = report.id := by
    simpa using List.find?_some hfound
  rw [h] at hmem
  obtain ⟨old, -, hold⟩ := List.mem_map.1 hmem
  refine ⟨old, ?_⟩
  unfold markKey at hold
  split at hold
  · rw [hfound, hold]
  · rename_i hnot
    exact absurd (hold ▸ hkey) hnot

/-- A processor marks its webhook. -/
theorem Processed.marks (h : Processed env db report message db') :
    ∃ mark, Marking mark ∧ db'.dlrWebhooks = db.dlrWebhooks.map (markKey report mark) := by
  cases h with
  | reconciled message reason extra hreason hopen =>
    refine ⟨_, .reason reason, ?_⟩
    show (db.enqueue _ _).dlrWebhooks.map _ = _
    rw [Db.enqueue_dlrWebhooks]
    rfl
  | duplicate message reason hreason hfinal => exact ⟨_, .reason reason, rfl⟩
  | applied message hstatus hw hassign c =>
    rcases c.webhooks.2 with ⟨report', message', hfollow, hrows⟩ | ⟨hnone, -⟩
    · cases hw.marks_report hfollow
      exact ⟨_, .applied message, hrows⟩
    · cases hw with
      | delivered report message hstatus => exact absurd rfl (hnone _ _)
      | dlrFailed report message hstatus => exact absurd rfl (hnone _ _)

theorem Processed.completion_processed (h : Processed env db report message db')
    (hrow : ∃ row ∈ db.dlrWebhooks, row.event = report.event) :
    (completion db db' report message).processed = true := by
  obtain ⟨mark, hmark, hrows⟩ := h.marks
  obtain ⟨row, hfound⟩ := webhook_marked hmark hrow hrows
  unfold completion
  dsimp only
  rw [hfound]
  exact hmark.processed row

/-- The event that a processor enqueues names its webhook. -/
theorem Completion.reconciles {entry : Completion} {printer : DatePrinter} {reason : String}
    {extra : DlrReconcileExtra} {clock : TxClock} {id : Nat} (hdate : entry.receivedDate = report.receivedDate)
    (hid : entry.webhookId = report.id) :
    entry.Reconciles ((dlrReconcileEvent printer report reason extra).row clock id) := by
  refine ⟨rfl, _, report.providerMessageId, report.normalizedStatus, extra, report.payload, rfl, ?_⟩
  rw [hdate, hid]

end Completion

namespace Completes

variable {world world' : World} {report : DlrWebhookRow} {message : Option MessageRow}

theorem mem (c : Completes world world' report message) : c.execution ∈ world.executions :=
  List.mem_of_getElem? c.hexec

/-- The webhook of the processor is there. -/
theorem row (c : Completes world world' report message) (hw : Webhooks world) :
    ∃ row ∈ world.db.dlrWebhooks, row.event = report.event :=
  hw.row_of_held c.mem (by rw [c.hstage]; rfl)

/-- What a processor has done to the messages: nothing, or it gave the message of its report, which was
`provider_accepted`, the status of the report. -/
theorem messages (c : Completes world world' report message) (hs : Snapshots world) (hm : Marked world)
    (hs' : Snapshots world') :
    (world'.db.messages = world.db.messages ∧ (completion world.db world'.db report message).applied = none ∧
      ∀ found status, message = some found → report.normalizedStatus.bind DlrStatus.outcome = some status →
        found.status ≠ .providerAccepted) ∨
      ∃ found new status before after, message = some found ∧ found.status = .providerAccepted ∧
        report.normalizedStatus.bind DlrStatus.outcome = some status ∧
        world.db.messages = before ++ found :: after ∧ world'.db.messages = before ++ new :: after ∧
        RowStep found new ∧ new.status = status ∧
        (completion world.db world'.db report message).applied = some status := by
  obtain ⟨index, env, execution, hexec, hstage, hprocessed, -, -⟩ := c
  have hmem := List.mem_of_getElem? hexec
  have hunchanged : world'.db.messages = world.db.messages →
      (completion world.db world'.db report message).applied = none := fun h => if_pos h
  generalize hdb : world'.db = db' at hprocessed
  cases hprocessed with
  | reconciled message reason extra hreason hopen =>
    left
    rw [hdb] at hunchanged
    have hsame : ((world.db.enqueue env.clock (dlrReconcileEvent env.printer report reason extra)).updateWebhook
        report.receivedDate report.id fun row => { row with processed := true, processingError := some reason }).messages =
        world.db.messages := by
      simp [Db.updateWebhook]
    exact ⟨hsame, hunchanged hsame, hopen⟩
  | duplicate message reason hreason hfinal =>
    rw [hdb] at hunchanged
    refine .inl ⟨rfl, hunchanged rfl, fun found status hfound _ haccepted => ?_⟩
    cases hfound
    rcases hfinal with hdelivered | hfailed
    · rw [hdelivered] at haccepted
      cases haccepted
    · rw [hfailed] at haccepted
      cases haccepted
  | applied found hstatus hw hassign committed =>
    rename_i status work next updated
    right
    have hheld : execution.stage.row = some found := by
      rw [hstage]
      rfl
    have hfound : work.message = found := Option.some.inj hw.row_eq.symm
    have hold : committed.old = found := (hs.committed_old hmem (hstage ▸ hw) committed).trans hfound
    have hnew : updated = work.assign found := by rw [committed.updated_eq, hold]
    have hlate := ((hm.held _ hmem found hheld).of_sent (hm.correlated _ hmem report found hstage)).1
    have haccepted : found.status = .providerAccepted := by
      cases hw with
      | delivered report message hstatus => exact hstatus
      | dlrFailed report message hstatus =>
        rcases hstatus with haccepted | hsubmitting
        · exact haccepted
        · rw [hsubmitting] at hlate
          simp at hlate
    have hrowStep : RowStep found updated := by
      rw [hnew]
      exact hw.rowStep (by rw [hfound])
    have hsplit := committed.messages
    have hsplit' := committed.messages_eq
    rw [hold] at hsplit
    refine ⟨found, updated, status, committed.before, committed.after, rfl, haccepted, hstatus, hsplit, hsplit',
      hrowStep, by rw [hnew]; exact hassign, ?_⟩
    have hchanged : db'.messages ≠ world.db.messages := by
      intro hsame
      rw [hsplit, hsplit'] at hsame
      have heq : updated = found := (List.cons.inj (List.append_cancel_left hsame)).1
      have hversion := hrowStep.version
      rw [heq] at hversion
      omega
    have hkeyed := keyed_composite hs'.keyed
    rw [hdb] at hkeyed
    have hmem' : updated ∈ db'.messages := by
      rw [hsplit']
      simp
    unfold completion
    dsimp only
    rw [if_neg hchanged]
    show (db'.findMessage found.composite).map MessageRow.status = some status
    have hcomposite := MessageRow.composite_of_content hrowStep.content
    obtain ⟨row, hrow⟩ := Option.isSome_iff_exists.1 (show (db'.findMessage found.composite).isSome = true by
      unfold Db.findMessage
      rw [List.find?_isSome]
      exact ⟨updated, hmem', decide_eq_true hcomposite⟩)
    have hrowComposite : row.composite = found.composite := by
      unfold Db.findMessage at hrow
      simpa using List.find?_some hrow
    have hrowMem : row ∈ db'.messages := by
      unfold Db.findMessage at hrow
      exact List.mem_of_find?_eq_some hrow
    have hsame : row = updated := hkeyed.unique hrowMem hmem' (hrowComposite.trans hcomposite.symm)
    rw [hrow, hsame, hnew]
    exact congrArg some hassign

/-- A processor has accounted for its webhook, unless the day has an event of that reason for that webhook already. -/
theorem accounted (c : Completes world world' report message) (hs : Snapshots world) (hm : Marked world)
    (hw : Webhooks world) (hs' : Snapshots world') :
    (completion world.db world'.db report message).Accounted ∨
      ∃ event ∈ world.db.outbox, ∃ printer reason, reason ∈ reconcileReasons ∧
        event.dedupeKey = dlrReconcileKey printer report reason := by
  have hprocessed := c.processed.completion_processed (c.row hw)
  have hrow := c.row hw
  rcases c.messages hs hm hs' with ⟨hsame, -, -⟩ | ⟨found, new, status, before, after, -, -, -, -, -, -, -, happlied⟩
  · have hcompleted := c.processed
    generalize hdb : world'.db = db' at hcompleted hprocessed hsame
    cases hcompleted with
    | reconciled message reason extra hreason hopen =>
      rcases world.db.enqueue_outbox c.env.clock (dlrReconcileEvent c.env.printer report reason extra) with
        ⟨⟨event, hevent, -, hkey⟩, -, -⟩ | ⟨-, houtbox, -⟩
      · exact .inr ⟨event, hevent, c.env.printer, reason, hreason, hkey⟩
      · left
        refine ⟨hprocessed, .inr (.inr (.inr ⟨(dlrReconcileEvent c.env.printer report reason extra).row c.env.clock
          world.db.outbox.length, ?_, Completion.reconciles rfl rfl⟩))⟩
        show _ ∈ (world.db.enqueue _ _).outbox.drop world.db.outbox.length
        rw [houtbox, List.drop_left]
        exact List.mem_singleton_self _
    | duplicate message reason hreason hfinal =>
      left
      have hmarked : (world.db.updateWebhook report.receivedDate report.id fun row =>
          { row with processed := true, processingError := some reason }).dlrWebhooks =
            world.db.dlrWebhooks.map (markKey report fun row =>
              { row with processed := true, processingError := some reason }) := rfl
      obtain ⟨row, hfound⟩ := webhook_marked (.reason reason) hrow hmarked
      have herror : (completion world.db (world.db.updateWebhook report.receivedDate report.id fun row =>
          { row with processed := true, processingError := some reason }) report (some message)).processingError =
            some reason := by
        unfold completion
        dsimp only
        rw [hfound]
        rfl
      rcases hreason with rfl | rfl
      · exact ⟨hprocessed, .inr (.inl herror)⟩
      · exact ⟨hprocessed, .inr (.inr (.inl herror))⟩
    | applied found hstatus hworkOf hassign committed =>
      rename_i status work next updated
      -- an applied report has changed the messages
      exfalso
      have hold : committed.old = work.message := hs.committed_old c.mem (c.hstage ▸ hworkOf) committed
      have hrowStep : RowStep work.message (work.assign work.message) := hworkOf.rowStep rfl
      have hversion := hrowStep.version
      have heq : committed.old = updated := by
        have hmessages := committed.messages_eq
        rw [hsame, committed.messages] at hmessages
        exact (List.cons.inj (List.append_cancel_left hmessages)).1
      have hassigned := heq.trans committed.updated_eq
      rw [hold] at hassigned
      have hsameVersion := congrArg MessageRow.version hassigned
      omega
  · exact .inl ⟨hprocessed, .inl (by rw [happlied]; rfl)⟩

/-- The events after a processor: those before, and at most its reconciliation. -/
theorem events (c : Completes world world' report message) {event : OutboxRow} (h : event ∈ world'.db.outbox) :
    event ∈ world.db.outbox ∨ ∃ printer reason, reason ∈ reconcileReasons ∧
      event.dedupeKey = dlrReconcileKey printer report reason := by
  have hprocessed := c.processed
  generalize world'.db = db' at hprocessed h
  cases hprocessed with
  | reconciled message reason extra hreason hopen =>
    have h : event ∈ (world.db.enqueue c.env.clock (dlrReconcileEvent c.env.printer report reason extra)).outbox := h
    rcases world.db.enqueue_outbox c.env.clock (dlrReconcileEvent c.env.printer report reason extra) with
      ⟨-, houtbox, -⟩ | ⟨-, houtbox, -⟩
    · rw [houtbox] at h
      exact .inl h
    · rw [houtbox, List.mem_append, List.mem_singleton] at h
      rcases h with hold | rfl
      · exact .inl hold
      · exact .inr ⟨c.env.printer, reason, hreason, rfl⟩
  | duplicate message reason hreason hfinal => exact .inl h
  | applied found hstatus hw hassign committed =>
    left
    rw [committed.outbox_eq] at h
    · exact h
    · intro input hinput
      cases hw with
      | delivered report message hstatus => cases hinput
      | dlrFailed report message hstatus => cases hinput

end Completes

/-! ### The keys of reconciliations -/

private theorem colonFree_of_reason {reason : String} (h : reason ∈ reconcileReasons) : ':' ∉ reason.toList := by
  revert reason
  decide

/-- The key of a reconciliation tells the webhook, by the segments at its end. -/
theorem dlrReconcileKey_id {printer printer' : DatePrinter} {report report' : DlrWebhookRow} {reason reason' : String}
    (h : reason ∈ reconcileReasons) (h' : reason' ∈ reconcileReasons)
    (hkey : dlrReconcileKey printer report reason = dlrReconcileKey printer' report' reason') :
    report.id = report'.id := by
  have hlast := (joinColon_snoc_inj (l := ["dlr", printer report.receivedDate, report.id.repr, "reconcile"])
    (m := ["dlr", printer' report'.receivedDate, report'.id.repr, "reconcile"]) (colonFree_of_reason h)
    (colonFree_of_reason h') (by simp) (by simp) hkey).2
  have hmiddle := (joinColon_snoc_inj (l := ["dlr", printer report.receivedDate, report.id.repr])
    (m := ["dlr", printer' report'.receivedDate, report'.id.repr]) (by decide) (by decide) (by simp) (by simp)
    hlast).2
  have hid := (joinColon_snoc_inj (l := ["dlr", printer report.receivedDate])
    (m := ["dlr", printer' report'.receivedDate]) (colon_not_mem_repr _) (colon_not_mem_repr _) (by simp) (by simp)
    hmiddle).1
  exact repr_injective hid

/-- The key of a webhook's event ends in a number, that of a reconciliation in a reason. -/
theorem dlrKey_ne_reconcile {printer printer' : DatePrinter} {report report' : DlrWebhookRow} {reason : String}
    (h : reason ∈ reconcileReasons) : dlrKey printer report ≠ dlrReconcileKey printer' report' reason := by
  intro hkey
  have hlast : report.id.repr = reason := (joinColon_snoc_inj (l := ["dlr", printer report.receivedDate])
    (m := ["dlr", printer' report'.receivedDate, report'.id.repr, "reconcile"]) (colon_not_mem_repr _)
    (colonFree_of_reason h) (by simp) (by simp) hkey).1
  have hunderscore : ∀ reason ∈ reconcileReasons, '_' ∈ reason.toList := by decide
  have hmem := hunderscore reason h
  rw [← hlast, Nat.toList_repr] at hmem
  exact absurd (Nat.isDigit_of_mem_toDigits (by decide) (by decide) hmem) (by decide)

theorem Stage.Emits.key {env : Environment} {db db' : Db} {stage : Stage} {input : OutboxEventInput}
    (h : Stage.Emits env db db' stage input) :
    (∃ composite kind version, input.dedupeKey = workflowKey composite kind version) ∨
      ∃ report message, stage = .correlated report message := by
  cases h with
  | follow hw hcurrent htrigger hm hin =>
    cases hw with
    | accepted job route hroute =>
      cases hin
      exact .inl ⟨_, _, _, rfl⟩
    | throttle job haction =>
      cases hin
      exact .inl ⟨_, _, _, rfl⟩
    | unknown job =>
      cases hin
      exact .inl ⟨_, _, _, rfl⟩
    | retrySubmit job retryPolicy nextRoute hpolicy hretry =>
      cases hin
      exact .inl ⟨_, _, _, rfl⟩
    | _ => cases hin
  | event h hsame =>
    cases h with
    | retry job => exact .inl ⟨_, _, _, rfl⟩
    | dispatched job submittingVersion execution => exact .inl ⟨_, _, _, rfl⟩
  | reconcile report message reason extra hs => exact .inr ⟨report, message, hs⟩

/-! ### The invariant -/

/-- What the record says about the state. -/
structure Settling (world : World) (record : List Completion) : Prop where
  named : ∀ entry ∈ record, ∃ row ∈ world.db.dlrWebhooks,
    row.receivedDate = entry.receivedDate ∧ row.id = entry.webhookId ∧ row.processed = true
  processed : ∀ row ∈ world.db.dlrWebhooks, row.processed = true →
    ∃ entry ∈ record, entry.receivedDate = row.receivedDate ∧ entry.webhookId = row.id ∧ entry.Accounted
  reconciled : ∀ event ∈ world.db.outbox, ∀ printer (report : DlrWebhookRow) reason, reason ∈ reconcileReasons →
    event.dedupeKey = dlrReconcileKey printer report reason → ∃ entry ∈ record, entry.webhookId = report.id ∧
      entry.Accounted
  consumed : ∀ id ∈ world.consumed, ∃ event ∈ world.db.outbox, event.id = id ∧ (event.topicName = .smsDlr →
    ∃ row ∈ world.db.dlrWebhooks, event.payload = .dlr row.event ∧ row.processed = true)
  applied : ∀ entry ∈ record, ∀ status, entry.applied = some status →
    entry.reported.bind DlrStatus.outcome = some status ∧
      ∃ row ∈ world.db.messages, entry.message = some row.composite ∧ row.status = status
  final : ∀ row ∈ world.db.messages, row.sentAt.isSome = true → row.status.Final → SettledIn record row.composite
  held : ∀ execution ∈ world.executions, ∀ report message, execution.stage = .correlated report (some message) →
    message.status.Final → SettledIn record message.composite

theorem SettledIn.append {record entries : List Completion} {message : MessageCompositeId}
    (h : SettledIn record message) : SettledIn (record ++ entries) message := by
  obtain ⟨entry, hentry, hfacts⟩ := h
  exact ⟨entry, List.mem_append_left _ hentry, hfacts⟩

theorem DlrStatus.outcome_final {reported : Option DlrStatus} {status : MessageStatus}
    (h : reported.bind DlrStatus.outcome = some status) : status.Final := by
  cases reported with
  | none => cases h
  | some reported =>
    cases reported with
    | delivered =>
      cases h
      exact .inl rfl
    | failed =>
      cases h
      exact .inr rfl
    | unknown => cases h

theorem Settling.initial (wallets : TenantId → Option WalletRow) : Settling (World.initial wallets) [] := by
  refine ⟨?_, ?_, ?_, ?_, ?_, ?_, ?_⟩
  · intro entry hentry
    cases hentry
  · intro row hrow
    cases hrow
  · intro event hevent
    cases hevent
  · intro id hid
    cases hid
  · intro entry hentry
    cases hentry
  · intro row hrow
    cases hrow
  · intro execution he
    cases he

/-- Everything that is known of a reachable state. -/
structure Known (world : World) : Prop where
  snapshots : Snapshots world
  events : Events world
  marked : Marked world
  webhooks : Webhooks world

theorem known_of_reaches {wallets : TenantId → Option WalletRow} {world : World}
    (h : Reaches World.step (World.initial wallets) world) : Known world :=
  ⟨snapshots_of_reaches h, events_of_reaches h, marked_of_reaches h, webhooks_of_reaches h⟩

/-- A handler of a webhook that returns at once has found it processed. -/
theorem returned_processed {world : World} (hw : Webhooks world) {event : OutboxRow} (hevent : event ∈ world.db.outbox)
    (htopic : event.topicName = .smsDlr) (hstart : startHandler world.db event = .ok none) :
    ∃ row ∈ world.db.dlrWebhooks, event.payload = .dlr row.event ∧ row.processed = true := by
  obtain ⟨row, hrow, hpayload⟩ := hw.events event hevent htopic
  unfold startHandler at hstart
  rw [htopic, hpayload] at hstart
  dsimp only at hstart
  obtain ⟨found, hfound⟩ := Option.isSome_iff_exists.1 (Db.findWebhook_isSome hrow)
  obtain ⟨hmem, hsame⟩ := Db.findWebhook_some hfound
  rw [hfound] at hstart
  dsimp only at hstart
  split at hstart
  · rename_i hprocessed
    exact ⟨found, hmem, by rw [hpayload, hsame], hprocessed⟩
  · cases hstart

section Quiet

variable {world world' : World} {a : Action} {record : List Completion}

/-- What was known of a webhook is known of its later state. -/
private theorem marked_later {db' : Db} (h : WebhooksStep world a db') {event : OutboxRow}
    (hrow : ∃ row ∈ world.db.dlrWebhooks, event.payload = .dlr row.event ∧ row.processed = true) :
    ∃ row ∈ db'.dlrWebhooks, event.payload = .dlr row.event ∧ row.processed = true := by
  obtain ⟨row, hrow, hpayload, hprocessed⟩ := hrow
  obtain ⟨row', hrow', hlater⟩ := h.row_later hrow
  exact ⟨row', hrow', by rw [hpayload, hlater.event], hlater.processed hprocessed⟩

theorem Settling.named_later (h : Settling world record) {db' : Db} (hrows : WebhooksStep world a db') :
    ∀ entry ∈ record, ∃ row ∈ db'.dlrWebhooks,
      row.receivedDate = entry.receivedDate ∧ row.id = entry.webhookId ∧ row.processed = true := by
  intro entry hentry
  obtain ⟨row, hrow, hdate, hid, hprocessed⟩ := h.named entry hentry
  obtain ⟨row', hrow', hlater⟩ := hrows.row_later hrow
  exact ⟨row', hrow', (congrArg DlrEventPayload.receivedDate hlater.event).trans hdate,
    (DlrWebhookRow.id_of_event hlater.event).trans hid, hlater.processed hprocessed⟩

/-- The status of a settled message does not change any more. -/
theorem Settling.applied_later (h : Settling world record) {db' : Db} (hmessages : MessagesStep world.db db') :
    ∀ entry ∈ record, ∀ status, entry.applied = some status →
      entry.reported.bind DlrStatus.outcome = some status ∧
        ∃ row ∈ db'.messages, entry.message = some row.composite ∧ row.status = status := by
  intro entry hentry status happlied
  obtain ⟨hreported, row, hrow, hmessage, hstatus⟩ := h.applied entry hentry status happlied
  obtain ⟨row', hrow', hearlier⟩ := hmessages.earlier ⟨row, hrow, .refl⟩
  have hhistory := messageHistory_of_earlier hearlier
  refine ⟨hreported, row', hrow', ?_, ?_⟩
  · rw [hmessage, MessageRow.composite_of_content hhistory.content]
  · have hfinal : row.status.Final := hstatus ▸ DlrStatus.outcome_final hreported
    exact (hhistory.terminal hfinal).trans hstatus

/-- A guarded work outside the processors of reports starts from a message in progress. -/
theorem Stage.WorkOf.inProgress {env : Environment} {stage : Stage} {work : GuardedWork}
    {next : MessageRow → Option Stage} (h : Stage.WorkOf env stage work next)
    (hstage : ∀ report message, stage ≠ .correlated report message) : work.message.status.InProgress := by
  cases h with
  | accepted job route hroute =>
    have hs : job.message.status = .accepted := by simpa using job.admitted
    exact .inl hs
  | throttle job haction =>
    have hs : job.message.status = .routed ∨ job.message.status = .submitting := by simpa using job.admitted
    exact .inr hs
  | attempt job =>
    have hs : job.message.status = .routed ∨ job.message.status = .submitting := by simpa using job.admitted
    exact .inr hs
  | ack job haccepted =>
    have hs : job.message.status = .submitting := by simpa using job.admitted
    exact .inr (.inr hs)
  | unknown job =>
    have hs : job.message.status = .submitting := by simpa using job.admitted
    exact .inr (.inr hs)
  | retrySubmit job retryPolicy nextRoute hpolicy hretry =>
    have hs : job.message.status = .submitting := by simpa using job.admitted
    exact .inr (.inr hs)
  | failure job =>
    have hs : job.message.status = .submitting := by simpa using job.admitted
    exact .inr (.inr hs)
  | delivered report message hstatus => exact absurd rfl (hstage _ _)
  | dlrFailed report message hstatus => exact absurd rfl (hstage _ _)

/-- The events that a step outside the processors of reports adds are under other keys than reconciliations. -/
private theorem quiet_events (hk : Known world) (hquiet : world.correlating a = none)
    (hstep : world.step a = some world') {event : OutboxRow} (hevent : event ∈ world'.db.outbox)
    {printer : DatePrinter} {report : DlrWebhookRow} {reason : String} (hreason : reason ∈ reconcileReasons)
    (hkey : event.dedupeKey = dlrReconcileKey printer report reason) : event ∈ world.db.outbox := by
  have hparts : ([printer report.receivedDate, report.id.repr, "reconcile", reason] : List String) ≠ [] := by simp
  rcases (hk.snapshots.world_emits hstep).origin hevent with hold | ⟨clock, input, hinput, rfl⟩
  · exact hold
  · have hkey : input.dedupeKey = dlrReconcileKey printer report reason := hkey
    exfalso
    cases hinput with
    | created hm hmessage => exact (report_key_ne hparts _).1 hkey.symm
    | webhook row => exact dlrKey_ne_reconcile hreason hkey
    | advanced hexec hconsumed hinput =>
      rcases hinput.key with ⟨composite, kind, version, hworkflow⟩ | ⟨report', message', hstage⟩
      · exact (report_key_ne hparts composite).2 kind version (hkey.symm.trans hworkflow)
      · exact World.correlating_ne_none hexec hstage hquiet

private theorem quiet_consumed (hk : Known world) (h : Settling world record) (hquiet : world.correlating a = none)
    (hstep : world.step a = some world') : ∀ id ∈ world'.consumed, ∃ event ∈ world'.db.outbox, event.id = id ∧
      (event.topicName = .smsDlr → ∃ row ∈ world'.db.dlrWebhooks, event.payload = .dlr row.event ∧
        row.processed = true) := by
  have hstepped := World.step_cases (keyed_composite hk.snapshots.keyed) hstep
  have hrows := hstepped.transacted.webhooks
  have hemits := hk.snapshots.world_emits hstep
  have hold : ∀ id ∈ world.consumed, ∃ event ∈ world'.db.outbox, event.id = id ∧ (event.topicName = .smsDlr →
      ∃ row ∈ world'.db.dlrWebhooks, event.payload = .dlr row.event ∧ row.processed = true) := by
    intro id hid
    obtain ⟨event, hevent, heq, hprocessed⟩ := h.consumed id hid
    exact ⟨event, hemits.mem_of_mem hevent, heq, fun htopic => marked_later hrows (hprocessed htopic)⟩
  intro id hid
  cases hstepped with
  | returned hrow hstart =>
    rcases List.mem_cons.1 hid with rfl | hid
    · exact ⟨_, hrow, rfl, fun htopic => returned_processed hk.webhooks hrow htopic hstart⟩
    · exact hold id hid
  | finished hexec hadvance =>
    rename_i index env execution db'
    rcases List.mem_cons.1 hid with rfl | hid
    · obtain ⟨event, hevent, heq, hhandles, -⟩ := (hk.events.sourced execution (List.mem_of_getElem? hexec)).row
      refine ⟨event, hemits.mem_of_mem hevent, heq, fun htopic => ?_⟩
      -- the handler of a webhook does not end before its correlation
      exfalso
      rw [htopic] at hhandles
      cases hstage : execution.stage with
      | webhook payload report =>
        rw [hstage] at hadvance
        generalize ho : (none : Option Stage) = o at hadvance
        cases hadvance with
        | work hw c => cases hw
        | event h => cases h
        | read h => cases ho
        | side h => cases h
      | correlated report message =>
        exact World.correlating_ne_none hexec hstage hquiet
      | _ =>
        rw [hstage] at hhandles
        cases hhandles
    · exact hold id hid
  | _ => exact hold id hid

private theorem quiet_processed (h : Settling world record) (hquiet : world.correlating a = none) {db' : Db}
    (hrows : WebhooksStep world a db') : ∀ row ∈ db'.dlrWebhooks, row.processed = true →
      ∃ entry ∈ record, entry.receivedDate = row.receivedDate ∧ entry.webhookId = row.id ∧ entry.Accounted := by
  intro row hrow hprocessed
  cases hrows.origin hrow with
  | kept hold => exact h.processed row hold hprocessed
  | inserted => cases hprocessed
  | merged old hold hconflicts => exact h.processed old hold hprocessed
  | marked old hold hexec hstage hmark hkey => exact absurd hquiet (World.correlating_ne_none hexec hstage)

private theorem quiet_final (hk : Known world) (h : Settling world record) (hquiet : world.correlating a = none)
    (hstep : world.step a = some world') : ∀ row ∈ world'.db.messages, row.sentAt.isSome = true → row.status.Final →
      SettledIn record row.composite := by
  intro row hrow hsent hfinal
  cases hk.snapshots.origin hstep hrow with
  | kept hold => exact h.final row hold hsent hfinal
  | created clock submission heq =>
    rw [heq] at hsent
    cases hsent
  | written hexec hw hmessage heq =>
    exfalso
    have hopen := hw.inProgress fun report message hstage => World.correlating_ne_none hexec hstage hquiet
    rw [heq] at hsent hfinal
    rcases (hw.assigned _).sentAt hsent with hbefore | haccepted
    · rw [(hk.marked.rows _ hmessage).unsent hopen] at hbefore
      cases hbefore
    · unfold MessageStatus.Final at hfinal
      rw [haccepted] at hfinal
      simp at hfinal

private theorem held_later (hk : Known world) (h : Settling world record) (hstep : world.step a = some world') :
    ∀ execution ∈ world'.executions, ∀ report message, execution.stage = .correlated report (some message) →
      message.status.Final → SettledIn record message.composite := by
  intro execution he report message hstage hfinal
  have hstepped := World.step_cases (keyed_composite hk.snapshots.keyed) hstep
  rcases hstepped.correlated_origin he hstage with hold | ⟨clock, tie, input, hfound⟩
  · exact h.held execution hold report message hstage hfinal
  · exact h.final message (correlateMessageForDlr_mem hfound).1 (correlated_sent hk.marked.rows hfound) hfinal

/-- A step that completes no processor. -/
theorem Settling.quiet (h : Settling world record) (hk : Known world) (hstep : world.step a = some world')
    (hquiet : QuietStep world a world') : Settling world' record := by
  rcases hquiet with hnone | ⟨index, rfl⟩
  · have hstepped := World.step_cases (keyed_composite hk.snapshots.keyed) hstep
    have hrows := hstepped.transacted.webhooks
    refine ⟨h.named_later hrows, quiet_processed h hnone hrows, ?_, quiet_consumed hk h hnone hstep,
      h.applied_later hstepped.messages, quiet_final hk h hnone hstep, held_later hk h hstep⟩
    intro event hevent printer report reason hreason hkey
    exact h.reconciled event (quiet_events hk hnone hstep hevent hreason hkey) printer report reason hreason hkey
  · refine ⟨h.named, h.processed, h.reconciled, h.consumed, h.applied, h.final, ?_⟩
    intro execution he
    exact h.held execution (List.mem_of_mem_eraseIdx he)

end Quiet

/-! ### Steps that complete a processor -/

section Completed

variable {world world' : World} {report : DlrWebhookRow} {message : Option MessageRow} {record : List Completion}

/-- A webhook has an accounted completion as soon as one of its processors has completed. -/
private theorem Completes.accountedIn (c : Completes world world' report message) (hk : Known world)
    (hs' : Snapshots world') (h : Settling world record) :
    ∃ entry ∈ record ++ [completion world.db world'.db report message],
      entry.webhookId = report.id ∧ entry.Accounted := by
  rcases c.accounted hk.snapshots hk.marked hk.webhooks hs' with
    haccounted | ⟨event, hevent, printer, reason, hreason, hkey⟩
  · exact ⟨_, List.mem_append_right _ (List.mem_singleton_self _), rfl, haccounted⟩
  · obtain ⟨entry, hentry, hfacts⟩ := h.reconciled event hevent printer report reason hreason hkey
    exact ⟨entry, List.mem_append_left _ hentry, hfacts⟩

/-- The message that a processor has changed is settled. -/
private theorem Completes.settledIn {found : MessageRow} {status : MessageStatus}
    (hmessage : message = some found)
    (happlied : (completion world.db world'.db report message).applied = some status) :
    SettledIn (record ++ [completion world.db world'.db report message]) found.composite := by
  refine ⟨_, List.mem_append_right _ (List.mem_singleton_self _), ?_, ?_⟩
  · rw [happlied]
    rfl
  · show message.map MessageRow.composite = some found.composite
    rw [hmessage]
    rfl

theorem Settling.completed {a : Action} (h : Settling world record) (hk : Known world) (hs' : Snapshots world')
    (hstep : world.step a = some world') (c : Completes world world' report message) :
    Settling world' (record ++ [completion world.db world'.db report message]) := by
  have hstepped := World.step_cases (keyed_composite hk.snapshots.keyed) hstep
  have hrows := hstepped.transacted.webhooks
  have hemits := hk.snapshots.world_emits hstep
  obtain ⟨mark, hmark, hmarked⟩ := c.processed.marks
  obtain ⟨row₀, hrow₀, hevent₀⟩ := c.row hk.webhooks
  have hdate₀ : row₀.receivedDate = report.receivedDate := congrArg DlrEventPayload.receivedDate hevent₀
  have hid₀ : row₀.id = report.id := DlrWebhookRow.id_of_event hevent₀
  have hnow : ∃ row ∈ world'.db.dlrWebhooks, row.event = report.event ∧ row.processed = true := by
    have hmarkedRow : markKey report mark row₀ = mark row₀ := if_pos ⟨hdate₀, hid₀⟩
    refine ⟨markKey report mark row₀, ?_, (markKey_later hmark row₀).event.trans hevent₀, ?_⟩
    · rw [hmarked]
      exact List.mem_map_of_mem hrow₀
    · rw [hmarkedRow]
      exact hmark.processed row₀
  have hnamed : ∀ entry ∈ record ++ [completion world.db world'.db report message],
      ∃ row ∈ world.db.dlrWebhooks, row.receivedDate = entry.receivedDate ∧ row.id = entry.webhookId := by
    intro entry hentry
    rcases List.mem_append.1 hentry with hold | hnew
    · obtain ⟨row, hrow, hdate, hid, -⟩ := h.named entry hold
      exact ⟨row, hrow, hdate, hid⟩
    · rw [List.mem_singleton.1 hnew]
      exact ⟨row₀, hrow₀, hdate₀, hid₀⟩
  refine ⟨?_, ?_, ?_, ?_, ?_, ?_, ?_⟩
  · intro entry hentry
    rcases List.mem_append.1 hentry with hold | hnew
    · exact h.named_later hrows entry hold
    · rw [List.mem_singleton.1 hnew]
      obtain ⟨row, hrow, hevent, hprocessed⟩ := hnow
      exact ⟨row, hrow, congrArg DlrEventPayload.receivedDate hevent, DlrWebhookRow.id_of_event hevent, hprocessed⟩
  · intro row hrow hprocessed
    rw [hmarked] at hrow
    obtain ⟨old, hold, rfl⟩ := List.mem_map.1 hrow
    have hlater : ReportLater old (markKey report mark old) := markKey_later hmark old
    have hsame := hlater.event
    have hdate : (markKey report mark old).receivedDate = old.receivedDate :=
      congrArg DlrEventPayload.receivedDate hsame
    have hid : (markKey report mark old).id = old.id := DlrWebhookRow.id_of_event hsame
    by_cases hkey : old.receivedDate = report.receivedDate ∧ old.id = report.id
    · obtain ⟨entry, hentry, hwebhook, haccounted⟩ := c.accountedIn hk hs' h
      -- the completion is of the same row, so it names the same date
      obtain ⟨row', hrow', hdate', hid'⟩ := hnamed entry hentry
      have heq : row' = old := hk.webhooks.unique hrow' hold (hid'.trans (hwebhook.trans hkey.2.symm))
      rw [heq] at hdate' hid'
      exact ⟨entry, hentry, hdate'.symm.trans hdate.symm, hid'.symm.trans hid.symm, haccounted⟩
    · have hkept : markKey report mark old = old := if_neg hkey
      rw [hkept] at hprocessed ⊢
      obtain ⟨entry, hentry, hfacts⟩ := h.processed old hold hprocessed
      exact ⟨entry, List.mem_append_left _ hentry, hfacts⟩
  · intro event hevent printer report' reason hreason hkey
    rcases c.events hevent with hold | ⟨printer₀, reason₀, hreason₀, hkey₀⟩
    · obtain ⟨entry, hentry, hfacts⟩ := h.reconciled event hold printer report' reason hreason hkey
      exact ⟨entry, List.mem_append_left _ hentry, hfacts⟩
    · obtain ⟨entry, hentry, hwebhook, haccounted⟩ := c.accountedIn hk hs' h
      have hsame : report'.id = report.id := dlrReconcileKey_id hreason hreason₀ (hkey.symm.trans hkey₀)
      exact ⟨entry, hentry, hwebhook.trans hsame.symm, haccounted⟩
  · intro id hid
    rw [c.consumed] at hid
    rcases List.mem_cons.1 hid with rfl | hid
    · obtain ⟨event, hevent, heq, -, hpayload⟩ := hk.webhooks.held _ c.mem report (by rw [c.hstage]; rfl)
      obtain ⟨row, hrow, hsame, hprocessed⟩ := hnow
      exact ⟨event, hemits.mem_of_mem hevent, heq, fun _ => ⟨row, hrow, by rw [hpayload, hsame], hprocessed⟩⟩
    · obtain ⟨event, hevent, heq, hprocessed⟩ := h.consumed id hid
      exact ⟨event, hemits.mem_of_mem hevent, heq, fun htopic => marked_later hrows (hprocessed htopic)⟩
  · intro entry hentry status happlied
    rcases List.mem_append.1 hentry with hold | hnew
    · exact h.applied_later hstepped.messages entry hold status happlied
    · rw [List.mem_singleton.1 hnew] at happlied ⊢
      rcases c.messages hk.snapshots hk.marked hs' with
        ⟨-, hnone, -⟩ | ⟨found, new, status', before, after, hmessage, -, hreported, -, hsplit, hrowStep, hstatus, hsome⟩
      · rw [hnone] at happlied
        cases happlied
      · rw [hsome] at happlied
        cases happlied
        refine ⟨hreported, new, by rw [hsplit]; simp, ?_, hstatus⟩
        show message.map MessageRow.composite = some new.composite
        rw [hmessage, MessageRow.composite_of_content hrowStep.content]
        rfl
  · intro row hrow hsent hfinal
    rcases c.messages hk.snapshots hk.marked hs' with
      ⟨hsame, -, -⟩ | ⟨found, new, status', before, after, hmessage, -, -, hsplit, hsplit', hrowStep, -, hsome⟩
    · rw [hsame] at hrow
      exact (h.final row hrow hsent hfinal).append
    · rw [hsplit'] at hrow
      rcases Rows.mem_replace (r := found) hrow with rfl | hold
      · rw [MessageRow.composite_of_content hrowStep.content]
        exact Completes.settledIn hmessage hsome
      · rw [← hsplit] at hold
        exact (h.final row hold hsent hfinal).append
  · intro execution he report' message' hstage hfinal
    rw [c.executions] at he
    exact (h.held execution (List.mem_of_mem_eraseIdx he) report' message' hstage hfinal).append

/-- A delivered or failed report is applied, unless the message had been settled before. -/
theorem Settling.first_decides (h : Settling world record) (hk : Known world) (hs' : Snapshots world')
    (c : Completes world world' report message) :
    FirstDecides (completion world.db world'.db report message) record := by
  intro composite status hmessage hreported
  have hmessage : message.map MessageRow.composite = some composite := hmessage
  obtain ⟨found, rfl, rfl⟩ := Option.map_eq_some_iff.1 hmessage
  rcases c.messages hk.snapshots hk.marked hs' with
    ⟨-, -, hnot⟩ | ⟨found', new, status', before, after, -, -, hreported', -, -, -, -, hsome⟩
  · left
    have hheld : c.execution.stage.row = some found := by
      rw [c.hstage]
      rfl
    have hlate := ((hk.marked.held _ c.mem found hheld).of_sent
      (hk.marked.correlated _ c.mem report found c.hstage)).1
    have hfinal : found.status.Final := hlate.resolve_left (hnot found status rfl hreported)
    exact h.held _ c.mem report found c.hstage hfinal
  · right
    rw [hsome]
    exact hreported'.symm.trans hreported

/-- A settled message is not changed by another processor. -/
theorem Settling.unchanged (h : Settling world record) (hk : Known world) (hs' : Snapshots world')
    (c : Completes world world' report message) {found : MessageRow} (hmessage : message = some found)
    (hsettled : SettledIn record found.composite) : world'.db.messages = world.db.messages ∧
      (completion world.db world'.db report message).applied = none := by
  rcases c.messages hk.snapshots hk.marked hs' with
    ⟨hsame, hnone, -⟩ | ⟨found', new, status', before, after, hmessage', haccepted, -, hsplit, -, -, -, -⟩
  · exact ⟨hsame, hnone⟩
  · -- the row of a settled message is `delivered` or `failed`
    exfalso
    cases hmessage.symm.trans hmessage'
    obtain ⟨entry, hentry, happlied, hentryMessage⟩ := hsettled
    obtain ⟨status, hstatus⟩ := Option.isSome_iff_exists.1 happlied
    obtain ⟨hreported, row, hrow, hrowMessage, hrowStatus⟩ := h.applied entry hentry status hstatus
    have hcomposite : row.composite = found.composite :=
      Option.some.inj (hrowMessage.symm.trans hentryMessage)
    have hfound : found ∈ world.db.messages := by
      rw [hsplit]
      simp
    have heq : row = found := (keyed_composite hk.snapshots.keyed).unique hrow hfound hcomposite
    have hfinal : status.Final := DlrStatus.outcome_final hreported
    rw [← hrowStatus, heq, haccepted] at hfinal
    unfold MessageStatus.Final at hfinal
    simp at hfinal

end Completed

/-! ### Whole runs -/

/-- The record of a run: its invariant, its order, and that no two of its entries have settled the same message. -/
structure Settlement (world : World) (record : List Completion) : Prop where
  settling : Settling world record
  preceded : Preceded FirstDecides record
  once : record.Pairwise fun entry later =>
    entry.applied.isSome = true → later.applied.isSome = true → entry.message ≠ later.message

theorem Settlement.step {world world' : World} {a : Action} {record : List Completion} (h : Settlement world record)
    (hk : Known world) (hs' : Snapshots world') (hstep : world.step a = some world') :
    Settlement world' (record ++ completions world a world') := by
  rcases completions_cases hstep with ⟨hnone, hquiet⟩ | ⟨report, message, hcompletion, ⟨c⟩⟩
  · rw [hnone, List.append_nil]
    exact ⟨h.settling.quiet hk hstep hquiet, h.preceded, h.once⟩
  · rw [hcompletion]
    refine ⟨h.settling.completed hk hs' hstep c, h.preceded.append ?_, List.pairwise_append.2 ⟨h.once,
      List.pairwise_singleton _ _, ?_⟩⟩
    · intro entry hentry before composite status hmessage hreported
      rw [List.mem_singleton.1 hentry] at hmessage hreported ⊢
      rcases h.settling.first_decides hk hs' c composite status hmessage hreported with hsettled | happlied
      · exact .inl hsettled.append
      · exact .inr happlied
    · intro entry hentry later hlater happlied happlied' hsame
      rw [List.mem_singleton.1 hlater] at happlied' hsame
      rcases c.messages hk.snapshots hk.marked hs' with
        ⟨-, hnone, -⟩ | ⟨found, new, status, before, after, hmessage, -, -, -, -, -, -, hsome⟩
      · rw [hnone] at happlied'
        cases happlied'
      · have hcomposite : entry.message = some found.composite := by
          rw [hsame]
          show message.map MessageRow.composite = _
          rw [hmessage]
          rfl
        have hnone := (h.settling.unchanged hk hs' c hmessage ⟨entry, hentry, happlied, hcomposite⟩).2
        rw [hnone] at hsome
        cases hsome

theorem settlement_of_reaches {wallets : TenantId → Option WalletRow} {run : Recorded World Completion}
    (h : Reaches (recorded World.step completions) ⟨World.initial wallets, []⟩ run) :
    Settlement run.state run.record := by
  refine Runs.record_invariant_reaches (P := Settlement) (Q := fun world => Known world ∧
    ∀ a world', world.step a = some world' → Snapshots world') h ?_ ?_ ?_
  · intro world hrun
    refine ⟨known_of_reaches hrun, fun a world' hstep => ?_⟩
    exact snapshots_of_reaches (.tail a hrun trivial hstep)
  · exact ⟨Settling.initial wallets, .nil, .nil⟩
  · intro world record a world' hworld hsettled hstep
    exact hsettled.step hworld.1 (hworld.2 a world' hstep) hstep

/-- Over every run, with any number of processors at work and every event delivered any number of times: the first
delivered or failed report of a message whose transaction commits gives it its status, and no other is applied; a
processor changes no wallet and no ledger, and no settled message; and the webhook of every completed processor, and of
every consumed event, is processed and accounted for. -/
theorem reports_settle {wallets : TenantId → Option WalletRow} {run : Recorded World Completion}
    (h : Reaches (recorded World.step completions) ⟨World.initial wallets, []⟩ run) :
    Preceded FirstDecides run.record ∧
    (run.record.Pairwise fun entry later =>
      entry.applied.isSome = true → later.applied.isSome = true → entry.message ≠ later.message) ∧
    (∀ entry ∈ run.record, ∀ status, entry.applied = some status →
      entry.reported.bind DlrStatus.outcome = some status ∧
        ∃ row ∈ run.state.db.messages, entry.message = some row.composite ∧ row.status = status) ∧
    (∀ index env execution report message world', run.state.executions[index]? = some execution →
      execution.stage = .correlated report message → run.state.step (.advance index env) = some world' →
      world'.db.wallets = run.state.db.wallets ∧ world'.db.transactions = run.state.db.transactions ∧
        ∀ found, message = some found → SettledIn run.record found.composite →
          world'.db.messages = run.state.db.messages) ∧
    (∀ entry ∈ run.record, ∃ row ∈ run.state.db.dlrWebhooks, row.receivedDate = entry.receivedDate ∧
      row.id = entry.webhookId ∧ row.processed = true) ∧
    (∀ event ∈ run.state.db.outbox, event.topicName = .smsDlr → event.id ∈ run.state.consumed →
      ∃ row ∈ run.state.db.dlrWebhooks, event.payload = .dlr row.event ∧ row.processed = true) ∧
    (∀ row ∈ run.state.db.dlrWebhooks, row.processed = true →
      ∃ entry ∈ run.record, entry.receivedDate = row.receivedDate ∧ entry.webhookId = row.id ∧ entry.Accounted) := by
  have hreach : Reaches World.step (World.initial wallets) run.state := Runs.forget_reaches h
  have hk := known_of_reaches hreach
  obtain ⟨hsettling, hpreceded, honce⟩ := settlement_of_reaches h
  refine ⟨hpreceded, honce, hsettling.applied, ?_, hsettling.named, ?_, hsettling.processed⟩
  · intro index env execution report message world' hexec hstage hstep
    have hs' : Snapshots world' := snapshots_of_reaches (.tail _ hreach trivial hstep)
    obtain ⟨hwallets, htransactions, -⟩ := hk.marked.correlated_step hk.snapshots hexec hstage hstep
    refine ⟨hwallets, htransactions, fun found hmessage hsettled => ?_⟩
    rcases World.step_correlating hexec hstage hstep with rfl | ⟨db', hprocessed, rfl⟩
    · rfl
    · exact (hsettling.unchanged hk hs' ⟨index, env, execution, hexec, hstage, hprocessed, rfl, rfl⟩ hmessage
        hsettled).1
  · intro event hevent htopic hconsumed
    obtain ⟨event', hevent', hid, hprocessed⟩ := hsettling.consumed event.id hconsumed
    rw [hk.events.row_unique hevent' hevent hid] at hprocessed
    exact hprocessed htopic

/-- The failed report is applied, its event is delivered again, and a report that says otherwise comes after it. -/
def Sample.settling : List Action :=
  let advance (time : Timestamp) :=
    Action.advance 0 (Sample.env time (Sample.services .allow 3 (Sample.accepts "p")))
  Sample.correlating ++ [advance 7, .deliver 3,
    .acceptWebhook (Sample.clock 8) (fun date => date.text) ⟨1, none, some "p", none, [], .delivered⟩, .deliver 4,
    advance 9, advance 10]

theorem reports_settle_failed : ∃ run, Reaches (recorded World.step completions)
      ⟨World.initial (Sample.wallets 100), []⟩ run ∧
    run.record.map Completion.applied = [some .failed, none] ∧
    (∃ entry ∈ run.record, ∃ row ∈ run.state.db.messages, entry.message = some row.composite ∧ row.status = .failed) ∧
    ∃ row ∈ run.state.db.dlrWebhooks, row.processed = true ∧
      ∃ entry ∈ run.record, entry.receivedDate = row.receivedDate ∧ entry.webhookId = row.id ∧ entry.Accounted := by
  have h : (execute (recorded World.step completions) ⟨World.initial (Sample.wallets 100), []⟩
      Sample.settling).any (fun run => decide (run.record.map Completion.applied = [some .failed, none])) = true := by
    decide +kernel
  obtain ⟨run, hrun, happlied⟩ := (Option.any_eq_true _ _).1 h
  have happlied : run.record.map Completion.applied = [some .failed, none] := of_decide_eq_true happlied
  have hreach := reaches_of_execute hrun
  obtain ⟨-, -, hsettled, -, hnamed, -, haccounted⟩ := reports_settle hreach
  obtain ⟨entry, hentry, hfailed⟩ : ∃ entry ∈ run.record, entry.applied = some .failed :=
    List.mem_map.1 (by rw [happlied]; exact List.mem_cons_self ..)
  obtain ⟨-, message, hmessage, hcomposite, hstatus⟩ := hsettled entry hentry .failed hfailed
  obtain ⟨row, hrow, -, -, hprocessed⟩ := hnamed entry hentry
  exact ⟨run, hreach, happlied, ⟨entry, hentry, message, hmessage, hcomposite, hstatus⟩, row, hrow, hprocessed,
    haccounted row hrow hprocessed⟩

end SmsPlatform
