import SmsPlatform.Pipeline.Events

/-!
# Webhook rows

What a step does to `dlr_webhooks` (`WebhooksStep`): a new row, a request merged into the row of its callback id, or the
UPDATE that ends a processor.  No row disappears, a processed row stays processed, and the events of `sms.dlr` and the
processors at work on them name rows that are there (`Webhooks`).
-/

namespace SmsPlatform

open StateExcept Transition

/-- The event that a webhook row is processed for: its key and its provider. -/
def DlrWebhookRow.event (row : DlrWebhookRow) : DlrEventPayload := ⟨row.receivedDate, row.id, row.providerId⟩

/-- The webhook row that a processor has read. -/
def Stage.report : Stage → Option DlrWebhookRow
  | .webhook _ report => some report
  | .correlated report _ => some report
  | _ => none

theorem Db.findWebhook_some {db : Db} {payload : DlrEventPayload} {row : DlrWebhookRow}
    (h : db.findWebhook payload = some row) : row ∈ db.dlrWebhooks ∧ row.event = payload := by
  unfold Db.findWebhook at h
  refine ⟨List.mem_of_find?_eq_some h, ?_⟩
  have hnamed : row.receivedDate = payload.receivedDate ∧ row.id = payload.webhookId ∧
      row.providerId = payload.providerId := by
    simpa using List.find?_some h
  unfold DlrWebhookRow.event
  rw [hnamed.1, hnamed.2.1, hnamed.2.2]

theorem Db.findWebhook_isSome {db : Db} {row : DlrWebhookRow} (h : row ∈ db.dlrWebhooks) :
    (db.findWebhook row.event).isSome = true := by
  unfold Db.findWebhook
  rw [List.find?_isSome]
  exact ⟨row, h, decide_eq_true ⟨rfl, rfl, rfl⟩⟩

/-! ### What a step does to the rows -/

/-- The two UPDATEs that end a processor. -/
inductive Marking : (DlrWebhookRow → DlrWebhookRow) → Prop
  | reason (reason : String) : Marking fun row => { row with processed := true, processingError := some reason }
  | applied (message : MessageRow) :
      Marking fun row => { row with processed := true, tenantId := row.tenantId.or (some message.tenantId) }

/-- What the UPDATEs leave alone. -/
structure SameReport (row row' : DlrWebhookRow) : Prop where
  event : row'.event = row.event
  callbackId : row'.callbackId = row.callbackId
  payload : row'.payload = row.payload
  normalizedStatus : row'.normalizedStatus = row.normalizedStatus

theorem Marking.same {mark : DlrWebhookRow → DlrWebhookRow} (h : Marking mark) (row : DlrWebhookRow) :
    SameReport row (mark row) := by
  cases h with
  | reason reason => exact ⟨rfl, rfl, rfl, rfl⟩
  | applied message => exact ⟨rfl, rfl, rfl, rfl⟩

theorem Marking.processed {mark : DlrWebhookRow → DlrWebhookRow} (h : Marking mark) (row : DlrWebhookRow) :
    (mark row).processed = true := by
  cases h with
  | reason reason => rfl
  | applied message => rfl

/-- An UPDATE of the row with the key of `report`. -/
def markKey (report : DlrWebhookRow) (mark : DlrWebhookRow → DlrWebhookRow) (row : DlrWebhookRow) : DlrWebhookRow :=
  if row.receivedDate = report.receivedDate ∧ row.id = report.id then mark row else row

inductive WebhooksStep (world : World) : Action → Db → Prop
  | same {a : Action} {db' : Db} (h : db'.dlrWebhooks = world.db.dlrWebhooks)
      (hn : db'.nextWebhookId = world.db.nextWebhookId) : WebhooksStep world a db'
  | inserted {clock : TxClock} {printer : DatePrinter} {input : DlrWebhookInput} {db' : Db}
      (h : db'.dlrWebhooks = world.db.dlrWebhooks ++ [input.row clock world.db.nextWebhookId])
      (hn : db'.nextWebhookId = world.db.nextWebhookId + 1) (hfits : input.Storable) :
      WebhooksStep world (.acceptWebhook clock printer input) db'
  | merged {clock : TxClock} {printer : DatePrinter} {input : DlrWebhookInput} {db' : Db}
      (before : List DlrWebhookRow) (row : DlrWebhookRow) (after : List DlrWebhookRow)
      (hsplit : world.db.dlrWebhooks = before ++ row :: after) (hconflicts : input.conflicts clock row = true)
      (h : db'.dlrWebhooks = before ++ input.merge row :: after) (hn : db'.nextWebhookId = world.db.nextWebhookId)
      (hfits : input.Storable) : WebhooksStep world (.acceptWebhook clock printer input) db'
  | marked {index : Nat} {env : Environment} {execution : Execution} {report : DlrWebhookRow}
      {message : Option MessageRow} {mark : DlrWebhookRow → DlrWebhookRow} {db' : Db}
      (hexec : world.executions[index]? = some execution) (hstage : execution.stage = .correlated report message)
      (hmark : Marking mark) (h : db'.dlrWebhooks = world.db.dlrWebhooks.map (markKey report mark))
      (hn : db'.nextWebhookId = world.db.nextWebhookId) : WebhooksStep world (.advance index env) db'

/-- The row that an accepted webhook is kept in, and its event. -/
theorem acceptWebhook_cases {clock : TxClock} {printer : DatePrinter} {input : DlrWebhookInput} {db db' : Db}
    (h : (acceptWebhook clock printer input).run db = .ok ((), db')) : input.Storable ∧
    ((∃ before row after, db.dlrWebhooks = before ++ row :: after ∧ input.conflicts clock row = true ∧
      db' = { db with dlrWebhooks := before ++ input.merge row :: after }.enqueue clock
        (dlrReceivedEvent printer input (input.merge row))) ∨
    ((∀ row ∈ db.dlrWebhooks, input.conflicts clock row = false) ∧
      db' = { db with
        dlrWebhooks := db.dlrWebhooks ++ [input.row clock db.nextWebhookId]
        nextWebhookId := db.nextWebhookId + 1 }.enqueue clock
          (dlrReceivedEvent printer input (input.row clock db.nextWebhookId)))) := by
  obtain ⟨row, db₁, hupsert, henqueue⟩ := bind_eq_ok.1 h
  cases henqueue
  obtain ⟨hfits, hcases⟩ := upsertWebhook_cases hupsert
  refine ⟨hfits, ?_⟩
  rcases hcases with ⟨before, old, after, hrows, hconflicts, rfl, rfl⟩ | ⟨hnone, rfl, rfl⟩
  · exact .inl ⟨before, old, after, hrows, hconflicts, rfl⟩
  · exact .inr ⟨hnone, rfl⟩

@[simp] theorem Db.enqueue_nextWebhookId (db : Db) (clock : TxClock) (event : OutboxEventInput) :
    (db.enqueue clock event).nextWebhookId = db.nextWebhookId := by
  unfold Db.enqueue
  split <;> rfl

/-- A guarded work marks a webhook at its end, or leaves the webhooks alone. -/
theorem GuardedWork.Committed.webhooks {work : GuardedWork} {clock : TxClock} {db db' : Db} {updated : MessageRow}
    (c : work.Committed clock db updated db') : db'.nextWebhookId = db.nextWebhookId ∧
      ((∃ report message, work.followUp updated = .webhook report message ∧
        db'.dlrWebhooks = db.dlrWebhooks.map (markKey report fun row =>
          { row with processed := true, tenantId := row.tenantId.or (some message.tenantId) })) ∨
      ((∀ report message, work.followUp updated ≠ .webhook report message) ∧
        db'.dlrWebhooks = db.dlrWebhooks)) := by
  have hrows := congrArg Db.dlrWebhooks c.bill.frame
  have hnext := congrArg Db.nextWebhookId c.bill.frame
  have hdb := c.db_eq
  unfold GuardedWork.finish at hdb
  cases hfollow : work.followUp updated with
  | nothing =>
    rw [hfollow] at hdb
    rw [hdb]
    exact ⟨hnext, .inr ⟨fun _ _ h => (by cases h), hrows⟩⟩
  | event input =>
    rw [hfollow] at hdb
    rw [hdb]
    refine ⟨?_, .inr ⟨fun _ _ h => (by cases h), ?_⟩⟩
    · exact (Db.enqueue_nextWebhookId _ _ _).trans hnext
    · exact (Db.enqueue_dlrWebhooks _ _ _).trans hrows
  | webhook report message =>
    rw [hfollow] at hdb
    rw [hdb]
    refine ⟨hnext, .inl ⟨report, message, rfl, ?_⟩⟩
    show c.billed.dlrWebhooks.map _ = _
    rw [hrows]
    rfl

theorem Stage.WorkOf.marks_report {env : Environment} {stage : Stage} {work : GuardedWork}
    {next : MessageRow → Option Stage} (h : Stage.WorkOf env stage work next) {updated : MessageRow}
    {report : DlrWebhookRow} {message : MessageRow} (hfollow : work.followUp updated = .webhook report message) :
    stage = .correlated report (some message) := by
  cases h with
  | delivered report' message' hstatus =>
    cases hfollow
    rfl
  | dlrFailed report' message' hstatus =>
    cases hfollow
    rfl
  | _ => cases hfollow

theorem World.Transacted.webhooks {world : World} {a : Action} {db' : Db} (h : World.Transacted world a db') :
    WebhooksStep world a db' := by
  cases h with
  | same a => exact .same rfl rfl
  | created c =>
    have hrows := congrArg Db.dlrWebhooks c.bill.frame
    have hnext := congrArg Db.nextWebhookId c.bill.frame
    refine .same ?_ ?_
    · rw [c.db_eq, Db.enqueue_dlrWebhooks]
      exact hrows
    · rw [c.db_eq, Db.enqueue_nextWebhookId]
      exact hnext
  | webhook h =>
    obtain ⟨hfits, ⟨before, row, after, hsplit, hconflicts, rfl⟩ | ⟨-, rfl⟩⟩ := acceptWebhook_cases h
    · exact .merged before row after hsplit hconflicts (by simp) (by simp) hfits
    · exact .inserted (by simp) (by simp) hfits
  | advanced hexec hadvance =>
    rename_i index env execution next
    generalize hstage : execution.stage = stage at hadvance
    cases hadvance with
    | work hw c =>
      obtain ⟨hn, ⟨report, message, hfollow, h⟩ | ⟨-, h⟩⟩ := c.webhooks
      · exact .marked hexec (hstage.trans (hw.marks_report hfollow)) (.applied message) h hn
      · exact .same h hn
    | event h => exact .same (by simp) (by simp)
    | read h => exact .same rfl rfl
    | side h =>
      cases h with
      | reconcile report message reason extra =>
        refine .marked hexec hstage (.reason reason) ?_ (Db.enqueue_nextWebhookId ..)
        show (world.db.enqueue _ _).dlrWebhooks.map _ = _
        rw [Db.enqueue_dlrWebhooks]
        rfl
      | duplicate report message reason => exact .marked hexec hstage (.reason reason) rfl rfl
      | record payload => exact .same rfl rfl

/-! ### Rows before and after a step -/

/-- A later state of a webhook row. -/
structure ReportLater (row row' : DlrWebhookRow) : Prop where
  event : row'.event = row.event
  callbackId : row'.callbackId = row.callbackId
  processed : row.processed = true → row'.processed = true

theorem ReportLater.refl (row : DlrWebhookRow) : ReportLater row row := ⟨rfl, rfl, id⟩

theorem markKey_later {report : DlrWebhookRow} {mark : DlrWebhookRow → DlrWebhookRow} (hmark : Marking mark)
    (row : DlrWebhookRow) : ReportLater row (markKey report mark row) := by
  unfold markKey
  split
  · exact ⟨(hmark.same row).event, (hmark.same row).callbackId, fun _ => hmark.processed row⟩
  · exact .refl row

theorem WebhooksStep.row_later {world : World} {a : Action} {db' : Db} (h : WebhooksStep world a db')
    {row : DlrWebhookRow} (hrow : row ∈ world.db.dlrWebhooks) : ∃ row' ∈ db'.dlrWebhooks, ReportLater row row' := by
  cases h with
  | same h hn => exact ⟨row, h ▸ hrow, .refl row⟩
  | inserted h hn =>
    rw [h]
    exact ⟨row, List.mem_append_left _ hrow, .refl row⟩
  | merged before old after hsplit hconflicts h hn hfits =>
    rename_i clock printer input
    rw [hsplit] at hrow
    rw [h]
    by_cases he : row = old
    · rw [he]
      exact ⟨input.merge old, by simp, ⟨rfl, rfl, id⟩⟩
    · exact ⟨row, Rows.mem_replace_of_ne hrow he, .refl row⟩
  | marked hexec hstage hmark h hn =>
    rw [h]
    exact ⟨_, List.mem_map_of_mem hrow, markKey_later hmark row⟩

/-- Where a row after a step comes from. -/
inductive WebhookOrigin (world : World) : Action → DlrWebhookRow → Prop
  | kept {a : Action} {row : DlrWebhookRow} (h : row ∈ world.db.dlrWebhooks) : WebhookOrigin world a row
  | inserted {clock : TxClock} {printer : DatePrinter} {input : DlrWebhookInput} (hfits : input.Storable) :
      WebhookOrigin world (.acceptWebhook clock printer input) (input.row clock world.db.nextWebhookId)
  | merged {clock : TxClock} {printer : DatePrinter} {input : DlrWebhookInput} (row : DlrWebhookRow)
      (h : row ∈ world.db.dlrWebhooks) (hconflicts : input.conflicts clock row = true) (hfits : input.Storable) :
      WebhookOrigin world (.acceptWebhook clock printer input) (input.merge row)
  | marked {index : Nat} {env : Environment} {execution : Execution} {report : DlrWebhookRow}
      {message : Option MessageRow} {mark : DlrWebhookRow → DlrWebhookRow} (row : DlrWebhookRow)
      (h : row ∈ world.db.dlrWebhooks) (hexec : world.executions[index]? = some execution)
      (hstage : execution.stage = .correlated report message) (hmark : Marking mark)
      (hkey : row.receivedDate = report.receivedDate ∧ row.id = report.id) :
      WebhookOrigin world (.advance index env) (mark row)

theorem WebhooksStep.origin {world : World} {a : Action} {db' : Db} (h : WebhooksStep world a db')
    {row : DlrWebhookRow} (hrow : row ∈ db'.dlrWebhooks) : WebhookOrigin world a row := by
  cases h with
  | same h hn => exact .kept (h ▸ hrow)
  | inserted h hn hfits =>
    rw [h, List.mem_append, List.mem_singleton] at hrow
    rcases hrow with hold | rfl
    · exact .kept hold
    · exact .inserted hfits
  | merged before old after hsplit hconflicts h hn hfits =>
    rw [h] at hrow
    rcases Rows.mem_replace (r := old) hrow with rfl | hold
    · exact .merged old (by rw [hsplit]; simp) hconflicts hfits
    · exact .kept (by rw [hsplit]; exact hold)
  | marked hexec hstage hmark h hn =>
    rw [h] at hrow
    obtain ⟨old, hold, rfl⟩ := List.mem_map.1 hrow
    unfold markKey
    split
    · rename_i hkey
      exact .marked old hold hexec hstage hmark hkey
    · exact .kept hold

/-! ### The invariant -/

/-- The rows have ids of their own; what waits in `sms.dlr` and what processors hold names a row. -/
structure Webhooks (world : World) : Prop where
  keyed : Rows.Keyed DlrWebhookRow.id world.db.dlrWebhooks
  fresh : ∀ row ∈ world.db.dlrWebhooks, row.id < world.db.nextWebhookId
  events : ∀ event ∈ world.db.outbox, event.topicName = .smsDlr →
    ∃ row ∈ world.db.dlrWebhooks, event.payload = .dlr row.event
  held : ∀ execution ∈ world.executions, ∀ report, execution.stage.report = some report →
    ∃ event ∈ world.db.outbox, event.id = execution.event ∧ event.topicName = .smsDlr ∧
      event.payload = .dlr report.event

/-- Two rows with the key of one event are one row. -/
theorem Webhooks.unique {world : World} (h : Webhooks world) {row row' : DlrWebhookRow}
    (hrow : row ∈ world.db.dlrWebhooks) (hrow' : row' ∈ world.db.dlrWebhooks) (hid : row.id = row'.id) : row = row' :=
  h.keyed.unique hrow hrow' hid

theorem DlrWebhookRow.id_of_event {row row' : DlrWebhookRow} (h : row.event = row'.event) : row.id = row'.id :=
  congrArg DlrEventPayload.webhookId h

/-- The row of the report that a processor holds is there. -/
theorem Webhooks.row_of_held {world : World} (h : Webhooks world) {execution : Execution}
    (he : execution ∈ world.executions) {report : DlrWebhookRow} (hreport : execution.stage.report = some report) :
    ∃ row ∈ world.db.dlrWebhooks, row.event = report.event := by
  obtain ⟨event, hevent, -, htopic, hpayload⟩ := h.held execution he report hreport
  obtain ⟨row, hrow, hsame⟩ := h.events event hevent htopic
  exact ⟨row, hrow, EventPayload.dlr.inj (hsame.symm.trans hpayload)⟩

theorem WebhooksStep.keyed {world : World} {a : Action} {db' : Db} (h : WebhooksStep world a db')
    (hw : Webhooks world) :
    Rows.Keyed DlrWebhookRow.id db'.dlrWebhooks ∧ ∀ row ∈ db'.dlrWebhooks, row.id < db'.nextWebhookId := by
  have hkeyed := hw.keyed
  have hfresh := hw.fresh
  cases h with
  | same h hn =>
    rw [h, hn]
    exact ⟨hkeyed, hfresh⟩
  | inserted h hn =>
    rw [h, hn]
    constructor
    · refine hkeyed.append_fresh fun row hrow => ?_
      exact Nat.ne_of_lt (hfresh row hrow)
    · intro row hrow
      rcases List.mem_append.1 hrow with hold | hnew
      · exact Nat.lt_succ_of_lt (hfresh row hold)
      · rw [List.mem_singleton.1 hnew]
        exact Nat.lt_succ_self _
  | merged before old after hsplit hconflicts h hn =>
    rw [hsplit] at hkeyed hfresh
    rw [h, hn]
    refine ⟨hkeyed.replace rfl, fun row hrow => ?_⟩
    rcases Rows.mem_replace (r := old) hrow with rfl | hold
    · exact hfresh old (by simp)
    · exact hfresh row hold
  | marked hexec hstage hmark h hn =>
    rename_i index env execution report message mark
    have hid : ∀ row, (markKey report mark row).id = row.id := fun row =>
      DlrWebhookRow.id_of_event (markKey_later hmark row).event
    rw [h, hn]
    constructor
    · unfold Rows.Keyed
      have hcolumn : DlrWebhookRow.id ∘ markKey report mark = DlrWebhookRow.id := funext hid
      rw [List.map_map, hcolumn]
      exact hkeyed
    · intro row hrow
      obtain ⟨old, hold, rfl⟩ := List.mem_map.1 hrow
      rw [hid]
      exact hfresh old hold

theorem Webhooks.initial (wallets : TenantId → Option WalletRow) : Webhooks (World.initial wallets) where
  keyed := List.nodup_nil
  fresh := by
    intro row hrow
    cases hrow
  events := by
    intro event hevent
    cases hevent
  held := by
    intro execution he
    cases he

/-! ### The events of webhooks -/

/-- The executions that enqueue something enqueue no event of a webhook. -/
theorem Stage.Emits.topic_ne {env : Environment} {db db' : Db} {stage : Stage} {input : OutboxEventInput}
    (h : Stage.Emits env db db' stage input) : input.topicName ≠ .smsDlr := by
  have hdispatch : ∀ trafficType, dispatchTopicFor trafficType ≠ .smsDlr := by
    intro trafficType
    cases trafficType <;> decide
  cases h with
  | follow hw hcurrent htrigger hm hin =>
    cases hw with
    | accepted job route hroute =>
      cases hin
      exact hdispatch _
    | throttle job haction =>
      cases hin
      exact (by decide : KafkaTopic.smsRetry ≠ .smsDlr)
    | unknown job =>
      cases hin
      exact (by decide : KafkaTopic.smsReconcile ≠ .smsDlr)
    | retrySubmit job retryPolicy nextRoute hpolicy hretry =>
      cases hin
      exact (by decide : KafkaTopic.smsRetry ≠ .smsDlr)
    | _ => cases hin
  | event h hsame =>
    cases h with
    | retry job => exact hdispatch _
    | dispatched job submittingVersion execution => exact (by decide : KafkaTopic.smsDispatchResults ≠ .smsDlr)
  | reconcile report message reason extra hs => exact (by decide : KafkaTopic.smsReconcile ≠ .smsDlr)

/-- The event of an accepted webhook names the row it is kept in. -/
theorem acceptWebhook_events {clock : TxClock} {printer : DatePrinter} {input : DlrWebhookInput} {db db' : Db}
    (h : (acceptWebhook clock printer input).run db = .ok ((), db')) {event : OutboxRow} (hevent : event ∈ db'.outbox) :
    event ∈ db.outbox ∨ ∃ row ∈ db'.dlrWebhooks, event.payload = .dlr row.event := by
  have hadded : ∀ (db₁ : Db) (row : DlrWebhookRow), row ∈ db₁.dlrWebhooks → db₁.outbox = db.outbox →
      row.providerId = input.providerId → db' = db₁.enqueue clock (dlrReceivedEvent printer input row) →
      event ∈ db.outbox ∨ ∃ row ∈ db'.dlrWebhooks, event.payload = .dlr row.event := by
    intro db₁ row hrow houtbox hprovider heq
    rw [heq] at hevent ⊢
    rw [Db.enqueue_dlrWebhooks]
    rcases db₁.enqueue_outbox clock (dlrReceivedEvent printer input row) with ⟨-, ho, -⟩ | ⟨-, ho, -⟩
    · rw [ho, houtbox] at hevent
      exact .inl hevent
    · rw [ho, houtbox, List.mem_append, List.mem_singleton] at hevent
      rcases hevent with hold | rfl
      · exact .inl hold
      · refine .inr ⟨row, hrow, ?_⟩
        show EventPayload.dlr ⟨row.receivedDate, row.id, input.providerId⟩ = _
        rw [← hprovider]
        rfl
  obtain ⟨-, ⟨before, row, after, hsplit, hconflicts, heq⟩ | ⟨-, heq⟩⟩ := acceptWebhook_cases h
  · have hprovider : row.providerId = input.providerId := by
      unfold DlrWebhookInput.conflicts at hconflicts
      rw [Bool.and_eq_true, decide_eq_true_eq] at hconflicts
      exact hconflicts.2.2.1
    refine hadded _ (input.merge row) ?_ ?_ hprovider heq
    · simp
    · rfl
  · refine hadded _ (input.row clock db.nextWebhookId) ?_ ?_ rfl heq
    · simp
    · rfl

theorem startHandler_webhook {db : Db} {row : OutboxRow} {stage : Stage} {report : DlrWebhookRow}
    (h : startHandler db row = .ok (some stage)) (hreport : stage.report = some report) :
    row.topicName = .smsDlr ∧ row.payload = .dlr report.event ∧ report ∈ db.dlrWebhooks ∧
      report.processed = false := by
  have hstarted := startHandler_some h
  cases hstarted with
  | webhook payload report' ht hp =>
    cases hreport
    unfold startHandler at h
    rw [ht, hp] at h
    dsimp only at h
    split at h
    · cases h
    · rename_i found hfound
      obtain ⟨hmem, hevent⟩ := Db.findWebhook_some hfound
      split at h
      · cases h
      · rename_i hprocessed
        cases h
        exact ⟨ht, by rw [hp, hevent], hmem, by simpa using hprocessed⟩
  | _ => cases hreport

/-- A processor that goes on works on the same report. -/
theorem Stage.Advanced.next_report {env : Environment} {db db' : Db} {stage next : Stage} {report : DlrWebhookRow}
    (h : Stage.Advanced env db stage (some next) db') (hreport : next.report = some report) :
    stage.report = some report := by
  cases next with
  | correlated report' message =>
    cases hreport
    obtain ⟨payload, rfl, -, -⟩ := h.to_correlated
    rfl
  | webhook payload report' =>
    generalize ho : some (Stage.webhook payload report') = o at h
    cases h with
    | work hw c =>
      cases hw with
      | attempt job => cases ho
      | _ => cases ho
    | event h => cases ho
    | side h => cases ho
    | read h =>
      cases ho
      cases h
  | _ => cases hreport

theorem Webhooks.step {world world' : World} {a : Action} (hw : Webhooks world) (hs : Snapshots world)
    (hstep : world.step a = some world') : Webhooks world' := by
  have hstepped := World.step_cases (keyed_composite hs.keyed) hstep
  have hrows := hstepped.transacted.webhooks
  have hemits := hs.world_emits hstep
  obtain ⟨hkeyed, hfresh⟩ := hrows.keyed hw
  have hlater : ∀ row ∈ world.db.dlrWebhooks, ∀ event : OutboxRow, event.payload = .dlr row.event →
      ∃ row ∈ world'.db.dlrWebhooks, event.payload = .dlr row.event := by
    intro row hrow event hpayload
    obtain ⟨row', hrow', h⟩ := hrows.row_later hrow
    exact ⟨row', hrow', by rw [hpayload, h.event]⟩
  have hold : ∀ execution ∈ world.executions, ∀ report, execution.stage.report = some report →
      ∃ event ∈ world'.db.outbox, event.id = execution.event ∧ event.topicName = .smsDlr ∧
        event.payload = .dlr report.event := by
    intro execution he report hreport
    obtain ⟨event, hevent, hfacts⟩ := hw.held execution he report hreport
    exact ⟨event, hemits.mem_of_mem hevent, hfacts⟩
  refine ⟨hkeyed, hfresh, ?_, ?_⟩
  · intro event hevent htopic
    have hbefore : event ∈ world.db.outbox → ∃ row ∈ world'.db.dlrWebhooks, event.payload = .dlr row.event := by
      intro hmem
      obtain ⟨row, hrow, hpayload⟩ := hw.events event hmem htopic
      exact hlater row hrow event hpayload
    rcases hemits.origin hevent with hmem | ⟨clock, input, hinput, heq⟩
    · exact hbefore hmem
    · cases hinput with
      | created hm hmessage =>
        rw [heq] at htopic
        cases htopic
      | webhook report =>
        cases hstepped with
        | refused a => exact hbefore hevent
        | webhook h =>
          rcases acceptWebhook_events h hevent with hmem | hnew
          · exact hbefore hmem
          · exact hnew
      | advanced hexec hconsumed hinput =>
        rw [heq] at htopic
        exact absurd htopic hinput.topic_ne
  · intro execution he report hreport
    cases hstepped with
    | started hrow hstart =>
      rcases List.mem_cons.1 he with rfl | he
      · obtain ⟨htopic, hpayload, -, -⟩ := startHandler_webhook hstart hreport
        exact ⟨_, hrow, rfl, htopic, hpayload⟩
      · exact hold execution he report hreport
    | continued hexec hadvance =>
      rcases List.mem_cons.1 he with rfl | he
      · exact hold _ (List.mem_of_getElem? hexec) report (hadvance.next_report hreport)
      · exact hold execution (List.mem_of_mem_eraseIdx he) report hreport
    | crashed hexec => exact hold execution (List.mem_of_mem_eraseIdx he) report hreport
    | threw hexec hadvance => exact hold execution (List.mem_of_mem_eraseIdx he) report hreport
    | finished hexec hadvance => exact hold execution (List.mem_of_mem_eraseIdx he) report hreport
    | _ => exact hold execution he report hreport

theorem webhooks_of_reaches {wallets : TenantId → Option WalletRow} {world : World}
    (h : Reaches World.step (World.initial wallets) world) : Webhooks world :=
  h.invariant_of (fun _ hrun => snapshots_of_reaches hrun) (Webhooks.initial wallets)
    fun _ _ _ hs _ hw _ hstep => hw.step hs hstep

end SmsPlatform
