import SmsPlatform.Messages.History
import SmsPlatform.Pipeline.Steps

/-!
# Snapshots

The rows that executions hold are earlier states of the rows in the table (`Snapshots`).  Together with the guard of
every UPDATE this gives the absence of lost updates: a committed write is computed from the row it replaces
(`committed_old`), and an execution whose row has moved on throws the version conflict and leaves no trace.
-/

namespace SmsPlatform

open StateExcept Optimistic

/-! ### The row of a stage -/

/-- The row an execution has read and will write. -/
def Stage.row : Stage → Option MessageRow
  | .accepted job => some job.message
  | .retry job => some job.message
  | .dispatch job => some job.message
  | .provider job _ => some job.message
  | .dispatched job _ _ => some job.message
  | .result job => some job.message
  | .webhook _ _ => none
  | .correlated _ message => message
  | .reconcile _ => none

namespace Stage.WorkOf

variable {env : Environment} {stage : Stage} {work : GuardedWork} {next : MessageRow → Option Stage}

theorem row_eq (h : WorkOf env stage work next) : stage.row = some work.message := by
  cases h <;> rfl

/-- The stage that follows a guarded work holds the same row. -/
theorem next_row (h : WorkOf env stage work next) {updated : MessageRow} {stage' : Stage}
    (hn : next updated = some stage') : stage'.row = some work.message := by
  cases h with
  | attempt job => cases hn; rfl
  | _ => cases hn

/-- What a guarded work assigns is one write, on every row with the status the handler has read. -/
theorem rowStep (h : WorkOf env stage work next) {old : MessageRow} (ho : old.status = work.message.status) :
    RowStep old (work.assign old) := by
  cases h with
  | accepted job route hroute =>
    have hs : job.message.status = .accepted := by simpa using job.admitted
    exact transitionedRow_rowStep _ _ _ (by rw [ho.trans hs]; decide)
  | throttle job haction => exact patchedRow_rowStep _ _ _
  | attempt job =>
    change RowStep old (attemptRow env.clock job.message old)
    unfold attemptRow
    split
    · rename_i hs
      exact transitionedRow_rowStep _ _ _ (by rw [ho.trans hs]; decide)
    · exact patchedRow_rowStep _ _ _
  | ack job haccepted =>
    have hs : job.message.status = .submitting := by simpa using job.admitted
    exact transitionedRow_rowStep _ _ _ (by rw [ho.trans hs]; decide)
  | unknown job => exact patchedRow_rowStep _ _ _
  | retrySubmit job retryPolicy nextRoute hpolicy hretry => exact patchedRow_rowStep _ _ _
  | failure job =>
    have hs : job.message.status = .submitting := by simpa using job.admitted
    exact transitionedRow_rowStep _ _ _ (by rw [ho.trans hs]; decide)
  | delivered report message hstatus =>
    exact transitionedRow_rowStep _ _ _ (by rw [ho.trans hstatus]; decide)
  | dlrFailed report message hstatus =>
    refine transitionedRow_rowStep _ _ _ ?_
    rcases hstatus with hs | hs
    · rw [ho.trans hs]; decide
    · rw [ho.trans hs]; decide

end Stage.WorkOf

/-! ### The message table under a step -/

/-- What a step can do to the message table: nothing, one new row under the next id, or one write of one row. -/
inductive MessagesStep (db db' : Db) : Prop
  | same (h : db'.messages = db.messages) (hn : db'.nextMessageId = db.nextMessageId)
  | insert (message : MessageRow) (hid : message.id = db.nextMessageId) (h : db'.messages = db.messages ++ [message])
      (hn : db'.nextMessageId = db.nextMessageId + 1)
  | write (before : List MessageRow) (old : MessageRow) (after : List MessageRow) (new : MessageRow)
      (h : db.messages = before ++ old :: after) (h' : db'.messages = before ++ new :: after)
      (hstep : RowStep old new) (hn : db'.nextMessageId = db.nextMessageId)

theorem acceptWebhook_ok {clock : TxClock} {printer : DatePrinter} {input : DlrWebhookInput} {db db' : Db}
    (h : (acceptWebhook clock printer input).run db = .ok ((), db')) :
    ∃ row webhooks nextId, db' = { db with dlrWebhooks := webhooks, nextWebhookId := nextId }.enqueue clock
      (dlrReceivedEvent printer input row) := by
  obtain ⟨row, db₁, hupsert, henqueue⟩ := bind_eq_ok.1 h
  cases henqueue
  rcases (upsertWebhook_cases hupsert).2 with ⟨before, old, after, -, -, rfl, rfl⟩ | ⟨-, rfl, rfl⟩
  · exact ⟨_, _, _, rfl⟩
  · exact ⟨_, _, _, rfl⟩

namespace Stage

variable {env : Environment} {db db' : Db} {stage : Stage} {next : Option Stage}

/-- The writes to webhooks and reconciliation events leave messages, wallets and ledger alone. -/
theorem SideOf.frame (h : SideOf env db stage db') :
    db'.messages = db.messages ∧ db'.nextMessageId = db.nextMessageId ∧ db'.wallets = db.wallets ∧
      db'.transactions = db.transactions := by
  cases h <;> simp [Db.updateWebhook]

theorem Advanced.messages (h : Advanced env db stage next db') : MessagesStep db db' := by
  cases h with
  | work hw c =>
    have hs := (guardedBy_eq_true.1 c.guard).2.1
    have hstep := hw.rowStep hs
    rw [← c.updated_eq] at hstep
    exact .write _ _ _ _ c.messages c.messages_eq hstep c.nextMessageId_eq
  | event h => exact .same (by simp) (by simp)
  | read h => exact .same rfl rfl
  | side h => exact .same h.frame.1 h.frame.2.1

end Stage

theorem Created.messages_eq {clock : TxClock} {submission : Submission} {db db' : Db} {message : MessageRow}
    (c : Created clock submission db message db') :
    db'.messages = db.messages ++ [message] ∧ db'.nextMessageId = db.nextMessageId + 1 := by
  have hframe := c.bill.frame
  have hm := congrArg Db.messages c.db_eq
  have hn := congrArg Db.nextMessageId c.db_eq
  simp only [Db.enqueue_messages, Db.enqueue_nextMessageId] at hm hn
  have hm' := congrArg Db.messages hframe
  have hn' := congrArg Db.nextMessageId hframe
  exact ⟨hm.trans hm', hn.trans hn'⟩

theorem World.Transacted.messages {world : World} {a : Action} {db' : Db} (h : World.Transacted world a db') :
    MessagesStep world.db db' := by
  cases h with
  | same a => exact .same rfl rfl
  | created c => exact .insert _ (congrArg MessageRow.id c.message_eq) c.messages_eq.1 c.messages_eq.2
  | webhook h =>
    obtain ⟨row, webhooks, nextId, rfl⟩ := acceptWebhook_ok h
    exact .same (by simp) (by simp)
  | advanced hexec hadvance => exact hadvance.messages

theorem World.Stepped.messages {world world' : World} {a : Action} (h : World.Stepped world a world') :
    MessagesStep world.db world'.db :=
  h.transacted.messages

/-! ### The invariant -/

structure Snapshots (world : World) : Prop where
  keyed : Rows.Keyed MessageRow.id world.db.messages
  fresh : ∀ row ∈ world.db.messages, row.id < world.db.nextMessageId
  held : ∀ execution ∈ world.executions, ∀ snapshot, execution.stage.row = some snapshot →
    ∃ current ∈ world.db.messages, Earlier RowStep snapshot current

theorem keyed_composite {rows : List MessageRow} (h : Rows.Keyed MessageRow.id rows) :
    Rows.Keyed MessageRow.composite rows := by
  unfold Rows.Keyed at h ⊢
  have hmap : rows.map MessageRow.id = (rows.map MessageRow.composite).map MessageCompositeId.id := by
    rw [List.map_map]
    rfl
  rw [hmap] at h
  exact h.of_map _

section Table

variable {db db' : Db}

theorem MessagesStep.keyed (h : MessagesStep db db') (hk : Rows.Keyed MessageRow.id db.messages)
    (hf : ∀ row ∈ db.messages, row.id < db.nextMessageId) :
    Rows.Keyed MessageRow.id db'.messages ∧ ∀ row ∈ db'.messages, row.id < db'.nextMessageId := by
  cases h with
  | same h hn =>
    rw [h, hn]
    exact ⟨hk, hf⟩
  | insert message hid h hn =>
    rw [h, hn]
    constructor
    · refine hk.append_fresh fun row hrow => ?_
      have := hf row hrow
      omega
    · intro row hrow
      rcases List.mem_append.1 hrow with hrow | hrow
      · have := hf row hrow
        omega
      · rw [List.mem_singleton.1 hrow, hid]
        omega
  | write before old after new h h' hstep hn =>
    have hid : new.id = old.id := congrArg MessageContent.id hstep.content
    rw [h] at hk hf
    rw [h', hn]
    refine ⟨hk.replace hid, fun row hrow => ?_⟩
    rcases Rows.mem_replace (r := old) hrow with rfl | hrow
    · rw [hid]
      exact hf old (by simp)
    · exact hf row hrow

/-- Every row is still there after a step, as it was or after one write. -/
theorem MessagesStep.row_later (h : MessagesStep db db') {row : MessageRow} (hrow : row ∈ db.messages) :
    row ∈ db'.messages ∨ ∃ row' ∈ db'.messages, RowStep row row' := by
  cases h with
  | same h hn =>
    rw [h]
    exact .inl hrow
  | insert message hid h hn =>
    rw [h]
    exact .inl (List.mem_append.2 (.inl hrow))
  | write before old after new h h' hstep hn =>
    rw [h] at hrow
    by_cases he : row = old
    · rw [h', he]
      exact .inr ⟨new, by simp, hstep⟩
    · rw [h']
      exact .inl (Rows.mem_replace_of_ne hrow he)

theorem MessagesStep.earlier (h : MessagesStep db db') {snapshot : MessageRow}
    (hs : ∃ current ∈ db.messages, Earlier RowStep snapshot current) :
    ∃ current ∈ db'.messages, Earlier RowStep snapshot current := by
  obtain ⟨current, hcurrent, hearlier⟩ := hs
  rcases h.row_later hcurrent with hsame | ⟨later, hlater, hstep⟩
  · exact ⟨current, hsame, hearlier⟩
  · exact ⟨later, hlater, .tail hearlier hstep⟩

end Table

/-! ### The rows that executions hold -/

theorem Started.row_mem {db : Db} {row : OutboxRow} {stage : Stage} (h : Started db row stage) {message : MessageRow}
    (hrow : stage.row = some message) : message ∈ db.messages := by
  cases h with
  | accepted job ht hp hm => cases hrow; exact hm
  | dispatch job ht hp hm => cases hrow; exact hm
  | retry job ht hp hm => cases hrow; exact hm
  | result job ht hp hm => cases hrow; exact hm
  | webhook payload report ht hp => cases hrow
  | reconcile payload ht hp => cases hrow

/-- The stage after a step holds the row of the stage before it, or a row it has just read. -/
theorem Stage.Advanced.next_row {env : Environment} {db db' : Db} {stage next : Stage} {message : MessageRow}
    (h : Stage.Advanced env db stage (some next) db') (hrow : next.row = some message) :
    stage.row = some message ∨ message ∈ db'.messages := by
  generalize ho : some next = o at h
  cases h with
  | work hw c =>
    rw [hw.row_eq, ← hw.next_row ho.symm, hrow]
    exact .inl rfl
  | event h => cases ho
  | read h =>
    cases ho
    cases h with
    | provider job submittingVersion => exact .inl hrow
    | webhook payload report found hfound =>
      exact .inr (correlateMessageForDlr_mem ((DlrWebhookRow.correlate_ok hfound).symm.trans hrow)).1
  | side h => cases ho

theorem Snapshots.initial (wallets : TenantId → Option WalletRow) : Snapshots (World.initial wallets) where
  keyed := List.nodup_nil
  fresh := by
    intro row hrow
    cases hrow
  held := by
    intro execution hexec
    cases hexec

theorem Snapshots.step {world world' : World} {a : Action} (hs : Snapshots world) (h : world.step a = some world') :
    Snapshots world' := by
  have hstepped := World.step_cases (keyed_composite hs.keyed) h
  have hmessages := hstepped.messages
  obtain ⟨hkeyed, hfresh⟩ := hmessages.keyed hs.keyed hs.fresh
  refine ⟨hkeyed, hfresh, ?_⟩
  have hold : ∀ execution ∈ world.executions, ∀ snapshot, execution.stage.row = some snapshot →
      ∃ current ∈ world'.db.messages, Earlier RowStep snapshot current :=
    fun execution hexec snapshot hrow => hmessages.earlier (hs.held execution hexec snapshot hrow)
  intro execution he snapshot hsnapshot
  cases hstepped.flight he with
  | kept he => exact hold execution he snapshot hsnapshot
  | started hrow ha hdb hstart =>
    rw [hdb]
    exact ⟨snapshot, hstart.row_mem hsnapshot, .refl⟩
  | continued ha hexec hadvance =>
    rcases hadvance.next_row hsnapshot with hheld | hmem
    · exact hold _ (List.mem_of_getElem? hexec) snapshot hheld
    · exact ⟨snapshot, hmem, .refl⟩

theorem snapshots_of_reaches {wallets : TenantId → Option WalletRow} {world : World}
    (h : Transition.Reaches World.step (World.initial wallets) world) : Snapshots world :=
  h.invariant (Snapshots.initial wallets) fun _ _ _ hs _ hstep => hs.step hstep

/-! ### No lost update -/

section Writes

variable {world : World} {execution : Execution} {env : Environment}

/-- The row that a held snapshot's guard matches is the snapshot. -/
theorem Snapshots.guard_eq (hs : Snapshots world) (he : execution ∈ world.executions) {snapshot row : MessageRow}
    (hrow : execution.stage.row = some snapshot) (hm : row ∈ world.db.messages)
    (hg : guardedBy snapshot row = true) : row = snapshot := by
  obtain ⟨current, hcurrent, hearlier⟩ := hs.held execution he snapshot hrow
  have hcomposite : row.composite = current.composite := by
    rw [(guardedBy_eq_true.1 hg).1]
    exact (MessageRow.composite_of_content (messageHistory_of_earlier hearlier).content).symm
  have hrc : row = current := (keyed_composite hs.keyed).unique hm hcurrent hcomposite
  subst hrc
  exact (eq_of_guardedBy hearlier hg).symm

/-- The row a committed work has replaced is the row it was computed from. -/
theorem Snapshots.committed_old (hs : Snapshots world) (he : execution ∈ world.executions) {work : GuardedWork}
    {next : MessageRow → Option Stage} (hw : Stage.WorkOf env execution.stage work next) {updated : MessageRow}
    {db' : Db} (c : work.Committed env.clock world.db updated db') : c.old = work.message :=
  hs.guard_eq he hw.row_eq (by rw [c.messages]; simp) c.guard

private theorem enterSubmitting_conflict {clock : TxClock} {message : MessageRow} {fields : MessageFields} {db : Db}
    (h : ∀ row ∈ db.messages, guardedBy message row = false) :
    (enterSubmitting clock message fields).run db = .error (.conflict "Message version conflict") := by
  unfold enterSubmitting
  split
  · rename_i hs
    unfold transitionMessage
    rw [if_pos (by rw [hs]; decide)]
    exact updateMessage_conflict h
  · exact updateMessage_conflict h

/-- A stage that writes a message no row of the table matches any more throws the version conflict. -/
theorem Stage.advance_conflict {stage : Stage} {db : Db} {snapshot : MessageRow} (hrow : stage.row = some snapshot)
    (hwrites : stage.writesMessage env = true) (h : ∀ row ∈ db.messages, guardedBy snapshot row = false) :
    (stage.advance env).run db = .error (.conflict "Message version conflict") := by
  cases hblocks : stage.blocks env with
  | false =>
    obtain ⟨work, next, hw, heq⟩ := Stage.advance_work hwrites hblocks
    have hmessage : work.message = snapshot := Option.some.inj (hw.row_eq.symm.trans hrow)
    rw [heq]
    exact bind_of_error (GuardedWork.run_conflict (by rw [hmessage]; exact h))
  | true =>
    cases stage with
    | dispatch job =>
      cases hrow
      simp only [Stage.blocks, decide_eq_true_eq] at hblocks
      unfold Stage.advance
      dsimp only
      rw [hblocks]
      exact bind_of_error (bind_of_error (enterSubmitting_conflict h))
    | _ => cases hblocks

/-- The loser of a race: its row is not the current one, its transaction throws the version conflict and is rolled
back with everything in it. -/
theorem Snapshots.loser (hs : Snapshots world) (he : execution ∈ world.executions) {snapshot : MessageRow}
    (hrow : execution.stage.row = some snapshot) (hwrites : execution.stage.writesMessage env = true)
    (hstale : snapshot ∉ world.db.messages) :
    withTransaction (execution.stage.advance env) world.db =
      (.error (.conflict "Message version conflict"), world.db) := by
  have hguard : ∀ row ∈ world.db.messages, guardedBy snapshot row = false := by
    intro row hm
    by_contra hg
    have hg : guardedBy snapshot row = true := by simpa using hg
    exact hstale (hs.guard_eq he hrow hm hg ▸ hm)
  unfold withTransaction
  rw [Stage.advance_conflict hrow hwrites hguard]

end Writes

/-- The rows of the message table never get lost, and what happens to a row over a run is a history. -/
theorem row_history {world world' : World} (hs : Snapshots world)
    (h : Transition.Reaches World.step world world') {row : MessageRow} (hrow : row ∈ world.db.messages) :
    ∃ row' ∈ world'.db.messages, Earlier RowStep row row' := by
  have hboth := h.invariant (P := fun w => Snapshots w ∧ ∃ row' ∈ w.db.messages, Earlier RowStep row row')
    ⟨hs, row, hrow, .refl⟩ fun w a w' hw _ hstep =>
      ⟨hw.1.step hstep, (World.step_cases (keyed_composite hw.1.keyed) hstep).messages.earlier hw.2⟩
  exact hboth.2

/-- A step of the stage computes `row'` from `row`. -/
def Stage.Writes (env : Environment) (stage : Stage) (row row' : MessageRow) : Prop :=
  ∃ work next, Stage.WorkOf env stage work next ∧ work.message = row ∧ row' = work.assign row

theorem Snapshots.advanced_from {world : World} {env : Environment} {execution : Execution} {next : Option Stage}
    {db' : Db} (hs : Snapshots world) (he : execution ∈ world.executions)
    (h : Stage.Advanced env world.db execution.stage next db') {row : MessageRow} (hrow : row ∈ world.db.messages) :
    row ∈ db'.messages ∨ ∃ row' ∈ db'.messages, execution.stage.Writes env row row' ∧ RowStep row row' := by
  cases h with
  | work hw c =>
    rename_i work nextOf updated
    have hold : c.old = work.message := hs.committed_old he hw c
    by_cases hr : row = work.message
    · refine .inr ⟨updated, by rw [c.messages_eq]; simp, ⟨work, nextOf, hw, hr.symm, ?_⟩, ?_⟩
      · rw [c.updated_eq, hold, hr]
      · have hstep : RowStep row (work.assign row) := hw.rowStep (by rw [hr])
        rwa [hr, ← hold, ← c.updated_eq, hold, ← hr] at hstep
    · left
      rw [c.messages] at hrow
      rw [c.messages_eq]
      exact Rows.mem_replace_of_ne hrow fun he' => hr (he'.trans hold)
  | event h => exact .inl (by simpa using hrow)
  | read h => exact .inl hrow
  | side h => exact .inl (h.frame.1 ▸ hrow)

/-- Where a row of the table after a step comes from: it was there, the step has submitted it, or the step has
advanced an execution that computed it from a row that was there. -/
inductive RowOrigin (world : World) : Action → MessageRow → Prop
  | kept {a : Action} {row : MessageRow} (h : row ∈ world.db.messages) : RowOrigin world a row
  | created {row : MessageRow} (clock : TxClock) (submission : Submission)
      (h : row = submission.row clock world.db.nextMessageId) : RowOrigin world (.submit clock submission) row
  | written {index : Nat} {row : MessageRow} {env : Environment} {execution : Execution} {work : GuardedWork}
      {next : MessageRow → Option Stage} (hexec : world.executions[index]? = some execution)
      (hw : Stage.WorkOf env execution.stage work next) (hm : work.message ∈ world.db.messages)
      (h : row = work.assign work.message) (hstorable : row.Storable) : RowOrigin world (.advance index env) row

private theorem Snapshots.advanced_origin {world : World} {env : Environment} {index : Nat} {execution : Execution}
    {next : Option Stage} {db' : Db} (hs : Snapshots world) (hexec : world.executions[index]? = some execution)
    (h : Stage.Advanced env world.db execution.stage next db') {row : MessageRow} (hrow : row ∈ db'.messages) :
    RowOrigin world (.advance index env) row := by
  cases h with
  | work hw c =>
    rename_i work nextOf updated
    have hold : c.old = work.message := hs.committed_old (List.mem_of_getElem? hexec) hw c
    rw [c.messages_eq] at hrow
    rcases Rows.mem_replace (r := c.old) hrow with rfl | hrow
    · exact .written hexec hw (by rw [← hold, c.messages]; simp) (by rw [c.updated_eq, hold])
        (by rw [c.updated_eq]; exact c.storable)
    · exact .kept (by rw [c.messages]; exact hrow)
  | event h => exact .kept (by simpa using hrow)
  | read h => exact .kept hrow
  | side h => exact .kept (h.frame.1 ▸ hrow)

theorem Snapshots.origin {world world' : World} {a : Action} (hs : Snapshots world) (h : world.step a = some world')
    {row : MessageRow} (hrow : row ∈ world'.db.messages) : RowOrigin world a row := by
  have htransacted := (World.step_cases (keyed_composite hs.keyed) h).transacted
  clear h
  generalize world'.db = db' at htransacted hrow
  cases htransacted with
  | same a => exact .kept hrow
  | created c =>
    rw [c.messages_eq.1, List.mem_append, List.mem_singleton] at hrow
    rcases hrow with hrow | rfl
    · exact .kept hrow
    · exact .created _ _ c.message_eq
  | webhook h =>
    obtain ⟨report, webhooks, nextId, rfl⟩ := acceptWebhook_ok h
    exact .kept (by simpa using hrow)
  | advanced hexec hadvance => exact hs.advanced_origin hexec hadvance hrow

/-! ### The attempts of a row, and its columns -/

/-- A guarded work counts an attempt when it opens one, and leaves the count alone otherwise. -/
theorem Stage.WorkOf.attemptCount {env : Environment} {stage : Stage} {work : GuardedWork}
    {next : MessageRow → Option Stage} (h : Stage.WorkOf env stage work next) :
    (work.assign work.message).attemptCount = work.message.attemptCount ∨
      (work.assign work.message).attemptCount = work.message.attemptCount + 1 ∧
        ∃ job, stage = .dispatch job ∧ work = submitAttemptWork env.clock job.payload job.message := by
  cases h with
  | attempt job =>
    right
    have hstatus : job.message.status = .routed ∨ job.message.status = .submitting := by simpa using job.admitted
    refine ⟨?_, job, rfl, rfl⟩
    change (attemptRow env.clock job.message job.message).attemptCount = _
    rw [attemptRow_eq env.clock hstatus]
    rfl
  | _ => exact .inl rfl

theorem Snapshots.unattempted_step {world world' : World} {a : Action} (hs : Snapshots world)
    (hzero : ∀ row ∈ world.db.messages, row.status.rank ≤ 1 → row.attemptCount = 0)
    (h : world.step a = some world') : ∀ row ∈ world'.db.messages, row.status.rank ≤ 1 → row.attemptCount = 0 := by
  intro row hm hrank
  cases hs.origin h hm with
  | kept hkept => exact hzero row hkept hrank
  | created clock submission hnew => rw [hnew]; rfl
  | written hexec hw hbefore hwritten hfits =>
    rename_i env execution work next
    have hstep := hw.rowStep rfl
    have hbeforeRank : work.message.status.rank ≤ 1 := by
      rcases hstep.status with hsame | hmove
      · rw [← hsame, ← hwritten]
        exact hrank
      · have hlt := hmove.rank_lt
        rw [← hwritten] at hlt
        omega
    rcases hw.attemptCount with hcount | ⟨-, job, -, hwork⟩
    · rw [hwritten, hcount, hzero work.message hbefore hbeforeRank]
    · -- an attempt leaves the message `submitting`
      have hstatus : job.message.status = .routed ∨ job.message.status = .submitting := by simpa using job.admitted
      rw [hwritten, hwork] at hrank
      change (attemptRow env.clock job.message job.message).status.rank ≤ 1 at hrank
      rw [attemptRow_eq env.clock hstatus] at hrank
      cases hrank with
      | step h => cases h

/-- The rows of the table fit its columns. -/
theorem Snapshots.storable_step {world world' : World} {a : Action} (hs : Snapshots world)
    (hstorable : ∀ row ∈ world.db.messages, row.Storable) (h : world.step a = some world') :
    ∀ row ∈ world'.db.messages, row.Storable := by
  intro row hm
  cases hs.origin h hm with
  | kept hkept => exact hstorable row hkept
  | created clock submission hnew =>
    rw [hnew]
    exact ⟨trivial, Nat.zero_le _, trivial⟩
  | written hexec hw hbefore hwritten hfits => exact hfits

/-- A row that a step changes is replaced by what an execution computed from that very row. -/
theorem Snapshots.written_from {world world' : World} {a : Action} (hs : Snapshots world)
    (h : world.step a = some world') {row : MessageRow} (hrow : row ∈ world.db.messages) :
    row ∈ world'.db.messages ∨
      ∃ index env execution row', a = .advance index env ∧ world.executions[index]? = some execution ∧
        execution.stage.Writes env row row' ∧ RowStep row row' ∧ row' ∈ world'.db.messages := by
  have htransacted := (World.step_cases (keyed_composite hs.keyed) h).transacted
  clear h
  generalize world'.db = db' at htransacted ⊢
  cases htransacted with
  | same a => exact .inl hrow
  | created c => exact .inl (by rw [c.messages_eq.1]; exact List.mem_append.2 (.inl hrow))
  | webhook h =>
    obtain ⟨report, webhooks, nextId, rfl⟩ := acceptWebhook_ok h
    exact .inl (by simpa using hrow)
  | advanced hexec hadvance =>
    rcases hs.advanced_from (List.mem_of_getElem? hexec) hadvance hrow with hsame | ⟨row', hm, hw, hstep⟩
    · exact .inl hsame
    · exact .inr ⟨_, _, _, row', rfl, hexec, hw, hstep, hm⟩

/-- The guarded writes of all handlers are serialized.  In every reachable state: a step that changes a row is the
step of one execution, which computed the new row from exactly the row it replaces; an execution whose row is not the
current one throws the version conflict and its whole transaction has no effect; and from then on every row only goes
through such writes, each of which raises the version by one and follows `AllowedTransitions`. -/
theorem guarded_writes_serialized {wallets : TenantId → Option WalletRow} {world : World}
    (h : Transition.Reaches World.step (World.initial wallets) world) :
    (∀ a world', world.step a = some world' → ∀ row ∈ world.db.messages, row ∈ world'.db.messages ∨
      ∃ index env execution row', a = .advance index env ∧ world.executions[index]? = some execution ∧
        execution.stage.Writes env row row' ∧ RowStep row row' ∧ row' ∈ world'.db.messages) ∧
    (∀ env, ∀ execution ∈ world.executions, ∀ snapshot, execution.stage.row = some snapshot →
      execution.stage.writesMessage env = true → snapshot ∉ world.db.messages →
      withTransaction (execution.stage.advance env) world.db =
        (.error (.conflict "Message version conflict"), world.db)) ∧
    (∀ world', Transition.Reaches World.step world world' → ∀ row ∈ world.db.messages,
      ∃ row' ∈ world'.db.messages, Earlier RowStep row row' ∧ MessageHistory row row') := by
  have hs := snapshots_of_reaches h
  refine ⟨fun a world' hstep row hrow => hs.written_from hstep hrow, ?_, ?_⟩
  · intro env execution he snapshot hrow hwrites hstale
    exact hs.loser he hrow hwrites hstale
  · intro world' hreach row hrow
    obtain ⟨row', hrow', hearlier⟩ := row_history hs hreach hrow
    exact ⟨row', hrow', hearlier, messageHistory_of_earlier hearlier⟩

/-- Two deliveries of one `message.accepted` event have both read the row when the first of them commits. -/
def Sample.race : List Action :=
  [.submit (Sample.clock 1) Sample.submission, .deliver 0, .deliver 0,
    .advance 0 (Sample.env 2 (Sample.services .allow 3 Sample.refuses))]

theorem guarded_writes_serialized_race : ∃ world, Sample.run Sample.race = some world ∧
    ∃ execution ∈ world.executions, withTransaction
      (execution.stage.advance (Sample.env 3 (Sample.services .allow 3 Sample.refuses))) world.db =
        (.error (.conflict "Message version conflict"), world.db) := by
  have hloser : (Sample.run Sample.race).any (fun world => world.executions.any fun execution =>
      execution.stage.writesMessage (Sample.env 3 (Sample.services .allow 3 Sample.refuses)) &&
        execution.stage.row.any fun snapshot => decide (snapshot ∉ world.db.messages)) = true := by
    decide +kernel
  obtain ⟨world, hrun, hany⟩ := (Option.any_eq_true _ _).1 hloser
  obtain ⟨execution, he, hfacts⟩ := List.any_eq_true.1 hany
  obtain ⟨hwrites, hrow⟩ := Bool.and_eq_true_iff.1 hfacts
  obtain ⟨snapshot, hsnapshot, hstale⟩ := (Option.any_eq_true _ _).1 hrow
  have h := guarded_writes_serialized (Transition.reaches_of_execute hrun)
  exact ⟨world, hrun, execution, he, h.2.1 _ execution he snapshot hsnapshot hwrites (of_decide_eq_true hstale)⟩

end SmsPlatform
