import SmsPlatform.Lib.Records
import SmsPlatform.Pipeline.Billing

/-!
# The marks of a message's life

`sent_at`, `delivered_at`, `failed_at`, `billing_state` and `provider_message_id` are written by different branches of
`patchMessage` and `transitionMessage`.  `MessageRow.Marks` says what they are in each status.  A correlation only finds
messages with `sent_at` or `provider_message_id`, hence debited ones, so no delivery report releases a wallet.

`lifecycle_marks` speaks about whole runs: beside the system all states of all rows are written down (`rowsAfter`).
-/

namespace SmsPlatform

open StateExcept Transition

/-! ### The marks in each status -/

structure MessageRow.Marks (row : MessageRow) : Prop where
  unsent : row.status.InProgress → row.sentAt = none
  sent : row.status = .providerAccepted ∨ row.status = .delivered → row.sentAt.isSome = true
  debited : row.billingState = .debited ↔ row.sentAt.isSome = true
  providerMessageId : row.providerMessageId.isSome = true → row.sentAt.isSome = true
  deliveredAt : row.deliveredAt.isSome = true ↔ row.status = .delivered
  failedAt : row.failedAt.isSome = true ↔ row.status = .failed

/-- The timestamps of `old` are still there in `new`. -/
structure MessageRow.Keeps (old new : MessageRow) : Prop where
  sentAt : ∀ time, old.sentAt = some time → new.sentAt = some time
  deliveredAt : ∀ time, old.deliveredAt = some time → new.deliveredAt = some time
  failedAt : ∀ time, old.failedAt = some time → new.failedAt = some time

theorem MessageRow.Keeps.refl (row : MessageRow) : row.Keeps row :=
  ⟨fun _ h => h, fun _ h => h, fun _ h => h⟩

theorem MessageRow.Keeps.trans {row row' row'' : MessageRow} (h : row.Keeps row') (h' : row'.Keeps row'') :
    row.Keeps row'' where
  sentAt := fun time ht => h'.sentAt time (h.sentAt time ht)
  deliveredAt := fun time ht => h'.deliveredAt time (h.deliveredAt time ht)
  failedAt := fun time ht => h'.failedAt time (h.failedAt time ht)

theorem MessageRow.Marks.of_sent {row : MessageRow} (h : row.Marks) (hsent : row.sentAt.isSome = true) :
    (row.status = .providerAccepted ∨ row.status = .delivered ∨ row.status = .failed) ∧
      row.billingState = .debited := by
  refine ⟨?_, h.debited.2 hsent⟩
  have hdone : ¬ row.status.InProgress := by
    intro hopen
    rw [h.unsent hopen] at hsent
    cases hsent
  revert hdone
  cases row.status <;> simp [MessageStatus.InProgress]

theorem Submission.row_marks (submission : Submission) (clock : TxClock) (id : Nat) :
    (submission.row clock id).Marks := by
  constructor <;> simp [Submission.row]

/-! ### One write -/

section Writes

variable {clock : TxClock} {fields : MessageFields} {row : MessageRow}

theorem patchedRow_keeps : row.Keeps (patchedRow clock fields row) :=
  ⟨fun _ h => h, fun _ h => h, fun _ h => h⟩

theorem patchedRow_marks (h : row.Marks) (hbilling : fields.billingState = none)
    (hid : fields.providerMessageId = none) : (patchedRow clock fields row).Marks := by
  have hstate : (patchedRow clock fields row).billingState = row.billingState := by
    show fields.billingState.getD row.billingState = row.billingState
    rw [hbilling]
    rfl
  have hmessageId : (patchedRow clock fields row).providerMessageId = row.providerMessageId := by
    show fields.providerMessageId.getD row.providerMessageId = row.providerMessageId
    rw [hid]
    rfl
  exact ⟨h.unsent, h.sent, by rw [hstate]; exact h.debited, by rw [hmessageId]; exact h.providerMessageId,
    h.deliveredAt, h.failedAt⟩

variable {next : MessageStatus} {inc : Bool}

/-- A column that one status sets, unless it is set already. -/
private theorem setOnce_keeps {column : Option Timestamp} {p : Prop} [Decidable p] {now time : Timestamp}
    (h : column = some time) : (if p then some (column.getD now) else column) = some time := by
  rw [h]
  split <;> rfl

theorem transitionedRow_keeps : row.Keeps (transitionedRow clock next fields inc row) :=
  ⟨fun _ h => setOnce_keeps h, fun _ h => setOnce_keeps h, fun _ h => setOnce_keeps h⟩

theorem transitionedRow_sentAt_of_ne (h : next ≠ .providerAccepted) :
    (transitionedRow clock next fields inc row).sentAt = row.sentAt :=
  if_neg h

/-- A timestamp that belongs to one status, after a step to `next` from a row that is not in that status. -/
private theorem setOnce_iff (next : MessageStatus) {column : Option Timestamp} {status target : MessageStatus}
    (now : Timestamp) (h : column.isSome = true ↔ status = target) (hne : status ≠ target) :
    (if next = target then some (column.getD now) else column).isSome = true ↔ next = target := by
  split
  · rename_i heq
    exact iff_of_true rfl heq
  · rename_i hnot
    exact iff_of_false (fun hs => hne (h.1 hs)) hnot

/-- A transition keeps the marks when, unless it is to `provider_accepted`, its fields debit nothing and leave the
provider's message id alone. -/
theorem transitionedRow_marks (h : row.Marks) (hnext : next ∈ AllowedTransitions row.status)
    (hbilling : next ≠ .providerAccepted →
      (fields.billingState.getD row.billingState = .debited ↔ row.billingState = .debited))
    (hid : next ≠ .providerAccepted → fields.providerMessageId = none) :
    (transitionedRow clock next fields inc row).Marks := by
  have hnotDelivered : row.status ≠ .delivered := by
    intro hs
    rw [hs] at hnext
    cases hnext
  have hnotFailed : row.status ≠ .failed := by
    intro hs
    rw [hs] at hnext
    cases hnext
  have hdelivered := setOnce_iff next clock.now h.deliveredAt hnotDelivered
  have hfailed := setOnce_iff next clock.now h.failedAt hnotFailed
  by_cases haccepted : next = .providerAccepted
  · subst haccepted
    have hsent : (transitionedRow clock .providerAccepted fields inc row).sentAt.isSome = true := rfl
    refine ⟨fun hopen => ?_, fun _ => hsent, iff_of_true rfl hsent, fun _ => hsent, hdelivered, hfailed⟩
    have hopen : MessageStatus.InProgress .providerAccepted := hopen
    exact absurd hopen (by decide)
  · have hsentAt : (transitionedRow clock next fields inc row).sentAt = row.sentAt :=
      transitionedRow_sentAt_of_ne haccepted
    have hstate : (transitionedRow clock next fields inc row).billingState =
        fields.billingState.getD row.billingState := if_neg haccepted
    have hmessageId : (transitionedRow clock next fields inc row).providerMessageId = row.providerMessageId := by
      show fields.providerMessageId.getD row.providerMessageId = row.providerMessageId
      rw [hid haccepted]
      rfl
    refine ⟨fun hopen => ?_, fun hlate => ?_, ?_, ?_, hdelivered, hfailed⟩
    · rw [hsentAt]
      refine h.unsent ?_
      have hopen : next.InProgress := hopen
      revert hnext hopen
      cases row.status <;> cases next <;> decide
    · rw [hsentAt]
      refine h.sent (.inl ?_)
      have hlate : next = .delivered := hlate.resolve_left haccepted
      rw [hlate] at hnext
      revert hnext
      cases row.status <;> decide
    · rw [hsentAt, hstate]
      exact (hbilling haccepted).trans h.debited
    · rw [hsentAt, hmessageId]
      exact h.providerMessageId

end Writes

/-- The statement of a guarded work is one of the two updates. -/
inductive Assigned (clock : TxClock) (row : MessageRow) : MessageRow → Prop
  | patched (fields : MessageFields) : Assigned clock row (patchedRow clock fields row)
  | transitioned (next : MessageStatus) (fields : MessageFields) (inc : Bool) :
      Assigned clock row (transitionedRow clock next fields inc row)

theorem Assigned.keeps {clock : TxClock} {row row' : MessageRow} (h : Assigned clock row row') : row.Keeps row' := by
  cases h with
  | patched fields => exact patchedRow_keeps
  | transitioned next fields inc => exact transitionedRow_keeps

/-- `sent_at` is set by the step to `provider_accepted` only. -/
theorem Assigned.sentAt {clock : TxClock} {row row' : MessageRow} (h : Assigned clock row row')
    (hsent : row'.sentAt.isSome = true) : row.sentAt.isSome = true ∨ row'.status = .providerAccepted := by
  cases h with
  | patched fields => exact .inl hsent
  | transitioned next fields inc =>
    by_cases haccepted : next = .providerAccepted
    · exact .inr haccepted
    · rw [transitionedRow_sentAt_of_ne haccepted] at hsent
      exact .inl hsent

namespace Stage.WorkOf

variable {env : Environment} {stage : Stage} {work : GuardedWork} {next : MessageRow → Option Stage}

theorem assigned (h : WorkOf env stage work next) (row : MessageRow) : Assigned env.clock row (work.assign row) := by
  cases h with
  | accepted job route hroute => exact .transitioned ..
  | throttle job haction => exact .patched ..
  | attempt job =>
    change Assigned env.clock row (attemptRow env.clock job.message row)
    unfold attemptRow
    split
    · exact .transitioned ..
    · exact .patched ..
  | ack job haccepted => exact .transitioned ..
  | unknown job => exact .patched ..
  | retrySubmit job retryPolicy nextRoute hpolicy hretry => exact .patched ..
  | failure job => exact .transitioned ..
  | delivered report message hstatus => exact .transitioned ..
  | dlrFailed report message hstatus => exact .transitioned ..

theorem marks (h : WorkOf env stage work next) (hm : work.message.Marks) : (work.assign work.message).Marks := by
  cases h with
  | accepted job route hroute =>
    have hs : job.message.status = .accepted := by simpa using job.admitted
    exact transitionedRow_marks hm (by rw [show (acceptedWork ..).message.status = _ from hs]; decide)
      (fun _ => Iff.rfl) fun _ => rfl
  | throttle job haction => exact patchedRow_marks hm rfl rfl
  | attempt job =>
    change (attemptRow env.clock job.message job.message).Marks
    unfold attemptRow
    split
    · rename_i hs
      exact transitionedRow_marks hm (by rw [hs]; decide)
        (fun _ => Iff.rfl) fun _ => rfl
    · exact patchedRow_marks hm rfl rfl
  | ack job haccepted =>
    have hs : job.message.status = .submitting := by simpa using job.admitted
    exact transitionedRow_marks hm (by rw [show (submitAckWork ..).message.status = _ from hs]; decide)
      (fun hne => absurd rfl hne) fun hne => absurd rfl hne
  | unknown job => exact patchedRow_marks hm rfl rfl
  | retrySubmit job retryPolicy nextRoute hpolicy hretry => exact patchedRow_marks hm rfl rfl
  | failure job =>
    have hs : job.message.status = .submitting := by simpa using job.admitted
    refine transitionedRow_marks hm (by rw [show (finalFailureWork ..).message.status = _ from hs]; decide)
      (fun _ => iff_of_false (fun hreleased => by cases hreleased) fun hdebited => ?_) fun _ => rfl
    have hsent := hm.debited.1 hdebited
    rw [hm.unsent (.inr (.inr hs))] at hsent
    cases hsent
  | delivered report message hstatus =>
    exact transitionedRow_marks hm (by rw [show (dlrDeliveredWork ..).message.status = _ from hstatus]; decide)
      (fun _ => Iff.rfl) fun _ => rfl
  | dlrFailed report message hstatus =>
    refine transitionedRow_marks hm ?_ (fun _ => ?_) fun _ => rfl
    · rcases hstatus with hs | hs
      · rw [show (dlrFailedWork ..).message.status = _ from hs]; decide
      · rw [show (dlrFailedWork ..).message.status = _ from hs]; decide
    · show (if message.billingState = .reserved then BillingState.released else message.billingState) = .debited ↔
        message.billingState = .debited
      split
      · rename_i hreserved
        rw [hreserved]
        decide
      · exact Iff.rfl

end Stage.WorkOf

/-- The works of a correlated report bill nothing unless the message is still reserved. -/
theorem Stage.WorkOf.correlated_billing {env : Environment} {report : DlrWebhookRow} {message : Option MessageRow}
    {work : GuardedWork} {next : MessageRow → Option Stage}
    (h : Stage.WorkOf env (.correlated report message) work next)
    (hbilling : work.message.billingState ≠ .reserved) : work.billing = none := by
  cases h with
  | delivered report message hstatus => rfl
  | dlrFailed report message hstatus => exact if_neg hbilling

/-! ### Reachable states -/

/-- The rows in the table and the rows that executions hold have the marks of their status, and a correlated message has
been sent. -/
structure Marked (world : World) : Prop where
  rows : ∀ row ∈ world.db.messages, row.Marks
  held : ∀ execution ∈ world.executions, ∀ snapshot, execution.stage.row = some snapshot → snapshot.Marks
  correlated : ∀ execution ∈ world.executions, ∀ report message,
    execution.stage = .correlated report (some message) → message.sentAt.isSome = true

/-- What a correlation finds in the table has been sent: the direct lookup wants a `provider_message_id`, the fallback a
`sent_at`. -/
theorem correlated_sent {db : Db} (hrows : ∀ row ∈ db.messages, row.Marks) {clock : TxClock} {tie : MessageRow → Nat}
    {input : DlrCorrelationInput} {row : MessageRow} (h : correlateMessageForDlr db clock tie input = some row) :
    row.sentAt.isSome = true := by
  obtain ⟨hmem, hdirect | hfallback⟩ := correlateMessageForDlr_mem h
  · have hid : row.providerMessageId.isSome = true := (of_decide_eq_true hdirect).2.2.1
    exact (hrows row hmem).providerMessageId hid
  · unfold fallbackMatch at hfallback
    rw [Bool.and_eq_true] at hfallback
    cases hsent : row.sentAt with
    | none =>
      rw [hsent] at hfallback
      exact absurd hfallback.2 Bool.false_ne_true
    | some time => rfl

theorem Marked.initial (wallets : TenantId → Option WalletRow) : Marked (World.initial wallets) where
  rows := by
    intro row hrow
    cases hrow
  held := by
    intro execution he
    cases he
  correlated := by
    intro execution he
    cases he

theorem Marked.step {world world' : World} {a : Action} (h : Marked world) (hs : Snapshots world)
    (hstep : world.step a = some world') : Marked world' := by
  have hstepped := World.step_cases (keyed_composite hs.keyed) hstep
  have hrows : ∀ row ∈ world'.db.messages, row.Marks := by
    intro row hrow
    cases hs.origin hstep hrow with
    | kept hold => exact h.rows row hold
    | created clock submission heq =>
      rw [heq]
      exact submission.row_marks clock _
    | written hexec hw hm heq =>
      rw [heq]
      exact hw.marks (h.rows _ hm)
  refine ⟨hrows, ?_, ?_⟩
  · intro execution he snapshot hsnapshot
    cases hstepped.flight he with
    | kept he => exact h.held execution he snapshot hsnapshot
    | started hrow ha hdb hstart => exact h.rows snapshot (hstart.row_mem hsnapshot)
    | continued ha hexec hadvance =>
      rcases hadvance.next_row hsnapshot with hheld | hmem
      · exact h.held _ (List.mem_of_getElem? hexec) snapshot hheld
      · exact hrows snapshot hmem
  · intro execution he report message hstage
    rcases hstepped.correlated_origin he hstage with hold | ⟨clock, tie, input, hfound⟩
    · exact h.correlated execution hold report message hstage
    · exact correlated_sent h.rows hfound

theorem marked_of_reaches {wallets : TenantId → Option WalletRow} {world : World}
    (h : Reaches World.step (World.initial wallets) world) : Marked world :=
  h.invariant_of (fun _ hrun => snapshots_of_reaches hrun) (Marked.initial wallets)
    fun _ _ _ hs _ hm _ hstep => hm.step hs hstep

/-! ### Runs -/

/-- What is written down: the rows of the table after each step. -/
def rowsAfter (_world : World) (_a : Action) (world' : World) : List MessageRow := world'.db.messages

/-- One of the states seen of this message is `provider_accepted`. -/
def PassedAccepted (record : List MessageRow) (row : MessageRow) : Prop :=
  ∃ state ∈ record, state.composite = row.composite ∧ state.status = .providerAccepted

/-- The states seen so far, against the rows of the table. -/
structure Seen (db : Db) (record : List MessageRow) : Prop where
  marks : ∀ state ∈ record, state.Marks
  rows : ∀ row ∈ db.messages, row ∈ record
  kept : ∀ state ∈ record, ∃ row ∈ db.messages, row.composite = state.composite ∧ state.Keeps row
  passed : ∀ row ∈ db.messages, row.sentAt.isSome = true → PassedAccepted record row

theorem Seen.step {world world' : World} {a : Action} {record : List MessageRow} (hs : Snapshots world)
    (hm : Marked world) (h : Seen world.db record) (hstep : world.step a = some world') :
    Seen world'.db (record ++ world'.db.messages) := by
  have hmarked := hm.step hs hstep
  refine ⟨?_, fun row hrow => List.mem_append.2 (.inr hrow), ?_, ?_⟩
  · intro state hstate
    rcases List.mem_append.1 hstate with hold | hnew
    · exact h.marks state hold
    · exact hmarked.rows state hnew
  · intro state hstate
    rcases List.mem_append.1 hstate with hold | hnew
    · obtain ⟨row, hrow, hcomposite, hkeeps⟩ := h.kept state hold
      rcases hs.written_from hstep hrow with hsame | ⟨index, env, execution, row', -, -, hwrites, hrowStep, hrow'⟩
      · exact ⟨row, hsame, hcomposite, hkeeps⟩
      · obtain ⟨work, next, hw, -, heq⟩ := hwrites
        refine ⟨row', hrow', (MessageRow.composite_of_content hrowStep.content).trans hcomposite, hkeeps.trans ?_⟩
        rw [heq]
        exact (hw.assigned row).keeps
    · exact ⟨state, hnew, rfl, .refl state⟩
  · intro row hrow hsent
    cases hs.origin hstep hrow with
    | kept hold =>
      obtain ⟨state, hstate, hfound⟩ := h.passed row hold hsent
      exact ⟨state, List.mem_append.2 (.inl hstate), hfound⟩
    | created clock submission heq =>
      rw [heq] at hsent
      cases hsent
    | written hexec hw hmessage heq hfits =>
      rename_i index env execution work next
      have hassigned := hw.assigned work.message
      rw [← heq] at hassigned
      rcases hassigned.sentAt hsent with hbefore | haccepted
      · obtain ⟨state, hstate, hcomposite, hstatus⟩ := h.passed _ hmessage hbefore
        have hsame : row.composite = work.message.composite := by
          rw [heq]
          exact MessageRow.composite_of_content (hw.rowStep rfl).content
        exact ⟨state, List.mem_append.2 (.inl hstate), hcomposite.trans hsame.symm, hstatus⟩
      · exact ⟨row, List.mem_append.2 (.inr hrow), rfl, haccepted⟩

/-- Two rows of one message are one row. -/
theorem Seen.keeps {db : Db} {record : List MessageRow} (h : Seen db record)
    (hk : Rows.Keyed MessageRow.composite db.messages) {state row : MessageRow} (hstate : state ∈ record)
    (hrow : row ∈ db.messages) (hcomposite : row.composite = state.composite) : state.Keeps row := by
  obtain ⟨current, hcurrent, hsame, hkeeps⟩ := h.kept state hstate
  rw [hk.unique hrow hcurrent (hcomposite.trans hsame.symm)]
  exact hkeeps

theorem Seen.sent_iff {db : Db} {record : List MessageRow} (h : Seen db record)
    (hk : Rows.Keyed MessageRow.composite db.messages) {row : MessageRow} (hrow : row ∈ db.messages) :
    row.sentAt.isSome = true ↔ PassedAccepted record row := by
  constructor
  · exact h.passed row hrow
  · rintro ⟨state, hstate, hcomposite, hstatus⟩
    obtain ⟨time, htime⟩ := Option.isSome_iff_exists.1 ((h.marks state hstate).sent (.inl hstatus))
    rw [(h.keeps hk hstate hrow hcomposite.symm).sentAt time htime]
    rfl

/-- The marks of a message that has passed `provider_accepted`, or has not. -/
structure MessageRow.MarkedBy (row : MessageRow) (passed : Prop) : Prop where
  sentAt : row.sentAt.isSome = true ↔ passed
  debited : row.billingState = .debited ↔ passed
  providerMessageId : row.providerMessageId.isSome = true → passed
  deliveredAt : row.deliveredAt.isSome = true ↔ row.status = .delivered
  failedAt : row.failedAt.isSome = true ↔ row.status = .failed

theorem MessageRow.Marks.markedBy {row : MessageRow} (h : row.Marks) {passed : Prop}
    (hpassed : row.sentAt.isSome = true ↔ passed) : row.MarkedBy passed where
  sentAt := hpassed
  debited := h.debited.trans hpassed
  providerMessageId := fun hid => hpassed.1 (h.providerMessageId hid)
  deliveredAt := h.deliveredAt
  failedAt := h.failedAt

/-! ### The processor of delivery reports -/

/-- A step of an execution that has correlated its report moves no money and no message out of `submitting`. -/
theorem Marked.correlated_step {world world' : World} (hm : Marked world) (hs : Snapshots world) {index : Nat}
    {env : Environment} {execution : Execution} {report : DlrWebhookRow} {message : Option MessageRow}
    (hexec : world.executions[index]? = some execution) (hstage : execution.stage = .correlated report message)
    (hstep : world.step (.advance index env) = some world') :
    world'.db.wallets = world.db.wallets ∧ world'.db.transactions = world.db.transactions ∧
      ∀ row ∈ world.db.messages, row.status = .submitting → row ∈ world'.db.messages := by
  have htransacted := (World.step_cases (keyed_composite hs.keyed) hstep).transacted
  generalize world'.db = db' at htransacted
  cases htransacted with
  | same a => exact ⟨rfl, rfl, fun row hrow _ => hrow⟩
  | advanced hexec' hadvance =>
    rename_i execution' next
    have he : execution' = execution := Option.some.inj (hexec'.symm.trans hexec)
    subst he
    have hmem := List.mem_of_getElem? hexec
    cases hadvance with
    | work hw c =>
      have hrow := hw.row_eq
      have hsent := hm.correlated _ hmem report _ (hstage.trans (congrArg _ (hstage ▸ hrow)))
      obtain ⟨hlate, hdebited⟩ := (hm.held _ hmem _ hrow).of_sent hsent
      have hfree := (hstage ▸ hw).correlated_billing (by rw [hdebited]; decide)
      have hbilled := c.bill.of_none hfree
      have hdb := c.db_eq
      rw [hbilled] at hdb
      refine ⟨?_, ?_, fun row hrow hsubmitting => ?_⟩
      · rw [hdb, GuardedWork.finish_wallets]
      · rw [hdb, GuardedWork.finish_transactions]
      · have hne : row ≠ c.old := by
          rintro rfl
          rw [hs.committed_old hmem hw c] at hsubmitting
          rw [hsubmitting] at hlate
          simp at hlate
        rw [c.messages] at hrow
        rw [c.messages_eq]
        exact Rows.mem_replace_of_ne hrow hne
    | event h =>
      rw [hstage] at h
      cases h
    | read h => exact ⟨rfl, rfl, fun row hrow _ => hrow⟩
    | side h => exact ⟨h.frame.2.2.1, h.frame.2.2.2, fun row hrow _ => h.frame.1 ▸ hrow⟩

/-! ### The marks over whole runs -/

/-- A message that has been accepted by its provider and paid for. -/
def MessageRow.Settled (row : MessageRow) : Prop :=
  (row.status = .providerAccepted ∨ row.status = .delivered ∨ row.status = .failed) ∧ row.billingState = .debited

/-- In every state of every run: the marks of each message are those of having passed `provider_accepted` or not, no
timestamp that was seen has changed, correlations find settled messages only, and what follows a correlation releases no
wallet and takes no message out of `submitting`. -/
theorem lifecycle_marks {wallets : TenantId → Option WalletRow} {run : Recorded World MessageRow}
    (h : Reaches (recorded World.step rowsAfter) ⟨World.initial wallets, []⟩ run) :
    (∀ row ∈ run.state.db.messages, row.MarkedBy (PassedAccepted run.record row)) ∧
    (∀ seen ∈ run.record, ∀ row ∈ run.state.db.messages, row.composite = seen.composite → seen.Keeps row) ∧
    (∀ clock tie input row, correlateMessageForDlr run.state.db clock tie input = some row → row.Settled) ∧
    (∀ execution ∈ run.state.executions, ∀ report message, execution.stage = .correlated report (some message) →
      message.Settled) ∧
    (∀ index env execution report message world', run.state.executions[index]? = some execution →
      execution.stage = .correlated report message → run.state.step (.advance index env) = some world' →
      world'.db.wallets = run.state.db.wallets ∧ world'.db.transactions = run.state.db.transactions ∧
        ∀ row ∈ run.state.db.messages, row.status = .submitting → row ∈ world'.db.messages) := by
  have hreach : Reaches World.step (World.initial wallets) run.state :=
    Runs.forget_reaches h
  have hs := snapshots_of_reaches hreach
  have hm := marked_of_reaches hreach
  have hk := keyed_composite hs.keyed
  have hseen : Seen run.state.db run.record := by
    refine Runs.record_invariant_reaches (P := fun world record => Seen world.db record)
      (Q := fun world => Snapshots world ∧ Marked world) h
      (fun world hrun => ⟨snapshots_of_reaches hrun, marked_of_reaches hrun⟩) ?_ ?_
    · refine ⟨fun state hstate => ?_, fun row hrow => ?_, fun state hstate => ?_, fun row hrow => ?_⟩
      · cases hstate
      · cases hrow
      · cases hstate
      · cases hrow
    · intro world record a world' hworld hseen hstep
      exact hseen.step hworld.1 hworld.2 hstep
  refine ⟨?_, ?_, ?_, ?_, ?_⟩
  · intro row hrow
    exact (hm.rows row hrow).markedBy (hseen.sent_iff hk hrow)
  · intro seen hmem row hrow hcomposite
    exact hseen.keeps hk hmem hrow hcomposite
  · intro clock tie input row hfound
    exact (hm.rows row (correlateMessageForDlr_mem hfound).1).of_sent (correlated_sent hm.rows hfound)
  · intro execution he report message hstage
    have hrow : execution.stage.row = some message := by
      rw [hstage]
      rfl
    exact (hm.held execution he message hrow).of_sent (hm.correlated execution he report message hstage)
  · intro index env execution report message world' hexec hstage hstep
    exact hm.correlated_step hs hexec hstage hstep

/-- A failed report has been correlated to a message that its provider has accepted. -/
def Sample.correlating : List Action :=
  let advance (time : Timestamp) :=
    Action.advance 0 (Sample.env time (Sample.services .allow 3 (Sample.accepts "p")))
  [.submit (Sample.clock 1) Sample.submission, .deliver 0, advance 2, .deliver 1, advance 3, advance 3, advance 3,
    .deliver 2, advance 4, .acceptWebhook (Sample.clock 5) (fun date => date.text) ⟨1, none, some "p", none, [], .failed⟩,
    .deliver 3, advance 6]

theorem lifecycle_marks_correlated : ∃ run, Reaches (recorded World.step rowsAfter)
      ⟨World.initial (Sample.wallets 100), []⟩ run ∧
    ∃ execution ∈ run.state.executions, ∃ report message,
      execution.stage = .correlated report (some message) ∧ message.Settled := by
  have h : (execute (recorded World.step rowsAfter) ⟨World.initial (Sample.wallets 100), []⟩
      Sample.correlating).any (fun run => run.state.executions.any fun execution =>
        match execution.stage with
        | .correlated _ message => message.isSome
        | _ => false) = true := by
    decide +kernel
  obtain ⟨run, hrun, hany⟩ := (Option.any_eq_true _ _).1 h
  obtain ⟨execution, he, hcorrelated⟩ := List.any_eq_true.1 hany
  have hreach := reaches_of_execute hrun
  refine ⟨run, hreach, execution, he, ?_⟩
  cases hstage : execution.stage with
  | correlated report message =>
    rw [hstage] at hcorrelated
    obtain ⟨found, rfl⟩ := Option.isSome_iff_exists.1 hcorrelated
    exact ⟨report, found, rfl, (lifecycle_marks hreach).2.2.2.1 execution he report found hstage⟩
  | _ =>
    rw [hstage] at hcorrelated
    cases hcorrelated

end SmsPlatform
