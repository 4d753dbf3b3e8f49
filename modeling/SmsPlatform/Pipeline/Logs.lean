import SmsPlatform.Pipeline.ReportOrder

/-!
# What the transactions log

Every transaction that creates or writes a message writes one row of `message_logs`, with the statuses before and after
passed by hand.  They are those of the message except in the transaction of a throttle verdict, which always logs
`routed`: a message that is `submitting` is logged with a status it does not have (`truthful_iff`).
-/

namespace SmsPlatform

open StateExcept Transition

def MessageLogRow.messageRef (log : MessageLogRow) : MessageCompositeId :=
  ⟨log.messageSubmitDate, log.tenantId, log.messageId⟩

/-- The row has a status before and a status after. -/
def MessageLogRow.isTransition (log : MessageLogRow) : Bool := log.statusFrom.isSome && log.statusTo.isSome

/-- The rows of `message_logs` that a transaction has written. -/
def Db.logged (db db' : Db) : List MessageLogRow := db'.messageLogs.drop db.messageLogs.length

/-- What a transaction has logged is what has happened to the messages: a row with both statuses names the status just
before the transaction and the one just after it, and a status change has exactly one such row. -/
structure Truthful (db db' : Db) : Prop where
  appended : db'.messageLogs = db.messageLogs ++ db.logged db'
  told : ∀ log ∈ db.logged db', ∀ status next, log.statusFrom = some status → log.statusTo = some next →
    db.statusOf log.messageRef = some status ∧ db'.statusOf log.messageRef = some next
  covered : ∀ messageRef status next, db.statusOf messageRef = some status → db'.statusOf messageRef = some next →
    status ≠ next → ∃ log,
      (db.logged db').filter (fun log => decide (log.messageRef = messageRef) && log.isTransition) = [log] ∧
        log.statusFrom = some status ∧ log.statusTo = some next

/-- The step is the transaction of a throttle verdict on a message that is `submitting`: the row that has been read is
still in the table, and `now()` has moved on. -/
def ThrottlesSubmitting (world : World) : Action → Prop
  | .advance index env => ∃ execution job, world.executions[index]? = some execution ∧
      execution.stage = .dispatch job ∧
      (env.services.evaluate (fraudInput job.payload job.message)).action = .throttle ∧
      job.message.status = .submitting ∧ job.message ∈ world.db.messages ∧
      job.message.stateChangedAt < env.clock.now
  | _ => False

/-- The `now()` of the transaction of a step. -/
def Action.now : Action → Timestamp
  | .submit clock _ => clock.now
  | .acceptWebhook clock _ _ => clock.now
  | .advance _ env => env.clock.now
  | _ => 0

/-! ### Statuses of a table -/

section Table

variable {db db' : Db} {messageRef : MessageCompositeId}

theorem Db.statusOf_eq_some {status : MessageStatus} (h : db.statusOf messageRef = some status) :
    ∃ row ∈ db.messages, row.composite = messageRef ∧ row.status = status := by
  obtain ⟨row, hfind, rfl⟩ := Option.map_eq_some_iff.1 h
  exact ⟨row, List.mem_of_find?_eq_some hfind, by simpa using List.find?_some hfind, rfl⟩

theorem Db.logged_of_append {rows : List MessageLogRow} (h : db'.messageLogs = db.messageLogs ++ rows) :
    db.logged db' = rows := by
  unfold Db.logged
  rw [h, List.drop_left]

theorem Db.logged_of_eq (h : db'.messageLogs = db.messageLogs) : db.logged db' = [] :=
  Db.logged_of_append (by rw [h, List.append_nil])

end Table

/-! ### What a guarded work logs -/

namespace Stage.WorkOf

variable {env : Environment} {stage : Stage} {work : GuardedWork} {next : MessageRow → Option Stage}

/-- The row is about the message of the work. -/
theorem log_messageRef (h : WorkOf env stage work next) (updated : MessageRow) :
    (work.log updated).messageRef = work.message.composite := by
  cases h with
  | accepted job route hroute => exact job.found.symm
  | throttle job haction => exact job.found.symm
  | attempt job => exact job.found.symm
  | ack job haccepted => exact job.found.symm
  | unknown job => exact job.found.symm
  | retrySubmit job retryPolicy nextRoute hpolicy hretry => exact job.found.symm
  | failure job => exact job.found.symm
  | delivered report message hstatus => rfl
  | dlrFailed report message hstatus => rfl

/-- The statuses are those of the row before and after, or the verdict is a throttle of a message that is
`submitting`. -/
theorem log_statuses (h : WorkOf env stage work next) (updated : MessageRow) :
    ∃ status next, (work.log updated).statusFrom = some status ∧ (work.log updated).statusTo = some next ∧
      ((status = work.message.status ∧ next = (work.assign work.message).status) ∨
        ∃ job, stage = .dispatch job ∧ work.message = job.message ∧
          (env.services.evaluate (fraudInput job.payload job.message)).action = .throttle ∧
          job.message.status = .submitting) := by
  cases h with
  | accepted job route hroute =>
    have hs : job.message.status = .accepted := by simpa using job.admitted
    exact ⟨_, _, rfl, rfl, .inl ⟨hs.symm, rfl⟩⟩
  | throttle job haction =>
    have hs : job.message.status = .routed ∨ job.message.status = .submitting := by simpa using job.admitted
    rcases hs with hs | hs
    · exact ⟨_, _, rfl, rfl, .inl ⟨hs.symm, hs.symm⟩⟩
    · -- the branch logs `routed` for a message of a retry, too
      exact ⟨_, _, rfl, rfl, .inr ⟨job, rfl, rfl, haction, hs⟩⟩
  | attempt job =>
    have hs : job.message.status = .routed ∨ job.message.status = .submitting := by simpa using job.admitted
    have hattempt : (attemptRow env.clock job.message job.message).status = .submitting := by
      rw [attemptRow_eq env.clock hs]
    exact ⟨_, _, rfl, rfl, .inl ⟨rfl, hattempt.symm⟩⟩
  | ack job haccepted =>
    have hs : job.message.status = .submitting := by simpa using job.admitted
    exact ⟨_, _, rfl, rfl, .inl ⟨hs.symm, rfl⟩⟩
  | unknown job =>
    have hs : job.message.status = .submitting := by simpa using job.admitted
    exact ⟨_, _, rfl, rfl, .inl ⟨hs.symm, hs.symm⟩⟩
  | retrySubmit job retryPolicy nextRoute hpolicy hretry =>
    have hs : job.message.status = .submitting := by simpa using job.admitted
    exact ⟨_, _, rfl, rfl, .inl ⟨hs.symm, hs.symm⟩⟩
  | failure job =>
    have hs : job.message.status = .submitting := by simpa using job.admitted
    exact ⟨_, _, rfl, rfl, .inl ⟨hs.symm, rfl⟩⟩
  | delivered report message hstatus => exact ⟨_, _, rfl, rfl, .inl ⟨hstatus.symm, rfl⟩⟩
  | dlrFailed report message hstatus => exact ⟨_, _, rfl, rfl, .inl ⟨rfl, rfl⟩⟩

end Stage.WorkOf

/-! ### What a step logs -/

/-- What a step does to the messages and their log: nothing, a new message with its first row, or one write with the row
about it. -/
inductive LogStep (world : World) (a : Action) (db' : Db) : Prop
  | quiet (hmessages : db'.messages = world.db.messages) (hlogs : db'.messageLogs = world.db.messageLogs)
  | created (message : MessageRow) (log : MessageLogRow) (hid : message.id = world.db.nextMessageId)
      (hmessages : db'.messages = world.db.messages ++ [message])
      (hlogs : db'.messageLogs = world.db.messageLogs ++ [log]) (href : log.messageRef = message.composite)
      (hfrom : log.statusFrom = none) (hto : log.statusTo = some message.status)
      (hnow : message.stateChangedAt = a.now)
  | written (before : List MessageRow) (old : MessageRow) (after : List MessageRow) (new : MessageRow)
      (log : MessageLogRow) (status next : MessageStatus) (hmessages : world.db.messages = before ++ old :: after)
      (hmessages' : db'.messages = before ++ new :: after) (hcomposite : new.composite = old.composite)
      (hlogs : db'.messageLogs = world.db.messageLogs ++ [log]) (href : log.messageRef = old.composite)
      (hfrom : log.statusFrom = some status) (hto : log.statusTo = some next)
      (htruth : (status = old.status ∧ next = new.status) ∨ ThrottlesSubmitting world a)
      (hlater : old.stateChangedAt < a.now) (hnow : new.stateChangedAt = a.now)

theorem GuardedWork.Committed.messageLogs_eq {work : GuardedWork} {clock : TxClock} {db db' : Db}
    {updated : MessageRow} (c : work.Committed clock db updated db') :
    db'.messageLogs = db.messageLogs ++ [work.log updated] := by
  have hframe := congrArg Db.messageLogs c.bill.frame
  have hbilled : c.billed.messageLogs = db.messageLogs := hframe
  have hfinish : (work.finish clock updated c.billed).messageLogs = c.billed.messageLogs ++ [work.log updated] := by
    unfold GuardedWork.finish
    cases work.followUp updated <;> simp [FollowUp.apply, Db.updateWebhook]
  rw [c.db_eq, hfinish, hbilled]

theorem Stage.SideOf.messageLogs_eq {env : Environment} {db db' : Db} {stage : Stage} (h : SideOf env db stage db') :
    db'.messageLogs = db.messageLogs := by
  cases h <;> simp [Db.updateWebhook]

theorem Created.messageLogs_eq {clock : TxClock} {submission : Submission} {db db' : Db} {message : MessageRow}
    (c : Created clock submission db message db') :
    db'.messageLogs = db.messageLogs ++ [logRow message.composite "api_accepted" none (some .accepted)
      (some submission.routePreview.providerId) none 0] := by
  have hframe := congrArg Db.messageLogs c.bill.frame
  have hreserved : c.reserved.messageLogs = db.messageLogs := hframe
  rw [c.db_eq, Db.enqueue_messageLogs, Db.insertLog_messageLogs, hreserved]

section Steps

variable {world world' : World} {a : Action}

theorem later_of_enforce {old new : MessageRow} (h : enforceMessageStateTransition old new = .ok ()) :
    old.stateChangedAt < new.stateChangedAt := by
  by_contra hle
  unfold enforceMessageStateTransition at h
  split at h
  · cases h
  · rw [if_pos (Int.not_lt.1 hle)] at h
    cases h

/-- A committed work is a write with its row. -/
private theorem Snapshots.work_logStep (hs : Snapshots world) {index : Nat} {env : Environment}
    {execution : Execution} (hexec : world.executions[index]? = some execution) {work : GuardedWork}
    {next : MessageRow → Option Stage} (hw : Stage.WorkOf env execution.stage work next) {updated : MessageRow}
    {db' : Db} (c : work.Committed env.clock world.db updated db') : LogStep world (.advance index env) db' := by
  have hold : c.old = work.message := hs.committed_old (List.mem_of_getElem? hexec) hw c
  have hupdated : updated = work.assign work.message := by rw [c.updated_eq, hold]
  have hstep : RowStep work.message (work.assign work.message) := hw.rowStep rfl
  have hcomposite : updated.composite = work.message.composite :=
    (congrArg MessageRow.composite hupdated).trans (MessageRow.composite_of_content hstep.content)
  have hnow : updated.stateChangedAt = env.clock.now :=
    (congrArg MessageRow.stateChangedAt hupdated).trans (hw.assign_stateChangedAt _)
  have hlater : work.message.stateChangedAt < env.clock.now := by
    have h := later_of_enforce c.trigger
    rwa [hold, hw.assign_stateChangedAt] at h
  have hmem : work.message ∈ world.db.messages := by
    rw [← hold, c.messages]
    simp
  obtain ⟨status, nextStatus, hfrom, hto, htruth⟩ := hw.log_statuses updated
  refine .written c.before c.old c.after updated (work.log updated) status nextStatus c.messages c.messages_eq
    (hcomposite.trans (congrArg MessageRow.composite hold.symm)) c.messageLogs_eq
    ((hw.log_messageRef updated).trans (congrArg MessageRow.composite hold.symm)) hfrom hto ?_ (hold ▸ hlater) hnow
  rcases htruth with ⟨hstatus, hnext⟩ | ⟨job, hstage, hmessage, haction, hsubmitting⟩
  · exact .inl ⟨hstatus.trans (congrArg MessageRow.status hold.symm),
      hnext.trans (congrArg MessageRow.status hupdated.symm)⟩
  · exact .inr ⟨execution, job, hexec, hstage, haction, hsubmitting, hmessage ▸ hmem, hmessage ▸ hlater⟩

theorem Snapshots.logStep (hs : Snapshots world) (h : world.step a = some world') : LogStep world a world'.db := by
  have htransacted := (World.step_cases (keyed_composite hs.keyed) h).transacted
  clear h
  generalize world'.db = db' at htransacted ⊢
  cases htransacted with
  | same a => exact .quiet rfl rfl
  | created c =>
    exact .created _ _ (congrArg MessageRow.id c.message_eq) c.messages_eq.1 c.messageLogs_eq rfl rfl
      (by rw [c.message_eq]; rfl) (by rw [c.message_eq]; rfl)
  | webhook h =>
    obtain ⟨row, webhooks, nextId, rfl⟩ := acceptWebhook_ok h
    exact .quiet (by simp) (by simp)
  | advanced hexec hadvance =>
    cases hadvance with
    | work hw c => exact hs.work_logStep hexec hw c
    | event h => exact .quiet (by simp) (by simp)
    | read h => exact .quiet rfl rfl
    | side h => exact .quiet h.frame.1 h.messageLogs_eq

/-! ### Truthful steps -/

theorem Db.statusOf_congr {db db' : Db} (h : db'.messages = db.messages) (messageRef : MessageCompositeId) :
    db'.statusOf messageRef = db.statusOf messageRef := by
  unfold Db.statusOf Db.findMessage
  rw [h]

section Tables

variable {db db' : Db} {log : MessageLogRow}

theorem Truthful.of_quiet (hmessages : db'.messages = db.messages) (hlogs : db'.messageLogs = db.messageLogs) :
    Truthful db db' := by
  have hlogged := Db.logged_of_eq hlogs
  refine ⟨by rw [hlogged, hlogs, List.append_nil], ?_, ?_⟩
  · rw [hlogged]
    intro log hlog
    cases hlog
  · intro messageRef status next hstatus hnext hne
    rw [Db.statusOf_congr hmessages, hstatus] at hnext
    exact absurd (Option.some.inj hnext) hne

/-- A new message has no status before. -/
theorem Truthful.of_created {message : MessageRow} (hkeyed' : Rows.Keyed MessageRow.composite db'.messages)
    (hmessages : db'.messages = db.messages ++ [message]) (hlogs : db'.messageLogs = db.messageLogs ++ [log])
    (hfrom : log.statusFrom = none) : Truthful db db' := by
  have hlogged := Db.logged_of_append hlogs
  refine ⟨by rw [hlogged, hlogs], ?_, ?_⟩
  · rw [hlogged]
    intro other hother status next hstatus
    rw [List.mem_singleton.1 hother, hfrom] at hstatus
    cases hstatus
  · intro messageRef status next hstatus hnext hne
    obtain ⟨row, hrow, rfl, rfl⟩ := Db.statusOf_eq_some hstatus
    rw [statusOf_of_mem hkeyed' (by rw [hmessages]; exact List.mem_append_left _ hrow)] at hnext
    exact absurd (Option.some.inj hnext) hne

/-- A row with the statuses of the one message that is written. -/
theorem Truthful.of_written {before after : List MessageRow} {old new : MessageRow}
    (hkeyed : Rows.Keyed MessageRow.composite db.messages) (hkeyed' : Rows.Keyed MessageRow.composite db'.messages)
    (hmessages : db.messages = before ++ old :: after) (hmessages' : db'.messages = before ++ new :: after)
    (hcomposite : new.composite = old.composite) (hlogs : db'.messageLogs = db.messageLogs ++ [log])
    (href : log.messageRef = old.composite) (hfrom : log.statusFrom = some old.status)
    (hto : log.statusTo = some new.status) : Truthful db db' := by
  have hlogged := Db.logged_of_append hlogs
  have hbefore : db.statusOf old.composite = some old.status := statusOf_of_mem hkeyed (by rw [hmessages]; simp)
  have hafter : db'.statusOf old.composite = some new.status := by
    rw [← hcomposite]
    exact statusOf_of_mem hkeyed' (by rw [hmessages']; simp)
  refine ⟨by rw [hlogged, hlogs], ?_, ?_⟩
  · rw [hlogged]
    intro other hother status next hstatus hnext
    obtain rfl := List.mem_singleton.1 hother
    rw [href, hbefore, hafter, ← hfrom, ← hto]
    exact ⟨hstatus, hnext⟩
  · intro messageRef status next hstatus hnext hne
    by_cases hsame : messageRef = old.composite
    · subst hsame
      rw [hbefore] at hstatus
      rw [hafter] at hnext
      refine ⟨log, ?_, hfrom.trans hstatus, hto.trans hnext⟩
      rw [hlogged]
      simp [href, MessageLogRow.isTransition, hfrom, hto]
    · -- no other message is written
      obtain ⟨row, hrow, rfl, rfl⟩ := Db.statusOf_eq_some hstatus
      have hother : row ∈ db'.messages := by
        rw [hmessages] at hrow
        rw [hmessages']
        exact Rows.mem_replace_of_ne hrow fun heq => hsame (heq ▸ rfl)
      rw [statusOf_of_mem hkeyed' hother] at hnext
      exact absurd (Option.some.inj hnext) hne

end Tables

/-- Only a throttle verdict on a `submitting` message can make a step untruthful. -/
theorem Snapshots.truthful (hs : Snapshots world) (h : world.step a = some world')
    (hnot : ¬ ThrottlesSubmitting world a) : Truthful world.db world'.db := by
  have hkeyed := keyed_composite hs.keyed
  have hkeyed' := keyed_composite (hs.step h).keyed
  cases hs.logStep h with
  | quiet hmessages hlogs => exact .of_quiet hmessages hlogs
  | created message log hid hmessages hlogs href hfrom => exact .of_created hkeyed' hmessages hlogs hfrom
  | written before old after new log status next hmessages hmessages' hcomposite hlogs href hfrom hto htruth =>
    obtain ⟨rfl, rfl⟩ : status = old.status ∧ next = new.status := htruth.resolve_right hnot
    exact .of_written hkeyed hkeyed' hmessages hmessages' hcomposite hlogs href hfrom hto

/-- A throttle verdict on a message that is `submitting` commits. -/
private theorem Snapshots.throttle_commits (hs : Snapshots world) {index : Nat} {env : Environment}
    {execution : Execution} {job : Job [.routed, .submitting]} (hexec : world.executions[index]? = some execution)
    (hstage : execution.stage = .dispatch job)
    (haction : (env.services.evaluate (fraudInput job.payload job.message)).action = .throttle)
    (hmem : job.message ∈ world.db.messages) (hfits : job.message.Storable)
    (hlater : job.message.stateChangedAt < env.clock.now) (h : world.step (.advance index env) = some world') :
    ∃ updated, Nonempty ((fraudThrottleWork env.clock job.payload job.message
      (env.services.evaluate (fraudInput job.payload job.message))).Committed env.clock world.db updated world'.db) := by
  obtain ⟨work, hwork⟩ : ∃ work, work = fraudThrottleWork env.clock job.payload job.message
    (env.services.evaluate (fraudInput job.payload job.message)) := ⟨_, rfl⟩
  obtain ⟨before, after, -, hrun⟩ :=
    @GuardedWork.run_of_mem work env.clock world.db (keyed_composite hs.keyed) (hwork ▸ hmem)
  have hw : Stage.WorkOf env (.dispatch job) work fun _ => none := by
    rw [hwork]
    exact .throttle job haction
  have hmessage : work.message = job.message := by rw [hwork]; rfl
  obtain ⟨hrow, hlog⟩ := (hw.storable_iff (by rw [hmessage]; exact hfits)).2 (decide_eq_true (.inl haction))
  obtain ⟨db', hcommits⟩ : ∃ db', (work.run env.clock).run world.db = .ok (work.assign work.message, db') :=
    ⟨_, (hrun _ _).2 ⟨rfl, hrow, hw.admitted (by rw [hmessage]; exact hlater), hlog, _, .free (hwork ▸ rfl), rfl⟩⟩
  have hadvance : (execution.stage.advance env).run world.db = .ok (none, db') := by
    rw [hstage]
    unfold Stage.advance
    dsimp only
    rw [haction]
    dsimp only
    rw [fraudThrottleTx_eq, ← hwork, Stage.exec_then_none]
    exact bind_of_ok hcommits
  have hdb : world'.db = db' := by
    obtain ⟨execution', hexec', rfl⟩ := Option.map_eq_some_iff.1 h
    rw [hexec] at hexec'
    cases hexec'
    unfold World.advance withTransaction
    rw [hadvance]
  rw [hdb, ← hwork]
  exact ⟨_, GuardedWork.run_ok hcommits⟩

/-- A throttle verdict logs `routed` for a message that is `submitting`. -/
theorem Snapshots.not_truthful (hs : Snapshots world) (hstorable : ∀ row ∈ world.db.messages, row.Storable)
    (h : world.step a = some world') (hthrottles : ThrottlesSubmitting world a) : ¬ Truthful world.db world'.db := by
  intro htruthful
  cases a with
  | advance index env =>
    obtain ⟨execution, job, hexec, hstage, haction, hsubmitting, hmem, hlater⟩ := hthrottles
    obtain ⟨updated, ⟨c⟩⟩ := hs.throttle_commits hexec hstage haction hmem (hstorable _ hmem) hlater h
    have hlogged := Db.logged_of_append c.messageLogs_eq
    obtain ⟨hbefore, -⟩ := htruthful.told _ (by rw [hlogged]; exact List.mem_singleton_self _) .routed .routed rfl rfl
    have hstatus := statusOf_of_mem (keyed_composite hs.keyed) hmem
    have href : ((fraudThrottleWork env.clock job.payload job.message
        (env.services.evaluate (fraudInput job.payload job.message))).log updated).messageRef =
        job.message.composite := job.found.symm
    rw [href, hstatus, hsubmitting] at hbefore
    cases hbefore
  | _ => exact hthrottles

/-- Exactly the throttle verdicts on messages that are `submitting` are logged untruthfully. -/
theorem Snapshots.truthful_iff (hs : Snapshots world) (hstorable : ∀ row ∈ world.db.messages, row.Storable)
    (h : world.step a = some world') : Truthful world.db world'.db ↔ ¬ ThrottlesSubmitting world a :=
  ⟨fun htruthful hthrottles => hs.not_truthful hstorable h hthrottles htruthful, hs.truthful h⟩

end Steps

end SmsPlatform
