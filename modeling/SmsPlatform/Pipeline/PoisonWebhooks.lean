import SmsPlatform.Dlr.Payload
import SmsPlatform.Pipeline.ReportOrder
import SmsPlatform.Pipeline.Reports

/-!
# Poison webhooks

A consumer that throws is given the same event again, so a webhook whose processing throws for its payload blocks the
topic.  `Inbox` is the platform behind the endpoint for providers: every webhook row comes from a request with a JSON
object (`DlrRequest`).  Processing a stored row ends well unless the lookup by extracted fields is needed and PostgreSQL
does not read one of them (`processes_iff_castable`): whatever the transaction that follows has to write, a sound
database lets it.  The event is taken to carry the date of its row, as it does in a process whose local time is not ahead
of UTC (`dateSurvives_iff`).
-/

namespace SmsPlatform

open StateExcept Transition

/-! ### The platform behind its endpoint -/

inductive InboxAction
  | accept (clock : TxClock) (printer : DatePrinter) (request : DlrRequest)
  | platform (action : Action)

namespace Inbox

/-- A request whose tenant id PostgreSQL does not read is refused.  A processor whose lookup throws ends as by a
crash. -/
def step (readings : DlrReadings) (world : World) : InboxAction → Option World
  | .accept clock printer request =>
    match request.input readings with
    | none => some world
    | some input => world.step (.acceptWebhook clock printer input)
  | .platform (.acceptWebhook _ _ _) => none
  | .platform action => world.step action

/-- The event of the row is processed without an error, and the row is processed. -/
def Processes (env : Environment) (db : Db) (row : DlrWebhookRow) : Prop :=
  (runProcessWebhook env db row.event).1 = .ok () ∧
    ((runProcessWebhook env db row.event).2.findWebhook row.event).any (·.processed) = true

/-- A row's lookup by extracted fields is possible, or it is not needed. -/
def Correlates (readings : DlrReadings) (db : Db) (row : DlrWebhookRow) : Prop :=
  CastsMatter db (row.correlationInput readings row.providerId) (extractFields readings row.payload) →
    (extractFields readings row.payload).Castable readings

instance (readings : DlrReadings) (db : Db) (row : DlrWebhookRow) : Decidable (Correlates readings db row) :=
  inferInstanceAs (Decidable (_ → _))

variable {readings : DlrReadings} {wallets : TenantId → Option WalletRow} {world world' : World}

/-- A step behind the endpoint is a step of the platform, or nothing. -/
theorem step_world {action : InboxAction} (h : step readings world action = some world') :
    world' = world ∨ ∃ action, world.step action = some world' := by
  cases action with
  | accept clock printer request =>
    simp only [step] at h
    split at h
    · exact .inl (Option.some.inj h).symm
    · exact .inr ⟨_, h⟩
  | platform action =>
    cases action with
    | acceptWebhook clock printer input => cases h
    | _ =>
      simp only [step] at h
      exact .inr ⟨_, h⟩

theorem world_reaches (h : Reaches (step readings) (World.initial wallets) world) :
    Reaches World.step (World.initial wallets) world := by
  refine h.invariant (P := fun world => Reaches World.step (World.initial wallets) world) .refl ?_
  intro world action world' ih _ hstep
  rcases step_world hstep with rfl | ⟨action, hworld⟩
  · exact ih
  · exact .tail action ih trivial hworld

end Inbox

/-! ### The transaction after the correlation -/

section Commits

variable {wallets : TenantId → Option WalletRow} {db db' : Db} {env : Environment} {report : DlrWebhookRow}

theorem GuardedWork.exec_of_run {work : GuardedWork} {clock : TxClock} {updated : MessageRow}
    (h : (work.run clock).run db = .ok (updated, db')) : (work.exec clock).run db = .ok ((), db') := by
  unfold GuardedWork.exec
  rw [bind_of_ok h]
  rfl

/-- In a sound database the transaction of a webhook commits, whatever its row says and the correlation has found. -/
theorem Sound.correlated_commits (hs : Sound wallets db)
    (hopening : ∀ tenantId opening, wallets tenantId = some opening → 0 ≤ opening.reservedBalanceMinor)
    {message : Option MessageRow}
    (hm : ∀ row, message = some row → row ∈ db.messages ∧ row.stateChangedAt < env.clock.now) :
    ∃ db', (processCorrelatedTx env.readings env.clock env.printer report message).run db = .ok ((), db') := by
  cases message with
  | none => exact ⟨_, rfl⟩
  | some message =>
    obtain ⟨hmem, hnow⟩ := hm message rfl
    unfold processCorrelatedTx
    dsimp only
    split
    · exact ⟨_, rfl⟩
    · exact ⟨_, rfl⟩
    · split
      · exact ⟨_, rfl⟩
      · split
        · exact ⟨_, rfl⟩
        · rename_i hstatus
          have haccepted : message.status = .providerAccepted := by simpa using hstatus
          obtain ⟨db', hrun⟩ := @Sound.commits _ _ hs hopening env _ _ _ (.delivered report message haccepted) rfl hmem
            hnow
          rw [dlrDeliveredTx_eq _ _ _ haccepted]
          exact ⟨db', GuardedWork.exec_of_run hrun⟩
    · split
      · exact ⟨_, rfl⟩
      · split
        · exact ⟨_, rfl⟩
        · rename_i hstatus
          have hopen : message.status = .providerAccepted ∨ message.status = .submitting := by
            by_contra hne
            exact hstatus (by simpa [not_or] using hne)
          obtain ⟨db', hrun⟩ := @Sound.commits _ _ hs hopening env _ _ _ (.dlrFailed report message hopen) rfl hmem hnow
          rw [dlrFailedTx_eq _ _ _ _ hopen]
          exact ⟨db', GuardedWork.exec_of_run hrun⟩

/-- The transaction that has been committed marks the webhook. -/
theorem correlated_marks (hk : Rows.Keyed MessageRow.composite db.messages) {message : Option MessageRow}
    (h : (processCorrelatedTx env.readings env.clock env.printer report message).run db = .ok ((), db')) :
    ∃ mark, Marking mark ∧ db'.dlrWebhooks = db.dlrWebhooks.map (markKey report mark) := by
  have hadvance : ((Stage.correlated report message).advance env).run db = .ok (none, db') := by
    show ((processCorrelatedTx env.readings env.clock env.printer report message) >>= fun _ => pure none).run db = _
    rw [bind_of_ok h]
    rfl
  have hadvanced := Stage.advance_ok hk hadvance
  generalize hstage : Stage.correlated report message = stage at hadvanced
  generalize (none : Option Stage) = next at hadvanced
  cases hadvanced with
  | work hw c =>
    obtain ⟨-, ⟨report', message', hfollow, hrows⟩ | ⟨hnone, -⟩⟩ := c.webhooks
    · have hsame := hw.marks_report hfollow
      rw [← hstage] at hsame
      cases hsame
      exact ⟨_, .applied message', hrows⟩
    · subst hstage
      cases hw with
      | delivered => exact absurd rfl (hnone _ _)
      | dlrFailed => exact absurd rfl (hnone _ _)
  | event hevent =>
    subst hstage
    cases hevent
  | read hread =>
    subst hstage
    cases hread
  | side hside =>
    subst hstage
    cases hside with
    | reconcile report message reason extra =>
      refine ⟨_, .reason reason, ?_⟩
      show (db.enqueue _ _).dlrWebhooks.map _ = _
      rw [Db.enqueue_dlrWebhooks]
      rfl
    | duplicate report message reason => exact ⟨_, .reason reason, rfl⟩

theorem findWebhook_marked {mark : DlrWebhookRow → DlrWebhookRow} (hmark : Marking mark)
    (hrows : db'.dlrWebhooks = db.dlrWebhooks.map (markKey report mark)) {event : DlrEventPayload}
    (hfound : db.findWebhook event = some report) : db'.findWebhook event = some (mark report) := by
  have hkept : ∀ row, (markKey report mark row).event = row.event := fun row => (markKey_later hmark row).event
  have hmarked : markKey report mark report = mark report := if_pos ⟨rfl, rfl⟩
  have hsame : ∀ row, (decide ((markKey report mark row).receivedDate = event.receivedDate ∧
      (markKey report mark row).id = event.webhookId ∧ (markKey report mark row).providerId = event.providerId)) =
      decide (row.receivedDate = event.receivedDate ∧ row.id = event.webhookId ∧
        row.providerId = event.providerId) := by
    intro row
    have hevent := hkept row
    unfold DlrWebhookRow.event at hevent
    injection hevent with hdate hid hprovider
    rw [hdate, hid, hprovider]
  unfold Db.findWebhook at hfound ⊢
  rw [hrows, List.find?_map]
  have hcomp : (fun row : DlrWebhookRow => decide (row.receivedDate = event.receivedDate ∧ row.id = event.webhookId ∧
      row.providerId = event.providerId)) ∘ markKey report mark = fun row => decide (row.receivedDate =
        event.receivedDate ∧ row.id = event.webhookId ∧ row.providerId = event.providerId) := funext hsame
  rw [hcomp, hfound, Option.map_some, hmarked]

end Commits

/-! ### Which webhooks are processed -/

namespace Inbox

variable {readings : DlrReadings} {wallets : TenantId → Option WalletRow} {world : World} {env : Environment}
  {row : DlrWebhookRow}

theorem processes_of_correlates {db : Db} (hs : Sound wallets db)
    (hopening : ∀ tenantId opening, wallets tenantId = some opening → 0 ≤ opening.reservedBalanceMinor)
    (hfound : db.findWebhook row.event = some row) (hopen : row.processed = false)
    (hlater : ∀ message ∈ db.messages, message.stateChangedAt < env.clock.now)
    (h : Correlates env.readings db row) : Processes env db row := by
  have hcorrelated : row.correlate env.readings db env.clock env.tie row.event.providerId =
      .ok (correlateMessageForDlr db env.clock env.tie (row.correlationInput env.readings row.providerId)) :=
    correlateExtracted_of_castable rfl h
  have hm : ∀ message, correlateMessageForDlr db env.clock env.tie (row.correlationInput env.readings row.providerId) =
      some message → message ∈ db.messages ∧ message.stateChangedAt < env.clock.now := by
    intro message hmessage
    have hmem := (correlateMessageForDlr_mem hmessage).1
    exact ⟨hmem, hlater message hmem⟩
  obtain ⟨db', hrun⟩ := @Sound.correlated_commits _ _ env row hs hopening _ hm
  obtain ⟨mark, hmark, hrows⟩ := correlated_marks (keyed_composite hs.keyed) hrun
  have hprocess : runProcessWebhook env db row.event = (.ok (), db') := by
    rw [runProcessWebhook_open hfound hopen, hcorrelated]
    dsimp only
    unfold withTransaction Stage.advance
    rw [bind_of_ok hrun]
    rfl
  unfold Processes
  rw [hprocess, findWebhook_marked hmark hrows hfound]
  exact ⟨rfl, hmark.processed row⟩

theorem not_processes_of_error {db : Db} (hfound : db.findWebhook row.event = some row)
    (hopen : row.processed = false) (h : ¬ Correlates env.readings db row) : ¬ Processes env db row := by
  obtain ⟨hmatter, hcast⟩ := Classical.not_imp.1 h
  obtain ⟨failure, hfailure⟩ : ∃ failure, row.correlate env.readings db env.clock env.tie row.event.providerId =
      .error failure := correlateExtracted_error hmatter hcast
  have hprocess : runProcessWebhook env db row.event = (.error failure, db) := by
    rw [runProcessWebhook_open hfound hopen, hfailure]
  rintro ⟨hok, -⟩
  rw [hprocess] at hok
  cases hok

theorem findWebhook_event (h : Reaches (step readings) (World.initial wallets) world)
    (hrow : row ∈ world.db.dlrWebhooks) : world.db.findWebhook row.event = some row := by
  obtain ⟨found, hfound⟩ := Option.isSome_iff_exists.1 (Db.findWebhook_isSome hrow)
  obtain ⟨hmem, hevent⟩ := Db.findWebhook_some hfound
  rw [hfound, (webhooks_of_reaches (world_reaches h)).unique hmem hrow (DlrWebhookRow.id_of_event hevent)]

/-- Over all runs, a webhook row is processed, when nothing else is at work on the messages, if and only if it has been
processed before or its lookup by extracted fields is possible or not needed. -/
theorem processes_iff_castable
    (hopening : ∀ tenantId opening, wallets tenantId = some opening → 0 ≤ opening.reservedBalanceMinor)
    (hrun : Reaches (step readings) (World.initial wallets) world) (hrow : row ∈ world.db.dlrWebhooks)
    (hlater : ∀ message ∈ world.db.messages, message.stateChangedAt < env.clock.now) :
    Processes env world.db row ↔ row.processed = true ∨ Correlates env.readings world.db row := by
  have hfound := findWebhook_event hrun hrow
  by_cases hprocessed : row.processed = true
  · refine ⟨fun _ => .inl hprocessed, fun _ => ?_⟩
    have hprocess : runProcessWebhook env world.db row.event = (.ok (), world.db) := by
      unfold runProcessWebhook
      rw [hfound]
      dsimp only
      rw [if_pos hprocessed]
    unfold Processes
    rw [hprocess, hfound]
    exact ⟨rfl, hprocessed⟩
  · have hopen : row.processed = false := by simpa using hprocessed
    constructor
    · intro hprocesses
      exact .inr (by_contra fun hnot => not_processes_of_error hfound hopen hnot hprocesses)
    · rintro (hdone | hcorrelates)
      · exact absurd hdone hprocessed
      · exact processes_of_correlates (sound_of_reaches (world_reaches hrun)) hopening hfound hopen hlater hcorrelates

end Inbox

/-! ### Two reports without a message id -/

namespace Sample

/-- A message, and a webhook. -/
def received (payload : JsonObject) : List InboxAction :=
  [.platform (.submit (clock 1) submission), .accept (clock 2) (fun date => date.text) ⟨1, payload, none⟩]

def reportObject : JsonObject :=
  [("phoneNumber", .string "251911000000"), ("status", .string "delivered"),
    ("eventAt", .string "2026-01-01T00:00:00Z"), ("campaignId", .string "12")]

def poisonObject : JsonObject :=
  [("phoneNumber", .string "251911000000"), ("status", .string "delivered"), ("campaignId", .number (3 / 2))]

end Sample

namespace Inbox

theorem processes_iff_castable_report : ∃ (world : World) (row : DlrWebhookRow) (env : Environment),
    Reaches (step Sample.readings) (World.initial (Sample.wallets 100)) world ∧
      row ∈ world.db.dlrWebhooks ∧ row.payload = Sample.reportObject ∧ row.processed = false ∧
      Processes env world.db row := by
  have hrun : (execute (step Sample.readings) (World.initial (Sample.wallets 100))
      (Sample.received Sample.reportObject)).any (fun world => decide ((∃ row ∈ world.db.dlrWebhooks,
        row.payload = Sample.reportObject ∧ row.processed = false ∧ Correlates Sample.readings world.db row) ∧
          ∀ message ∈ world.db.messages, message.stateChangedAt < 3)) = true := by
    decide +kernel
  obtain ⟨world, hexecute, hworld⟩ := (Option.any_eq_true _ _).1 hrun
  obtain ⟨⟨row, hrow, hpayload, hopen, hcorrelates⟩, hlater⟩ := of_decide_eq_true hworld
  have hreaches := reaches_of_execute hexecute
  refine ⟨world, row, Sample.env 3 (Sample.services .allow 3 (Sample.accepts "p")), hreaches, hrow, hpayload, hopen, ?_⟩
  exact (processes_iff_castable (Sample.wallets_reserved 100) hreaches hrow hlater).2 (.inr hcorrelates)

/-- A report for a campaign `1.5`. -/
theorem poison_webhook : ∃ (world : World) (row : DlrWebhookRow) (env : Environment),
    Reaches (step Sample.readings) (World.initial (Sample.wallets 100)) world ∧
      row ∈ world.db.dlrWebhooks ∧ row.payload = Sample.poisonObject ∧
      (∀ message ∈ world.db.messages, message.stateChangedAt < env.clock.now) ∧
      ¬ Processes env world.db row := by
  have hrun : (execute (step Sample.readings) (World.initial (Sample.wallets 100))
      (Sample.received Sample.poisonObject)).any (fun world => decide ((∃ row ∈ world.db.dlrWebhooks,
        row.payload = Sample.poisonObject ∧ row.processed = false ∧ ¬ Correlates Sample.readings world.db row) ∧
          ∀ message ∈ world.db.messages, message.stateChangedAt < 3)) = true := by
    decide +kernel
  obtain ⟨world, hexecute, hworld⟩ := (Option.any_eq_true _ _).1 hrun
  obtain ⟨⟨row, hrow, hpayload, hopen, hcorrelates⟩, hlater⟩ := of_decide_eq_true hworld
  have hreaches := reaches_of_execute hexecute
  exact ⟨world, row, Sample.env 3 (Sample.services .allow 3 (Sample.accepts "p")), hreaches, hrow, hpayload, hlater,
    not_processes_of_error (findWebhook_event hreaches hrow) hopen hcorrelates⟩

end Inbox

end SmsPlatform
