import SmsPlatform.Pipeline.Settlement

/-!
# Versions of a webhook

A second request with the callback id of an earlier one overwrites the payload and the status of its row, but the event
of the row is deduplicated and `processWebhook` skips processed rows.  So what a provider reports last can stay without
any evaluation (`report_overwritten`).  It is evaluated when no request changes a processed row and no processor ends on
a version that has been overwritten since it was read (`reports_evaluated`).
-/

namespace SmsPlatform

open Segments StateExcept Transition

/-- What a step has evaluated: the row that a processor had read, when the processor returns. -/
def evaluations (world : World) (a : Action) (world' : World) : List DlrWebhookRow :=
  match world.correlating a with
  | some (report, _) => if world'.consumed = world.consumed then [] else [report]
  | none => []

def SameContent (row report : DlrWebhookRow) : Prop :=
  row.payload = report.payload ∧ row.normalizedStatus = report.normalizedStatus

instance (row report : DlrWebhookRow) : Decidable (SameContent row report) :=
  inferInstanceAs (Decidable (_ ∧ _))

/-- The step overwrites no processed row, and ends no processor whose row has been overwritten. -/
def Lossless (world : World) : Action → Prop
  | .acceptWebhook clock _ input => input.Storable → ∀ row ∈ world.db.dlrWebhooks, input.conflicts clock row = true →
      row.processed = true → SameContent (input.merge row) row
  | .advance index env => ∀ processor ∈ world.correlating (.advance index env), ∀ row ∈ world.db.dlrWebhooks,
      row.event = processor.1.event → SameContent row processor.1
  | _ => True

instance (world : World) : (a : Action) → Decidable (Lossless world a)
  | .acceptWebhook clock _ input => inferInstanceAs (Decidable (input.Storable → ∀ row ∈ world.db.dlrWebhooks,
      input.conflicts clock row = true → row.processed = true → SameContent (input.merge row) row))
  | .advance index env => inferInstanceAs (Decidable (∀ processor ∈ world.correlating (.advance index env),
      ∀ row ∈ world.db.dlrWebhooks, row.event = processor.1.event → SameContent row processor.1))
  | .submit _ _ => isTrue trivial
  | .deliver _ => isTrue trivial
  | .crash _ => isTrue trivial

/-! ### The event of every row -/

/-- The key of a webhook's event tells the webhook. -/
theorem dlrKey_id {printer printer' : DatePrinter} {report report' : DlrWebhookRow}
    (hkey : dlrKey printer report = dlrKey printer' report') : report.id = report'.id := by
  have hid := (joinColon_snoc_inj (l := ["dlr", printer report.receivedDate])
    (m := ["dlr", printer' report'.receivedDate]) (colon_not_mem_repr _) (colon_not_mem_repr _) (by simp) (by simp)
    hkey).1
  exact repr_injective hid

/-- Every row has its event, and no other row can take its key. -/
structure Announced (world : World) : Prop where
  keys : ∀ event ∈ world.db.outbox, ∀ printer report, event.dedupeKey = dlrKey printer report →
    ∃ row ∈ world.db.dlrWebhooks, row.id = report.id
  events : ∀ row ∈ world.db.dlrWebhooks, ∃ event ∈ world.db.outbox,
    event.topicName = .smsDlr ∧ event.payload = .dlr row.event

theorem Announced.initial (wallets : TenantId → Option WalletRow) : Announced (World.initial wallets) where
  keys := by
    intro event hevent
    cases hevent
  events := by
    intro row hrow
    cases hrow

section Announced

variable {world world' : World} {a : Action}

private theorem Announced.step_keys (h : Announced world) (hk : Known world) (hstep : world.step a = some world') :
    ∀ event ∈ world'.db.outbox, ∀ printer report, event.dedupeKey = dlrKey printer report →
      ∃ row ∈ world'.db.dlrWebhooks, row.id = report.id := by
  have hstepped := World.step_cases (keyed_composite hk.snapshots.keyed) hstep
  have hrows := hstepped.transacted.webhooks
  intro event hevent printer report hkey
  have hold : event ∈ world.db.outbox → ∃ row ∈ world'.db.dlrWebhooks, row.id = report.id := by
    intro hmem
    obtain ⟨row, hrow, hid⟩ := h.keys event hmem printer report hkey
    obtain ⟨row', hrow', hlater⟩ := hrows.row_later hrow
    exact ⟨row', hrow', (DlrWebhookRow.id_of_event hlater.event).trans hid⟩
  rcases (hk.snapshots.world_emits hstep).origin hevent with hmem | ⟨clock, input, hinput, heq⟩
  · exact hold hmem
  · have hkey' : input.dedupeKey = dlrKey printer report := by
      rw [heq] at hkey
      exact hkey
    cases hinput with
    | created hm hmessage => exact absurd hkey'.symm (report_key_ne (by simp) _).1
    | webhook row =>
      cases hstepped with
      | refused a => exact hold hevent
      | webhook haccept =>
        rcases acceptWebhook_events haccept hevent with hmem | ⟨row', hrow', hpayload⟩
        · exact hold hmem
        · refine ⟨row', hrow', ?_⟩
          rw [heq] at hpayload
          have hid : row.id = row'.id := congrArg DlrEventPayload.webhookId (EventPayload.dlr.inj hpayload)
          rw [← hid]
          exact dlrKey_id hkey'
    | advanced hexec hconsumed hemits =>
      rcases hemits.key with ⟨composite, kind, version, hworkflow⟩ | ⟨report', message', hstage⟩
      · exact absurd (hkey'.symm.trans hworkflow) ((report_key_ne (by simp) composite).2 kind version)
      · rcases World.step_processor hstep with ⟨hquiet | ⟨index', rfl⟩, -⟩ | ⟨report', message', -, -, ⟨c⟩⟩
        · exact absurd hquiet (World.correlating_ne_none hexec hstage)
        · exact hold hevent
        · rcases c.events hevent with hmem | ⟨printer', reason, hreason, hreconcile⟩
          · exact hold hmem
          · exact absurd (hkey.symm.trans hreconcile) (dlrKey_ne_reconcile hreason)

/-- The row that `acceptWebhook` has written has its event, a new one or the one of the row's first request. -/
private theorem acceptWebhook_announces {clock : TxClock} {printer : DatePrinter} {input : DlrWebhookInput} {db' : Db}
    (h : Announced world) (hw : Webhooks world) (hmem : ∀ event ∈ world.db.outbox, event ∈ db'.outbox)
    (haccept : (acceptWebhook clock printer input).run world.db = .ok ((), db')) :
    ∀ row ∈ db'.dlrWebhooks, ∃ event ∈ db'.outbox, event.topicName = .smsDlr ∧ event.payload = .dlr row.event := by
  intro row hrow
  have hold : ∀ old ∈ world.db.dlrWebhooks, row.event = old.event →
      ∃ event ∈ db'.outbox, event.topicName = .smsDlr ∧ event.payload = .dlr row.event := by
    intro old hold hsame
    obtain ⟨event, hevent, htopic, hpayload⟩ := h.events old hold
    exact ⟨event, hmem event hevent, htopic, by rw [hpayload, hsame]⟩
  obtain ⟨-, ⟨before, old, after, hsplit, -, rfl⟩ | ⟨-, rfl⟩⟩ := acceptWebhook_cases haccept
  · rw [Db.enqueue_dlrWebhooks] at hrow
    rcases Rows.mem_replace (r := old) hrow with rfl | hkept
    · exact hold old (by rw [hsplit]; simp) rfl
    · exact hold row (by rw [hsplit]; exact hkept) rfl
  · rw [Db.enqueue_dlrWebhooks] at hrow
    rcases List.mem_append.1 hrow with hkept | hnew
    · exact hold row hkept rfl
    · rw [List.mem_singleton.1 hnew]
      rcases Db.enqueue_outbox { world.db with
          dlrWebhooks := world.db.dlrWebhooks ++ [input.row clock world.db.nextWebhookId]
          nextWebhookId := world.db.nextWebhookId + 1 } clock
        (dlrReceivedEvent printer input (input.row clock world.db.nextWebhookId)) with
        ⟨⟨event, hevent, -, hkey⟩, -, -⟩ | ⟨-, houtbox, -⟩
      · -- the id is new, so no event has its key
        obtain ⟨other, hother, hid⟩ := h.keys event hevent printer _ hkey
        exact absurd hid (Nat.ne_of_lt (hw.fresh other hother))
      · rw [houtbox]
        exact ⟨_, List.mem_append_right _ (List.mem_singleton_self _), rfl, rfl⟩

theorem Announced.step (h : Announced world) (hk : Known world) (hstep : world.step a = some world') :
    Announced world' := by
  refine ⟨h.step_keys hk hstep, ?_⟩
  have hemits := hk.snapshots.world_emits hstep
  have hstepped := World.step_cases (keyed_composite hk.snapshots.keyed) hstep
  have hrows := hstepped.transacted.webhooks
  have hold : ∀ old ∈ world.db.dlrWebhooks, ∀ row : DlrWebhookRow, row.event = old.event →
      ∃ event ∈ world'.db.outbox, event.topicName = .smsDlr ∧ event.payload = .dlr row.event := by
    intro old hold row hsame
    obtain ⟨event, hevent, htopic, hpayload⟩ := h.events old hold
    exact ⟨event, hemits.mem_of_mem hevent, htopic, by rw [hpayload, hsame]⟩
  intro row hrow
  cases hrows.origin hrow with
  | kept hkept => exact hold row hkept row rfl
  | marked old hkept hexec hstage hmark hkey => exact hold old hkept _ (hmark.same old).event
  | merged old hkept hconflicts => exact hold old hkept _ rfl
  | inserted =>
    cases hstepped with
    | refused a => exact h.events _ hrow
    | webhook haccept =>
      exact acceptWebhook_announces h hk.webhooks (fun _ hevent => hemits.mem_of_mem hevent) haccept _ hrow

theorem announced_of_reaches {wallets : TenantId → Option WalletRow}
    (h : Reaches World.step (World.initial wallets) world) : Announced world :=
  h.invariant_of (fun _ hrun => known_of_reaches hrun) (Announced.initial wallets)
    fun _ _ _ hk _ hannounced _ hstep => hannounced.step hk hstep

end Announced

/-! ### The versions that were evaluated -/

/-- Of a processed row, a version has been evaluated, and every evaluated version is the one that is stored. -/
structure Versions (world : World) (record : List DlrWebhookRow) : Prop where
  named : ∀ report ∈ record, ∃ row ∈ world.db.dlrWebhooks, row.event = report.event
  evaluated : ∀ row ∈ world.db.dlrWebhooks, row.processed = true → ∃ report ∈ record, report.event = row.event
  same : ∀ report ∈ record, ∀ row ∈ world.db.dlrWebhooks, row.event = report.event →
    row.processed = true ∧ SameContent row report

section Versions

variable {world world' : World} {a : Action} {record : List DlrWebhookRow}

theorem Versions.initial (wallets : TenantId → Option WalletRow) : Versions (World.initial wallets) [] := by
  refine ⟨?_, ?_, ?_⟩
  · intro report hreport
    cases hreport
  · intro row hrow
    cases hrow
  · intro report hreport
    cases hreport

theorem evaluations_cases (hstep : world.step a = some world') :
    (evaluations world a world' = [] ∧ QuietStep world a world') ∨
      ∃ report message, world.correlating a = some (report, message) ∧ evaluations world a world' = [report] ∧
        Nonempty (Completes world world' report message) := by
  unfold evaluations
  rcases World.step_processor hstep with ⟨hquiet, hnone | hsame⟩ | ⟨report, message, hc, hne, hcompletes⟩
  · rw [hnone]
    exact .inl ⟨rfl, hquiet⟩
  · left
    refine ⟨?_, hquiet⟩
    split
    · exact if_pos hsame
    · rfl
  · rw [hc]
    exact .inr ⟨report, message, rfl, if_neg hne, hcompletes⟩

theorem SameContent.trans {row row' row'' : DlrWebhookRow} (h : SameContent row row') (h' : SameContent row' row'') :
    SameContent row row'' :=
  ⟨h.1.trans h'.1, h.2.trans h'.2⟩

/-- What a row was is what it is now, in a step that loses nothing and completes no processor. -/
theorem Versions.quiet (h : Versions world record) (hk : Known world) (hok : Lossless world a)
    (hstep : world.step a = some world') (hquiet : QuietStep world a world') : Versions world' record := by
  rcases hquiet with hnone | ⟨index, rfl⟩
  · have hrows := (World.step_cases (keyed_composite hk.snapshots.keyed) hstep).transacted.webhooks
    have hnamed : ∀ report ∈ record, ∃ row ∈ world'.db.dlrWebhooks, row.event = report.event := by
      intro report hreport
      obtain ⟨row, hrow, hsame⟩ := h.named report hreport
      obtain ⟨row', hrow', hlater⟩ := hrows.row_later hrow
      exact ⟨row', hrow', hlater.event.trans hsame⟩
    refine ⟨hnamed, ?_, ?_⟩
    · intro row hrow hprocessed
      cases hrows.origin hrow with
      | kept hold => exact h.evaluated row hold hprocessed
      | inserted => cases hprocessed
      | merged old hold hconflicts => exact h.evaluated old hold hprocessed
      | marked old hold hexec hstage hmark hkey => exact absurd hnone (World.correlating_ne_none hexec hstage)
    · intro report hreport row hrow hevent
      cases hrows.origin hrow with
      | kept hold => exact h.same report hreport row hold hevent
      | inserted =>
        -- no report has the id of a new row
        obtain ⟨old, hold, hsame⟩ := h.named report hreport
        have hid := DlrWebhookRow.id_of_event (hsame.trans hevent.symm)
        exact absurd hid (Nat.ne_of_lt (hk.webhooks.fresh old hold))
      | merged old hold hconflicts hfits =>
        obtain ⟨hprocessed, hsame⟩ := h.same report hreport old hold hevent
        exact ⟨hprocessed, (hok hfits old hold hconflicts hprocessed).trans hsame⟩
      | marked old hold hexec hstage hmark hkey => exact absurd hnone (World.correlating_ne_none hexec hstage)
  · exact ⟨h.named, h.evaluated, h.same⟩

theorem Versions.completed (h : Versions world record) (hk : Known world) {report : DlrWebhookRow}
    {message : Option MessageRow} (hsame : ∀ row ∈ world.db.dlrWebhooks, row.event = report.event →
      SameContent row report) (c : Completes world world' report message) :
    Versions world' (record ++ [report]) := by
  obtain ⟨mark, hmark, hrows⟩ := c.processed.marks
  obtain ⟨row₀, hrow₀, hevent₀⟩ := c.row hk.webhooks
  have hkey : ∀ row ∈ world.db.dlrWebhooks, row.event = report.event ↔
      row.receivedDate = report.receivedDate ∧ row.id = report.id := by
    intro row hrow
    constructor
    · intro hevent
      exact ⟨congrArg DlrEventPayload.receivedDate hevent, DlrWebhookRow.id_of_event hevent⟩
    · rintro ⟨-, hid⟩
      rw [hk.webhooks.unique hrow hrow₀ (hid.trans (DlrWebhookRow.id_of_event hevent₀).symm)]
      exact hevent₀
  refine ⟨?_, ?_, ?_⟩
  · intro report' hreport'
    have hbefore : ∃ row ∈ world.db.dlrWebhooks, row.event = report'.event := by
      rcases List.mem_append.1 hreport' with hold | hnew
      · exact h.named report' hold
      · rw [List.mem_singleton.1 hnew]
        exact ⟨row₀, hrow₀, hevent₀⟩
    obtain ⟨row, hrow, hevent⟩ := hbefore
    refine ⟨markKey report mark row, ?_, (markKey_later hmark row).event.trans hevent⟩
    rw [hrows]
    exact List.mem_map_of_mem hrow
  · intro row hrow hprocessed
    rw [hrows] at hrow
    obtain ⟨old, hold, rfl⟩ := List.mem_map.1 hrow
    rw [(markKey_later hmark old).event]
    by_cases hevent : old.event = report.event
    · exact ⟨report, List.mem_append_right _ (List.mem_singleton_self _), hevent.symm⟩
    · have hkept : markKey report mark old = old := if_neg fun hk => hevent ((hkey old hold).2 hk)
      rw [hkept] at hprocessed
      obtain ⟨report', hreport', hfacts⟩ := h.evaluated old hold hprocessed
      exact ⟨report', List.mem_append_left _ hreport', hfacts⟩
  · intro report' hreport' row hrow hevent
    rw [hrows] at hrow
    obtain ⟨old, hold, rfl⟩ := List.mem_map.1 hrow
    rw [(markKey_later hmark old).event] at hevent
    have hkept : SameContent (markKey report mark old) old := by
      unfold markKey
      split
      · exact ⟨(hmark.same old).payload, (hmark.same old).normalizedStatus⟩
      · exact ⟨rfl, rfl⟩
    rcases List.mem_append.1 hreport' with hrecorded | hnew
    · obtain ⟨hprocessed, hcontent⟩ := h.same report' hrecorded old hold hevent
      exact ⟨(markKey_later hmark old).processed hprocessed, hkept.trans hcontent⟩
    · rw [List.mem_singleton.1 hnew] at hevent ⊢
      have hmarked : markKey report mark old = mark old := if_pos ((hkey old hold).1 hevent)
      refine ⟨?_, hkept.trans (hsame old hold hevent)⟩
      rw [hmarked]
      exact hmark.processed old

theorem Versions.step (h : Versions world record) (hk : Known world) (hok : Lossless world a)
    (hstep : world.step a = some world') : Versions world' (record ++ evaluations world a world') := by
  rcases evaluations_cases hstep with ⟨hnone, hquiet⟩ | ⟨report, message, hc, hone, ⟨c⟩⟩
  · rw [hnone, List.append_nil]
    exact h.quiet hk hok hstep hquiet
  · rw [hone]
    obtain ⟨index, env, execution, rfl, hexec, hstage⟩ := World.correlating_eq_some.1 hc
    exact h.completed hk (fun row hrow hevent => hok (report, message) hc row hrow hevent) c

end Versions

/-- In every run without a lost overwrite, when no event of a webhook is pending: of every row a version has been
evaluated, and whatever has been evaluated for it is what it stores. -/
theorem reports_evaluated {wallets : TenantId → Option WalletRow} {run : Recorded World DlrWebhookRow}
    (h : Runs (recorded World.step evaluations) (fun run a => Lossless run.state a) ⟨World.initial wallets, []⟩ run)
    (hconsumed : ∀ event ∈ run.state.db.outbox, event.topicName = .smsDlr → event.id ∈ run.state.consumed) :
    ∀ row ∈ run.state.db.dlrWebhooks, (∃ report ∈ run.record, report.event = row.event) ∧
      ∀ report ∈ run.record, report.event = row.event → SameContent row report := by
  have hreach : Reaches World.step (World.initial wallets) run.state := h.forget.reaches
  have hk := known_of_reaches hreach
  have hversions : Versions run.state run.record :=
    h.record_invariant (Q := Known) (fun world hrun => known_of_reaches hrun.reaches) (Versions.initial wallets)
      fun _ _ _ _ hknown hp hok hstep => hp.step hknown hok hstep
  intro row hrow
  refine ⟨?_, fun report hreport hevent => (hversions.same report hreport row hrow hevent.symm).2⟩
  obtain ⟨event, hevent, htopic, hpayload⟩ := (announced_of_reaches hreach).events row hrow
  -- the processor that has consumed the event has processed the row
  obtain ⟨completed, hrun⟩ : ∃ completed, Reaches (recorded World.step completions) ⟨World.initial wallets, []⟩
      ⟨run.state, completed⟩ := Runs.record hreach []
  obtain ⟨event', hevent', hid, hprocessed⟩ :=
    (settlement_of_reaches hrun).settling.consumed event.id (hconsumed event hevent htopic)
  rw [hk.events.row_unique hevent' hevent hid] at hprocessed
  obtain ⟨row', hrow', hpayload', hmarked⟩ := hprocessed htopic
  have hsame : row'.event = row.event := EventPayload.dlr.inj (hpayload'.symm.trans hpayload)
  rw [hk.webhooks.unique hrow' hrow (DlrWebhookRow.id_of_event hsame)] at hmarked
  exact hversions.evaluated row hrow hmarked

/-- A request under one callback id; the provider sends it with the status `queued` first and `delivered` later. -/
def Sample.statusObject (status : String) : JsonObject :=
  [("messageId", .string "p"), ("callbackId", .string "callback"), ("status", .string status)]

def Sample.statusReport (status : String) : DlrWebhookInput :=
  ⟨1, none, some "p", some "callback", Sample.statusObject status, normalizeStatus (Sample.statusObject status)⟩

example (status : String) : (⟨1, Sample.statusObject status, none⟩ : DlrRequest).input Sample.readings =
    some (Sample.statusReport status) := rfl

/-- Both requests arrive before the row is processed. -/
def Sample.mergedReports : List Action :=
  let accept (time : Timestamp) (status : String) :=
    Action.acceptWebhook (Sample.clock time) (fun date => date.text) (Sample.statusReport status)
  let advance (time : Timestamp) :=
    Action.advance 0 (Sample.env time (Sample.services .allow 3 (Sample.accepts "p")))
  [accept 1 "queued", accept 2 "delivered", .deliver 0, advance 3, advance 4]

/-- The second request arrives after the row is processed. -/
def Sample.lateReport : List Action :=
  let accept (time : Timestamp) (status : String) :=
    Action.acceptWebhook (Sample.clock time) (fun date => date.text) (Sample.statusReport status)
  let advance (time : Timestamp) :=
    Action.advance 0 (Sample.env time (Sample.services .allow 3 (Sample.accepts "p")))
  [accept 1 "queued", .deliver 0, advance 2, advance 3, accept 4 "delivered"]

theorem reports_evaluated_merged : ∃ run,
    Runs (recorded World.step evaluations) (fun run a => Lossless run.state a)
      ⟨World.initial (Sample.wallets 100), []⟩ run ∧
    ∃ row ∈ run.state.db.dlrWebhooks, row.normalizedStatus = some .delivered ∧
      ∃ report ∈ run.record, report.event = row.event ∧ report.normalizedStatus = some .delivered := by
  have h : (execute (guarded (recorded World.step evaluations) fun run a => decide (Lossless run.state a))
      ⟨World.initial (Sample.wallets 100), []⟩ Sample.mergedReports).any (fun run =>
        (run.state.db.outbox.all fun event =>
          decide (event.topicName = .smsDlr → event.id ∈ run.state.consumed)) &&
        run.state.db.dlrWebhooks.any fun row => decide (row.normalizedStatus = some .delivered)) = true := by
    decide +kernel
  obtain ⟨run, hrun, hfacts⟩ := (Option.any_eq_true _ _).1 h
  rw [Bool.and_eq_true, List.all_eq_true, List.any_eq_true] at hfacts
  obtain ⟨hconsumed, row, hrow, hstatus⟩ := hfacts
  have hruns := (runs_of_execute hrun).mono fun run a hok => of_decide_eq_true hok
  have hstatus : row.normalizedStatus = some .delivered := of_decide_eq_true hstatus
  obtain ⟨⟨report, hreport, hevent⟩, hsame⟩ := reports_evaluated hruns
    (fun event hevent => of_decide_eq_true (hconsumed event hevent)) row hrow
  exact ⟨run, hruns, row, hrow, hstatus, report, hreport, hevent,
    (hsame report hreport hevent).2.symm.trans hstatus⟩

/-- The delivery that the provider reports last stays without any evaluation, with no event left that could bring it. -/
theorem report_overwritten : ∃ run,
    Reaches (recorded World.step evaluations) ⟨World.initial (Sample.wallets 100), []⟩ run ∧
    (∀ event ∈ run.state.db.outbox, event.topicName = .smsDlr → event.id ∈ run.state.consumed) ∧
    ∃ row ∈ run.state.db.dlrWebhooks, row.normalizedStatus = some .delivered ∧
      ∀ report ∈ run.record, report.event = row.event →
        report.normalizedStatus ≠ some .delivered ∧ report.payload ≠ row.payload := by
  have h : (execute (recorded World.step evaluations) ⟨World.initial (Sample.wallets 100), []⟩
      Sample.lateReport).any (fun run =>
        (run.state.db.outbox.all fun event =>
          decide (event.topicName = .smsDlr → event.id ∈ run.state.consumed)) &&
        run.state.db.dlrWebhooks.any fun row => decide (row.normalizedStatus = some .delivered ∧
          ∀ report ∈ run.record, report.event = row.event →
            report.normalizedStatus ≠ some .delivered ∧ report.payload ≠ row.payload)) = true := by
    decide +kernel
  obtain ⟨run, hrun, hfacts⟩ := (Option.any_eq_true _ _).1 h
  rw [Bool.and_eq_true, List.all_eq_true, List.any_eq_true] at hfacts
  obtain ⟨hconsumed, row, hrow, hstatus⟩ := hfacts
  exact ⟨run, reaches_of_execute hrun, fun event hevent => of_decide_eq_true (hconsumed event hevent), row, hrow,
    of_decide_eq_true hstatus⟩

end SmsPlatform
