import SmsPlatform.Pipeline.Routes

/-!
# Approved senders

A submission checks that its sender is approved at the provider of the previewed route.  `handleAccepted` and a retry
choose again and do not check.  Where their choices happen to be approved too, every submit carries a sender that was
approved at its provider when the route was chosen (`senders_approved`): the provider of a dispatch event is the one of
a choice, and the sender of an event is the one of its message.
-/

namespace SmsPlatform

open Transition

/-! ### The choices that are not checked -/

/-- Every route that the step chooses leads to a provider at which the sender is approved at that time. -/
def World.choosesApproved (world : World) (a : PlatformAction) : Bool :=
  match a.action with
  | some (.advance index env) =>
    (world.executions[index]?).all fun execution => (execution.stage.selects env world.db).all fun selection =>
      decide (Approved a.senderIds selection.message.tenantId selection.senderName selection.route.providerId)
  | _ => true

/-- A route to the provider has been chosen for the message while the sender was approved. -/
def Chosen (record : List RouteEntry) (ref : MessageCompositeId) (senderName : String) (providerId : Nat) : Prop :=
  ∃ route, route.providerId = providerId ∧ .selected ref senderName route true ∈ record

theorem Chosen.mono {record entries : List RouteEntry} {ref : MessageCompositeId} {senderName : String}
    {providerId : Nat} (h : Chosen record ref senderName providerId) :
    Chosen (record ++ entries) ref senderName providerId := by
  obtain ⟨route, hprovider, hmem⟩ := h
  exact ⟨route, hprovider, List.mem_append_left _ hmem⟩

section Choices

variable {world world' : World} {a : PlatformAction}

theorem World.choosesApproved_advance {index : Nat} {env : Environment} {execution : Execution} {selection : Selection}
    (h : world.choosesApproved a = true) (ha : a.action = some (.advance index env))
    (hexec : world.executions[index]? = some execution) (hselects : execution.stage.selects env world.db = some selection) :
    Approved a.senderIds selection.message.tenantId selection.senderName selection.route.providerId := by
  unfold World.choosesApproved at h
  rw [ha] at h
  dsimp only at h
  rw [hexec, Option.all_some, hselects, Option.all_some, decide_eq_true_eq] at h
  exact h

theorem Selection.entry_of_approved {senderIds : List SenderIdRow} {selection : Selection}
    (h : Approved senderIds selection.message.tenantId selection.senderName selection.route.providerId) :
    selection.entry senderIds =
      .selected selection.message.composite selection.senderName selection.route true := by
  unfold Selection.entry
  rw [decide_eq_true h]

/-- Every choice in the record of a step was approved: that of a submission by its own check. -/
theorem World.selected_approved (hchoice : world.choosesApproved a = true) {ref : MessageCompositeId}
    {senderName : String} {route : RouteDecision} {approved : Bool}
    (h : .selected ref senderName route approved ∈ world.sees a world') : approved = true := by
  unfold World.sees at h
  split at h
  · rename_i clock submission haction
    dsimp only at h
    split at h
    · obtain ⟨services, context, dto, hprepared⟩ := PlatformAction.prepared haction
      have happroved : Approved a.senderIds (submission.row clock world.db.nextMessageId).tenantId submission.senderId
          submission.routePreview.providerId := hprepared.approved
      rw [Selection.entry_of_approved happroved] at h
      cases List.mem_singleton.1 h
      rfl
    · cases h
  · rename_i index env haction
    split at h
    · rename_i execution hexec
      unfold Stage.sees at h
      rcases List.mem_append.1 h with h | h
      · rw [Option.mem_toList, Option.map_eq_some_iff] at h
        obtain ⟨selection, hselects, hentry⟩ := h
        rw [Selection.entry_of_approved (World.choosesApproved_advance hchoice haction hexec hselects)] at hentry
        cases hentry
        rfl
      · split at h
        · cases List.mem_singleton.1 h
        · cases h
    · cases h
  · cases h

/-- The sender of a selection is that of the event. -/
theorem Stage.selects_event {env : Environment} {db : Db} {stage : Stage} {selection : Selection}
    (h : stage.selects env db = some selection) :
    ∃ payload, stage.event = some payload ∧ stage.row = some selection.message ∧
      selection.senderName = payload.senderId := by
  unfold Stage.selects at h
  split at h
  · split at h
    · obtain ⟨route, -, rfl⟩ := Option.map_eq_some_iff.1 h
      exact ⟨_, rfl, rfl, rfl⟩
    · cases h
  · split at h
    · obtain ⟨route, -, rfl⟩ := Option.map_eq_some_iff.1 h
      exact ⟨_, rfl, rfl, rfl⟩
    · cases h
  · cases h

/-- A submit goes to the provider that the event names. -/
theorem Stage.submitsVia_event {env : Environment} {db : Db} {stage : Stage} {providerId : Nat}
    {smppConfigId : Option Nat} {payload : MessageEventPayload}
    (h : stage.submitsVia env db = some (providerId, smppConfigId)) (hevent : stage.event = some payload) :
    payload.providerId = some providerId := by
  unfold Stage.submitsVia at h
  split at h
  · cases hevent
    split at h
    · obtain ⟨provider, hprovider, hvia⟩ := Option.map_eq_some_iff.1 h
      cases hvia
      exact hprovider
    · obtain ⟨provider, hprovider, hvia⟩ := Option.map_eq_some_iff.1 h
      cases hvia
      exact hprovider
    · cases h
  · cases h

end Choices

/-! ### Rows and events -/

/-- The row names its sender, and its provider has been chosen for that sender. -/
def Vouched (record : List RouteEntry) (row : MessageRow) : Prop :=
  ∃ senderName, row.sourceAddr = some senderName ∧
    ∀ providerId, row.providerId = some providerId → Chosen record row.composite senderName providerId

/-- The event names the sender of its message, and a provider that has been chosen for it. -/
structure Carried (db : Db) (record : List RouteEntry) (payload : MessageEventPayload) : Prop where
  sender : ∃ row ∈ db.messages, row.composite = payload.toComposite ∧ row.sourceAddr = some payload.senderId
  provider : ∀ providerId, payload.providerId = some providerId →
    Chosen record payload.toComposite payload.senderId providerId

theorem Vouched.mono {record entries : List RouteEntry} {row : MessageRow} (h : Vouched record row) :
    Vouched (record ++ entries) row := by
  obtain ⟨senderName, hsender, hchosen⟩ := h
  exact ⟨senderName, hsender, fun providerId hprovider => (hchosen providerId hprovider).mono⟩

theorem Vouched.chosen {record : List RouteEntry} {row : MessageRow} (h : Vouched record row) {senderName : String}
    (hsender : row.sourceAddr = some senderName) {providerId : Nat} (hprovider : row.providerId = some providerId) :
    Chosen record row.composite senderName providerId := by
  obtain ⟨senderName', hsender', hchosen⟩ := h
  rw [hsender] at hsender'
  cases hsender'
  exact hchosen providerId hprovider

/-- The columns written once are there after a step. -/
theorem MessagesStep.content_later {db db' : Db} (h : MessagesStep db db') {row : MessageRow}
    (hrow : row ∈ db.messages) : ∃ row' ∈ db'.messages, row'.content = row.content := by
  rcases h.row_later hrow with hsame | ⟨row', hrow', hstep⟩
  · exact ⟨row, hsame, rfl⟩
  · exact ⟨row', hrow', hstep.content⟩

theorem MessageRow.sourceAddr_of_content {row row' : MessageRow} (h : row'.content = row.content) :
    row'.sourceAddr = row.sourceAddr :=
  congrArg MessageContent.sourceAddr h

theorem Carried.later {db db' : Db} {record entries : List RouteEntry} {payload : MessageEventPayload}
    (h : Carried db record payload) (hm : MessagesStep db db') : Carried db' (record ++ entries) payload where
  sender := by
    obtain ⟨row, hrow, hcomposite, hsender⟩ := h.sender
    obtain ⟨row', hrow', hcontent⟩ := hm.content_later hrow
    exact ⟨row', hrow', (MessageRow.composite_of_content hcontent).trans hcomposite,
      (MessageRow.sourceAddr_of_content hcontent).trans hsender⟩
  provider := fun providerId hprovider => (h.provider providerId hprovider).mono

/-- What an execution enqueues for the workflow keeps the message and the sender of its own event, and names the
provider of that event, of the row it has read, or of the row it has written. -/
theorem Stage.Emits.carries {env : Environment} {db db' : Db} {stage : Stage} {input : OutboxEventInput}
    {payload : MessageEventPayload} (h : Stage.Emits env db db' stage input) (hp : input.payload = .message payload) :
    ∃ event message, stage.event = some event ∧ stage.row = some message ∧
      payload.toComposite = event.toComposite ∧ payload.senderId = event.senderId ∧
      (payload.providerId = event.providerId ∨ payload.providerId = message.providerId ∨
        ∃ row ∈ db'.messages, row.content = message.content ∧ payload.providerId = row.providerId) := by
  cases h with
  | follow hw hcurrent htrigger hm hin =>
    have hcontent := (hw.rowStep rfl).content
    cases hw with
    | accepted job route hroute =>
      cases hin
      cases hp
      exact ⟨job.payload, job.message, rfl, rfl, rfl, rfl, .inr (.inr ⟨_, hm, hcontent, rfl⟩)⟩
    | throttle job haction =>
      cases hin
      cases hp
      exact ⟨job.payload, job.message, rfl, rfl, rfl, rfl, .inl rfl⟩
    | retrySubmit job retryPolicy nextRoute hpolicy hretry =>
      cases hin
      cases hp
      exact ⟨job.payload, job.message, rfl, rfl, rfl, rfl, .inr (.inr ⟨_, hm, hcontent, rfl⟩)⟩
    | unknown job =>
      cases hin
      cases hp
    | attempt job => cases hin
    | ack job haccepted => cases hin
    | failure job => cases hin
    | delivered report message hstatus => cases hin
    | dlrFailed report message hstatus => cases hin
  | event hevent hsame =>
    cases hevent with
    | retry job =>
      cases hp
      exact ⟨job.payload, job.message, rfl, rfl, rfl, rfl, .inr (.inl rfl)⟩
    | dispatched job submittingVersion execution =>
      cases hp
      exact ⟨job.payload, job.message, rfl, rfl, rfl, rfl, .inl rfl⟩
  | reconcile report message reason extra hstage => cases hp

/-! ### Along a run -/

/-- A submit carries a sender for which a route to its provider had been chosen, approved, before. -/
def RouteEntry.ByChoice (entry : RouteEntry) (before : List RouteEntry) : Prop :=
  ∀ ref senderName providerId smppConfigId, entry = .submitted ref senderName providerId smppConfigId →
    Chosen before ref senderName providerId

structure SendersApproved (world : World) (record : List RouteEntry) : Prop where
  selected : ∀ ref senderName route approved, .selected ref senderName route approved ∈ record → approved = true
  rows : ∀ row ∈ world.db.messages, Vouched record row
  held : ∀ execution ∈ world.executions, ∀ message, execution.stage.row = some message → Vouched record message
  events : ∀ event ∈ world.db.outbox, ∀ payload, event.payload = .message payload → Carried world.db record payload
  submits : Preceded RouteEntry.ByChoice record

section Step

variable {world world' : World} {a : PlatformAction} {action : Action} {record : List RouteEntry}

/-- The event an execution handles is one of the outbox. -/
theorem SendersApproved.event_carried (ev : Events world) (sa : SendersApproved world record) {execution : Execution}
    (he : execution ∈ world.executions) {payload : MessageEventPayload} (hevent : execution.stage.event = some payload) :
    Carried world.db record payload := by
  obtain ⟨row, hrow, -, -, hpayload⟩ := (ev.sourced execution he).row
  exact sa.events row hrow payload (hpayload _ (Stage.payload_of_event hevent))

/-- The row an execution holds is a state of the message of its event, and has the sender of the event. -/
theorem SendersApproved.held_sender (hs : Snapshots world) (ev : Events world) (sa : SendersApproved world record)
    {execution : Execution} (he : execution ∈ world.executions) {payload : MessageEventPayload} {message : MessageRow}
    (hevent : execution.stage.event = some payload) (hrow : execution.stage.row = some message) :
    message.composite = payload.toComposite ∧ message.sourceAddr = some payload.senderId := by
  have hcomposite := ((ev.sourced execution he).read payload message hevent hrow).2
  obtain ⟨current, hcurrent, hearlier⟩ := hs.held execution he message hrow
  obtain ⟨row, hmem, hnamed, hsender⟩ := (sa.event_carried ev he hevent).sender
  have hcontent := (messageHistory_of_earlier hearlier).content
  -- the current row of the message is the one that the event is known of
  have hsame : current = row := by
    refine (keyed_composite hs.keyed).unique hcurrent hmem ?_
    rw [MessageRow.composite_of_content hcontent, hcomposite, hnamed]
  refine ⟨hcomposite, ?_⟩
  rw [← MessageRow.sourceAddr_of_content hcontent, hsame]
  exact hsender

private theorem SendersApproved.step_rows (hs : Snapshots world) (ev : Events world) (sa : SendersApproved world record)
    (hchoice : world.choosesApproved a = true) (haction : a.action = some action) (h : world.step action = some world') :
    ∀ row ∈ world'.db.messages, Vouched (record ++ world.sees a world') row := by
  intro row hrow
  cases hs.origin h hrow with
  | kept hkept => exact (sa.rows row hkept).mono
  | created clock submission hnew =>
    rw [hnew] at hrow ⊢
    obtain ⟨services, context, dto, hprepared⟩ := PlatformAction.prepared haction
    have happroved : Approved a.senderIds (submission.row clock world.db.nextMessageId).tenantId submission.senderId
        submission.routePreview.providerId := hprepared.approved
    have hentry := World.sees_submit haction hrow
    rw [Selection.entry_of_approved happroved] at hentry
    refine ⟨submission.senderId, rfl, fun providerId hprovider => ?_⟩
    exact ⟨submission.routePreview, Option.some.inj hprovider, List.mem_append_right _ hentry⟩
  | written hexec hw hm hwritten hfits =>
    rename_i index env execution work next
    have hcontent := (hw.rowStep rfl).content
    have hcomposite := MessageRow.composite_of_content hcontent
    have haddr := MessageRow.sourceAddr_of_content hcontent
    rw [hwritten]
    rcases hw.routed hm with ⟨hprovider, -, -⟩ | ⟨selection, hselects, hmessage, hprovider, -, -⟩
    · obtain ⟨senderName, hsender, hchosen⟩ := (sa.rows work.message hm).mono
      refine ⟨senderName, haddr.trans hsender, fun providerId hnew => ?_⟩
      rw [hcomposite]
      exact hchosen providerId (hprovider.symm.trans hnew)
    · obtain ⟨payload, hevent, hrow', hsenderName⟩ := Stage.selects_event hselects
      have hsender := (sa.held_sender hs ev (List.mem_of_getElem? hexec) hevent hrow').2
      have hentry : selection.entry a.senderIds ∈ world.sees a world' := World.sees_advance haction hexec hselects
      rw [Selection.entry_of_approved (World.choosesApproved_advance hchoice haction hexec hselects)] at hentry
      rw [hmessage] at hsender hentry
      refine ⟨payload.senderId, haddr.trans hsender, fun providerId hnew => ?_⟩
      rw [hcomposite, ← hsenderName]
      exact ⟨selection.route, Option.some.inj (hprovider.symm.trans hnew), List.mem_append_right _ hentry⟩

private theorem SendersApproved.step_held (hs : Snapshots world) (sa : SendersApproved world record)
    (hrows : ∀ row ∈ world'.db.messages, Vouched (record ++ world.sees a world') row)
    (h : world.step action = some world') : ∀ execution ∈ world'.executions, ∀ message,
      execution.stage.row = some message → Vouched (record ++ world.sees a world') message := by
  have hold : ∀ execution ∈ world.executions, ∀ message, execution.stage.row = some message →
      Vouched (record ++ world.sees a world') message :=
    fun execution he message hrow => (sa.held execution he message hrow).mono
  intro execution he message hmessage
  cases (World.step_cases (keyed_composite hs.keyed) h).flight he with
  | kept he => exact hold execution he message hmessage
  | started hrow ha hdb hstart => exact hrows message (hdb ▸ hstart.row_mem hmessage)
  | continued ha hexec hadvance =>
    rcases hadvance.next_row hmessage with hsame | hread
    · exact hold _ (List.mem_of_getElem? hexec) message hsame
    · exact hrows message hread

private theorem SendersApproved.step_events (hs : Snapshots world) (ev : Events world)
    (sa : SendersApproved world record) (hrows : ∀ row ∈ world'.db.messages, Vouched (record ++ world.sees a world') row)
    (h : world.step action = some world') : ∀ event ∈ world'.db.outbox, ∀ payload, event.payload = .message payload →
      Carried world'.db (record ++ world.sees a world') payload := by
  have hmessages := (World.step_cases (keyed_composite hs.keyed) h).messages
  intro event hevent payload hp
  rcases (hs.world_emits h).origin hevent with hold | ⟨clock, input, hemits, rfl⟩
  · exact (sa.events event hold payload hp).later hmessages
  · cases hemits with
    | created hm hnew =>
      rename_i clock submission message
      cases hp
      have hsender : message.sourceAddr = some submission.senderId := by rw [hnew]; rfl
      have hprovider : message.providerId = some submission.routePreview.providerId := by rw [hnew]; rfl
      refine ⟨⟨message, hm, rfl, hsender⟩, fun providerId hnamed => ?_⟩
      exact (hrows message hm).chosen hsender (hprovider.trans hnamed)
    | webhook row => cases hp
    | advanced hexec hconsumed hstage =>
      have he := List.mem_of_getElem? hexec
      obtain ⟨own, message, hown, hrow, hcomposite, hsender, hprovider⟩ := hstage.carries hp
      have hcarried : Carried world'.db (record ++ world.sees a world') own :=
        (sa.event_carried ev he hown).later hmessages
      obtain ⟨hnamed, haddr⟩ := sa.held_sender hs ev he hown hrow
      rw [← hcomposite] at hnamed
      rw [← hsender] at haddr
      refine ⟨by rw [hcomposite, hsender]; exact hcarried.sender, fun providerId hchoice => ?_⟩
      rcases hprovider with hsame | hread | ⟨row, hm, hcontent, hwritten⟩
      · rw [hcomposite, hsender]
        exact hcarried.provider providerId (hsame.symm.trans hchoice)
      · rw [← hnamed]
        exact (sa.held _ he message hrow).mono.chosen haddr (hread.symm.trans hchoice)
      · rw [← hnamed, ← MessageRow.composite_of_content hcontent]
        exact (hrows row hm).chosen ((MessageRow.sourceAddr_of_content hcontent).trans haddr)
          (hwritten.symm.trans hchoice)

private theorem SendersApproved.step_submits (ev : Events world) (sa : SendersApproved world record) :
    Preceded RouteEntry.ByChoice (record ++ world.sees a world') := by
  refine sa.submits.append ?_
  rintro entry hmem before ref senderName providerId smppConfigId rfl
  obtain ⟨index, env, execution, payload, haction, hexec, hevent, hvia, rfl, rfl⟩ := World.submitted_mem_sees hmem
  have hcarried := sa.event_carried ev (List.mem_of_getElem? hexec) hevent
  exact (hcarried.provider providerId (Stage.submitsVia_event hvia hevent)).mono

theorem SendersApproved.step (hs : Snapshots world) (ev : Events world) (sa : SendersApproved world record)
    (hchoice : world.choosesApproved a = true) (h : world.platformStep a = some world') :
    SendersApproved world' (record ++ world.sees a world') := by
  have hselected : ∀ ref senderName route approved,
      .selected ref senderName route approved ∈ record ++ world.sees a world' → approved = true := by
    intro ref senderName route approved hmem
    rcases List.mem_append.1 hmem with hold | hnew
    · exact sa.selected ref senderName route approved hold
    · exact World.selected_approved hchoice hnew
  rcases World.platformStep_cases h with ⟨-, rfl⟩ | ⟨action, haction, hmove⟩
  · refine ⟨hselected, fun row hrow => (sa.rows row hrow).mono, ?_, ?_, sa.step_submits ev⟩
    · exact fun execution he message hrow => (sa.held execution he message hrow).mono
    · exact fun event hevent payload hp => (sa.events event hevent payload hp).later (.same rfl rfl)
  · have hrows := sa.step_rows hs ev hchoice haction hmove
    exact ⟨hselected, hrows, sa.step_held hs hrows hmove, sa.step_events hs ev hrows hmove, sa.step_submits ev⟩

end Step

/-- In every run in which the routes that acceptance and the retries choose lead to providers at which the sender is
approved, every choice was approved, and every submit comes after a choice of its provider for its sender. -/
theorem senders_approved {wallets : TenantId → Option WalletRow} {log : RouteLog}
    (h : Runs RouteLog.step (fun log a => log.state.choosesApproved a = true) (RouteLog.initial wallets) log) :
    SendersApproved log.state log.record := by
  have hknown : ∀ u, Runs World.platformStep (fun world a => world.choosesApproved a = true)
      (RouteLog.initial wallets).state u → Snapshots u ∧ Events u :=
    fun u hu => ⟨snapshots_of_reaches (reaches_of_platform hu), events_of_reaches (reaches_of_platform hu)⟩
  refine Runs.record_invariant (P := SendersApproved) h hknown ?_ ?_
  · constructor
    · intro ref senderName route approved hmem
      cases hmem
    · intro row hrow
      cases hrow
    · intro execution he
      cases he
    · intro event hevent
      cases hevent
    · exact .nil
  · intro world record a world' hknown sa hchoice hstep
    exact sa.step hknown.1 hknown.2 hchoice hstep

/-! ### Runs -/

/-- The entry is a selection of a route to the provider, for the sender of the message, while it was approved. -/
def RouteEntry.vouches (ref : MessageCompositeId) (senderName : String) (providerId : Nat) : RouteEntry → Bool
  | .selected ref' senderName' route approved =>
    decide (ref' = ref) && decide (senderName' = senderName) && decide (route.providerId = providerId) && approved
  | .submitted _ _ _ _ => false

theorem Chosen.not_of_any {record : List RouteEntry} {ref : MessageCompositeId} {senderName : String}
    {providerId : Nat} (h : record.any (RouteEntry.vouches ref senderName providerId) = false) :
    ¬ Chosen record ref senderName providerId := by
  rintro ⟨route, hprovider, hmem⟩
  rw [List.any_eq_false] at h
  have hentry := h _ hmem
  simp [RouteEntry.vouches, hprovider] at hentry

namespace Sample

/-- A message whose acceptance and first attempt go by `next`. -/
def acceptedOn (next : RouteDecision) : List PlatformAction :=
  [platform (.submit submissionServices context (dto "0911234567") (clock 1)),
    deliver 0, advance 2 next, deliver 1, advance 3 next, advance 4 next]

end Sample

/-- The retry stays with the provider at which the sender is approved. -/
theorem senders_approved_retried :
    ∃ log, execute (guarded RouteLog.step fun log a => log.state.choosesApproved a)
        (RouteLog.initial (Sample.wallets 100)) (Sample.retriedOn ⟨1, 1, some 7, .smpp, 1⟩) = some log ∧
      SendersApproved log.state log.record := by
  have h : (execute (guarded RouteLog.step fun log a => log.state.choosesApproved a)
      (RouteLog.initial (Sample.wallets 100)) (Sample.retriedOn ⟨1, 1, some 7, .smpp, 1⟩)).isSome = true := by
    decide +kernel
  obtain ⟨log, hrun⟩ := Option.isSome_iff_exists.1 h
  exact ⟨log, hrun, senders_approved (runs_of_execute hrun)⟩

/-- The sender is approved at provider 1, where the submission was previewed; acceptance routes the message to
provider 2, and it is submitted there. -/
theorem acceptance_skips_approval : ∃ log, Reaches RouteLog.step (RouteLog.initial (Sample.wallets 100)) log ∧
    ∃ ref senderName providerId smppConfigId, .submitted ref senderName providerId smppConfigId ∈ log.record ∧
      ¬ Chosen log.record ref senderName providerId := by
  have h : (execute RouteLog.step (RouteLog.initial (Sample.wallets 100))
      (Sample.acceptedOn ⟨2, 2, none, .http, 1⟩)).any (fun log =>
        decide (.submitted ⟨Sample.day, Sample.tenant, 1⟩ "ACME" 2 none ∈ log.record) &&
        !log.record.any (RouteEntry.vouches ⟨Sample.day, Sample.tenant, 1⟩ "ACME" 2)) = true := by
    decide +kernel
  obtain ⟨log, hrun, hfacts⟩ := (Option.any_eq_true _ _).1 h
  simp only [Bool.and_eq_true, Bool.not_eq_true', decide_eq_true_eq] at hfacts
  exact ⟨log, reaches_of_execute hrun, _, _, _, _, hfacts.1, Chosen.not_of_any hfacts.2⟩

end SmsPlatform
