import SmsPlatform.Pipeline.Events

/-!
# Calls of a provider

How often a message is handed to a provider, against the dispatch events enqueued for it.  The version in a dispatch
event is not compared with the row, so an event that is redelivered while its message is still `submitting` opens a
further attempt.  Without such a redelivery no event is acted on twice (`Attempts`): of two executions of one event
that have read the same row, the second meets the version conflict.
-/

namespace SmsPlatform

/-! ### Events that have been acted on -/

/-- The provider call that the next step of the execution makes. -/
def Execution.opened : Execution → Option ProviderSubmit
  | ⟨event, .provider job _⟩ => some ⟨event, job.message.composite⟩
  | _ => none

/-- The provider calls, made or about to be made. -/
def World.acted (world : World) : List ProviderSubmit :=
  world.submits ++ world.executions.filterMap Execution.opened

/-- The row is a dispatch event of this message. -/
def OutboxRow.dispatches (row : OutboxRow) (composite : MessageCompositeId) : Bool :=
  row.topicName.isDispatch && row.workflowFor composite

/-- The step delivers a dispatch event that has been acted on while the message is still `routed` or `submitting`. -/
def World.redelivers (world : World) : Action → Bool
  | .deliver event => decide (event ∈ world.acted.map (·.event)) && world.db.outbox.any fun row =>
      decide (row.id = event) && world.db.messages.any fun message =>
        row.dispatches message.composite && decide (message.status ∈ row.topicName.admits)
  | _ => false

theorem KafkaTopic.admits_of_isDispatch {topic : KafkaTopic} (h : topic.isDispatch = true) :
    topic.admits = [.routed, .submitting] := by
  revert h
  cases topic <;> decide

/-! ### Stale rows -/

section Stale

variable {world world' : World} {a : Action}

/-- A row that has been replaced does not come back. -/
theorem Snapshots.stale_step (hs : Snapshots world) (h : world.step a = some world') {snapshot current : MessageRow}
    (hcurrent : current ∈ world.db.messages) (hearlier : Optimistic.Earlier RowStep snapshot current)
    (hstale : snapshot ∉ world.db.messages) : snapshot ∉ world'.db.messages := by
  intro hback
  have hhistory := messageHistory_of_earlier hearlier
  have hcomposite := MessageRow.composite_of_content hhistory.content
  cases hs.origin h hback with
  | kept hkept => exact hstale hkept
  | created clock submission hnew =>
    have hfresh := hs.fresh current hcurrent
    have hid : current.id = snapshot.id := congrArg MessageCompositeId.id hcomposite
    have hnext : snapshot.id = world.db.nextMessageId := by rw [hnew]; rfl
    omega
  | written hexec hw hm hwritten hfits =>
    rename_i env execution work next
    have hstep := hw.rowStep rfl
    rw [← hwritten] at hstep
    have hsame : work.message.composite = current.composite := by
      rw [hcomposite]
      exact (MessageRow.composite_of_content hstep.content).symm
    have heq := (keyed_composite hs.keyed).unique hm hcurrent hsame
    have hversion := hstep.version
    rw [heq] at hversion
    have hle := hhistory.version
    omega

/-- A committed work has replaced the row it was computed from. -/
theorem Snapshots.committed_gone (hs : Snapshots world) (hs' : Snapshots world') {env : Environment}
    {execution : Execution} (he : execution ∈ world.executions) {work : GuardedWork}
    {next : MessageRow → Option Stage} (hw : Stage.WorkOf env execution.stage work next) {updated : MessageRow}
    (c : work.Committed env.clock world.db updated world'.db) : work.message ∉ world'.db.messages := by
  intro hback
  have hstep := hw.rowStep rfl
  have hupdated : updated = work.assign work.message := by rw [c.updated_eq, hs.committed_old he hw c]
  rw [← hupdated] at hstep
  have hmem : updated ∈ world'.db.messages := by
    rw [c.messages_eq]
    simp
  have heq := (keyed_composite hs'.keyed).unique hmem hback (MessageRow.composite_of_content hstep.content)
  have hversion := hstep.version
  rw [heq] at hversion
  omega

end Stale

/-! ### What a step adds to the provider calls -/

/-- The provider calls after a step: no new one, or the call of one execution, which has committed its attempt. -/
inductive ActedStep (world world' : World) : Prop
  | fewer (h : List.Subperm world'.acted world.acted)
  | opened {env : Environment} {updated : MessageRow} (execution : Execution) (job : Job [.routed, .submitting])
      (he : execution ∈ world.executions) (hstage : execution.stage = .dispatch job)
      (hcurrent : job.message ∈ world.db.messages) (hgone : job.message ∉ world'.db.messages)
      (hupdated : updated = attemptRow env.clock job.message job.message) (hm : updated ∈ world'.db.messages)
      (h : world'.acted.Perm (⟨execution.event, job.message.composite⟩ :: world.acted))

section Step

variable {world world' : World} {a : Action}

/-- The provider calls with those of one execution taken out. -/
private theorem World.acted_perm {index : Nat} {execution : Execution}
    (hexec : world.executions[index]? = some execution) :
    world.acted.Perm (world.submits ++ (execution.opened.toList ++
      (world.executions.eraseIdx index).filterMap Execution.opened)) := by
  refine (((Rows.perm_cons_eraseIdx hexec).filterMap _).append_left _).trans (.of_eq ?_)
  rw [List.filterMap_cons]
  cases execution.opened <;> rfl

private theorem World.submitsAfter_eq {execution : Execution} {env : Environment} (h : execution.opened = none) :
    world.submitsAfter execution env = world.submits := by
  unfold World.submitsAfter
  obtain ⟨event, stage⟩ := execution
  cases stage with
  | provider job submittingVersion => cases h
  | _ => rfl

private theorem Started.opened {db : Db} {row : OutboxRow} {stage : Stage} (h : Started db row stage) (event : Nat) :
    Execution.opened ⟨event, stage⟩ = none := by
  cases h <;> rfl

private theorem Stage.Advanced.opened {env : Environment} {db db' : Db} {execution : Execution}
    (h : Stage.Advanced env db execution.stage none db') : execution.opened = none := by
  obtain ⟨event, stage⟩ := execution
  cases stage with
  | provider job submittingVersion =>
    generalize hn : (none : Option Stage) = next at h
    generalize hstage : Stage.provider job submittingVersion = stage at h
    cases h with
    | work hw c => subst hstage; cases hw
    | event h => subst hstage; cases h
    | read h => cases hn
    | side h => subst hstage; cases h
  | _ => rfl

/-- Dropping an execution and calling no provider only makes the calls fewer. -/
private theorem World.acted_dropped {index : Nat} (hexecutions : world'.executions = world.executions.eraseIdx index)
    (hsubmits : world'.submits = world.submits) : List.Subperm world'.acted world.acted := by
  have hsub : List.Sublist world'.acted world.acted := by
    unfold World.acted
    rw [hexecutions, hsubmits]
    exact ((List.eraseIdx_sublist _ _).filterMap _).append_left _
  exact hsub.subperm

theorem World.Stepped.actedStep (hs : Snapshots world) (hs' : Snapshots world') (h : World.Stepped world a world') :
    ActedStep world world' := by
  cases h with
  | started hrow hstart =>
    refine .fewer (List.Perm.subperm (.of_eq ?_))
    unfold World.acted
    rw [List.filterMap_cons_none ((startHandler_some hstart).opened _)]
  | crashed hexec => exact .fewer (World.acted_dropped rfl rfl)
  | threw hexec hadvance => exact .fewer (World.acted_dropped rfl rfl)
  | finished hexec hadvance =>
    exact .fewer (World.acted_dropped rfl (World.submitsAfter_eq hadvance.opened))
  | continued hexec hadvance =>
    rename_i index env execution stage db'
    have he := List.mem_of_getElem? hexec
    generalize hn : some stage = next at hadvance
    obtain ⟨event, before⟩ := execution
    cases hadvance with
    | work hw c =>
      cases hw with
      | attempt job haction =>
        cases hn
        rename_i updated
        have hold : c.old = job.message := hs.committed_old he (.attempt job haction) c
        have hcurrent : job.message ∈ world.db.messages := by
          rw [← hold, c.messages]
          simp
        have hupdated : updated = attemptRow env.clock job.message job.message := by
          rw [c.updated_eq, hold]
          rfl
        have hm : updated ∈ db'.messages := by
          rw [c.messages_eq]
          simp
        have hgone := hs.committed_gone hs' he (.attempt job haction) c
        refine .opened ⟨event, .dispatch job⟩ job he rfl hcurrent hgone hupdated
          hm ?_
        have hopened : Execution.opened ⟨event, .provider job updated.version⟩ = some ⟨event, job.message.composite⟩ :=
          rfl
        unfold World.acted
        rw [World.submitsAfter_eq rfl, List.filterMap_cons_some hopened]
        exact List.perm_middle.trans ((World.acted_perm hexec).symm.cons _)
      | _ => cases hn
    | event h => cases hn
    | read h =>
      cases hn
      cases h with
      | provider job submittingVersion =>
        refine .fewer ?_
        have hperm : world.acted.Perm (⟨event, job.message.composite⟩ :: (world.submits ++
            (world.executions.eraseIdx index).filterMap Execution.opened)) :=
          (World.acted_perm hexec).trans List.perm_middle
        unfold World.acted World.submitsAfter
        rw [List.filterMap_cons_none rfl]
        split
        · rename_i message hsubmits
          -- the call is the one the execution was about to make
          have hmessage : message = job.message.composite := by
            simp only [Stage.submits] at hsubmits
            split at hsubmits
            · exact (Option.some.inj hsubmits).symm
            · cases hsubmits
          rw [hmessage]
          exact hperm.symm.subperm
        · exact (List.sublist_cons_self _ _).subperm.trans hperm.symm.subperm
      | webhook payload report =>
        refine .fewer ?_
        have hsub : List.Sublist (world.submits ++ (world.executions.eraseIdx index).filterMap Execution.opened)
            world.acted := ((List.eraseIdx_sublist _ _).filterMap _).append_left _
        unfold World.acted
        rw [World.submitsAfter_eq rfl, List.filterMap_cons_none rfl]
        exact hsub.subperm
    | side h => cases hn
  | _ => exact .fewer (List.Perm.refl _).subperm

end Step

/-- No step leads back to the start of `handleDispatch`. -/
theorem Stage.Advanced.next_ne_dispatch {env : Environment} {db db' : Db} {stage : Stage}
    {job : Job [.routed, .submitting]} : ¬ Stage.Advanced env db stage (some (.dispatch job)) db' := by
  intro h
  generalize hn : some (Stage.dispatch job) = next at h
  cases h with
  | work hw c => cases hw <;> cases hn
  | event h => cases hn
  | read h =>
    cases hn
    cases h
  | side h => cases hn

/-! ### The invariant -/

structure Attempts (world : World) : Prop where
  nodup : (world.acted.map (·.event)).Nodup
  submitted : ∀ submit ∈ world.acted, ∃ row ∈ world.db.outbox, row.id = submit.event ∧
    row.dispatches submit.message = true
  stale : ∀ execution ∈ world.executions, ∀ job, execution.stage = .dispatch job →
    execution.event ∈ world.acted.map (·.event) → job.message ∉ world.db.messages

theorem Attempts.initial (wallets : TenantId → Option WalletRow) : Attempts (World.initial wallets) where
  nodup := List.nodup_nil
  submitted := by
    intro submit hsubmit
    cases hsubmit
  stale := by
    intro execution he
    cases he

section Invariant

variable {world world' : World} {a : Action}

private theorem Attempts.step_nodup (att : Attempts world) (h : ActedStep world world') :
    (world'.acted.map (·.event)).Nodup := by
  cases h with
  | fewer h =>
    obtain ⟨acted, hperm, hsub⟩ := h
    exact (hperm.map _).nodup_iff.1 (att.nodup.sublist (hsub.map _))
  | opened execution job he hstage hcurrent hgone hupdated hm h =>
    -- an event acted on has stale executions only, and this one has committed
    have hfresh : execution.event ∉ world.acted.map (·.event) :=
      fun hacted => att.stale execution he job hstage hacted hcurrent
    exact (h.map _).nodup_iff.2 (List.nodup_cons.2 ⟨hfresh, att.nodup⟩)

/-- An execution of `handleDispatch` before its attempt was there before the step, or has just been started. -/
theorem World.Stepped.dispatching (h : World.Stepped world a world') {execution : Execution}
    (he : execution ∈ world'.executions) {job : Job [.routed, .submitting]} (hstage : execution.stage = .dispatch job) :
    execution ∈ world.executions ∨ ∃ row ∈ world.db.outbox, a = .deliver row.id ∧ execution.event = row.id ∧
      Started world.db row (.dispatch job) ∧ world'.db = world.db := by
  cases h.flight he with
  | kept he => exact .inl he
  | started hrow ha hdb hstart =>
    cases hstage
    exact .inr ⟨_, hrow, ha, rfl, hstart, hdb⟩
  | continued ha hexec hadvance =>
    cases hstage
    exact absurd hadvance Stage.Advanced.next_ne_dispatch

private theorem Attempts.step_submitted (hs : Snapshots world) (ev : Events world) (att : Attempts world)
    (h : world.step a = some world') (hacted : ActedStep world world') : ∀ submit ∈ world'.acted,
      ∃ row ∈ world'.db.outbox, row.id = submit.event ∧ row.dispatches submit.message = true := by
  have hbefore : ∀ submit ∈ world.acted,
      ∃ row ∈ world'.db.outbox, row.id = submit.event ∧ row.dispatches submit.message = true := by
    intro submit hsubmit
    obtain ⟨row, hrow, hid, hfor⟩ := att.submitted submit hsubmit
    exact ⟨row, (hs.world_emits h).mem_of_mem hrow, hid, hfor⟩
  intro submit hsubmit
  cases hacted with
  | fewer hfewer => exact hbefore submit (hfewer.subset hsubmit)
  | opened execution job he hstage hcurrent hgone hupdated hm hperm =>
    rcases List.mem_cons.1 (hperm.mem_iff.1 hsubmit) with rfl | hsubmit
    · obtain ⟨row, hrow, hid, hhandles, hpayload⟩ := (ev.sourced _ he).row
      rw [hstage] at hhandles hpayload
      refine ⟨row, (hs.world_emits h).mem_of_mem hrow, hid, ?_⟩
      unfold OutboxRow.dispatches
      rw [Bool.and_eq_true]
      exact ⟨hhandles, OutboxRow.workflowFor_eq_true.2
        ⟨KafkaTopic.isWorkflow_of_isDispatch hhandles, job.payload, hpayload _ rfl, job.found.symm⟩⟩
    · exact hbefore submit hsubmit

/-- Two executions of one event that have read the current row of their message have read the same row. -/
private theorem Events.same_row (hs : Snapshots world) (ev : Events world) {execution execution' : Execution}
    (he : execution ∈ world.executions) (he' : execution' ∈ world.executions) (hid : execution.event = execution'.event)
    {job job' : Job [.routed, .submitting]} (hstage : execution.stage = .dispatch job)
    (hstage' : execution'.stage = .dispatch job') (hm : job.message ∈ world.db.messages)
    (hm' : job'.message ∈ world.db.messages) : job.message = job'.message := by
  obtain ⟨row, hrow, hid₁, -, hpayload⟩ := (ev.sourced execution he).row
  obtain ⟨row', hrow', hid₂, -, hpayload'⟩ := (ev.sourced execution' he').row
  obtain rfl : row = row' := ev.row_unique hrow hrow' (by rw [hid₁, hid₂, hid])
  have hp := hpayload (.message job.payload) (by rw [hstage]; rfl)
  have hp' := hpayload' (.message job'.payload) (by rw [hstage']; rfl)
  have hsame : job.payload = job'.payload := EventPayload.message.inj (hp.symm.trans hp')
  refine (keyed_composite hs.keyed).unique hm hm' ?_
  rw [job.found, job'.found, hsame]

private theorem Attempts.step_stale (hs : Snapshots world) (ev : Events world) (att : Attempts world)
    (hok : world.redelivers a = false) (h : world.step a = some world') (hacted : ActedStep world world') :
    ∀ execution ∈ world'.executions, ∀ job, execution.stage = .dispatch job →
      execution.event ∈ world'.acted.map (·.event) → job.message ∉ world'.db.messages := by
  intro execution he job hstage hevent
  have hsubset : execution.event ∈ world.acted.map (·.event) ∨
      ∃ opened ∈ world.executions, ∃ job', opened.event = execution.event ∧
      opened.stage = .dispatch job' ∧ job'.message ∈ world.db.messages ∧ job'.message ∉ world'.db.messages := by
    cases hacted with
    | fewer hfewer =>
      obtain ⟨submit, hsubmit, hsame⟩ := List.mem_map.1 hevent
      exact .inl (List.mem_map.2 ⟨submit, hfewer.subset hsubmit, hsame⟩)
    | opened opened job' hopened hstage' hcurrent hgone hupdated hm hperm =>
      rcases List.mem_cons.1 ((hperm.map (·.event)).mem_iff.1 hevent) with hsame | hbefore
      · exact .inr ⟨opened, hopened, job', hsame.symm, hstage', hcurrent, hgone⟩
      · exact .inl hbefore
  rcases (World.step_cases (keyed_composite hs.keyed) h).dispatching he hstage with hbefore | hstarted
  · obtain ⟨current, hcurrent, hearlier⟩ := hs.held execution hbefore job.message (by rw [hstage]; rfl)
    intro hback
    have hm : job.message ∈ world.db.messages := by
      by_contra hstale
      exact hs.stale_step h hcurrent hearlier hstale hback
    rcases hsubset with hacted | ⟨opened, hopened, job', hsame, hstage', hcurrent', hgone⟩
    · exact att.stale execution hbefore job hstage hacted hm
    · rw [ev.same_row hs hbefore hopened hsame.symm hstage hstage' hm hcurrent'] at hback
      exact hgone hback
  · obtain ⟨row, hrow, rfl, hid, hstarted, hdb⟩ := hstarted
    rcases hsubset with hacted | ⟨opened, hopened, job', hsame, hstage', hcurrent', hgone⟩
    · cases hstarted with
      | dispatch job ht hp hm =>
        have hredelivers : world.redelivers (.deliver row.id) = true := by
          unfold World.redelivers
          simp only [Bool.and_eq_true, decide_eq_true_eq, List.any_eq_true]
          refine ⟨hid ▸ hacted, row, hrow, rfl, job.message, hm, ?_, ?_⟩
          · unfold OutboxRow.dispatches
            rw [Bool.and_eq_true]
            exact ⟨ht, OutboxRow.workflowFor_eq_true.2
              ⟨KafkaTopic.isWorkflow_of_isDispatch ht, job.payload, hp, job.found.symm⟩⟩
          · rw [KafkaTopic.admits_of_isDispatch ht]
            exact job.admitted
        rw [hok] at hredelivers
        cases hredelivers
    · rw [hdb] at hgone
      exact absurd hcurrent' hgone

theorem Attempts.step (hs : Snapshots world) (hs' : Snapshots world') (ev : Events world) (att : Attempts world)
    (hok : world.redelivers a = false) (h : world.step a = some world') : Attempts world' := by
  have hacted := (World.step_cases (keyed_composite hs.keyed) h).actedStep hs hs'
  exact ⟨att.step_nodup hacted, att.step_submitted hs ev h hacted, att.step_stale hs ev hok h hacted⟩

end Invariant

theorem attempts_of_runs {wallets : TenantId → Option WalletRow} {world : World}
    (h : Transition.Runs World.step (fun world a => world.redelivers a = false) (World.initial wallets) world) :
    Attempts world :=
  h.invariant_of (Q := fun world => Snapshots world ∧ Events world)
    (fun _ hr => ⟨snapshots_of_reaches hr.reaches, events_of_reaches hr.reaches⟩) (Attempts.initial wallets)
    fun _ _ _ hq hq' att hok hstep => att.step hq.1 hq'.1 hq.2 hok hstep

/-! ### Calls and events -/

def World.submitsOf (world : World) (composite : MessageCompositeId) : List ProviderSubmit :=
  world.submits.filter fun submit => decide (submit.message = composite)

def World.dispatchEventsOf (world : World) (composite : MessageCompositeId) : List OutboxRow :=
  world.db.outbox.filter (·.dispatches composite)

theorem Attempts.submits_le {world : World} (att : Attempts world) (composite : MessageCompositeId) :
    (world.submitsOf composite).length ≤ (world.dispatchEventsOf composite).length := by
  have hnodup : ((world.submitsOf composite).map (·.event)).Nodup :=
    att.nodup.sublist ((List.filter_sublist.trans (List.sublist_append_left _ _)).map _)
  have hsubset : (world.submitsOf composite).map (·.event) ⊆ (world.dispatchEventsOf composite).map (·.id) := by
    intro event hevent
    obtain ⟨submit, hsubmit, rfl⟩ := List.mem_map.1 hevent
    obtain ⟨hsubmit, hmessage⟩ := List.mem_filter.1 hsubmit
    obtain ⟨row, hrow, hid, hfor⟩ := att.submitted submit (List.mem_append_left _ hsubmit)
    rw [of_decide_eq_true hmessage] at hfor
    exact List.mem_map.2 ⟨row, List.mem_filter.2 ⟨hrow, hfor⟩, hid⟩
  have hle := (List.subperm_of_subset hnodup hsubset).length_le
  rwa [List.length_map, List.length_map] at hle

/-- In a run in which no dispatch event that has been acted on is redelivered while its message is still `routed` or
`submitting`, no event leads to a second call of a provider, and a message is handed to providers at most as often as
dispatch events have been enqueued for it. -/
theorem submits_le_dispatch_events {wallets : TenantId → Option WalletRow} {world : World}
    (h : Transition.Runs World.step (fun world a => world.redelivers a = false) (World.initial wallets) world) :
    (world.submits.map (·.event)).Nodup ∧
      ∀ composite, (world.submitsOf composite).length ≤ (world.dispatchEventsOf composite).length := by
  have hattempts := attempts_of_runs h
  exact ⟨hattempts.nodup.sublist ((List.sublist_append_left _ _).map _), hattempts.submits_le⟩

namespace Sample

/-- The dispatch event is redelivered once the provider's acceptance has been handled. -/
def redelivered : List Action :=
  [.submit (clock 1) submission, .deliver 0, .advance 0 (env 2 (services .allow 3 (accepts "p-1"))),
    .deliver 1, .advance 0 (env 3 (services .allow 3 (accepts "p-1"))),
    .advance 0 (env 4 (services .allow 3 (accepts "p-1"))), .advance 0 (env 5 (services .allow 3 (accepts "p-1"))),
    .deliver 2, .advance 0 (env 6 (services .allow 3 (accepts "p-1"))), .deliver 1]

/-- The dispatch event is redelivered before the result of its attempt has been handled. -/
def redeliveredEarly : List Action :=
  [.submit (clock 1) submission, .deliver 0, .advance 0 (env 2 (services .allow 3 (accepts "p-1"))),
    .deliver 1, .advance 0 (env 3 (services .allow 3 (accepts "p-1"))),
    .advance 0 (env 4 (services .allow 3 (accepts "p-1"))), .advance 0 (env 5 (services .allow 3 (accepts "p-1"))),
    .deliver 1, .advance 0 (env 6 (services .allow 3 (accepts "p-1"))),
    .advance 0 (env 7 (services .allow 3 (accepts "p-1")))]

def composite : MessageCompositeId := ⟨day, tenant, 1⟩

end Sample

theorem submits_le_dispatch_events_redelivered : ∃ world, Transition.execute
      (Transition.guarded World.step fun world a => !world.redelivers a) (World.initial (Sample.wallets 100))
        Sample.redelivered = some world ∧ (world.submitsOf Sample.composite).length = 1 ∧
    (world.submitsOf Sample.composite).length ≤ (world.dispatchEventsOf Sample.composite).length := by
  have h : (Transition.execute (Transition.guarded World.step fun world a => !world.redelivers a)
      (World.initial (Sample.wallets 100)) Sample.redelivered).any (fun world =>
        decide ((world.submitsOf Sample.composite).length = 1)) = true := by decide +kernel
  obtain ⟨world, hrun, hone⟩ := (Option.any_eq_true _ _).1 h
  have hruns := (Transition.runs_of_execute hrun).mono fun world a hp => by simpa using hp
  exact ⟨world, hrun, of_decide_eq_true hone, (submits_le_dispatch_events hruns).2 Sample.composite⟩

/-- The redelivery hands the message to the provider a second time, on one dispatch event. -/
theorem redelivery_submits_twice : ∃ world, Transition.Reaches World.step (World.initial (Sample.wallets 100)) world ∧
    (world.submitsOf Sample.composite).length = 2 ∧ (world.dispatchEventsOf Sample.composite).length = 1 := by
  have h : (Sample.run Sample.redeliveredEarly).any (fun world => decide (
      (world.submitsOf Sample.composite).length = 2 ∧ (world.dispatchEventsOf Sample.composite).length = 1)) = true := by
    decide +kernel
  obtain ⟨world, hrun, hfacts⟩ := (Option.any_eq_true _ _).1 h
  exact ⟨world, Transition.reaches_of_execute hrun, of_decide_eq_true hfacts⟩

end SmsPlatform
