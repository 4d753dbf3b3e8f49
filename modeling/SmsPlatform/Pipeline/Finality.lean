import SmsPlatform.Pipeline.Acceptance

/-!
# Final answers

A call that the provider has accepted, or of whose outcome nothing is known, settles its message.  Where every event is
handled once, the message's one event then carries the answer to `handleDispatchResult`, which ends the workflow: no
call for the message follows (`no_call_after_final`).
-/

namespace SmsPlatform

open Transition

/-! ### What a final answer leaves behind -/

/-- The event has a final answer to report, or an execution of it has. -/
def Settled (world : World) (row : OutboxRow) : Prop :=
  (row.topicName = .smsDispatchResults ∧ ∃ payload, row.payload = .message payload ∧
    (payload.accepted.getD false || payload.uncertain.getD false) = true) ∨
  ∃ execution ∈ world.executions, execution.event = row.id ∧ ∃ job version dispatch,
    execution.stage = .dispatched job version dispatch ∧ dispatch.result.isFinal = true

/-- A call is made for a message that no call before it has settled. -/
def ProviderCall.Unsettled (call : ProviderCall) (before : List ProviderCall) : Prop :=
  ∀ earlier ∈ before, earlier.isFinal = true → earlier.message ≠ call.message

structure Finality (world : World) (record : List ProviderCall) : Prop where
  known : ∀ call ∈ record, ∃ message ∈ world.db.messages, message.composite = call.message
  settled : ∀ call ∈ record, call.isFinal = true → ∀ row ∈ world.db.outbox, row.id ∉ world.consumed →
    row.workflowFor call.message = true → Settled world row
  preceded : Preceded ProviderCall.Unsettled record

section Finality

variable {world world' : World} {record : List ProviderCall} {a : Action}

theorem Finality.initial (wallets : TenantId → Option WalletRow) : Finality (World.initial wallets) [] where
  known := by
    intro call hcall
    cases hcall
  settled := by
    intro call hcall
    cases hcall
  preceded := .nil

/-- A call that a step makes, and the event it is made for. -/
private theorem Tokens.caller (ev : Events world) (tok : Tokens world) {call : ProviderCall}
    (h : call ∈ world.calls a world') :
    ∃ index env execution job version, a = .advance index env ∧ world.executions[index]? = some execution ∧
      execution.stage = .provider job version ∧ (Stage.provider job version).call env world.db = some call ∧
      call.message = job.payload.toComposite ∧ ∃ row ∈ world.db.outbox, row.id = execution.event ∧
        row.id ∉ world.consumed ∧ row.workflowFor call.message = true ∧ row.topicName.isDispatch = true := by
  obtain ⟨index, env, execution, ha, hexec, hcall⟩ := World.of_mem_calls h
  obtain ⟨job, version, hstage, hmatches⟩ := Stage.call_matches hcall
  obtain ⟨row, hrow, hid, hpending, hfor, hhandles⟩ :=
    tok.source ev (List.mem_of_getElem? hexec) (show execution.stage.event = some job.payload by rw [hstage]; rfl)
  rw [hstage] at hhandles hcall
  rw [← hmatches.message] at hfor
  exact ⟨index, env, execution, job, version, ha, hexec, hstage, hcall, hmatches.message, row, hrow, hid, hpending,
    hfor, hhandles⟩

/-- An event whose execution is about to call a provider has nothing final to report. -/
private theorem Tokens.not_settled (tok : Tokens world) {execution : Execution} (he : execution ∈ world.executions)
    {job : Job [.routed, .submitting]} {version : Nat} (hstage : execution.stage = .provider job version)
    {row : OutboxRow} (hid : row.id = execution.event) (hdispatch : row.topicName.isDispatch = true) :
    ¬ Settled world row := by
  rintro (⟨htopic, -⟩ | ⟨other, hother, hevent, job', version', dispatch, hstage', -⟩)
  · exact KafkaTopic.ne_results_of_isDispatch hdispatch htopic
  · rw [List.inj_on_of_nodup_map tok.alone hother he (hevent.trans hid), hstage] at hstage'
    cases hstage'

private theorem Finality.step_preceded (ev : Events world) (tok : Tokens world) (fin : Finality world record) :
    Preceded ProviderCall.Unsettled (record ++ world.calls a world') := by
  refine fin.preceded.append_of_split ?_
  intro before call after heq earlier hearlier hfinal hsame
  have hlength : (world.calls a world').length ≤ 1 := by
    unfold World.calls
    split
    · rename_i index env
      cases (world.executions[index]?).bind fun execution => execution.stage.call env world.db <;> simp
    · exact Nat.zero_le _
  have hbefore : before = [] := by
    rw [heq, List.length_append, List.length_cons] at hlength
    exact List.length_eq_zero_iff.1 (by omega)
  rw [hbefore, List.append_nil] at hearlier
  obtain ⟨index, env, execution, job, version, -, hexec, hstage, -, -, row, hrow, hid, hpending, hfor, hdispatch⟩ :=
    tok.caller ev (show call ∈ world.calls a world' by rw [heq]; simp)
  rw [← hsame] at hfor
  exact tok.not_settled (List.mem_of_getElem? hexec) hstage hid hdispatch
    (fin.settled earlier hearlier hfinal row hrow hpending hfor)

private theorem Finality.step_known (hs : Snapshots world) (ev : Events world) (tok : Tokens world)
    (fin : Finality world record) (h : world.step a = some world') :
    ∀ call ∈ record ++ world.calls a world', ∃ message ∈ world'.db.messages, message.composite = call.message := by
  have hlater := (World.step_cases (keyed_composite hs.keyed) h).messages.later
  intro call hcall
  have hbefore : ∃ message ∈ world.db.messages, message.composite = call.message := by
    rcases List.mem_append.1 hcall with hold | hnew
    · exact fin.known call hold
    · obtain ⟨-, -, -, -, -, -, -, -, -, -, row, hrow, -, -, hfor, -⟩ := tok.caller ev hnew
      exact ev.exists_message hrow hfor
  obtain ⟨message, hm, hc⟩ := hbefore
  obtain ⟨message', hm', hc', -⟩ := hlater message hm
  exact ⟨message', hm', hc'.trans hc⟩

theorem Stage.Advanced.not_from_dispatched {env : Environment} {db db' : Db} {job : Job [.routed, .submitting]}
    {version : Nat} {dispatch : DispatchExecutionResult} {next : Stage} :
    ¬ Stage.Advanced env db (.dispatched job version dispatch) (some next) db' := by
  intro h
  generalize hn : some next = o at h
  cases h with
  | work hw c => cases hw
  | event h => cases hn
  | read h => cases h
  | side h => cases h

/-- An event that has something final to report keeps it until it is consumed. -/
private theorem Settled.kept {row : OutboxRow} (h : Settled world row) (hstepped : World.Stepped world a world')
    (hok : world.handlesOnce a = true) (hunconsumed : row.id ∉ world'.consumed) : Settled world' row := by
  rcases h with htopic | ⟨other, hother, hid, job, version, dispatch, hstage, hfinal⟩
  · exact .inl htopic
  have hstays : other ∈ world'.executions → Settled world' row :=
    fun hother' => .inr ⟨other, hother', hid, job, version, dispatch, hstage, hfinal⟩
  cases hstepped with
  | started hrow hstart => exact hstays (List.mem_cons_of_mem _ hother)
  | crashed hexec =>
    rcases mem_eraseIdx_or_eq hexec hother with rfl | hmem
    · unfold World.handlesOnce at hok
      dsimp only at hok
      rw [hexec, Option.all_some, hstage] at hok
      cases hok
    · exact hstays hmem
  | threw hexec hadvance =>
    rcases mem_eraseIdx_or_eq hexec hother with rfl | hmem
    · rw [hstage] at hadvance
      cases hadvance
    · exact hstays hmem
  | continued hexec hadvance =>
    rcases mem_eraseIdx_or_eq hexec hother with rfl | hmem
    · rw [hstage] at hadvance
      exact absurd hadvance Stage.Advanced.not_from_dispatched
    · exact hstays (List.mem_cons_of_mem _ hmem)
  | finished hexec hadvance =>
    rcases mem_eraseIdx_or_eq hexec hother with rfl | hmem
    · exact absurd (hid ▸ List.mem_cons_self ..) hunconsumed
    · exact hstays hmem
  | _ => exact hstays hother

/-- What an execution with something final to report enqueues for the workflow reports it. -/
private theorem Settled.emitted (tok : Tokens world) {env : Environment} {execution : Execution}
    {input : OutboxEventInput} (he : execution ∈ world.executions) {row : OutboxRow}
    (hpayload : ∀ payload, execution.stage.payload = some payload → row.payload = payload)
    (hhandles : execution.stage.handles row.topicName = true) (hid : row.id = execution.event)
    (h : Settled world row) (hemits : Stage.Emits env world.db world'.db execution.stage input)
    (hwork : input.topicName.isWorkflow = true) (clock : TxClock) (id : Nat) :
    Settled world' (input.row clock id) := by
  rcases h with ⟨htopic, payload, hp, hfinal⟩ | ⟨other, hother, hevent, job, version, dispatch, hstage, hfinal⟩
  · -- the handler of a result that is final enqueues nothing for the workflow
    rw [htopic] at hhandles
    obtain ⟨event, stage⟩ := execution
    exfalso
    cases hemits with
    | follow hw hbefore htrigger hafter hin =>
      cases hw with
      | retrySubmit job retryPolicy nextRoute hpolicy hretry hroute haccepted huncertain =>
        have hsame : payload = job.payload := by
          have hrow := hpayload (.message job.payload) rfl
          rw [hp] at hrow
          cases hrow
          rfl
        rw [hsame, haccepted, huncertain] at hfinal
        cases hfinal
      | unknown job =>
        cases hin
        cases hwork
      | accepted job route hroute => cases hhandles
      | throttle job haction => cases hhandles
      | _ => cases hin
    | event hevent hsame => cases hevent <;> cases hhandles
    | reconcile report message reason extra hstage => cases hwork
  · have hsame : other = execution := List.inj_on_of_nodup_map tok.alone hother he (hevent.trans hid)
    rw [hsame] at hstage
    rw [hstage] at hemits
    cases hemits with
    | follow hw hbefore htrigger hafter hin => cases hw
    | event hevent hsame =>
      cases hevent
      exact .inl ⟨rfl, _, rfl, hfinal⟩
    | reconcile report message reason extra hstage => cases hwork

private theorem Finality.step_settled_old (hs : Snapshots world) (ev : Events world) (tok : Tokens world)
    (fin : Finality world record) (hok : world.handlesOnce a = true) (h : world.step a = some world')
    {call : ProviderCall} (hcall : call ∈ record) (hfinal : call.isFinal = true) {row : OutboxRow}
    (hrow : row ∈ world'.db.outbox) (hunconsumed : row.id ∉ world'.consumed)
    (hfor : row.workflowFor call.message = true) : Settled world' row := by
  have hstepped := World.step_cases (keyed_composite hs.keyed) h
  rcases (hs.world_emits h).origin hrow with hold | ⟨clock, input, hemits, rfl⟩
  · have hpending : row.id ∉ world.consumed := fun hconsumed => hunconsumed (hstepped.consumed_subset _ hconsumed)
    exact (fin.settled call hcall hfinal row hold hpending hfor).kept hstepped hok hunconsumed
  · obtain ⟨hwork, payload, hp, hc⟩ := OutboxRow.workflowFor_eq_true.1 hfor
    cases hemits with
    | created hm hnew =>
      cases hp
      -- the message of a call is there before the step
      obtain ⟨known, hknown, hcomposite⟩ := fin.known call hcall
      have hfresh := hs.fresh known hknown
      rw [show known.id = _ from congrArg MessageCompositeId.id (hcomposite.trans hc.symm)] at hfresh
      exact absurd (hfresh.trans_eq (congrArg MessageRow.id hnew).symm) (lt_irrefl _)
    | webhook report => cases hwork
    | advanced hexec hconsumed hemits =>
      have he := List.mem_of_getElem? hexec
      obtain ⟨event, hevent, hcomposite, -⟩ := hemits.same_message hp
      obtain ⟨source, hsource, hid, hhandles, hpayload⟩ := (ev.sourced _ he).row
      have hsourceFor : source.workflowFor call.message = true := by
        rw [← hc, hcomposite]
        exact OutboxRow.workflowFor_eq_true.2
          ⟨Stage.isWorkflow_of_event hevent hhandles, event, hpayload _ (Stage.payload_of_event hevent), rfl⟩
      have hpending : source.id ∉ world.consumed := by
        rw [hid]
        exact tok.pending _ he
      exact (fin.settled call hcall hfinal source hsource hpending hsourceFor).emitted tok he hpayload hhandles hid
        hemits hwork clock _

private theorem Tokens.step_settled_new (hs : Snapshots world) (ev : Events world) (tok : Tokens world)
    (h : world.step a = some world') {call : ProviderCall} (hcall : call ∈ world.calls a world')
    (hfinal : call.isFinal = true) {row : OutboxRow} (hrow : row ∈ world'.db.outbox)
    (hunconsumed : row.id ∉ world'.consumed) (hfor : row.workflowFor call.message = true) : Settled world' row := by
  obtain ⟨index, env, execution, job, version, rfl, hexec, hstage, hmade, -, source, hsource, hid, hpending, hsourceFor,
    -⟩ := tok.caller ev hcall
  obtain ⟨event, stage⟩ := execution
  subst hstage
  -- the step that calls the provider leads to the report of its answer
  obtain ⟨result, hanswer, hresult⟩ : ∃ result, call.answer = .ok result ∧ result.isFinal = true := by
    unfold ProviderCall.isFinal at hfinal
    split at hfinal
    · rename_i result hanswer
      exact ⟨result, hanswer, hfinal⟩
    · cases hfinal
  have hdispatch := Stage.result_of_call hmade hanswer
  have hworld : world'.executions = ⟨event, .dispatched job version
      (dispatchThroughProvider env.services world.db job.payload)⟩ :: world.executions.eraseIdx index ∧
      world'.db = world.db := by
    unfold World.step at h
    dsimp only at h
    rw [hexec] at h
    cases h
    exact ⟨rfl, rfl⟩
  rw [hworld.2] at hrow
  have hsub := (World.step_cases (keyed_composite hs.keyed) h).consumed_subset
  obtain rfl := tok.unique hsource hrow hpending (fun hconsumed => hunconsumed (hsub _ hconsumed)) hsourceFor hfor
  refine .inr ⟨⟨event, .dispatched job version (dispatchThroughProvider env.services world.db job.payload)⟩, ?_, hid.symm,
    job, version, _, rfl, ?_⟩
  · rw [hworld.1]
    exact List.mem_cons_self ..
  rw [hdispatch]
  exact hresult

theorem Finality.step (hs : Snapshots world) (ev : Events world) (tok : Tokens world) (fin : Finality world record)
    (hok : world.handlesOnce a = true) (h : world.step a = some world') :
    Finality world' (record ++ world.calls a world') where
  known := fin.step_known hs ev tok h
  settled := by
    intro call hcall hfinal row hrow hunconsumed hfor
    rcases List.mem_append.1 hcall with hold | hnew
    · exact fin.step_settled_old hs ev tok hok h hold hfinal hrow hunconsumed hfor
    · exact tok.step_settled_new hs ev h hnew hfinal hrow hunconsumed hfor
  preceded := fin.step_preceded ev tok

end Finality

theorem finality_of_runs {wallets : TenantId → Option WalletRow} {log : CallLog}
    (h : Runs (recorded World.step World.calls) (fun log a => log.state.handlesOnce a = true)
      ⟨World.initial wallets, []⟩ log) : Finality log.state log.record := by
  refine @Runs.record_invariant World Action ProviderCall World.step World.calls
    (fun world a => world.handlesOnce a = true) Finality
    (fun world => Snapshots world ∧ Events world ∧ Tokens world) _ _ h ?_ (Finality.initial wallets) ?_
  · intro world hr
    exact ⟨snapshots_of_reaches hr.reaches, events_of_reaches hr.reaches, tokens_of_runs hr⟩
  · intro world record a world' hq fin hok hstep
    exact fin.step hq.1 hq.2.1 hq.2.2 hok hstep

/-- Where every event is handled once, a message is not sent twice: after a call that the provider has accepted, or of
whose outcome nothing is known, no call is made for the message, whatever the services answer and whatever is reported
about it. -/
theorem no_call_after_final {wallets : TenantId → Option WalletRow} {log : CallLog}
    (h : Runs (recorded World.step World.calls) (fun log a => log.state.handlesOnce a = true)
      ⟨World.initial wallets, []⟩ log) {before after : List ProviderCall} {call : ProviderCall}
    (hrecord : log.record = before ++ call :: after) (hfinal : call.isFinal = true) :
    ∀ later ∈ after, later.message ≠ call.message := by
  intro later hlater
  obtain ⟨between, rest, rfl⟩ := List.append_of_mem hlater
  have hsplit : log.record = (before ++ call :: between) ++ later :: rest := by
    rw [hrecord, List.append_assoc, List.cons_append]
  exact Ne.symm ((finality_of_runs h).preceded _ later rest hsplit call (by simp) hfinal)

theorem no_call_after_final_handedOver : ∃ log : CallLog, ∃ call after, log.record = call :: after ∧
    after.length = 1 ∧ ∀ later ∈ after, later.message ≠ call.message := by
  have h : Sample.handOver.any (fun log => log.record.head?.any ProviderCall.isFinal &&
      decide (log.record.tail.length = 1)) = true := by
    decide +kernel
  obtain ⟨log, hrun, hfacts⟩ := (Option.any_eq_true _ _).1 h
  obtain ⟨hhead, hlength⟩ := Bool.and_eq_true_iff.1 hfacts
  obtain ⟨call, hcall, hfinal⟩ := (Option.any_eq_true _ _).1 hhead
  obtain ⟨after, hrecord⟩ := List.head?_eq_some_iff.1 hcall
  rw [hrecord] at hlength
  exact ⟨log, call, after, hrecord, of_decide_eq_true hlength,
    no_call_after_final (runs_of_execute hrun) (show log.record = [] ++ call :: after from hrecord) hfinal⟩

end SmsPlatform
