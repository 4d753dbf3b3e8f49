import SmsPlatform.Connectors.Answers
import SmsPlatform.Pipeline.Termination
import SmsPlatform.Pipeline.Marks
import SmsPlatform.Pipeline.Senders

/-!
# What providers have said

Beside the pipeline every call of a provider's submit is written down with its answer.  What a handler learns of an
answer travels with the result event, so a message is debited only after a provider has confirmed that very message: its
number, its sender and its text (`debited_confirmed`).
-/

namespace SmsPlatform

open Transition

/-! ### Calls -/

/-- A call of `HttpProviderService.submit` or `SmppConnectorService.submitSm`, and what it returned or threw. -/
structure ProviderCall where
  message : MessageCompositeId
  toNumber : String
  fromSender : String
  text : String
  answer : Except String DispatchResult

/-- The result settles the message: it is accepted, or nobody knows. -/
def DispatchResult.isFinal (result : DispatchResult) : Bool := result.accepted || result.uncertain.getD false

def ProviderCall.isFinal (call : ProviderCall) : Bool :=
  match call.answer with
  | .ok result => result.isFinal
  | .error _ => false

def DispatchPlan.call (services : Services) (message : MessageCompositeId) : DispatchPlan → Option ProviderCall
  | .answer _ _ => none
  | .http request => some ⟨message, request.toNumber, request.fromSender, request.text, services.submit request⟩
  | .smpp request =>
    some ⟨message, request.destinationAddr, request.sourceAddr, request.shortMessage, services.submitSm request⟩

def Stage.call (env : Environment) (db : Db) : Stage → Option ProviderCall
  | .provider job _ =>
    match planDispatch env.services db job.payload with
    | .ok plan => plan.call env.services job.message.composite
    | .error _ => none
  | _ => none

/-- What is written down in a step. -/
def World.calls (world : World) (a : Action) (_ : World) : List ProviderCall :=
  match a with
  | .advance index env =>
    ((world.executions[index]?).bind fun execution => execution.stage.call env world.db).toList
  | _ => []

/-- The calls are those that `World.submits` counts. -/
theorem Stage.call_isSome (env : Environment) (db : Db) (stage : Stage) :
    (stage.call env db).isSome = (stage.submits env db).isSome := by
  cases stage with
  | provider job submittingVersion =>
    unfold Stage.call Stage.submits submitsToProvider
    dsimp only
    cases planDispatch env.services db job.payload with
    | error message => rfl
    | ok plan => cases plan <;> rfl
  | _ => rfl

/-- The call is about the message of the event, as the event describes it. -/
structure ProviderCall.Matches (call : ProviderCall) (payload : MessageEventPayload) : Prop where
  message : call.message = payload.toComposite
  toNumber : call.toNumber = payload.phoneNumber
  fromSender : call.fromSender = payload.senderId
  text : call.text = payload.body

/-- What a plan can be: an answer that settles nothing, or a request with the number, the sender and the text of the
event. -/
inductive DispatchPlan.Of (payload : MessageEventPayload) : DispatchPlan → Prop
  | answer (protocol : Protocol) (result : DispatchResult) (h : result.isFinal = false) :
      Of payload (.answer protocol result)
  | http (url clientRef : String) :
      Of payload (.http ⟨url, payload.phoneNumber, payload.senderId, payload.body, clientRef⟩)
  | smpp (providerId : Nat) (config : SmppConfigProfile) :
      Of payload (.smpp ⟨providerId, config, payload.senderId, payload.phoneNumber, payload.body⟩)

theorem planDispatch_ok {services : Services} {db : Db} {payload : MessageEventPayload} {plan : DispatchPlan}
    (h : planDispatch services db payload = .ok plan) : plan.Of payload := by
  unfold planDispatch at h
  split at h
  · cases h
    exact .answer _ _ rfl
  · obtain ⟨provider, -, h⟩ := StateExcept.except_bind_eq_ok.1 h
    obtain ⟨_, -, h⟩ := StateExcept.except_bind_eq_ok.1 h
    split at h
    · cases h
    · rename_i message hmessage
      generalize payload.protocol.getD _ = protocol at h
      cases protocol with
      | http =>
        dsimp only at h
        split at h
        · cases h
          exact .answer _ _ rfl
        · cases h
          exact .http _ _
      | smpp =>
        dsimp only at h
        split at h
        · cases h
          exact .answer _ _ rfl
        · obtain ⟨config, -, h⟩ := StateExcept.except_bind_eq_ok.1 h
          cases h
          exact .smpp _ _

theorem DispatchPlan.Of.call_matches {services : Services} {payload : MessageEventPayload} {plan : DispatchPlan}
    {call : ProviderCall} (h : plan.Of payload) (hcall : plan.call services payload.toComposite = some call) :
    call.Matches payload := by
  cases h with
  | answer protocol result h => cases hcall
  | http url clientRef => cases hcall; exact ⟨rfl, rfl, rfl, rfl⟩
  | smpp providerId config => cases hcall; exact ⟨rfl, rfl, rfl, rfl⟩

/-- A final result of a dispatch is the answer of a call. -/
theorem DispatchPlan.Of.final_call {services : Services} {payload : MessageEventPayload} {plan : DispatchPlan}
    (h : plan.Of payload) {execution : DispatchExecutionResult} (hexecute : plan.execute services = .ok execution)
    (hfinal : execution.result.isFinal = true) :
    ∃ call, plan.call services payload.toComposite = some call ∧ call.answer = .ok execution.result := by
  cases h with
  | answer protocol result h =>
    cases hexecute
    rw [h] at hfinal
    cases hfinal
  | http url clientRef =>
    obtain ⟨result, hresult, rfl⟩ := StateExcept.except_map_eq_ok.1 hexecute
    exact ⟨_, rfl, hresult⟩
  | smpp providerId config =>
    obtain ⟨result, hresult, rfl⟩ := StateExcept.except_map_eq_ok.1 hexecute
    exact ⟨_, rfl, hresult⟩

/-- The call of a stage is about the message of its event. -/
theorem Stage.call_matches {env : Environment} {db : Db} {stage : Stage} {call : ProviderCall}
    (h : stage.call env db = some call) :
    ∃ job version, stage = .provider job version ∧ call.Matches job.payload := by
  unfold Stage.call at h
  split at h
  · rename_i job version
    split at h
    · rename_i plan hplan
      rw [job.found] at h
      exact ⟨job, version, rfl, (planDispatch_ok hplan).call_matches h⟩
    · cases h
  · cases h

/-- A final result of `dispatchThroughProvider` is the answer of the call that the stage has made. -/
theorem Stage.call_of_final {env : Environment} {db : Db} {job : Job [.routed, .submitting]} {version : Nat}
    (h : (dispatchThroughProvider env.services db job.payload).result.isFinal = true) :
    ∃ call, (Stage.provider job version).call env db = some call ∧
      call.answer = .ok (dispatchThroughProvider env.services db job.payload).result := by
  unfold Stage.call
  dsimp only
  unfold dispatchThroughProvider at h ⊢
  split at h
  · rename_i execution hexecution
    obtain ⟨plan, hplan, hexecute⟩ := StateExcept.except_bind_eq_ok.1 hexecution
    rw [hplan, job.found]
    exact (planDispatch_ok hplan).final_call hexecute h
  · cases h

theorem DispatchPlan.execute_of_call {services : Services} {message : MessageCompositeId} {plan : DispatchPlan}
    {call : ProviderCall} (h : plan.call services message = some call) {result : DispatchResult}
    (hanswer : call.answer = .ok result) : ∃ protocol, plan.execute services = .ok ⟨protocol, result⟩ := by
  cases plan with
  | answer protocol answer => cases h
  | http request =>
    cases h
    refine ⟨.http, ?_⟩
    unfold DispatchPlan.execute
    dsimp only at hanswer ⊢
    rw [hanswer]
    rfl
  | smpp request =>
    cases h
    refine ⟨.smpp, ?_⟩
    unfold DispatchPlan.execute
    dsimp only at hanswer ⊢
    rw [hanswer]
    rfl

/-- And what a call has answered is the result. -/
theorem Stage.result_of_call {env : Environment} {db : Db} {job : Job [.routed, .submitting]} {version : Nat}
    {call : ProviderCall} (h : (Stage.provider job version).call env db = some call) {result : DispatchResult}
    (hanswer : call.answer = .ok result) : (dispatchThroughProvider env.services db job.payload).result = result := by
  unfold Stage.call at h
  dsimp only at h
  split at h
  · rename_i plan hplan
    obtain ⟨protocol, hexecute⟩ := DispatchPlan.execute_of_call h hanswer
    unfold dispatchThroughProvider
    simp only [hplan, Except.bind, hexecute]
  · cases h

/-! ### Debited messages -/

/-- A call for the message that its provider has confirmed, recorded under the id it gave. -/
def ConfirmedCall (record : List ProviderCall) (payload : MessageEventPayload) (providerMessageId : Option String) :
    Prop :=
  ∃ call ∈ record, call.Matches payload ∧ ∃ result, call.answer = .ok result ∧ result.accepted = true ∧
    result.providerMessageId = providerMessageId

/-- The event describes its message as the table does. -/
def Describes (db : Db) (payload : MessageEventPayload) : Prop :=
  ∃ row ∈ db.messages, row.composite = payload.toComposite ∧ row.phoneNumber = payload.phoneNumber ∧
    row.sourceAddr = some payload.senderId ∧ row.body = payload.body

/-- The call is about the message of the row, and says what the row says. -/
structure ProviderCall.For (call : ProviderCall) (row : MessageRow) : Prop where
  message : call.message = row.composite
  toNumber : call.toNumber = row.phoneNumber
  fromSender : some call.fromSender = row.sourceAddr
  text : call.text = row.body

structure Acceptance (world : World) (record : List ProviderCall) : Prop where
  described : ∀ row ∈ world.db.outbox, ∀ payload, row.payload = .message payload → Describes world.db payload
  answered : ∀ execution ∈ world.executions, ∀ job version dispatch,
    execution.stage = .dispatched job version dispatch → dispatch.result.accepted = true →
      ConfirmedCall record job.payload dispatch.result.providerMessageId
  reported : ∀ row ∈ world.db.outbox, row.topicName = .smsDispatchResults → ∀ payload,
    row.payload = .message payload → payload.accepted = some true →
      ConfirmedCall record payload payload.providerMessageId
  sent : ∀ message ∈ world.db.messages, message.sentAt.isSome = true →
    ∃ call ∈ record, call.For message ∧ ∃ result, call.answer = .ok result ∧ result.accepted = true ∧
      result.providerMessageId = message.providerMessageId

theorem ConfirmedCall.mono {record : List ProviderCall} {payload : MessageEventPayload}
    {providerMessageId : Option String} (h : ConfirmedCall record payload providerMessageId)
    (calls : List ProviderCall) : ConfirmedCall (record ++ calls) payload providerMessageId := by
  obtain ⟨call, hcall, hmatches⟩ := h
  exact ⟨call, List.mem_append_left _ hcall, hmatches⟩

theorem ProviderCall.For.of_content {call : ProviderCall} {row row' : MessageRow} (h : call.For row)
    (hcontent : row'.content = row.content) : call.For row' where
  message := h.message.trans (MessageRow.composite_of_content hcontent).symm
  toNumber := h.toNumber.trans (congrArg MessageContent.phoneNumber hcontent).symm
  fromSender := h.fromSender.trans (congrArg MessageContent.sourceAddr hcontent).symm
  text := h.text.trans (congrArg MessageContent.body hcontent).symm

theorem ProviderCall.Matches.for_row {call : ProviderCall} {payload : MessageEventPayload} (h : call.Matches payload)
    {row : MessageRow} (hc : row.composite = payload.toComposite) (hphone : row.phoneNumber = payload.phoneNumber)
    (hsender : row.sourceAddr = some payload.senderId) (hbody : row.body = payload.body) : call.For row where
  message := h.message.trans hc.symm
  toNumber := h.toNumber.trans hphone.symm
  fromSender := by rw [hsender, h.fromSender]
  text := h.text.trans hbody.symm

theorem Describes.later {db db' : Db} {payload : MessageEventPayload} (h : Describes db payload)
    (hm : MessagesStep db db') : Describes db' payload := by
  obtain ⟨row, hrow, hc, hphone, hsender, hbody⟩ := h
  obtain ⟨row', hrow', hcontent⟩ := hm.content_later hrow
  exact ⟨row', hrow', (MessageRow.composite_of_content hcontent).trans hc,
    (congrArg MessageContent.phoneNumber hcontent).trans hphone,
    (congrArg MessageContent.sourceAddr hcontent).trans hsender,
    (congrArg MessageContent.body hcontent).trans hbody⟩

theorem Acceptance.initial (wallets : TenantId → Option WalletRow) : Acceptance (World.initial wallets) [] where
  described := by
    intro row hrow
    cases hrow
  answered := by
    intro execution he
    cases he
  reported := by
    intro row hrow
    cases hrow
  sent := by
    intro message hm
    cases hm

section Step

variable {world world' : World} {record : List ProviderCall} {a : Action}

/-- The event that an execution of the workflow handles describes its message. -/
private theorem Acceptance.describes (ev : Events world) (acc : Acceptance world record) {execution : Execution}
    (he : execution ∈ world.executions) {payload : MessageEventPayload} (hevent : execution.stage.event = some payload) :
    Describes world.db payload := by
  obtain ⟨row, hrow, -, -, hpayload⟩ := (ev.sourced execution he).row
  exact acc.described row hrow payload (hpayload _ (Stage.payload_of_event hevent))

/-- What an execution enqueues says of the message what its own event says. -/
theorem Stage.Emits.same_message {env : Environment} {db db' : Db} {stage : Stage} {input : OutboxEventInput}
    {payload : MessageEventPayload} (h : Stage.Emits env db db' stage input) (hp : input.payload = .message payload) :
    ∃ event, stage.event = some event ∧ payload.toComposite = event.toComposite ∧
      payload.phoneNumber = event.phoneNumber ∧ payload.senderId = event.senderId ∧ payload.body = event.body := by
  cases h with
  | follow hw hcurrent htrigger hm hin =>
    cases hw with
    | accepted job route hroute => cases hin; cases hp; exact ⟨_, rfl, rfl, rfl, rfl, rfl⟩
    | throttle job haction => cases hin; cases hp; exact ⟨_, rfl, rfl, rfl, rfl, rfl⟩
    | retrySubmit job retryPolicy nextRoute hpolicy hretry => cases hin; cases hp; exact ⟨_, rfl, rfl, rfl, rfl, rfl⟩
    | unknown job => cases hin; cases hp
    | _ => cases hin
  | event hevent hsame => cases hevent <;> cases hp <;> exact ⟨_, rfl, rfl, rfl, rfl, rfl⟩
  | reconcile report message reason extra hstage => cases hp

private theorem Acceptance.step_described (hs : Snapshots world) (ev : Events world) (acc : Acceptance world record)
    (h : world.step a = some world') : ∀ row ∈ world'.db.outbox, ∀ payload, row.payload = .message payload →
      Describes world'.db payload := by
  have hmessages := (World.step_cases (keyed_composite hs.keyed) h).messages
  intro row hrow payload hp
  rcases (hs.world_emits h).origin hrow with hold | ⟨clock, input, hemits, rfl⟩
  · exact (acc.described row hold payload hp).later hmessages
  · cases hemits with
    | created hm hnew =>
      cases hp
      exact ⟨_, hm, rfl, rfl, by rw [hnew]; rfl, rfl⟩
    | webhook row => cases hp
    | advanced hexec hconsumed hemits =>
      obtain ⟨event, hevent, hc, hphone, hsender, hbody⟩ := hemits.same_message hp
      obtain ⟨message, hm, hc', hphone', hsender', hbody'⟩ :=
        (acc.describes ev (List.mem_of_getElem? hexec) hevent).later hmessages
      exact ⟨message, hm, hc'.trans hc.symm, hphone'.trans hphone.symm, by rw [hsender', hsender],
        hbody'.trans hbody.symm⟩

/-- A dispatch is the outcome of the stage before it. -/
theorem Stage.Advanced.to_dispatched {env : Environment} {db db' : Db} {stage : Stage}
    {job : Job [.routed, .submitting]} {version : Nat} {dispatch : DispatchExecutionResult}
    (h : Stage.Advanced env db stage (some (.dispatched job version dispatch)) db') :
    stage = .provider job version ∧ dispatch = dispatchThroughProvider env.services db job.payload := by
  generalize ho : some (Stage.dispatched job version dispatch) = o at h
  cases h with
  | work hw c =>
    cases hw with
    | attempt job => cases ho
    | _ => cases ho
  | event h => cases ho
  | side h => cases ho
  | read h =>
    cases h with
    | provider job' version' =>
      cases ho
      exact ⟨rfl, rfl⟩
    | webhook payload report => cases ho

/-- The call of the execution that a step advances is written down. -/
theorem World.mem_calls {index : Nat} {env : Environment} {execution : Execution} {call : ProviderCall}
    (hexec : world.executions[index]? = some execution) (hcall : execution.stage.call env world.db = some call) :
    call ∈ world.calls (.advance index env) world' := by
  unfold World.calls
  dsimp only
  rw [hexec, Option.bind_some, hcall]
  exact List.mem_singleton_self _

theorem World.of_mem_calls {call : ProviderCall} (h : call ∈ world.calls a world') :
    ∃ index env execution, a = .advance index env ∧ world.executions[index]? = some execution ∧
      execution.stage.call env world.db = some call := by
  unfold World.calls at h
  split at h
  · rename_i index env
    rw [Option.mem_toList] at h
    obtain ⟨execution, hexec, hcall⟩ := Option.bind_eq_some_iff.1 h
    exact ⟨index, env, execution, rfl, hexec, hcall⟩
  · cases h

private theorem Acceptance.step_answered (hs : Snapshots world) (acc : Acceptance world record)
    (h : world.step a = some world') : ∀ execution ∈ world'.executions, ∀ job version dispatch,
      execution.stage = .dispatched job version dispatch → dispatch.result.accepted = true →
        ConfirmedCall (record ++ world.calls a world') job.payload dispatch.result.providerMessageId := by
  intro execution he job version dispatch hstage haccepted
  cases (World.step_cases (keyed_composite hs.keyed) h).flight he with
  | kept he => exact (acc.answered execution he job version dispatch hstage haccepted).mono _
  | started hrow ha hdb hstart =>
    cases hstage
    cases hstart
  | continued ha hexec hadvance =>
    rename_i index env before stage
    cases hstage
    obtain ⟨hbefore, rfl⟩ := hadvance.to_dispatched
    have hfinal : (dispatchThroughProvider env.services world.db job.payload).result.isFinal = true := by
      unfold DispatchResult.isFinal
      rw [haccepted]
      rfl
    obtain ⟨call, hcall, hanswer⟩ := @Stage.call_of_final env world.db job version hfinal
    obtain ⟨job', version', hprovider, hmatches⟩ := Stage.call_matches hcall
    cases hprovider
    rw [← hbefore] at hcall
    rw [ha]
    exact ⟨call, List.mem_append_right _ (World.mem_calls hexec hcall), hmatches, _, hanswer, haccepted, rfl⟩

private theorem Stage.WorkOf.followUp_topic {env : Environment} {stage : Stage} {work : GuardedWork}
    {next : MessageRow → Option Stage} (hw : Stage.WorkOf env stage work next) {updated : MessageRow}
    {input : OutboxEventInput} (hin : work.followUp updated = .event input) :
    input.topicName ≠ .smsDispatchResults := by
  cases hw with
  | accepted job route hroute =>
    cases hin
    exact KafkaTopic.ne_results_of_isDispatch (isDispatch_dispatchTopicFor _)
  | throttle job haction => cases hin; exact KafkaTopic.noConfusion
  | retrySubmit job retryPolicy nextRoute hpolicy hretry => cases hin; exact KafkaTopic.noConfusion
  | unknown job => cases hin; exact KafkaTopic.noConfusion
  | _ => cases hin

private theorem Acceptance.step_reported (hs : Snapshots world) (acc : Acceptance world record)
    (h : world.step a = some world') : ∀ row ∈ world'.db.outbox, row.topicName = .smsDispatchResults → ∀ payload,
      row.payload = .message payload → payload.accepted = some true →
        ConfirmedCall (record ++ world.calls a world') payload payload.providerMessageId := by
  intro row hrow htopic payload hp haccepted
  rcases (hs.world_emits h).origin hrow with hold | ⟨clock, input, hemits, rfl⟩
  · exact (acc.reported row hold htopic payload hp haccepted).mono _
  · cases hemits with
    | created hm hnew => cases htopic
    | webhook row => cases htopic
    | advanced hexec hconsumed hemits =>
      have he := List.mem_of_getElem? hexec
      cases hemits with
      | follow hw hbefore htrigger hafter hin =>
        exact absurd htopic (hw.followUp_topic hin)
      | event hevent hsame =>
        rename_i execution
        generalize hstage : execution.stage = stage at hevent
        cases hevent with
        | retry job => exact absurd htopic (KafkaTopic.ne_results_of_isDispatch (isDispatch_dispatchTopicFor _))
        | dispatched job version dispatch =>
          cases hp
          obtain ⟨call, hcall, hmatches, hanswer⟩ :=
            acc.answered execution he job version dispatch hstage (Option.some.inj haccepted)
          exact ⟨call, List.mem_append_left _ hcall, ⟨hmatches.1, hmatches.2, hmatches.3, hmatches.4⟩, hanswer⟩
      | reconcile report message reason extra hstage => cases htopic

/-- Of the guarded works only the acknowledgement sets `sent_at` or `provider_message_id`. -/
private theorem Stage.WorkOf.sent {env : Environment} {stage : Stage} {work : GuardedWork}
    {next : MessageRow → Option Stage} (h : Stage.WorkOf env stage work next) :
    (∃ job : Job [.submitting], stage = .result job ∧ work = submitAckWork env.clock job.payload job.message ∧
      job.payload.accepted = some true) ∨
    (work.assign work.message).sentAt = work.message.sentAt ∧
      (work.assign work.message).providerMessageId = work.message.providerMessageId := by
  cases h with
  | ack job haccepted => exact .inl ⟨job, rfl, rfl, haccepted⟩
  | attempt job =>
    right
    have hstatus : job.message.status = .routed ∨ job.message.status = .submitting := by simpa using job.admitted
    change (attemptRow env.clock job.message job.message).sentAt = _ ∧
      (attemptRow env.clock job.message job.message).providerMessageId = _
    rw [attemptRow_eq env.clock hstatus]
    exact ⟨rfl, rfl⟩
  | accepted job route hroute => exact .inr ⟨rfl, rfl⟩
  | throttle job haction => exact .inr ⟨rfl, rfl⟩
  | unknown job => exact .inr ⟨rfl, rfl⟩
  | retrySubmit job retryPolicy nextRoute hpolicy hretry => exact .inr ⟨rfl, rfl⟩
  | failure job => exact .inr ⟨rfl, rfl⟩
  | delivered report message hstatus => exact .inr ⟨rfl, rfl⟩
  | dlrFailed report message hstatus => exact .inr ⟨rfl, rfl⟩

private theorem Acceptance.step_sent (hs : Snapshots world) (ev : Events world) (acc : Acceptance world record)
    (h : world.step a = some world') : ∀ message ∈ world'.db.messages, message.sentAt.isSome = true →
      ∃ call ∈ record ++ world.calls a world', call.For message ∧ ∃ result, call.answer = .ok result ∧
        result.accepted = true ∧ result.providerMessageId = message.providerMessageId := by
  intro message hm hsent
  cases hs.origin h hm with
  | kept hkept =>
    obtain ⟨call, hcall, hfor⟩ := acc.sent message hkept hsent
    exact ⟨call, List.mem_append_left _ hcall, hfor⟩
  | created clock submission hnew =>
    rw [hnew] at hsent
    cases hsent
  | written hexec hw hbefore hwritten hfits =>
    rename_i index env execution work next
    have he := List.mem_of_getElem? hexec
    have hcontent := (hw.rowStep rfl).content
    rw [← hwritten] at hcontent
    rcases hw.sent with ⟨job, hstage, hwork, haccepted⟩ | ⟨hsame, hid⟩
    · have hevent : execution.stage.event = some job.payload := by rw [hstage]; rfl
      obtain ⟨row, hrow, -, hhandles, hpayload⟩ := (ev.sourced execution he).row
      rw [hstage] at hhandles hpayload
      obtain ⟨call, hcall, hmatches, result, hanswer, hresult, hid⟩ :=
        acc.reported row hrow (of_decide_eq_true hhandles) job.payload (hpayload _ rfl) haccepted
      obtain ⟨described, hmem, hc, hphone, hsender, hbody⟩ := acc.describes ev he hevent
      -- the row of the table that the event describes is the one that is acknowledged
      have hrowEq : described = job.message := by
        rw [hwork] at hbefore
        exact (keyed_composite hs.keyed).unique hmem hbefore (hc.trans job.found.symm)
      rw [hrowEq] at hc hphone hsender hbody
      rw [hwork] at hcontent
      refine ⟨call, List.mem_append_left _ hcall, ?_, result, hanswer, hresult, ?_⟩
      · exact (hmatches.for_row hc hphone hsender hbody).of_content hcontent
      · rw [hid, hwritten, hwork]
        rfl
    · rw [hwritten, hsame] at hsent
      obtain ⟨call, hcall, hfor, hresult⟩ := acc.sent work.message hbefore hsent
      rw [← hid, ← hwritten] at hresult
      exact ⟨call, List.mem_append_left _ hcall, hfor.of_content hcontent, hresult⟩

theorem Acceptance.step (hs : Snapshots world) (ev : Events world) (acc : Acceptance world record)
    (h : world.step a = some world') : Acceptance world' (record ++ world.calls a world') where
  described := acc.step_described hs ev h
  answered := acc.step_answered hs h
  reported := acc.step_reported hs h
  sent := acc.step_sent hs ev h

end Step

abbrev CallLog := Recorded World ProviderCall

/-- The connectors of the step are the platform's own. -/
def Action.connected : Action → Prop
  | .advance _ env => env.services.Connected
  | _ => True

theorem acceptance_of_reaches {wallets : TenantId → Option WalletRow} {log : CallLog}
    (h : Reaches (recorded World.step World.calls) ⟨World.initial wallets, []⟩ log) :
    Acceptance log.state log.record :=
  h.record_invariant_reaches (Q := fun world => Snapshots world ∧ Events world)
    (fun _ hr => ⟨snapshots_of_reaches hr, events_of_reaches hr⟩) (Acceptance.initial wallets)
    fun _ _ _ _ hq acc hstep => acc.step hq.1 hq.2 hstep

theorem Services.Connected.confirmed {env : Environment} {db : Db} {stage : Stage} {call : ProviderCall}
    (h : env.services.Connected) (hcall : stage.call env db = some call) {result : DispatchResult}
    (hanswer : call.answer = .ok result) (haccepted : result.accepted = true) :
    Confirmed call.answer result.providerMessageId := by
  unfold Stage.call at hcall
  split at hcall
  · split at hcall
    · rename_i plan hplan
      cases plan with
      | answer protocol answer => cases hcall
      | http request =>
        cases hcall
        obtain ⟨reply, latencyMs, hsubmit⟩ := h.submit request
        rw [hanswer]
        exact HttpProviderService.confirmed (hsubmit.symm.trans hanswer) haccepted
      | smpp request =>
        cases hcall
        obtain ⟨reply, latencyMs, hsubmit⟩ := h.submitSm request
        rw [hanswer]
        exact SmppConnectorService.confirmed (hsubmit.symm.trans hanswer) haccepted
    · cases hcall
  · cases hcall

/-- The answers in the record are those of the connectors. -/
theorem connected_of_runs {wallets : TenantId → Option WalletRow} {log : CallLog}
    (h : Runs (recorded World.step World.calls) (fun _ a => Action.connected a) ⟨World.initial wallets, []⟩ log) :
    ∀ call ∈ log.record, ∀ result, call.answer = .ok result → result.accepted = true →
      Confirmed call.answer result.providerMessageId := by
  refine @Runs.record_invariant World Action ProviderCall World.step World.calls (fun _ a => Action.connected a)
    (fun _ record => ∀ call ∈ record, ∀ result, call.answer = .ok result → result.accepted = true →
      Confirmed call.answer result.providerMessageId) (fun _ => True) _ _ h (fun _ _ => trivial)
    (fun _ hcall => absurd hcall List.not_mem_nil) ?_
  intro world record a world' _ hrecord hconnected hstep call hcall result hanswer haccepted
  rcases List.mem_append.1 hcall with hold | hnew
  · exact hrecord call hold result hanswer haccepted
  · obtain ⟨index, env, execution, rfl, hexec, hmade⟩ := World.of_mem_calls hnew
    exact hconnected.confirmed hmade hanswer haccepted

/-- In every run, whatever is redelivered, repeated or cut off: a message that has been debited was handed to a provider
with its own number, sender and text, and the provider has confirmed that call, over HTTP
with a status of 200 to 299 or over SMPP with the command status 0, under the message id that the row holds. -/
theorem debited_confirmed {wallets : TenantId → Option WalletRow} {log : CallLog}
    (h : Runs (recorded World.step World.calls) (fun _ a => Action.connected a) ⟨World.initial wallets, []⟩ log)
    {message : MessageRow} (hm : message ∈ log.state.db.messages) (hdebited : message.billingState = .debited) :
    ∃ call ∈ log.record, call.For message ∧ Confirmed call.answer message.providerMessageId := by
  have hreaches : Reaches (recorded World.step World.calls) ⟨World.initial wallets, []⟩ log := h.reaches
  have hsent := ((marked_of_reaches hreaches.forget_reaches).rows message hm).debited.1 hdebited
  obtain ⟨call, hcall, hfor, result, hanswer, haccepted, hid⟩ :=
    (acceptance_of_reaches hreaches).sent message hm hsent
  have hconfirmed := connected_of_runs h call hcall result hanswer haccepted
  rw [hid] at hconfirmed
  exact ⟨call, hcall, hfor, hconfirmed⟩

/-- The platform's connectors, over a network that takes every HTTP request. -/
def Sample.connectors : Services :=
  { Sample.services .allow 2 Sample.refuses with
    submit := fun _ => HttpProviderService.submit (.response 202 ⟨none, some "p"⟩) 7
    submitSm := fun _ => SmppConnectorService.submitSm .timedOut 7 }

theorem Sample.connectors_connected (time : Timestamp) : (Action.advance 0 (env time connectors)).connected where
  submit := fun _ => ⟨.response 202 ⟨none, some "p"⟩, 7, rfl⟩
  submitSm := fun _ => ⟨.timedOut, 7, rfl⟩

/-- Two messages are submitted; the first is accepted by its provider and acknowledged, then the second is handed over. -/
def Sample.handedOver : List Action :=
  let advance (time : Timestamp) := Action.advance 0 (env time connectors)
  [.submit (clock 1) submission, .submit (clock 2) submission, .deliver 0, advance 3, .deliver 2, advance 4, advance 5,
    advance 6, .deliver 3, advance 7, .deliver 1, advance 8, .deliver 4, advance 9, advance 10]

theorem Sample.handedOver_connected : ∀ a ∈ handedOver, a.connected := by
  simp only [handedOver, List.forall_mem_cons]
  exact ⟨trivial, trivial, trivial, connectors_connected _, trivial, connectors_connected _, connectors_connected _,
    connectors_connected _, trivial, connectors_connected _, trivial, connectors_connected _, trivial,
    connectors_connected _, connectors_connected _, List.forall_mem_nil _⟩

/-- The run of these actions, every event handled once. -/
def Sample.handOver : Option CallLog :=
  execute (guarded (recorded World.step World.calls) fun log a => log.state.handlesOnce a)
    ⟨World.initial (wallets 100), []⟩ handedOver

theorem debited_confirmed_handedOver : ∃ log : CallLog, ∃ message ∈ log.state.db.messages,
    ∃ call ∈ log.record, call.For message ∧ Confirmed call.answer message.providerMessageId := by
  have h : Sample.handOver.any
      (fun log => log.state.db.messages.any fun message => decide (message.billingState = .debited)) = true := by
    decide +kernel
  obtain ⟨log, hrun, hany⟩ := (Option.any_eq_true _ _).1 h
  obtain ⟨message, hm, hdebited⟩ := List.any_eq_true.1 hany
  have hruns := (runs_of_execute_all Sample.handedOver_connected hrun).mono fun _ _ hok => hok.2
  exact ⟨log, message, hm, debited_confirmed hruns hm (of_decide_eq_true hdebited)⟩

end SmsPlatform
