import SmsPlatform.Pipeline.Submits

/-!
# One event per message

The runs in which every event is handled once.  The unconsumed event of a message is the heaviest it ever had
(`Tokens.heaviest`): a handler that ends consumes the event and enqueues at most one that is heavier.  So a message has
one event in flight, which is its turn to move, and no event meets the key of an earlier one.
-/

namespace SmsPlatform

/-! ### Runs that handle every event once -/

/-- An event is delivered only before it is handled, and no execution is cut off after its attempt has committed. -/
def World.handlesOnce (world : World) : Action → Bool
  | .deliver event => decide (event ∉ world.consumed) &&
      world.executions.all fun execution => decide (execution.event ≠ event)
  | .crash index => (world.executions[index]?).all fun execution => execution.stage.attempt.isNone
  | _ => true

structure Tokens (world : World) : Prop where
  alone : (world.executions.map (·.event)).Nodup
  pending : ∀ execution ∈ world.executions, execution.event ∉ world.consumed
  heaviest : ∀ row ∈ world.db.outbox, row.id ∉ world.consumed → ∀ composite, row.workflowFor composite = true →
    ∀ other ∈ world.db.outbox, other.workflowFor composite = true → other ≠ row → other.weight < row.weight
  kept : ∀ input ∈ world.db.suppressed, input.topicName.isWorkflow = false

theorem Tokens.initial (wallets : TenantId → Option WalletRow) : Tokens (World.initial wallets) where
  alone := List.nodup_nil
  pending := by
    intro execution he
    cases he
  heaviest := by
    intro row hrow
    cases hrow
  kept := by
    intro input hinput
    cases hinput

/-- Two unconsumed events of one message are one event. -/
theorem Tokens.unique {world : World} (tok : Tokens world) {row other : OutboxRow} (hrow : row ∈ world.db.outbox)
    (hother : other ∈ world.db.outbox) (hunconsumed : row.id ∉ world.consumed) (hunconsumed' : other.id ∉ world.consumed)
    {composite : MessageCompositeId} (hfor : row.workflowFor composite = true)
    (hfor' : other.workflowFor composite = true) : row = other := by
  by_contra hne
  have h := tok.heaviest row hrow hunconsumed composite hfor other hother hfor' (Ne.symm hne)
  have h' := tok.heaviest other hother hunconsumed' composite hfor' row hrow hfor hne
  omega

/-! ### What is enqueued -/

theorem Stage.Emits.exists_event {env : Environment} {db db' : Db} {stage : Stage} {input : OutboxEventInput}
    (h : Stage.Emits env db db' stage input) (ht : input.topicName.isWorkflow = true) :
    ∃ payload, stage.event = some payload := by
  cases h with
  | follow hw hcurrent htrigger hm hin =>
    cases hw with
    | delivered report message hstatus => cases hin
    | dlrFailed report message hstatus => cases hin
    | _ => exact ⟨_, rfl⟩
  | event h hsame => cases h <;> exact ⟨_, rfl⟩
  | reconcile report message reason extra hstage => cases ht

section Step

variable {world world' : World} {a : Action}

/-- A workflow event that an execution enqueues: any row under its key is an event of the same message, heavier than
the one the execution handles. -/
theorem Events.emits_workflow (ev : Events world) {env : Environment} {execution : Execution} {db' : Db}
    {input : OutboxEventInput} (he : execution ∈ world.executions)
    (h : Stage.Emits env world.db db' execution.stage input) (ht : input.topicName.isWorkflow = true) :
    ∃ row ∈ world.db.outbox, row.id = execution.event ∧ ∃ composite, row.workflowFor composite = true ∧
      ∀ messages other, Described messages other → other.dedupeKey = input.dedupeKey →
        other.workflowFor composite = true ∧ row.weight < other.weight := by
  obtain ⟨payload, hevent⟩ := h.exists_event ht
  obtain ⟨row, hrow, hid, hhandles, hpayload⟩ := (ev.sourced execution he).row
  have hp := hpayload _ (Stage.payload_of_event hevent)
  refine ⟨row, hrow, hid, payload.toComposite, ?_, ?_⟩
  · exact OutboxRow.workflowFor_eq_true.2 ⟨Stage.isWorkflow_of_event hevent hhandles, payload, hp, rfl⟩
  · intro messages other hd hkey
    rcases ev.emits_heavier he hevent h hrow hid with ⟨version, -, htopic⟩ | ⟨kind, version, hkind, hinput, hweight⟩
    · rw [htopic] at ht
      cases ht
    · obtain ⟨hfor, hweight'⟩ := hd.weight_of_key hkind (hkey.trans hinput)
      exact ⟨hfor, by rw [hweight']; exact hweight⟩

/-- A message that is being created has no event yet. -/
theorem Events.no_event_of_fresh (hs : Snapshots world) (ev : Events world) {row : OutboxRow}
    (hrow : row ∈ world.db.outbox) {composite : MessageCompositeId} (hfor : row.workflowFor composite = true) :
    composite.id < world.db.nextMessageId := by
  obtain ⟨message, hm, hc⟩ := ev.exists_message hrow hfor
  have hfresh := hs.fresh message hm
  rwa [← hc]

/-- The earlier events of the message of a new event are lighter, and consumed. -/
theorem Tokens.emitted (hs : Snapshots world) (ev : Events world) (ev' : Events world') (tok : Tokens world)
    (hsub : ∀ event ∈ world.consumed, event ∈ world'.consumed) {clock : TxClock} {id : Nat}
    {input : OutboxEventInput} (h : World.Emits world world' a input) (hrow : input.row clock id ∈ world'.db.outbox)
    {composite : MessageCompositeId} (hfor : (input.row clock id).workflowFor composite = true) {old : OutboxRow}
    (hold : old ∈ world.db.outbox) (hfor' : old.workflowFor composite = true) :
    old.weight < (input.row clock id).weight ∧ old.id ∈ world'.consumed := by
  have hwork := (OutboxRow.workflowFor_eq_true.1 hfor).1
  cases h with
  | created hm hmessage =>
    obtain ⟨-, payload, hp, hc⟩ := OutboxRow.workflowFor_eq_true.1 hfor
    cases hp
    have hfresh := ev.no_event_of_fresh hs hold hfor'
    rw [← hc] at hfresh
    have hid := congrArg MessageRow.id hmessage
    exact absurd (hfresh.trans_eq hid.symm) (lt_irrefl _)
  | webhook report => cases hwork
  | advanced hexec hconsumed hemits =>
    have he := List.mem_of_getElem? hexec
    obtain ⟨row, hmem, hid, composite', hrowfor, hheavier⟩ := ev.emits_workflow he hemits hwork
    obtain ⟨hnewfor, hweight⟩ := hheavier _ _ (ev'.described _ hrow) rfl
    obtain rfl := OutboxRow.workflowFor_unique hfor hnewfor
    have hunconsumed : row.id ∉ world.consumed := by
      rw [hid]
      exact tok.pending _ he
    by_cases hsame : old = row
    · rw [hsame, hid]
      exact ⟨hweight, hconsumed⟩
    · have hlighter := tok.heaviest row hmem hunconsumed composite hrowfor old hold hfor' hsame
      refine ⟨hlighter.trans hweight, ?_⟩
      by_contra hleft
      have hleft' : old.id ∉ world.consumed := fun hconsumed => hleft (hsub _ hconsumed)
      exact hsame (tok.unique hold hmem hleft' hunconsumed hfor' hrowfor)

/-! ### The invariant is kept -/

theorem World.Stepped.consumed_subset (h : World.Stepped world a world') :
    ∀ event ∈ world.consumed, event ∈ world'.consumed := by
  intro event hevent
  cases h with
  | returned hrow hstart => exact List.mem_cons_of_mem _ hevent
  | finished hexec hadvance => exact List.mem_cons_of_mem _ hevent
  | _ => exact hevent

private theorem Tokens.step_heaviest (hs : Snapshots world) (ev : Events world) (ev' : Events world')
    (tok : Tokens world) (h : world.step a = some world') {row : OutboxRow} (hrow : row ∈ world'.db.outbox)
    (hunconsumed : row.id ∉ world'.consumed) {composite : MessageCompositeId} (hfor : row.workflowFor composite = true)
    {other : OutboxRow} (hother : other ∈ world'.db.outbox) (hfor' : other.workflowFor composite = true)
    (hne : other ≠ row) : other.weight < row.weight := by
  have hsub := (World.step_cases (keyed_composite hs.keyed) h).consumed_subset
  have houtbox := hs.world_emits h
  rcases houtbox.origin hrow with hold | ⟨clock, input, hemits, rfl⟩
  · rcases houtbox.origin hother with hold' | ⟨clock, input, hemits, rfl⟩
    · exact tok.heaviest row hold (fun hconsumed => hunconsumed (hsub _ hconsumed)) composite hfor other hold' hfor' hne
    · -- the new event has consumed the one it follows
      exact absurd (tok.emitted hs ev ev' hsub hemits hother hfor' hold hfor).2 hunconsumed
  · rcases houtbox.origin hother with hold' | ⟨clock', input', hemits', rfl⟩
    · exact (tok.emitted hs ev ev' hsub hemits hrow hfor hold' hfor').1
    · exact absurd (ev'.row_unique hother hrow rfl) hne

private theorem Tokens.step_kept (hs : Snapshots world) (ev : Events world) (tok : Tokens world)
    (h : world.step a = some world') : ∀ input ∈ world'.db.suppressed, input.topicName.isWorkflow = false := by
  intro input hinput
  cases hs.world_emits h with
  | same ho hsup =>
    rw [hsup] at hinput
    exact tok.kept input hinput
  | enqueued clock event hemits ho hsup =>
    rw [hsup] at hinput
    rcases world.db.enqueue_outbox clock event with ⟨⟨row, hrow, -, hkey⟩, -, hsuppressed⟩ | ⟨-, -, hsuppressed⟩
    · rw [hsuppressed] at hinput
      rcases List.mem_cons.1 hinput with rfl | hinput
      · by_contra hwork
        rw [Bool.not_eq_false] at hwork
        -- a row with the key of the new event: it is an event of the same message
        cases hemits with
        | created hm hmessage =>
          obtain ⟨payload, hp, hc, -, ht, -⟩ := (ev.described row hrow).of_acceptedKey hkey
          have hfresh := ev.no_event_of_fresh hs hrow
            (OutboxRow.workflowFor_eq_true.2 ⟨by rw [ht]; rfl, payload, hp, hc⟩)
          have hid := congrArg MessageRow.id hmessage
          exact absurd (hfresh.trans_eq hid.symm) (lt_irrefl _)
        | webhook report => cases hwork
        | advanced hexec hconsumed hemits =>
          have he := List.mem_of_getElem? hexec
          obtain ⟨source, hmem, hid, composite, hsource, hheavier⟩ := ev.emits_workflow he hemits hwork
          obtain ⟨hfor, hweight⟩ := hheavier _ row (ev.described row hrow) hkey
          have hunconsumed : source.id ∉ world.consumed := by
            rw [hid]
            exact tok.pending _ he
          by_cases hsame : row = source
          · rw [hsame] at hweight
            exact absurd hweight (lt_irrefl _)
          · have hlighter := tok.heaviest source hmem hunconsumed composite hsource row hrow hfor hsame
            omega
      · exact tok.kept input hinput
    · rw [hsuppressed] at hinput
      exact tok.kept input hinput

/-- The events of the executions after a step. -/
private theorem World.events_perm {index : Nat} {execution : Execution}
    (hexec : world.executions[index]? = some execution) : (world.executions.map (·.event)).Perm
      (execution.event :: (world.executions.eraseIdx index).map (·.event)) :=
  (Rows.perm_cons_eraseIdx hexec).map _

private theorem Tokens.step_alone (hs : Snapshots world) (tok : Tokens world) (hok : world.handlesOnce a = true)
    (h : world.step a = some world') : (world'.executions.map (·.event)).Nodup ∧
      ∀ execution ∈ world'.executions, execution.event ∉ world'.consumed := by
  have herase : ∀ index, ((world.executions.eraseIdx index).map (·.event)).Nodup :=
    fun index => tok.alone.sublist ((List.eraseIdx_sublist _ _).map _)
  have hpending : ∀ index, ∀ execution ∈ world.executions.eraseIdx index, execution.event ∉ world.consumed :=
    fun index execution he => tok.pending execution (List.mem_of_mem_eraseIdx he)
  have hstepped := World.step_cases (keyed_composite hs.keyed) h
  clear h
  cases hstepped with
  | started hrow hstart =>
    unfold World.handlesOnce at hok
    simp only [Bool.and_eq_true, decide_eq_true_eq, List.all_eq_true] at hok
    obtain ⟨hunconsumed, hidle⟩ := hok
    constructor
    · rw [List.map_cons, List.nodup_cons]
      refine ⟨?_, tok.alone⟩
      intro hmem
      obtain ⟨execution, he, hid⟩ := List.mem_map.1 hmem
      exact hidle execution he hid
    · intro execution he
      rcases List.mem_cons.1 he with rfl | he
      · exact hunconsumed
      · exact tok.pending execution he
  | returned hrow hstart =>
    unfold World.handlesOnce at hok
    simp only [Bool.and_eq_true, decide_eq_true_eq, List.all_eq_true] at hok
    refine ⟨tok.alone, ?_⟩
    intro execution he hconsumed
    rcases List.mem_cons.1 hconsumed with hid | hconsumed
    · exact hok.2 execution he hid
    · exact tok.pending execution he hconsumed
  | crashed hexec => exact ⟨herase _, hpending _⟩
  | threw hexec hadvance => exact ⟨herase _, hpending _⟩
  | continued hexec hadvance =>
    have hunconsumed := tok.pending _ (List.mem_of_getElem? hexec)
    refine ⟨(World.events_perm hexec).nodup_iff.1 tok.alone, ?_⟩
    intro execution he
    rcases List.mem_cons.1 he with rfl | he
    · exact hunconsumed
    · exact hpending _ execution he
  | finished hexec hadvance =>
    have hnodup := (World.events_perm hexec).nodup_iff.1 tok.alone
    refine ⟨herase _, ?_⟩
    intro execution he hconsumed
    rcases List.mem_cons.1 hconsumed with hid | hconsumed
    · exact (List.nodup_cons.1 hnodup).1 (List.mem_map.2 ⟨execution, he, hid⟩)
    · exact hpending _ execution he hconsumed
  | _ => exact ⟨tok.alone, tok.pending⟩

theorem Tokens.step (hs : Snapshots world) (ev : Events world) (ev' : Events world') (tok : Tokens world)
    (hok : world.handlesOnce a = true) (h : world.step a = some world') : Tokens world' := by
  obtain ⟨halone, hpending⟩ := tok.step_alone hs hok h
  refine ⟨halone, hpending, ?_, tok.step_kept hs ev h⟩
  intro row hrow hunconsumed composite hfor other hother hfor' hne
  exact tok.step_heaviest hs ev ev' h hrow hunconsumed hfor hother hfor' hne

end Step

theorem tokens_of_runs {wallets : TenantId → Option WalletRow} {world : World}
    (h : Transition.Runs World.step (fun world a => world.handlesOnce a = true) (World.initial wallets) world) :
    Tokens world :=
  h.invariant_of (Q := fun world => Snapshots world ∧ Events world)
    (fun _ hr => ⟨snapshots_of_reaches hr.reaches, events_of_reaches hr.reaches⟩) (Tokens.initial wallets)
    fun _ _ _ hq hq' tok hok hstep => tok.step hq.1 hq.2 hq'.2 hok hstep

/-! ### Attempts are counted -/

/-- The provider calls of a message, made or about to be made. -/
def World.attemptsOf (world : World) (composite : MessageCompositeId) : Nat :=
  world.acted.countP fun submit => decide (submit.message = composite)

/-- Every provider call of a message is counted in its row. -/
def World.Counted (world : World) : Prop :=
  ∀ composite, world.attemptsOf composite = 0 ∨ ∃ message ∈ world.db.messages, message.composite = composite ∧
    world.attemptsOf composite ≤ message.attemptCount

theorem World.Counted.step {world world' : World} {a : Action} (hs : Snapshots world) (hs' : Snapshots world')
    (hcounted : world.Counted) (h : world.step a = some world') : world'.Counted := by
  intro composite
  -- a message of the table is still there, with no attempt taken off its count
  have hkept : ∀ message ∈ world.db.messages, ∃ message' ∈ world'.db.messages,
      message'.composite = message.composite ∧ message.attemptCount ≤ message'.attemptCount := by
    intro message hm
    rcases hs.written_from h hm with hsame | ⟨index, env, execution, row', -, -, ⟨work, next, hw, rfl, rfl⟩, hstep, hm'⟩
    · exact ⟨message, hsame, rfl, le_rfl⟩
    · refine ⟨_, hm', MessageRow.composite_of_content hstep.content, ?_⟩
      rcases hw.attemptCount with hcount | ⟨hcount, -⟩ <;> omega
  cases (World.step_cases (keyed_composite hs.keyed) h).actedStep hs hs' with
  | fewer hfewer =>
    have hle : world'.attemptsOf composite ≤ world.attemptsOf composite := hfewer.countP_le _
    rcases hcounted composite with hzero | ⟨message, hm, hc, hcount⟩
    · exact .inl (by omega)
    · obtain ⟨message', hm', hc', hle'⟩ := hkept message hm
      exact .inr ⟨message', hm', hc'.trans hc, by omega⟩
  | opened execution job he hstage hcurrent hgone hupdated hm hperm =>
    rename_i env updated
    have hattempts : world'.attemptsOf composite = world.attemptsOf composite +
        if job.message.composite = composite then 1 else 0 := by
      unfold World.attemptsOf
      rw [hperm.countP_eq, List.countP_cons]
      simp
    by_cases hsame : job.message.composite = composite
    · rw [if_pos hsame] at hattempts
      have hstatus : job.message.status = .routed ∨ job.message.status = .submitting := by simpa using job.admitted
      rw [attemptRow_eq env.clock hstatus] at hupdated
      refine .inr ⟨updated, hm, ?_, ?_⟩
      · rw [hupdated, ← hsame]
        rfl
      · have hbefore : world.attemptsOf composite ≤ job.message.attemptCount := by
          rcases hcounted composite with hzero | ⟨message, hm', hc, hcount⟩
          · omega
          · rwa [(keyed_composite hs.keyed).unique hm' hcurrent (hc.trans hsame.symm)] at hcount
        have hcount : updated.attemptCount = job.message.attemptCount + 1 := by rw [hupdated]
        omega
    · rw [if_neg hsame, Nat.add_zero] at hattempts
      rw [hattempts]
      rcases hcounted composite with hzero | ⟨message, hm', hc, hcount⟩
      · exact .inl hzero
      · obtain ⟨message', hm'', hc', hle'⟩ := hkept message hm'
        exact .inr ⟨message', hm'', hc'.trans hc, hcount.trans hle'⟩

theorem counted_of_reaches {wallets : TenantId → Option WalletRow} {world : World}
    (h : Transition.Reaches World.step (World.initial wallets) world) : world.Counted :=
  h.invariant_of (fun _ hr => snapshots_of_reaches hr.reaches) (fun _ => .inl rfl)
    fun _ _ _ hs hs' hcounted _ hstep => hcounted.step hs hs' hstep

/-- A message is handed to providers at most as often as its row counts attempts, in every run. -/
theorem World.Counted.submits_le {world : World} (hs : Snapshots world) (hcounted : world.Counted)
    {message : MessageRow} (hm : message ∈ world.db.messages) :
    (world.submitsOf message.composite).length ≤ message.attemptCount := by
  have hle : (world.submitsOf message.composite).length ≤ world.attemptsOf message.composite := by
    unfold World.submitsOf World.attemptsOf World.acted
    rw [← List.countP_eq_length_filter, List.countP_append]
    exact Nat.le_add_right _ _
  rcases hcounted message.composite with hzero | ⟨row, hrow, hc, hcount⟩
  · omega
  · rw [(keyed_composite hs.keyed).unique hrow hm hc] at hcount
    omega

end SmsPlatform
