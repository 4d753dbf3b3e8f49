import SmsPlatform.Database

/-!
# The outbox: enqueue and the dedupe keys

`enqueue` is the INSERT of `outbox.service.ts`, with `ON CONFLICT (event_date, dedupe_key) DO NOTHING`.  The
workflow's dedupe keys name the message, the kind of event and a row version; `workflowKey_injective` shows that
the rendered text determines all three.
-/

namespace SmsPlatform

open Segments

/-! ### Enqueue -/

/-- The conflict target of the INSERT. -/
def Db.hasOutboxKey (db : Db) (eventDate : SqlDate) (dedupeKey : String) : Bool :=
  db.outbox.any fun row => decide (row.eventDate = eventDate ∧ row.dedupeKey = dedupeKey)

/-- The row that an INSERT of `event` adds. -/
def OutboxEventInput.row (event : OutboxEventInput) (clock : TxClock) (id : Nat) : OutboxRow where
  id := id
  eventDate := clock.currentDate
  tenantId := event.tenantId
  aggregateType := event.aggregateType
  aggregateId := event.aggregateId
  eventType := event.eventType
  topicName := event.topicName
  partitionKey := event.partitionKey
  dedupeKey := event.dedupeKey
  payload := event.payload
  nextAttemptAt := event.nextAttemptAt.getD clock.clientNow

def Db.enqueue (db : Db) (clock : TxClock) (event : OutboxEventInput) : Db :=
  if db.hasOutboxKey clock.currentDate event.dedupeKey then { db with suppressed := event :: db.suppressed }
  else { db with outbox := db.outbox ++ [event.row clock db.outbox.length] }

def enqueue (clock : TxClock) (event : OutboxEventInput) : Tx Unit :=
  modify fun db => db.enqueue clock event

section Enqueue

variable (db : Db) (clock : TxClock) (event : OutboxEventInput)

@[simp] theorem Db.enqueue_wallets : (db.enqueue clock event).wallets = db.wallets := by
  unfold Db.enqueue; split <;> rfl

@[simp] theorem Db.enqueue_transactions : (db.enqueue clock event).transactions = db.transactions := by
  unfold Db.enqueue; split <;> rfl

@[simp] theorem Db.enqueue_messages : (db.enqueue clock event).messages = db.messages := by
  unfold Db.enqueue; split <;> rfl

@[simp] theorem Db.enqueue_nextMessageId : (db.enqueue clock event).nextMessageId = db.nextMessageId := by
  unfold Db.enqueue; split <;> rfl

@[simp] theorem Db.enqueue_messageLogs : (db.enqueue clock event).messageLogs = db.messageLogs := by
  unfold Db.enqueue; split <;> rfl

@[simp] theorem Db.enqueue_dlrWebhooks : (db.enqueue clock event).dlrWebhooks = db.dlrWebhooks := by
  unfold Db.enqueue; split <;> rfl

@[simp] theorem Db.enqueue_reconciliationEvents :
    (db.enqueue clock event).reconciliationEvents = db.reconciliationEvents := by
  unfold Db.enqueue; split <;> rfl

theorem Db.hasOutboxKey_eq_true {eventDate : SqlDate} {dedupeKey : String} :
    db.hasOutboxKey eventDate dedupeKey = true ↔
      ∃ row ∈ db.outbox, row.eventDate = eventDate ∧ row.dedupeKey = dedupeKey := by
  simp [Db.hasOutboxKey]

/-- The outbox after an enqueue: unchanged when a row of the day has the key, one row longer otherwise. -/
theorem Db.enqueue_outbox :
    ((∃ row ∈ db.outbox, row.eventDate = clock.currentDate ∧ row.dedupeKey = event.dedupeKey) ∧
        (db.enqueue clock event).outbox = db.outbox ∧ (db.enqueue clock event).suppressed = event :: db.suppressed) ∨
      ((∀ row ∈ db.outbox, row.eventDate = clock.currentDate → row.dedupeKey ≠ event.dedupeKey) ∧
        (db.enqueue clock event).outbox = db.outbox ++ [event.row clock db.outbox.length] ∧
        (db.enqueue clock event).suppressed = db.suppressed) := by
  unfold Db.enqueue
  by_cases h : db.hasOutboxKey clock.currentDate event.dedupeKey = true
  · rw [if_pos h]
    exact .inl ⟨db.hasOutboxKey_eq_true.1 h, rfl, rfl⟩
  · rw [if_neg h]
    rw [Db.hasOutboxKey_eq_true] at h
    exact .inr ⟨fun row hr hd hk => h ⟨row, hr, hd, hk⟩, rfl, rfl⟩

/-- After an enqueue the outbox holds a row with the event's key. -/
theorem Db.exists_key_of_enqueue : ∃ row ∈ (db.enqueue clock event).outbox, row.dedupeKey = event.dedupeKey := by
  rcases db.enqueue_outbox clock event with ⟨⟨row, hr, _, hk⟩, ho, _⟩ | ⟨_, ho, _⟩
  · exact ⟨row, ho ▸ hr, hk⟩
  · exact ⟨event.row clock db.outbox.length, by rw [ho]; simp, rfl⟩

theorem Db.outbox_prefix_enqueue : ∃ tail, (db.enqueue clock event).outbox = db.outbox ++ tail := by
  rcases db.enqueue_outbox clock event with ⟨_, ho, _⟩ | ⟨_, ho, _⟩
  · exact ⟨[], by rw [ho, List.append_nil]⟩
  · exact ⟨_, ho⟩

end Enqueue

/-! ### The workflow's keys -/

/-- The kinds of workflow event of a message, by the part of the dedupe key that names them. -/
inductive WorkflowKind
  | dispatch | retryDispatch | fraudThrottle | dispatchResult | retry | dispatchUncertain
  deriving DecidableEq, Repr

def WorkflowKind.text : WorkflowKind → String
  | .dispatch => "dispatch"
  | .retryDispatch => "retry-dispatch"
  | .fraudThrottle => "fraud-throttle"
  | .dispatchResult => "dispatch-result"
  | .retry => "retry"
  | .dispatchUncertain => "dispatch-uncertain"

/-- `message:${aggregateId}:${kind}:${version}`. -/
def workflowKey (composite : MessageCompositeId) (kind : WorkflowKind) (version : Nat) : String :=
  joinColon ["message", composite.submitDate.text, composite.tenantId.text, composite.id.repr, kind.text, version.repr]

/-- `message:${aggregateId}:accepted`. -/
def acceptedKey (composite : MessageCompositeId) : String :=
  joinColon ["message", composite.submitDate.text, composite.tenantId.text, composite.id.repr, "accepted"]

private theorem colonFree_workflow (composite : MessageCompositeId) (kind : WorkflowKind) (version : Nat) :
    ∀ s ∈ ["message", composite.submitDate.text, composite.tenantId.text, composite.id.repr, kind.text,
      version.repr], ':' ∉ s.toList := by
  simp only [List.mem_cons, List.not_mem_nil, or_false]
  rintro s (rfl | rfl | rfl | rfl | rfl | rfl)
  · decide
  · exact composite.submitDate.colonFree
  · exact composite.tenantId.colonFree
  · exact colon_not_mem_repr _
  · cases kind <;> decide
  · exact colon_not_mem_repr _

private theorem colonFree_accepted (composite : MessageCompositeId) :
    ∀ s ∈ ["message", composite.submitDate.text, composite.tenantId.text, composite.id.repr, "accepted"],
      ':' ∉ s.toList := by
  simp only [List.mem_cons, List.not_mem_nil, or_false]
  rintro s (rfl | rfl | rfl | rfl | rfl)
  · decide
  · exact composite.submitDate.colonFree
  · exact composite.tenantId.colonFree
  · exact colon_not_mem_repr _
  · decide

theorem composite_eq_of_texts {c d : MessageCompositeId} (h₁ : c.submitDate.text = d.submitDate.text)
    (h₂ : c.tenantId.text = d.tenantId.text) (h₃ : c.id.repr = d.id.repr) : c = d := by
  obtain ⟨cd, ct, ci⟩ := c
  obtain ⟨dd, dt, di⟩ := d
  have e₁ : cd = dd := Segment.ext_text h₁
  have e₂ : ct = dt := Segment.ext_text h₂
  have e₃ : ci = di := repr_injective h₃
  rw [e₁, e₂, e₃]

/-- A workflow key determines the message, the kind of event and the version it was built from. -/
theorem workflowKey_injective {c d : MessageCompositeId} {k l : WorkflowKind} {v w : Nat}
    (h : workflowKey c k v = workflowKey d l w) : c = d ∧ k = l ∧ v = w := by
  have hs := joinColon_injective (colonFree_workflow c k v) (colonFree_workflow d l w) (by simp) (by simp) h
  simp only [List.cons.injEq, and_true, true_and] at hs
  obtain ⟨h₁, h₂, h₃, h₄, h₅⟩ := hs
  refine ⟨composite_eq_of_texts h₁ h₂ h₃, ?_, repr_injective h₅⟩
  revert h₄
  cases k <;> cases l <;> decide

theorem acceptedKey_injective {c d : MessageCompositeId} (h : acceptedKey c = acceptedKey d) : c = d := by
  have hs := joinColon_injective (colonFree_accepted c) (colonFree_accepted d) (by simp) (by simp) h
  simp only [List.cons.injEq, and_true, true_and] at hs
  exact composite_eq_of_texts hs.1 hs.2.1 hs.2.2

theorem acceptedKey_ne_workflowKey (c d : MessageCompositeId) (k : WorkflowKind) (v : Nat) :
    acceptedKey c ≠ workflowKey d k v := by
  intro h
  have hs := joinColon_injective (colonFree_accepted c) (colonFree_workflow d k v) (by simp) (by simp) h
  simpa using congrArg List.length hs

end SmsPlatform
