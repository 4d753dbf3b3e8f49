import SmsPlatform.Messages.GuardedWork
import SmsPlatform.Messages.Workflow

/-!
# The handlers' transactions as guarded work

For each transaction that writes a message, its data as a `GuardedWork`, and the theorem that the handler's
statements are the run of that work.  The transaction of a fraud block updates the message twice under one `now()`;
`fraudBlockTx_fails` shows that the trigger lets none of them through.
-/

namespace SmsPlatform

open StateExcept

/-! ### The works -/

def acceptedWork (clock : TxClock) (payload : MessageEventPayload) (message : MessageRow) (route : RouteDecision) :
    GuardedWork where
  message := message
  ref := payload.toComposite
  assign := transitionedRow clock .routed (acceptedFields message route) false
  billing := none
  log := fun updated => logRow payload.toComposite "routed" (some .accepted) (some .routed) (some route.providerId)
    none updated.attemptCount
  followUp := fun updated => .event (dispatchEvent payload message route updated)

def fraudThrottleWork (clock : TxClock) (payload : MessageEventPayload) (message : MessageRow)
    (evaluation : FraudEvaluationResult) : GuardedWork where
  message := message
  ref := payload.toComposite
  assign := patchedRow clock (fraudThrottleFields evaluation)
  billing := none
  log := fun updated => logRow payload.toComposite "submit_throttled" (some .routed) (some .routed)
    message.providerId none updated.attemptCount
  followUp := fun updated => .event (fraudThrottleEvent clock payload message updated)

/-- The row a new attempt leaves: `routed` becomes `submitting`, a further attempt only counts. -/
def attemptRow (clock : TxClock) (message : MessageRow) : MessageRow → MessageRow :=
  if message.status = .routed then transitionedRow clock .submitting {} true
  else patchedRow clock { attemptCount := some (message.attemptCount + 1) }

/-- Either way the row is `submitting` and has counted one attempt more. -/
theorem attemptRow_eq (clock : TxClock) {message : MessageRow}
    (h : message.status = .routed ∨ message.status = .submitting) :
    attemptRow clock message message = { message.bump clock with
      status := .submitting
      attemptCount := message.attemptCount + 1 } := by
  unfold attemptRow
  rcases h with h | h
  · rw [if_pos h]
    rfl
  · rw [if_neg (by rw [h]; decide), ← h]
    rfl

def submitAttemptWork (clock : TxClock) (payload : MessageEventPayload) (message : MessageRow) : GuardedWork where
  message := message
  ref := payload.toComposite
  assign := attemptRow clock message
  billing := none
  log := fun updated => logRow payload.toComposite "submit_attempt" (some message.status) (some .submitting)
    updated.providerId updated.providerMessageId updated.attemptCount
  followUp := fun _ => .nothing

def submitAckWork (clock : TxClock) (payload : MessageEventPayload) (message : MessageRow) : GuardedWork where
  message := message
  ref := payload.toComposite
  assign := transitionedRow clock .providerAccepted (submitAckFields payload) false
  billing := some ⟨.debit, debitKey payload.toComposite⟩
  log := fun updated => logRow payload.toComposite "submit_ack" (some .submitting) (some .providerAccepted)
    updated.providerId payload.providerMessageId updated.attemptCount
  followUp := fun _ => .nothing

def submitUnknownWork (clock : TxClock) (payload : MessageEventPayload) (message : MessageRow) : GuardedWork where
  message := message
  ref := payload.toComposite
  assign := patchedRow clock (submitUnknownFields payload)
  billing := none
  log := fun updated => logRow payload.toComposite "submit_unknown" (some .submitting) (some .submitting)
    updated.providerId payload.providerMessageId updated.attemptCount
  followUp := fun updated => .event (uncertainEvent payload message updated)

def submitRetryWork (clock : TxClock) (payload : MessageEventPayload) (message : MessageRow)
    (retryPolicy : RetryPolicy) (nextRoute : Option RouteDecision) : GuardedWork where
  message := message
  ref := payload.toComposite
  assign := patchedRow clock (retryFields payload message nextRoute)
  billing := none
  log := fun updated => logRow payload.toComposite "submit_retry_scheduled" (some .submitting) (some .submitting)
    updated.providerId payload.providerMessageId updated.attemptCount
  followUp := fun updated => .event (retryEvent clock payload message retryPolicy nextRoute updated)

def finalFailureWork (clock : TxClock) (payload : MessageEventPayload) (message : MessageRow) : GuardedWork where
  message := message
  ref := payload.toComposite
  assign := transitionedRow clock .failed (finalFailureFields payload) false
  billing := some ⟨.release, releaseKey payload.toComposite.submitDate.text payload.toComposite .final⟩
  log := fun updated => logRow payload.toComposite "failed" (some .submitting) (some .failed) updated.providerId
    payload.providerMessageId updated.attemptCount
  followUp := fun _ => .nothing

def dlrDeliveredWork (clock : TxClock) (webhook : DlrWebhookRow) (message : MessageRow) : GuardedWork where
  message := message
  ref := message.composite
  assign := transitionedRow clock .delivered {} false
  billing := none
  log := fun updated => logRow message.composite "delivered" (some .providerAccepted) (some .delivered)
    updated.providerId updated.providerMessageId updated.attemptCount
  followUp := fun _ => .webhook webhook message

def dlrFailedWork (clock : TxClock) (printer : DatePrinter) (webhook : DlrWebhookRow) (message : MessageRow) :
    GuardedWork where
  message := message
  ref := message.composite
  assign := transitionedRow clock .failed (dlrFailedFields message) false
  billing :=
    if message.billingState = .reserved then
      some ⟨.release, releaseKey (printer message.submitDate) message.composite .dlr⟩
    else none
  log := fun updated => logRow message.composite "failed" (some message.status) (some .failed)
    updated.providerId updated.providerMessageId updated.attemptCount
  followUp := fun _ => .webhook webhook message

/-! ### The handlers run them -/

section Equations

variable (clock : TxClock) (payload : MessageEventPayload) (message : MessageRow)

/-- A transaction whose last statement is the INSERT of its log row. -/
private theorem then_nothing (x : Tx Unit) :
    (do x; FollowUp.nothing.run clock; pure () : Tx Unit) = x := by
  show (x >>= fun _ => (pure () : Tx Unit) >>= fun _ => pure ()) = x
  simp only [pure_bind, bind_pure_unit]

/-- Run a guarded work for its effect alone. -/
def GuardedWork.exec (work : GuardedWork) (clock : TxClock) : Tx Unit := do
  let _ ← work.run clock

theorem handleAcceptedTx_eq (route : RouteDecision) (h : message.status = .accepted) :
    handleAcceptedTx clock payload message route = (acceptedWork clock payload message route).exec clock := by
  simp only [handleAcceptedTx, transitionMessage, h, AllowedTransitions, GuardedWork.exec, GuardedWork.run,
    GuardedWork.bill, acceptedWork, bind_assoc, pure_bind]
  rfl

theorem fraudThrottleTx_eq (evaluation : FraudEvaluationResult) :
    fraudThrottleTx clock payload message evaluation =
      (fraudThrottleWork clock payload message evaluation).exec clock := by
  simp only [fraudThrottleTx, patchMessage, GuardedWork.exec, GuardedWork.run, GuardedWork.bill, fraudThrottleWork,
    bind_assoc, pure_bind]
  rfl

theorem submitAttemptTx_eq (h : message.status = .routed ∨ message.status = .submitting) :
    submitAttemptTx clock payload message = (submitAttemptWork clock payload message).run clock := by
  rcases h with h | h
  · simp only [submitAttemptTx, enterSubmitting, transitionMessage, h, AllowedTransitions, GuardedWork.run,
      GuardedWork.bill, submitAttemptWork, attemptRow, pure_bind]
    rfl
  · simp only [submitAttemptTx, enterSubmitting, patchMessage, h, GuardedWork.run, GuardedWork.bill,
      submitAttemptWork, attemptRow, pure_bind]
    rfl

theorem submitAckTx_eq (h : message.status = .submitting) :
    submitAckTx clock payload message = (submitAckWork clock payload message).exec clock := by
  simp only [submitAckTx, transitionMessage, h, AllowedTransitions, GuardedWork.exec, GuardedWork.run,
    GuardedWork.bill, submitAckWork, debitReservedWallet, bind_assoc, pure_bind, then_nothing]
  rfl

theorem submitUnknownTx_eq :
    submitUnknownTx clock payload message = (submitUnknownWork clock payload message).exec clock := by
  simp only [submitUnknownTx, patchMessage, GuardedWork.exec, GuardedWork.run, GuardedWork.bill, submitUnknownWork,
    bind_assoc, pure_bind]
  rfl

theorem submitRetryTx_eq (retryPolicy : RetryPolicy) (nextRoute : Option RouteDecision) :
    submitRetryTx clock payload message retryPolicy nextRoute =
      (submitRetryWork clock payload message retryPolicy nextRoute).exec clock := by
  simp only [submitRetryTx, patchMessage, GuardedWork.exec, GuardedWork.run, GuardedWork.bill, submitRetryWork,
    bind_assoc, pure_bind]
  rfl

theorem finalFailureTx_eq (h : message.status = .submitting) :
    finalFailureTx clock payload message = (finalFailureWork clock payload message).exec clock := by
  simp only [finalFailureTx, transitionMessage, h, AllowedTransitions, GuardedWork.exec, GuardedWork.run,
    GuardedWork.bill, finalFailureWork, releaseReservedWallet, bind_assoc, pure_bind, then_nothing]
  rfl

theorem dlrDeliveredTx_eq (webhook : DlrWebhookRow) (h : message.status = .providerAccepted) :
    dlrDeliveredTx clock webhook message = (dlrDeliveredWork clock webhook message).exec clock := by
  simp only [dlrDeliveredTx, transitionMessage, h, AllowedTransitions, GuardedWork.exec, GuardedWork.run,
    GuardedWork.bill, dlrDeliveredWork, bind_assoc, pure_bind]
  rfl

theorem dlrFailedTx_eq (printer : DatePrinter) (webhook : DlrWebhookRow)
    (h : message.status = .providerAccepted ∨ message.status = .submitting) :
    dlrFailedTx clock printer webhook message = (dlrFailedWork clock printer webhook message).exec clock := by
  have hnext : MessageStatus.failed ∈ AllowedTransitions message.status := by
    rcases h with h | h <;> rw [h] <;> decide
  by_cases hb : message.billingState = .reserved
  · simp only [dlrFailedTx, transitionMessage, if_pos hnext, if_pos hb, GuardedWork.exec, GuardedWork.run,
      GuardedWork.bill, dlrFailedWork, releaseReservedWallet, bind_assoc, pure_bind]
    rfl
  · simp only [dlrFailedTx, transitionMessage, if_pos hnext, if_neg hb, GuardedWork.exec, GuardedWork.run,
      GuardedWork.bill, dlrFailedWork, bind_assoc, pure_bind]
    rfl

end Equations

/-! ### The transaction of a fraud block -/

/-- A row that an UPDATE of the same transaction has just written does not pass the trigger again. -/
theorem enforce_same_now {clock : TxClock} {old new : MessageRow} (ho : old.stateChangedAt = clock.now)
    (hn : new.stateChangedAt = clock.now) : ∀ u, enforceMessageStateTransition old new ≠ .ok u := by
  intro u h
  unfold enforceMessageStateTransition at h
  rw [ho, hn] at h
  split at h
  · cases h
  · rw [if_pos le_rfl] at h
    cases h

/-- The second UPDATE of the block transaction meets the row that the first one has just written, under the same
`now()`: whatever the table holds, the transaction is rolled back. -/
theorem fraudBlockTx_fails (clock : TxClock) (payload : MessageEventPayload) (message : MessageRow)
    (evaluation : FraudEvaluationResult) {db : Db} (hk : Rows.Keyed MessageRow.composite db.messages) :
    ∀ r, (fraudBlockTx clock payload message evaluation).run db ≠ .ok r := by
  intro r h
  obtain ⟨submitting, db₁, hfirst, h⟩ := bind_eq_ok.1 h
  obtain ⟨updated, db₂, hsecond, -⟩ := bind_eq_ok.1 h
  have hrow : ∃ assign, Nonempty (RowUpdate message assign db db₁ submitting) ∧
      ∀ row, (assign row).stateChangedAt = clock.now ∧ (assign row).composite = row.composite := by
    unfold enterSubmitting at hfirst
    split at hfirst
    · unfold transitionMessage at hfirst
      split at hfirst
      · exact ⟨_, updateMessage_ok hfirst, fun row => ⟨rfl, rfl⟩⟩
      · cases hfirst
    · exact ⟨_, updateMessage_ok hfirst, fun row => ⟨rfl, rfl⟩⟩
  obtain ⟨assign, ⟨u⟩, hassign⟩ := hrow
  have hmsg : db₁.messages = u.before ++ submitting :: u.after := congrArg Db.messages u.db_eq
  have hnew : submitting.stateChangedAt = clock.now ∧ submitting.composite = u.old.composite := by
    have h := hassign u.old
    rwa [← u.new_eq] at h
  have hkeyed : Rows.Keyed MessageRow.composite db₁.messages := by
    rw [u.messages] at hk
    rw [hmsg]
    exact hk.replace hnew.2
  unfold transitionMessage at hsecond
  split at hsecond
  · obtain ⟨v⟩ := updateMessage_ok hsecond
    have hold : v.old = submitting := by
      refine hkeyed.unique ?_ ?_ (guardedBy_eq_true.1 v.guard).1
      · rw [v.messages]; simp
      · rw [hmsg]; simp
    have hnow : v.old.stateChangedAt = clock.now := by
      rw [hold]
      exact hnew.1
    exact enforce_same_now hnow rfl _ v.trigger
  · cases hsecond

end SmsPlatform
