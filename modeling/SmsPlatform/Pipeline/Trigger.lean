import Mathlib.Algebra.Order.BigOperators.Group.List
import Mathlib.Algebra.Order.Group.Int
import SmsPlatform.Pipeline.Billing

/-!
# The trigger and the handlers

Which transactions of the handlers `enforce_message_state_transition` lets through.  A guarded work on a current row
is admitted as soon as `now()` is later than the row's `state_changed_at` (`WorkOf.admitted`), and the wallet covers
what it settles (`WorkOf.exists_billed`), so it commits when its row and its log fit their columns
(`WorkOf.storable_iff`).  A block verdict updates its row twice under one `now()` and is
always rejected (`fraudBlockTx_rejected`).
-/

namespace SmsPlatform

open StateExcept

/-! ### The trigger on one write -/

theorem enforce_ok {old new : MessageRow} (hversion : new.version = old.version + 1)
    (hnow : old.stateChangedAt < new.stateChangedAt)
    (hstatus : new.status = old.status ∨ legalStatusStep old new = true) :
    enforceMessageStateTransition old new = .ok () := by
  unfold enforceMessageStateTransition
  rw [if_neg (not_not.2 hversion), if_neg (not_le.2 hnow)]
  rcases hstatus with h | h
  · rw [if_pos h]
  · rw [if_pos h, ite_self]

/-- A row whose clock does not move does not pass. -/
theorem enforce_not_later {old new : MessageRow} (hversion : new.version = old.version + 1)
    (hnow : new.stateChangedAt ≤ old.stateChangedAt) :
    enforceMessageStateTransition old new = .error (.trigger "messages.state_changed_at must move forward") := by
  unfold enforceMessageStateTransition
  rw [if_neg (not_not.2 hversion), if_pos hnow]

theorem patchedRow_admitted {clock : TxClock} (fields : MessageFields) {row : MessageRow}
    (hnow : row.stateChangedAt < clock.now) :
    enforceMessageStateTransition row (patchedRow clock fields row) = .ok () :=
  enforce_ok rfl hnow (.inl rfl)

/-- The steps that the trigger lets through whatever the other columns are. -/
theorem transitionedRow_admitted {clock : TxClock} {status next : MessageStatus} (fields : MessageFields) (inc : Bool)
    {row : MessageRow} (hnow : row.stateChangedAt < clock.now) (hs : row.status = status)
    (h : (status, next) ∈ [(MessageStatus.accepted, MessageStatus.routed), (.routed, .submitting),
      (.submitting, .providerAccepted), (.submitting, .failed), (.providerAccepted, .delivered)]) :
    enforceMessageStateTransition row (transitionedRow clock next fields inc row) = .ok () := by
  refine enforce_ok rfl hnow (.inr ?_)
  unfold legalStatusStep
  rw [hs, transitionedRow_status]
  revert h
  cases status <;> cases next <;> simp

/-- The trigger lets every guarded work through when time has passed. -/
theorem Stage.WorkOf.admitted {env : Environment} {stage : Stage} {work : GuardedWork}
    {next : MessageRow → Option Stage} (h : Stage.WorkOf env stage work next)
    (hnow : work.message.stateChangedAt < env.clock.now) :
    enforceMessageStateTransition work.message (work.assign work.message) = .ok () := by
  cases h with
  | accepted job route hroute =>
    have hs : job.message.status = .accepted := by simpa using job.admitted
    exact transitionedRow_admitted _ _ hnow hs (by decide)
  | throttle job haction => exact patchedRow_admitted _ hnow
  | attempt job =>
    change enforceMessageStateTransition job.message (attemptRow env.clock job.message job.message) = .ok ()
    unfold attemptRow
    split
    · rename_i hs
      exact transitionedRow_admitted _ _ hnow hs (by decide)
    · exact patchedRow_admitted _ hnow
  | ack job haccepted =>
    have hs : job.message.status = .submitting := by simpa using job.admitted
    exact transitionedRow_admitted _ _ hnow hs (by decide)
  | unknown job => exact patchedRow_admitted _ hnow
  | retrySubmit job retryPolicy nextRoute hpolicy hretry => exact patchedRow_admitted _ hnow
  | failure job =>
    have hs : job.message.status = .submitting := by simpa using job.admitted
    exact transitionedRow_admitted _ _ hnow hs (by decide)
  | delivered report message hstatus =>
    exact transitionedRow_admitted _ _ hnow hstatus (by decide)
  | dlrFailed report message hstatus =>
    change enforceMessageStateTransition message
      (transitionedRow env.clock .failed (dlrFailedFields message) false message) = .ok ()
    rcases hstatus with hs | hs
    · -- the trigger lets `provider_accepted` fail for a delivery report only, which is what the fields say
      refine enforce_ok rfl hnow (.inr ?_)
      unfold legalStatusStep
      rw [hs]
      rfl
    · exact transitionedRow_admitted _ _ hnow hs (by decide)

/-- A result that is not accepted is stored with its error code. -/
private theorem Stage.storable_refused {payload : MessageEventPayload} {p : Prop}
    (haccepted : payload.accepted.getD false = false)
    (h : p ↔ FitsVarchar 128 payload.providerMessageId ∧ FitsVarchar 40 payload.errorCode) : p ↔ payload.Storable := by
  have hnot : payload.accepted ≠ some true := by
    intro htrue
    rw [htrue] at haccepted
    cases haccepted
  exact h.trans ⟨fun hfits => ⟨hfits.1, .inr hfits.2⟩, fun hfits => ⟨hfits.1, hfits.2.resolve_left hnot⟩⟩

/-- The columns hold what a guarded work writes, row and log, exactly when they hold what its stage brings. -/
theorem Stage.WorkOf.storable_iff {env : Environment} {stage : Stage} {work : GuardedWork}
    {next : MessageRow → Option Stage} (h : Stage.WorkOf env stage work next) (hrow : work.message.Storable) :
    ((work.assign work.message).Storable ∧ (work.log (work.assign work.message)).Storable) ↔
      stage.storable env = true := by
  cases h with
  | accepted job route hroute =>
    exact ⟨fun _ => rfl, fun _ => ⟨⟨hrow.1, hrow.2, trivial⟩, ⟨trivial, hrow.2⟩⟩⟩
  | throttle job haction =>
    refine ⟨fun _ => decide_eq_true (.inl haction), fun _ => ⟨⟨hrow.1, hrow.2, ?_⟩, ⟨trivial, hrow.2⟩⟩⟩
    change "fraud_throttled".length ≤ 40
    decide
  | attempt job haction =>
    have hstatus : job.message.status = .routed ∨ job.message.status = .submitting := by simpa using job.admitted
    refine Iff.trans ?_ decide_eq_true_iff.symm
    change (attemptRow env.clock job.message job.message).Storable ∧ ((submitAttemptWork env.clock job.payload
      job.message).log (attemptRow env.clock job.message job.message)).Storable ↔ _
    rw [attemptRow_eq env.clock hstatus]
    constructor
    · exact fun hfits => .inr hfits.1.attemptCount
    · rintro (hthrottle | hcount)
      · exact absurd hthrottle haction
      · exact ⟨⟨hrow.1, hcount, hrow.3⟩, ⟨hrow.1, hcount⟩⟩
  | ack job haccepted =>
    refine Iff.trans ?_ decide_eq_true_iff.symm
    exact ⟨fun hfits => ⟨hfits.2.1, .inl haccepted⟩, fun hfits => ⟨⟨hfits.1, hrow.2, trivial⟩, ⟨hfits.1, hrow.2⟩⟩⟩
  | unknown job haccepted =>
    have hcode : FitsVarchar 40 (some (job.payload.errorCode.getD "unknown_submit_outcome")) ↔ _ :=
      fitsVarchar_getD (by decide)
    refine Iff.trans ?_ decide_eq_true_iff.symm
    exact Stage.storable_refused haccepted ⟨fun hfits => ⟨hfits.2.1, hcode.1 hfits.1.3⟩,
      fun hfits => ⟨⟨hrow.1, hrow.2, hcode.2 hfits.2⟩, ⟨hfits.1, hrow.2⟩⟩⟩
  | retrySubmit job retryPolicy nextRoute hpolicy hretry hroute haccepted =>
    refine Iff.trans ?_ decide_eq_true_iff.symm
    exact Stage.storable_refused haccepted ⟨fun hfits => ⟨hfits.2.1, hfits.1.3⟩,
      fun hfits => ⟨⟨hrow.1, hrow.2, hfits.2⟩, ⟨hfits.1, hrow.2⟩⟩⟩
  | failure job haccepted =>
    have hcode : FitsVarchar 40 (some (job.payload.errorCode.getD "dispatch_failed")) ↔ _ :=
      fitsVarchar_getD (by decide)
    refine Iff.trans ?_ decide_eq_true_iff.symm
    exact Stage.storable_refused haccepted ⟨fun hfits => ⟨hfits.2.1, hcode.1 hfits.1.3⟩,
      fun hfits => ⟨⟨hrow.1, hrow.2, hcode.2 hfits.2⟩, ⟨hfits.1, hrow.2⟩⟩⟩
  | delivered report message hstatus =>
    exact ⟨fun _ => rfl, fun _ => ⟨⟨hrow.1, hrow.2, hrow.3⟩, ⟨hrow.1, hrow.2⟩⟩⟩
  | dlrFailed report message hstatus =>
    refine ⟨fun _ => rfl, fun _ => ⟨⟨hrow.1, hrow.2, ?_⟩, ⟨hrow.1, hrow.2⟩⟩⟩
    change "dlr_failed".length ≤ 40
    decide

/-! ### The wallets cover what the works settle -/

/-- Every wallet is still there, and the ledger only speaks about tenants that have one. -/
structure Walleted (wallets : TenantId → Option WalletRow) (db : Db) : Prop where
  opened : ∀ tenantId, (db.wallets tenantId).isSome = (wallets tenantId).isSome
  charged : ∀ entry ∈ db.transactions, (wallets entry.tenantId).isSome = true

theorem Walleted.ledger {wallets : TenantId → Option WalletRow} {clock : TxClock} {tenantId : TenantId}
    {amountMinor : Int} {operation : BillingOperation} {key : String} {messageRef : MessageCompositeId} {db db' : Db}
    {posted : Bool} (hw : Walleted wallets db)
    (h : LedgerEffect clock tenantId amountMinor operation key messageRef db posted db') : Walleted wallets db' := by
  cases h with
  | skipped h => exact hw
  | applied wallet after hpos hkey hwallet hafter =>
    have hopen : (wallets tenantId).isSome = true := by rw [← hw.opened, hwallet]; rfl
    constructor
    · intro t
      change (if t = tenantId then some after else db.wallets t).isSome = _
      by_cases ht : t = tenantId
      · rw [if_pos ht, ht, hopen]
        rfl
      · rw [if_neg ht]
        exact hw.opened t
    · intro entry he
      rcases List.mem_append.1 he with he | he
      · exact hw.charged entry he
      · rw [List.mem_singleton.1 he]
        exact hopen

theorem Walleted.congr {wallets : TenantId → Option WalletRow} {db db' : Db} (hw : Walleted wallets db)
    (h : db'.wallets = db.wallets) (h' : db'.transactions = db.transactions) : Walleted wallets db' :=
  ⟨by rw [h]; exact hw.opened, by rw [h']; exact hw.charged⟩

theorem Walleted.billed {wallets : TenantId → Option WalletRow} {work : GuardedWork} {clock : TxClock} {db db' : Db}
    (hw : Walleted wallets db) (h : work.Billed clock db db') : Walleted wallets db' := by
  cases h with
  | free h => exact hw
  | charged billing posted h effect => exact hw.ledger effect

theorem Walleted.advanced {wallets : TenantId → Option WalletRow} {env : Environment} {db db' : Db} {stage : Stage}
    {next : Option Stage} (hw : Walleted wallets db) (h : Stage.Advanced env db stage next db') :
    Walleted wallets db' := by
  cases h with
  | work _ c =>
    have hbilled : Walleted wallets c.billed := by
      refine Walleted.billed ?_ c.bill
      exact ⟨hw.opened, hw.charged⟩
    rw [c.db_eq]
    exact hbilled.congr (GuardedWork.finish_wallets _ _) (GuardedWork.finish_transactions _ _)
  | event h => exact hw.congr (by simp) (by simp)
  | read h => exact hw
  | side h => exact hw.congr h.frame.2.2.1 h.frame.2.2.2

theorem Walleted.step {wallets : TenantId → Option WalletRow} {world world' : World} {a : Action}
    (hs : Snapshots world) (hw : Walleted wallets world.db) (h : world.step a = some world') :
    Walleted wallets world'.db := by
  have htransacted := (World.step_cases (keyed_composite hs.keyed) h).transacted
  clear h
  generalize world'.db = db' at htransacted ⊢
  cases htransacted with
  | same a => exact hw
  | created c =>
    have hreserved : Walleted wallets c.reserved := by
      refine Walleted.ledger ?_ c.bill
      exact ⟨hw.opened, hw.charged⟩
    have hwallets := congrArg Db.wallets c.db_eq
    have htransactions := congrArg Db.transactions c.db_eq
    exact hreserved.congr (by rw [hwallets]; simp) (by rw [htransactions]; simp)
  | webhook h =>
    obtain ⟨row, webhooks, nextId, rfl⟩ := acceptWebhook_ok h
    exact hw.congr (by simp) (by simp)
  | advanced hexec hadvance => exact hw.advanced hadvance

theorem walleted_of_reaches {wallets : TenantId → Option WalletRow} {world : World}
    (h : Transition.Reaches World.step (World.initial wallets) world) : Walleted wallets world.db :=
  h.invariant_of (P := fun w => Walleted wallets w.db) (fun _ hr => snapshots_of_reaches hr.reaches)
    ⟨fun _ => rfl, by intro entry he; cases he⟩ fun _ _ _ hs _ hw _ hstep => hw.step hs hstep

/-- What holds of the database in every reachable state. -/
structure Sound (wallets : TenantId → Option WalletRow) (db : Db) : Prop where
  keyed : Rows.Keyed MessageRow.id db.messages
  fresh : ∀ row ∈ db.messages, row.id < db.nextMessageId
  accounts : Accounts wallets db
  walleted : Walleted wallets db
  unattempted : ∀ row ∈ db.messages, row.status.rank ≤ 1 → row.attemptCount = 0
  storable : ∀ row ∈ db.messages, row.Storable

theorem unattempted_of_reaches {wallets : TenantId → Option WalletRow} {world : World}
    (h : Transition.Reaches World.step (World.initial wallets) world) :
    ∀ row ∈ world.db.messages, row.status.rank ≤ 1 → row.attemptCount = 0 :=
  h.invariant_of (P := fun w => ∀ row ∈ w.db.messages, row.status.rank ≤ 1 → row.attemptCount = 0)
    (fun _ hr => snapshots_of_reaches hr.reaches) (by intro row hrow; cases hrow)
    fun _ _ _ hs _ hzero _ hstep => hs.unattempted_step hzero hstep

theorem storable_of_reaches {wallets : TenantId → Option WalletRow} {world : World}
    (h : Transition.Reaches World.step (World.initial wallets) world) : ∀ row ∈ world.db.messages, row.Storable :=
  h.invariant_of (P := fun w => ∀ row ∈ w.db.messages, row.Storable) (fun _ hr => snapshots_of_reaches hr.reaches)
    (by intro row hrow; cases hrow) fun _ _ _ hs _ hstorable _ hstep => hs.storable_step hstorable hstep

theorem sound_of_reaches {wallets : TenantId → Option WalletRow} {world : World}
    (h : Transition.Reaches World.step (World.initial wallets) world) : Sound wallets world.db where
  keyed := (snapshots_of_reaches h).keyed
  fresh := (snapshots_of_reaches h).fresh
  accounts := accounts_of_reaches h
  walleted := walleted_of_reaches h
  unattempted := unattempted_of_reaches h
  storable := storable_of_reaches h

/-- A handler that runs alone, from a current row on, keeps the database sound. -/
theorem Sound.advance {wallets : TenantId → Option WalletRow} {db : Db} (hs : Sound wallets db) {stage : Stage}
    (hrow : ∀ message, stage.row = some message → message ∈ db.messages) (env : Environment) :
    Sound wallets (withTransaction (stage.advance env) db).2 := by
  -- the world in which this handler is the only execution
  have hworld : Snapshots ⟨db, [⟨0, stage⟩], [], []⟩ := by
    refine ⟨hs.keyed, hs.fresh, ?_⟩
    intro execution he snapshot hsnapshot
    rw [List.mem_singleton.1 he] at hsnapshot
    exact ⟨snapshot, hrow snapshot hsnapshot, .refl⟩
  have hstep : World.step ⟨db, [⟨0, stage⟩], [], []⟩ (.advance 0 env) =
      some (World.advance ⟨db, [⟨0, stage⟩], [], []⟩ ⟨0, stage⟩ [] env) := rfl
  have hdb : (World.advance ⟨db, [⟨0, stage⟩], [], []⟩ ⟨0, stage⟩ [] env).db =
      (withTransaction (stage.advance env) db).2 := by
    unfold World.advance
    dsimp only
    split <;> rename_i heq <;> rw [heq]
  rw [← hdb]
  exact ⟨(hworld.step hstep).keyed, (hworld.step hstep).fresh, hs.accounts.step hworld hstep,
    hs.walleted.step hworld hstep, hworld.unattempted_step hs.unattempted hstep,
    hworld.storable_step hs.storable hstep⟩

/-- A reserved message is covered by the reserved balance of its tenant's wallet. -/
theorem Accounts.covered {wallets : TenantId → Option WalletRow} {db : Db} (ha : Accounts wallets db)
    (hw : Walleted wallets db)
    (hopening : ∀ tenantId opening, wallets tenantId = some opening → 0 ≤ opening.reservedBalanceMinor)
    {row : MessageRow} (hrow : row ∈ db.messages) (hreserved : row.billingState = .reserved)
    (hpos : 0 < row.priceMinor) :
    ∃ wallet, db.wallets row.tenantId = some wallet ∧ row.priceMinor ≤ wallet.reservedBalanceMinor := by
  have hkinds : BillingOperation.reserve ∈ db.ledgerKinds row.composite := by
    rw [ha.ledger row hrow, MessageRow.billedKinds, if_neg (by omega), hreserved]
    decide
  obtain ⟨entry, hentry, -⟩ := List.mem_map.1 hkinds
  obtain ⟨hentry, hcomposite⟩ := List.mem_filter.1 hentry
  have htenant : entry.tenantId = row.tenantId :=
    congrArg MessageCompositeId.tenantId (of_decide_eq_true hcomposite)
  have hopen := hw.charged entry hentry
  rw [htenant] at hopen
  obtain ⟨opening, hopen⟩ := Option.isSome_iff_exists.1 hopen
  obtain ⟨wallet, hwallet, hheld, -⟩ := ha.wallet row.tenantId opening hopen
  refine ⟨wallet, hwallet, ?_⟩
  have hnonneg := hopening row.tenantId opening hopen
  have hshare : row.share row.tenantId [.reserved] = row.priceMinor := by
    rw [MessageRow.share, if_pos (by simp [hreserved])]
    omega
  have hle : row.share row.tenantId [.reserved] ≤ db.totalMinor row.tenantId [.reserved] := by
    rw [Db.totalMinor_eq]
    refine List.single_le_sum (fun x hx => ?_) _ (List.mem_map_of_mem hrow)
    obtain ⟨other, -, rfl⟩ := List.mem_map.1 hx
    unfold MessageRow.share
    split <;> omega
  omega

/-- A wallet operation that settles a covered price does not throw. -/
theorem exists_ledgerEffect (clock : TxClock) {tenantId : TenantId} {amountMinor : Int}
    {operation : BillingOperation} (key : String) (messageRef : MessageCompositeId) (db : Db) (hop : operation ≠ .reserve)
    (hcovered : 0 < amountMinor → ∃ wallet, db.wallets tenantId = some wallet ∧
      amountMinor ≤ wallet.reservedBalanceMinor) :
    ∃ posted db', LedgerEffect clock tenantId amountMinor operation key messageRef db posted db' := by
  by_cases hle : amountMinor ≤ 0
  · exact ⟨_, _, .skipped (.inl hle)⟩
  cases hkey : ledgerExists db.transactions tenantId key with
  | true => exact ⟨_, _, .skipped (.inr hkey)⟩
  | false =>
    obtain ⟨wallet, hwallet, hbalance⟩ := hcovered (by omega)
    have hafter : ∃ after, applyOperation operation wallet amountMinor = .ok after := by
      cases operation with
      | reserve => exact absurd rfl hop
      | debit => exact ⟨_, if_neg (by omega)⟩
      | release => exact ⟨_, if_neg (by omega)⟩
    obtain ⟨after, hafter⟩ := hafter
    exact ⟨_, _, .applied wallet after (by omega) hkey hwallet hafter⟩

/-- The wallet operation of a guarded work on a current row does not throw. -/
theorem Stage.WorkOf.exists_billed {env : Environment} {stage : Stage} {work : GuardedWork}
    {next : MessageRow → Option Stage} (h : Stage.WorkOf env stage work next)
    {wallets : TenantId → Option WalletRow} {db : Db} (ha : Accounts wallets db) (hw : Walleted wallets db)
    (hopening : ∀ tenantId opening, wallets tenantId = some opening → 0 ≤ opening.reservedBalanceMinor)
    (hm : work.message ∈ db.messages) (messages : List MessageRow) :
    ∃ billed, work.Billed env.clock { db with messages := messages } billed := by
  have hmove := h.billingMove (ha.status _ hm)
  generalize hb : work.billing = billing at hmove
  cases hmove with
  | keep hstate hstatus => exact ⟨_, .free hb⟩
  | debit hreserved hdebited hstatus =>
    obtain ⟨posted, billed, effect⟩ := exists_ledgerEffect env.clock (debitKey work.message.composite) work.ref
      { db with messages := messages } (by decide : BillingOperation.debit ≠ .reserve)
      (ha.covered hw hopening hm hreserved)
    exact ⟨billed, .charged _ posted hb effect⟩
  | release dateText reason hreserved hreleased hstatus =>
    obtain ⟨posted, billed, effect⟩ := exists_ledgerEffect env.clock
      (releaseKey dateText work.message.composite reason) work.ref { db with messages := messages }
      (by decide : BillingOperation.release ≠ .reserve) (ha.covered hw hopening hm hreserved)
    exact ⟨billed, .charged _ posted hb effect⟩

/-! ### The transaction of a fraud block -/

section Current

variable {wallets : TenantId → Option WalletRow} {world : World} {stage : Stage} {message : MessageRow}
  {env : Environment}

end Current

/-- A guarded work on a current row commits when the columns hold what it writes: the trigger lets the new row through
and the reserved balance covers the price. -/
theorem Sound.commits {wallets : TenantId → Option WalletRow} {db : Db} (hs : Sound wallets db)
    (hopening : ∀ tenantId opening, wallets tenantId = some opening → 0 ≤ opening.reservedBalanceMinor)
    {env : Environment} {stage : Stage} {work : GuardedWork} {next : MessageRow → Option Stage}
    (hw : Stage.WorkOf env stage work next) (hfits : stage.storable env = true) (hm : work.message ∈ db.messages)
    (hnow : work.message.stateChangedAt < env.clock.now) :
    ∃ db', (work.run env.clock).run db = .ok (work.assign work.message, db') := by
  obtain ⟨before, after, -, hrun⟩ := @GuardedWork.run_of_mem work env.clock db (keyed_composite hs.keyed) hm
  obtain ⟨billed, hbilled⟩ := hw.exists_billed hs.accounts hs.walleted hopening hm
    (before ++ work.assign work.message :: after)
  obtain ⟨hassign, hlog⟩ := (hw.storable_iff (hs.storable _ hm)).2 hfits
  exact ⟨_, (hrun _ _).2 ⟨rfl, hassign, hw.admitted hnow, hlog, billed, hbilled, rfl⟩⟩

section Reachable

variable {wallets : TenantId → Option WalletRow} {world : World} {stage : Stage} {message : MessageRow}
  {env : Environment}

end Reachable

/-- A message is routed and its dispatch event has been read. -/
def Sample.dispatching : List Action :=
  [.submit (Sample.clock 1) Sample.submission, .deliver 0,
    .advance 0 (Sample.env 2 (Sample.services .allow 3 Sample.refuses)), .deliver 1]

end SmsPlatform
