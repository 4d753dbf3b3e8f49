import SmsPlatform.Pipeline.Snapshots

/-!
# Billing

The wallets, the ledger and the billing states of the messages agree in every reachable state (`Accounts`): a message
in progress is reserved, the reserved balance is the sum of the reserved prices, the available balance is short of
its initial value by the reserved and debited prices, and the ledger rows of a message are the ones its billing state
calls for.  Each guarded work either keeps the billing state, debits or releases (`BillingMove`), and a key of the
ledger is unused as long as the message has no row of its operation.
-/

namespace SmsPlatform

open Transition

/-! ### Sums over messages -/

/-- The sum of `max(price_minor, 0)` over the tenant's messages in one of the billing states. -/
def Db.totalMinor (db : Db) (tenantId : TenantId) (states : List BillingState) : Int :=
  ((db.messages.filter fun row => decide (row.tenantId = tenantId ∧ row.billingState ∈ states)).map
    fun row => max row.priceMinor 0).sum

/-- The kinds of the ledger rows of a message, in the order of their insertion. -/
def Db.ledgerKinds (db : Db) (composite : MessageCompositeId) : List BillingOperation :=
  (db.transactions.filter fun row => decide (row.composite = composite)).map (·.kind)

def MessageRow.share (tenantId : TenantId) (states : List BillingState) (row : MessageRow) : Int :=
  if decide (row.tenantId = tenantId ∧ row.billingState ∈ states) then max row.priceMinor 0 else 0

theorem Db.totalMinor_eq (db : Db) (tenantId : TenantId) (states : List BillingState) :
    db.totalMinor tenantId states = (db.messages.map (MessageRow.share tenantId states)).sum :=
  Rows.sum_filter _ _ _

/-- The statuses of a message whose outcome is open. -/
def MessageStatus.InProgress (status : MessageStatus) : Prop :=
  status = .accepted ∨ status = .routed ∨ status = .submitting

instance (status : MessageStatus) : Decidable status.InProgress :=
  inferInstanceAs (Decidable (status = .accepted ∨ status = .routed ∨ status = .submitting))

/-- The ledger rows that the billing state of a message calls for. -/
def MessageRow.billedKinds (row : MessageRow) : List BillingOperation :=
  if row.priceMinor ≤ 0 then []
  else match row.billingState with
    | .pending => []
    | .reserved => [.reserve]
    | .debited => [.reserve, .debit]
    | .released => [.reserve, .release]

/-- Wallets, ledger and messages agree. -/
structure Accounts (wallets : TenantId → Option WalletRow) (db : Db) : Prop where
  status : ∀ row ∈ db.messages, row.billingState = .reserved ↔ row.status.InProgress
  wallet : ∀ tenantId opening, wallets tenantId = some opening → ∃ wallet, db.wallets tenantId = some wallet ∧
    wallet.reservedBalanceMinor = opening.reservedBalanceMinor + db.totalMinor tenantId [.reserved] ∧
    wallet.availableBalanceMinor = opening.availableBalanceMinor - db.totalMinor tenantId [.reserved, .debited]
  ledger : ∀ row ∈ db.messages, db.ledgerKinds row.composite = row.billedKinds
  keys : ∀ entry ∈ db.transactions, LedgerKey entry.kind entry.composite entry.idempotencyKey
  refers : ∀ entry ∈ db.transactions, ∃ row ∈ db.messages, row.composite = entry.composite

/-! ### Keys that are not used yet -/

/-- The key of an operation is not in the ledger when the message has no row of that operation. -/
theorem Accounts.fresh_key {wallets : TenantId → Option WalletRow} {db : Db} (ha : Accounts wallets db)
    {composite : MessageCompositeId} (hid : ∀ row ∈ db.messages, row.id = composite.id → row.composite = composite)
    {operation : BillingOperation} {key : String} (hkey : LedgerKey operation composite key)
    (hkinds : operation ∉ db.ledgerKinds composite) :
    ledgerExists db.transactions composite.tenantId key = false := by
  rw [ledgerExists_eq_false]
  intro entry hentry _ he
  have hentryKey := ha.keys entry hentry
  rw [he] at hentryKey
  obtain ⟨hop, -, hcid⟩ := hentryKey.determines hkey
  obtain ⟨row, hrow, hcomposite⟩ := ha.refers entry hentry
  have hsame : entry.composite = composite := by
    rw [← hcomposite]
    refine hid row hrow ?_
    rw [← hcid, ← hcomposite]
    rfl
  refine hkinds (List.mem_map.2 ⟨entry, ?_, hop⟩)
  rw [List.mem_filter]
  exact ⟨hentry, by simpa using hsame⟩

/-! ### What a guarded work does to the billing state -/

/-- The three ways a guarded work can change the billing state of a message. -/
inductive BillingMove (old new : MessageRow) : Option Billing → Prop
  | keep (hstate : new.billingState = old.billingState) (hstatus : new.status.InProgress ↔ old.status.InProgress) :
      BillingMove old new none
  | debit (hold : old.billingState = .reserved) (hnew : new.billingState = .debited)
      (hstatus : ¬ new.status.InProgress) : BillingMove old new (some ⟨.debit, debitKey old.composite⟩)
  | release (dateText : String) (reason : ReleaseReason) (hold : old.billingState = .reserved)
      (hnew : new.billingState = .released) (hstatus : ¬ new.status.InProgress) :
      BillingMove old new (some ⟨.release, releaseKey dateText old.composite reason⟩)

theorem Stage.WorkOf.ref_eq {env : Environment} {stage : Stage} {work : GuardedWork}
    {next : MessageRow → Option Stage} (h : Stage.WorkOf env stage work next) : work.ref = work.message.composite := by
  cases h with
  | delivered report message hstatus => rfl
  | dlrFailed report message hstatus => rfl
  | accepted job => exact job.found.symm
  | throttle job => exact job.found.symm
  | attempt job => exact job.found.symm
  | ack job => exact job.found.symm
  | unknown job => exact job.found.symm
  | retrySubmit job => exact job.found.symm
  | failure job => exact job.found.symm

theorem Stage.WorkOf.billingMove {env : Environment} {stage : Stage} {work : GuardedWork}
    {next : MessageRow → Option Stage} (h : Stage.WorkOf env stage work next)
    (hb : work.message.billingState = .reserved ↔ work.message.status.InProgress) :
    BillingMove work.message (work.assign work.message) work.billing := by
  cases h with
  | accepted job route hroute =>
    have hs : job.message.status = .accepted := by simpa using job.admitted
    refine .keep rfl ?_
    change MessageStatus.InProgress .routed ↔ MessageStatus.InProgress job.message.status
    rw [hs]
    decide
  | throttle job haction => exact .keep rfl Iff.rfl
  | attempt job =>
    change BillingMove job.message (attemptRow env.clock job.message job.message) none
    unfold attemptRow
    split
    · rename_i hs
      refine .keep rfl ?_
      change MessageStatus.InProgress .submitting ↔ MessageStatus.InProgress job.message.status
      rw [hs]
      decide
    · exact .keep rfl Iff.rfl
  | ack job haccepted =>
    have hs : job.message.status = .submitting := by simpa using job.admitted
    have hold : job.message.billingState = .reserved := hb.2 (.inr (.inr hs))
    change BillingMove job.message _ (some ⟨.debit, debitKey job.payload.toComposite⟩)
    rw [← job.found]
    exact .debit hold rfl (show ¬ MessageStatus.InProgress .providerAccepted by decide)
  | unknown job => exact .keep rfl Iff.rfl
  | retrySubmit job retryPolicy nextRoute hpolicy hretry => exact .keep rfl Iff.rfl
  | failure job =>
    have hs : job.message.status = .submitting := by simpa using job.admitted
    have hold : job.message.billingState = .reserved := hb.2 (.inr (.inr hs))
    change BillingMove job.message _
      (some ⟨.release, releaseKey job.payload.toComposite.submitDate.text job.payload.toComposite .final⟩)
    rw [← job.found]
    exact .release _ _ hold rfl (show ¬ MessageStatus.InProgress .failed by decide)
  | delivered report message hstatus =>
    refine .keep rfl ?_
    change MessageStatus.InProgress .delivered ↔ MessageStatus.InProgress message.status
    rw [hstatus]
    decide
  | dlrFailed report message hstatus =>
    by_cases hold : message.billingState = .reserved
    · have hbilling : (dlrFailedWork env.clock env.printer report message).billing =
          some ⟨.release, releaseKey (env.printer message.submitDate) message.composite .dlr⟩ := if_pos hold
      rw [hbilling]
      refine .release _ _ hold ?_ (show ¬ MessageStatus.InProgress .failed by decide)
      change (if message.billingState = .reserved then BillingState.released else message.billingState) = _
      rw [if_pos hold]
    · have hbilling : (dlrFailedWork env.clock env.printer report message).billing = none := if_neg hold
      rw [hbilling]
      refine .keep ?_ ?_
      · change (if message.billingState = .reserved then BillingState.released else message.billingState) = _
        rw [if_neg hold]
        rfl
      · change MessageStatus.InProgress .failed ↔ MessageStatus.InProgress message.status
        constructor
        · exact fun h => absurd h (by decide)
        · exact fun h => absurd (hb.2 h) hold

/-! ### The invariant under a posting -/

section Post

variable {wallets : TenantId → Option WalletRow} {db db₁ db₂ : Db}

/-- `Accounts` speaks about messages, wallets and ledger only. -/
theorem Accounts.congr (ha : Accounts wallets db₁) (hm : db₂.messages = db₁.messages)
    (hw : db₂.wallets = db₁.wallets) (ht : db₂.transactions = db₁.transactions) : Accounts wallets db₂ where
  status := by rw [hm]; exact ha.status
  wallet := by
    simp only [Db.totalMinor, hm, hw]
    exact ha.wallet
  ledger := by
    simp only [Db.ledgerKinds, hm, ht]
    exact ha.ledger
  keys := by rw [ht]; exact ha.keys
  refers := by rw [hm, ht]; exact ha.refers

/-- The wallets after a posting that agrees with the change `δ` of the sums over the messages. -/
private theorem wallet_post (ha : Accounts wallets db) {clock : TxClock} {tenantId : TenantId} {amount : Int}
    {operation : BillingOperation} {key : String} {ref : MessageCompositeId} {posted : Bool}
    (effect : LedgerEffect clock tenantId amount operation key ref db₁ posted db₂)
    (hfresh : ledgerExists db₁.transactions tenantId key = false) (hwallets : db₁.wallets = db.wallets)
    (δ : TenantId → List BillingState → Int)
    (hsum : ∀ t states, db₂.totalMinor t states = db.totalMinor t states + δ t states)
    (hother : ∀ t, t ≠ tenantId → ∀ states, δ t states = 0)
    (hpost : ∀ account : Escrow.Account Int, account.post operation.kind (max amount 0) =
      ⟨account.available - δ tenantId [.reserved, .debited], account.held + δ tenantId [.reserved]⟩) :
    ∀ t opening, wallets t = some opening → ∃ wallet, db₂.wallets t = some wallet ∧
      wallet.reservedBalanceMinor = opening.reservedBalanceMinor + db₂.totalMinor t [.reserved] ∧
      wallet.availableBalanceMinor = opening.availableBalanceMinor - db₂.totalMinor t [.reserved, .debited] := by
  intro t opening hopening
  obtain ⟨wallet, hw, hreserved, havailable⟩ := ha.wallet t opening hopening
  rw [← hwallets] at hw
  obtain ⟨wallet', hw', haccount⟩ := effect.wallets_eq hfresh hw
  refine ⟨wallet', hw', ?_⟩
  rw [hsum, hsum]
  by_cases ht : t = tenantId
  · rw [if_pos ht, hpost] at haccount
    have havailable' := congrArg Escrow.Account.available haccount
    have hheld' := congrArg Escrow.Account.held haccount
    simp only [WalletRow.account] at havailable' hheld'
    subst ht
    constructor <;> omega
  · rw [if_neg ht] at haccount
    have havailable' := congrArg Escrow.Account.available haccount
    have hheld' := congrArg Escrow.Account.held haccount
    simp only [WalletRow.account] at havailable' hheld'
    rw [hother t ht, hother t ht]
    constructor <;> omega

/-- The rows of one message after a posting. -/
private theorem ledgerKinds_append {rows : List TransactionRow} (h : db₂.transactions = db.transactions ++ rows)
    (composite : MessageCompositeId) : db₂.ledgerKinds composite = db.ledgerKinds composite ++
      (rows.filter fun row => decide (row.composite = composite)).map (·.kind) := by
  unfold Db.ledgerKinds
  rw [h, List.filter_append, List.map_append]

private theorem ledgerRow_composite (ledgerDate : SqlDate) (amount : Int) (operation : BillingOperation)
    (key : String) (composite : MessageCompositeId) (wallet after : WalletRow) :
    (ledgerRow ledgerDate composite.tenantId amount operation key composite wallet after).composite = composite := rfl

/-- What a posting for a message adds to the ledger. -/
private theorem ledger_post (db : Db) {clock : TxClock} {amount : Int} {operation : BillingOperation} {key : String}
    {composite : MessageCompositeId} {posted : Bool}
    (effect : LedgerEffect clock composite.tenantId amount operation key composite db₁ posted db₂)
    (hfresh : ledgerExists db₁.transactions composite.tenantId key = false)
    (htransactions : db₁.transactions = db.transactions) :
    (∀ entry ∈ db₂.transactions, entry ∈ db.transactions ∨
      (entry.composite = composite ∧ entry.kind = operation ∧ entry.idempotencyKey = key)) ∧
    (∀ c, c ≠ composite → db₂.ledgerKinds c = db.ledgerKinds c) ∧
    db₂.ledgerKinds composite = db.ledgerKinds composite ++ if amount ≤ 0 then [] else [operation] := by
  obtain ⟨rows, hrows, hcases⟩ := effect.transactions_eq hfresh
  rw [htransactions] at hrows
  rcases hcases with ⟨hle, rfl⟩ | ⟨hpos, wallet, after, rfl⟩
  · rw [List.append_nil] at hrows
    refine ⟨fun entry he => .inl (hrows ▸ he), fun c _ => ?_, ?_⟩
    · rw [Db.ledgerKinds, hrows, Db.ledgerKinds]
    · rw [if_pos hle, List.append_nil, Db.ledgerKinds, hrows, Db.ledgerKinds]
  · refine ⟨fun entry he => ?_, fun c hc => ?_, ?_⟩
    · rw [hrows, List.mem_append, List.mem_singleton] at he
      rcases he with he | rfl
      · exact .inl he
      · exact .inr ⟨rfl, rfl, rfl⟩
    · rw [ledgerKinds_append hrows, List.filter_cons_of_neg (by
        rw [ledgerRow_composite, decide_eq_true_eq]
        exact fun h => hc h.symm)]
      simp
    · rw [ledgerKinds_append hrows, if_neg (by omega), List.filter_cons_of_pos (by
        rw [ledgerRow_composite, decide_eq_true_eq])]
      rfl

/-- Shares depend on the content and the billing state of a row. -/
private theorem share_of_content {old new : MessageRow} (hcontent : new.content = old.content) (t : TenantId)
    (states : List BillingState) : new.share t states =
      if decide (old.tenantId = t ∧ new.billingState ∈ states) then max old.priceMinor 0 else 0 := by
  have htenant := congrArg MessageContent.tenantId hcontent
  have hprice := congrArg MessageContent.priceMinor hcontent
  simp only [MessageRow.content] at htenant hprice
  unfold MessageRow.share
  rw [htenant, hprice]

private theorem totalMinor_replace {before after : List MessageRow} {old new : MessageRow}
    (hm : db.messages = before ++ old :: after) (hm₂ : db₂.messages = before ++ new :: after) (t : TenantId)
    (states : List BillingState) :
    db₂.totalMinor t states = db.totalMinor t states + (new.share t states - old.share t states) := by
  rw [Db.totalMinor_eq, Db.totalMinor_eq, hm, hm₂, Rows.sum_replace (MessageRow.share t states) before after old new]
  omega

/-- A write that keeps the billing state. -/
theorem Accounts.keep (ha : Accounts wallets db) {before after : List MessageRow} {old new : MessageRow}
    (hm : db.messages = before ++ old :: after) (hm₂ : db₂.messages = before ++ new :: after)
    (hcontent : new.content = old.content) (hstate : new.billingState = old.billingState)
    (hstatus : new.status.InProgress ↔ old.status.InProgress) (hw : db₂.wallets = db.wallets)
    (ht : db₂.transactions = db.transactions) : Accounts wallets db₂ := by
  have hshare : ∀ t states, db₂.totalMinor t states = db.totalMinor t states := by
    intro t states
    rw [totalMinor_replace hm hm₂, share_of_content hcontent, hstate]
    unfold MessageRow.share
    omega
  have hold : old ∈ db.messages := by rw [hm]; simp
  have hrow : ∀ row ∈ db₂.messages, row = new ∨ row ∈ db.messages := by
    intro row hrow
    rw [hm₂] at hrow
    rw [hm]
    exact Rows.mem_replace hrow
  have hcomposite := MessageRow.composite_of_content hcontent
  have hprice := congrArg MessageContent.priceMinor hcontent
  simp only [MessageRow.content] at hprice
  have hkinds : ∀ c, db₂.ledgerKinds c = db.ledgerKinds c := by
    intro c
    rw [Db.ledgerKinds, ht, Db.ledgerKinds]
  constructor
  · intro row hr
    rcases hrow row hr with rfl | hr
    · rw [hstate, hstatus]
      exact ha.status old hold
    · exact ha.status row hr
  · intro t opening hopening
    rw [hw, hshare, hshare]
    exact ha.wallet t opening hopening
  · intro row hr
    rw [hkinds]
    rcases hrow row hr with rfl | hr
    · rw [hcomposite, ha.ledger old hold, MessageRow.billedKinds, MessageRow.billedKinds, hprice, hstate]
    · exact ha.ledger row hr
  · rw [ht]
    exact ha.keys
  · intro entry he
    rw [ht] at he
    obtain ⟨row, hr, hc⟩ := ha.refers entry he
    by_cases hne : row = old
    · exact ⟨new, by rw [hm₂]; simp, by rw [hcomposite, ← hne, hc]⟩
    · rw [hm] at hr
      exact ⟨row, by rw [hm₂]; exact Rows.mem_replace_of_ne hr hne, hc⟩

/-- The end of a reservation: the message is debited or released together with the wallet. -/
theorem Accounts.settle (ha : Accounts wallets db) (hk : Rows.Keyed MessageRow.id db.messages)
    {before after : List MessageRow} {old new : MessageRow} (hm : db.messages = before ++ old :: after)
    (hcontent : new.content = old.content) (hold : old.billingState = .reserved)
    {operation : BillingOperation}
    (hop : operation = .debit ∧ new.billingState = .debited ∨ operation = .release ∧ new.billingState = .released)
    (hstatus : ¬ new.status.InProgress) {key : String} (hkey : LedgerKey operation old.composite key)
    {clock : TxClock} {posted : Bool}
    (effect : LedgerEffect clock old.composite.tenantId old.priceMinor operation key old.composite
      { db with messages := before ++ new :: after } posted db₂) : Accounts wallets db₂ := by
  have holdMem : old ∈ db.messages := by rw [hm]; simp
  have hm₂ : db₂.messages = before ++ new :: after := congrArg Db.messages effect.frame
  have hcomposite := MessageRow.composite_of_content hcontent
  have hprice := congrArg MessageContent.priceMinor hcontent
  simp only [MessageRow.content] at hprice
  have hrow : ∀ row ∈ db₂.messages, row = new ∨ (row ∈ db.messages ∧ row ≠ old) := by
    intro row hr
    rw [hm₂] at hr
    by_cases hne : row = new
    · exact .inl hne
    · refine .inr ⟨?_, ?_⟩
      · rw [hm]
        exact (Rows.mem_replace hr).resolve_left hne
      · rintro rfl
        have hk' := hk
        rw [hm] at hk'
        have hnew : (new : MessageRow).id = row.id := congrArg MessageContent.id hcontent
        exact hne ((hk'.replace hnew).unique hr (by simp) hnew.symm)
  have hkinds := ha.ledger old holdMem
  have hfresh : ledgerExists db.transactions old.composite.tenantId key = false := by
    refine ha.fresh_key (fun row hr hid => ?_) hkey ?_
    · rw [hk.unique hr holdMem hid]
    · rw [hkinds, MessageRow.billedKinds, hold]
      rcases hop with ⟨rfl, -⟩ | ⟨rfl, -⟩ <;> split <;> decide
  obtain ⟨hentries, hothers, hown⟩ := ledger_post db effect hfresh rfl
  constructor
  · intro row hr
    rcases hrow row hr with rfl | ⟨hr, -⟩
    · constructor
      · intro h
        rcases hop with ⟨-, hs⟩ | ⟨-, hs⟩ <;> rw [hs] at h <;> cases h
      · exact fun h => absurd h hstatus
    · exact ha.status row hr
  · refine wallet_post ha effect hfresh rfl (fun t states => new.share t states - old.share t states)
      (totalMinor_replace hm hm₂) ?_ ?_
    · intro t ht states
      have ht : ¬ old.tenantId = t := fun h => ht h.symm
      rw [share_of_content hcontent, MessageRow.share]
      simp [ht]
    · intro account
      have htenant : old.composite.tenantId = old.tenantId := rfl
      rw [share_of_content hcontent, share_of_content hcontent, MessageRow.share, MessageRow.share, hold, htenant]
      rcases hop with ⟨rfl, hs⟩ | ⟨rfl, hs⟩
      · rw [hs]
        simp [Escrow.Account.post, BillingOperation.kind]
        omega
      · rw [hs]
        simp [Escrow.Account.post, BillingOperation.kind]
        omega
  · intro row hr
    rcases hrow row hr with rfl | ⟨hr, hne⟩
    · rw [hcomposite, hown, hkinds, MessageRow.billedKinds, MessageRow.billedKinds, hprice, hold]
      by_cases hp : old.priceMinor ≤ 0
      · simp [hp]
      · rcases hop with ⟨rfl, hs⟩ | ⟨rfl, hs⟩ <;> rw [hs] <;> simp [hp]
    · rw [hothers _ fun h => hne ((keyed_composite hk).unique hr holdMem h)]
      exact ha.ledger row hr
  · intro entry he
    rcases hentries entry he with he | ⟨hc, hkind, hkeyEq⟩
    · exact ha.keys entry he
    · rw [hc, hkind, hkeyEq]
      exact hkey
  · intro entry he
    have hnew : ∃ row ∈ db₂.messages, row.composite = old.composite :=
      ⟨new, by rw [hm₂]; simp, hcomposite⟩
    rcases hentries entry he with he | ⟨hc, -, -⟩
    · obtain ⟨row, hr, hc⟩ := ha.refers entry he
      by_cases hne : row = old
      · rw [← hc, hne]
        exact hnew
      · rw [hm] at hr
        exact ⟨row, by rw [hm₂]; exact Rows.mem_replace_of_ne hr hne, hc⟩
    · rw [hc]
      exact hnew

/-- A new message reserves its price. -/
theorem Accounts.create (ha : Accounts wallets db) (hf : ∀ row ∈ db.messages, row.id < db.nextMessageId)
    {clock : TxClock} {submission : Submission} {message : MessageRow}
    (c : Created clock submission db message db₂) : Accounts wallets db₂ := by
  have hid : message.id = db.nextMessageId := congrArg MessageRow.id c.message_eq
  have htenant : message.tenantId = submission.tenantId := congrArg MessageRow.tenantId c.message_eq
  have hprice : message.priceMinor = submission.totalSellPriceMinor := congrArg MessageRow.priceMinor c.message_eq
  have hstate : message.billingState = .reserved := congrArg MessageRow.billingState c.message_eq
  have hstatus : message.status = .accepted := congrArg MessageRow.status c.message_eq
  have hne : ∀ row ∈ db.messages, row.composite ≠ message.composite := by
    intro row hr hc
    have hlt := hf row hr
    have heq : row.id = message.id := congrArg MessageCompositeId.id hc
    omega
  have hempty : db.ledgerKinds message.composite = [] := by
    rw [Db.ledgerKinds, List.map_eq_nil_iff, List.filter_eq_nil_iff]
    intro entry he hc
    obtain ⟨row, hr, hrc⟩ := ha.refers entry he
    exact hne row hr (hrc.trans (of_decide_eq_true hc))
  have hkey : LedgerKey .reserve message.composite (reserveKey message.composite) := .reserve _
  have hfresh : ledgerExists db.transactions message.composite.tenantId (reserveKey message.composite) = false := by
    refine ha.fresh_key (fun row hr heq => ?_) hkey (by rw [hempty]; simp)
    have hlt := hf row hr
    have hcid : message.composite.id = message.id := rfl
    omega
  have hbill := c.bill
  rw [← htenant, ← hprice] at hbill
  change LedgerEffect clock message.composite.tenantId _ _ _ _ _ _ _ at hbill
  have hm : c.reserved.messages = db.messages ++ [message] := congrArg Db.messages hbill.frame
  obtain ⟨hentries, hothers, hown⟩ := ledger_post db hbill hfresh rfl
  have hreserved : Accounts wallets c.reserved := by
    constructor
    · intro row hr
      rw [hm, List.mem_append, List.mem_singleton] at hr
      rcases hr with hr | rfl
      · exact ha.status row hr
      · rw [hstate, hstatus]
        decide
    · refine wallet_post ha hbill hfresh rfl (fun t states => message.share t states) ?_ ?_ ?_
      · intro t states
        rw [Db.totalMinor_eq, Db.totalMinor_eq, hm, List.map_append, List.sum_append]
        simp
      · intro t ht states
        have ht : ¬ message.tenantId = t := fun h => ht h.symm
        simp [MessageRow.share, ht]
      · intro account
        have ht : message.composite.tenantId = message.tenantId := rfl
        rw [MessageRow.share, MessageRow.share, hstate, ht]
        simp [Escrow.Account.post, BillingOperation.kind]
    · intro row hr
      rw [hm, List.mem_append, List.mem_singleton] at hr
      rcases hr with hr | rfl
      · rw [hothers _ (hne row hr)]
        exact ha.ledger row hr
      · rw [hown, hempty, MessageRow.billedKinds, hstate, List.nil_append]
    · intro entry he
      rcases hentries entry he with he | ⟨hc, hkind, hkeyEq⟩
      · exact ha.keys entry he
      · rw [hc, hkind, hkeyEq]
        exact hkey
    · intro entry he
      rcases hentries entry he with he | ⟨hc, -, -⟩
      · obtain ⟨row, hr, hrc⟩ := ha.refers entry he
        exact ⟨row, by rw [hm]; exact List.mem_append_left _ hr, hrc⟩
      · exact ⟨message, by rw [hm]; simp, hc.symm⟩
  have hmessages := congrArg Db.messages c.db_eq
  have hwallets := congrArg Db.wallets c.db_eq
  have htransactions := congrArg Db.transactions c.db_eq
  simp only [Db.enqueue_messages, Db.enqueue_wallets, Db.enqueue_transactions] at hmessages hwallets htransactions
  exact hreserved.congr hmessages hwallets htransactions

end Post

/-! ### The invariant along runs -/

theorem Accounts.initial (wallets : TenantId → Option WalletRow) : Accounts wallets (Db.initial wallets) where
  status := by
    intro row hrow
    cases hrow
  wallet := fun t opening h => ⟨opening, h, by simp [Db.totalMinor, Db.initial], by simp [Db.totalMinor, Db.initial]⟩
  ledger := by
    intro row hrow
    cases hrow
  keys := by
    intro entry he
    cases he
  refers := by
    intro entry he
    cases he

theorem Accounts.advanced {wallets : TenantId → Option WalletRow} {world : World} {env : Environment}
    {execution : Execution} {next : Option Stage} {db' : Db} (hs : Snapshots world) (ha : Accounts wallets world.db)
    (he : execution ∈ world.executions) (h : Stage.Advanced env world.db execution.stage next db') :
    Accounts wallets db' := by
  cases h with
  | work hw c =>
    rename_i work nextOf updated
    have hold : c.old = work.message := hs.committed_old he hw c
    have hmem : work.message ∈ world.db.messages := by
      rw [← hold, c.messages]
      simp
    have hmove := hw.billingMove (ha.status _ hmem)
    have hstep : RowStep work.message (work.assign work.message) := hw.rowStep rfl
    have hupdated : updated = work.assign work.message := by rw [c.updated_eq, hold]
    have hm : world.db.messages = c.before ++ work.message :: c.after := by
      rw [← hold]
      exact c.messages
    have hbill := c.bill
    have hbilled : Accounts wallets c.billed := by
      rw [← hupdated] at hmove hstep
      generalize hb : work.billing = billing at hmove
      cases hmove with
      | keep hstate hstatus =>
        have hframe := hbill.of_none hb
        have hmessages := congrArg Db.messages hframe
        have hwallets := congrArg Db.wallets hframe
        have htransactions := congrArg Db.transactions hframe
        exact ha.keep hm hmessages hstep.content hstate hstatus hwallets htransactions
      | debit hreserved hdebited hstatus =>
        obtain ⟨posted, effect⟩ := hbill.of_some hb
        rw [hw.ref_eq] at effect
        exact ha.settle hs.keyed hm hstep.content hreserved (.inl ⟨rfl, hdebited⟩) hstatus (.debit _) effect
      | release dateText reason hreserved hreleased hstatus =>
        obtain ⟨posted, effect⟩ := hbill.of_some hb
        rw [hw.ref_eq] at effect
        exact ha.settle hs.keyed hm hstep.content hreserved (.inr ⟨rfl, hreleased⟩) hstatus
          (.release dateText _ reason) effect
    rw [c.db_eq]
    exact hbilled.congr (GuardedWork.finish_messages _ _) (GuardedWork.finish_wallets _ _)
      (GuardedWork.finish_transactions _ _)
  | event h => exact ha.congr (by simp) (by simp) (by simp)
  | read h => exact ha
  | side h => exact ha.congr h.frame.1 h.frame.2.2.1 h.frame.2.2.2

theorem Accounts.step {wallets : TenantId → Option WalletRow} {world world' : World} {a : Action}
    (hs : Snapshots world) (ha : Accounts wallets world.db) (h : world.step a = some world') :
    Accounts wallets world'.db := by
  have htransacted := (World.step_cases (keyed_composite hs.keyed) h).transacted
  clear h
  generalize world'.db = db' at htransacted ⊢
  cases htransacted with
  | same a => exact ha
  | created c => exact ha.create hs.fresh c
  | webhook h =>
    obtain ⟨report, webhooks, nextId, rfl⟩ := acceptWebhook_ok h
    exact ha.congr (by simp) (by simp) (by simp)
  | advanced hexec hadvance => exact ha.advanced hs (List.mem_of_getElem? hexec) hadvance

theorem accounts_of_reaches {wallets : TenantId → Option WalletRow} {world : World}
    (h : Reaches World.step (World.initial wallets) world) : Accounts wallets world.db :=
  h.invariant_of (P := fun w => Accounts wallets w.db) (fun _ hr => snapshots_of_reaches hr.reaches)
    (Accounts.initial wallets) fun _ _ _ hs _ ha _ hstep => ha.step hs hstep

/-- The money of every tenant is accounted for in every reachable state: messages in progress are exactly the
reserved ones, the reserved balance has grown by the reserved prices, the available balance has shrunk by the reserved
and debited prices, and a message has in the ledger what its billing state says: at most one reserve, and at most one
debit or release, never both. -/
theorem messages_account_for_wallets {wallets : TenantId → Option WalletRow} {world : World}
    (h : Reaches World.step (World.initial wallets) world) :
    (∀ row ∈ world.db.messages, row.billingState = .reserved ↔
      row.status = .accepted ∨ row.status = .routed ∨ row.status = .submitting) ∧
    (∀ tenantId opening, wallets tenantId = some opening → ∃ wallet, world.db.wallets tenantId = some wallet ∧
      wallet.reservedBalanceMinor =
        opening.reservedBalanceMinor + world.db.totalMinor tenantId [.reserved] ∧
      wallet.availableBalanceMinor =
        opening.availableBalanceMinor - world.db.totalMinor tenantId [.reserved, .debited]) ∧
    (∀ row ∈ world.db.messages, world.db.ledgerKinds row.composite = row.billedKinds ∧
      (world.db.ledgerKinds row.composite).count .reserve ≤ 1 ∧
      (world.db.ledgerKinds row.composite).count .debit +
        (world.db.ledgerKinds row.composite).count .release ≤ 1) ∧
    (∀ entry ∈ world.db.transactions, ∃ row ∈ world.db.messages, row.composite = entry.composite) := by
  have ha := accounts_of_reaches h
  refine ⟨ha.status, ha.wallet, fun row hrow => ?_, ha.refers⟩
  have hledger := ha.ledger row hrow
  refine ⟨hledger, ?_⟩
  rw [hledger, MessageRow.billedKinds]
  split
  · decide
  · cases row.billingState <;> decide

/-- A message is routed, handed to the provider and acknowledged; a second one has just been submitted. -/
def Sample.debited : List Action :=
  let step := Action.advance 0 (Sample.env 2 (Sample.services .allow 3 (Sample.accepts "p")))
  [.submit (Sample.clock 1) Sample.submission, .deliver 0, step, .deliver 1,
    .advance 0 (Sample.env 3 (Sample.services .allow 3 (Sample.accepts "p"))), step, step, .deliver 2,
    .advance 0 (Sample.env 4 (Sample.services .allow 3 (Sample.accepts "p"))),
    .submit (Sample.clock 5) Sample.submission]

theorem messages_account_for_wallets_debited : ∃ world, Sample.run Sample.debited = some world ∧
    ∃ wallet, world.db.wallets Sample.tenant = some wallet ∧ wallet.reservedBalanceMinor = 10 ∧
      wallet.availableBalanceMinor = 80 := by
  have hrun : (Sample.run Sample.debited).any (fun world =>
      decide (world.db.totalMinor Sample.tenant [.reserved] = 10 ∧
        world.db.totalMinor Sample.tenant [.reserved, .debited] = 20)) = true := by
    decide +kernel
  obtain ⟨world, hrun, htotals⟩ := (Option.any_eq_true _ _).1 hrun
  obtain ⟨hreserved, hboth⟩ := of_decide_eq_true htotals
  have h := messages_account_for_wallets (reaches_of_execute hrun)
  obtain ⟨wallet, hw, hheld, havailable⟩ := h.2.1 Sample.tenant ⟨1, 100, 0, 0, "ETB"⟩ rfl
  rw [hreserved] at hheld
  rw [hboth] at havailable
  exact ⟨world, hrun, wallet, hw, hheld, havailable⟩

end SmsPlatform
