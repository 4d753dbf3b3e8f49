import Mathlib.Algebra.Order.Group.Int
import Mathlib.Logic.Function.Basic
import SmsPlatform.Lib.Runs
import SmsPlatform.Wallet.Ledger

/-!
# Concurrent transactions on the wallets

The wallet calls of any number of concurrent transactions, cut at their statements: the idempotency check, SELECT …
FOR UPDATE, and UPDATE with INSERT.  A connection sees the committed tables and its own writes (READ COMMITTED); the
row of a wallet is locked from the SELECT to the end of the transaction; a statement that fails, or a call that throws,
ends the transaction with a ROLLBACK.  `calls_apply` ties the three statements of a call to `applyWalletLedger`.
-/

namespace SmsPlatform

open Transition

structure LedgerCall where
  tenantId : TenantId
  amountMinor : Int
  operation : BillingOperation
  idempotencyKey : String
  messageRef : MessageCompositeId

/-- Where a connection stands between two statements of a call. -/
inductive CallStage
  | idle
  | checked (call : LedgerCall)
  | selected (call : LedgerCall) (wallet : WalletRow)

/-- An open transaction: the wallets it has locked, as it sees them, and the ledger rows it has inserted. -/
structure Session where
  ledgerDate : SqlDate
  wallets : TenantId → Option WalletRow
  rows : List TransactionRow
  stage : CallStage

/-- How a call ended. -/
inductive CallOutcome
  | returned (posted : Bool)
  | threw (failure : Failure)
  deriving DecidableEq

/-- The committed tables, the locks and the open transactions by connection; `outcomes` records what the calls
returned or threw. -/
structure Server where
  wallets : TenantId → Option WalletRow
  transactions : List TransactionRow
  locks : TenantId → Option Nat
  sessions : Nat → Option Session
  outcomes : List (Nat × CallOutcome)

def Server.initial (wallets : TenantId → Option WalletRow) : Server where
  wallets := wallets
  transactions := []
  locks := fun _ => none
  sessions := fun _ => none
  outcomes := []

namespace Server

variable (server : Server) (conn : Nat) (session : Session)

def put : Server := { server with sessions := Function.update server.sessions conn (some session) }

def report (outcome : CallOutcome) : Server := { server with outcomes := (conn, outcome) :: server.outcomes }

/-- Close the transaction of a connection and release its locks. -/
def close : Server :=
  { server with
    locks := fun tenantId => if server.locks tenantId = some conn then none else server.locks tenantId
    sessions := Function.update server.sessions conn none }

/-- The ledger as a session sees it. -/
def visible : List TransactionRow := server.transactions ++ session.rows

/-- The first statement of a call, after the check of the amount. -/
def check (call : LedgerCall) : Server :=
  if call.amountMinor ≤ 0 then server.report conn (.returned false)
  else if ledgerExists (server.visible session) call.tenantId call.idempotencyKey then
    server.report conn (.returned false)
  else server.put conn { session with stage := .checked call }

/-- SELECT … FOR UPDATE; it waits while another connection holds the lock. -/
def select (call : LedgerCall) : Option Server :=
  match server.locks call.tenantId with
  | some owner =>
    if owner = conn then
      (session.wallets call.tenantId).map fun wallet => server.put conn { session with stage := .selected call wallet }
    else none
  | none =>
    match server.wallets call.tenantId with
    | none => some ((server.close conn).report conn (.threw (.notFound "Wallet not found")))
    | some wallet =>
      some ({ server with locks := Function.update server.locks call.tenantId (some conn) }.put conn
        { session with
          wallets := Function.update session.wallets call.tenantId (some wallet)
          stage := .selected call wallet })

/-- The sufficiency test, the UPDATE and the INSERT. -/
def write (call : LedgerCall) (wallet : WalletRow) : Server :=
  match applyOperation call.operation wallet call.amountMinor with
  | .error failure => (server.close conn).report conn (.threw failure)
  | .ok after =>
    let row := ledgerRow session.ledgerDate call.tenantId call.amountMinor call.operation call.idempotencyKey
      call.messageRef wallet after
    match insertTransaction (server.visible session) row with
    | .error failure => (server.close conn).report conn (.threw failure)
    | .ok _ =>
      (server.put conn
        { session with
          wallets := Function.update session.wallets call.tenantId (some after)
          rows := session.rows ++ [row]
          stage := .idle }).report conn (.returned true)

def commit : Server :=
  { server.close conn with
    wallets := fun tenantId => (session.wallets tenantId).or (server.wallets tenantId)
    transactions := server.transactions ++ session.rows }

theorem put_sessions : (server.put conn session).sessions = Function.update server.sessions conn (some session) := rfl

theorem close_sessions : (server.close conn).sessions = Function.update server.sessions conn none := rfl

end Server

inductive Statement
  | begin (ledgerDate : SqlDate)
  | call (call : LedgerCall)
  | next
  | commit
  | rollback

/-- One statement of one connection. -/
def Server.step (server : Server) (action : Nat × Statement) : Option Server :=
  match server.sessions action.1, action.2 with
  | none, .begin ledgerDate => some (server.put action.1 ⟨ledgerDate, fun _ => none, [], .idle⟩)
  | none, _ => none
  | some _, .begin _ => none
  | some _, .rollback => some (server.close action.1)
  | some session, .call call =>
    match session.stage with
    | .idle => some (server.check action.1 session call)
    | _ => none
  | some session, .next =>
    match session.stage with
    | .idle => none
    | .checked call => server.select action.1 session call
    | .selected call wallet => some (server.write action.1 session call wallet)
  | some session, .commit =>
    match session.stage with
    | .idle => some (server.commit action.1 session)
    | _ => none

/-! ### The invariant -/

def TransactionRow.entry (row : TransactionRow) : Escrow.Entry Int :=
  ⟨row.kind.kind, row.amountMinor, row.balanceBeforeMinor, row.balanceAfterMinor⟩

/-- The ledger of a tenant as a journal of postings. -/
def journal (tenantId : TenantId) (rows : List TransactionRow) : List (Escrow.Entry Int) :=
  (rows.filter fun row => decide (row.tenantId = tenantId)).map TransactionRow.entry

theorem journal_append (tenantId : TenantId) (rows rows' : List TransactionRow) :
    journal tenantId (rows ++ rows') = journal tenantId rows ++ journal tenantId rows' := by
  unfold journal
  rw [List.filter_append, List.map_append]

/-- The wallet `after` has the credit line of `before` and the balances that the journal makes of those of `before`. -/
structure WalletFollows (before after : WalletRow) (entries : List (Escrow.Entry Int)) : Prop where
  credit : after.creditLimitMinor = before.creditLimitMinor
  follows : Escrow.Follows before.creditLimitMinor before.account after.account entries

theorem WalletFollows.refl (wallet : WalletRow) : WalletFollows wallet wallet [] := ⟨rfl, .refl _ _⟩

theorem WalletFollows.trans {before middle after : WalletRow} {entries entries' : List (Escrow.Entry Int)}
    (h : WalletFollows before middle entries) (h' : WalletFollows middle after entries') :
    WalletFollows before after (entries ++ entries') := by
  refine ⟨h'.credit.trans h.credit, h.follows.trans ?_⟩
  rw [← h.credit]
  exact h'.follows

/-- The ledger row of an operation is the journal entry of its posting. -/
theorem ledgerRow_entry {ledgerDate : SqlDate} {call : LedgerCall} {wallet after : WalletRow}
    (hpos : 0 < call.amountMinor) (h : applyOperation call.operation wallet call.amountMinor = .ok after) :
    (ledgerRow ledgerDate call.tenantId call.amountMinor call.operation call.idempotencyKey call.messageRef wallet
      after).entry = wallet.account.entry call.operation.kind call.amountMinor := by
  obtain ⟨-, hafter⟩ := (applyOperation_ok hpos).1 h
  have haccount : after.account = wallet.account.post call.operation.kind call.amountMinor := by rw [hafter]; rfl
  simp only [TransactionRow.entry, ledgerRow, WalletRow.ledgerBalance_eq, haccount, Escrow.Account.entry]

theorem WalletFollows.post {before wallet after : WalletRow} {entries : List (Escrow.Entry Int)}
    {operation : BillingOperation} {amountMinor : Int} (hw : WalletFollows before wallet entries)
    (hpos : 0 < amountMinor) (h : applyOperation operation wallet amountMinor = .ok after) :
    WalletFollows before after (entries ++ [wallet.account.entry operation.kind amountMinor]) := by
  obtain ⟨hadmissible, hafter⟩ := (applyOperation_ok hpos).1 h
  have haccount : after.account = wallet.account.post operation.kind amountMinor := by rw [hafter]; rfl
  have hcredit : after.creditLimitMinor = wallet.creditLimitMinor := by rw [hafter]
  refine ⟨hcredit.trans hw.credit, ?_⟩
  rw [haccount]
  rw [hw.credit] at hadmissible
  exact hw.follows.post hadmissible

/-- The state of the server in terms of journals: the committed wallets follow from the opening ones by the committed
ledger, and the wallets a session has locked follow from the committed ones by its own rows. -/
structure Server.Consistent (opening : TenantId → Option WalletRow) (server : Server) : Prop where
  committed : ∀ t before, opening t = some before → ∃ wallet, server.wallets t = some wallet ∧
    WalletFollows before wallet (journal t server.transactions)
  owned : ∀ t conn, server.locks t = some conn → server.sessions conn ≠ none
  locked : ∀ conn session, server.sessions conn = some session → ∀ t, server.locks t = some conn →
    ∃ wallet own, server.wallets t = some wallet ∧ session.wallets t = some own ∧
      WalletFollows wallet own (journal t session.rows)
  unlocked : ∀ conn session, server.sessions conn = some session → ∀ t, server.locks t ≠ some conn →
    session.wallets t = none ∧ journal t session.rows = []
  checked : ∀ conn session call, server.sessions conn = some session → session.stage = .checked call →
    0 < call.amountMinor
  selected : ∀ conn session call wallet, server.sessions conn = some session →
    session.stage = .selected call wallet → 0 < call.amountMinor ∧ server.locks call.tenantId = some conn ∧
      session.wallets call.tenantId = some wallet

namespace Server

variable {opening : TenantId → Option WalletRow} {server : Server} {conn : Nat} {session : Session}

theorem Consistent.initial (opening : TenantId → Option WalletRow) : Consistent opening (Server.initial opening) where
  committed := fun t before h => ⟨before, h, .refl _⟩
  owned := by
    intro t conn h
    cases h
  locked := by
    intro conn session h
    cases h
  unlocked := by
    intro conn session h
    cases h
  checked := by
    intro conn session call h
    cases h
  selected := by
    intro conn session call wallet h
    cases h

/-- Reporting an outcome changes no table. -/
theorem Consistent.report (h : Consistent opening server) (outcome : CallOutcome) :
    Consistent opening (server.report conn outcome) :=
  ⟨h.committed, h.owned, h.locked, h.unlocked, h.checked, h.selected⟩

private theorem put_session {conn' : Nat} {session' : Session}
    (h : (server.put conn session).sessions conn' = some session') :
    (conn' = conn ∧ session' = session) ∨ (conn' ≠ conn ∧ server.sessions conn' = some session') := by
  by_cases hc : conn' = conn
  · rw [hc, put_sessions, Function.update_self] at h
    exact .inl ⟨hc, (Option.some.inj h).symm⟩
  · rw [put_sessions, Function.update_of_ne hc] at h
    exact .inr ⟨hc, h⟩

/-- A session with the wallets of its locks, and with nothing of others. -/
private theorem Consistent.put_of (h : Consistent opening server)
    (hlocked : ∀ t, server.locks t = some conn → ∃ wallet own, server.wallets t = some wallet ∧
      session.wallets t = some own ∧ WalletFollows wallet own (journal t session.rows))
    (hunlocked : ∀ t, server.locks t ≠ some conn → session.wallets t = none ∧ journal t session.rows = [])
    (hchecked : ∀ call, session.stage = .checked call → 0 < call.amountMinor)
    (hselected : ∀ call wallet, session.stage = .selected call wallet → 0 < call.amountMinor ∧
      server.locks call.tenantId = some conn ∧ session.wallets call.tenantId = some wallet) :
    Consistent opening (server.put conn session) := by
  refine ⟨h.committed, ?_, ?_, ?_, ?_, ?_⟩
  · intro t owner hl
    by_cases hc : owner = conn
    · rw [hc, put_sessions, Function.update_self]
      exact Option.some_ne_none _
    · rw [put_sessions, Function.update_of_ne hc]
      exact h.owned t owner hl
  · intro c s hcs t hl
    rcases put_session hcs with ⟨rfl, rfl⟩ | ⟨-, hcs⟩
    · exact hlocked t hl
    · exact h.locked _ _ hcs t hl
  · intro c s hcs t hl
    rcases put_session hcs with ⟨rfl, rfl⟩ | ⟨-, hcs⟩
    · exact hunlocked t hl
    · exact h.unlocked _ _ hcs t hl
  · intro c s call hcs hstage
    rcases put_session hcs with ⟨rfl, rfl⟩ | ⟨-, hcs⟩
    · exact hchecked call hstage
    · exact h.checked _ _ _ hcs hstage
  · intro c s call wallet hcs hstage
    rcases put_session hcs with ⟨rfl, rfl⟩ | ⟨-, hcs⟩
    · exact hselected call wallet hstage
    · exact h.selected _ _ _ _ hcs hstage

/-- A session that keeps what it has locked and written may change its stage. -/
theorem Consistent.restage (h : Consistent opening server) (hs : server.sessions conn = some session)
    {stage : CallStage} (hchecked : ∀ call, stage = .checked call → 0 < call.amountMinor)
    (hselected : ∀ call wallet, stage = .selected call wallet → 0 < call.amountMinor ∧
      server.locks call.tenantId = some conn ∧ session.wallets call.tenantId = some wallet) :
    Consistent opening (server.put conn { session with stage := stage }) :=
  h.put_of (h.locked conn session hs) (h.unlocked conn session hs) hchecked hselected

private theorem close_locks {t : TenantId} {owner : Nat} :
    (server.close conn).locks t = some owner ↔ owner ≠ conn ∧ server.locks t = some owner := by
  unfold close
  dsimp only
  split
  · rename_i hl
    rw [hl]
    constructor
    · intro h; cases h
    · rintro ⟨hne, he⟩
      exact absurd (Option.some.inj he).symm hne
  · rename_i hl
    constructor
    · intro h
      refine ⟨?_, h⟩
      rintro rfl
      exact hl h
    · exact fun h => h.2

private theorem close_session {conn' : Nat} {session' : Session}
    (h : (server.close conn).sessions conn' = some session') :
    conn' ≠ conn ∧ server.sessions conn' = some session' := by
  by_cases hc : conn' = conn
  · rw [hc, close_sessions, Function.update_self] at h
    cases h
  · rw [close_sessions, Function.update_of_ne hc] at h
    exact ⟨hc, h⟩

/-- Closing a transaction, with tables in which only wallets it had locked may have changed. -/
private theorem close_with (h : Consistent opening server) {wallets : TenantId → Option WalletRow}
    {transactions : List TransactionRow}
    (hcommitted : ∀ t before, opening t = some before → ∃ wallet, wallets t = some wallet ∧
      WalletFollows before wallet (journal t transactions))
    (hothers : ∀ t, server.locks t ≠ some conn → wallets t = server.wallets t) :
    Consistent opening { server.close conn with wallets := wallets, transactions := transactions } := by
  refine ⟨hcommitted, ?_, ?_, ?_, ?_, ?_⟩
  · intro t owner hl
    obtain ⟨hne, hl⟩ := close_locks.1 hl
    have hopen := h.owned t owner hl
    change Function.update server.sessions conn none owner ≠ none
    rwa [Function.update_of_ne hne]
  · intro c s hcs t hl
    obtain ⟨hne, hcs⟩ := close_session hcs
    obtain ⟨-, hl⟩ := close_locks.1 hl
    obtain ⟨wallet, own, hw, hown, hfollows⟩ := h.locked c s hcs t hl
    refine ⟨wallet, own, ?_, hown, hfollows⟩
    rw [← hw]
    exact hothers t fun he => hne (Option.some.inj (hl.symm.trans he))
  · intro c s hcs t hl
    obtain ⟨hne, hcs⟩ := close_session hcs
    exact h.unlocked c s hcs t fun he => hl (close_locks.2 ⟨hne, he⟩)
  · intro c s call hcs hstage
    exact h.checked c s call (close_session hcs).2 hstage
  · intro c s call wallet hcs hstage
    obtain ⟨hne, hcs⟩ := close_session hcs
    obtain ⟨hpos, hl, hw⟩ := h.selected c s call wallet hcs hstage
    exact ⟨hpos, close_locks.2 ⟨hne, hl⟩, hw⟩

theorem Consistent.close (h : Consistent opening server) : Consistent opening (server.close conn) :=
  close_with h h.committed fun _ _ => rfl

theorem Consistent.commit (h : Consistent opening server) (hs : server.sessions conn = some session) :
    Consistent opening (server.commit conn session) := by
  refine close_with h ?_ ?_
  · intro t before ho
    obtain ⟨wallet, hw, hfollows⟩ := h.committed t before ho
    rw [journal_append]
    by_cases hl : server.locks t = some conn
    · obtain ⟨wallet', own, hw', hown, hfollows'⟩ := h.locked conn session hs t hl
      rw [hw] at hw'
      cases hw'
      exact ⟨own, by rw [hown]; rfl, hfollows.trans hfollows'⟩
    · obtain ⟨hnone, hempty⟩ := h.unlocked conn session hs t hl
      refine ⟨wallet, by rw [hnone]; exact hw, ?_⟩
      rw [hempty, List.append_nil]
      exact hfollows
  · intro t hl
    rw [(h.unlocked conn session hs t hl).1]
    rfl

theorem Consistent.begin (h : Consistent opening server) (hs : server.sessions conn = none) (ledgerDate : SqlDate) :
    Consistent opening (server.put conn ⟨ledgerDate, fun _ => none, [], .idle⟩) := by
  have hfree : ∀ t, server.locks t ≠ some conn := fun t hl => h.owned t conn hl hs
  apply h.put_of
  · exact fun t hl => absurd hl (hfree t)
  · exact fun t _ => ⟨rfl, rfl⟩
  · intro call hstage
    cases hstage
  · intro call wallet hstage
    cases hstage

/-- Taking the lock of a wallet: the session sees the committed row. -/
private theorem lock_free (h : Consistent opening server) (hs : server.sessions conn = some session)
    {call : LedgerCall} {wallet : WalletRow} (hpos : 0 < call.amountMinor)
    (hlock : server.locks call.tenantId = none) (hw : server.wallets call.tenantId = some wallet) :
    Consistent opening
      ({ server with locks := Function.update server.locks call.tenantId (some conn) }.put conn
        { session with
          wallets := Function.update session.wallets call.tenantId (some wallet)
          stage := .selected call wallet }) := by
  have hunlocked := h.unlocked conn session hs
  refine ⟨h.committed, ?_, ?_, ?_, ?_, ?_⟩
  · intro t owner hl
    change Function.update server.locks call.tenantId (some conn) t = some owner at hl
    by_cases hc : owner = conn
    · rw [hc, put_sessions, Function.update_self]
      exact Option.some_ne_none _
    · have ht : t ≠ call.tenantId := by
        rintro rfl
        rw [Function.update_self] at hl
        exact hc (Option.some.inj hl).symm
      rw [Function.update_of_ne ht] at hl
      rw [put_sessions, Function.update_of_ne hc]
      exact h.owned t owner hl
  · intro c s hcs t hl
    change Function.update server.locks call.tenantId (some conn) t = some c at hl
    by_cases ht : t = call.tenantId
    · rw [ht, Function.update_self] at hl
      rcases put_session hcs with ⟨rfl, rfl⟩ | ⟨hne, -⟩
      · refine ⟨wallet, wallet, ht ▸ hw, by rw [ht]; exact Function.update_self .., ?_⟩
        rw [(hunlocked t (by rw [ht, hlock]; exact fun he => by cases he)).2]
        exact .refl wallet
      · exact absurd (Option.some.inj hl).symm hne
    · rw [Function.update_of_ne ht] at hl
      rcases put_session hcs with ⟨rfl, rfl⟩ | ⟨-, hcs⟩
      · obtain ⟨committed, own, hcommitted, hown, hfollows⟩ := h.locked _ _ hs t hl
        exact ⟨committed, own, hcommitted, (Function.update_of_ne ht ..).trans hown, hfollows⟩
      · exact h.locked _ _ hcs t hl
  · intro c s hcs t hl
    change Function.update server.locks call.tenantId (some conn) t ≠ some c at hl
    rcases put_session hcs with ⟨rfl, rfl⟩ | ⟨-, hcs⟩
    · have ht : t ≠ call.tenantId := by
        rintro rfl
        exact hl (Function.update_self ..)
      rw [Function.update_of_ne ht] at hl
      obtain ⟨hnone, hempty⟩ := hunlocked t hl
      exact ⟨(Function.update_of_ne ht ..).trans hnone, hempty⟩
    · refine h.unlocked _ _ hcs t ?_
      by_cases ht : t = call.tenantId
      · rw [ht, hlock]
        exact fun he => by cases he
      · rwa [Function.update_of_ne ht] at hl
  · intro c s call' hcs hstage
    rcases put_session hcs with ⟨rfl, rfl⟩ | ⟨-, hcs⟩
    · cases hstage
    · exact h.checked _ _ _ hcs hstage
  · intro c s call' wallet' hcs hstage
    rcases put_session hcs with ⟨rfl, rfl⟩ | ⟨hne, hcs⟩
    · cases hstage
      exact ⟨hpos, Function.update_self .., Function.update_self ..⟩
    · obtain ⟨hpos', hl, hw'⟩ := h.selected _ _ _ _ hcs hstage
      have ht : call'.tenantId ≠ call.tenantId := by
        intro he
        rw [he, hlock] at hl
        cases hl
      exact ⟨hpos', (Function.update_of_ne ht ..).trans hl, hw'⟩

theorem Consistent.select (h : Consistent opening server) (hs : server.sessions conn = some session)
    {call : LedgerCall} (hpos : 0 < call.amountMinor) {server' : Server}
    (hstep : server.select conn session call = some server') : Consistent opening server' := by
  unfold Server.select at hstep
  split at hstep
  · rename_i owner hlock
    split at hstep
    · rename_i howner
      subst howner
      obtain ⟨wallet, hw, rfl⟩ := Option.map_eq_some_iff.1 hstep
      refine h.restage hs (fun _ he => by cases he) fun call' wallet' he => ?_
      cases he
      exact ⟨hpos, hlock, hw⟩
    · cases hstep
  · rename_i hlock
    split at hstep
    · cases hstep
      exact h.close.report _
    · rename_i wallet hw
      cases hstep
      exact lock_free h hs hpos hlock hw

theorem Consistent.write (h : Consistent opening server) (hs : server.sessions conn = some session)
    {call : LedgerCall} {wallet : WalletRow} (hstage : session.stage = .selected call wallet) :
    Consistent opening (server.write conn session call wallet) := by
  obtain ⟨hpos, hlock, hw⟩ := h.selected conn session call wallet hs hstage
  unfold Server.write
  split
  · exact h.close.report _
  · rename_i after hafter
    dsimp only
    split
    · exact h.close.report _
    · refine Consistent.report ?_ _
      have hentry : ∀ t, journal t [ledgerRow session.ledgerDate call.tenantId call.amountMinor call.operation
          call.idempotencyKey call.messageRef wallet after] =
          if t = call.tenantId then [wallet.account.entry call.operation.kind call.amountMinor] else [] := by
        intro t
        unfold journal
        by_cases ht : t = call.tenantId
        · rw [if_pos ht, List.filter_cons_of_pos (by simp [ledgerRow, ht])]
          simp only [List.filter_nil, List.map_cons, List.map_nil, ledgerRow_entry hpos hafter]
        · rw [if_neg ht, List.filter_cons_of_neg (by simp [ledgerRow, Ne.symm ht])]
          rfl
      apply h.put_of
      · intro t hl
        obtain ⟨committed, own, hcommitted, hown, hfollows⟩ := h.locked _ _ hs t hl
        dsimp only
        rw [journal_append, hentry]
        by_cases ht : t = call.tenantId
        · rw [if_pos ht, ht, Function.update_self]
          rw [ht] at hcommitted hown hfollows
          rw [hw] at hown
          cases hown
          exact ⟨committed, after, hcommitted, rfl, hfollows.post hpos hafter⟩
        · rw [if_neg ht, List.append_nil, Function.update_of_ne ht]
          exact ⟨committed, own, hcommitted, hown, hfollows⟩
      · intro t hl
        have ht : t ≠ call.tenantId := by
          rintro rfl
          exact hl hlock
        obtain ⟨hnone, hempty⟩ := h.unlocked _ _ hs t hl
        dsimp only
        rw [journal_append, hentry, if_neg ht, Function.update_of_ne ht, hempty]
        exact ⟨hnone, rfl⟩
      · intro call' hstage'
        cases hstage'
      · intro call' wallet' hstage'
        cases hstage'

theorem Consistent.check (h : Consistent opening server) (hs : server.sessions conn = some session)
    (call : LedgerCall) : Consistent opening (server.check conn session call) := by
  unfold Server.check
  split
  · exact h.report _
  · rename_i hpos
    split
    · exact h.report _
    · refine h.restage hs (fun call' he => ?_) fun _ _ he => by cases he
      cases he
      omega

theorem Consistent.step (h : Consistent opening server) {action : Nat × Statement} {server' : Server}
    (hstep : server.step action = some server') : Consistent opening server' := by
  unfold Server.step at hstep
  split at hstep
  · rename_i hs _
    cases hstep
    exact h.begin hs _
  · cases hstep
  · cases hstep
  · cases hstep
    exact h.close
  · rename_i session call hs _
    split at hstep
    · cases hstep
      exact h.check hs _
    · cases hstep
  · rename_i session hs _
    split at hstep
    · cases hstep
    · rename_i call hstage
      exact h.select hs (h.checked _ _ _ hs hstage) hstep
    · rename_i call wallet hstage
      cases hstep
      exact h.write hs hstage
  · rename_i session hs _
    split at hstep
    · cases hstep
      exact h.commit hs
    · cases hstep

theorem consistent_of_reaches (h : Reaches Server.step (Server.initial opening) server) :
    Consistent opening server :=
  h.invariant (Consistent.initial opening) fun _ _ _ hc _ hstep => hc.step hstep

/-! ### Calls that write nothing -/

/-- A call whose key is committed for the tenant returns false and writes nothing. -/
theorem call_committed_key (hs : server.sessions conn = some session) (hidle : session.stage = .idle)
    {call : LedgerCall} (hkey : ledgerExists server.transactions call.tenantId call.idempotencyKey = true) :
    server.step (conn, .call call) = some (server.report conn (.returned false)) := by
  have hvisible : ledgerExists (server.visible session) call.tenantId call.idempotencyKey = true := by
    unfold ledgerExists Server.visible at *
    rw [List.any_append, hkey, Bool.true_or]
  unfold Server.step
  simp only [hs, hidle]
  unfold Server.check
  rw [hvisible]
  simp

private theorem select_outcome {call : LedgerCall} {server' : Server} {failure : Failure}
    (h : server.select conn session call = some server')
    (ho : server'.outcomes = (conn, .threw failure) :: server.outcomes) :
    server'.wallets = server.wallets ∧ server'.transactions = server.transactions ∧ server'.sessions conn = none := by
  unfold Server.select at h
  split at h
  · split at h
    · obtain ⟨wallet, -, rfl⟩ := Option.map_eq_some_iff.1 h
      exact absurd ho (by simp [Server.put])
    · cases h
  · split at h
    · cases h
      exact ⟨rfl, rfl, Function.update_self ..⟩
    · cases h
      exact absurd ho (by simp [Server.put])

private theorem write_outcome {call : LedgerCall} {wallet : WalletRow} {failure : Failure}
    (ho : (server.write conn session call wallet).outcomes = (conn, .threw failure) :: server.outcomes) :
    (server.write conn session call wallet).wallets = server.wallets ∧
      (server.write conn session call wallet).transactions = server.transactions ∧
      (server.write conn session call wallet).sessions conn = none := by
  unfold Server.write at *
  split
  · exact ⟨rfl, rfl, Function.update_self ..⟩
  · rename_i after hafter
    rw [hafter] at ho
    dsimp only at ho ⊢
    split
    · exact ⟨rfl, rfl, Function.update_self ..⟩
    · rename_i rows hrows
      rw [hrows] at ho
      simp [Server.report, Server.put] at ho

/-- A call that throws ends its transaction and leaves the committed wallets and the committed ledger as they were. -/
theorem call_throws {statement : Statement} {server' : Server} {failure : Failure}
    (h : server.step (conn, statement) = some server')
    (ho : server'.outcomes = (conn, .threw failure) :: server.outcomes) :
    server'.wallets = server.wallets ∧ server'.transactions = server.transactions ∧ server'.sessions conn = none := by
  unfold Server.step at h
  split at h
  · cases h
    simp [Server.put] at ho
  · cases h
  · cases h
  · cases h
    simp [Server.close] at ho
  · split at h
    · cases h
      unfold Server.check at ho
      split at ho
      · simp [Server.report] at ho
      · split at ho
        · simp [Server.report] at ho
        · simp [Server.put] at ho
    · cases h
  · split at h
    · cases h
    · exact select_outcome h ho
    · cases h
      exact write_outcome ho
  · split at h
    · cases h
      simp [Server.commit, Server.close] at ho
    · cases h

end Server

/-! ### The committed states -/

/-- The sum of the tenant's committed debits. -/
def debitedMinor (tenantId : TenantId) (rows : List TransactionRow) : Int :=
  ((rows.filter fun row => decide (row.tenantId = tenantId ∧ row.kind = .debit)).map (·.amountMinor)).sum

theorem debitedMinor_eq_captured (tenantId : TenantId) (rows : List TransactionRow) :
    debitedMinor tenantId rows = Escrow.captured (journal tenantId rows) := by
  induction rows with
  | nil => rfl
  | cons row rows ih =>
    unfold debitedMinor journal at *
    by_cases ht : row.tenantId = tenantId
    · rw [List.filter_cons_of_pos (p := fun row : TransactionRow => decide (row.tenantId = tenantId)) (by simpa using ht),
        List.map_cons, Escrow.captured, ← ih]
      cases hk : row.kind <;> simp [ht, hk, TransactionRow.entry, BillingOperation.kind]
    · rw [List.filter_cons_of_neg (p := fun row : TransactionRow => decide (row.tenantId = tenantId)) (by simpa using ht),
        ← ih]
      simp [ht]

/-- Every interleaving of wallet transactions keeps the committed tables consistent: a wallet that starts within its
credit line with a non-negative reserve stays so; available, reserved and debited amounts add up to a constant; the
committed ledger, replayed in commit order, reproduces the balances and the balances shown in its rows; a call with a
committed key returns false without a write; and a call that throws leaves wallets and ledger as they were. -/
theorem interleaved_wallets_consistent {opening : TenantId → Option WalletRow} {server : Server}
    (h : Reaches Server.step (Server.initial opening) server) :
    (∀ tenantId before, opening tenantId = some before → ∃ wallet, server.wallets tenantId = some wallet ∧
      wallet.creditLimitMinor = before.creditLimitMinor ∧
      (-before.creditLimitMinor ≤ before.availableBalanceMinor ∧ 0 ≤ before.reservedBalanceMinor →
        -wallet.creditLimitMinor ≤ wallet.availableBalanceMinor ∧ 0 ≤ wallet.reservedBalanceMinor) ∧
      wallet.availableBalanceMinor + wallet.reservedBalanceMinor + debitedMinor tenantId server.transactions =
        before.availableBalanceMinor + before.reservedBalanceMinor ∧
      wallet.account = Escrow.replay before.account (journal tenantId server.transactions) ∧
      Escrow.Faithful before.account (journal tenantId server.transactions)) ∧
    (∀ conn session call, server.sessions conn = some session → session.stage = .idle →
      ledgerExists server.transactions call.tenantId call.idempotencyKey = true →
      server.step (conn, .call call) = some (server.report conn (.returned false))) ∧
    (∀ conn statement server' failure, server.step (conn, statement) = some server' →
      server'.outcomes = (conn, .threw failure) :: server.outcomes →
      server'.wallets = server.wallets ∧ server'.transactions = server.transactions ∧
        server'.sessions conn = none) := by
  have hc := Server.consistent_of_reaches h
  refine ⟨?_, fun conn session call hs hidle hkey => Server.call_committed_key hs hidle hkey,
    fun conn statement server' failure hstep ho => Server.call_throws hstep ho⟩
  intro t before ho
  obtain ⟨wallet, hw, hfollows⟩ := hc.committed t before ho
  refine ⟨wallet, hw, hfollows.credit, ?_, ?_, hfollows.follows.replay_eq, hfollows.follows.faithful⟩
  · rintro ⟨havailable, hreserved⟩
    have hsolvent := hfollows.follows.solvent ⟨havailable, hreserved⟩
    rw [hfollows.credit]
    exact ⟨hsolvent.available, hsolvent.held⟩
  · have htotal := Escrow.replay_total before.account (journal t server.transactions)
    rw [← hfollows.follows.replay_eq, ← debitedMinor_eq_captured] at htotal
    exact htotal

/-- Two transactions reserve under one key.  Both have checked the key before the first one commits; the second one
waits for the lock, and its INSERT meets the unique index. -/
def Sample.sameKey : List (Nat × Statement) :=
  let reserve : Statement := .call ⟨tenant, 10, .reserve, "k", ⟨day, tenant, 1⟩⟩
  [(1, .begin day), (2, .begin day), (1, reserve), (2, reserve), (1, .next), (1, .next), (1, .commit), (2, .next),
    (2, .next)]

theorem interleaved_wallets_consistent_sameKey : ∃ server,
    execute Server.step (Server.initial (Sample.wallets 100)) Sample.sameKey = some server ∧
    server.outcomes = [(2, .threw (.uniqueViolation "uq_transactions_idempotency")), (1, .returned true)] ∧
    ∃ wallet, server.wallets Sample.tenant = some wallet ∧ 0 ≤ wallet.availableBalanceMinor ∧
      wallet.account = Escrow.replay ⟨100, 0⟩ (journal Sample.tenant server.transactions) := by
  have hrun : (execute Server.step (Server.initial (Sample.wallets 100)) Sample.sameKey).any (fun server =>
      decide (server.outcomes =
        [(2, .threw (.uniqueViolation "uq_transactions_idempotency")), (1, .returned true)])) = true := by
    decide +kernel
  obtain ⟨server, hrun, houtcomes⟩ := (Option.any_eq_true _ _).1 hrun
  have h := interleaved_wallets_consistent (reaches_of_execute hrun)
  obtain ⟨wallet, hw, hcredit, hsolvent, -, hreplay, -⟩ := h.1 Sample.tenant ⟨1, 100, 0, 0, "ETB"⟩ rfl
  have hnonneg := (hsolvent ⟨by decide, by decide⟩).1
  rw [hcredit] at hnonneg
  exact ⟨server, hrun, of_decide_eq_true houtcomes, wallet, hw, by simpa using hnonneg, hreplay⟩

/-! ### The statements of a call and `applyWalletLedger` -/

namespace Server

variable {server : Server} {conn : Nat} {session : Session}

/-- The database as a session sees it. -/
def view (server : Server) (session : Session) (db : Db) : Db :=
  { db with
    wallets := fun tenantId => (session.wallets tenantId).or (server.wallets tenantId)
    transactions := server.visible session }

private theorem step_call (hs : server.sessions conn = some session) (hidle : session.stage = .idle)
    (call : LedgerCall) : server.step (conn, .call call) = some (server.check conn session call) := by
  simp only [Server.step, hs, hidle]

private theorem step_checked {call : LedgerCall} (hs : server.sessions conn = some session)
    (hstage : session.stage = .checked call) : server.step (conn, .next) = server.select conn session call := by
  simp only [Server.step, hs, hstage]

private theorem step_selected {call : LedgerCall} {wallet : WalletRow} (hs : server.sessions conn = some session)
    (hstage : session.stage = .selected call wallet) :
    server.step (conn, .next) = some (server.write conn session call wallet) := by
  simp only [Server.step, hs, hstage]

private theorem put_self (server : Server) (conn : Nat) (session : Session) :
    (server.put conn session).sessions conn = some session :=
  Function.update_self ..

private theorem execute_three {s t u v : Server} {a b c : Statement} (h₁ : s.step (conn, a) = some t)
    (h₂ : t.step (conn, b) = some u) (h₃ : u.step (conn, c) = some v) :
    execute Server.step s ([a, b, c].map fun statement => (conn, statement)) = some v := by
  simp [execute, h₁, h₂, h₃]

/-- The end of `applyWalletLedger` on a wallet row, from the sufficiency test on. -/
private theorem write_apply {clock : TxClock} {call : LedgerCall} {wallet : WalletRow} {server₁ : Server}
    {session₁ : Session} (db : Db) (hdate : session.ledgerDate = clock.currentDate)
    (hcommitted : server₁.wallets = server.wallets) (htransactions : server₁.transactions = server.transactions)
    (houtcomes : server₁.outcomes = server.outcomes) (hsessionDate : session₁.ledgerDate = session.ledgerDate)
    (hrows : session₁.rows = session.rows)
    (howned : ∀ t, t ≠ call.tenantId → session₁.wallets t = session.wallets t)
    (hwallet : (server.view session db).wallets call.tenantId = some wallet) (hpos : 0 < call.amountMinor)
    (hkey : ledgerExists (server.visible session) call.tenantId call.idempotencyKey = false) :
    match (applyWalletLedger clock call.tenantId call.amountMinor call.operation call.idempotencyKey
      call.messageRef).run (server.view session db) with
    | .ok (posted, db') =>
      (server₁.write conn session₁ call wallet).outcomes = (conn, .returned posted) :: server.outcomes ∧
      ∃ session', (server₁.write conn session₁ call wallet).sessions conn = some session' ∧
        (server₁.write conn session₁ call wallet).view session' db = db'
    | .error failure =>
      (server₁.write conn session₁ call wallet).outcomes = (conn, .threw failure) :: server.outcomes := by
  have hvisible : server₁.visible session₁ = server.visible session := by
    rw [Server.visible, htransactions, hrows, Server.visible]
  have hview : (server.view session db).transactions = server.visible session := rfl
  cases hop : applyOperation call.operation wallet call.amountMinor with
  | error failure =>
    have hrun : (applyWalletLedger clock call.tenantId call.amountMinor call.operation call.idempotencyKey
        call.messageRef).run (server.view session db) = .error failure := by
      unfold applyWalletLedger
      rw [if_neg (by omega), StateExcept.bind_of_ok (a := server.view session db) (t := server.view session db) rfl,
        hview, hkey]
      simp only [Bool.false_eq_true, if_false, hwallet, hop]
      rfl
    rw [hrun]
    simp only [Server.write, hop, Server.report, Server.close, houtcomes]
  | ok after =>
    have hrun : (applyWalletLedger clock call.tenantId call.amountMinor call.operation call.idempotencyKey
        call.messageRef).run (server.view session db) = .ok (true,
          { (server.view session db).setWallet call.tenantId after with
            transactions := (server.view session db).transactions ++ [ledgerRow clock.currentDate call.tenantId
              call.amountMinor call.operation call.idempotencyKey call.messageRef wallet after] }) :=
      applyWalletLedger_ok.2 (.applied wallet after hpos (by rw [hview]; exact hkey) hwallet hop)
    have hinsert := @insertTransaction_of_fresh (server.visible session) (ledgerRow clock.currentDate call.tenantId
      call.amountMinor call.operation call.idempotencyKey call.messageRef wallet after) hkey
    rw [hrun]
    simp only [Server.write, hop, hvisible, hsessionDate, hdate, hinsert]
    refine ⟨by rw [← houtcomes]; rfl, _, Function.update_self .., ?_⟩
    unfold Server.view Db.setWallet
    congr 1
    · funext t
      change ((Function.update session₁.wallets call.tenantId (some after)) t).or (server₁.wallets t) =
        if t = call.tenantId then some after else (session.wallets t).or (server.wallets t)
      by_cases ht : t = call.tenantId
      · rw [ht, if_pos rfl, Function.update_self]
        rfl
      · rw [if_neg ht, Function.update_of_ne ht, howned t ht, hcommitted]
    · change server₁.transactions ++ (session₁.rows ++ _) = (server.transactions ++ session.rows) ++ _
      rw [htransactions, hrows, List.append_assoc]

/-- Run alone and with the lock free, the statements of a call do what `applyWalletLedger` does on the database the
session sees: they return the same value and leave the same view, or throw the same failure. -/
theorem calls_apply {clock : TxClock} (hs : server.sessions conn = some session) (hidle : session.stage = .idle)
    (hdate : session.ledgerDate = clock.currentDate) {call : LedgerCall}
    (hlock : server.locks call.tenantId = none ∧ session.wallets call.tenantId = none ∨
      server.locks call.tenantId = some conn ∧ (session.wallets call.tenantId).isSome) (db : Db) :
    ∃ (statements : List Statement) (server' : Server),
      execute Server.step server (statements.map fun s => (conn, s)) = some server' ∧
      match (applyWalletLedger clock call.tenantId call.amountMinor call.operation call.idempotencyKey
        call.messageRef).run (server.view session db) with
      | .ok (posted, db') => server'.outcomes = (conn, .returned posted) :: server.outcomes ∧
        ∃ session', server'.sessions conn = some session' ∧ server'.view session' db = db'
      | .error failure => server'.outcomes = (conn, .threw failure) :: server.outcomes := by
  have hcall := step_call hs hidle call
  by_cases hskip : call.amountMinor ≤ 0 ∨
      ledgerExists (server.visible session) call.tenantId call.idempotencyKey = true
  · have hcheck : server.check conn session call = server.report conn (.returned false) := by
      unfold Server.check
      rcases hskip with hle | hkey
      · rw [if_pos hle]
      · rw [if_pos hkey, ite_self]
    have hrun : (applyWalletLedger clock call.tenantId call.amountMinor call.operation call.idempotencyKey
        call.messageRef).run (server.view session db) = .ok (false, server.view session db) :=
      applyWalletLedger_ok.2 (.skipped hskip)
    refine ⟨[.call call], server.report conn (.returned false), by simp [execute, hcall, hcheck], ?_⟩
    rw [hrun]
    exact ⟨rfl, session, hs, rfl⟩
  · have hpos : 0 < call.amountMinor := by
      by_contra hle
      exact hskip (.inl (by omega))
    have hkey : ledgerExists (server.visible session) call.tenantId call.idempotencyKey = false := by
      simpa using fun h => hskip (.inr h)
    have hcheck : server.check conn session call = server.put conn { session with stage := .checked call } := by
      unfold Server.check
      rw [if_neg (by omega), if_neg (by rw [hkey]; exact Bool.false_ne_true)]
    rw [hcheck] at hcall
    have hnext := step_checked (put_self server conn { session with stage := .checked call }) rfl
    rcases hlock with ⟨hfree, hown⟩ | ⟨howner, hown⟩
    · cases hw : server.wallets call.tenantId with
      | none =>
        have hselect : (server.put conn { session with stage := .checked call }).select conn
            { session with stage := .checked call } call =
            some (((server.put conn { session with stage := .checked call }).close conn).report conn
              (.threw (.notFound "Wallet not found"))) := by
          simp only [Server.select, Server.put, hfree, hw]
        have hrun : (applyWalletLedger clock call.tenantId call.amountMinor call.operation call.idempotencyKey
            call.messageRef).run (server.view session db) = .error (.notFound "Wallet not found") := by
          unfold applyWalletLedger
          rw [if_neg (by omega),
            StateExcept.bind_of_ok (a := server.view session db) (t := server.view session db) rfl]
          simp only [Server.view, hkey, Bool.false_eq_true, if_false, hown, hw]
          rfl
        refine ⟨[.call call, .next], (((server.put conn { session with stage := .checked call }).close conn).report conn
          (.threw (.notFound "Wallet not found"))), by simp [execute, hcall, hnext, hselect], ?_⟩
        rw [hrun]
        rfl
      | some wallet =>
        have hselect : (server.put conn { session with stage := .checked call }).select conn
            { session with stage := .checked call } call =
            some ({ server.put conn { session with stage := .checked call } with
              locks := Function.update server.locks call.tenantId (some conn) }.put conn
              { session with
                wallets := Function.update session.wallets call.tenantId (some wallet)
                stage := .selected call wallet }) := by
          simp only [Server.select, Server.put, hfree, hw]
        refine ⟨[.call call, .next, .next], _, execute_three hcall (hnext.trans hselect)
          (step_selected (put_self _ conn _) rfl), ?_⟩
        refine write_apply db hdate rfl rfl rfl rfl rfl ?_ ?_ hpos hkey
        · intro t ht
          exact Function.update_of_ne ht ..
        · simp only [Server.view, hown, hw, Option.none_or]
    · obtain ⟨wallet, hwallet⟩ := Option.isSome_iff_exists.1 hown
      have hselect : (server.put conn { session with stage := .checked call }).select conn
          { session with stage := .checked call } call =
          some ((server.put conn { session with stage := .checked call }).put conn
            { session with stage := .selected call wallet }) := by
        simp only [Server.select, Server.put, howner, if_true, hwallet, Option.map_some]
      refine ⟨[.call call, .next, .next], _, execute_three hcall (hnext.trans hselect)
        (step_selected (put_self _ conn _) rfl), ?_⟩
      refine write_apply db hdate rfl rfl rfl rfl rfl (fun _ _ => rfl) ?_ hpos hkey
      simp only [Server.view, hwallet, Option.some_or]

end Server

end SmsPlatform
