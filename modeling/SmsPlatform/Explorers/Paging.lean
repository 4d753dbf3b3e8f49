import SmsPlatform.Explorers.Noninterference
import SmsPlatform.Lib.Paging

/-!
# Paging through the explorers

A client that asks for page after page of a list gets each matching row once exactly if no rows of one time lie on both
sides of a page boundary (`paging_complete_iff`): the lists are sorted by a time alone, and every page is a query of its
own.
-/

namespace SmsPlatform.Explorers

open Queries StateExcept

/-! ### Asking for all pages -/

/-- The first `n` pages, one request after the other; in the query of the page `k` rows of one time come in the order
`ties k`. -/
def requestPages {ρ ι : Type} (request : (ρ → Nat) → ℕ+ → Except Failure (Listing ι)) (ties : Nat → ρ → Nat) :
    Nat → Except Failure (List (Listing ι))
  | 0 => .ok []
  | n + 1 => do
    let listings ← requestPages request ties n
    let listing ← request (ties n) ⟨n + 1, n.succ_pos⟩
    return listings ++ [listing]

/-- `ceil(total/limit)`. -/
def pageCount (total limit : Nat) : Nat := (total + limit - 1) / limit

/-- All pages together have each matching item once, whatever the orders are, and all totals count the matching items. -/
structure PagesComplete {ρ ι : Type} (request : (ρ → Nat) → ℕ+ → Except Failure (Listing ι)) (limit : ℕ+)
    (matching : List ι) : Prop where
  once : ∀ ties, ∃ listings, requestPages request ties (pageCount matching.length limit) = .ok listings ∧
    (listings.flatMap Listing.items).Perm matching
  counted : ∀ tie page listing, request tie page = .ok listing → listing.pagination.total = matching.length

/-- The offset of every page is a BIGINT and exact in JavaScript, and rows of one time are on one side of it. -/
def CleanPages {ρ : Type} (createdAt : ρ → Timestamp) (rows : List ρ) (limit : ℕ+) : Prop :=
  ∀ k, k * (limit : Nat) < rows.length →
    (((limit : Nat) < 2 ^ 63 ∧ k * (limit : Nat) < 2 ^ 63) ∧
      Binary64.roundNat (Binary64.roundNat k * limit) = k * (limit : Nat)) ∧
    (0 < k → ∀ time, ¬ Splits createdAt rows (k * limit) time)

/-- The rows that a list selects from. -/
def matchingRows {ρ : Type} (sql : Sql) (tenantOf : ρ → Option TenantId) (user : JwtClaims)
    (requestedTenantId : Option String) (filters : Except Failure (List (ρ → Bool))) (rows : List ρ) :
    Except Failure (List ρ) := do
  let tenantId ← resolveTenantScope user requestedTenantId
  let filters ← filters
  let tenant ← cast sql.uuid tenantId
  return select (equals tenantOf tenant :: filters) rows

/-! ### Page counts and offsets -/

section Counts

variable {total limit : Nat}

theorem le_pageCount (hlimit : 0 < limit) : total ≤ pageCount total limit * limit := by
  have hdiv := Nat.div_add_mod (total + limit - 1) limit
  have hmod := Nat.mod_lt (total + limit - 1) hlimit
  unfold pageCount
  rw [Nat.mul_comm]
  omega

theorem lt_pageCount_iff (hlimit : 0 < limit) {k : Nat} : k < pageCount total limit ↔ k * limit < total := by
  unfold pageCount
  rw [← Nat.succ_le_iff, Nat.le_div_iff_mul_le hlimit, Nat.succ_mul]
  omega

end Counts

/-- The offset of the page `k + 1`, as JavaScript computes it. -/
def roundedOffset (limit k : Nat) : Nat := Binary64.roundNat (Binary64.roundNat k * limit)

theorem roundedOffset_mono (limit : Nat) {j k : Nat} (h : j ≤ k) : roundedOffset limit j ≤ roundedOffset limit k :=
  Binary64.roundNat_mono (Nat.mul_le_mul_right _ (Binary64.roundNat_mono h))

theorem roundedOffset_zero (limit : Nat) : roundedOffset limit 0 = 0 := by
  have hzero : Binary64.roundNat 0 = 0 := Binary64.roundNat_of_lt (by decide)
  unfold roundedOffset
  rw [hzero, Nat.zero_mul, hzero]

/-- Offsets are exact in a table of at most 2^53 rows. -/
theorem roundedOffset_of_lt {limit k : Nat} (hlimit : 0 < limit) (h : k * limit < 2 ^ 53) :
    roundedOffset limit k = k * limit := by
  have hk : k ≤ k * limit := Nat.le_mul_of_pos_right k hlimit
  unfold roundedOffset
  rw [Binary64.roundNat_of_lt (hk.trans_lt h), Binary64.roundNat_of_lt h]

theorem bigint_eq_ok {number value : Nat} : bigint number = .ok value ↔ number < 2 ^ 63 ∧ number = value := by
  unfold bigint
  by_cases hlt : number < 2 ^ 63
  · rw [if_pos hlt, Except.ok.injEq]
    exact ⟨fun h => ⟨hlt, h⟩, fun h => h.2⟩
  · rw [if_neg hlt]
    constructor
    · intro h
      cases h
    · intro h
      exact absurd h.1 hlt

/-! ### The pages of one list -/

section List

variable {ρ ι : Type} {sql : Sql} {tenantOf : ρ → Option TenantId} {createdAt : ρ → Timestamp} {item : ρ → ι}
  {user : JwtClaims} {requestedTenantId : Option String} {limit : ℕ+} {filters : Except Failure (List (ρ → Bool))}
  {rows selected : List ρ}

/-- A request for a page of the rows that match. -/
theorem list_eq_ok (h : matchingRows sql tenantOf user requestedTenantId filters rows = .ok selected) {tie : ρ → Nat}
    {page : ℕ+} {listing : Listing ι} :
    list sql tenantOf createdAt tie item user requestedTenantId page limit filters rows = .ok listing ↔
      ((limit : Nat) < 2 ^ 63 ∧ roundedOffset limit (page - 1) < 2 ^ 63) ∧ listing =
        { items := (Queries.page limit (roundedOffset limit (page - 1)) (newestFirst createdAt tie selected)).map item
          pagination := ⟨page, limit, selected.length⟩ } := by
  obtain ⟨scope, hscope, h⟩ := except_bind_eq_ok.1 h
  obtain ⟨conditions, hconditions, h⟩ := except_bind_eq_ok.1 h
  obtain ⟨tenant, htenant, h⟩ := except_bind_eq_ok.1 h
  cases h
  unfold list
  constructor
  · intro hlist
    obtain ⟨scope', hscope', hlist⟩ := except_bind_eq_ok.1 hlist
    obtain ⟨conditions', hconditions', hlist⟩ := except_bind_eq_ok.1 hlist
    obtain ⟨tenant', htenant', hlist⟩ := except_bind_eq_ok.1 hlist
    obtain ⟨count, hcount, hlist⟩ := except_bind_eq_ok.1 hlist
    obtain ⟨offset, hoffset, hlist⟩ := except_bind_eq_ok.1 hlist
    rw [hscope] at hscope'
    cases hscope'
    rw [hconditions] at hconditions'
    cases hconditions'
    rw [htenant] at htenant'
    cases htenant'
    obtain ⟨hlimit, rfl⟩ := bigint_eq_ok.1 hcount
    obtain ⟨hstart, rfl⟩ := bigint_eq_ok.1 hoffset
    cases hlist
    exact ⟨⟨hlimit, hstart⟩, rfl⟩
  · rintro ⟨⟨hlimit, hstart⟩, rfl⟩
    refine except_bind_eq_ok.2 ⟨scope, hscope, except_bind_eq_ok.2 ⟨conditions, hconditions,
      except_bind_eq_ok.2 ⟨tenant, htenant, except_bind_eq_ok.2 ⟨limit, bigint_eq_ok.2 ⟨hlimit, rfl⟩,
        except_bind_eq_ok.2 ⟨_, bigint_eq_ok.2 ⟨hstart, rfl⟩, rfl⟩⟩⟩⟩⟩

/-- Asking for the pages of a list puts its pages one behind the other. -/
theorem requestPages_list (h : matchingRows sql tenantOf user requestedTenantId filters rows = .ok selected)
    (ties : Nat → ρ → Nat) {n : Nat} {listings : List (Listing ι)}
    (hpages : requestPages (fun tie page => list sql tenantOf createdAt tie item user requestedTenantId page limit
      filters rows) ties n = .ok listings) :
    (∀ k < n, (limit : Nat) < 2 ^ 63 ∧ roundedOffset limit k < 2 ^ 63) ∧ listings.flatMap Listing.items =
      (paged limit (roundedOffset limit) (fun k => newestFirst createdAt (ties k) selected) n).map item := by
  induction n generalizing listings with
  | zero =>
    cases hpages
    exact ⟨fun k hk => absurd hk (Nat.not_lt_zero k), rfl⟩
  | succ n ih =>
    obtain ⟨before, hbefore, hpages⟩ := except_bind_eq_ok.1 hpages
    obtain ⟨listing, hlisting, hpages⟩ := except_bind_eq_ok.1 hpages
    cases hpages
    obtain ⟨hbounds, hitems⟩ := ih hbefore
    obtain ⟨hbound, rfl⟩ := (list_eq_ok h).1 hlisting
    refine ⟨fun k hk => ?_, ?_⟩
    · by_cases hlast : k = n
      · exact hlast ▸ hbound
      · exact hbounds k (by omega)
    · rw [List.flatMap_append, hitems, paged, List.map_append]
      simp

theorem requestPages_answered (h : matchingRows sql tenantOf user requestedTenantId filters rows = .ok selected)
    (ties : Nat → ρ → Nat) {n : Nat} (hbounds : ∀ k < n, (limit : Nat) < 2 ^ 63 ∧ roundedOffset limit k < 2 ^ 63) :
    ∃ listings, requestPages (fun tie page => list sql tenantOf createdAt tie item user requestedTenantId page limit
      filters rows) ties n = .ok listings := by
  induction n with
  | zero => exact ⟨[], rfl⟩
  | succ n ih =>
    obtain ⟨before, hbefore⟩ := ih fun k hk => hbounds k (by omega)
    exact ⟨_, except_bind_eq_ok.2 ⟨before, hbefore, except_bind_eq_ok.2
      ⟨_, (list_eq_ok h).2 ⟨hbounds n (Nat.lt_succ_self n), rfl⟩, rfl⟩⟩⟩

/-- Paging through a list whose items tell its rows apart. -/
theorem list_complete_iff [DecidableEq ρ]
    (h : matchingRows sql tenantOf user requestedTenantId filters rows = .ok selected)
    (hitems : (selected.map item).Nodup) :
    PagesComplete (fun tie page => list sql tenantOf createdAt tie item user requestedTenantId page limit filters rows)
      limit (selected.map item) ↔ CleanPages createdAt selected limit := by
  have hnodup : selected.Nodup := hitems.of_map
  have hlimit : 0 < (limit : Nat) := limit.pos
  have hpaged := @paged_perm_iff ρ createdAt selected limit (roundedOffset limit) (pageCount selected.length limit) _
    hnodup hlimit (fun j k => roundedOffset_mono limit) (roundedOffset_zero limit) (le_pageCount hlimit)
    fun k hk => (lt_pageCount_iff hlimit).1 hk
  constructor
  · rintro ⟨honce, -⟩
    rw [List.length_map] at honce
    have hbounds : ∀ k < pageCount selected.length limit, (limit : Nat) < 2 ^ 63 ∧ roundedOffset limit k < 2 ^ 63 := by
      obtain ⟨listings, hlistings, -⟩ := honce fun _ _ => 0
      exact (requestPages_list h _ hlistings).1
    have hperm : ∀ ties : Nat → ρ → Nat, (paged limit (roundedOffset limit)
        (fun k => newestFirst createdAt (ties k) selected) (pageCount selected.length limit)).Perm selected := by
      intro ties
      obtain ⟨listings, hlistings, hall⟩ := honce ties
      rw [(requestPages_list h ties hlistings).2] at hall
      exact perm_of_map_perm hitems (fun row hrow => mem_of_mem_paged
        (fun k => (newestFirst_ordered createdAt (ties k) selected).1) hrow) hall
    intro k hk
    have hk := (lt_pageCount_iff hlimit).2 hk
    obtain ⟨hoffset, hsplits⟩ := hpaged.1 hperm k hk
    exact ⟨⟨⟨(hbounds k hk).1, hoffset ▸ (hbounds k hk).2⟩, hoffset⟩, hsplits⟩
  · intro hclean
    refine ⟨fun ties => ?_, fun tie page listing hlisting => ?_⟩
    · rw [List.length_map]
      have hclean' : ∀ k < pageCount selected.length limit, _ := fun k hk => hclean k ((lt_pageCount_iff hlimit).1 hk)
      obtain ⟨listings, hlistings⟩ := requestPages_answered h ties fun k hk =>
        ⟨(hclean' k hk).1.1.1, (show roundedOffset limit k = _ from (hclean' k hk).1.2) ▸ (hclean' k hk).1.1.2⟩
      refine ⟨listings, hlistings, ?_⟩
      rw [(requestPages_list h ties hlistings).2]
      exact (hpaged.2 (fun k hk => ⟨(hclean' k hk).1.2, (hclean' k hk).2⟩) ties).map item
    · obtain ⟨-, rfl⟩ := (list_eq_ok h).1 hlisting
      rw [List.length_map]

end List

/-! ### The three lists -/

namespace MessagesService

/-- The messages that match a query. -/
def matchingMessages (sql : Sql) (db : Tables) (user : JwtClaims) (query : MessageExplorerQueryDto) :
    Except Failure (List MessageRow) :=
  matchingRows sql (fun row => some row.tenantId) user query.tenantId (messageFilters sql query) db.messages

/-- One page of the messages; rows of one time come in the order `tie`. -/
def messagesPage (sql : Sql) (db : Tables) (user : JwtClaims) (query : MessageExplorerQueryDto)
    (tie : MessageRow → Nat) (page : ℕ+) : Except Failure (Listing MessageResponse) :=
  listMessages { sql with messageTie := tie } db user { query with page := page }

end MessagesService

namespace WalletsService

def matchingTransactions (sql : Sql) (db : Tables) (user : JwtClaims) (query : WalletTransactionsQueryDto)
    (requestedTenantId : Option String) : Except Failure (List LedgerRow) :=
  matchingRows sql (fun row => some row.tenantId) user requestedTenantId (transactionFilters sql query) db.transactions

def transactionsPage (sql : Sql) (db : Tables) (user : JwtClaims) (query : WalletTransactionsQueryDto)
    (requestedTenantId : Option String) (tie : LedgerRow → Nat) (page : ℕ+) :
    Except Failure (Listing TransactionItem) :=
  listTransactions { sql with ledgerTie := tie } db user { query with page := page } requestedTenantId

end WalletsService

namespace AuditService

def matchingLogs (sql : Sql) (db : Tables) (user : JwtClaims) (query : AuditLogQueryDto) :
    Except Failure (List AuditLogRow) :=
  matchingRows sql AuditLogRow.tenantId user query.tenantId (auditFilters sql query) db.auditLogs

def logsPage (sql : Sql) (db : Tables) (user : JwtClaims) (query : AuditLogQueryDto) (tie : AuditLogRow → Nat)
    (page : ℕ+) : Except Failure (Listing AuditLogRow) :=
  list { sql with auditTie := tie } db user { query with page := page }

end AuditService

/-- The primary keys of the three tables. -/
structure PrimaryKeys (db : Tables) : Prop where
  messages : (db.messages.map fun row => (row.submitDate, row.tenantId, row.id)).Nodup
  transactions : (db.transactions.map fun row => (row.ledgerDate, row.id)).Nodup
  auditLogs : (db.auditLogs.map fun row => (row.logDate, row.id)).Nodup

theorem matchingRows_sublist {ρ : Type} {sql : Sql} {tenantOf : ρ → Option TenantId} {user : JwtClaims}
    {requestedTenantId : Option String} {filters : Except Failure (List (ρ → Bool))} {rows selected : List ρ}
    (h : matchingRows sql tenantOf user requestedTenantId filters rows = .ok selected) : selected.Sublist rows := by
  obtain ⟨scope, -, h⟩ := except_bind_eq_ok.1 h
  obtain ⟨conditions, -, h⟩ := except_bind_eq_ok.1 h
  obtain ⟨tenant, -, h⟩ := except_bind_eq_ok.1 h
  cases h
  exact List.filter_sublist

/-- Items that contain the primary key tell rows apart. -/
theorem items_nodup {ρ ι κ : Type} {key : ρ → κ} {item : ρ → ι} {keyOf : ι → κ} (hkey : ∀ row, keyOf (item row) = key row)
    {rows selected : List ρ} (hrows : (rows.map key).Nodup) (hselected : selected.Sublist rows) :
    (selected.map item).Nodup := by
  have hkeys : ((selected.map item).map keyOf).Nodup := by
    rw [List.map_map, show keyOf ∘ item = key from funext hkey]
    exact hrows.sublist (hselected.map key)
  exact hkeys.of_map

section Services

variable {sql : Sql} {db : Tables} {user : JwtClaims}

theorem messages_complete_iff (hkeys : PrimaryKeys db) {query : MessageExplorerQueryDto} {rows : List MessageRow}
    (h : MessagesService.matchingMessages sql db user query = .ok rows) :
    PagesComplete (MessagesService.messagesPage sql db user query) query.limit
      (rows.map MessagesService.buildMessageResponse) ↔ CleanPages MessageRow.acceptedAt rows query.limit := by
  have hitems := @items_nodup _ _ _ _ MessagesService.buildMessageResponse
    (fun response => (response.submitDate, response.tenantId, response.id)) (fun row => rfl) _ _ hkeys.messages
    (matchingRows_sublist h)
  exact list_complete_iff h hitems

theorem transactions_complete_iff (hkeys : PrimaryKeys db) {query : WalletTransactionsQueryDto}
    {requestedTenantId : Option String} {rows : List LedgerRow}
    (h : WalletsService.matchingTransactions sql db user query requestedTenantId = .ok rows) :
    PagesComplete (WalletsService.transactionsPage sql db user query requestedTenantId) query.limit
      (rows.map WalletsService.transactionItem) ↔ CleanPages LedgerRow.createdAt rows query.limit := by
  have hitems := @items_nodup _ _ _ _ WalletsService.transactionItem (fun item => (item.ledgerDate, item.id))
    (fun row => rfl) _ _ hkeys.transactions (matchingRows_sublist h)
  exact list_complete_iff h hitems

theorem logs_complete_iff (hkeys : PrimaryKeys db) {query : AuditLogQueryDto} {rows : List AuditLogRow}
    (h : AuditService.matchingLogs sql db user query = .ok rows) :
    PagesComplete (AuditService.logsPage sql db user query) query.limit rows ↔
      CleanPages AuditLogRow.createdAt rows query.limit := by
  have hitems := @items_nodup _ _ _ _ id (fun row : AuditLogRow => (row.logDate, row.id)) (fun row => rfl) _ _
    hkeys.auditLogs (matchingRows_sublist h)
  have hcomplete := @list_complete_iff _ _ sql AuditLogRow.tenantId AuditLogRow.createdAt id user query.tenantId
    query.limit (AuditService.auditFilters sql query) db.auditLogs rows _ h hitems
  rw [List.map_id] at hcomplete
  exact hcomplete

end Services

/-- Paging is complete, for every query and whatever order each of its pages has, exactly if the pages are clean. -/
theorem paging_complete_iff (sql : Sql) {db : Tables} (hkeys : PrimaryKeys db) (user : JwtClaims) :
    (∀ query rows, MessagesService.matchingMessages sql db user query = .ok rows →
      (PagesComplete (MessagesService.messagesPage sql db user query) query.limit
          (rows.map MessagesService.buildMessageResponse) ↔
        CleanPages MessageRow.acceptedAt rows query.limit)) ∧
    (∀ query requestedTenantId rows,
      WalletsService.matchingTransactions sql db user query requestedTenantId = .ok rows →
      (PagesComplete (WalletsService.transactionsPage sql db user query requestedTenantId) query.limit
          (rows.map WalletsService.transactionItem) ↔
        CleanPages LedgerRow.createdAt rows query.limit)) ∧
    (∀ query rows, AuditService.matchingLogs sql db user query = .ok rows →
      (PagesComplete (AuditService.logsPage sql db user query) query.limit rows ↔
        CleanPages AuditLogRow.createdAt rows query.limit)) :=
  ⟨fun _ _ h => messages_complete_iff hkeys h, fun _ _ _ h => transactions_complete_iff hkeys h,
    fun _ _ h => logs_complete_iff hkeys h⟩

/-! ### A small instance -/

namespace Sample

/-- Two messages of the tenant, accepted at these times. -/
def pair (first second : Timestamp) : Tables :=
  { mine with
    messages := [{ message SmsPlatform.Sample.tenant with acceptedAt := first },
      { message SmsPlatform.Sample.tenant with id := 2, acceptedAt := second }] }

/-- One message a page. -/
def single : MessageExplorerQueryDto := { page := ⟨1, Nat.one_pos⟩, limit := ⟨1, Nat.one_pos⟩ }

theorem pair_keys (first second : Timestamp) : PrimaryKeys (pair first second) := by
  refine ⟨?_, List.nodup_nil, List.nodup_nil⟩
  simp [pair, message]

end Sample

theorem paging_complete_apart :
    PagesComplete (MessagesService.messagesPage Sample.sql (Sample.pair 100 200) Sample.viewer Sample.single) 1
      ((Sample.pair 100 200).messages.map MessagesService.buildMessageResponse) := by
  refine ((paging_complete_iff Sample.sql (Sample.pair_keys 100 200) Sample.viewer).1 Sample.single
    (Sample.pair 100 200).messages rfl).2 fun k hk => ?_
  have hlt : k * (Sample.single.limit : Nat) < 2 := hk
  refine ⟨⟨⟨by decide, by omega⟩, roundedOffset_of_lt (by decide) (by omega)⟩, fun hpos time hsplits => ?_⟩
  obtain rfl : k = 1 := by
    have hone : (Sample.single.limit : Nat) = 1 := rfl
    rw [hone] at hlt
    omega
  obtain ⟨hnew, hold⟩ := hsplits
  simp only [Sample.pair, List.countP_cons, List.countP_nil, decide_eq_true_eq] at hnew hold
  have hone : 1 * (Sample.single.limit : Nat) = 1 := rfl
  rw [hone] at hnew hold
  split at hnew <;> split at hnew <;> split at hold <;> split at hold <;> omega

/-- Two messages that were accepted in one transaction: with one message a page, the second page may show the message of
the first page again. -/
theorem paging_incomplete_burst :
    ¬ ∀ (sql : Sql) (db : Tables), PrimaryKeys db → ∀ user query rows,
      MessagesService.matchingMessages sql db user query = .ok rows →
      PagesComplete (MessagesService.messagesPage sql db user query) query.limit
        (rows.map MessagesService.buildMessageResponse) := by
  intro hall
  have hcomplete := hall Sample.sql (Sample.pair 100 100) (Sample.pair_keys 100 100) Sample.viewer Sample.single
    (Sample.pair 100 100).messages rfl
  have hclean := (messages_complete_iff (Sample.pair_keys 100 100) rfl).1 hcomplete
  exact (hclean 1 (by decide)).2 (by decide) 100 (by decide)

end SmsPlatform.Explorers
