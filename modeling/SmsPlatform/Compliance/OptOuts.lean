import SmsPlatform.Lib.Runs
import SmsPlatform.Database

/-!
# Opt-outs and suppressions

`compliance.service.ts`: the two tables of blocked destinations, the calls that add to them, and the check of a
destination.  Both ends spell a number with the same `normalizePhoneNumber` and meet in an exact match.  A number that
a call has stored stays blocked whatever further calls follow (`StoredFor.blocks`).
-/

namespace SmsPlatform

/-- `phoneNumber.replace(/[^\d+]/g, '')`. -/
def digitsAndPlus (phoneNumber : String) : List Char :=
  phoneNumber.toList.filter fun c => c.isDigit || c == '+'

/-- `text.startsWith(pre)`. -/
def startsWith (text : List Char) (pre : String) : Bool := pre.toList.isPrefixOf text

namespace ComplianceService

/-- A text that starts with none of the three is returned as it is. -/
def normalizePhoneNumber (phoneNumber : String) : String :=
  let trimmed := digitsAndPlus phoneNumber
  if startsWith trimmed "+" then .ofList trimmed
  else if startsWith trimmed "251" then .ofList ('+' :: trimmed)
  else if startsWith trimmed "0" then .ofList ("+251".toList ++ trimmed.drop 1)
  else .ofList trimmed

end ComplianceService

/-- A row of `opt_outs` or of `suppression_lists`. -/
structure BlockedDestinationRow where
  tenantId : TenantId
  phoneNumber : String
  reason : Option String
  isActive : Bool
  deriving DecidableEq

def BlockedDestinationRow.isFor (tenantId : TenantId) (phoneNumber : String) (row : BlockedDestinationRow) : Bool :=
  decide (row.tenantId = tenantId ∧ row.phoneNumber = phoneNumber)

structure ComplianceDb where
  optOuts : List BlockedDestinationRow
  suppressions : List BlockedDestinationRow

namespace ComplianceService

/-- INSERT … ON CONFLICT (tenant_id, phone_number) DO UPDATE, as both tables have it. -/
def upsertBlocked (rows : List BlockedDestinationRow) (tenantId : TenantId) (phoneNumber : String)
    (reason : Option String) : List BlockedDestinationRow :=
  if rows.any (BlockedDestinationRow.isFor tenantId phoneNumber) then
    rows.map fun row => if row.isFor tenantId phoneNumber then { row with reason := reason, isActive := true } else row
  else rows ++ [⟨tenantId, phoneNumber, reason, true⟩]

/-- The number that a call stores; the column is a VARCHAR(20). -/
def storedPhoneNumber (phoneNumber : String) : Except Failure String :=
  let normalized := normalizePhoneNumber phoneNumber
  if 20 < normalized.length then .error (.valueTooLong 20) else .ok normalized

def createOptOut (db : ComplianceDb) (tenantId : TenantId) (phoneNumber : String) (reason : Option String) :
    Except Failure ComplianceDb :=
  (storedPhoneNumber phoneNumber).map fun normalized =>
    { db with optOuts := upsertBlocked db.optOuts tenantId normalized reason }

def createSuppression (db : ComplianceDb) (tenantId : TenantId) (phoneNumber : String) (reason : Option String) :
    Except Failure ComplianceDb :=
  (storedPhoneNumber phoneNumber).map fun normalized =>
    { db with suppressions := upsertBlocked db.suppressions tenantId normalized reason }

def assertNotOptedOut (db : ComplianceDb) (tenantId : TenantId) (phoneNumber : String) : Except Failure Unit :=
  let normalized := normalizePhoneNumber phoneNumber
  if (db.optOuts ++ db.suppressions).any fun row => row.isFor tenantId normalized && row.isActive then
    .error (.forbidden "Destination is blocked by opt-out or suppression policy")
  else .ok ()

end ComplianceService

open ComplianceService StateExcept

/-- The two calls that block a destination. -/
inductive BlockList
  | optOuts | suppressions
  deriving DecidableEq

def BlockList.create (list : BlockList) (db : ComplianceDb) (tenantId : TenantId) (phoneNumber : String)
    (reason : Option String) : Except Failure ComplianceDb :=
  match list with
  | .optOuts => createOptOut db tenantId phoneNumber reason
  | .suppressions => createSuppression db tenantId phoneNumber reason

structure BlockCall where
  list : BlockList
  tenantId : TenantId
  phoneNumber : String
  reason : Option String

/-- A call that fails leaves the tables as they were. -/
def ComplianceDb.step (db : ComplianceDb) (call : BlockCall) : Option ComplianceDb :=
  match call.list.create db call.tenantId call.phoneNumber call.reason with
  | .ok db' => some db'
  | .error _ => some db

/-! ### What is blocked stays blocked -/

/-- An active row blocks the number for the tenant. -/
def ComplianceDb.Blocks (db : ComplianceDb) (tenantId : TenantId) (phoneNumber : String) : Prop :=
  ∃ row ∈ db.optOuts ++ db.suppressions, row.isFor tenantId phoneNumber = true ∧ row.isActive = true

theorem ComplianceDb.blocks_iff {db : ComplianceDb} {tenantId : TenantId} {phoneNumber : String} :
    db.Blocks tenantId phoneNumber ↔
      (∃ row ∈ db.optOuts, row.isFor tenantId phoneNumber = true ∧ row.isActive = true) ∨
        ∃ row ∈ db.suppressions, row.isFor tenantId phoneNumber = true ∧ row.isActive = true := by
  simp only [ComplianceDb.Blocks, List.mem_append, or_and_right, exists_or]

/-- The check rejects exactly the numbers whose normal form is blocked. -/
theorem assertNotOptedOut_eq_error {db : ComplianceDb} {tenantId : TenantId} {phoneNumber : String} {failure : Failure} :
    assertNotOptedOut db tenantId phoneNumber = .error failure ↔
      db.Blocks tenantId (normalizePhoneNumber phoneNumber) ∧
        failure = .forbidden "Destination is blocked by opt-out or suppression policy" := by
  have hany : ((db.optOuts ++ db.suppressions).any fun row =>
      row.isFor tenantId (normalizePhoneNumber phoneNumber) && row.isActive) = true ↔
        db.Blocks tenantId (normalizePhoneNumber phoneNumber) := by
    simp only [List.any_eq_true, Bool.and_eq_true, ComplianceDb.Blocks]
  unfold assertNotOptedOut
  dsimp only
  split
  · rename_i hblocked
    simp only [Except.error.injEq, hany.1 hblocked, true_and, eq_comm]
  · rename_i hfree
    simp only [reduceCtorEq, false_iff, not_and]
    exact fun hblocks => absurd (hany.2 hblocks) hfree

section Upsert

variable {rows : List BlockedDestinationRow} {tenantId tenantId' : TenantId} {phoneNumber phoneNumber' : String}
  {reason : Option String}

theorem upsertBlocked_blocks : ∃ row ∈ upsertBlocked rows tenantId phoneNumber reason,
    row.isFor tenantId phoneNumber = true ∧ row.isActive = true := by
  unfold upsertBlocked
  split
  · rename_i hany
    obtain ⟨row, hrow, hfor⟩ := List.any_eq_true.1 hany
    refine ⟨{ row with reason := reason, isActive := true }, List.mem_map.2 ⟨row, hrow, if_pos hfor⟩, hfor, rfl⟩
  · exact ⟨_, List.mem_append_right _ (List.mem_singleton_self _), by simp [BlockedDestinationRow.isFor], rfl⟩

theorem upsertBlocked_keeps {row : BlockedDestinationRow} (hrow : row ∈ rows)
    (hfor : row.isFor tenantId' phoneNumber' = true) (hactive : row.isActive = true) :
    ∃ row ∈ upsertBlocked rows tenantId phoneNumber reason,
      row.isFor tenantId' phoneNumber' = true ∧ row.isActive = true := by
  unfold upsertBlocked
  split
  · refine ⟨_, List.mem_map_of_mem hrow, ?_⟩
    split
    · exact ⟨hfor, rfl⟩
    · exact ⟨hfor, hactive⟩
  · exact ⟨row, List.mem_append_left _ hrow, hfor, hactive⟩

end Upsert

section Calls

variable {db db' : ComplianceDb} {list : BlockList} {tenantId tenantId' : TenantId} {phoneNumber phoneNumber' : String}
  {reason : Option String}

theorem storedPhoneNumber_ok {normalized : String} (h : storedPhoneNumber phoneNumber = .ok normalized) :
    normalized = normalizePhoneNumber phoneNumber ∧ normalized.length ≤ 20 := by
  unfold storedPhoneNumber at h
  dsimp only at h
  split at h
  · cases h
  · rename_i hfits
    cases h
    exact ⟨rfl, Nat.le_of_not_lt hfits⟩

theorem storedPhoneNumber_of_fits (h : (normalizePhoneNumber phoneNumber).length ≤ 20) :
    storedPhoneNumber phoneNumber = .ok (normalizePhoneNumber phoneNumber) := if_neg (Nat.not_lt.2 h)

/-- What a call that succeeds has done: one table holds the normal form in an active row, the other is the same. -/
theorem BlockList.create_ok (h : list.create db tenantId phoneNumber reason = .ok db') :
    (normalizePhoneNumber phoneNumber).length ≤ 20 ∧
      match list with
      | .optOuts => db' = { db with
          optOuts := upsertBlocked db.optOuts tenantId (normalizePhoneNumber phoneNumber) reason }
      | .suppressions => db' = { db with
          suppressions := upsertBlocked db.suppressions tenantId (normalizePhoneNumber phoneNumber) reason } := by
  cases list
  · obtain ⟨normalized, hstored, rfl⟩ := except_map_eq_ok.1 h
    obtain ⟨rfl, hfits⟩ := storedPhoneNumber_ok hstored
    exact ⟨hfits, rfl⟩
  · obtain ⟨normalized, hstored, rfl⟩ := except_map_eq_ok.1 h
    obtain ⟨rfl, hfits⟩ := storedPhoneNumber_ok hstored
    exact ⟨hfits, rfl⟩

theorem BlockList.create_blocks (h : list.create db tenantId phoneNumber reason = .ok db') :
    db'.Blocks tenantId (normalizePhoneNumber phoneNumber) := by
  obtain ⟨-, hdb⟩ := BlockList.create_ok h
  rw [ComplianceDb.blocks_iff]
  cases list
  · rw [hdb]
    exact .inl upsertBlocked_blocks
  · rw [hdb]
    exact .inr upsertBlocked_blocks

theorem BlockList.create_keeps (h : list.create db tenantId phoneNumber reason = .ok db')
    (hblocks : db.Blocks tenantId' phoneNumber') : db'.Blocks tenantId' phoneNumber' := by
  obtain ⟨-, hdb⟩ := BlockList.create_ok h
  rw [ComplianceDb.blocks_iff] at hblocks ⊢
  cases list
  · rw [hdb]
    refine hblocks.imp_left ?_
    rintro ⟨row, hrow, hfor, hactive⟩
    exact upsertBlocked_keeps hrow hfor hactive
  · rw [hdb]
    refine hblocks.imp_right ?_
    rintro ⟨row, hrow, hfor, hactive⟩
    exact upsertBlocked_keeps hrow hfor hactive

end Calls

/-- In this state of the tables the phone number has been stored for the tenant: a call for it has succeeded, and
further calls for any tenant and number have come after. -/
def StoredFor (tenantId : TenantId) (phoneNumber : String) (db : ComplianceDb) : Prop :=
  ∃ list before reason stored, BlockList.create list before tenantId phoneNumber reason = .ok stored ∧
    Transition.Reaches ComplianceDb.step stored db

/-- A stored number stays blocked in its normal form. -/
theorem StoredFor.blocks {tenantId : TenantId} {phoneNumber : String} {db : ComplianceDb}
    (h : StoredFor tenantId phoneNumber db) : db.Blocks tenantId (normalizePhoneNumber phoneNumber) := by
  obtain ⟨list, before, reason, stored, hcreate, hreach⟩ := h
  refine hreach.invariant (P := fun db : ComplianceDb => db.Blocks tenantId (normalizePhoneNumber phoneNumber))
    (BlockList.create_blocks hcreate) ?_
  intro s call t hblocks _ hstep
  unfold ComplianceDb.step at hstep
  split at hstep
  · rename_i db' hcall
    cases hstep
    exact BlockList.create_keeps hcall hblocks
  · cases hstep
    exact hblocks

end SmsPlatform
