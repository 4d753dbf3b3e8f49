import SmsPlatform.Lib.StateExcept
import SmsPlatform.Database
import Mathlib.Data.List.Sort

/-!
# Sender IDs

The rows of `sender_ids` and `ensureApproved` of `sender-ids.service.ts`.  A call that succeeds for a provider has
seen a row of the tenant, the name and the provider with the status `approved` (`ensureApproved_ok`).
-/

namespace SmsPlatform

inductive SenderIdStatus
  | pending | approved | rejected
  deriving DecidableEq, Repr

def SenderIdStatus.text : SenderIdStatus → String
  | .pending => "pending"
  | .approved => "approved"
  | .rejected => "rejected"

structure SenderIdRow where
  tenantId : TenantId
  providerId : Nat
  senderName : String
  status : SenderIdStatus
  createdAt : Timestamp
  deriving DecidableEq

/-- The row that ORDER BY created_at DESC LIMIT 1 takes. -/
def latestSenderId (rows : List SenderIdRow) : Option SenderIdRow :=
  (rows.mergeSort fun a b => decide (b.createdAt ≤ a.createdAt)).head?

def ensureApproved (rows : List SenderIdRow) (tenantId : TenantId) (senderName : String) (providerId : Option Nat) :
    Except Failure Unit :=
  match latestSenderId (rows.filter fun row => decide (row.tenantId = tenantId ∧ row.senderName = senderName ∧
      (providerId = none ∨ providerId = some row.providerId))) with
  | none => .error (.notFound "Sender ID not registered")
  | some row =>
    if row.status ≠ .approved then .error (.forbidden ("Sender ID is not approved: " ++ row.status.text)) else .ok ()

/-- The sender name is approved for the tenant at the provider. -/
def Approved (rows : List SenderIdRow) (tenantId : TenantId) (senderName : String) (providerId : Nat) : Prop :=
  ∃ row ∈ rows, row.tenantId = tenantId ∧ row.senderName = senderName ∧ row.providerId = providerId ∧
    row.status = .approved

instance (rows : List SenderIdRow) (tenantId : TenantId) (senderName : String) (providerId : Nat) :
    Decidable (Approved rows tenantId senderName providerId) :=
  inferInstanceAs (Decidable (∃ row ∈ rows, row.tenantId = tenantId ∧ row.senderName = senderName ∧
    row.providerId = providerId ∧ row.status = .approved))

theorem latestSenderId_mem {rows : List SenderIdRow} {row : SenderIdRow} (h : latestSenderId rows = some row) :
    row ∈ rows :=
  List.mem_mergeSort.1 (List.mem_of_head? h)

theorem ensureApproved_ok {rows : List SenderIdRow} {tenantId : TenantId} {senderName : String} {providerId : Nat}
    (h : ensureApproved rows tenantId senderName (some providerId) = .ok ()) :
    Approved rows tenantId senderName providerId := by
  unfold ensureApproved at h
  split at h
  · cases h
  · rename_i row hrow
    split at h
    · cases h
    · rename_i hstatus
      have hmem := latestSenderId_mem hrow
      simp only [List.mem_filter, decide_eq_true_eq, reduceCtorEq, false_or, Option.some.injEq] at hmem
      obtain ⟨hmem, htenant, hname, hprovider⟩ := hmem
      exact ⟨row, hmem, htenant, hname, hprovider.symm, not_not.1 hstatus⟩

end SmsPlatform
