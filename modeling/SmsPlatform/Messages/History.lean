import SmsPlatform.Lib.Optimistic
import SmsPlatform.Messages.StateMachine

/-!
# The history of a message

What one committed write does to a row (`RowStep`), and what that means for two states of a row with any number of
writes between them: the version counts the writes, the status follows a path of `AllowedTransitions`, and the
content (`MessageRow.content`: the columns of a submission) is the same.
-/

namespace SmsPlatform

open Optimistic

/-- The columns that are written once, by the submission. -/
structure MessageContent where
  id : Nat
  submitDate : SqlDate
  tenantId : TenantId
  campaignId : Option Nat
  apiKeyId : Option String
  clientMessageId : Option String
  apiIdempotencyKey : Option String
  sourceAddr : Option String
  phoneNumber : String
  body : String
  bodyHash : Option String
  messageParts : Nat
  trafficType : TrafficType
  priceMinor : Int
  acceptedAt : Timestamp
  deriving DecidableEq

def MessageRow.content (row : MessageRow) : MessageContent where
  id := row.id
  submitDate := row.submitDate
  tenantId := row.tenantId
  campaignId := row.campaignId
  apiKeyId := row.apiKeyId
  clientMessageId := row.clientMessageId
  apiIdempotencyKey := row.apiIdempotencyKey
  sourceAddr := row.sourceAddr
  phoneNumber := row.phoneNumber
  body := row.body
  bodyHash := row.bodyHash
  messageParts := row.messageParts
  trafficType := row.trafficType
  priceMinor := row.priceMinor
  acceptedAt := row.acceptedAt

theorem MessageRow.composite_of_content {row row' : MessageRow} (h : row'.content = row.content) :
    row'.composite = row.composite := by
  have h₁ := congrArg MessageContent.submitDate h
  have h₂ := congrArg MessageContent.tenantId h
  have h₃ := congrArg MessageContent.id h
  simp only [MessageRow.content] at h₁ h₂ h₃
  simp only [MessageRow.composite, h₁, h₂, h₃]

/-- `next` is the status after one write that found `status`. -/
def StatusStep (status next : MessageStatus) : Prop := next ∈ AllowedTransitions status

instance (status next : MessageStatus) : Decidable (StatusStep status next) :=
  inferInstanceAs (Decidable (next ∈ AllowedTransitions status))

/-- One committed write of a message. -/
structure RowStep (old new : MessageRow) : Prop where
  content : new.content = old.content
  version : new.version = old.version + 1
  status : new.status = old.status ∨ StatusStep old.status new.status

theorem patchedRow_rowStep (clock : TxClock) (fields : MessageFields) (row : MessageRow) :
    RowStep row (patchedRow clock fields row) :=
  ⟨rfl, rfl, .inl rfl⟩

theorem transitionedRow_rowStep (clock : TxClock) {nextStatus : MessageStatus} (fields : MessageFields)
    (incrementAttempt : Bool) {row : MessageRow} (h : nextStatus ∈ AllowedTransitions row.status) :
    RowStep row (transitionedRow clock nextStatus fields incrementAttempt row) :=
  ⟨rfl, rfl, .inr h⟩

/-! ### Ranks -/

def MessageStatus.rank : MessageStatus → Nat
  | .accepted => 0
  | .routed => 1
  | .submitting => 2
  | .providerAccepted => 3
  | .delivered => 4
  | .failed => 4

theorem StatusStep.rank_lt {status next : MessageStatus} (h : StatusStep status next) : status.rank < next.rank := by
  revert h
  cases status <;> cases next <;> decide

theorem rank_le_of_path {status next : MessageStatus} (h : Relation.ReflTransGen StatusStep status next) :
    status.rank ≤ next.rank := by
  induction h with
  | refl => exact Nat.le_refl _
  | tail _ hstep ih =>
    have := hstep.rank_lt
    omega

/-- `delivered` and `failed` are absorbing. -/
theorem eq_of_path_terminal {status next : MessageStatus} (h : Relation.ReflTransGen StatusStep status next)
    (ht : status = .delivered ∨ status = .failed) : next = status := by
  induction h with
  | refl => rfl
  | tail _ hstep ih =>
    rw [ih] at hstep
    unfold StatusStep at hstep
    rcases ht with rfl | rfl <;> simp [AllowedTransitions] at hstep

/-! ### Two states of a row -/

/-- What holds between a state of a row and any later one. -/
structure MessageHistory (earlier later : MessageRow) : Prop where
  content : later.content = earlier.content
  version : earlier.version ≤ later.version
  same : earlier.version = later.version → earlier = later
  path : Relation.ReflTransGen StatusStep earlier.status later.status
  rank : earlier.status.rank ≤ later.status.rank
  terminal : earlier.status = .delivered ∨ earlier.status = .failed → later.status = earlier.status

theorem messageHistory_of_earlier {earlier later : MessageRow} (h : Earlier RowStep earlier later) :
    MessageHistory earlier later := by
  have hpath : Relation.ReflTransGen StatusStep earlier.status later.status :=
    h.lift MessageRow.status fun _ _ hstep => hstep.status
  exact {
    content := h.preserved MessageRow.content fun _ _ hstep => hstep.content
    version := h.version_le fun _ _ hstep => hstep.version
    same := h.eq_of_version fun _ _ hstep => hstep.version
    path := hpath
    rank := rank_le_of_path hpath
    terminal := eq_of_path_terminal hpath }

/-- The guard of an UPDATE built from a snapshot finds the snapshot itself or nothing. -/
theorem eq_of_guardedBy {snapshot current : MessageRow} (h : Earlier RowStep snapshot current)
    (hg : guardedBy snapshot current = true) : snapshot = current :=
  (messageHistory_of_earlier h).same (guardedBy_eq_true.1 hg).2.2.symm

end SmsPlatform
