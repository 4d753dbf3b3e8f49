import Mathlib.Algebra.Order.Group.Basic
import Mathlib.Algebra.BigOperators.Group.List.Basic
import Mathlib.Tactic.Abel

/-!
# Accounts with held funds

An account has an available and a held balance.  A posting holds an amount (available to held), captures a held
amount (it leaves the account) or refunds it (held to available).  A posting is admissible when the side it takes
from covers the amount, where a hold may also draw on a credit line.  Admissible postings keep the available balance
above the credit line and the held balance non-negative, and available, held and captured amounts add up to a
constant.  A journal records each posting with the balance it took from before and after.  `Follows` says that an
account is what a faithful journal makes of its opening balances; it is kept by every admissible posting and composes
along journals, so a transaction may be accounted for on its own and appended when it commits.
-/

namespace Escrow

variable {M : Type*}

inductive Kind
  | hold | capture | refund
  deriving DecidableEq

structure Account (M : Type*) where
  available : M
  held : M

section Group

variable [AddCommGroup M]

def Account.post (account : Account M) (kind : Kind) (amount : M) : Account M :=
  match kind with
  | .hold => ⟨account.available - amount, account.held + amount⟩
  | .capture => ⟨account.available, account.held - amount⟩
  | .refund => ⟨account.available + amount, account.held - amount⟩

/-- The balance a posting takes from: the one its journal entry shows. -/
def Account.source (account : Account M) : Kind → M
  | .hold => account.available
  | .capture => account.held
  | .refund => account.held

structure Entry (M : Type*) where
  kind : Kind
  amount : M
  before : M
  after : M

/-- The journal entry of a posting. -/
def Account.entry (account : Account M) (kind : Kind) (amount : M) : Entry M :=
  ⟨kind, amount, account.source kind, (account.post kind amount).source kind⟩

def captured : List (Entry M) → M
  | [] => 0
  | entry :: journal => (if entry.kind = .capture then entry.amount else 0) + captured journal

/-- Run a journal from an opening account. -/
def replay (account : Account M) (journal : List (Entry M)) : Account M :=
  journal.foldl (fun acc entry => acc.post entry.kind entry.amount) account

/-- Every entry shows the balance its posting takes from, before and after it. -/
def Faithful (account : Account M) : List (Entry M) → Prop
  | [] => True
  | entry :: journal =>
    entry.before = account.source entry.kind ∧
      entry.after = (account.post entry.kind entry.amount).source entry.kind ∧
      Faithful (account.post entry.kind entry.amount) journal

theorem replay_append (account : Account M) (journal₁ journal₂ : List (Entry M)) :
    replay account (journal₁ ++ journal₂) = replay (replay account journal₁) journal₂ :=
  List.foldl_append

/-- Faithfulness of a journal splits at every point, the second part being faithful to the replayed account. -/
theorem faithful_append (account : Account M) (journal₁ journal₂ : List (Entry M)) :
    Faithful account (journal₁ ++ journal₂) ↔
      Faithful account journal₁ ∧ Faithful (replay account journal₁) journal₂ := by
  induction journal₁ generalizing account with
  | nil => simp [Faithful, replay]
  | cons entry journal ih =>
    rw [List.cons_append, Faithful, Faithful, ih]
    simp only [replay, List.foldl_cons, and_assoc]

/-- Available, held and captured amounts add up to the opening balances. -/
theorem replay_total (account : Account M) (journal : List (Entry M)) :
    (replay account journal).available + (replay account journal).held + captured journal =
      account.available + account.held := by
  induction journal generalizing account with
  | nil => simp [replay, captured]
  | cons entry journal ih =>
    have h := ih (account.post entry.kind entry.amount)
    change (replay (account.post entry.kind entry.amount) journal).available +
      (replay (account.post entry.kind entry.amount) journal).held + captured (entry :: journal) = _
    rw [captured, add_left_comm, h]
    cases entry.kind with
    | hold =>
      simp only [Account.post, reduceCtorEq, if_false]
      abel
    | capture =>
      simp only [Account.post, if_true]
      abel
    | refund =>
      simp only [Account.post, reduceCtorEq, if_false]
      abel

end Group

section Ordered

variable [AddCommGroup M] [LinearOrder M]

/-- The amount is positive and covered: by the available balance and the credit line for a hold, by the held
balance otherwise. -/
def Admissible (credit : M) (account : Account M) (kind : Kind) (amount : M) : Prop :=
  0 < amount ∧ match kind with
    | .hold => amount ≤ account.available + credit
    | .capture => amount ≤ account.held
    | .refund => amount ≤ account.held

/-- The solvency of an account: the credit line is not exceeded and nothing is held that is not there. -/
structure Solvent (credit : M) (account : Account M) : Prop where
  available : -credit ≤ account.available
  held : 0 ≤ account.held

/-- `account` is what `journal` makes of the account `opening`, and stays solvent if that is. -/
structure Follows (credit : M) (opening account : Account M) (journal : List (Entry M)) : Prop where
  replay_eq : account = replay opening journal
  faithful : Faithful opening journal
  solvent : Solvent credit opening → Solvent credit account

theorem Follows.refl (credit : M) (account : Account M) : Follows credit account account [] :=
  ⟨rfl, trivial, id⟩

theorem Follows.trans {credit : M} {opening middle account : Account M} {journal₁ journal₂ : List (Entry M)}
    (h₁ : Follows credit opening middle journal₁) (h₂ : Follows credit middle account journal₂) :
    Follows credit opening account (journal₁ ++ journal₂) where
  replay_eq := by rw [replay_append, ← h₁.replay_eq, h₂.replay_eq]
  faithful := by
    rw [faithful_append, ← h₁.replay_eq]
    exact ⟨h₁.faithful, h₂.faithful⟩
  solvent := fun h => h₂.solvent (h₁.solvent h)

variable [IsOrderedAddMonoid M]

theorem Solvent.post {credit : M} {account : Account M} {kind : Kind} {amount : M} (h : Solvent credit account)
    (ha : Admissible credit account kind amount) : Solvent credit (account.post kind amount) := by
  obtain ⟨hpos, hcov⟩ := ha
  cases kind with
  | hold =>
    refine ⟨?_, add_nonneg h.held hpos.le⟩
    change -credit ≤ account.available - amount
    rw [neg_le_iff_add_nonneg', add_sub, sub_nonneg, add_comm]
    exact hcov
  | capture => exact ⟨h.available, sub_nonneg.2 hcov⟩
  | refund => exact ⟨h.available.trans (le_add_of_nonneg_right hpos.le), sub_nonneg.2 hcov⟩

theorem Follows.post {credit : M} {opening account : Account M} {journal : List (Entry M)} {kind : Kind} {amount : M}
    (h : Follows credit opening account journal) (ha : Admissible credit account kind amount) :
    Follows credit opening (account.post kind amount) (journal ++ [account.entry kind amount]) :=
  h.trans ⟨rfl, ⟨rfl, rfl, trivial⟩, fun hs => hs.post ha⟩

end Ordered

end Escrow
