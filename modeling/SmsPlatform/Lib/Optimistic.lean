import Mathlib.Logic.Relation
import Mathlib.Order.Basic

/-!
# Optimistic locking

Rows carry a version, and every write of a row (`Write old new`) raises it by one.  A snapshot is a row as it was some
number of writes ago (`Earlier`).  An update guarded by the version of a snapshot goes through only when the snapshot
is the current row (`Earlier.eq_of_version`); otherwise the row has moved on and the update must be refused.
-/

namespace Optimistic

variable {ρ : Type*} {Write : ρ → ρ → Prop} {version : ρ → ℕ}

abbrev Earlier (Write : ρ → ρ → Prop) : ρ → ρ → Prop := Relation.ReflTransGen Write

theorem Earlier.version_le (hw : ∀ old new, Write old new → version new = version old + 1) {snapshot current : ρ}
    (h : Earlier Write snapshot current) : version snapshot ≤ version current := by
  induction h with
  | refl => exact Nat.le_refl _
  | tail _ hstep ih =>
    have := hw _ _ hstep
    omega

/-- A snapshot with the version of the current row is the current row. -/
theorem Earlier.eq_of_version (hw : ∀ old new, Write old new → version new = version old + 1)
    {snapshot current : ρ} (h : Earlier Write snapshot current) (hv : version snapshot = version current) :
    snapshot = current := by
  cases h with
  | refl => rfl
  | tail hearlier hstep =>
    have hle := Earlier.version_le hw hearlier
    have := hw _ _ hstep
    omega

/-- A relation that every write respects relates a snapshot to the current row. -/
theorem Earlier.lift {σ : Type*} {r : σ → σ → Prop} (f : ρ → σ)
    (hw : ∀ old new, Write old new → f new = f old ∨ r (f old) (f new)) {snapshot current : ρ}
    (h : Earlier Write snapshot current) : Relation.ReflTransGen r (f snapshot) (f current) := by
  induction h with
  | refl => exact .refl
  | tail _ hstep ih =>
    rcases hw _ _ hstep with he | hr
    · rw [he]
      exact ih
    · exact .tail ih hr

/-- What no write changes is the same in a snapshot and in the current row. -/
theorem Earlier.preserved {σ : Type*} (f : ρ → σ) (hw : ∀ old new, Write old new → f new = f old)
    {snapshot current : ρ} (h : Earlier Write snapshot current) : f current = f snapshot := by
  induction h with
  | refl => rfl
  | tail _ hstep ih => rw [hw _ _ hstep, ih]

end Optimistic
