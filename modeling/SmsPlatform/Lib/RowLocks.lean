import Mathlib.Data.List.Nodup
import Mathlib.Logic.Function.Basic

/-!
# Row locks and sequences of open transactions

Transactions that are open side by side share a table of locks, in which a row belongs to one of them at a time
(`acquire`, `release`), and the sequence that numbers the rows of a table: an id that has been given out is that of a row
or is held by one open transaction (`Sequenced`), whatever transactions end without a row.
-/

namespace RowLocks

variable {κ ι : Type*}

abbrev Locks (κ ι : Type*) := κ → Option ι

section Acquire

variable [DecidableEq κ]

def acquire (locks : Locks κ ι) (row : κ) (owner : ι) : Locks κ ι := Function.update locks row (some owner)

variable {locks : Locks κ ι} {row row' : κ} {owner owner' : ι}

@[simp] theorem acquire_self : acquire locks row owner row = some owner := Function.update_self ..

theorem acquire_of_ne (h : row' ≠ row) : acquire locks row owner row' = locks row' := Function.update_of_ne h ..

/-- Taking a lock that is free, or one's own, leaves all locks where they are. -/
theorem acquire_keeps (hfree : locks row = none ∨ locks row = some owner) (h : locks row' = some owner') :
    acquire locks row owner row' = some owner' := by
  by_cases heq : row' = row
  · subst heq
    rw [acquire_self]
    rcases hfree with hnone | howned
    · rw [hnone] at h
      cases h
    · exact howned.symm.trans h
  · rw [acquire_of_ne heq]
    exact h

end Acquire

variable [DecidableEq ι]

/-- The end of a transaction gives back all its locks. -/
def release (locks : Locks κ ι) (owner : ι) : Locks κ ι := fun row => if locks row = some owner then none else locks row

theorem release_keeps {locks : Locks κ ι} {row : κ} {owner owner' : ι} (h : locks row = some owner')
    (hne : owner' ≠ owner) : release locks owner row = some owner' := by
  have hother : locks row ≠ some owner := by
    rw [h]
    exact fun heq => hne (Option.some.inj heq)
  exact (if_neg hother).trans h

/-- What is held after one owner has changed what it holds: the change, or what another one held before. -/
theorem of_update {α : Type*} {held : ι → Option α} {value : Option α} {owner owner' : ι} {a : α}
    (h : Function.update held owner value owner' = some a) :
    (owner' = owner ∧ value = some a) ∨ (owner' ≠ owner ∧ held owner' = some a) := by
  by_cases heq : owner' = owner
  · subst heq
    rw [Function.update_self] at h
    exact .inl ⟨rfl, h⟩
  · rw [Function.update_of_ne heq] at h
    exact .inr ⟨heq, h⟩

/-! ### Sequences -/

/-- The ids below `next` are given out: each to a row of the table, to one open transaction, or to nobody. -/
structure Sequenced (ids : List Nat) (held : ι → Option Nat) (next : Nat) : Prop where
  nodup : ids.Nodup
  below : ∀ id ∈ ids, id < next
  heldBelow : ∀ owner id, held owner = some id → id < next
  heldFresh : ∀ owner id, held owner = some id → id ∉ ids
  heldOnce : ∀ owner owner' id, held owner = some id → held owner' = some id → owner = owner'

namespace Sequenced

variable {ids : List Nat} {held : ι → Option Nat} {next : Nat} {owner : ι}

/-- A transaction draws the next id. -/
theorem draw (h : Sequenced ids held next) :
    Sequenced ids (Function.update held owner (some next)) (next + 1) where
  nodup := h.nodup
  below := fun id hid => Nat.lt_succ_of_lt (h.below id hid)
  heldBelow := by
    intro owner' id hheld
    rcases of_update hheld with ⟨-, heq⟩ | ⟨-, hheld⟩
    · cases heq
      exact Nat.lt_succ_self _
    · exact Nat.lt_succ_of_lt (h.heldBelow owner' id hheld)
  heldFresh := by
    intro owner' id hheld
    rcases of_update hheld with ⟨-, heq⟩ | ⟨-, hheld⟩
    · cases heq
      exact fun hid => absurd (h.below _ hid) (Nat.lt_irrefl _)
    · exact h.heldFresh owner' id hheld
  heldOnce := by
    intro owner₁ owner₂ id hheld hheld'
    rcases of_update hheld with ⟨heq₁, hid⟩ | ⟨-, hheld⟩
    · cases hid
      rcases of_update hheld' with ⟨heq₂, -⟩ | ⟨-, hheld'⟩
      · exact heq₁.trans heq₂.symm
      · exact absurd (h.heldBelow _ _ hheld') (Nat.lt_irrefl _)
    · rcases of_update hheld' with ⟨-, hid⟩ | ⟨-, hheld'⟩
      · cases hid
        exact absurd (h.heldBelow _ _ hheld) (Nat.lt_irrefl _)
      · exact h.heldOnce owner₁ owner₂ id hheld hheld'

/-- A transaction that holds no id, or ends without its row. -/
theorem drop (h : Sequenced ids held next) : Sequenced ids (Function.update held owner none) next where
  nodup := h.nodup
  below := h.below
  heldBelow := by
    intro owner' id hheld
    rcases of_update hheld with ⟨-, heq⟩ | ⟨-, hheld⟩
    · cases heq
    · exact h.heldBelow owner' id hheld
  heldFresh := by
    intro owner' id hheld
    rcases of_update hheld with ⟨-, heq⟩ | ⟨-, hheld⟩
    · cases heq
    · exact h.heldFresh owner' id hheld
  heldOnce := by
    intro owner₁ owner₂ id hheld hheld'
    rcases of_update hheld with ⟨-, heq⟩ | ⟨-, hheld⟩
    · cases heq
    · rcases of_update hheld' with ⟨-, heq⟩ | ⟨-, hheld'⟩
      · cases heq
      · exact h.heldOnce owner₁ owner₂ id hheld hheld'

/-- A transaction commits the row with its id. -/
theorem publish {id : Nat} (h : Sequenced ids held next) (hheld : held owner = some id) :
    Sequenced (ids ++ [id]) (Function.update held owner none) next where
  nodup := by
    have hfresh : id ∉ ids := h.heldFresh owner id hheld
    rw [List.nodup_append]
    refine ⟨h.nodup, List.nodup_singleton _, fun id₁ hid₁ id₂ hid₂ heq => ?_⟩
    rw [List.mem_singleton.1 hid₂] at heq
    exact hfresh (heq ▸ hid₁)
  below := by
    intro id' hid'
    rcases List.mem_append.1 hid' with hold | hnew
    · exact h.below id' hold
    · rw [List.mem_singleton.1 hnew]
      exact h.heldBelow owner id hheld
  heldBelow := by
    have hdrop : Sequenced ids (Function.update held owner none) next := h.drop
    exact hdrop.heldBelow
  heldFresh := by
    intro owner' id' hheld' hmem
    rcases of_update hheld' with ⟨-, heq⟩ | ⟨hne, hheld'⟩
    · cases heq
    · rcases List.mem_append.1 hmem with hold | hnew
      · exact h.heldFresh owner' id' hheld' hold
      · rw [List.mem_singleton.1 hnew] at hheld'
        exact hne (h.heldOnce owner' owner id hheld' hheld)
  heldOnce := by
    have hdrop : Sequenced ids (Function.update held owner none) next := h.drop
    exact hdrop.heldOnce

end Sequenced

end RowLocks
