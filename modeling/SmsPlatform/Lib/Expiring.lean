import Mathlib.Order.Basic
import Mathlib.Data.Int.Order.Basic

/-!
# Values that expire

A cell holds at most one value, for a limited time or for good.  A value that has been set for a time `ttl` is there
before the deadline and gone from the deadline on.  `setNX` sets a value only when there is none: whoever succeeds holds
the cell until the deadline, so two successes are at least `ttl` apart (`HeldUntil.le_of_setNX`).  `hit` counts in a
cell that expires some time after the first count: it never counts too many (`AtMost.hit`), and it counts exactly as long
as the cell is only used before a time that every hit keeps it for (`Counts.hit`).
-/

namespace Expiring

/-- A value and its deadline. -/
structure Entry (α : Type*) where
  value : α
  deadline : Option Int
  deriving DecidableEq

abbrev Cell (α : Type*) := Option (Entry α)

namespace Cell

variable {α : Type*} (cell : Cell α) (now ttl : Int) (value : α)

/-- The value at a time. -/
def get : Option α :=
  cell.bind fun entry => if entry.deadline.all fun deadline => decide (now < deadline) then some entry.value else none

def set : Cell α := some ⟨value, some (now + ttl)⟩

/-- Set the value unless there is one; whether it has been set. -/
def setNX : Bool × Cell α :=
  if (cell.get now).isSome then (false, cell) else (true, set now ttl value)

/-- There is a value at all times before `deadline`. -/
def HeldUntil (deadline : Int) : Prop := ∀ time, time < deadline → (cell.get time).isSome = true

variable {cell now ttl value}

theorem get_eq_some {v : α} : cell.get now = some v ↔
    ∃ entry, cell = some entry ∧ entry.value = v ∧ ∀ deadline, entry.deadline = some deadline → now < deadline := by
  unfold get
  rw [Option.bind_eq_some_iff]
  constructor
  · rintro ⟨entry, hentry, h⟩
    split at h
    · rename_i hall
      rw [Option.all_eq_true] at hall
      cases h
      exact ⟨entry, hentry, rfl, fun deadline hd => by simpa using hall deadline hd⟩
    · cases h
  · rintro ⟨entry, hentry, rfl, hall⟩
    refine ⟨entry, hentry, if_pos ?_⟩
    rw [Option.all_eq_true]
    intro deadline hd
    simpa using hall deadline hd

theorem get_set (h : 0 < ttl) : (set now ttl value).get now = some value :=
  get_eq_some.2 ⟨_, rfl, rfl, fun deadline hd => by cases hd; omega⟩

theorem get_set_of_lt {time : Int} (h : time < now + ttl) : (set now ttl value).get time = some value :=
  get_eq_some.2 ⟨_, rfl, rfl, fun deadline hd => by cases hd; exact h⟩

/-- A value that has disappeared does not come back. -/
theorem get_of_le {time time' : Int} {v : α} (hle : time ≤ time') (h : cell.get time' = some v) :
    cell.get time = some v := by
  obtain ⟨entry, hentry, hv, hall⟩ := get_eq_some.1 h
  refine get_eq_some.2 ⟨entry, hentry, hv, fun deadline hd => ?_⟩
  have := hall deadline hd
  omega

theorem setNX_fst : (cell.setNX now ttl value).1 = true ↔ cell.get now = none := by
  unfold setNX
  cases h : cell.get now <;> simp

/-- A success holds the cell for the time it asked for. -/
theorem heldUntil_of_setNX (h : (cell.setNX now ttl value).1 = true) :
    HeldUntil (cell.setNX now ttl value).2 (now + ttl) := by
  rw [setNX_fst] at h
  unfold setNX
  rw [h]
  intro time htime
  have hget : (set now ttl value).get time = some value := get_set_of_lt htime
  show ((set now ttl value).get time).isSome = true
  rw [hget]
  rfl

/-- While the cell is held no one else succeeds. -/
theorem HeldUntil.le_of_setNX {deadline : Int} (hheld : cell.HeldUntil deadline)
    (h : (cell.setNX now ttl value).1 = true) : deadline ≤ now := by
  rw [setNX_fst] at h
  by_contra hlt
  have hsome := hheld now (by omega)
  rw [h] at hsome
  cases hsome

/-- An attempt takes nothing away from the one who holds the cell. -/
theorem HeldUntil.setNX {deadline : Int} (hheld : cell.HeldUntil deadline) (httl : 0 ≤ ttl) :
    HeldUntil (cell.setNX now ttl value).2 deadline := by
  by_cases h : (cell.setNX now ttl value).1 = true
  · have hle := hheld.le_of_setNX h
    have hnew := heldUntil_of_setNX h
    intro time htime
    exact hnew time (by omega)
  · have hsame : (cell.setNX now ttl value).2 = cell := by
      rw [setNX_fst] at h
      unfold Cell.setNX
      rw [if_pos (Option.isSome_iff_ne_none.2 h)]
    rw [hsame]
    exact hheld

/-! ### Counters -/

/-- INCR, which begins with one and keeps the deadline. -/
def incr (cell : Cell Nat) (now : Int) : Nat × Cell Nat :=
  match cell.get now with
  | none => (1, some ⟨1, none⟩)
  | some n => (n + 1, cell.map fun entry => { entry with value := n + 1 })

/-- EXPIRE -/
def expire (cell : Cell α) (now ttl : Int) : Cell α :=
  cell.map fun entry => { entry with deadline := some (now + ttl) }

/-- Count one more; whoever counts first sets the deadline. -/
def hit (cell : Cell Nat) (now ttl : Int) : Nat × Cell Nat :=
  let counted := cell.incr now
  (counted.1, if counted.1 = 1 then counted.2.expire now ttl else counted.2)

def AtMost (cell : Cell Nat) (n : Nat) : Prop := ∀ entry, cell = some entry → entry.value ≤ n

/-- The cell has been counted in `n` times, and none of them is lost before the horizon. -/
def Counts (cell : Cell Nat) (n : Nat) (horizon : Int) : Prop :=
  (n = 0 ∧ cell = none) ∨ ∃ deadline, 0 < n ∧ cell = some ⟨n, some deadline⟩ ∧ horizon ≤ deadline

section Counters

variable {cell : Cell Nat} {n : Nat} {horizon : Int}

theorem hit_of_none (h : cell.get now = none) : cell.hit now ttl = (1, some ⟨1, some (now + ttl)⟩) := by
  unfold hit incr
  rw [h]
  rfl

theorem hit_of_some (hpos : 0 < n) (h : cell.get now = some n) :
    cell.hit now ttl = (n + 1, cell.map fun entry => { entry with value := n + 1 }) := by
  have hmore : n + 1 ≠ 1 := by omega
  unfold hit incr
  rw [h]
  dsimp only
  rw [if_neg hmore]

theorem AtMost.hit (h : cell.AtMost n) :
    (cell.hit now ttl).1 ≤ n + 1 ∧ AtMost (cell.hit now ttl).2 (n + 1) := by
  cases hget : cell.get now with
  | none =>
    rw [hit_of_none hget]
    refine ⟨by omega, fun entry hentry => ?_⟩
    cases hentry
    dsimp only
    omega
  | some m =>
    obtain ⟨entry, rfl, rfl, -⟩ := get_eq_some.1 hget
    have hle := h entry rfl
    unfold Cell.hit incr
    rw [hget]
    dsimp only
    refine ⟨by omega, fun entry' hentry' => ?_⟩
    split at hentry'
    · cases hentry'
      dsimp only
      omega
    · cases hentry'
      dsimp only
      omega

theorem Counts.get (h : cell.Counts n horizon) (hnow : now < horizon) :
    cell.get now = if n = 0 then none else some n := by
  rcases h with ⟨rfl, rfl⟩ | ⟨deadline, hpos, rfl, hle⟩
  · rfl
  · rw [if_neg (by omega)]
    refine get_eq_some.2 ⟨_, rfl, rfl, fun deadline' hdeadline => ?_⟩
    cases hdeadline
    omega

theorem Counts.hit (h : cell.Counts n horizon) (hnow : now < horizon) (hkept : horizon ≤ now + ttl) :
    (cell.hit now ttl).1 = n + 1 ∧ Counts (cell.hit now ttl).2 (n + 1) horizon := by
  have hget := h.get hnow
  rcases h with ⟨rfl, rfl⟩ | ⟨deadline, hpos, rfl, hle⟩
  · rw [hit_of_none hget]
    exact ⟨rfl, .inr ⟨_, Nat.one_pos, rfl, hkept⟩⟩
  · rw [if_neg (by omega)] at hget
    rw [hit_of_some hpos hget]
    exact ⟨rfl, .inr ⟨deadline, by omega, rfl, hle⟩⟩

end Counters

end Cell

end Expiring
