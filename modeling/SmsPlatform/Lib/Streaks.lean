import Mathlib.Data.List.Chain
import Mathlib.Order.Bounds.Defs

/-!
# Streaks

A history is a list of entries, the newest first.  A streak is a run of entries of one kind each of which is near the
one before it.  `longest` counts the longest streak that ends with the newest entry by looking at two entries at a time
(`longest_isGreatest`).
-/

namespace Streaks

variable {α : Type*} {p : α → Prop} {near : α → α → Prop}

/-- Entries of one kind, each near the one before it. -/
def Streak (p : α → Prop) (near : α → α → Prop) (run : List α) : Prop := (∀ entry ∈ run, p entry) ∧ run.IsChain near

/-- The lengths of the streaks that end with the newest entry. -/
def lengths (p : α → Prop) (near : α → α → Prop) (history : List α) : Set Nat :=
  {n | ∃ run rest, history = run ++ rest ∧ Streak p near run ∧ run.length = n}

/-- The newest entry goes on with the streak of those before it, begins one, or is of another kind. -/
def longest (p : α → Prop) (near : α → α → Prop) [DecidablePred p] [DecidableRel near] : List α → Nat
  | [] => 0
  | newest :: earlier =>
    if p newest then (if ∀ entry ∈ earlier.head?, near newest entry then longest p near earlier else 0) + 1 else 0

theorem streak_cons {newest : α} {run : List α} :
    Streak p near (newest :: run) ↔ p newest ∧ (∀ entry ∈ run.head?, near newest entry) ∧ Streak p near run := by
  unfold Streak
  rw [List.forall_mem_cons, List.isChain_cons]
  constructor
  · rintro ⟨⟨hnewest, hrun⟩, hnear, hchain⟩
    exact ⟨hnewest, hnear, hrun, hchain⟩
  · rintro ⟨hnewest, hnear, hrun, hchain⟩
    exact ⟨⟨hnewest, hrun⟩, hnear, hchain⟩

theorem streak_nil : Streak p near [] := ⟨by simp, List.isChain_nil⟩

variable [DecidablePred p] [DecidableRel near]

theorem longest_mem (history : List α) : longest p near history ∈ lengths p near history := by
  induction history with
  | nil => exact ⟨[], [], rfl, streak_nil, rfl⟩
  | cons newest earlier ih =>
    unfold longest
    by_cases hp : p newest
    · rw [if_pos hp]
      by_cases hnear : ∀ entry ∈ earlier.head?, near newest entry
      · rw [if_pos hnear]
        obtain ⟨run, rest, rfl, hstreak, hlength⟩ := ih
        refine ⟨newest :: run, rest, rfl, streak_cons.2 ⟨hp, ?_, hstreak⟩, by rw [List.length_cons, hlength]⟩
        intro entry hentry
        exact hnear entry (by simp [Option.mem_def.1 hentry])
      · -- the newest entry begins a streak
        rw [if_neg hnear]
        exact ⟨[newest], earlier, rfl, streak_cons.2 ⟨hp, by simp, streak_nil⟩, rfl⟩
    · rw [if_neg hp]
      exact ⟨[], newest :: earlier, rfl, streak_nil, rfl⟩

theorem length_le_longest {run rest : List α} (h : Streak p near run) :
    run.length ≤ longest p near (run ++ rest) := by
  induction run with
  | nil => exact Nat.zero_le _
  | cons newest run ih =>
    obtain ⟨hp, hnear, hstreak⟩ := streak_cons.1 h
    have hle := ih hstreak
    rw [List.cons_append, List.length_cons]
    unfold longest
    rw [if_pos hp]
    cases run with
    | nil => simp
    | cons next run =>
      rw [if_pos (by simpa using hnear)]
      omega

/-- `longest` is the length of the longest streak that ends with the newest entry. -/
theorem longest_isGreatest (history : List α) : IsGreatest (lengths p near history) (longest p near history) := by
  refine ⟨longest_mem history, ?_⟩
  rintro n ⟨run, rest, rfl, hstreak, rfl⟩
  exact length_le_longest hstreak

end Streaks
