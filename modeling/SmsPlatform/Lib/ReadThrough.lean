import Mathlib.Logic.Function.Basic

/-!
# Read-through caches

A source answers questions, and some of its answers are kept under keys.  `Coherent` says that every kept answer is one
that the source gives now.  Filling a key with an answer, losing a key and a write that drops a key keep a cache coherent;
a write does so exactly if the answers kept under the other keys are still right (`coherent_write_iff`).
-/

namespace ReadThrough

/-- A source with the answers that are kept. -/
structure Cached (σ κ ρ : Type*) where
  source : σ
  entries : κ → Option ρ

variable {σ κ ρ : Type*} [DecidableEq κ] {answers : σ → κ → ρ → Prop} {cached : Cached σ κ ρ}

/-- Keep an answer. -/
def Cached.fill (cached : Cached σ κ ρ) (key : κ) (answer : ρ) : Cached σ κ ρ :=
  { cached with entries := Function.update cached.entries key (some answer) }

/-- Lose the answer under a key. -/
def Cached.drop (cached : Cached σ κ ρ) (key : κ) : Cached σ κ ρ :=
  { cached with entries := Function.update cached.entries key none }

/-- Write the source and drop the answer under a key. -/
def Cached.write (cached : Cached σ κ ρ) (source : σ) (key : κ) : Cached σ κ ρ :=
  { source := source, entries := (cached.drop key).entries }

/-- Every kept answer is an answer of the source. -/
def Coherent (answers : σ → κ → ρ → Prop) (cached : Cached σ κ ρ) : Prop :=
  ∀ key answer, cached.entries key = some answer → answers cached.source key answer

theorem entries_drop {key other : κ} {answer : ρ} :
    (cached.drop key).entries other = some answer ↔ other ≠ key ∧ cached.entries other = some answer := by
  unfold Cached.drop
  by_cases h : other = key
  · subst h
    simp
  · simp [h]

theorem Coherent.fill (h : Coherent answers cached) {key : κ} {answer : ρ} (hanswer : answers cached.source key answer) :
    Coherent answers (cached.fill key answer) := by
  intro other kept hkept
  change Function.update cached.entries key (some answer) other = some kept at hkept
  by_cases hkey : other = key
  · subst hkey
    rw [Function.update_self] at hkept
    cases hkept
    exact hanswer
  · rw [Function.update_of_ne hkey] at hkept
    exact h other kept hkept

theorem Coherent.drop (h : Coherent answers cached) (key : κ) : Coherent answers (cached.drop key) := by
  intro other kept hkept
  exact h other kept (entries_drop.1 hkept).2

/-- A write keeps a cache coherent exactly if what is kept under the other keys is still an answer. -/
theorem coherent_write_iff {source : σ} {key : κ} : Coherent answers (cached.write source key) ↔
    ∀ other answer, other ≠ key → cached.entries other = some answer → answers source other answer := by
  constructor
  · intro h other answer hne hkept
    exact h other answer (entries_drop.2 ⟨hne, hkept⟩)
  · intro h other answer hkept
    obtain ⟨hne, hkept⟩ := entries_drop.1 hkept
    exact h other answer hne hkept

end ReadThrough
