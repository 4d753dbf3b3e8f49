import Mathlib.Logic.Relation

/-!
# Runs of a partial step function

A system is a step function `σ → α → Option σ`: in a state, an action is either refused or leads to one state.
`Runs step ok s t` is a run from `s` to `t` all of whose steps satisfy `ok` (a condition on the state before the
step and the action); `Reaches` is a run without a condition.  The rules are the induction principle of
invariants, alone (`Runs.invariant`), on top of an invariant already known (`Runs.invariant_of`), and for a
relation between the two ends of a run (`Runs.relation`).  A concrete list of actions gives a run
(`reaches_of_execute`, `runs_of_execute`).
-/

namespace Transition

variable {σ α : Type*} {step : σ → α → Option σ} {ok ok' : σ → α → Prop}

inductive Runs (step : σ → α → Option σ) (ok : σ → α → Prop) (s : σ) : σ → Prop
  | refl : Runs step ok s s
  | tail {t u : σ} (a : α) : Runs step ok s t → ok t a → step t a = some u → Runs step ok s u

abbrev Reaches (step : σ → α → Option σ) : σ → σ → Prop := Runs step fun _ _ => True

/-- Execute a list of actions. -/
def execute (step : σ → α → Option σ) : σ → List α → Option σ
  | s, [] => some s
  | s, a :: as => (step s a).bind fun t => execute step t as

theorem execute_cons {s t : σ} {a : α} (h : step s a = some t) (as : List α) :
    execute step s (a :: as) = execute step t as := by
  show (step s a).bind _ = _
  rw [h]
  rfl

/-- A run whose steps satisfy a stronger condition. -/
theorem Runs.mono (h : ∀ s a, ok s a → ok' s a) {s t : σ} (hr : Runs step ok s t) : Runs step ok' s t := by
  induction hr with
  | refl => exact .refl
  | tail a _ hok hstep ih => exact .tail a ih (h _ _ hok) hstep

theorem Runs.reaches {s t : σ} (hr : Runs step ok s t) : Reaches step s t :=
  hr.mono fun _ _ _ => trivial

theorem Runs.trans {s t u : σ} (h₁ : Runs step ok s t) (h₂ : Runs step ok t u) : Runs step ok s u := by
  induction h₂ with
  | refl => exact h₁
  | tail a _ hok hstep ih => exact .tail a ih hok hstep

/-- What holds at the start and is preserved by every step of the run holds at its end. -/
theorem Runs.invariant {P : σ → Prop} {s t : σ} (hr : Runs step ok s t) (hs : P s)
    (hstep : ∀ s a t, P s → ok s a → step s a = some t → P t) : P t := by
  induction hr with
  | refl => exact hs
  | tail a _ hok h ih => exact hstep _ _ _ ih hok h

/-- The invariant rule on top of an invariant `Q` that is already known to hold along the run. -/
theorem Runs.invariant_of {P Q : σ → Prop} {s t : σ} (hr : Runs step ok s t)
    (hQ : ∀ u, Runs step ok s u → Q u) (hs : P s)
    (hstep : ∀ s a t, Q s → Q t → P s → ok s a → step s a = some t → P t) : P t := by
  induction hr with
  | refl => exact hs
  | tail a hr hok h ih => exact hstep _ _ _ (hQ _ hr) (hQ _ (.tail a hr hok h)) ih hok h

/-- A preorder that every step respects relates the two ends of a run. -/
theorem Runs.relation {R : σ → σ → Prop} (hrefl : ∀ s, R s s) (htrans : ∀ s t u, R s t → R t u → R s u)
    {s t : σ} (hr : Runs step ok s t) (hstep : ∀ u a v, Runs step ok s u → ok u a → step u a = some v → R u v) :
    R s t := by
  induction hr with
  | refl => exact hrefl _
  | tail a hr hok h ih => exact htrans _ _ _ ih (hstep _ _ _ hr hok h)

/-- An executed list of actions is a run. -/
theorem reaches_of_execute {as : List α} {s t : σ} (h : execute step s as = some t) : Reaches step s t := by
  induction as generalizing s with
  | nil => cases h; exact .refl
  | cons a as ih =>
    obtain ⟨u, hu, ht⟩ := Option.bind_eq_some_iff.1 h
    exact Runs.trans (.tail a .refl trivial hu) (ih ht)

/-! ### Executing under a condition -/

/-- The steps that satisfy a decidable condition. -/
def guarded (step : σ → α → Option σ) (p : σ → α → Bool) (s : σ) (a : α) : Option σ :=
  if p s a then step s a else none

/-- An executed list of actions is a run under the condition that guards its steps and any that its actions satisfy. -/
theorem runs_of_execute_all {p : σ → α → Bool} {q : α → Prop} {as : List α} {s t : σ} (hq : ∀ a ∈ as, q a)
    (h : execute (guarded step p) s as = some t) : Runs step (fun s a => p s a = true ∧ q a) s t := by
  induction as generalizing s with
  | nil => cases h; exact .refl
  | cons a as ih =>
    obtain ⟨u, hu, ht⟩ := Option.bind_eq_some_iff.1 h
    obtain ⟨ha, has⟩ := List.forall_mem_cons.1 hq
    unfold guarded at hu
    split at hu
    · rename_i hp
      exact Runs.trans (.tail a .refl ⟨hp, ha⟩ hu) (ih has ht)
    · cases hu

theorem runs_of_execute {p : σ → α → Bool} {as : List α} {s t : σ} (h : execute (guarded step p) s as = some t) :
    Runs step (fun s a => p s a = true) s t :=
  (runs_of_execute_all (q := fun _ => True) (fun _ _ => trivial) h).mono fun _ _ hok => hok.1

end Transition
