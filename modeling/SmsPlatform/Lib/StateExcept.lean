import Mathlib.Control.Monad.Basic

/-!
# Failing state computations

A computation in `StateT σ (Except ε)` either ends in a value and a state or fails; a failure carries no state, so
nothing of it is kept.  `bind_eq_ok` takes a successful sequence apart at its intermediate state, `bind_eq_error`
tells which of the two parts of a failed one has failed.  The last section does the same without a state.
-/

namespace StateExcept

universe u v

variable {σ α β : Type u} {ε : Type v}

theorem bind_of_ok {x : StateT σ (Except ε) α} {f : α → StateT σ (Except ε) β} {s t : σ} {a : α}
    (h : x.run s = .ok (a, t)) : (x >>= f).run s = (f a).run t := by
  rw [StateT.run_bind, h]; rfl

theorem bind_of_error {x : StateT σ (Except ε) α} {f : α → StateT σ (Except ε) β} {s : σ} {e : ε}
    (h : x.run s = .error e) : (x >>= f).run s = .error e := by
  rw [StateT.run_bind, h]; rfl

theorem bind_eq_ok {x : StateT σ (Except ε) α} {f : α → StateT σ (Except ε) β} {s : σ} {r : β × σ} :
    (x >>= f).run s = .ok r ↔ ∃ a t, x.run s = .ok (a, t) ∧ (f a).run t = .ok r := by
  cases hx : x.run s with
  | error e => rw [bind_of_error hx]; simp
  | ok p =>
    rw [bind_of_ok (a := p.1) (t := p.2) hx]
    constructor
    · exact fun h => ⟨p.1, p.2, rfl, h⟩
    · rintro ⟨a, t, hp, h⟩
      cases hp
      exact h

/-- A computation without a state, lifted, leaves the state as it is. -/
theorem lift_eq_ok {x : Except ε α} {s : σ} {r : α × σ} :
    (liftM x : StateT σ (Except ε) α).run s = .ok r ↔ x = .ok r.1 ∧ r.2 = s := by
  cases x with
  | error e =>
    constructor
    · intro h
      cases h
    · rintro ⟨h, -⟩
      cases h
  | ok a =>
    constructor
    · intro h
      cases h
      exact ⟨rfl, rfl⟩
    · rintro ⟨h, hs⟩
      cases h
      subst hs
      rfl

section Except

variable {α β : Type u} {ε : Type v}

theorem except_bind_eq_ok {x : Except ε α} {f : α → Except ε β} {b : β} :
    x >>= f = .ok b ↔ ∃ a, x = .ok a ∧ f a = .ok b := by
  cases x with
  | error e =>
    constructor
    · intro h
      cases h
    · rintro ⟨_, h, _⟩
      cases h
  | ok a =>
    constructor
    · exact fun h => ⟨a, rfl, h⟩
    · rintro ⟨_, ha, h⟩
      cases ha
      exact h

/-- Two checks after each other. -/
theorem except_seq_eq_ok {x y : Except ε Unit} : (x >>= fun _ => y) = .ok () ↔ x = .ok () ∧ y = .ok () := by
  rw [except_bind_eq_ok]
  exact ⟨fun ⟨_, hx, hy⟩ => ⟨hx, hy⟩, fun ⟨hx, hy⟩ => ⟨(), hx, hy⟩⟩

theorem except_map_eq_ok {x : Except ε α} {f : α → β} {b : β} : x.map f = .ok b ↔ ∃ a, x = .ok a ∧ f a = b := by
  have hbind : x.map f = x >>= fun a => .ok (f a) := by
    cases x <;> rfl
  rw [hbind, except_bind_eq_ok]
  simp only [Except.ok.injEq]

/-- Two continuations that agree on the result, if there is one. -/
theorem except_bind_congr {x : Except ε α} {f g : α → Except ε β} (h : ∀ a, x = .ok a → f a = g a) :
    x >>= f = x >>= g := by
  cases x with
  | error e => rfl
  | ok a => exact h a rfl

end Except

end StateExcept
