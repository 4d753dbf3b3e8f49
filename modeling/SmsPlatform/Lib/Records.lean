import SmsPlatform.Lib.Runs

/-!
# Runs with a record

A system beside which someone writes down what each step shows: `sees s a t` for the step `a` from `s` to `t`.  The
record does not change what the system does (`Runs.forget`, `Runs.record`), it only grows, and an invariant may speak
about the state and the record together (`Runs.record_invariant`).  `Preceded` is for what must have been written down
before an entry.
-/

namespace Transition

variable {σ α β : Type*} {step : σ → α → Option σ} {sees : σ → α → σ → List β} {ok : σ → α → Prop}

/-- A state, and what has been written down on the way to it. -/
structure Recorded (σ β : Type*) where
  state : σ
  record : List β

def recorded (step : σ → α → Option σ) (sees : σ → α → σ → List β) (s : Recorded σ β) (a : α) :
    Option (Recorded σ β) :=
  (step s.state a).map fun t => ⟨t, s.record ++ sees s.state a t⟩

theorem recorded_eq_some {s t : Recorded σ β} {a : α} (h : recorded step sees s a = some t) :
    step s.state a = some t.state ∧ t.record = s.record ++ sees s.state a t.state := by
  obtain ⟨u, hu, rfl⟩ := Option.map_eq_some_iff.1 h
  exact ⟨hu, rfl⟩

/-- Without its record, a run of the recorded system is a run of the system. -/
theorem Runs.forget {s t : Recorded σ β} (h : Runs (recorded step sees) (fun s a => ok s.state a) s t) :
    Runs step ok s.state t.state := by
  induction h with
  | refl => exact .refl
  | tail a _ hok hstep ih => exact .tail a ih hok (recorded_eq_some hstep).1

/-- Every run of the system can be recorded. -/
theorem Runs.record {s t : σ} (h : Runs step ok s t) (record : List β) :
    ∃ record', Runs (recorded step sees) (fun s a => ok s.state a) ⟨s, record⟩ ⟨t, record'⟩ := by
  induction h with
  | refl => exact ⟨record, .refl⟩
  | @tail u v a _ hok hstep ih =>
    obtain ⟨record', hrun⟩ := ih
    have hrecorded : recorded step sees ⟨u, record'⟩ a = some ⟨v, record' ++ sees u a v⟩ := by
      show (step u a).map _ = _
      rw [hstep]
      rfl
    exact ⟨_, .tail a hrun hok hrecorded⟩

/-- An invariant of the state and the record together, on top of an invariant of the state alone. -/
theorem Runs.record_invariant {P : σ → List β → Prop} {Q : σ → Prop} {s t : Recorded σ β}
    (h : Runs (recorded step sees) (fun s a => ok s.state a) s t) (hQ : ∀ u, Runs step ok s.state u → Q u)
    (hs : P s.state s.record)
    (hstep : ∀ u record a v, Q u → P u record → ok u a → step u a = some v → P v (record ++ sees u a v)) :
    P t.state t.record := by
  induction h with
  | refl => exact hs
  | tail a hrun hok hstepped ih =>
    obtain ⟨hmove, hrecord⟩ := recorded_eq_some hstepped
    rw [hrecord]
    exact hstep _ _ _ _ (hQ _ hrun.forget) ih hok hmove

/-- The same for runs without a condition. -/
theorem Runs.forget_reaches {s t : Recorded σ β} (h : Reaches (recorded step sees) s t) :
    Reaches step s.state t.state :=
  @Runs.forget σ α β step sees (fun _ _ => True) s t h

theorem Runs.record_invariant_reaches {P : σ → List β → Prop} {Q : σ → Prop} {s t : Recorded σ β}
    (h : Reaches (recorded step sees) s t) (hQ : ∀ u, Reaches step s.state u → Q u) (hs : P s.state s.record)
    (hstep : ∀ u record a v, Q u → P u record → step u a = some v → P v (record ++ sees u a v)) :
    P t.state t.record :=
  @Runs.record_invariant σ α β step sees (fun _ _ => True) P Q s t h hQ hs
    fun u record a v hq hp _ hmove => hstep u record a v hq hp hmove

/-! ### Order in a record -/

/-- Every entry is related to what was written down before it. -/
def Preceded (Q : β → List β → Prop) (record : List β) : Prop :=
  ∀ before entry after, record = before ++ entry :: after → Q entry before

theorem Preceded.nil {Q : β → List β → Prop} : Preceded Q [] := by
  intro before entry after h
  cases before <;> cases h

/-- New entries, each related to the old record and the new entries before it. -/
theorem Preceded.append_of_split {Q : β → List β → Prop} {record entries : List β} (h : Preceded Q record)
    (hnew : ∀ before entry after, entries = before ++ entry :: after → Q entry (record ++ before)) :
    Preceded Q (record ++ entries) := by
  intro before entry after heq
  rcases List.append_eq_append_iff.1 heq with ⟨tail, rfl, htail⟩ | ⟨tail, hrecord, htail⟩
  · exact hnew tail entry after htail
  · cases tail with
    | nil =>
      have hbefore : before = record ++ [] := by rw [hrecord, List.append_nil, List.append_nil]
      rw [hbefore]
      rw [List.nil_append] at htail
      exact hnew [] entry after htail.symm
    | cons first tail =>
      obtain ⟨rfl, -⟩ := List.cons.inj htail
      exact h before entry tail hrecord

/-- One new entry. -/
theorem Preceded.snoc {Q : β → List β → Prop} {record : List β} {entry : β} (h : Preceded Q record)
    (hnew : Q entry record) : Preceded Q (record ++ [entry]) := by
  refine h.append_of_split fun before entry' after heq => ?_
  cases before with
  | nil =>
    obtain ⟨rfl, -⟩ := List.cons.inj heq
    rw [List.append_nil]
    exact hnew
  | cons first before =>
    have hlength := congrArg List.length heq
    simp at hlength

theorem Preceded.append {Q : β → List β → Prop} {record entries : List β} (h : Preceded Q record)
    (hnew : ∀ entry ∈ entries, ∀ before, Q entry (record ++ before)) : Preceded Q (record ++ entries) := by
  refine h.append_of_split fun before entry after heq => hnew entry ?_ before
  rw [heq]
  exact List.mem_append_right _ (List.mem_cons_self ..)

end Transition
