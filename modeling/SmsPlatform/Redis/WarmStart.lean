import SmsPlatform.Redis.Circuits

/-!
# The warm start of the circuit breaker

An opened circuit stays open until its next probe time if no execution acts on an older snapshot at the moment at which the
table is written, and if no one asks Redis for a snapshot that it has lost before a warm start has brought it back
(`open_through_restarts`).
-/

namespace SmsPlatform

open Expiring

namespace CircuitBreaker

/-! ### A snapshot that waits -/

/-- An open circuit whose next probe is not due before a time. -/
def CircuitSnapshot.WaitsUntil (horizon : Int) (snapshot : CircuitSnapshot) : Prop :=
  snapshot.state = .opened ∧ ∃ nextProbeAt : Int, snapshot.nextProbeAt = some nextProbeAt ∧ horizon ≤ nextProbeAt

/-- Redis has such a snapshot, and keeps it until then. -/
def OpenUntil (horizon : Int) (cell : Cell CircuitSnapshot) : Prop :=
  ∃ entry, cell = some entry ∧ CircuitSnapshot.WaitsUntil horizon entry.value ∧
    ∀ deadline, entry.deadline = some deadline → horizon ≤ deadline

section Waiting

variable {config : CircuitBreakerConfig} {now computedAt horizon : Int} {keys : CircuitKeys} {snapshot : CircuitSnapshot}

theorem CircuitSnapshot.WaitsUntil.openUntil {cell : Cell CircuitSnapshot} {entry : Entry CircuitSnapshot}
    (hentry : cell = some entry) (hwaits : CircuitSnapshot.WaitsUntil horizon entry.value) (hlasting : Lasting cell) :
    OpenUntil horizon cell := by
  obtain ⟨hopen, nextProbeAt, hnext, hle⟩ := hwaits
  have hclosed : entry.value.state ≠ .closed := by
    rw [hopen]
    decide
  exact ⟨entry, hentry, ⟨hopen, nextProbeAt, hnext, hle⟩, fun deadline hdeadline =>
    hle.trans (hlasting entry nextProbeAt deadline hentry hclosed hnext hdeadline)⟩

theorem openUntil_persist (h : CircuitSnapshot.WaitsUntil horizon snapshot) (hnow : computedAt ≤ now) :
    OpenUntil horizon (persistSnapshot config computedAt keys now snapshot).snapshot :=
  CircuitSnapshot.WaitsUntil.openUntil rfl h (lasting_persist hnow)

/-- Who asks before the horizon reads a snapshot that waits. -/
theorem OpenUntil.getSnapshot (h : OpenUntil horizon keys.snapshot) (hnow : now < horizon) :
    CircuitSnapshot.WaitsUntil horizon (getSnapshot now keys) := by
  obtain ⟨entry, hentry, hwaits, hdeadline⟩ := h
  have hget : keys.snapshot.get now = some entry.value :=
    Cell.get_eq_some.2 ⟨entry, hentry, rfl, fun deadline hd => hnow.trans_le (hdeadline deadline hd)⟩
  unfold CircuitBreaker.getSnapshot
  rw [hget]
  exact hwaits

/-- A failure that has read an open circuit, or the last one below the threshold, leaves it open. -/
theorem waitsUntil_countFailure (hopen : snapshot.state = .opened ∨ config.failureThreshold ≤ snapshot.failureCount + 1)
    (hsoon : horizon ≤ computedAt + config.openSeconds * 1000) (reason : Option String) :
    CircuitSnapshot.WaitsUntil horizon (countFailure config computedAt snapshot reason) := by
  have hstate : (countFailure config computedAt snapshot reason).state = .opened := by
    show (if config.failureThreshold ≤ snapshot.failureCount + 1 then CircuitState.opened else snapshot.state) = .opened
    rcases hopen with hopen | hthreshold
    · rw [hopen, ite_self]
    · rw [if_pos hthreshold]
  exact ⟨hstate, _, if_pos hstate, hsoon⟩

end Waiting

/-! ### Waiting for the probe -/

/-- The execution does nothing for the provider, before the horizon, that it has read reasons for earlier: a failure has read
an open circuit or the last count below the threshold, a question has not found the probe due and is not asking for it, no
success is under way, and a snapshot for the table or out of it waits until the horizon. -/
def CircuitTask.Waits (config : CircuitBreakerConfig) (providerId : Nat) (horizon : Int) : CircuitTask → Prop
  | .countFailure other read readAt _ => other = providerId →
    (read.state = .opened ∨ config.failureThreshold ≤ read.failureCount + 1) ∧
      horizon ≤ readAt + config.openSeconds * 1000
  | .deleteProbe other _ => other ≠ providerId
  | .persist other snapshot => other = providerId → CircuitSnapshot.WaitsUntil horizon snapshot
  | .halfOpenWhenDue other read _ => other = providerId → read.state = .opened →
    ∀ nextProbeAt, read.nextProbeAt = some nextProbeAt → horizon ≤ nextProbeAt
  | .getLatest _ => True
  | .grantProbe other => other ≠ providerId
  | .hydrate rows => ∀ row ∈ rows, row.providerId = providerId → CircuitSnapshot.WaitsUntil horizon row.snapshot
  | .hydrateRow row _ rows =>
    ∀ other ∈ row :: rows, other.providerId = providerId → CircuitSnapshot.WaitsUntil horizon other.snapshot

/-- Redis, if it has a snapshot of the provider, the table and all executions wait for the horizon. -/
structure Circuits.Waiting (config : CircuitBreakerConfig) (providerId : Nat) (horizon : Int) (circuits : Circuits) :
    Prop where
  redis : (circuits.keys providerId).snapshot.isSome = true → OpenUntil horizon (circuits.keys providerId).snapshot
  table : ∃ row ∈ circuits.rows, row.providerId = providerId ∧ CircuitSnapshot.WaitsUntil horizon row.snapshot
  tasks : ∀ task next, circuits.tasks task = some next → next.Waits config providerId horizon

/-- The provider whose circuit a success, an operator or a connector sets. -/
def CircuitsMove.sets : CircuitsMove → Option Nat
  | .registerSuccess _ providerId _ => some providerId
  | .setCircuitState _ providerId _ _ _ => some providerId
  | .setState providerId _ _ _ _ => some providerId
  | _ => none

/-- The provider whose snapshot a failure or a question reads. -/
def Circuits.asks (circuits : Circuits) : CircuitsMove → Option Nat
  | .registerFailure _ providerId _ => some providerId
  | .allowDispatch _ providerId => some providerId
  | .proceed task _ =>
    match circuits.tasks task with
    | some (.getLatest providerId) => some providerId
    | _ => none
  | _ => none

/-- No one sets the circuit of the provider but by failures, and no one asks Redis for its snapshot after it has been
lost. -/
def OnlyFailures (providerId : Nat) (circuits : Circuits) (call : CircuitsCall) : Prop :=
  call.move.sets ≠ some providerId ∧
    (circuits.asks call.move = some providerId → (circuits.keys providerId).snapshot.isSome = true)

instance (providerId : Nat) (circuits : Circuits) (call : CircuitsCall) :
    Decidable (OnlyFailures providerId circuits call) :=
  inferInstanceAs (Decidable (_ ∧ _))

namespace Circuits

variable {config : CircuitBreakerConfig} {isActive : Nat → Bool} {circuits circuits' : Circuits} {task providerId : Nat}
  {time computedAt horizon : Int}

theorem Waiting.hold (h : circuits.Waiting config providerId horizon) (task : Nat) {next : Option CircuitTask}
    (hnext : ∀ held, next = some held → held.Waits config providerId horizon) :
    (circuits.hold task next).Waiting config providerId horizon where
  redis := h.redis
  table := h.table
  tasks := by
    intro other held hheld
    rcases of_hold hheld with ⟨-, hheld⟩ | ⟨-, hheld⟩
    · exact hnext held hheld
    · exact h.tasks other held hheld

theorem Waiting.await (h : circuits.Waiting config providerId horizon) (task : Nat) {next : CircuitTask}
    (hnext : next.Waits config providerId horizon) :
    (circuits.hold task (some next)).Waiting config providerId horizon := by
  refine h.hold task ?_
  rintro _ ⟨⟩
  exact hnext

theorem Waiting.release (h : circuits.Waiting config providerId horizon) (task : Nat) :
    (circuits.hold task none).Waiting config providerId horizon := by
  refine h.hold task ?_
  rintro _ ⟨⟩

theorem Waiting.store (h : circuits.Waiting config providerId horizon) (other : Nat) {keys : CircuitKeys}
    (hkeys : other = providerId → OpenUntil horizon keys.snapshot) :
    (circuits.store other keys).Waiting config providerId horizon where
  redis := by
    show (Function.update circuits.keys other keys providerId).snapshot.isSome = true →
      OpenUntil horizon (Function.update circuits.keys other keys providerId).snapshot
    by_cases hsame : providerId = other
    · subst hsame
      rw [Function.update_self]
      exact fun _ => hkeys rfl
    · rw [Function.update_of_ne hsame]
      exact h.redis
  table := h.table
  tasks := h.tasks

theorem Waiting.persist (h : circuits.Waiting config providerId horizon) {other : Nat} {snapshot : CircuitSnapshot}
    (hsnapshot : other = providerId → CircuitSnapshot.WaitsUntil horizon snapshot) :
    Waiting config providerId horizon { circuits with rows := persistCircuitSnapshot other snapshot circuits.rows } where
  redis := h.redis
  table := by
    by_cases hsame : other = providerId
    · exact ⟨_, mem_persist_self, hsame, hsnapshot hsame⟩
    · obtain ⟨row, hrow, hid, hwaits⟩ := h.table
      exact ⟨row, mem_persist_of_ne hrow fun heq => hsame (heq.symm.trans hid), hid, hwaits⟩
  tasks := h.tasks

/-- The next statement of an execution, before the horizon. -/
theorem Waiting.proceed (h : circuits.Waiting config providerId horizon) (hearly : circuits.time < horizon)
    {next : CircuitTask} (hnext : next.Waits config providerId horizon)
    (hasked : ∀ other, next = .getLatest other → other = providerId →
      (circuits.keys providerId).snapshot.isSome = true)
    (hstep : circuits.proceed config task computedAt next = some circuits') :
    circuits'.Waiting config providerId horizon := by
  unfold Circuits.proceed at hstep
  cases next with
  | countFailure other read readAt reason =>
    obtain ⟨⟨hread, hnow⟩, hsome⟩ := Option.ite_none_right_eq_some.1 hstep
    obtain rfl := Option.some.inj hsome
    have hwaits : other = providerId →
        CircuitSnapshot.WaitsUntil horizon (CircuitBreaker.countFailure config computedAt read reason) := by
      intro hsame
      obtain ⟨hopen, hsoon⟩ := hnext hsame
      exact waitsUntil_countFailure hopen (hsoon.trans (Int.add_le_add_right hread _)) reason
    exact (h.store other fun hsame => openUntil_persist (hwaits hsame) hnow).await task hwaits
  | deleteProbe other snapshot =>
    obtain rfl := Option.some.inj hstep
    exact (h.store other fun hsame => absurd hsame hnext).await task (fun hsame => absurd hsame hnext)
  | persist other snapshot =>
    obtain rfl := Option.some.inj hstep
    exact (h.persist hnext).release task
  | halfOpenWhenDue other read readAt =>
    obtain ⟨⟨-, hnow⟩, hsome⟩ := Option.ite_none_right_eq_some.1 hstep
    split at hsome
    · rename_i hdue
      obtain rfl := Option.some.inj hsome
      refine (h.store other fun hsame => ?_).hold task ?_
      · -- the probe is not due before the horizon
        obtain ⟨nextProbeAt, hprobe, hle⟩ := (Option.any_eq_true _ _).1 hdue.2
        have hlate := hnext hsame hdue.1 nextProbeAt hprobe
        exact absurd (hlate.trans ((of_decide_eq_true hle).trans hnow)) hearly.not_ge
      · rintro _ ⟨⟩
        trivial
    · obtain rfl := Option.some.inj hsome
      exact h.await task trivial
  | getLatest other =>
    obtain rfl := Option.some.inj hstep
    refine h.hold task fun held hheld => ?_
    obtain ⟨hhalf, hheld⟩ := Option.ite_none_right_eq_some.1 hheld
    obtain rfl := Option.some.inj hheld
    rintro rfl
    have hopen := ((h.redis (hasked other rfl rfl)).getSnapshot hearly).1
    rw [hhalf] at hopen
    cases hopen
  | grantProbe other =>
    obtain rfl := Option.some.inj hstep
    exact (h.store other fun hsame => absurd hsame hnext).release task
  | hydrate rows =>
    cases rows with
    | nil =>
      obtain rfl := Option.some.inj hstep
      exact h.release task
    | cons row rows =>
      dsimp only at hstep
      split at hstep
      · obtain rfl := Option.some.inj hstep
        exact h.await task (fun other hother => hnext other (List.mem_cons_of_mem _ hother))
      · obtain rfl := Option.some.inj hstep
        exact h.await task hnext
  | hydrateRow row readAt rows =>
    obtain ⟨⟨-, hnow⟩, hsome⟩ := Option.ite_none_right_eq_some.1 hstep
    obtain rfl := Option.some.inj hsome
    obtain ⟨hrow, hrows⟩ := List.forall_mem_cons.1 hnext
    exact (h.store row.providerId fun hsame => openUntil_persist (hrow hsame) hnow).await task hrows

/-- The first statement of an execution, or a loss, before the horizon. -/
theorem Waiting.move (h : circuits.Waiting config providerId horizon) (hsound : circuits.Sound config isActive time)
    (hearly : circuits.time < horizon) (hsoon : horizon ≤ circuits.time + config.openSeconds * 1000)
    {move : CircuitsMove} (hsets : move.sets ≠ some providerId)
    (hasks : circuits.asks move = some providerId → (circuits.keys providerId).snapshot.isSome = true)
    (hstep : circuits.move config move = some circuits') : circuits'.Waiting config providerId horizon := by
  unfold Circuits.move at hstep
  cases move with
  | registerFailure task other reason =>
    obtain ⟨-, rfl⟩ := enter_eq_some hstep
    refine h.hold task ?_
    rintro _ ⟨⟩ rfl
    exact ⟨.inl ((h.redis (hasks rfl)).getSnapshot hearly).1, hsoon⟩
  | registerSuccess task other computedAt =>
    obtain ⟨-, hstep⟩ := Option.ite_none_right_eq_some.1 hstep
    obtain ⟨-, rfl⟩ := enter_eq_some hstep
    have hne : other ≠ providerId := fun hsame => hsets (congrArg some hsame)
    exact (h.store other fun hsame => absurd hsame hne).await task hne
  | setCircuitState task other state computedAt reason =>
    obtain ⟨-, hstep⟩ := Option.ite_none_right_eq_some.1 hstep
    obtain ⟨-, rfl⟩ := enter_eq_some hstep
    have hne : other ≠ providerId := fun hsame => hsets (congrArg some hsame)
    exact (h.store other fun hsame => absurd hsame hne).await task (fun hsame => absurd hsame hne)
  | setState other state ttlSeconds computedAt reason =>
    obtain ⟨-, hsome⟩ := Option.ite_none_right_eq_some.1 hstep
    obtain rfl := Option.some.inj hsome
    exact h.store other fun hsame => absurd (congrArg some hsame) hsets
  | allowDispatch task other =>
    obtain ⟨-, rfl⟩ := enter_eq_some hstep
    split
    · exact h
    · refine h.hold task ?_
      rintro _ ⟨⟩ rfl -
      obtain ⟨-, due, hdue, hle⟩ := (h.redis (hasks rfl)).getSnapshot hearly
      intro nextProbeAt hnext
      rw [Option.some.inj (hnext.symm.trans hdue)]
      exact hle
  | onModuleInit task rows =>
    obtain ⟨hrows, hstep⟩ := Option.ite_none_right_eq_some.1 hstep
    obtain ⟨-, rfl⟩ := enter_eq_some hstep
    refine h.hold task ?_
    rintro _ ⟨⟩ row hrow hsame
    obtain ⟨waiting, hwaiting, hid, hwaits⟩ := h.table
    have hmem := (List.mem_filter.1 (hrows.mem_iff.1 hrow)).1
    rw [hsound.keyed.unique hmem hwaiting (hsame.trans hid.symm)]
    exact hwaits
  | proceed task computedAt =>
    obtain ⟨next, hnext, hstep⟩ := Option.bind_eq_some_iff.1 hstep
    refine h.proceed hearly (h.tasks task next hnext) (fun other hlatest hsame => hasks ?_) hstep
    unfold asks
    dsimp only
    rw [hnext, hlatest, ← hsame]
  | crash task =>
    obtain rfl := Option.some.inj hstep
    exact h.release task
  | lose loss =>
    obtain rfl := Option.some.inj hstep
    refine { h with redis := ?_ }
    show (if loss.snapshot providerId then none else (circuits.keys providerId).snapshot).isSome = true →
      OpenUntil horizon (if loss.snapshot providerId then none else (circuits.keys providerId).snapshot)
    split
    · intro hsome
      cases hsome
    · exact h.redis

/-- The circuits of a run, while the horizon has not come. -/
structure Awaiting (config : CircuitBreakerConfig) (isActive : Nat → Bool) (providerId : Nat) (horizon : Int)
    (circuits : Circuits) : Prop where
  sound : circuits.Sound config isActive circuits.time
  soon : horizon ≤ circuits.time + config.openSeconds * 1000
  waiting : circuits.time < horizon → circuits.Waiting config providerId horizon

theorem Awaiting.step (h : circuits.Awaiting config isActive providerId horizon) {call : CircuitsCall}
    (honly : OnlyFailures providerId circuits call) (hstep : circuits.step config call = some circuits') :
    circuits'.Awaiting config isActive providerId horizon := by
  obtain ⟨hnow, hmove⟩ := step_eq_some hstep
  have hsound := h.sound.step hstep
  have htime := hsound.time
  have hsoon : horizon ≤ call.now + config.openSeconds * 1000 := h.soon.trans (Int.add_le_add_right hnow _)
  refine ⟨htime.symm ▸ hsound, ?_, fun hearly => ?_⟩
  · rw [htime]
    exact hsoon
  · rw [htime] at hearly
    have hwaiting := h.waiting (Int.lt_of_le_of_lt hnow hearly)
    have hlater : Waiting config providerId horizon { circuits with time := call.now } :=
      ⟨hwaiting.redis, hwaiting.table, hwaiting.tasks⟩
    exact hlater.move (h.sound.later hnow) hearly hsoon honly.1 honly.2 hmove

/-- Nothing of the provider is let through before the horizon. -/
theorem Awaiting.answered (h : circuits.Awaiting config isActive providerId horizon) {call : CircuitsCall}
    (honly : OnlyFailures providerId circuits call) (hstep : circuits.step config call = some circuits') :
    ∀ answer ∈ answered config circuits call circuits', answer.providerId = providerId → answer.allowed = true →
      horizon ≤ answer.now := by
  obtain ⟨hnow, -⟩ := step_eq_some hstep
  intro answer hanswer hself hallowed
  by_contra hlate
  have hread (hearly : call.now < horizon) (hasks : circuits.asks call.move = some providerId) :
      (getSnapshot call.now (circuits.keys providerId)).state = .opened :=
    (((h.waiting (Int.lt_of_le_of_lt hnow hearly)).redis (honly.2 hasks)).getSnapshot hearly).1
  unfold CircuitBreaker.answered at hanswer
  obtain ⟨now, move⟩ := call
  cases move with
  | allowDispatch task other =>
    dsimp only at hanswer
    split at hanswer
    · rename_i hclosed
      obtain rfl := List.mem_singleton.1 hanswer
      obtain rfl : other = providerId := hself
      rw [hread (Int.not_le.1 hlate) rfl] at hclosed
      cases hclosed
    · cases hanswer
  | proceed task computedAt =>
    dsimp only at hanswer
    split at hanswer
    · rename_i other hlatest
      have hanswer := Option.mem_toList.1 hanswer
      have hasks : circuits.asks (.proceed task computedAt) = some other := by
        unfold asks
        dsimp only
        rw [hlatest]
      unfold readAnswer at hanswer
      split at hanswer
      · rename_i hclosed
        obtain rfl := Option.some.inj hanswer
        obtain rfl : other = providerId := hself
        rw [hread (Int.not_le.1 hlate) hasks] at hclosed
        cases hclosed
      · obtain rfl := Option.some.inj hanswer
        cases hallowed
      · cases hanswer
    · rename_i other hprobe
      obtain rfl := List.mem_singleton.1 hanswer
      obtain rfl : other = providerId := hself
      have hearly : now < horizon := Int.not_le.1 hlate
      exact (h.waiting (Int.lt_of_le_of_lt hnow hearly)).tasks task _ hprobe rfl
    · cases hanswer
  | _ => cases hanswer

end Circuits

/-! ### The warm start -/

/-- A warm start that has still to come to the row of the provider. -/
def CircuitTask.Hydrates (providerId : Nat) : CircuitTask → Prop
  | .hydrate rows => ∃ row ∈ rows, row.providerId = providerId
  | .hydrateRow row _ rows => ∃ other ∈ row :: rows, other.providerId = providerId
  | _ => False

/-- Redis has a snapshot of the provider, or the warm start is still to come to it. -/
def Circuits.Restores (task providerId : Nat) (circuits : Circuits) : Prop :=
  (circuits.keys providerId).snapshot.isSome = true ∨
    ∃ next, circuits.tasks task = some next ∧ next.Hydrates providerId

/-- The warm start does not die, and Redis does not lose the snapshot of the provider. -/
def Undisturbed (task providerId : Nat) (_ : Circuits) (call : CircuitsCall) : Prop :=
  match call.move with
  | .crash other => other ≠ task
  | .lose loss => loss.snapshot providerId = false
  | _ => True

namespace Circuits

variable {config : CircuitBreakerConfig} {isActive : Nat → Bool} {circuits circuits' : Circuits}
  {task other providerId : Nat} {computedAt : Int}

/-- One statement: Redis loses no snapshot, and other executions stay where they are. -/
structure Stays (task : Nat) (circuits circuits' : Circuits) : Prop where
  keys : ∀ providerId, (circuits.keys providerId).snapshot.isSome = true →
    (circuits'.keys providerId).snapshot.isSome = true
  tasks : ∀ other, other ≠ task → circuits'.tasks other = circuits.tasks other

theorem stays_hold (next : Option CircuitTask) : circuits.Stays task (circuits.hold task next) where
  keys := fun _ h => h
  tasks := fun _ hne => Function.update_of_ne hne _ _

theorem stays_store {keys : CircuitKeys}
    (hkeys : (circuits.keys providerId).snapshot.isSome = true → keys.snapshot.isSome = true) :
    circuits.Stays task (circuits.store providerId keys) where
  keys := by
    intro other h
    show (Function.update circuits.keys providerId keys other).snapshot.isSome = true
    by_cases hsame : other = providerId
    · subst hsame
      rw [Function.update_self]
      exact hkeys h
    · rw [Function.update_of_ne hsame]
      exact h
  tasks := fun _ _ => rfl

theorem Stays.hold (h : circuits.Stays task circuits') (next : Option CircuitTask) :
    circuits.Stays task (circuits'.hold task next) where
  keys := h.keys
  tasks := fun other hne => (Function.update_of_ne hne _ _).trans (h.tasks other hne)

theorem stays_proceed {next : CircuitTask} (hstep : circuits.proceed config task computedAt next = some circuits') :
    circuits.Stays task circuits' := by
  unfold Circuits.proceed at hstep
  cases next with
  | countFailure =>
    obtain ⟨-, hsome⟩ := Option.ite_none_right_eq_some.1 hstep
    obtain rfl := Option.some.inj hsome
    exact (stays_store fun _ => rfl).hold _
  | deleteProbe =>
    obtain rfl := Option.some.inj hstep
    refine Stays.hold (stays_store ?_) _
    exact fun h => h
  | persist =>
    obtain rfl := Option.some.inj hstep
    exact ⟨fun _ h => h, fun _ hne => Function.update_of_ne hne _ _⟩
  | halfOpenWhenDue =>
    obtain ⟨-, hsome⟩ := Option.ite_none_right_eq_some.1 hstep
    split at hsome
    · obtain rfl := Option.some.inj hsome
      exact (stays_store fun _ => rfl).hold _
    · obtain rfl := Option.some.inj hsome
      exact stays_hold _
  | getLatest =>
    obtain rfl := Option.some.inj hstep
    exact stays_hold _
  | grantProbe =>
    obtain rfl := Option.some.inj hstep
    refine Stays.hold (stays_store ?_) _
    exact fun h => h
  | hydrate rows =>
    cases rows with
    | nil =>
      obtain rfl := Option.some.inj hstep
      exact stays_hold _
    | cons row rows =>
      dsimp only at hstep
      split at hstep
      · obtain rfl := Option.some.inj hstep
        exact stays_hold _
      · obtain rfl := Option.some.inj hstep
        exact stays_hold _
  | hydrateRow =>
    obtain ⟨-, hsome⟩ := Option.ite_none_right_eq_some.1 hstep
    obtain rfl := Option.some.inj hsome
    exact (stays_store fun _ => rfl).hold _

/-- The statement of another execution, or of one that begins. -/
theorem Restores.stays (h : circuits.Restores task providerId) (hstays : circuits.Stays other circuits')
    (hother : other = task → (circuits.keys providerId).snapshot.isSome = true) : circuits'.Restores task providerId := by
  rcases h with hsome | ⟨next, hnext, hrow⟩
  · exact .inl (hstays.keys providerId hsome)
  · by_cases hsame : other = task
    · exact .inl (hstays.keys providerId (hother hsame))
    · exact .inr ⟨next, (hstays.tasks task (Ne.symm hsame)).trans hnext, hrow⟩

/-- The next statement of the warm start itself. -/
theorem Restores.proceed {next : CircuitTask} (hrow : next.Hydrates providerId)
    (hstep : circuits.proceed config task computedAt next = some circuits') : circuits'.Restores task providerId := by
  have hheld (circuits : Circuits) (next : CircuitTask) (hnext : next.Hydrates providerId) :
      (circuits.hold task (some next)).Restores task providerId :=
    .inr ⟨next, Function.update_self .., hnext⟩
  unfold Circuits.proceed at hstep
  cases next with
  | hydrate rows =>
    obtain ⟨row, hmem, hid⟩ := hrow
    cases rows with
    | nil => cases hmem
    | cons first rows =>
      dsimp only at hstep
      split at hstep
      · rename_i hfound
        obtain rfl := Option.some.inj hstep
        rcases List.mem_cons.1 hmem with rfl | hmem
        · -- Redis has a snapshot that is as recent
          obtain ⟨existing, hget, -⟩ := (Option.any_eq_true _ _).1 hfound
          obtain ⟨entry, hentry, -⟩ := Cell.get_eq_some.1 hget
          rw [hid] at hentry
          exact .inl (Option.isSome_iff_exists.2 ⟨entry, hentry⟩)
        · exact hheld _ _ ⟨row, hmem, hid⟩
      · obtain rfl := Option.some.inj hstep
        exact hheld _ _ ⟨row, hmem, hid⟩
  | hydrateRow first readAt rows =>
    obtain ⟨-, hsome⟩ := Option.ite_none_right_eq_some.1 hstep
    obtain rfl := Option.some.inj hsome
    obtain ⟨row, hmem, hid⟩ := hrow
    rcases List.mem_cons.1 hmem with rfl | hmem
    · left
      show (Function.update circuits.keys row.providerId _ providerId).snapshot.isSome = true
      rw [hid, Function.update_self]
      rfl
    · exact hheld _ _ ⟨row, hmem, hid⟩
  | _ => exact hrow.elim

theorem Restores.step (h : circuits.Restores task providerId) {call : CircuitsCall}
    (hkept : Undisturbed task providerId circuits call) (hstep : circuits.step config call = some circuits') :
    circuits'.Restores task providerId := by
  obtain ⟨-, hmove⟩ := step_eq_some hstep
  have hlater : Restores task providerId { circuits with time := call.now } := h
  -- an execution that begins has a number of its own
  have hentered {other : Nat} {entered : Circuits} (hfree : circuits.tasks other = none)
      (hstays : Stays other { circuits with time := call.now } entered) : entered.Restores task providerId := by
    refine hlater.stays hstays fun hsame => ?_
    rcases h with hsome | ⟨next, hnext, -⟩
    · exact hsome
    · rw [← hsame, hfree] at hnext
      cases hnext
  unfold Undisturbed at hkept
  unfold Circuits.move at hmove
  obtain ⟨now, move⟩ := call
  cases move with
  | registerFailure other providerId reason =>
    obtain ⟨hfree, rfl⟩ := enter_eq_some hmove
    exact hentered hfree (stays_hold _)
  | registerSuccess other providerId computedAt =>
    obtain ⟨-, hmove⟩ := Option.ite_none_right_eq_some.1 hmove
    obtain ⟨hfree, rfl⟩ := enter_eq_some hmove
    exact hentered hfree ((stays_store fun _ => rfl).hold _)
  | setCircuitState other providerId state computedAt reason =>
    obtain ⟨-, hmove⟩ := Option.ite_none_right_eq_some.1 hmove
    obtain ⟨hfree, rfl⟩ := enter_eq_some hmove
    exact hentered hfree ((stays_store fun _ => rfl).hold _)
  | setState providerId state ttlSeconds computedAt reason =>
    obtain ⟨-, hsome⟩ := Option.ite_none_right_eq_some.1 hmove
    obtain rfl := Option.some.inj hsome
    refine @Restores.stays _ _ _ (task + 1) _ hlater (stays_store fun _ => ?_) fun hsame => absurd hsame (by omega)
    rfl
  | allowDispatch other providerId =>
    obtain ⟨hfree, rfl⟩ := enter_eq_some hmove
    split
    · exact hlater
    · exact hentered hfree (stays_hold _)
  | onModuleInit other rows =>
    obtain ⟨-, hmove⟩ := Option.ite_none_right_eq_some.1 hmove
    obtain ⟨hfree, rfl⟩ := enter_eq_some hmove
    exact hentered hfree (stays_hold _)
  | proceed other computedAt =>
    obtain ⟨next, hnext, hproceed⟩ := Option.bind_eq_some_iff.1 hmove
    by_cases hrow : other = task ∧ next.Hydrates providerId
    · obtain ⟨rfl, hrow⟩ := hrow
      exact Restores.proceed hrow hproceed
    · refine hlater.stays (stays_proceed hproceed) fun hsame => ?_
      rcases h with hsome | ⟨held, hheld, hhydrates⟩
      · exact hsome
      · rw [← hsame] at hheld
        rw [Option.some.inj (hheld.symm.trans hnext)] at hhydrates
        exact absurd ⟨hsame, hhydrates⟩ hrow
  | crash other =>
    obtain rfl := Option.some.inj hmove
    exact hlater.stays (stays_hold _) fun hsame => absurd hsame hkept
  | lose loss =>
    obtain rfl := Option.some.inj hmove
    rcases hlater with hsome | hnext
    · left
      show (if loss.snapshot providerId then none else (circuits.keys providerId).snapshot).isSome = true
      rw [hkept]
      exact hsome
    · exact .inr hnext

/-- A warm start that begins before the horizon selects the row that waits, and brings the snapshot back. -/
theorem Awaiting.warmed {horizon begunAt : Int} {rows : List CircuitRow} {begun warmed : Circuits}
    (h : circuits.Awaiting config isActive providerId horizon) (hactive : isActive providerId = true)
    (hearly : begunAt < horizon) (hbegun : circuits.step config ⟨begunAt, .onModuleInit task rows⟩ = some begun)
    (hrun : Transition.Runs (Circuits.step config) (Undisturbed task providerId) begun warmed)
    (hended : warmed.tasks task = none) : (warmed.keys providerId).snapshot.isSome = true := by
  obtain ⟨hle, hselected⟩ := step_eq_some hbegun
  obtain ⟨row, hrow, hid, -⟩ := (h.waiting (Int.lt_of_le_of_lt hle hearly)).table
  have hrestores : begun.Restores task providerId := by
    obtain ⟨hrows, hentered⟩ := Option.ite_none_right_eq_some.1 hselected
    obtain ⟨-, rfl⟩ := enter_eq_some hentered
    refine .inr ⟨_, Function.update_self .., row, hrows.mem_iff.2 (List.mem_filter.2 ⟨hrow, ?_⟩), hid⟩
    show circuits.isActive row.providerId = true
    rw [h.sound.active, hid]
    exact hactive
  have hwarm : warmed.Restores task providerId :=
    hrun.invariant hrestores fun _ _ _ h hkept hstep => h.step hkept hstep
  rcases hwarm with hsome | ⟨next, hnext, -⟩
  · exact hsome
  · rw [hended] at hnext
    cases hnext

/-- The circuits after the table has been written. -/
theorem awaiting_of_persist {now : Int} {snapshot : CircuitSnapshot} {opened : Circuits}
    (hsound : circuits.Sound config isActive circuits.time)
    (htask : circuits.tasks task = some (.persist providerId snapshot)) (hopen : snapshot.state = .opened)
    (hstep : circuits.step config ⟨now, .proceed task computedAt⟩ = some opened)
    (hkept : ∀ entry, (circuits.keys providerId).snapshot = some entry →
      CircuitSnapshot.WaitsUntil (snapshot.lastChangedAt + config.openSeconds * 1000) entry.value)
    (hothers : ∀ other next, opened.tasks other = some next →
      next.Waits config providerId (snapshot.lastChangedAt + config.openSeconds * 1000)) :
    opened.Awaiting config isActive providerId (snapshot.lastChangedAt + config.openSeconds * 1000) := by
  have hsound' := hsound.step hstep
  obtain ⟨hnow, hmove⟩ := step_eq_some hstep
  obtain ⟨hcomputed, hdated⟩ := hsound.dated task _ htask
  refine ⟨hsound'.time.symm ▸ hsound', ?_, fun _ => ?_⟩
  · rw [hsound'.time]
    exact Int.add_le_add_right (hcomputed.trans hnow) _
  · obtain ⟨next, hnext, hpersist⟩ := Option.bind_eq_some_iff.1 hmove
    obtain rfl := Option.some.inj (hnext.symm.trans htask)
    obtain rfl := Option.some.inj hpersist
    refine ⟨fun hsome => ?_, ⟨_, mem_persist_self, rfl, hopen, _, hdated hopen, Int.le_refl _⟩, hothers⟩
    obtain ⟨entry, hentry⟩ := Option.isSome_iff_exists.1 hsome
    exact (hkept entry hentry).openUntil hentry (hsound.lasting providerId)

end Circuits

/-- Once an execution that has opened the circuit of an active provider writes the table, while Redis has no snapshot of the
provider that is due before and no other execution acts on what it has read before: nothing of the provider is let through
for `openSeconds`, whatever keys Redis loses, as long as no one asks for a snapshot that it has lost.  A warm start that
begins then and comes to its end brings the snapshot back. -/
theorem open_through_restarts {config : CircuitBreakerConfig} {providerId task : Nat} {isActive : Nat → Bool}
    {time now computedAt : Int} {snapshot : CircuitSnapshot} {circuits opened : Circuits}
    {after : Transition.Recorded Circuits DispatchAnswer} (hactive : isActive providerId = true)
    (hreach : Transition.Reaches (Circuits.step config) (Circuits.start isActive time) circuits)
    (htask : circuits.tasks task = some (.persist providerId snapshot)) (hopen : snapshot.state = .opened)
    (hstep : circuits.step config ⟨now, .proceed task computedAt⟩ = some opened)
    (hkept : ∀ entry, (circuits.keys providerId).snapshot = some entry →
      CircuitSnapshot.WaitsUntil (snapshot.lastChangedAt + config.openSeconds * 1000) entry.value)
    (hothers : ∀ other next, opened.tasks other = some next →
      next.Waits config providerId (snapshot.lastChangedAt + config.openSeconds * 1000))
    (hrun : Transition.Runs (Transition.recorded (Circuits.step config) (answered config))
      (fun state call => OnlyFailures providerId state.state call) ⟨opened, []⟩ after) :
    (∀ answer ∈ after.record, answer.providerId = providerId → answer.allowed = true →
      snapshot.lastChangedAt + config.openSeconds * 1000 ≤ answer.now) ∧
    ∀ begunAt starter rows begun warmed, begunAt < snapshot.lastChangedAt + config.openSeconds * 1000 →
      after.state.step config ⟨begunAt, .onModuleInit starter rows⟩ = some begun →
      Transition.Runs (Circuits.step config) (Undisturbed starter providerId) begun warmed →
      warmed.tasks starter = none → (warmed.keys providerId).snapshot.isSome = true := by
  have hawaiting := Circuits.awaiting_of_persist (Circuits.sound_of_reaches hreach) htask hopen hstep hkept hothers
  have hawaits : ∀ circuits, Transition.Runs (Circuits.step config) (OnlyFailures providerId) opened circuits →
      circuits.Awaiting config isActive providerId (snapshot.lastChangedAt + config.openSeconds * 1000) :=
    fun circuits hrun => hrun.invariant hawaiting fun _ _ _ h honly hstep => h.step honly hstep
  constructor
  · refine @Transition.Runs.record_invariant _ _ _ _ _ (OnlyFailures providerId)
      (fun _ record => ∀ answer ∈ record, answer.providerId = providerId → answer.allowed = true →
        snapshot.lastChangedAt + config.openSeconds * 1000 ≤ answer.now)
      (fun circuits => circuits.Awaiting config isActive providerId
        (snapshot.lastChangedAt + config.openSeconds * 1000)) _ _ hrun hawaits ?_ ?_
    · intro answer hanswer
      cases hanswer
    · intro circuits record call circuits' h hrecord honly hstep answer hanswer
      rcases List.mem_append.1 hanswer with hold | hnew
      · exact hrecord answer hold
      · exact h.answered honly hstep answer hnew
  · intro begunAt starter rows begun warmed hearly hbegun hwarmed hended
    exact (hawaits after.state hrun.forget).warmed hactive hearly hbegun hwarmed hended

namespace Sample

/-- The first provider is active. -/
def circuits : Circuits := Circuits.start (fun providerId => decide (providerId = 1)) 0

def timedOut : CircuitSnapshot := countFailure config 0 (defaultSnapshot 0) (some "timeout")

/-- After the GET and the SET of a failure of the first provider. -/
def written : Circuits :=
  ((circuits.hold 0 (some (.countFailure 1 (defaultSnapshot 0) 0 (some "timeout")))).store 1
    (persistSnapshot config 0 noKeys 0 timedOut)).hold 0 (some (.persist 1 timedOut))

/-- Redis loses all keys at 1000, and the warm start follows.  At 5000 the probe is due, and let through. -/
def lostKeys : List CircuitsCall :=
  [⟨500, .allowDispatch 0 1⟩, ⟨500, .proceed 0 500⟩, ⟨500, .proceed 0 500⟩,
    ⟨1000, .lose ⟨fun _ => true, fun _ => true⟩⟩, ⟨1000, .onModuleInit 0 [⟨1, timedOut⟩]⟩, ⟨1000, .proceed 0 1000⟩,
    ⟨1000, .proceed 0 1000⟩, ⟨1000, .proceed 0 1000⟩, ⟨1000, .allowDispatch 0 1⟩, ⟨1000, .proceed 0 1000⟩,
    ⟨1000, .proceed 0 1000⟩, ⟨1000, .allowDispatch 0 2⟩, ⟨5000, .allowDispatch 0 1⟩]

end Sample

theorem open_through_restarts_lost : ∃ opened after,
    Sample.written.step Sample.config ⟨0, .proceed 0 0⟩ = some opened ∧
      (after.record.map DispatchAnswer.allowed = [false, false, true, true] ∧
        ∀ answer ∈ after.record, answer.providerId = 1 → answer.allowed = true → 5000 ≤ answer.now) ∧
      Transition.Runs (Transition.recorded (Circuits.step Sample.config) (answered Sample.config))
        (fun state call => OnlyFailures 1 state.state call) ⟨opened, []⟩ after := by
  have h : ((Sample.written.step Sample.config ⟨0, .proceed 0 0⟩).bind fun opened =>
      Transition.execute (Transition.guarded (Transition.recorded (Circuits.step Sample.config) (answered Sample.config))
        fun state call => decide (OnlyFailures 1 state.state call)) ⟨opened, []⟩ Sample.lostKeys).any (fun after =>
          decide (after.record.map DispatchAnswer.allowed = [false, false, true, true])) = true := by
    decide +kernel
  obtain ⟨after, hafter, hallowed⟩ := (Option.any_eq_true _ _).1 h
  obtain ⟨opened, hopened, hrun⟩ := Option.bind_eq_some_iff.1 hafter
  have hruns : Transition.Runs (Transition.recorded (Circuits.step Sample.config) (answered Sample.config))
      (fun state call => OnlyFailures 1 state.state call) ⟨opened, []⟩ after :=
    (Transition.runs_of_execute hrun).mono fun _ _ hok => of_decide_eq_true hok
  have hreach : Transition.Reaches (Circuits.step Sample.config) Sample.circuits Sample.written :=
    @Transition.reaches_of_execute _ _ _ [⟨0, .registerFailure 0 1 (some "timeout")⟩, ⟨0, .proceed 0 0⟩] _ _ rfl
  refine ⟨opened, after, hopened, ⟨of_decide_eq_true hallowed, ?_⟩, hruns⟩
  refine (open_through_restarts (by decide) hreach rfl (by decide) hopened ?_ ?_ hruns).1
  · rintro _ ⟨⟩
    exact ⟨by decide, 5000, by decide, by decide⟩
  · -- no other execution is under way
    intro other next hnext
    obtain rfl := Option.some.inj hopened
    rcases Circuits.of_hold hnext with ⟨-, hnext⟩ | ⟨hother, hnext⟩
    · cases hnext
    rcases Circuits.of_hold hnext with ⟨hsame, -⟩ | ⟨-, hnext⟩
    · exact absurd hsame hother
    rcases Circuits.of_hold hnext with ⟨hsame, -⟩ | ⟨-, hnext⟩
    · exact absurd hsame hother
    · cases hnext

/-- A failure that has read the snapshot before two others open the circuit closes it again. -/
def Sample.staleFailure : List CircuitsCall :=
  [⟨0, .registerFailure 0 1 none⟩, ⟨0, .registerFailure 1 1 none⟩, ⟨0, .proceed 1 0⟩, ⟨0, .proceed 1 0⟩,
    ⟨0, .registerFailure 1 1 none⟩, ⟨0, .proceed 1 0⟩, ⟨0, .proceed 1 0⟩, ⟨1, .proceed 0 1⟩, ⟨1, .allowDispatch 2 1⟩]

example : ((Transition.execute (Transition.recorded
    (Circuits.step { Sample.config with failureThreshold := 2, failureThreshold_pos := by decide })
      (answered Sample.config)) ⟨Sample.circuits, []⟩ Sample.staleFailure).map Transition.Recorded.record) =
        some [⟨1, 1, true⟩] := by
  decide +kernel

end CircuitBreaker

end SmsPlatform
