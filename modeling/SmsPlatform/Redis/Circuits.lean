import SmsPlatform.Lib.Records
import SmsPlatform.Lib.Rows
import SmsPlatform.Redis.CircuitBreaker

/-!
# The circuits of all providers

The keys of all providers in Redis, and the table `provider_circuit_state` in which `providers.service.ts` keeps the
snapshot of every dispatch result.  Any number of executions, in any number of processes, work on them.  Every statement
is a step of its own (`Circuits.step`): an execution may write what it has computed from a snapshot that is no longer
there.  Redis may lose keys, and `onModuleInit` of `circuit-breaker.service.ts` reads the table and writes the snapshots
that Redis has not, or has older ones of.  With nothing in between, the statements are the calls of `CircuitBreaker`
(`registerFailure_at_once`, `allowDispatch_at_once`).
-/

namespace SmsPlatform

open Expiring

namespace CircuitBreaker

/-! ### The service -/

/-- A row of `provider_circuit_state`. -/
structure CircuitRow where
  providerId : Nat
  snapshot : CircuitSnapshot
  deriving DecidableEq

/-- The next statement of an execution, and what it has read for it: the SET of `registerFailure`, the DEL of
`registerSuccess`, the INSERT of `persistCircuitSnapshot`, the statements of `allowDispatch` after its first GET, and the GET
and the SET of `onModuleInit` for the first of the rows that it has selected. -/
inductive CircuitTask
  | countFailure (providerId : Nat) (read : CircuitSnapshot) (readAt : Millis) (reason : Option String)
  | deleteProbe (providerId : Nat) (snapshot : CircuitSnapshot)
  | persist (providerId : Nat) (snapshot : CircuitSnapshot)
  | halfOpenWhenDue (providerId : Nat) (read : CircuitSnapshot) (readAt : Millis)
  | getLatest (providerId : Nat)
  | grantProbe (providerId : Nat)
  | hydrate (rows : List CircuitRow)
  | hydrateRow (row : CircuitRow) (readAt : Millis) (rows : List CircuitRow)

/-- `isActive` is a column of `providers`; `tasks` are the executions that are under way, by numbers of their own. -/
structure Circuits where
  keys : Nat → CircuitKeys
  rows : List CircuitRow
  isActive : Nat → Bool
  tasks : Nat → Option CircuitTask
  time : Millis

/-- `INSERT … ON CONFLICT (provider_id) DO UPDATE SET …` -/
def persistCircuitSnapshot (providerId : Nat) (snapshot : CircuitSnapshot) (rows : List CircuitRow) :
    List CircuitRow :=
  match Rows.splitFirst (fun row => decide (row.providerId = providerId)) rows with
  | some (before, _, after) => before ++ ⟨providerId, snapshot⟩ :: after
  | none => rows ++ [⟨providerId, snapshot⟩]

/-- Which keys of a provider Redis loses. -/
structure Loss where
  snapshot : Nat → Bool
  probe : Nat → Bool

def Loss.apply (loss : Loss) (keys : Nat → CircuitKeys) (providerId : Nat) : CircuitKeys where
  snapshot := if loss.snapshot providerId then none else (keys providerId).snapshot
  probe := if loss.probe providerId then none else (keys providerId).probe

/-- The first statement of an execution, or the next one of an execution under way.  `computedAt` is when the process has
computed what a statement writes.  `setState` is a call of the SMPP connector, which writes no row.  An execution may end
anywhere, as when a statement fails (`crash`). -/
inductive CircuitsMove
  | registerFailure (task providerId : Nat) (reason : Option String)
  | registerSuccess (task providerId : Nat) (computedAt : Millis)
  | setCircuitState (task providerId : Nat) (state : CircuitState) (computedAt : Millis) (reason : Option String)
  | setState (providerId : Nat) (state : CircuitState) (ttlSeconds : Nat) (computedAt : Millis) (reason : Option String)
  | allowDispatch (task providerId : Nat)
  | onModuleInit (task : Nat) (rows : List CircuitRow)
  | proceed (task : Nat) (computedAt : Millis)
  | crash (task : Nat)
  | lose (loss : Loss)

structure CircuitsCall where
  now : Millis
  move : CircuitsMove

namespace Circuits

variable (config : CircuitBreakerConfig) (circuits : Circuits)

/-- Redis has these keys of the provider. -/
def store (providerId : Nat) (keys : CircuitKeys) : Circuits :=
  { circuits with keys := Function.update circuits.keys providerId keys }

def hold (task : Nat) (next : Option CircuitTask) : Circuits :=
  { circuits with tasks := Function.update circuits.tasks task next }

/-- The next statement of an execution. -/
def proceed (task : Nat) (computedAt : Millis) : CircuitTask → Option Circuits
  | .countFailure providerId read readAt reason =>
    if readAt ≤ computedAt ∧ computedAt ≤ circuits.time then
      let nextSnapshot := countFailure config computedAt read reason
      some ((circuits.store providerId
        (persistSnapshot config computedAt (circuits.keys providerId) circuits.time nextSnapshot)).hold task
          (some (.persist providerId nextSnapshot)))
    else none
  | .deleteProbe providerId snapshot =>
    some ((circuits.store providerId { circuits.keys providerId with probe := none }).hold task
      (some (.persist providerId snapshot)))
  | .persist providerId snapshot =>
    some (hold { circuits with rows := persistCircuitSnapshot providerId snapshot circuits.rows } task none)
  | .halfOpenWhenDue providerId read readAt =>
    if readAt ≤ computedAt ∧ computedAt ≤ circuits.time then
      if read.state = .opened ∧ read.nextProbeAt.any fun nextProbeAt => decide (nextProbeAt ≤ computedAt) then
        some ((circuits.store providerId (persistSnapshot config computedAt (circuits.keys providerId) circuits.time
          (halfOpenSnapshot config computedAt read))).hold task (some (.getLatest providerId)))
      else some (circuits.hold task (some (.getLatest providerId)))
    else none
  | .getLatest providerId =>
    let latest := getSnapshot circuits.time (circuits.keys providerId)
    some (circuits.hold task (if latest.state = .halfOpen then some (.grantProbe providerId) else none))
  | .grantProbe providerId =>
    let probe := ((circuits.keys providerId).probe.setNX circuits.time (config.halfOpenProbeSeconds * 1000) ()).2
    some ((circuits.store providerId { circuits.keys providerId with probe := probe }).hold task none)
  | .hydrate [] => some (circuits.hold task none)
  | .hydrate (row :: rows) =>
    -- a snapshot of Redis that is as recent stays
    if ((circuits.keys row.providerId).snapshot.get circuits.time).any fun existing =>
        decide (row.snapshot.lastChangedAt ≤ existing.lastChangedAt) then
      some (circuits.hold task (some (.hydrate rows)))
    else some (circuits.hold task (some (.hydrateRow row circuits.time rows)))
  | .hydrateRow row readAt rows =>
    if readAt ≤ computedAt ∧ computedAt ≤ circuits.time then
      some ((circuits.store row.providerId
        (persistSnapshot config computedAt (circuits.keys row.providerId) circuits.time row.snapshot)).hold task
          (some (.hydrate rows)))
    else none

/-- An execution that begins takes a number that no other has. -/
def enter (task : Nat) (entered : Circuits) : Option Circuits :=
  if (circuits.tasks task).isSome then none else some entered

def move : CircuitsMove → Option Circuits
  | .registerFailure task providerId reason =>
    circuits.enter task (circuits.hold task
      (some (.countFailure providerId (getSnapshot circuits.time (circuits.keys providerId)) circuits.time reason)))
  | .registerSuccess task providerId computedAt =>
    if computedAt ≤ circuits.time then
      let nextSnapshot := successSnapshot computedAt
      circuits.enter task ((circuits.store providerId
        (persistSnapshot config computedAt (circuits.keys providerId) circuits.time nextSnapshot)).hold task
          (some (.deleteProbe providerId nextSnapshot)))
    else none
  | .setCircuitState task providerId state computedAt reason =>
    if computedAt ≤ circuits.time then
      let written := setState config computedAt (circuits.keys providerId) circuits.time state config.openSeconds reason
      circuits.enter task ((circuits.store providerId written.2).hold task (some (.persist providerId written.1)))
    else none
  | .setState providerId state ttlSeconds computedAt reason =>
    if computedAt ≤ circuits.time then
      some (circuits.store providerId
        (setState config computedAt (circuits.keys providerId) circuits.time state ttlSeconds reason).2)
    else none
  | .allowDispatch task providerId =>
    let snapshot := getSnapshot circuits.time (circuits.keys providerId)
    circuits.enter task
      (if snapshot.state = .closed then circuits
      else circuits.hold task (some (.halfOpenWhenDue providerId snapshot circuits.time)))
  | .onModuleInit task rows =>
    -- the database delivers the rows in any order
    if rows.Perm (circuits.rows.filter fun row => circuits.isActive row.providerId) then
      circuits.enter task (circuits.hold task (some (.hydrate rows)))
    else none
  | .proceed task computedAt => (circuits.tasks task).bind (circuits.proceed config task computedAt)
  | .crash task => some (circuits.hold task none)
  | .lose loss => some { circuits with keys := loss.apply circuits.keys }

/-- Statements come at non-decreasing times. -/
def step (call : CircuitsCall) : Option Circuits :=
  if circuits.time ≤ call.now then move config { circuits with time := call.now } call.move else none

/-- Before the first call. -/
def start (isActive : Nat → Bool) (time : Millis) : Circuits where
  keys := fun _ => ⟨none, none⟩
  rows := []
  isActive := isActive
  tasks := fun _ => none
  time := time

end Circuits

/-- An answer of `allowDispatch`, at the time of the statement that decides it. -/
structure DispatchAnswer where
  providerId : Nat
  now : Millis
  allowed : Bool
  deriving DecidableEq

/-- The answer after a GET, unless the probe is still to be asked for. -/
def readAnswer (providerId : Nat) (now : Millis) (snapshot : CircuitSnapshot) : Option DispatchAnswer :=
  match snapshot.state with
  | .closed => some ⟨providerId, now, true⟩
  | .opened => some ⟨providerId, now, false⟩
  | .halfOpen => none

/-- What is written down beside a run. -/
def answered (config : CircuitBreakerConfig) (circuits : Circuits) (call : CircuitsCall) (_ : Circuits) :
    List DispatchAnswer :=
  match call.move with
  | .allowDispatch _ providerId =>
    let snapshot := getSnapshot call.now (circuits.keys providerId)
    if snapshot.state = .closed then [⟨providerId, call.now, true⟩] else []
  | .proceed task _ =>
    match circuits.tasks task with
    | some (.getLatest providerId) =>
      (readAnswer providerId call.now (getSnapshot call.now (circuits.keys providerId))).toList
    | some (.grantProbe providerId) =>
      [⟨providerId, call.now,
        ((circuits.keys providerId).probe.setNX call.now (config.halfOpenProbeSeconds * 1000) ()).1⟩]
    | _ => []
  | _ => []

/-! ### Times to live -/

/-- A snapshot that is not closed is kept until its next probe time. -/
def Lasting (cell : Cell CircuitSnapshot) : Prop :=
  ∀ (entry : Entry CircuitSnapshot) (nextProbeAt deadline : Int), cell = some entry → entry.value.state ≠ .closed →
    entry.value.nextProbeAt = some nextProbeAt → entry.deadline = some deadline → nextProbeAt ≤ deadline

section Lasting

variable {config : CircuitBreakerConfig} {now computedAt : Int} {keys : CircuitKeys} {snapshot : CircuitSnapshot}

theorem le_ceilSeconds (millis : Int) : millis ≤ ceilSeconds millis * 1000 := by
  unfold ceilSeconds
  omega

/-- The TTL of a snapshot that is not closed reaches to its next probe time. -/
theorem nextProbeAt_le_ttl {nextProbeAt : Int} (hclosed : snapshot.state ≠ .closed)
    (hnext : snapshot.nextProbeAt = some nextProbeAt) (hnow : computedAt ≤ now) :
    nextProbeAt ≤ now + calculateSnapshotTtlSeconds config computedAt snapshot * 1000 := by
  have hceil := le_ceilSeconds (nextProbeAt - computedAt)
  have hmax := le_max_right 1 (ceilSeconds (nextProbeAt - computedAt))
  unfold calculateSnapshotTtlSeconds
  rw [if_neg hclosed, hnext]
  dsimp only
  omega

theorem lasting_persist (hnow : computedAt ≤ now) :
    Lasting (persistSnapshot config computedAt keys now snapshot).snapshot := by
  rintro entry nextProbeAt deadline hentry hclosed hnext hdeadline
  cases hentry
  have hle := @nextProbeAt_le_ttl config now computedAt snapshot nextProbeAt hclosed hnext hnow
  have hsum : now + calculateSnapshotTtlSeconds config computedAt snapshot * 1000 = deadline :=
    Option.some.inj hdeadline
  omega

theorem lasting_setState {state : CircuitState} {ttlSeconds : Int} {reason : Option String} (hnow : computedAt ≤ now) :
    Lasting (setState config computedAt keys now state ttlSeconds reason).2.snapshot := by
  rintro entry nextProbeAt deadline hentry hclosed hnext hdeadline
  cases hentry
  have hle := @nextProbeAt_le_ttl config now computedAt (setStateSnapshot computedAt state ttlSeconds reason) nextProbeAt
    hclosed hnext hnow
  have hmax := le_max_right ttlSeconds
    (calculateSnapshotTtlSeconds config computedAt (setStateSnapshot computedAt state ttlSeconds reason))
  have hsum : now + max ttlSeconds
      (calculateSnapshotTtlSeconds config computedAt (setStateSnapshot computedAt state ttlSeconds reason)) * 1000 =
        deadline := Option.some.inj hdeadline
  omega

end Lasting

/-! ### The table -/

section Table

variable {providerId : Nat} {snapshot : CircuitSnapshot} {rows : List CircuitRow}

theorem keyed_persist (h : Rows.Keyed CircuitRow.providerId rows) :
    Rows.Keyed CircuitRow.providerId (persistCircuitSnapshot providerId snapshot rows) := by
  unfold persistCircuitSnapshot
  cases hsplit : Rows.splitFirst (fun row : CircuitRow => decide (row.providerId = providerId)) rows with
  | some found =>
    obtain ⟨before, row, after⟩ := found
    obtain ⟨hrows, hfound⟩ := Rows.eq_append_of_splitFirst hsplit
    rw [hrows] at h
    exact h.replace (of_decide_eq_true hfound).symm
  | none =>
    refine h.append_fresh fun row hrow => ?_
    exact of_decide_eq_false (Rows.splitFirst_eq_none.1 hsplit row hrow)

theorem mem_persist_self : ⟨providerId, snapshot⟩ ∈ persistCircuitSnapshot providerId snapshot rows := by
  unfold persistCircuitSnapshot
  cases Rows.splitFirst (fun row : CircuitRow => decide (row.providerId = providerId)) rows with
  | some found => simp
  | none => simp

theorem mem_persist_of_ne {row : CircuitRow} (h : row ∈ rows) (hne : row.providerId ≠ providerId) :
    row ∈ persistCircuitSnapshot providerId snapshot rows := by
  unfold persistCircuitSnapshot
  cases hsplit : Rows.splitFirst (fun row : CircuitRow => decide (row.providerId = providerId)) rows with
  | some found =>
    obtain ⟨before, old, after⟩ := found
    obtain ⟨hrows, hfound⟩ := Rows.eq_append_of_splitFirst hsplit
    rw [hrows] at h
    refine Rows.mem_replace_of_ne h ?_
    rintro rfl
    exact hne (of_decide_eq_true hfound)
  | none => exact List.mem_append_left _ h

end Table

/-! ### What always holds -/

/-- A snapshot that an execution still writes to the table: when it was computed, and its next probe time. -/
def CircuitTask.Dated (config : CircuitBreakerConfig) (time : Int) : CircuitTask → Prop
  | .persist _ snapshot => snapshot.lastChangedAt ≤ time ∧
      (snapshot.state = .opened → snapshot.nextProbeAt = some (snapshot.lastChangedAt + config.openSeconds * 1000))
  | .deleteProbe _ snapshot => snapshot.lastChangedAt ≤ time ∧ snapshot.state = .closed
  | _ => True

/-- What holds of the circuits at a time. -/
structure Circuits.Sound (config : CircuitBreakerConfig) (isActive : Nat → Bool) (time : Int) (circuits : Circuits) :
    Prop where
  time : circuits.time = time
  active : circuits.isActive = isActive
  keyed : Rows.Keyed CircuitRow.providerId circuits.rows
  lasting : ∀ providerId, Lasting (circuits.keys providerId).snapshot
  dated : ∀ task next, circuits.tasks task = some next → next.Dated config circuits.time

namespace Circuits

variable {config : CircuitBreakerConfig} {isActive : Nat → Bool} {circuits circuits' : Circuits} {task providerId : Nat}
  {time computedAt : Int}

theorem enter_eq_some {entered : Circuits} (h : circuits.enter task entered = some circuits') :
    circuits.tasks task = none ∧ entered = circuits' := by
  unfold enter at h
  cases htask : circuits.tasks task with
  | none =>
    rw [htask] at h
    exact ⟨rfl, Option.some.inj h⟩
  | some next =>
    rw [htask] at h
    cases h

/-- What the executions stand at after one of them has been set to another statement. -/
theorem of_hold {next : Option CircuitTask} {other : Nat} {held : CircuitTask}
    (h : (circuits.hold task next).tasks other = some held) :
    (other = task ∧ next = some held) ∨ (other ≠ task ∧ circuits.tasks other = some held) := by
  have hupdate : Function.update circuits.tasks task next other = some held := h
  by_cases hsame : other = task
  · subst hsame
    rw [Function.update_self] at hupdate
    exact .inl ⟨rfl, hupdate⟩
  · rw [Function.update_of_ne hsame] at hupdate
    exact .inr ⟨hsame, hupdate⟩

theorem Sound.later (h : circuits.Sound config isActive time) {now : Int} (hnow : circuits.time ≤ now) :
    Sound config isActive now { circuits with time := now } where
  time := rfl
  active := h.active
  keyed := h.keyed
  lasting := h.lasting
  dated := by
    intro task next hnext
    have hdated := h.dated task next hnext
    cases next with
    | persist => exact ⟨hdated.1.trans hnow, hdated.2⟩
    | deleteProbe => exact ⟨hdated.1.trans hnow, hdated.2⟩
    | _ => trivial

theorem Sound.hold (h : circuits.Sound config isActive time) (task : Nat) {next : Option CircuitTask}
    (hnext : ∀ held, next = some held → held.Dated config circuits.time) :
    (circuits.hold task next).Sound config isActive time where
  time := h.time
  active := h.active
  keyed := h.keyed
  lasting := h.lasting
  dated := by
    intro other held hheld
    rcases of_hold hheld with ⟨-, hheld⟩ | ⟨-, hheld⟩
    · exact hnext held hheld
    · exact h.dated other held hheld

theorem Sound.await (h : circuits.Sound config isActive time) (task : Nat) {next : CircuitTask}
    (hnext : next.Dated config circuits.time) : (circuits.hold task (some next)).Sound config isActive time := by
  refine h.hold task ?_
  rintro _ ⟨⟩
  exact hnext

theorem Sound.release (h : circuits.Sound config isActive time) (task : Nat) :
    (circuits.hold task none).Sound config isActive time := by
  refine h.hold task ?_
  rintro _ ⟨⟩

theorem Sound.store (h : circuits.Sound config isActive time) (providerId : Nat) {keys : CircuitKeys}
    (hkeys : Lasting keys.snapshot) :
    (circuits.store providerId keys).Sound config isActive time where
  time := h.time
  active := h.active
  keyed := h.keyed
  lasting := by
    intro other
    show Lasting (Function.update circuits.keys providerId keys other).snapshot
    by_cases hsame : other = providerId
    · subst hsame
      rw [Function.update_self]
      exact hkeys
    · rw [Function.update_of_ne hsame]
      exact h.lasting other
  dated := h.dated

theorem Sound.persist (h : circuits.Sound config isActive time) (providerId : Nat) (snapshot : CircuitSnapshot) :
    Sound config isActive time { circuits with rows := persistCircuitSnapshot providerId snapshot circuits.rows } where
  time := h.time
  active := h.active
  keyed := keyed_persist h.keyed
  lasting := h.lasting
  dated := h.dated

theorem dated_countFailure {read : CircuitSnapshot} {reason : Option String} (hnow : computedAt ≤ circuits.time) :
    (CircuitTask.persist providerId (countFailure config computedAt read reason)).Dated config circuits.time :=
  ⟨hnow, fun hopen => if_pos hopen⟩

theorem Sound.proceed (h : circuits.Sound config isActive time) {next : CircuitTask}
    (hnext : next.Dated config circuits.time)
    (hstep : circuits.proceed config task computedAt next = some circuits') : circuits'.Sound config isActive time := by
  unfold Circuits.proceed at hstep
  cases next with
  | countFailure providerId read readAt reason =>
    obtain ⟨⟨-, hnow⟩, hsome⟩ := Option.ite_none_right_eq_some.1 hstep
    obtain rfl := Option.some.inj hsome
    exact (h.store providerId (lasting_persist hnow)).await task (dated_countFailure hnow)
  | deleteProbe providerId snapshot =>
    obtain rfl := Option.some.inj hstep
    refine Sound.hold (Sound.store h providerId ?_) task ?_
    · exact h.lasting providerId
    · rintro _ ⟨⟩
      refine ⟨hnext.1, fun hopen => ?_⟩
      rw [hnext.2] at hopen
      cases hopen
  | persist providerId snapshot =>
    obtain rfl := Option.some.inj hstep
    exact (h.persist providerId snapshot).release task
  | halfOpenWhenDue providerId read readAt =>
    obtain ⟨⟨-, hnow⟩, hsome⟩ := Option.ite_none_right_eq_some.1 hstep
    split at hsome
    · obtain rfl := Option.some.inj hsome
      exact (h.store providerId (lasting_persist hnow)).await task trivial
    · obtain rfl := Option.some.inj hsome
      exact h.await task trivial
  | getLatest providerId =>
    obtain rfl := Option.some.inj hstep
    refine h.hold task fun held hheld => ?_
    obtain ⟨-, hheld⟩ := Option.ite_none_right_eq_some.1 hheld
    obtain rfl := Option.some.inj hheld
    trivial
  | grantProbe providerId =>
    obtain rfl := Option.some.inj hstep
    refine Sound.hold (Sound.store h providerId ?_) task ?_
    · exact h.lasting providerId
    · rintro _ ⟨⟩
  | hydrate rows =>
    cases rows with
    | nil =>
      obtain rfl := Option.some.inj hstep
      exact h.release task
    | cons row rows =>
      dsimp only at hstep
      split at hstep
      · obtain rfl := Option.some.inj hstep
        exact h.await task trivial
      · obtain rfl := Option.some.inj hstep
        exact h.await task trivial
  | hydrateRow row readAt rows =>
    obtain ⟨⟨-, hnow⟩, hsome⟩ := Option.ite_none_right_eq_some.1 hstep
    obtain rfl := Option.some.inj hsome
    exact (h.store row.providerId (lasting_persist hnow)).await task trivial

theorem dated_setState {state : CircuitState} {keys : CircuitKeys} {reason : Option String} {now : Int}
    (hnow : computedAt ≤ circuits.time) : (CircuitTask.persist providerId
      (setState config computedAt keys now state config.openSeconds reason).1).Dated config circuits.time :=
  ⟨hnow, fun hopen => if_pos hopen⟩

theorem Sound.move (h : circuits.Sound config isActive time) {move : CircuitsMove}
    (hstep : circuits.move config move = some circuits') : circuits'.Sound config isActive time := by
  unfold Circuits.move at hstep
  cases move with
  | registerFailure task providerId reason =>
    obtain ⟨-, rfl⟩ := enter_eq_some hstep
    exact h.await task trivial
  | registerSuccess task providerId computedAt =>
    obtain ⟨hnow, hstep⟩ := Option.ite_none_right_eq_some.1 hstep
    obtain ⟨-, rfl⟩ := enter_eq_some hstep
    exact (h.store providerId (lasting_persist hnow)).await task (⟨hnow, rfl⟩)
  | setCircuitState task providerId state computedAt reason =>
    obtain ⟨hnow, hstep⟩ := Option.ite_none_right_eq_some.1 hstep
    obtain ⟨-, rfl⟩ := enter_eq_some hstep
    exact (h.store providerId (lasting_setState hnow)).await task (dated_setState hnow)
  | setState providerId state ttlSeconds computedAt reason =>
    obtain ⟨hnow, hsome⟩ := Option.ite_none_right_eq_some.1 hstep
    obtain rfl := Option.some.inj hsome
    exact h.store providerId (lasting_setState hnow)
  | allowDispatch task providerId =>
    obtain ⟨-, rfl⟩ := enter_eq_some hstep
    split
    · exact h
    · refine h.hold task ?_
      rintro _ ⟨⟩
      trivial
  | onModuleInit task rows =>
    obtain ⟨-, hstep⟩ := Option.ite_none_right_eq_some.1 hstep
    obtain ⟨-, rfl⟩ := enter_eq_some hstep
    exact h.await task trivial
  | proceed task computedAt =>
    obtain ⟨next, hnext, hstep⟩ := Option.bind_eq_some_iff.1 hstep
    exact h.proceed (h.dated task next hnext) hstep
  | crash task =>
    obtain rfl := Option.some.inj hstep
    exact h.release task
  | lose loss =>
    obtain rfl := Option.some.inj hstep
    refine { h with lasting := fun providerId => ?_ }
    show Lasting (if loss.snapshot providerId then none else (circuits.keys providerId).snapshot)
    split
    · rintro _ _ _ ⟨⟩
    · exact h.lasting providerId

theorem step_eq_some {call : CircuitsCall} (h : circuits.step config call = some circuits') :
    circuits.time ≤ call.now ∧ Circuits.move config { circuits with time := call.now } call.move = some circuits' :=
  Option.ite_none_right_eq_some.1 h

theorem Sound.step (h : circuits.Sound config isActive time) {call : CircuitsCall}
    (hstep : circuits.step config call = some circuits') : circuits'.Sound config isActive call.now := by
  obtain ⟨hnow, hmove⟩ := step_eq_some hstep
  exact (h.later hnow).move hmove

theorem sound_of_reaches (h : Transition.Reaches (step config) (start isActive time) circuits) :
    circuits.Sound config isActive circuits.time := by
  refine h.invariant (P := fun circuits => circuits.Sound config isActive circuits.time) ?_ ?_
  · refine ⟨rfl, rfl, by simp [start, Rows.Keyed], fun providerId => ?_, fun task next hnext => ?_⟩
    · rintro _ _ _ ⟨⟩
    · cases hnext
  · intro circuits call circuits' hsound _ hstep
    have hsound' := hsound.step hstep
    rw [hsound'.time]
    exact hsound'

/-! ### Calls with nothing in between -/

/-- The keys of a provider are these, and nothing else has changed, but for what an execution stands at. -/
structure Leaves (task providerId : Nat) (circuits : Circuits) (keys : CircuitKeys) (next : Option CircuitTask)
    (circuits' : Circuits) : Prop where
  keys : circuits'.keys = Function.update circuits.keys providerId keys
  rows : circuits'.rows = circuits.rows
  time : circuits'.time = circuits.time
  task : circuits'.tasks task = next

theorem leaves_store (keys : CircuitKeys) (next : Option CircuitTask) :
    Leaves task providerId circuits keys next ((circuits.store providerId keys).hold task next) :=
  ⟨rfl, rfl, rfl, Function.update_self ..⟩

theorem leaves_hold (next : Option CircuitTask) :
    Leaves task providerId circuits (circuits.keys providerId) next (circuits.hold task next) :=
  ⟨(Function.update_eq_self ..).symm, rfl, rfl, Function.update_self ..⟩

theorem Leaves.trans {keys keys' : CircuitKeys} {next next' : Option CircuitTask} {circuits'' : Circuits}
    (h : Leaves task providerId circuits keys next circuits')
    (h' : Leaves task providerId circuits' keys' next' circuits'') :
    Leaves task providerId circuits keys' next' circuits'' where
  keys := by rw [h'.keys, h.keys, Function.update_idem]
  rows := h'.rows.trans h.rows
  time := h'.time.trans h.time
  task := h'.task

theorem step_now (move : CircuitsMove) : circuits.step config ⟨circuits.time, move⟩ = circuits.move config move :=
  if_pos (le_refl circuits.time)

theorem step_proceed (config : CircuitBreakerConfig) {next : CircuitTask} (h : circuits.tasks task = some next)
    (computedAt : Millis) :
    circuits.step config ⟨circuits.time, .proceed task computedAt⟩ = circuits.proceed config task computedAt next := by
  rw [step_now]
  show (circuits.tasks task).bind (circuits.proceed config task computedAt) = _
  rw [h, Option.bind_some]

theorem enter_free (h : circuits.tasks task = none) (entered : Circuits) :
    circuits.enter task entered = some entered := by
  unfold enter
  rw [h]
  rfl

/-- The GET and the SET of a failure with nothing in between are `registerFailure`. -/
theorem registerFailure_at_once (h : circuits.tasks task = none) (reason : Option String) :
    let failed := registerFailure config circuits.time (circuits.keys providerId) circuits.time reason
    ∃ written, Transition.execute (Circuits.step config) circuits
        [⟨circuits.time, .registerFailure task providerId reason⟩, ⟨circuits.time, .proceed task circuits.time⟩] =
          some written ∧
      Leaves task providerId circuits failed.2 (some (.persist providerId failed.1)) written := by
  intro failed
  have hread := @leaves_hold circuits task providerId
    (some (.countFailure providerId (getSnapshot circuits.time (circuits.keys providerId)) circuits.time reason))
  have hget : circuits.step config ⟨circuits.time, .registerFailure task providerId reason⟩ = some _ :=
    (step_now _).trans (enter_free h _)
  have hset := step_proceed config hread.task circuits.time
  refine ⟨_, ?_, hread.trans (leaves_store failed.2 (some (.persist providerId failed.1)))⟩
  rw [Transition.execute_cons hget]
  refine Transition.execute_cons (hset.trans ?_) []
  exact if_pos ⟨le_refl _, le_refl _⟩

/-- A statement of an execution of `allowDispatch` that nothing interrupts. -/
def AsksAtOnce (task providerId : Nat) (time : Millis) (call : CircuitsCall) : Prop :=
  call.now = time ∧ (call.move = .allowDispatch task providerId ∨ call.move = .proceed task time)

/-- The runs of such statements, with what they answer. -/
abbrev RunsAtOnce (config : CircuitBreakerConfig) (task providerId : Nat) (time : Millis) :
    Transition.Recorded Circuits DispatchAnswer → Transition.Recorded Circuits DispatchAnswer → Prop :=
  Transition.Runs (Transition.recorded (Circuits.step config) (answered config))
    fun _ call => AsksAtOnce task providerId time call

theorem runsAtOnce_one (record : List DispatchAnswer) {time : Millis} {call : CircuitsCall}
    {answers : List DispatchAnswer}
    (hown : AsksAtOnce task providerId time call) (hstep : circuits.step config call = some circuits')
    (hanswers : answered config circuits call circuits' = answers) :
    RunsAtOnce config task providerId time ⟨circuits, record⟩ ⟨circuits', record ++ answers⟩ := by
  refine .tail call .refl hown ?_
  unfold Transition.recorded
  rw [hstep, ← hanswers]
  rfl

/-- What `allowDispatch` does from its second GET on. -/
def answerLatest (config : CircuitBreakerConfig) (now : Millis) (keys : CircuitKeys) : Bool × CircuitKeys :=
  match (getSnapshot now keys).state with
  | .closed => (true, keys)
  | .opened => (false, keys)
  | .halfOpen =>
    ((keys.probe.setNX now (config.halfOpenProbeSeconds * 1000) ()).1,
      { keys with probe := (keys.probe.setNX now (config.halfOpenProbeSeconds * 1000) ()).2 })

theorem allowDispatch_eq (now : Millis) (keys : CircuitKeys) : allowDispatch config now keys =
    if (getSnapshot now keys).state = .closed then (true, keys)
    else answerLatest config now (halfOpenWhenDue config now keys) := by
  unfold allowDispatch answerLatest
  dsimp only
  cases (getSnapshot now (halfOpenWhenDue config now keys)).state <;> rfl

/-- The second GET, and the SET NX if it comes to it. -/
theorem getLatest_runs (config : CircuitBreakerConfig) (h : circuits.tasks task = some (.getLatest providerId))
    (record : List DispatchAnswer) :
    ∃ after, RunsAtOnce config task providerId circuits.time ⟨circuits, record⟩ after ∧
      after.record = record ++ [⟨providerId, circuits.time,
        (answerLatest config circuits.time (circuits.keys providerId)).1⟩] ∧
      Leaves task providerId circuits (answerLatest config circuits.time (circuits.keys providerId)).2 none
        after.state := by
  have hget : circuits.step config ⟨circuits.time, .proceed task circuits.time⟩ = some (circuits.hold task
      (if (getSnapshot circuits.time (circuits.keys providerId)).state = .halfOpen then some (.grantProbe providerId)
      else none)) := step_proceed config h circuits.time
  have hown : AsksAtOnce task providerId circuits.time ⟨circuits.time, .proceed task circuits.time⟩ := ⟨rfl, .inr rfl⟩
  have hrun := runsAtOnce_one record hown hget rfl
  unfold answered at hrun
  dsimp only at hrun
  rw [h] at hrun
  unfold readAnswer at hrun
  unfold answerLatest
  cases hlatest : (getSnapshot circuits.time (circuits.keys providerId)).state with
  | closed =>
    simp only [hlatest] at hrun
    exact ⟨_, hrun, rfl, leaves_hold none⟩
  | opened =>
    simp only [hlatest] at hrun
    exact ⟨_, hrun, rfl, leaves_hold none⟩
  | halfOpen =>
    simp only [hlatest, if_true] at hrun
    have hasked := @leaves_hold circuits task providerId (some (.grantProbe providerId))
    have hprobe := runsAtOnce_one (record ++ []) hown (step_proceed config hasked.task circuits.time) rfl
    unfold answered at hprobe
    dsimp only at hprobe
    rw [hasked.task] at hprobe
    refine ⟨_, hrun.trans hprobe, ?_, hasked.trans (leaves_store _ none)⟩
    rw [List.append_nil]
    rfl

/-- The half-opening with nothing between its GET and its SET, and what follows. -/
theorem halfOpenWhenDue_runs (config : CircuitBreakerConfig) (record : List DispatchAnswer) (h : circuits.tasks task =
      some (.halfOpenWhenDue providerId (getSnapshot circuits.time (circuits.keys providerId)) circuits.time)) :
    let keys := halfOpenWhenDue config circuits.time (circuits.keys providerId)
    ∃ after, RunsAtOnce config task providerId circuits.time ⟨circuits, record⟩ after ∧
      after.record = record ++ [⟨providerId, circuits.time, (answerLatest config circuits.time keys).1⟩] ∧
      Leaves task providerId circuits (answerLatest config circuits.time keys).2 none after.state := by
  intro keys
  obtain ⟨halved, hhalved, hleaves⟩ : ∃ halved, circuits.proceed config task circuits.time
      (.halfOpenWhenDue providerId (getSnapshot circuits.time (circuits.keys providerId)) circuits.time) = some halved ∧
      Leaves task providerId circuits keys (some (.getLatest providerId)) halved := by
    unfold Circuits.proceed keys CircuitBreaker.halfOpenWhenDue
    dsimp only
    rw [if_pos ⟨le_refl _, le_refl _⟩]
    split
    · exact ⟨_, rfl, leaves_store _ _⟩
    · exact ⟨_, rfl, leaves_hold _⟩
  have hown : AsksAtOnce task providerId circuits.time ⟨circuits.time, .proceed task circuits.time⟩ := ⟨rfl, .inr rfl⟩
  have hrun := runsAtOnce_one record hown ((step_proceed config h circuits.time).trans hhalved) rfl
  unfold answered at hrun
  dsimp only at hrun
  rw [h] at hrun
  dsimp only at hrun
  rw [List.append_nil] at hrun
  have hkeys : halved.keys providerId = keys := by
    rw [hleaves.keys, Function.update_self]
  obtain ⟨after, hafter, hrecord, hlast⟩ := getLatest_runs config hleaves.task record
  rw [hleaves.time] at hafter
  rw [hleaves.time, hkeys] at hrecord hlast
  exact ⟨after, hrun.trans hafter, hrecord, hleaves.trans hlast⟩

/-- The statements of `allowDispatch` with nothing in between give its answer and leave its keys. -/
theorem allowDispatch_at_once (h : circuits.tasks task = none) :
    let asked := allowDispatch config circuits.time (circuits.keys providerId)
    ∃ after, RunsAtOnce config task providerId circuits.time ⟨circuits, []⟩ after ∧
      after.record = [⟨providerId, circuits.time, asked.1⟩] ∧
      Leaves task providerId circuits asked.2 none after.state := by
  intro asked
  have hown : AsksAtOnce task providerId circuits.time ⟨circuits.time, .allowDispatch task providerId⟩ := ⟨rfl, .inl rfl⟩
  have hask : circuits.step config ⟨circuits.time, .allowDispatch task providerId⟩ = some _ :=
    (step_now _).trans (enter_free h _)
  have hrun := runsAtOnce_one [] hown hask rfl
  unfold answered at hrun
  dsimp only at hrun
  unfold asked
  rw [allowDispatch_eq]
  by_cases hclosed : (getSnapshot circuits.time (circuits.keys providerId)).state = .closed
  · simp only [if_pos hclosed] at hrun ⊢
    exact ⟨_, hrun, rfl, (Function.update_eq_self ..).symm, rfl, rfl, h⟩
  · simp only [if_neg hclosed] at hrun ⊢
    have hasked := @leaves_hold circuits task providerId
      (some (.halfOpenWhenDue providerId (getSnapshot circuits.time (circuits.keys providerId)) circuits.time))
    obtain ⟨after, hafter, hrecord, hlast⟩ := halfOpenWhenDue_runs config [] hasked.task
    exact ⟨after, hrun.trans hafter, hrecord, hasked.trans hlast⟩

end Circuits

end CircuitBreaker

end SmsPlatform
