import SmsPlatform.Lib.Expiring
import SmsPlatform.Lib.Runs

/-!
# The circuit breaker

`circuit-breaker.service.ts` for one provider: the snapshot and the probe key in Redis, both with a TTL.  A key whose
TTL has elapsed is missing, and a missing snapshot is read as a closed circuit.  `probes_only` says when an open circuit
is left through probes alone: as long as every call still finds the snapshot that was written last.

Times are milliseconds.  A call reads Redis and the clock at one time; what `registerFailure` writes may reach Redis
later (`setAt`).
-/

namespace SmsPlatform

open Expiring

abbrev Millis := Int

inductive CircuitState
  | closed | opened | halfOpen
  deriving DecidableEq, Repr

structure CircuitSnapshot where
  state : CircuitState
  failureCount : Nat
  successCount : Nat
  lastChangedAt : Millis
  nextProbeAt : Option Millis
  lastReason : Option String
  deriving DecidableEq

/-- The settings of the breaker, within the bounds of the configuration schema. -/
structure CircuitBreakerConfig where
  failureThreshold : Nat
  openSeconds : Nat
  halfOpenProbeSeconds : Nat
  failureThreshold_pos : 1 ≤ failureThreshold
  openSeconds_ge : 5 ≤ openSeconds
  halfOpenProbeSeconds_pos : 1 ≤ halfOpenProbeSeconds

/-- The two keys of a provider. -/
structure CircuitKeys where
  snapshot : Cell CircuitSnapshot
  probe : Cell Unit

namespace CircuitBreaker

section Service

variable (config : CircuitBreakerConfig) (now : Millis) (keys : CircuitKeys)

/-! ### The service -/

def defaultSnapshot : CircuitSnapshot where
  state := .closed
  failureCount := 0
  successCount := 0
  lastChangedAt := now
  nextProbeAt := none
  lastReason := none

/-- `Math.ceil(millis / 1000)`. -/
def ceilSeconds (millis : Int) : Int := (millis + 999) / 1000

def calculateSnapshotTtlSeconds (snapshot : CircuitSnapshot) : Int :=
  if snapshot.state = .closed then max config.openSeconds config.halfOpenProbeSeconds
  else
    match snapshot.nextProbeAt with
    | some nextProbeAt => max 1 (ceilSeconds (nextProbeAt - now))
    | none => if snapshot.state = .halfOpen then config.halfOpenProbeSeconds else config.openSeconds

/-- The TTL is computed at `now`; Redis counts it from `setAt`. -/
def persistSnapshot (setAt : Millis) (snapshot : CircuitSnapshot) : CircuitKeys :=
  { keys with snapshot := Cell.set setAt (calculateSnapshotTtlSeconds config now snapshot * 1000) snapshot }

def getSnapshot : CircuitSnapshot := (keys.snapshot.get now).getD (defaultSnapshot now)

/-- The snapshot that an operator or a connector asks for. -/
def setStateSnapshot (state : CircuitState) (ttlSeconds : Int) (reason : Option String) : CircuitSnapshot where
  state := state
  failureCount := if state = .closed then 0 else 1
  successCount := if state = .closed then 1 else 0
  lastChangedAt := now
  nextProbeAt := if state = .opened then some (now + ttlSeconds * 1000) else none
  lastReason := reason

/-- `ttlSeconds` is `openSeconds` where the caller gives none. -/
def setState (setAt : Millis) (state : CircuitState) (ttlSeconds : Int) (reason : Option String) :
    CircuitSnapshot × CircuitKeys :=
  let snapshot := setStateSnapshot now state ttlSeconds reason
  let ttl := max ttlSeconds (calculateSnapshotTtlSeconds config now snapshot)
  (snapshot, { keys with snapshot := Cell.set setAt (ttl * 1000) snapshot })

/-- What `registerFailure` makes of the snapshot it has read. -/
def countFailure (snapshot : CircuitSnapshot) (reason : Option String) : CircuitSnapshot :=
  let failureCount := snapshot.failureCount + 1
  let nextState := if config.failureThreshold ≤ failureCount then .opened else snapshot.state
  { state := nextState
    failureCount := failureCount
    successCount := 0
    lastChangedAt := now
    nextProbeAt := if nextState = .opened then some (now + config.openSeconds * 1000) else snapshot.nextProbeAt
    lastReason := reason }

/-- The snapshot that a failure leaves. -/
def failureSnapshot (reason : Option String) : CircuitSnapshot := countFailure config now (getSnapshot now keys) reason

def registerFailure (setAt : Millis) (reason : Option String) : CircuitSnapshot × CircuitKeys :=
  let nextSnapshot := failureSnapshot config now keys reason
  (nextSnapshot, persistSnapshot config now keys setAt nextSnapshot)

/-- The snapshot that a success leaves. -/
def successSnapshot : CircuitSnapshot where
  state := .closed
  failureCount := 0
  successCount := 1
  lastChangedAt := now
  nextProbeAt := none
  lastReason := none

def registerSuccess : CircuitSnapshot × CircuitKeys :=
  let nextSnapshot := successSnapshot now
  (nextSnapshot, { persistSnapshot config now keys now nextSnapshot with probe := none })

/-- The snapshot that lets probes through. -/
def halfOpenSnapshot (snapshot : CircuitSnapshot) : CircuitSnapshot :=
  { snapshot with
    state := .halfOpen
    lastChangedAt := now
    nextProbeAt := some (now + config.halfOpenProbeSeconds * 1000) }

/-- The first half of `allowDispatch`: an open circuit whose time has come is half-opened. -/
def halfOpenWhenDue : CircuitKeys :=
  let snapshot := getSnapshot now keys
  if snapshot.state = .opened ∧ snapshot.nextProbeAt.any fun nextProbeAt => decide (nextProbeAt ≤ now) then
    persistSnapshot config now keys now (halfOpenSnapshot config now snapshot)
  else keys

def allowDispatch : Bool × CircuitKeys :=
  let snapshot := getSnapshot now keys
  if snapshot.state = .closed then (true, keys)
  else
    let keys := halfOpenWhenDue config now keys
    let latest := getSnapshot now keys
    if latest.state = .closed then (true, keys)
    else if latest.state = .opened then (false, keys)
    else
      let (probeGranted, probe) := keys.probe.setNX now (config.halfOpenProbeSeconds * 1000) ()
      (probeGranted, { keys with probe := probe })

end Service

/-! ### What the calls do -/

section Calls

variable (config : CircuitBreakerConfig) {now : Millis} {keys : CircuitKeys}

theorem ttl_pos (now : Millis) (snapshot : CircuitSnapshot) : 0 < calculateSnapshotTtlSeconds config now snapshot := by
  have hopen := config.openSeconds_ge
  have hprobe := config.halfOpenProbeSeconds_pos
  unfold calculateSnapshotTtlSeconds
  split
  · omega
  · cases snapshot.nextProbeAt with
    | some nextProbeAt => exact Int.lt_of_lt_of_le Int.one_pos (le_max_left _ _)
    | none =>
      dsimp only
      split <;> omega

/-- What was written is read back at once. -/
theorem getSnapshot_persist (setAt : Millis) (snapshot : CircuitSnapshot) :
    getSnapshot setAt (persistSnapshot config now keys setAt snapshot) = snapshot := by
  have hpos := ttl_pos config now snapshot
  have hget : (persistSnapshot config now keys setAt snapshot).snapshot.get setAt = some snapshot :=
    Cell.get_set (by omega)
  unfold getSnapshot
  rw [hget]
  rfl

/-- The next step of an open circuit that is due: half-open it and ask for the probe. -/
def probeWhenDue (now : Millis) (keys : CircuitKeys) (snapshot : CircuitSnapshot) : Bool × CircuitKeys :=
  ((keys.probe.setNX now (config.halfOpenProbeSeconds * 1000) ()).1,
    { persistSnapshot config now keys now (halfOpenSnapshot config now snapshot) with
      probe := (keys.probe.setNX now (config.halfOpenProbeSeconds * 1000) ()).2 })

/-- Everything `allowDispatch` can do with a snapshot that is not closed. -/
theorem allowDispatch_cases {snapshot : CircuitSnapshot} (hget : keys.snapshot.get now = some snapshot)
    (hclosed : snapshot.state ≠ .closed) :
    (snapshot.state = .opened ∧ (∀ nextProbeAt, snapshot.nextProbeAt = some nextProbeAt → now < nextProbeAt) ∧
        allowDispatch config now keys = (false, keys)) ∨
      (snapshot.state = .opened ∧ (∃ nextProbeAt, snapshot.nextProbeAt = some nextProbeAt ∧ nextProbeAt ≤ now) ∧
        allowDispatch config now keys = probeWhenDue config now keys snapshot) ∨
      (snapshot.state = .halfOpen ∧ allowDispatch config now keys =
        ((keys.probe.setNX now (config.halfOpenProbeSeconds * 1000) ()).1,
          { keys with probe := (keys.probe.setNX now (config.halfOpenProbeSeconds * 1000) ()).2 })) := by
  have hsnapshot : getSnapshot now keys = snapshot := by
    unfold getSnapshot
    rw [hget]
    rfl
  unfold allowDispatch
  dsimp only
  rw [hsnapshot, if_neg hclosed]
  by_cases hopen : snapshot.state = .opened
  · by_cases hdue : snapshot.nextProbeAt.any (fun nextProbeAt => decide (nextProbeAt ≤ now)) = true
    · right; left
      have hkeys : halfOpenWhenDue config now keys =
          persistSnapshot config now keys now (halfOpenSnapshot config now snapshot) := by
        unfold halfOpenWhenDue
        dsimp only
        rw [hsnapshot, if_pos ⟨hopen, hdue⟩]
      refine ⟨hopen, ?_, ?_⟩
      · obtain ⟨nextProbeAt, hnext, hle⟩ := (Option.any_eq_true _ _).1 hdue
        exact ⟨nextProbeAt, hnext, by simpa using hle⟩
      · rw [hkeys, getSnapshot_persist]
        rfl
    · left
      have hkeys : halfOpenWhenDue config now keys = keys := by
        unfold halfOpenWhenDue
        dsimp only
        rw [hsnapshot, if_neg fun h => hdue h.2]
      refine ⟨hopen, ?_, ?_⟩
      · intro nextProbeAt hnext
        rw [hnext] at hdue
        simpa using hdue
      · rw [hkeys, hsnapshot, if_neg hclosed, if_pos hopen]
  · right; right
    have hhalf : snapshot.state = .halfOpen := by
      cases h : snapshot.state with
      | closed => exact absurd h hclosed
      | opened => exact absurd h hopen
      | halfOpen => rfl
    have hkeys : halfOpenWhenDue config now keys = keys := by
      unfold halfOpenWhenDue
      dsimp only
      rw [hsnapshot, if_neg fun h => hopen h.1]
    rw [hkeys, hsnapshot, if_neg hclosed, if_neg hopen]
    exact ⟨hhalf, rfl⟩

/-- A failure never closes a circuit. -/
theorem failureSnapshot_state {snapshot : CircuitSnapshot} (hget : keys.snapshot.get now = some snapshot)
    (reason : Option String) :
    (failureSnapshot config now keys reason).state = .opened ∨
      ((failureSnapshot config now keys reason).state = snapshot.state ∧ snapshot.state ≠ .opened) := by
  have hsnapshot : getSnapshot now keys = snapshot := by
    unfold getSnapshot
    rw [hget]
    rfl
  unfold failureSnapshot countFailure
  dsimp only
  rw [hsnapshot]
  by_cases hthreshold : config.failureThreshold ≤ snapshot.failureCount + 1
  · rw [if_pos hthreshold]
    exact .inl rfl
  · rw [if_neg hthreshold]
    by_cases hopen : snapshot.state = .opened
    · exact .inl hopen
    · exact .inr ⟨rfl, hopen⟩

theorem failureSnapshot_nextProbeAt {reason : Option String}
    (hopen : (failureSnapshot config now keys reason).state = .opened) :
    (failureSnapshot config now keys reason).nextProbeAt = some (now + config.openSeconds * 1000) :=
  if_pos hopen

end Calls

/-! ### An open circuit -/

inductive Call
  | registerFailure (now setAt : Millis) (reason : Option String)
  | allowDispatch (now : Millis)

def Call.now : Call → Millis
  | .registerFailure now _ _ => now
  | .allowDispatch now => now

/-- An answer of `allowDispatch`, with the next probe time that was in force. -/
structure Answer where
  now : Millis
  allowed : Bool
  nextProbeAt : Millis
  deriving DecidableEq

/-- A circuit from the moment `registerFailure` has returned an open snapshot, until `registerSuccess` or `setState`:
the keys, the time, the next probe time of the last open snapshot returned, and the answers so far, the last one
first. -/
structure OpenCircuit where
  keys : CircuitKeys
  time : Millis
  nextProbeAt : Millis
  answers : List Answer

/-- The circuit after a call of `registerFailure` that returned an open snapshot. -/
def OpenCircuit.start (config : CircuitBreakerConfig) (now setAt : Millis) (keys : CircuitKeys)
    (reason : Option String) : OpenCircuit where
  keys := (registerFailure config now keys setAt reason).2
  time := setAt
  nextProbeAt := now + config.openSeconds * 1000
  answers := []

/-- One call; calls come at non-decreasing times. -/
def OpenCircuit.step (config : CircuitBreakerConfig) (circuit : OpenCircuit) : Call → Option OpenCircuit
  | .registerFailure now setAt reason =>
    if circuit.time ≤ now ∧ now ≤ setAt then
      let (snapshot, keys) := registerFailure config now circuit.keys setAt reason
      some { circuit with
        keys := keys
        time := setAt
        nextProbeAt := if snapshot.state = .opened then snapshot.nextProbeAt.getD circuit.nextProbeAt
          else circuit.nextProbeAt }
    else none
  | .allowDispatch now =>
    if circuit.time ≤ now then
      let (allowed, keys) := allowDispatch config now circuit.keys
      some { circuit with
        keys := keys
        time := now
        answers := ⟨now, allowed, circuit.nextProbeAt⟩ :: circuit.answers }
    else none

/-- A later and an earlier answer do not both let a dispatch through within the time of a probe. -/
def Apart (config : CircuitBreakerConfig) (later earlier : Answer) : Prop :=
  later.allowed = true → earlier.allowed = true → earlier.now + config.halfOpenProbeSeconds * 1000 ≤ later.now

/-- No dispatch was let through before the next probe time, and those let through are probes. -/
structure OpenCircuit.ProbesOnly (config : CircuitBreakerConfig) (circuit : OpenCircuit) : Prop where
  waits : ∀ answer ∈ circuit.answers, answer.allowed = true → answer.nextProbeAt ≤ answer.now
  apart : circuit.answers.Pairwise (Apart config)

/-- The call finds the snapshot that was written last: its TTL has not elapsed. -/
def findsSnapshot (circuit : OpenCircuit) (call : Call) : Bool := (circuit.keys.snapshot.get call.now).isSome

/-- What holds while every call finds a snapshot: it is not closed, an open one carries the next probe time, and the
probe key is held for every dispatch that was let through. -/
structure OpenCircuit.Guarded (config : CircuitBreakerConfig) (circuit : OpenCircuit) : Prop where
  notClosed : ∀ entry, circuit.keys.snapshot = some entry → entry.value.state ≠ .closed
  waiting : ∀ entry, circuit.keys.snapshot = some entry → entry.value.state = .opened →
    entry.value.nextProbeAt = some circuit.nextProbeAt
  due : ∀ entry, circuit.keys.snapshot = some entry → entry.value.state = .halfOpen →
    circuit.nextProbeAt ≤ circuit.time
  held : ∀ answer ∈ circuit.answers, answer.allowed = true →
    circuit.keys.probe.HeldUntil (answer.now + config.halfOpenProbeSeconds * 1000)
  probes : circuit.ProbesOnly config

namespace OpenCircuit

variable {config : CircuitBreakerConfig}

theorem Guarded.start {now setAt : Millis} {keys : CircuitKeys} {reason : Option String}
    (hopen : (registerFailure config now keys setAt reason).1.state = .opened) :
    Guarded config (OpenCircuit.start config now setAt keys reason) := by
  have hsnapshot : ∀ entry, (OpenCircuit.start config now setAt keys reason).keys.snapshot = some entry →
      entry.value = failureSnapshot config now keys reason := by
    intro entry hentry
    cases hentry
    rfl
  have hstate : (failureSnapshot config now keys reason).state = .opened := hopen
  refine ⟨?_, ?_, ?_, ?_, ?_, ?_⟩
  · intro entry hentry hclosed
    rw [hsnapshot entry hentry, hstate] at hclosed
    cases hclosed
  · intro entry hentry _
    rw [hsnapshot entry hentry]
    exact failureSnapshot_nextProbeAt config hstate
  · intro entry hentry hhalf
    rw [hsnapshot entry hentry, hstate] at hhalf
    cases hhalf
  · intro answer h
    cases h
  · intro answer h
    cases h
  · exact List.Pairwise.nil

/-- A failure leaves the circuit open, or half-open as it was. -/
theorem Guarded.registerFailure {circuit : OpenCircuit} (h : circuit.Guarded config) {now setAt : Millis}
    (hnow : circuit.time ≤ now) (hset : now ≤ setAt) {snapshot : CircuitSnapshot}
    (hget : circuit.keys.snapshot.get now = some snapshot) (reason : Option String) :
    Guarded config { circuit with
      keys := (CircuitBreaker.registerFailure config now circuit.keys setAt reason).2
      time := setAt
      nextProbeAt := if (failureSnapshot config now circuit.keys reason).state = .opened then
        (failureSnapshot config now circuit.keys reason).nextProbeAt.getD circuit.nextProbeAt
        else circuit.nextProbeAt } := by
  obtain ⟨entry, hentry, hvalue, -⟩ := Cell.get_eq_some.1 hget
  subst hvalue
  have hwritten : ∀ written, (CircuitBreaker.registerFailure config now circuit.keys setAt reason).2.snapshot =
      some written → written.value = failureSnapshot config now circuit.keys reason := by
    intro written hw
    cases hw
    rfl
  have hstate := failureSnapshot_state config hget reason
  refine ⟨?_, ?_, ?_, h.held, h.probes.waits, h.probes.apart⟩
  · intro written hw hclosed
    rw [hwritten written hw] at hclosed
    rcases hstate with hopen | ⟨hsame, -⟩
    · rw [hopen] at hclosed
      cases hclosed
    · rw [hsame] at hclosed
      exact h.notClosed entry hentry hclosed
  · intro written hw hopen
    rw [hwritten written hw] at hopen ⊢
    dsimp only
    rw [if_pos hopen, failureSnapshot_nextProbeAt config hopen]
    rfl
  · intro written hw hhalf
    rw [hwritten written hw] at hhalf
    have hnot : (failureSnapshot config now circuit.keys reason).state ≠ .opened := by
      rw [hhalf]
      decide
    rcases hstate with hopen | ⟨hsame, -⟩
    · exact absurd hopen hnot
    · rw [hsame] at hhalf
      have hdue := h.due entry hentry hhalf
      dsimp only
      rw [if_neg hnot]
      exact (hdue.trans hnow).trans hset

/-- An answer, when the snapshot it is based on may have been half-opened and the probe key asked for. -/
theorem Guarded.answer {circuit : OpenCircuit} (h : circuit.Guarded config) {now : Millis}
    {cell : Cell CircuitSnapshot} (hcell : ∀ entry, cell = some entry → entry.value.state = .halfOpen)
    (hdue : circuit.nextProbeAt ≤ now) :
    Guarded config { circuit with
      keys := ⟨cell, (circuit.keys.probe.setNX now (config.halfOpenProbeSeconds * 1000) ()).2⟩
      time := now
      answers := ⟨now, (circuit.keys.probe.setNX now (config.halfOpenProbeSeconds * 1000) ()).1,
        circuit.nextProbeAt⟩ :: circuit.answers } := by
  refine ⟨?_, ?_, ?_, ?_, ?_, ?_⟩
  · intro entry hentry hclosed
    rw [hcell entry hentry] at hclosed
    cases hclosed
  · intro entry hentry hopen
    rw [hcell entry hentry] at hopen
    cases hopen
  · intro entry hentry _
    exact hdue
  · intro answer ha hallowed
    rcases List.mem_cons.1 ha with rfl | ha
    · exact Cell.heldUntil_of_setNX hallowed
    · exact (h.held answer ha hallowed).setNX (by omega)
  · intro answer ha hallowed
    rcases List.mem_cons.1 ha with rfl | ha
    · exact hdue
    · exact h.probes.waits answer ha hallowed
  · refine List.Pairwise.cons ?_ h.probes.apart
    -- a dispatch let through earlier still holds the probe key
    intro earlier he hlater hearlier
    exact (h.held earlier he hearlier).le_of_setNX hlater

theorem Guarded.step {circuit circuit' : OpenCircuit} {call : Call} (h : circuit.Guarded config)
    (hfinds : findsSnapshot circuit call = true) (hstep : circuit.step config call = some circuit') :
    circuit'.Guarded config := by
  obtain ⟨snapshot, hget⟩ := Option.isSome_iff_exists.1 hfinds
  obtain ⟨entry, hentry, hvalue, -⟩ := Cell.get_eq_some.1 hget
  subst hvalue
  cases call with
  | registerFailure now setAt reason =>
    unfold OpenCircuit.step at hstep
    dsimp only at hstep
    split at hstep
    · rename_i htime
      cases hstep
      exact h.registerFailure htime.1 htime.2 hget reason
    · cases hstep
  | allowDispatch now =>
    unfold OpenCircuit.step at hstep
    dsimp only at hstep
    split at hstep
    · rename_i hnow
      cases hstep
      have hget : circuit.keys.snapshot.get now = some entry.value := hget
      rcases allowDispatch_cases config hget (h.notClosed entry hentry) with
        ⟨hopen, hwait, hanswer⟩ | ⟨hopen, ⟨nextProbeAt, hnext, hle⟩, hanswer⟩ | ⟨hhalf, hanswer⟩
      · rw [hanswer]
        refine ⟨h.notClosed, h.waiting, ?_, ?_, ?_, ?_⟩
        · intro entry' hentry' hhalf
          exact (h.due entry' hentry' hhalf).trans hnow
        · intro answer ha hallowed
          rcases List.mem_cons.1 ha with rfl | ha
          · cases hallowed
          · exact h.held answer ha hallowed
        · intro answer ha hallowed
          rcases List.mem_cons.1 ha with rfl | ha
          · cases hallowed
          · exact h.probes.waits answer ha hallowed
        · refine List.Pairwise.cons ?_ h.probes.apart
          intro earlier _ hlater
          cases hlater
      · rw [hanswer]
        have hdue : circuit.nextProbeAt ≤ now := by
          rw [h.waiting entry hentry hopen] at hnext
          cases hnext
          exact hle
        refine h.answer ?_ hdue
        intro written hw
        cases hw
        rfl
      · rw [hanswer]
        have hdue := h.due entry hentry hhalf
        refine h.answer ?_ (hdue.trans hnow)
        intro entry' hentry'
        have hsame : entry' = entry := Option.some.inj (hentry'.symm.trans hentry)
        rw [hsame]
        exact hhalf
    · cases hstep

end OpenCircuit

/-- While every call finds a snapshot, an open circuit lets nothing through before its next probe time and only single
probes from then on. -/
theorem probes_only {config : CircuitBreakerConfig} {now setAt : Millis} {keys : CircuitKeys} {reason : Option String}
    {circuit : OpenCircuit} (hopen : (registerFailure config now keys setAt reason).1.state = .opened)
    (h : Transition.Runs (OpenCircuit.step config) (fun circuit call => findsSnapshot circuit call = true)
      (OpenCircuit.start config now setAt keys reason) circuit) : circuit.ProbesOnly config := by
  have hguarded : circuit.Guarded config :=
    h.invariant (OpenCircuit.Guarded.start hopen) fun _ _ _ hg hfinds hstep => hg.step hfinds hstep
  exact hguarded.probes

/-! ### Runs of a small circuit -/

namespace Sample

/-- The breaker with the shortest times the schema allows: it opens at the first failure. -/
def config : CircuitBreakerConfig where
  failureThreshold := 1
  openSeconds := 5
  halfOpenProbeSeconds := 1
  failureThreshold_pos := by decide
  openSeconds_ge := by decide
  halfOpenProbeSeconds_pos := by decide

def noKeys : CircuitKeys := ⟨none, none⟩

/-- The failure at 0 reached Redis at 2: at 5001 the snapshot is still there. -/
def probed : List Call := [.allowDispatch 4999, .allowDispatch 5001, .allowDispatch 5001]

/-- The failure reached Redis at once: at 5000 the snapshot is gone. -/
def expired : List Call := [.allowDispatch 5000, .allowDispatch 5000]

end Sample

theorem probes_only_probed : ∃ circuit, Transition.Runs (OpenCircuit.step Sample.config)
    (fun circuit call => findsSnapshot circuit call = true)
    (OpenCircuit.start Sample.config 0 2 Sample.noKeys none) circuit ∧
      (circuit.answers.map Answer.allowed = [false, true, false] ∧ circuit.ProbesOnly Sample.config) := by
  have h : (Transition.execute (Transition.guarded (OpenCircuit.step Sample.config) findsSnapshot)
      (OpenCircuit.start Sample.config 0 2 Sample.noKeys none) Sample.probed).any
      (fun circuit => decide (circuit.answers.map Answer.allowed = [false, true, false])) = true := by
    decide +kernel
  obtain ⟨circuit, hrun, hanswers⟩ := (Option.any_eq_true _ _).1 h
  have hruns := Transition.runs_of_execute hrun
  exact ⟨circuit, hruns, of_decide_eq_true hanswers, probes_only (by decide +kernel) hruns⟩

/-- The circuit goes from open to letting every dispatch through: two dispatches at the same time, without a probe. -/
theorem open_circuit_expires :
    (registerFailure Sample.config 0 Sample.noKeys 0 none).1.state = .opened ∧
      ∃ circuit, Transition.Reaches (OpenCircuit.step Sample.config)
        (OpenCircuit.start Sample.config 0 0 Sample.noKeys none) circuit ∧ ¬ circuit.ProbesOnly Sample.config := by
  refine ⟨by decide +kernel, ?_⟩
  have h : (Transition.execute (OpenCircuit.step Sample.config)
      (OpenCircuit.start Sample.config 0 0 Sample.noKeys none) Sample.expired).any
      (fun circuit => decide (circuit.answers = [⟨5000, true, 5000⟩, ⟨5000, true, 5000⟩])) = true := by
    decide +kernel
  obtain ⟨circuit, hrun, hanswers⟩ := (Option.any_eq_true _ _).1 h
  refine ⟨circuit, Transition.reaches_of_execute hrun, fun hprobes => ?_⟩
  have hapart := hprobes.apart
  rw [of_decide_eq_true hanswers, List.pairwise_pair] at hapart
  exact absurd (hapart rfl rfl) (by decide)

end CircuitBreaker

end SmsPlatform
