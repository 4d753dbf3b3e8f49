import SmsPlatform.Redis.FailureCounting

/-!
# Failed probes

A half-open circuit lets a probe through, and a failure of the probe should open it again.  `registerFailure` opens a
circuit whose failure count reaches the threshold, whatever its state.  A circuit that was opened by failures carries
such a count through the probe; one that `setState` has opened or half-opened carries a count of one.
`failed_probe_reopens` says when this is enough.

Any number of processes may be between reading a snapshot and writing what they have made of it.
-/

namespace SmsPlatform

open Expiring

namespace CircuitBreaker

/-- What a process has computed from a snapshot and has not written yet. -/
structure PendingWrite where
  call : Nat
  snapshot : CircuitSnapshot
  computedAt : Millis

/-- The keys of a provider, and the calls that are between their read and their write. -/
structure Breaker where
  keys : CircuitKeys
  pending : List PendingWrite

/-- What the processes do.  `setAt` is the time at which a write reaches Redis. -/
inductive BreakerAction
  | readForFailure (call : Nat) (now : Millis) (reason : Option String)
  | readForDispatch (call : Nat) (now : Millis)
  | askProbe (now : Millis)
  | write (call : Nat) (setAt : Millis)
  | registerSuccess (now : Millis)
  | setState (now setAt : Millis) (state : CircuitState) (ttlSeconds : Int) (reason : Option String)

namespace Breaker

def start : Breaker := ⟨⟨none, none⟩, []⟩

variable (config : CircuitBreakerConfig)

/-- `registerFailure` and the half-opening of `allowDispatch` are cut between their read and their write. -/
def step (breaker : Breaker) : BreakerAction → Option Breaker
  | .readForFailure call now reason =>
    some { breaker with
      pending := ⟨call, countFailure config now (getSnapshot now breaker.keys) reason, now⟩ :: breaker.pending }
  | .readForDispatch call now =>
    let snapshot := getSnapshot now breaker.keys
    if snapshot.state = .opened ∧ snapshot.nextProbeAt.any fun nextProbeAt => decide (nextProbeAt ≤ now) then
      some { breaker with pending := ⟨call, halfOpenSnapshot config now snapshot, now⟩ :: breaker.pending }
    else some breaker
  | .askProbe now =>
    let latest := getSnapshot now breaker.keys
    if latest.state = .halfOpen then
      some { breaker with keys := { breaker.keys with
        probe := (breaker.keys.probe.setNX now (config.halfOpenProbeSeconds * 1000) ()).2 } }
    else some breaker
  | .write call setAt =>
    match breaker.pending.find? fun held => held.call == call with
    | some held =>
      some {
        keys := persistSnapshot config held.computedAt breaker.keys setAt held.snapshot
        pending := breaker.pending.filter fun other => other.call != call }
    | none => none
  | .registerSuccess now => some { breaker with keys := (registerSuccess config now breaker.keys).2 }
  | .setState now setAt state ttlSeconds reason =>
    some { breaker with keys := (setState config now breaker.keys setAt state ttlSeconds reason).2 }

/-- The circuit is not set open or half-open by hand, unless two failures are enough to open it. -/
def CountsFailures (_breaker : Breaker) : BreakerAction → Prop
  | .setState _ _ state _ _ => state = .closed ∨ config.failureThreshold ≤ 2
  | _ => True

/-- A failure of a half-open circuit stores it open, with the next probe after the time of an open circuit. -/
def Reopens (breaker : Breaker) : Prop :=
  ∀ now setAt reason, (getSnapshot now breaker.keys).state = .halfOpen →
    let failed := registerFailure config now breaker.keys setAt reason
    getSnapshot setAt failed.2 = failed.1 ∧ failed.1.state = .opened ∧
      failed.1.nextProbeAt = some (now + config.openSeconds * 1000)

end Breaker

/-! ### What the snapshots of a circuit carry -/

section Snapshots

variable (config : CircuitBreakerConfig)

/-- One more failure opens the circuit if it is not closed. -/
def OneFailureOpens (snapshot : CircuitSnapshot) : Prop :=
  snapshot.state ≠ .closed → config.failureThreshold ≤ snapshot.failureCount + 1

variable {config}

theorem OneFailureOpens.closed {snapshot : CircuitSnapshot} (h : snapshot.state = .closed) :
    OneFailureOpens config snapshot :=
  fun hopen => absurd h hopen

theorem OneFailureOpens.countFailure {snapshot : CircuitSnapshot} (h : OneFailureOpens config snapshot)
    (now : Millis) (reason : Option String) :
    OneFailureOpens config (CircuitBreaker.countFailure config now snapshot reason) := by
  intro hopen
  unfold CircuitBreaker.countFailure at hopen ⊢
  dsimp only at hopen ⊢
  by_cases hthreshold : config.failureThreshold ≤ snapshot.failureCount + 1
  · omega
  · rw [if_neg hthreshold] at hopen
    have := h hopen
    omega

theorem OneFailureOpens.halfOpen {snapshot : CircuitSnapshot} (h : OneFailureOpens config snapshot)
    (hopen : snapshot.state = .opened) (now : Millis) :
    OneFailureOpens config (halfOpenSnapshot config now snapshot) := by
  intro _
  refine h ?_
  rw [hopen]
  exact CircuitState.noConfusion

theorem OneFailureOpens.setState {state : CircuitState} (h : state = .closed ∨ config.failureThreshold ≤ 2)
    (now : Millis) (ttlSeconds : Int) (reason : Option String) :
    OneFailureOpens config (setStateSnapshot now state ttlSeconds reason) := by
  rcases h with hclosed | hfew
  · exact .closed hclosed
  · intro hopen
    have hcount : (setStateSnapshot now state ttlSeconds reason).failureCount = 1 := if_neg hopen
    omega

/-- A failure of a half-open circuit opens it if and only if it is the last that was missing. -/
theorem countFailure_opens_iff {snapshot : CircuitSnapshot} (hhalf : snapshot.state = .halfOpen) (now : Millis)
    (reason : Option String) :
    (countFailure config now snapshot reason).state = .opened ↔
      config.failureThreshold ≤ snapshot.failureCount + 1 := by
  unfold countFailure
  dsimp only
  by_cases hthreshold : config.failureThreshold ≤ snapshot.failureCount + 1
  · rw [if_pos hthreshold]
    exact iff_of_true rfl hthreshold
  · rw [if_neg hthreshold, hhalf]
    exact iff_of_false CircuitState.noConfusion hthreshold

theorem registerFailure_eq (now setAt : Millis) (keys : CircuitKeys) (reason : Option String) :
    (registerFailure config now keys setAt reason).1 = countFailure config now (getSnapshot now keys) reason := rfl

end Snapshots

/-! ### Runs -/

namespace Breaker

variable {config : CircuitBreakerConfig} {breaker breaker' : Breaker}

/-- One more failure opens the circuit, as it is stored and as the processes are about to store it. -/
structure Armed (config : CircuitBreakerConfig) (breaker : Breaker) : Prop where
  stored : ∀ entry, breaker.keys.snapshot = some entry → OneFailureOpens config entry.value
  pending : ∀ held ∈ breaker.pending, OneFailureOpens config held.snapshot

theorem Armed.start : Armed config Breaker.start :=
  ⟨fun _ h => (nomatch h), fun _ h => (nomatch h)⟩

theorem Armed.getSnapshot (h : Armed config breaker) (now : Millis) :
    OneFailureOpens config (CircuitBreaker.getSnapshot now breaker.keys) := by
  unfold CircuitBreaker.getSnapshot
  cases hget : breaker.keys.snapshot.get now with
  | none => exact .closed rfl
  | some snapshot =>
    obtain ⟨entry, hentry, rfl, -⟩ := Cell.get_eq_some.1 hget
    exact h.stored entry hentry

/-- A process that has computed a snapshot. -/
theorem Armed.compute (h : Armed config breaker) {held : PendingWrite} (hheld : OneFailureOpens config held.snapshot) :
    Armed config { breaker with pending := held :: breaker.pending } :=
  ⟨h.stored, List.forall_mem_cons.2 ⟨hheld, h.pending⟩⟩

/-- Whatever is stored last. -/
theorem Armed.store (h : Armed config breaker) {keys : CircuitKeys} {setAt ttl : Int} {snapshot : CircuitSnapshot}
    (hkeys : keys.snapshot = Cell.set setAt ttl snapshot) (hsnapshot : OneFailureOpens config snapshot) :
    Armed config { breaker with keys := keys } := by
  refine ⟨?_, h.pending⟩
  intro entry hentry
  dsimp only at hentry
  rw [hkeys] at hentry
  cases hentry
  exact hsnapshot

theorem Armed.step {action : BreakerAction} (h : Armed config breaker)
    (hcounts : CountsFailures config breaker action) (hstep : breaker.step config action = some breaker') :
    Armed config breaker' := by
  cases action with
  | readForFailure call now reason =>
    cases hstep
    exact h.compute ((h.getSnapshot now).countFailure now reason)
  | readForDispatch call now =>
    unfold Breaker.step at hstep
    dsimp only at hstep
    split at hstep
    · rename_i hdue
      cases hstep
      exact h.compute ((h.getSnapshot now).halfOpen hdue.1 now)
    · cases hstep
      exact h
  | askProbe now =>
    unfold Breaker.step at hstep
    dsimp only at hstep
    split at hstep
    · cases hstep
      exact ⟨h.stored, h.pending⟩
    · cases hstep
      exact h
  | write call setAt =>
    unfold Breaker.step at hstep
    dsimp only at hstep
    split at hstep
    · rename_i held hfind
      cases hstep
      have hheld := h.pending held (List.mem_of_find?_eq_some hfind)
      have hrest : Armed config { breaker with pending := breaker.pending.filter fun other => other.call != call } :=
        ⟨h.stored, fun other hother => h.pending other (List.mem_of_mem_filter hother)⟩
      exact hrest.store rfl hheld
    · cases hstep
  | registerSuccess now =>
    cases hstep
    exact h.store rfl (.closed rfl)
  | setState now setAt state ttlSeconds reason =>
    cases hstep
    exact h.store rfl (.setState hcounts now ttlSeconds reason)

theorem Armed.reopens (h : Armed config breaker) : Reopens config breaker := by
  intro now setAt reason hhalf failed
  have hopens := h.getSnapshot now (by rw [hhalf]; exact CircuitState.noConfusion)
  have hstate : failed.1.state = .opened := (countFailure_opens_iff hhalf now reason).2 hopens
  exact ⟨getSnapshot_persist config setAt failed.1, hstate, failureSnapshot_nextProbeAt config hstate⟩

end Breaker

/-- A failure of a half-open circuit opens it if and only if the stored count is one below the threshold or more; and
this is so in every state of a run in which nobody sets the circuit open or half-open. -/
theorem failed_probe_reopens (config : CircuitBreakerConfig) :
    (∀ now keys setAt reason, (getSnapshot now keys).state = .halfOpen →
      (((registerFailure config now keys setAt reason).1.state = .opened ∧
        (registerFailure config now keys setAt reason).1.nextProbeAt = some (now + config.openSeconds * 1000)) ↔
      config.failureThreshold ≤ (getSnapshot now keys).failureCount + 1)) ∧
    (∀ breaker, Transition.Runs (Breaker.step config) (Breaker.CountsFailures config) Breaker.start breaker →
      breaker.Reopens config) := by
  constructor
  · intro now keys setAt reason hhalf
    rw [registerFailure_eq, ← countFailure_opens_iff hhalf now reason]
    exact ⟨fun h => h.1, fun h => ⟨h, failureSnapshot_nextProbeAt config h⟩⟩
  · intro breaker hrun
    have harmed : Breaker.Armed config breaker :=
      hrun.invariant Breaker.Armed.start fun _ _ _ h hcounts hstep => h.step hcounts hstep
    exact harmed.reopens

namespace Sample

/-- Six failures open a circuit. -/
def tolerant : CircuitBreakerConfig where
  failureThreshold := 6
  openSeconds := 40
  halfOpenProbeSeconds := 15
  failureThreshold_pos := by decide
  openSeconds_ge := by decide
  halfOpenProbeSeconds_pos := by decide

/-- A failure opens the circuit, and a dispatch half-opens it when the time has come. -/
def probing : List BreakerAction :=
  [.readForFailure 1 0 none, .write 1 2, .readForDispatch 2 5001, .write 2 5001, .askProbe 5001]

/-- The connection of a provider is closed. -/
def afterClose : CircuitKeys := (setState tolerant 0 ⟨none, none⟩ 0 .halfOpen 30 (some "smpp_session_closed")).2

end Sample

theorem failed_probe_reopens_probing : ∃ breaker, Transition.Runs (Breaker.step Sample.config)
    (Breaker.CountsFailures Sample.config) Breaker.start breaker ∧
      (getSnapshot 5002 breaker.keys).state = .halfOpen ∧ breaker.Reopens Sample.config ∧
      (((registerFailure Sample.config 5002 breaker.keys 5002 none).1.state = .opened ∧
        (registerFailure Sample.config 5002 breaker.keys 5002 none).1.nextProbeAt = some 10002) ↔
      Sample.config.failureThreshold ≤ (getSnapshot 5002 breaker.keys).failureCount + 1) := by
  have h : (Transition.execute (Transition.guarded (Breaker.step Sample.config) fun _ _ => true) Breaker.start
      Sample.probing).any (fun breaker => decide ((getSnapshot 5002 breaker.keys).state = .halfOpen)) = true := by
    decide +kernel
  obtain ⟨breaker, hrun, hhalf⟩ := (Option.any_eq_true _ _).1 h
  have hactions : ∀ action ∈ Sample.probing, Breaker.CountsFailures Sample.config Breaker.start action := by
    intro action haction
    simp only [Sample.probing, List.mem_cons, List.not_mem_nil, or_false] at haction
    rcases haction with rfl | rfl | rfl | rfl | rfl
    all_goals trivial
  have hruns : Transition.Runs (Breaker.step Sample.config) (Breaker.CountsFailures Sample.config) Breaker.start
      breaker :=
    (Transition.runs_of_execute_all hactions hrun).mono fun _ _ hok => hok.2
  have hstate := of_decide_eq_true hhalf
  exact ⟨breaker, hruns, hstate, (failed_probe_reopens Sample.config).2 breaker hruns,
    (failed_probe_reopens Sample.config).1 5002 breaker.keys 5002 none hstate⟩

/-- The circuit stays half-open after its probe has failed. -/
theorem failed_probe_stays_half_open :
    Transition.Reaches (Breaker.step Sample.tolerant) Breaker.start ⟨Sample.afterClose, []⟩ ∧
      (getSnapshot 1000 Sample.afterClose).state = .halfOpen ∧
      (registerFailure Sample.tolerant 1000 Sample.afterClose 1000 (some "timeout")).1.state = .halfOpen ∧
      ¬ Breaker.Reopens Sample.tolerant ⟨Sample.afterClose, []⟩ := by
  refine ⟨?_, by decide +kernel, by decide +kernel, ?_⟩
  · exact .tail (.setState 0 0 .halfOpen 30 (some "smpp_session_closed")) .refl trivial rfl
  · intro h
    have hopened := (h 1000 1000 (some "timeout") (by decide +kernel)).2.1
    exact absurd hopened (by decide +kernel)

end CircuitBreaker

end SmsPlatform
