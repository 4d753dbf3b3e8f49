import SmsPlatform.Redis.CircuitBreaker
import Mathlib.Data.Fintype.EquivFin

/-!
# Counting failures

`registerFailure` reads the snapshot of a provider and writes a new one, and several workers do so at once.  Here the
read and the write are steps of their own (`Failing.step`).  `failures_counted` says when no failure is lost: when every
write still finds the failure count that its call has read, or opens the circuit by itself.
-/

namespace SmsPlatform

open Expiring

namespace CircuitBreaker

/-! ### A failure in two steps -/

/-- A call that has read the snapshot and has not written yet. -/
structure PendingFailure where
  call : Nat
  snapshot : CircuitSnapshot
  readAt : Millis

/-- The keys of a provider, the time, the calls of `registerFailure` that are between their read and their write, and
how many have completed. -/
structure Failing where
  keys : CircuitKeys
  time : Millis
  pending : List PendingFailure
  completed : Nat

inductive FailureAction
  | read (call : Nat) (now : Millis)
  | write (call : Nat) (now setAt : Millis) (reason : Option String)
  | crash (call : Nat)

def FailureAction.time (time : Millis) : FailureAction → Millis
  | .read _ now => now
  | .write _ _ setAt _ => setAt
  | .crash _ => time

namespace Failing

def start (time : Millis) (keys : CircuitKeys) : Failing where
  keys := keys
  time := time
  pending := []
  completed := 0

def find (failing : Failing) (call : Nat) : Option PendingFailure :=
  failing.pending.find? fun held => held.call == call

def without (failing : Failing) (call : Nat) : List PendingFailure :=
  failing.pending.filter fun held => held.call != call

/-- The snapshot that Redis holds for the provider. -/
def stored (failing : Failing) : CircuitSnapshot := getSnapshot failing.time failing.keys

/-- One step of one call.  What a call writes is computed at `now`, between its read and the time `setAt` at which the
write reaches Redis; from then on the call counts as completed. -/
def step (config : CircuitBreakerConfig) (failing : Failing) : FailureAction → Option Failing
  | .read call now =>
    if failing.time ≤ now ∧ failing.find call = none then
      some { failing with
        time := now
        pending := ⟨call, getSnapshot now failing.keys, now⟩ :: failing.pending }
    else none
  | .write call now setAt reason =>
    match failing.find call with
    | some held =>
      if held.readAt ≤ now ∧ now ≤ setAt ∧ failing.time ≤ setAt then
        some {
          keys := persistSnapshot config now failing.keys setAt (countFailure config now held.snapshot reason)
          time := setAt
          pending := failing.without call
          completed := failing.completed + 1 }
      else none
    | none => none
  | .crash call => some { failing with pending := failing.without call }

/-- The key does not expire before the step. -/
def keepsKey (failing : Failing) (action : FailureAction) : Bool :=
  (failing.keys.snapshot.get failing.time).isNone ||
    (failing.keys.snapshot.get (action.time failing.time)).isSome

/-- A write finds the failure count that its call has read, or opens the circuit by itself. -/
def countsOn (config : CircuitBreakerConfig) (failing : Failing) : FailureAction → Bool
  | .write call _ _ _ => (failing.find call).all fun held =>
    failing.stored.failureCount == held.snapshot.failureCount ||
      decide (config.failureThreshold ≤ held.snapshot.failureCount + 1)
  | .read _ _ => true
  | .crash _ => true

/-- The circuit is open once as many calls have completed as it takes. -/
def Counted (config : CircuitBreakerConfig) (failing : Failing) : Prop :=
  config.failureThreshold ≤ failing.completed → failing.stored.state = .opened

/-! ### One step -/

variable {config : CircuitBreakerConfig} {failing failing' : Failing}

theorem step_read {call : Nat} {now : Millis} (h : failing.step config (.read call now) = some failing') :
    failing.time ≤ now ∧ failing' = { failing with
      time := now
      pending := ⟨call, getSnapshot now failing.keys, now⟩ :: failing.pending } := by
  unfold step at h
  dsimp only at h
  split at h
  · rename_i hread
    exact ⟨hread.1, (Option.some.inj h).symm⟩
  · cases h

theorem step_write {call : Nat} {now setAt : Millis} {reason : Option String}
    (h : failing.step config (.write call now setAt reason) = some failing') :
    ∃ held, failing.find call = some held ∧ failing.time ≤ setAt ∧ failing' = {
      keys := persistSnapshot config now failing.keys setAt (countFailure config now held.snapshot reason)
      time := setAt
      pending := failing.without call
      completed := failing.completed + 1 } := by
  unfold step at h
  dsimp only at h
  split at h
  · rename_i held hfind
    split at h
    · rename_i htime
      exact ⟨held, hfind, htime.2.2, (Option.some.inj h).symm⟩
    · cases h
  · cases h

theorem mem_of_find {call : Nat} {held : PendingFailure} (h : failing.find call = some held) :
    held ∈ failing.pending :=
  List.mem_of_find?_eq_some h

/-- A snapshot whose key does not expire is read later as it is stored, a missing one as a closed circuit. -/
theorem getSnapshot_later {now : Millis} (hle : failing.time ≤ now)
    (hkey : (failing.keys.snapshot.get failing.time).isNone = true ∨ (failing.keys.snapshot.get now).isSome = true) :
    (getSnapshot now failing.keys).state = failing.stored.state ∧
      (getSnapshot now failing.keys).failureCount = failing.stored.failureCount := by
  unfold stored getSnapshot
  rcases hkey with hnone | hsome
  · rw [Option.isNone_iff_eq_none] at hnone
    have hlater : failing.keys.snapshot.get now = none := by
      by_contra hne
      obtain ⟨snapshot, hget⟩ := Option.ne_none_iff_exists'.1 hne
      rw [Cell.get_of_le hle hget] at hnone
      cases hnone
    rw [hnone, hlater]
    exact ⟨rfl, rfl⟩
  · obtain ⟨snapshot, hget⟩ := Option.isSome_iff_exists.1 hsome
    rw [hget, Cell.get_of_le hle hget]
    exact ⟨rfl, rfl⟩

/-- A read and a write with nothing in between are `registerFailure`. -/
theorem uninterrupted {call : Nat} {now setAt : Millis} {reason : Option String} (hfree : failing.find call = none)
    (hnow : failing.time ≤ now) (hset : now ≤ setAt) :
    ∃ reading failing', failing.step config (.read call now) = some reading ∧
      reading.step config (.write call now setAt reason) = some failing' ∧
      reading.time = now ∧ failing'.keys = (registerFailure config now failing.keys setAt reason).2 ∧
      failing'.time = setAt ∧ failing'.completed = failing.completed + 1 := by
  refine ⟨{ failing with
    time := now
    pending := ⟨call, getSnapshot now failing.keys, now⟩ :: failing.pending }, {
      keys := (registerFailure config now failing.keys setAt reason).2
      time := setAt
      pending := failing.without call
      completed := failing.completed + 1 }, if_pos ⟨hnow, hfree⟩, ?_, rfl, rfl, rfl, rfl⟩
  have hfind : find { failing with
      time := now
      pending := ⟨call, getSnapshot now failing.keys, now⟩ :: failing.pending } call =
        some ⟨call, getSnapshot now failing.keys, now⟩ :=
    List.find?_cons_of_pos (by simp)
  unfold step
  dsimp only
  rw [hfind]
  dsimp only
  rw [if_pos ⟨le_refl now, hset, hset⟩]
  unfold without
  rw [List.filter_cons_of_neg (by simp)]
  rfl

/-! ### Circuits that count every failure -/

/-- A snapshot of a circuit in which at most `total` failures have been counted. -/
def Tallied (config : CircuitBreakerConfig) (total : Nat) (snapshot : CircuitSnapshot) : Prop :=
  (snapshot.state = .opened ∧ config.failureThreshold ≤ snapshot.failureCount ∧ config.failureThreshold ≤ total) ∨
    (snapshot.state = .closed ∧ snapshot.failureCount ≤ total)

/-- No failure has been lost since the circuit had `first` failures. -/
structure Sound (config : CircuitBreakerConfig) (first : Nat) (failing : Failing) : Prop where
  held : ∀ held ∈ failing.pending, Tallied config (first + failing.completed) held.snapshot
  tallied : Tallied config (first + failing.completed) failing.stored
  exact_of_closed : failing.stored.state = .closed → failing.stored.failureCount = first + failing.completed
  closed_below : failing.stored.state = .closed → 0 < failing.completed →
    failing.stored.failureCount < config.failureThreshold

theorem Tallied.mono {total total' : Nat} {snapshot : CircuitSnapshot} (h : Tallied config total snapshot)
    (hle : total ≤ total') : Tallied config total' snapshot := by
  rcases h with ⟨hopen, hcount, htotal⟩ | ⟨hclosed, hcount⟩
  · exact .inl ⟨hopen, hcount, htotal.trans hle⟩
  · exact .inr ⟨hclosed, hcount.trans hle⟩

theorem Tallied.congr {total : Nat} {snapshot snapshot' : CircuitSnapshot} (h : Tallied config total snapshot)
    (hstate : snapshot'.state = snapshot.state) (hcount : snapshot'.failureCount = snapshot.failureCount) :
    Tallied config total snapshot' := by
  unfold Tallied
  rw [hstate, hcount]
  exact h

theorem countFailure_opens {now : Millis} {snapshot : CircuitSnapshot} {reason : Option String}
    (h : config.failureThreshold ≤ snapshot.failureCount + 1) :
    (countFailure config now snapshot reason).state = .opened :=
  if_pos h

theorem countFailure_keeps {now : Millis} {snapshot : CircuitSnapshot} {reason : Option String}
    (h : ¬ config.failureThreshold ≤ snapshot.failureCount + 1) :
    (countFailure config now snapshot reason).state = snapshot.state :=
  if_neg h

theorem Sound.start {time : Millis} {keys : CircuitKeys} (hclosed : (start time keys).stored.state = .closed) :
    Sound config (start time keys).stored.failureCount (start time keys) := by
  refine ⟨fun held hheld => ?_, .inr ⟨hclosed, Nat.le_refl _⟩, fun _ => rfl, fun _ hpos => ?_⟩
  · cases hheld
  · exact absurd hpos (Nat.lt_irrefl 0)

theorem Sound.counted {first : Nat} (h : Sound config first failing) : failing.Counted config := by
  intro henough
  rcases h.tallied with ⟨hopen, -, -⟩ | ⟨hclosed, -⟩
  · exact hopen
  · have hpos := config.failureThreshold_pos
    have hexact := h.exact_of_closed hclosed
    have hbelow := h.closed_below hclosed (by omega)
    omega

/-- Time goes on, and other calls come and go, while the key stays. -/
theorem Sound.later {first : Nat} (h : Sound config first failing) {now : Millis} (hle : failing.time ≤ now)
    (hkey : (failing.keys.snapshot.get failing.time).isNone = true ∨ (failing.keys.snapshot.get now).isSome = true)
    {pending : List PendingFailure}
    (hpending : ∀ held ∈ pending, held ∈ failing.pending ∨ held.snapshot = getSnapshot now failing.keys) :
    Sound config first { failing with time := now, pending := pending } := by
  obtain ⟨hstate, hcount⟩ := getSnapshot_later hle hkey
  have hread : Tallied config (first + failing.completed) (getSnapshot now failing.keys) :=
    h.tallied.congr hstate hcount
  refine ⟨fun held hheld => ?_, hread, fun hclosed => ?_, fun hclosed hpos => ?_⟩
  · rcases hpending held hheld with hold | hnew
    · exact h.held held hold
    · rw [hnew]
      exact hread
  · exact hcount.trans (h.exact_of_closed (hstate.symm.trans hclosed))
  · exact lt_of_eq_of_lt hcount (h.closed_below (hstate.symm.trans hclosed) hpos)

/-- A write that counts on: the failure is added to the count, or the circuit is open. -/
theorem Sound.write {first : Nat} (h : Sound config first failing) {call : Nat} {now setAt : Millis}
    {reason : Option String} {held : PendingFailure} (hfind : failing.find call = some held)
    (hcounts : failing.stored.failureCount = held.snapshot.failureCount ∨
      config.failureThreshold ≤ held.snapshot.failureCount + 1) :
    Sound config first {
      keys := persistSnapshot config now failing.keys setAt (countFailure config now held.snapshot reason)
      time := setAt
      pending := failing.without call
      completed := failing.completed + 1 } := by
  have hheld := h.held held (mem_of_find hfind)
  have hrest : ∀ other ∈ failing.without call, Tallied config (first + (failing.completed + 1)) other.snapshot := by
    intro other hother
    exact (h.held other (List.mem_of_mem_filter hother)).mono (by omega)
  have hwritten : getSnapshot setAt (persistSnapshot config now failing.keys setAt
      (countFailure config now held.snapshot reason)) = countFailure config now held.snapshot reason :=
    getSnapshot_persist config setAt _
  by_cases hopens : config.failureThreshold ≤ held.snapshot.failureCount + 1
  · have hopen : (countFailure config now held.snapshot reason).state = .opened := countFailure_opens hopens
    have htotal : config.failureThreshold ≤ first + (failing.completed + 1) := by
      rcases hheld with ⟨-, -, htotal⟩ | ⟨-, hle⟩ <;> omega
    refine ⟨hrest, ?_, fun hclosed => ?_, fun hclosed => ?_⟩
    · unfold stored
      rw [hwritten]
      exact .inl ⟨hopen, hopens, htotal⟩
    all_goals
      unfold stored at hclosed
      rw [hwritten, hopen] at hclosed
      cases hclosed
  · -- below the threshold the call has read a closed circuit, and it is still the stored one
    have hsame := hcounts.resolve_right hopens
    have hclosed : held.snapshot.state = .closed := by
      rcases hheld with ⟨-, hcount, -⟩ | ⟨hclosed, -⟩
      · omega
      · exact hclosed
    have hstored : failing.stored.state = .closed := by
      rcases h.tallied with ⟨-, hcount, -⟩ | ⟨hclosed, -⟩
      · omega
      · exact hclosed
    have hexact := h.exact_of_closed hstored
    have hcount : (countFailure config now held.snapshot reason).failureCount = first + (failing.completed + 1) := by
      show held.snapshot.failureCount + 1 = _
      omega
    have hbelow : (countFailure config now held.snapshot reason).failureCount < config.failureThreshold := by
      show held.snapshot.failureCount + 1 < _
      omega
    refine ⟨hrest, ?_, fun _ => ?_, fun _ _ => ?_⟩
    all_goals
      unfold stored
      rw [hwritten]
    · exact .inr ⟨(countFailure_keeps hopens).trans hclosed, hcount.le⟩
    · exact hcount
    · exact hbelow

theorem Sound.step {first : Nat} (h : Sound config first failing) {action : FailureAction}
    (hkey : failing.keepsKey action = true) (hcounts : failing.countsOn config action = true)
    (hstep : failing.step config action = some failing') : Sound config first failing' := by
  unfold keepsKey at hkey
  rw [Bool.or_eq_true] at hkey
  cases action with
  | read call now =>
    obtain ⟨hle, rfl⟩ := step_read hstep
    refine h.later hle hkey fun held hheld => ?_
    rcases List.mem_cons.1 hheld with rfl | hold
    · exact .inr rfl
    · exact .inl hold
  | write call now setAt reason =>
    obtain ⟨held, hfind, -, rfl⟩ := step_write hstep
    refine h.write hfind ?_
    unfold countsOn at hcounts
    dsimp only at hcounts
    rw [hfind] at hcounts
    simpa using hcounts
  | crash call =>
    cases hstep
    have hle : failing.time ≤ failing.time := le_refl _
    exact h.later hle hkey fun held hheld => .inl (List.mem_of_mem_filter hheld)

/-! ### A lost failure -/

/-- The circuit is closed and its count is behind the calls that have completed. -/
structure Lost (failing : Failing) : Prop where
  closed : failing.stored.state = .closed
  behind : failing.stored.failureCount < failing.completed

theorem exists_free (failing : Failing) : ∃ call, failing.find call = none := by
  obtain ⟨call, hcall⟩ := Infinite.exists_notMem_finset (failing.pending.map PendingFailure.call).toFinset
  refine ⟨call, List.find?_eq_none.2 fun held hheld heq => hcall ?_⟩
  rw [List.mem_toFinset, ← (beq_iff_eq.1 heq : held.call = call)]
  exact List.mem_map_of_mem hheld

theorem keepsKey_now {action : FailureAction} (h : action.time failing.time = failing.time) :
    failing.keepsKey action = true := by
  unfold keepsKey
  rw [h]
  cases failing.keys.snapshot.get failing.time <;> rfl

/-- Once a failure is lost, calls one after the other complete often enough and leave the circuit closed. -/
theorem Lost.violates (h : failing.Lost) : ∃ last, Transition.Runs (Failing.step config)
    (fun failing action => failing.keepsKey action = true) failing last ∧ ¬ last.Counted config := by
  generalize hmissing : config.failureThreshold - failing.completed = missing
  induction missing generalizing failing with
  | zero =>
    refine ⟨failing, .refl, fun hcounted => ?_⟩
    have hopen := hcounted (by omega)
    rw [h.closed] at hopen
    cases hopen
  | succ missing ih =>
    obtain ⟨call, hfree⟩ := failing.exists_free
    obtain ⟨reading, next, hread, hwrite, hreading, hkeys, htime, hcompleted⟩ :=
      @uninterrupted config failing call failing.time failing.time none hfree (le_refl _) (le_refl _)
    have hstored : next.stored = countFailure config failing.time failing.stored none := by
      unfold stored
      rw [hkeys, htime]
      exact getSnapshot_persist config failing.time _
    have hbehind := h.behind
    have hnext : next.Lost := by
      constructor
      · rw [hstored, countFailure_keeps (by omega)]
        exact h.closed
      · rw [hstored, hcompleted]
        exact Nat.succ_lt_succ hbehind
    obtain ⟨last, hlast, hviolated⟩ := ih hnext (by omega)
    have hcalled : Transition.Runs (Failing.step config)
        (fun failing action => failing.keepsKey action = true) failing next :=
      .tail _ (.tail _ .refl (keepsKey_now rfl) hread) (keepsKey_now (by rw [hreading]; rfl)) hwrite
    exact ⟨last, hcalled.trans hlast, hviolated⟩

/-- A write that does not count on loses a failure. -/
theorem Sound.lost (h : Sound config 0 failing) {action : FailureAction}
    (hcounts : failing.countsOn config action = false) (hstep : failing.step config action = some failing') :
    failing'.Lost := by
  cases action with
  | read call now => cases hcounts
  | crash call => cases hcounts
  | write call now setAt reason =>
    obtain ⟨held, hfind, -, rfl⟩ := step_write hstep
    unfold countsOn at hcounts
    dsimp only at hcounts
    rw [hfind] at hcounts
    have hboth : failing.stored.failureCount ≠ held.snapshot.failureCount ∧
        held.snapshot.failureCount + 1 < config.failureThreshold := by
      simpa using hcounts
    have hwritten : getSnapshot setAt (persistSnapshot config now failing.keys setAt
        (countFailure config now held.snapshot reason)) = countFailure config now held.snapshot reason :=
      getSnapshot_persist config setAt _
    have hheld := h.held held (mem_of_find hfind)
    have hclosed : held.snapshot.state = .closed ∧ held.snapshot.failureCount ≤ 0 + failing.completed := by
      rcases hheld with ⟨-, hcount, -⟩ | hclosed
      · omega
      · exact hclosed
    have hlate : held.snapshot.failureCount < failing.completed := by
      rcases h.tallied with ⟨-, -, htotal⟩ | ⟨hstored, -⟩
      · omega
      · have hexact := h.exact_of_closed hstored
        omega
    constructor
    all_goals
      unfold stored
      rw [hwritten]
    · rw [countFailure_keeps (by omega)]
      exact hclosed.1
    · exact Nat.succ_lt_succ hlate

end Failing

/-- From a closed circuit on, while the key does not expire: no failure is lost in a run all of whose writes count on;
and where the circuit had no failures yet, the first write that does not leads to a run with enough failures after which
the circuit is closed. -/
theorem failures_counted {config : CircuitBreakerConfig} {time : Millis} {keys : CircuitKeys}
    (hclosed : (getSnapshot time keys).state = .closed) :
    (∀ failing, Transition.Runs (Failing.step config)
      (fun failing action => failing.keepsKey action = true ∧ failing.countsOn config action = true)
      (Failing.start time keys) failing → failing.Counted config) ∧
    ((getSnapshot time keys).failureCount = 0 → ∀ failing action failing', Transition.Runs (Failing.step config)
      (fun failing action => failing.keepsKey action = true ∧ failing.countsOn config action = true)
      (Failing.start time keys) failing →
      failing.keepsKey action = true → failing.countsOn config action = false →
      failing.step config action = some failing' →
      ∃ last, Transition.Runs (Failing.step config) (fun failing action => failing.keepsKey action = true)
        failing' last ∧ ¬ last.Counted config) := by
  have hsound : ∀ failing, Transition.Runs (Failing.step config)
      (fun failing action => failing.keepsKey action = true ∧ failing.countsOn config action = true)
      (Failing.start time keys) failing →
      Failing.Sound config (getSnapshot time keys).failureCount failing := by
    intro failing hrun
    exact hrun.invariant (Failing.Sound.start hclosed) fun _ _ _ h hok hstep => h.step hok.1 hok.2 hstep
  refine ⟨fun failing hrun => (hsound failing hrun).counted, ?_⟩
  intro hnone failing action failing' hrun _ hcounts hstep
  have h := hsound failing hrun
  rw [hnone] at h
  exact (h.lost hcounts hstep).violates

/-! ### Two workers -/

namespace Sample

/-- The circuit opens at the second failure. -/
def opensAtTwo : CircuitBreakerConfig where
  failureThreshold := 2
  openSeconds := 30
  halfOpenProbeSeconds := 5
  failureThreshold_pos := by decide
  openSeconds_ge := by decide
  halfOpenProbeSeconds_pos := by decide

def oneAfterTheOther : List FailureAction :=
  [.read 1 0, .write 1 1 2 (some "timeout"), .read 2 3, .write 2 3 4 (some "timeout")]

def bothReadFirst : List FailureAction :=
  [.read 1 0, .read 2 0, .write 1 1 2 (some "timeout"), .write 2 1 3 (some "timeout")]

end Sample

theorem failures_counted_in_turn : (getSnapshot 0 Sample.noKeys).state = .closed ∧
    ∃ failing, Transition.Runs (Failing.step Sample.opensAtTwo)
      (fun failing action => failing.keepsKey action = true ∧ failing.countsOn Sample.opensAtTwo action = true)
      (Failing.start 0 Sample.noKeys) failing ∧
      failing.completed = 2 ∧ failing.Counted Sample.opensAtTwo := by
  have h : (Transition.execute (Transition.guarded (Failing.step Sample.opensAtTwo)
      fun failing action => failing.keepsKey action && failing.countsOn Sample.opensAtTwo action)
      (Failing.start 0 Sample.noKeys) Sample.oneAfterTheOther).any
      (fun failing => decide (failing.completed = 2)) = true := by
    decide +kernel
  obtain ⟨failing, hrun, hcompleted⟩ := (Option.any_eq_true _ _).1 h
  have hruns := (Transition.runs_of_execute hrun).mono fun _ _ hok => Bool.and_eq_true_iff.1 hok
  exact ⟨rfl, failing, hruns, of_decide_eq_true hcompleted, (failures_counted rfl).1 failing hruns⟩

/-- Two workers read the closed circuit before either has written: both calls complete, and one failure is counted. -/
theorem failure_lost : (getSnapshot 0 Sample.noKeys).state = .closed ∧
    ∃ failing, Transition.Runs (Failing.step Sample.opensAtTwo)
      (fun failing action => failing.keepsKey action = true) (Failing.start 0 Sample.noKeys) failing ∧
      ¬ failing.Counted Sample.opensAtTwo := by
  have h : (Transition.execute (Transition.guarded (Failing.step Sample.opensAtTwo) Failing.keepsKey)
      (Failing.start 0 Sample.noKeys) Sample.bothReadFirst).any
      (fun failing => decide (failing.completed = 2 ∧ failing.stored.state = .closed)) = true := by
    decide +kernel
  obtain ⟨failing, hrun, hlost⟩ := (Option.any_eq_true _ _).1 h
  obtain ⟨hcompleted, hclosed⟩ := of_decide_eq_true hlost
  refine ⟨rfl, failing, Transition.runs_of_execute hrun, fun hcounted => ?_⟩
  have hopen := hcounted (by rw [hcompleted]; exact Nat.le_refl 2)
  rw [hclosed] at hopen
  cases hopen

end CircuitBreaker

end SmsPlatform
