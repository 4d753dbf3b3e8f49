import SmsPlatform.Lib.Streaks
import SmsPlatform.Redis.CircuitBreaker

/-!
# When the breaker trips

Calls of `registerFailure` and `registerSuccess` for one provider, one after the other, that begin with no snapshot in
Redis.  While none of them has opened the circuit, the failure count in Redis is the length of the longest streak of
failures that ends with the last call: failures without a success, each before the snapshot of the one before it has
expired.
-/

namespace SmsPlatform

open Expiring Streaks

namespace CircuitBreaker

/-- A call, and the time at which it reads and writes. -/
inductive Report
  | failure (now : Millis) (reason : Option String)
  | success (now : Millis)

namespace Report

def now : Report → Millis
  | .failure now _ => now
  | .success now => now

def IsFailure : Report → Prop
  | .failure _ _ => True
  | .success _ => False

instance : DecidablePred IsFailure
  | .failure _ _ => .isTrue trivial
  | .success _ => .isFalse id

/-- How long a closed snapshot stays in Redis. -/
def window (config : CircuitBreakerConfig) : Millis :=
  max (config.openSeconds : Int) config.halfOpenProbeSeconds * 1000

/-- The gap between a report and the one before it is shorter than that. -/
def Near (config : CircuitBreakerConfig) (later earlier : Report) : Prop := later.now < earlier.now + window config

instance (config : CircuitBreakerConfig) : DecidableRel (Near config) :=
  fun later earlier => inferInstanceAs (Decidable (later.now < earlier.now + window config))

variable (config : CircuitBreakerConfig) (probe : Cell Unit)

/-- The snapshot that a call returns, and the keys after it. -/
def perform (keys : CircuitKeys) : Report → CircuitSnapshot × CircuitKeys
  | .failure now reason => registerFailure config now keys now reason
  | .success now => registerSuccess config now keys

/-- The keys after a history of calls, the last one first. -/
def keysAfter : List Report → CircuitKeys
  | [] => ⟨none, probe⟩
  | report :: earlier => (perform config (keysAfter earlier) report).2

/-- What a call returns after a history. -/
def returned (earlier : List Report) (report : Report) : CircuitSnapshot :=
  (perform config (keysAfter config probe earlier) report).1

/-- No call of a history has opened the circuit. -/
def NeverOpened : List Report → Prop
  | [] => True
  | report :: earlier => (returned config probe earlier report).state ≠ .opened ∧ NeverOpened earlier

/-- The length of the longest streak of failures that ends with the last call. -/
def failures (history : List Report) : Nat := longest IsFailure (Near config) history

variable {config probe} {earlier : List Report} {report : Report}

theorem failures_failure {now : Millis} {reason : Option String} : failures config (.failure now reason :: earlier) =
    (if ∀ entry ∈ earlier.head?, Near config (.failure now reason) entry then failures config earlier else 0) + 1 := by
  unfold failures
  rw [longest, if_pos (show IsFailure (.failure now reason) from trivial)]

theorem failures_success {now : Millis} : failures config (.success now :: earlier) = 0 := by
  unfold failures
  rw [longest, if_neg (show ¬ IsFailure (.success now) from id)]

/-- A closed snapshot is stored for the window. -/
theorem persistSnapshot_closed {keys : CircuitKeys} {now : Millis} {snapshot : CircuitSnapshot}
    (h : snapshot.state = .closed) :
    (persistSnapshot config now keys now snapshot).snapshot = Cell.set now (window config) snapshot := by
  unfold persistSnapshot calculateSnapshotTtlSeconds
  rw [if_pos h]
  rfl

/-- What Redis holds after a history: the closed snapshot of the last call, with the failures of its streak. -/
def Stored (config : CircuitBreakerConfig) (keys : CircuitKeys) (history : List Report) : Prop :=
  (history = [] → keys.snapshot = none) ∧ ∀ last ∈ history.head?, ∃ snapshot,
    keys.snapshot = Cell.set last.now (window config) snapshot ∧ snapshot.state = .closed ∧
      snapshot.failureCount = failures config history

/-- A call finds the stored snapshot within the window, and else a closed circuit without failures. -/
theorem Stored.getSnapshot {keys : CircuitKeys} (h : Stored config keys earlier) (report : Report) :
    (getSnapshot report.now keys).state = .closed ∧ (getSnapshot report.now keys).failureCount =
      if ∀ entry ∈ earlier.head?, Near config report entry then failures config earlier else 0 := by
  cases earlier with
  | nil =>
    unfold CircuitBreaker.getSnapshot
    rw [h.1 rfl]
    exact ⟨rfl, by simp [failures, longest, defaultSnapshot, Cell.get]⟩
  | cons last earlier =>
    obtain ⟨snapshot, hsnapshot, hclosed, hcount⟩ := h.2 last rfl
    unfold CircuitBreaker.getSnapshot
    rw [hsnapshot]
    by_cases hnear : Near config report last
    · rw [Cell.get_set_of_lt hnear, if_pos (by simpa using hnear)]
      exact ⟨hclosed, hcount⟩
    · -- the snapshot has expired, and the call starts from the default one
      have hnone : (Cell.set last.now (window config) snapshot).get report.now = none := by
        rw [Option.eq_none_iff_forall_ne_some]
        intro value hvalue
        obtain ⟨entry, hentry, -, hdeadline⟩ := Cell.get_eq_some.1 hvalue
        cases hentry
        exact hnear (hdeadline _ rfl)
      rw [hnone, if_neg (by simpa using hnear)]
      exact ⟨rfl, rfl⟩

/-- A failure opens a circuit that is closed if and only if its streak has come to the threshold. -/
theorem Stored.registerFailure {keys : CircuitKeys} (h : Stored config keys earlier) (now : Millis)
    (reason : Option String) :
    ((failureSnapshot config now keys reason).state = .opened ↔
        config.failureThreshold ≤ failures config (.failure now reason :: earlier)) ∧
      ((failureSnapshot config now keys reason).state ≠ .opened →
        (failureSnapshot config now keys reason).state = .closed) ∧
      (failureSnapshot config now keys reason).failureCount = failures config (.failure now reason :: earlier) := by
  obtain ⟨hclosed, hcount⟩ := h.getSnapshot (.failure now reason)
  have hcount' : (CircuitBreaker.getSnapshot now keys).failureCount + 1 =
      failures config (.failure now reason :: earlier) := by
    rw [failures_failure, ← hcount]
    rfl
  have hclosed' : (CircuitBreaker.getSnapshot now keys).state = .closed := hclosed
  unfold failureSnapshot countFailure
  dsimp only
  rw [hcount', hclosed']
  by_cases hthreshold : config.failureThreshold ≤ failures config (.failure now reason :: earlier)
  · simp [hthreshold]
  · simp [hthreshold]

theorem stored_of_neverOpened (h : NeverOpened config probe earlier) :
    Stored config (keysAfter config probe earlier) earlier := by
  induction earlier with
  | nil => exact ⟨fun _ => rfl, by simp⟩
  | cons last earlier ih =>
    obtain ⟨hlast, hearlier⟩ := h
    have hstored := ih hearlier
    refine ⟨by simp, ?_⟩
    intro last' hlast'
    obtain rfl : last = last' := by simpa using hlast'
    cases last with
    | failure now reason =>
      obtain ⟨-, hclosed, hcount⟩ := hstored.registerFailure now reason
      exact ⟨_, persistSnapshot_closed (hclosed hlast), hclosed hlast, hcount⟩
    | success now =>
      refine ⟨(registerSuccess config now (keysAfter config probe earlier)).1, ?_, rfl, failures_success.symm⟩
      exact @persistSnapshot_closed config (keysAfter config probe earlier) now _ rfl

/-- After calls none of which has opened the circuit, `registerFailure` opens it if and only if it is at least the
`failureThreshold`-th failure of the longest streak that ends with it. -/
theorem registerFailure_opens_iff (now : Millis) (reason : Option String) (h : NeverOpened config probe earlier) :
    ∃ streak, IsGreatest (lengths IsFailure (Near config) (.failure now reason :: earlier)) streak ∧
      ((returned config probe earlier (.failure now reason)).state = .opened ↔ config.failureThreshold ≤ streak) :=
  ⟨_, longest_isGreatest _, ((stored_of_neverOpened h).registerFailure now reason).1⟩

/-- A breaker that opens at the second failure within seven seconds. -/
def Sample.secondFailure : CircuitBreakerConfig where
  failureThreshold := 2
  openSeconds := 7
  halfOpenProbeSeconds := 2
  failureThreshold_pos := Nat.two_pos
  openSeconds_ge := by decide
  halfOpenProbeSeconds_pos := Nat.two_pos

theorem second_failure_opens : ∃ streak,
    IsGreatest (lengths IsFailure (Near Sample.secondFailure) [.failure 6999 none, .failure 0 none]) streak ∧
      ((returned Sample.secondFailure none [.failure 0 none] (.failure 6999 none)).state = .opened ↔ 2 ≤ streak) :=
  registerFailure_opens_iff 6999 none ⟨by decide, trivial⟩

example : (returned Sample.secondFailure none [.failure 0 none] (.failure 6999 none)).state = .opened ∧
    (returned Sample.secondFailure none [.failure 0 none] (.failure 7000 none)).state = .closed := by decide

end Report

end CircuitBreaker

end SmsPlatform
