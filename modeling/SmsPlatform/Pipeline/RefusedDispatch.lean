import SmsPlatform.Pipeline.World
import SmsPlatform.Redis.CircuitBreaker

/-!
# Refused dispatches and the circuit breaker

A dispatch that `assertProviderDispatchAllowed` refuses is an Error, which `handleDispatch` catches and turns into a
failed result; `recordDispatchResult` registers that result with the breaker like the failure of a provider.  Whatever
the circuit is, it has counted one failure more afterwards (`refused_moves_circuit`); an open circuit stays open
longer, and a half-open one that has counted enough failures is opened again (`refused_prolongs`).
-/

namespace SmsPlatform

open CircuitBreaker Expiring

/-- What a provider's circuit is to its users. -/
def CircuitSnapshot.circuit (snapshot : CircuitSnapshot) : CircuitState × Nat × Option Millis :=
  (snapshot.state, snapshot.failureCount, snapshot.nextProbeAt)

/-- `limit` is what the limit on the provider's global TPS answers. -/
def assertProviderDispatchAllowed (config : CircuitBreakerConfig) (now : Millis) (limit : Except String Unit)
    (keys : CircuitKeys) : Except String Unit × CircuitKeys :=
  let (allowed, keys) := allowDispatch config now keys
  if !allowed then (.error "Provider circuit is open", keys)
  else (limit, keys)

/-- `recordDispatchResult`, as far as the breaker goes. -/
def recordDispatchResult (config : CircuitBreakerConfig) (now setAt : Millis) (accepted : Bool)
    (errorCode : Option String) (keys : CircuitKeys) : CircuitKeys :=
  if accepted then (registerSuccess config now keys).2
  else (registerFailure config now keys setAt errorCode).2

/-- The try and catch of `handleDispatch`, where the provider's assertion has answered `assertion`. -/
def dispatchAfter (services : Services) (db : Db) (payload : MessageEventPayload) (assertion : Except String Unit) :
    DispatchExecutionResult :=
  dispatchThroughProvider { services with assertProviderDispatchAllowed := fun _ _ => assertion } db payload

/-- The statement after it. -/
def recordExecution (config : CircuitBreakerConfig) (now setAt : Millis) (payload : MessageEventPayload)
    (execution : DispatchExecutionResult) (keys : CircuitKeys) : CircuitKeys :=
  match payload.providerId with
  | none => keys
  | some _ => recordDispatchResult config now setAt execution.result.accepted execution.result.errorCode keys

section Refusals

variable {services : Services} {db : Db} {payload : MessageEventPayload} {providerId : Nat}
  {provider : ProviderProfile} {message : String}

/-- A refusal is a failed result. -/
theorem dispatchAfter_refused (hid : payload.providerId = some providerId)
    (hfound : services.getProvider providerId = .ok provider) :
    (dispatchAfter services db payload (.error message)).result.accepted = false := by
  unfold dispatchAfter dispatchThroughProvider planDispatch
  rw [hid]
  simp only [hfound]
  rfl

/-- One failure more than the circuit had counted. -/
theorem registerFailure_count (config : CircuitBreakerConfig) (now setAt : Millis) (keys : CircuitKeys)
    (reason : Option String) :
    (getSnapshot setAt (registerFailure config now keys setAt reason).2).failureCount =
      (getSnapshot now keys).failureCount + 1 := by
  have hread : getSnapshot setAt (registerFailure config now keys setAt reason).2 =
      failureSnapshot config now keys reason := getSnapshot_persist config setAt _
  rw [hread]
  rfl

/-- A snapshot has counted at most as many failures at a later time: it is the same or gone. -/
theorem getSnapshot_count_le {now later : Millis} (hle : now ≤ later) (keys : CircuitKeys) :
    (getSnapshot later keys).failureCount ≤ (getSnapshot now keys).failureCount := by
  unfold getSnapshot
  cases hlater : keys.snapshot.get later with
  | none => exact Nat.zero_le _
  | some snapshot =>
    rw [Cell.get_of_le hle hlater]
    exact Nat.le_refl _

/-- A refused dispatch moves the circuit of its provider, whatever the circuit is when its result is recorded. -/
theorem refused_moves_circuit {config : CircuitBreakerConfig} {limit : Except String Unit} {now : Millis}
    {keys : CircuitKeys} (hid : payload.providerId = some providerId)
    (hfound : services.getProvider providerId = .ok provider)
    (hrefused : (assertProviderDispatchAllowed config now limit keys).1 = .error message)
    (current : CircuitKeys) {recordedAt setAt : Millis} (hset : recordedAt ≤ setAt) :
    (getSnapshot setAt (recordExecution config recordedAt setAt payload
        (dispatchAfter services db payload (assertProviderDispatchAllowed config now limit keys).1)
        current)).circuit ≠ (getSnapshot setAt current).circuit := by
  have hrecord : recordExecution config recordedAt setAt payload
      (dispatchAfter services db payload (assertProviderDispatchAllowed config now limit keys).1) current =
      (registerFailure config recordedAt current setAt
        (dispatchAfter services db payload (.error message)).result.errorCode).2 := by
    unfold recordExecution recordDispatchResult
    rw [hid, hrefused, dispatchAfter_refused hid hfound]
    rfl
  have hcount := registerFailure_count config recordedAt setAt current
    (dispatchAfter services db payload (.error message)).result.errorCode
  have hle := getSnapshot_count_le hset current
  rw [hrecord]
  intro h
  have hsame : (getSnapshot setAt (registerFailure config recordedAt current setAt
      (dispatchAfter services db payload (.error message)).result.errorCode).2).failureCount =
      (getSnapshot setAt current).failureCount := congrArg (fun circuit => circuit.2.1) h
  omega

/-- A refusal by an open circuit prolongs it, and one by a half-open circuit reopens it once enough failures have been
counted: the circuit is open for its full time again. -/
theorem refused_prolongs {config : CircuitBreakerConfig} {now setAt : Millis} {keys : CircuitKeys}
    {reason : Option String} (h : (getSnapshot now keys).state = .opened ∨
      config.failureThreshold ≤ (getSnapshot now keys).failureCount + 1) :
    (getSnapshot setAt (registerFailure config now keys setAt reason).2).state = .opened ∧
      (getSnapshot setAt (registerFailure config now keys setAt reason).2).nextProbeAt =
        some (now + config.openSeconds * 1000) := by
  have hread : getSnapshot setAt (registerFailure config now keys setAt reason).2 =
      failureSnapshot config now keys reason := getSnapshot_persist config setAt _
  have hstate : (failureSnapshot config now keys reason).state = .opened := by
    unfold failureSnapshot countFailure
    dsimp only
    by_cases hthreshold : config.failureThreshold ≤ (getSnapshot now keys).failureCount + 1
    · rw [if_pos hthreshold]
    · rw [if_neg hthreshold]
      exact h.resolve_right hthreshold
  rw [hread]
  exact ⟨hstate, failureSnapshot_nextProbeAt config hstate⟩

end Refusals

/-! ### A dispatch refused by an open circuit -/

namespace Sample

/-- The keys after a failure at 0. -/
def openedKeys : CircuitKeys := (registerFailure CircuitBreaker.Sample.config 0 CircuitBreaker.Sample.noKeys 0 none).2

def dispatchPayload : MessageEventPayload where
  submitDate := day
  tenantId := tenant
  messageId := 1
  version := 1
  phoneNumber := "251911000000"
  body := "hello"
  senderId := "ACME"
  trafficType := .transactional
  providerId := some 1

/-- The circuit at 1000, after the dispatch that it has refused was recorded. -/
def afterRefusal : CircuitKeys :=
  recordExecution CircuitBreaker.Sample.config 1000 1000 dispatchPayload
    (dispatchAfter (services .allow 3 refuses) (Db.initial (wallets 100)) dispatchPayload
      (assertProviderDispatchAllowed CircuitBreaker.Sample.config 1000 (.ok ()) openedKeys).1) openedKeys

end Sample

theorem refused_moves_circuit_opened :
    (getSnapshot 1000 Sample.afterRefusal).circuit ≠ (getSnapshot 1000 Sample.openedKeys).circuit := by
  have hrefused : (assertProviderDispatchAllowed CircuitBreaker.Sample.config 1000 (.ok ()) Sample.openedKeys).1 =
      .error "Provider circuit is open" := rfl
  have hid : Sample.dispatchPayload.providerId = some 1 := rfl
  have hfound : (Sample.services .allow 3 Sample.refuses).getProvider 1 =
      .ok ⟨1, .http, some "https://provider", 10⟩ := rfl
  exact refused_moves_circuit hid hfound hrefused Sample.openedKeys (Int.le_refl 1000)

/-- The open circuit refuses the dispatch, and its next probe moves from 5000 to 6000. -/
theorem refusal_prolongs_open_circuit :
    (getSnapshot 1000 Sample.openedKeys).circuit = (.opened, 1, some 5000) ∧
      (getSnapshot 1000 Sample.afterRefusal).circuit = (.opened, 2, some 6000) := by
  decide +kernel

end SmsPlatform
