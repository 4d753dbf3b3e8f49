import SmsPlatform.Fraud.Fraud
import SmsPlatform.Lib.Records
import SmsPlatform.Pipeline.World

/-!
# What the velocity counts

`evaluate` runs at every submission, at every attempt of the dispatch worker, and at every delivery of a dispatch event
or a dispatch result to the fraud consumers; all of them count under one key of the tenant, the sender and the minute.
So the velocity is one of evaluations, not of messages (`velocity_counts_evaluations`).
-/

namespace SmsPlatform

open Expiring FraudService Transition

/-! ### The system -/

inductive EvaluationOrigin
  | submission | dispatch | consumer
  deriving DecidableEq

structure EvaluationCall where
  origin : EvaluationOrigin
  policy : FraudPolicy
  clock : FraudClock
  input : FraudEvaluationInput

structure Monitored where
  world : World
  counters : Counters

/-- `completes` is false when the process crashes after the evaluation. -/
inductive MonitoredAction
  | submit (policy : FraudPolicy) (fraudClock : FraudClock) (completes : Bool) (clock : TxClock)
      (submission : Submission)
  | dispatch (policy : FraudPolicy) (fraudClock : FraudClock) (completes : Bool) (index : Nat) (env : Environment)
  | consume (policy : FraudPolicy) (fraudClock : FraudClock) (event : Nat)
  | handle (action : Action)

def Submission.evaluationInput (submission : Submission) : FraudEvaluationInput where
  tenantId := submission.tenantId
  phoneNumber := submission.phoneNumber
  body := submission.body
  senderId := submission.senderId
  trafficType := submission.trafficType

/-- The input of a fraud consumer, which is the event itself. -/
def MessageEventPayload.evaluationInput (payload : MessageEventPayload) : FraudEvaluationInput where
  tenantId := payload.tenantId
  phoneNumber := payload.phoneNumber
  body := payload.body
  senderId := payload.senderId
  trafficType := payload.trafficType

/-- The input of the evaluation that an execution makes next, if it does. -/
def Stage.evaluationInput : Stage → Option FraudEvaluationInput
  | .dispatch job => some (fraudInput job.payload job.message)
  | _ => none

/-- What a fraud consumer is given for an event of its topics. -/
def OutboxRow.evaluationInput (row : OutboxRow) : Option FraudEvaluationInput :=
  match row.topicName, row.payload with
  | .smsDispatchRealtime, .message payload => some payload.evaluationInput
  | .smsDispatchResults, .message payload => some payload.evaluationInput
  | _, _ => none

namespace Monitored

def start (wallets : TenantId → Option WalletRow) : Monitored := ⟨World.initial wallets, fun _ => none⟩

variable (monitored : Monitored)

/-- The call of `evaluate` that an action makes. -/
def evaluates : MonitoredAction → Option EvaluationCall
  | .submit policy fraudClock _ _ submission => some ⟨.submission, policy, fraudClock, submission.evaluationInput⟩
  | .dispatch policy fraudClock _ index _ =>
    (monitored.world.executions[index]?.bind fun execution => execution.stage.evaluationInput).map
      fun input => ⟨.dispatch, policy, fraudClock, input⟩
  | .consume policy fraudClock event =>
    ((monitored.world.db.outbox.find? fun row => decide (row.id = event)).bind OutboxRow.evaluationInput).map
      fun input => ⟨.consumer, policy, fraudClock, input⟩
  | .handle _ => none

/-- What follows an evaluation.  A submission that is blocked or throttled is refused. -/
def afterEvaluation (evaluation : FraudEvaluationResult) : MonitoredAction → Option World
  | .submit _ _ completes clock submission =>
    if completes = false ∨ evaluation.action = .block ∨ evaluation.action = .throttle then some monitored.world
    else monitored.world.step (.submit clock submission)
  | .dispatch _ _ completes index env =>
    if completes = false then monitored.world.step (.crash index)
    else
      monitored.world.step (.advance index
        { env with services := { env.services with evaluate := fun _ => evaluation } })
  | .consume _ _ _ => some monitored.world
  | .handle _ => none

/-- The actions of the pipeline that evaluate nothing. -/
def handles : Action → Bool
  | .submit _ _ => false
  | .advance index _ =>
    (monitored.world.executions[index]?.bind fun execution => execution.stage.evaluationInput).isNone
  | _ => true

def step (action : MonitoredAction) : Option Monitored :=
  match action with
  | .handle action =>
    if monitored.handles action then (monitored.world.step action).map fun world => { monitored with world := world }
    else none
  | action =>
    (monitored.evaluates action).bind fun call =>
      let evaluated := evaluate call.policy call.clock monitored.counters call.input
      (monitored.afterEvaluation evaluated.1 action).map fun world => ⟨world, evaluated.2⟩

end Monitored

/-! ### The record of the evaluations -/

structure EvaluationEntry where
  origin : EvaluationOrigin
  tenantId : TenantId
  senderId : String
  minute : Nat
  reported : Bool
  deriving DecidableEq

/-- An evaluation of the same tenant and sender in the same minute. -/
def EvaluationEntry.same (entry other : EvaluationEntry) : Bool :=
  decide (other.tenantId = entry.tenantId ∧ other.senderId = entry.senderId ∧ other.minute = entry.minute)

def EvaluationCall.entry (call : EvaluationCall) (counters : Counters) : EvaluationEntry where
  origin := call.origin
  tenantId := call.input.tenantId
  senderId := call.input.senderId
  minute := minute call.clock.now
  reported := decide ("velocity_threshold" ∈ (evaluate call.policy call.clock counters call.input).1.reasons)

def Monitored.sees (monitored : Monitored) (action : MonitoredAction) (_after : Monitored) : List EvaluationEntry :=
  ((monitored.evaluates action).map fun call => call.entry monitored.counters).toList

abbrev FraudLog := Recorded Monitored EvaluationEntry

abbrev FraudLog.step : FraudLog → MonitoredAction → Option FraudLog := recorded Monitored.step Monitored.sees

def FraudLog.start (wallets : TenantId → Option WalletRow) : FraudLog := ⟨.start wallets, []⟩

namespace FraudLog

/-- With at most 5000 messages of a tenant and a sender no evaluation of them reports the velocity. -/
def CountsMessages (log : FraudLog) : Prop :=
  ∀ entry ∈ log.record,
    (log.record.countP fun other => decide (other.origin = .submission ∧ other.tenantId = entry.tenantId ∧
      other.senderId = entry.senderId)) ≤ velocityThreshold → entry.reported = false

/-- Whoever reports the velocity has been preceded by as many evaluations as the threshold. -/
def Late (entry : EvaluationEntry) (before : List EvaluationEntry) : Prop :=
  entry.reported = true → velocityThreshold ≤ before.countP entry.same

def Exact (entry : EvaluationEntry) (before : List EvaluationEntry) : Prop :=
  entry.reported = true ↔ velocityThreshold ≤ before.countP entry.same

/-- The clock of the process is that of Redis. -/
def ClocksAgree (monitored : Monitored) (action : MonitoredAction) : Prop :=
  ∀ call ∈ monitored.evaluates action, call.clock.redisNow = call.clock.now

/-! ### One step -/

/-- A step evaluates nothing and leaves the counters alone, or it makes one call, which is written down. -/
theorem step_cases {monitored after : Monitored} {action : MonitoredAction} (h : monitored.step action = some after) :
    (after.counters = monitored.counters ∧ monitored.sees action after = []) ∨
      ∃ call, monitored.evaluates action = some call ∧
        after.counters = (evaluate call.policy call.clock monitored.counters call.input).2 ∧
        monitored.sees action after = [call.entry monitored.counters] := by
  have hevaluated : ∀ world : FraudEvaluationResult → Option World,
      ((monitored.evaluates action).bind fun call =>
        let evaluated := evaluate call.policy call.clock monitored.counters call.input
        (world evaluated.1).map fun world => (⟨world, evaluated.2⟩ : Monitored)) = some after →
      ∃ call, monitored.evaluates action = some call ∧
        after.counters = (evaluate call.policy call.clock monitored.counters call.input).2 ∧
        monitored.sees action after = [call.entry monitored.counters] := by
    intro world hworld
    obtain ⟨call, hcall, hafter⟩ := Option.bind_eq_some_iff.1 hworld
    obtain ⟨world, -, rfl⟩ := Option.map_eq_some_iff.1 hafter
    refine ⟨call, hcall, rfl, ?_⟩
    unfold Monitored.sees
    rw [hcall]
    rfl
  cases action with
  | handle action =>
    refine .inl ?_
    unfold Monitored.step at h
    dsimp only at h
    split at h
    · obtain ⟨world, -, rfl⟩ := Option.map_eq_some_iff.1 h
      exact ⟨rfl, rfl⟩
    · cases h
  | submit => exact .inr (hevaluated (fun evaluation => monitored.afterEvaluation evaluation _) h)
  | dispatch => exact .inr (hevaluated (fun evaluation => monitored.afterEvaluation evaluation _) h)
  | consume => exact .inr (hevaluated (fun evaluation => monitored.afterEvaluation evaluation _) h)

/-- The evaluations of a tenant and a sender in a minute. -/
def evaluations (record : List EvaluationEntry) (tenantId : TenantId) (senderId : String) (now : Nat) : Nat :=
  record.countP fun entry =>
    decide (entry.tenantId = tenantId ∧ entry.senderId = senderId ∧ entry.minute = minute now)

section Entry

variable {record : List EvaluationEntry} {counters : Counters} (call : EvaluationCall)

theorem reported_entry : (call.entry counters).reported = true ↔
    velocityThreshold < ((counters (velocityKey call.input.tenantId call.input.senderId call.clock.now)).hit
      call.clock.redisNow 60000).1 := by
  show decide _ = true ↔ _
  rw [decide_eq_true_iff, mem_reasons_evaluate]
  rfl

theorem evaluations_append (tenantId : TenantId) (senderId : String) (now : Nat) :
    evaluations (record ++ [call.entry counters]) tenantId senderId now =
      evaluations record tenantId senderId now +
        if velocityKey call.input.tenantId call.input.senderId call.clock.now = velocityKey tenantId senderId now
          then 1 else 0 := by
  have hkey : (call.input.tenantId = tenantId ∧ call.input.senderId = senderId ∧ minute call.clock.now = minute now) ↔
      velocityKey call.input.tenantId call.input.senderId call.clock.now = velocityKey tenantId senderId now := by
    constructor
    · rintro ⟨rfl, rfl, hminute⟩
      unfold velocityKey
      rw [hminute]
    · exact velocityKey_inj
  unfold evaluations
  rw [List.countP_append, List.countP_singleton]
  congr 1
  by_cases h : velocityKey call.input.tenantId call.input.senderId call.clock.now = velocityKey tenantId senderId now
  · rw [if_pos h]
    exact if_pos (decide_eq_true (hkey.2 h))
  · rw [if_neg h]
    exact if_neg fun htrue => h (hkey.1 (of_decide_eq_true htrue))

end Entry

/-! ### The counters and the record -/

/-- `P minute` relates the cell of each velocity key to the evaluations that are written down for it. -/
def Tallied (P : Nat → Cell Nat → Nat → Prop) (counters : Counters) (record : List EvaluationEntry) : Prop :=
  ∀ tenantId senderId now,
    P (minute now) (counters (velocityKey tenantId senderId now)) (evaluations record tenantId senderId now)

theorem Tallied.evaluate {P : Nat → Cell Nat → Nat → Prop} {counters : Counters} {record : List EvaluationEntry}
    (h : Tallied P counters record) (call : EvaluationCall)
    (hhit : ∀ cell n, P (minute call.clock.now) cell n →
      P (minute call.clock.now) (cell.hit call.clock.redisNow 60000).2 (n + 1)) :
    Tallied P (evaluate call.policy call.clock counters call.input).2 (record ++ [call.entry counters]) := by
  intro tenantId senderId now
  have hbefore := h tenantId senderId now
  rw [evaluate_velocity, evaluations_append]
  by_cases hkey :
      velocityKey call.input.tenantId call.input.senderId call.clock.now = velocityKey tenantId senderId now
  · rw [if_pos hkey, if_pos hkey]
    have hminute := (velocityKey_inj hkey).2.2
    rw [← hminute] at hbefore ⊢
    exact hhit _ _ hbefore
  · rw [if_neg hkey, if_neg hkey]
    exact hbefore

/-- Redis may count fewer than have been made, when a counter expires in its minute. -/
abbrev NotMore : Nat → Cell Nat → Nat → Prop := fun _ cell n => cell.AtMost n

/-- No counter expires before its minute is over. -/
abbrev All : Nat → Cell Nat → Nat → Prop := fun minute cell n => cell.Counts n (((minute + 1) * 60000 : Nat) : Int)

theorem All.hit {now : Nat} {cell : Cell Nat} {n : Nat} (h : All (minute now) cell n) :
    (cell.hit now 60000).1 = n + 1 ∧ All (minute now) (cell.hit now 60000).2 (n + 1) := by
  unfold minute at h ⊢
  exact Cell.Counts.hit h (by omega) (by omega)

/-- What a step keeps of the tally, and what it writes down. -/
theorem Tallied.step {P : Nat → Cell Nat → Nat → Prop} {Q : EvaluationEntry → List EvaluationEntry → Prop}
    {monitored after : Monitored} {record : List EvaluationEntry} {action : MonitoredAction}
    (htallied : Tallied P monitored.counters record) (hrecord : Preceded Q record)
    (hstep : monitored.step action = some after)
    (hhit : ∀ call ∈ monitored.evaluates action, ∀ cell n, P (minute call.clock.now) cell n →
      P (minute call.clock.now) (cell.hit call.clock.redisNow 60000).2 (n + 1))
    (hentry : ∀ call ∈ monitored.evaluates action, ∀ record : List EvaluationEntry,
      P (minute call.clock.now)
        (monitored.counters (velocityKey call.input.tenantId call.input.senderId call.clock.now))
        (record.countP (call.entry monitored.counters).same) → Q (call.entry monitored.counters) record) :
    Tallied P after.counters (record ++ monitored.sees action after) ∧
      Preceded Q (record ++ monitored.sees action after) := by
  rcases step_cases hstep with ⟨hcounters, hsees⟩ | ⟨call, hcall, hcounters, hsees⟩
  · rw [hcounters, hsees, List.append_nil]
    exact ⟨htallied, hrecord⟩
  · rw [hcounters, hsees]
    exact ⟨htallied.evaluate call (hhit call hcall),
      hrecord.snoc (hentry call hcall record (htallied _ _ _))⟩

theorem late_of_reaches {wallets : TenantId → Option WalletRow} {log : FraudLog}
    (h : Reaches FraudLog.step (FraudLog.start wallets) log) : Preceded Late log.record := by
  have hinvariant := Runs.record_invariant_reaches
    (P := fun monitored record => Tallied NotMore monitored.counters record ∧ Preceded Late record)
    (Q := fun _ => True) h (fun _ _ => trivial) ⟨fun _ _ _ _ hentry => (nomatch hentry), Preceded.nil⟩ ?_
  · exact hinvariant.2
  · rintro monitored record action after - ⟨htallied, hlate⟩ hstep
    refine htallied.step hlate hstep (fun call _ cell n hcell => hcell.hit.2) fun call _ record hcell => ?_
    intro hreported
    rw [reported_entry] at hreported
    have hle := @Cell.AtMost.hit call.clock.redisNow 60000 _ _ hcell
    omega

theorem exact_of_runs {wallets : TenantId → Option WalletRow} {log : FraudLog}
    (h : Runs FraudLog.step (fun log action => ClocksAgree log.state action) (FraudLog.start wallets) log) :
    Preceded Exact log.record := by
  have hinvariant := Runs.record_invariant
    (P := fun monitored record => Tallied All monitored.counters record ∧ Preceded Exact record)
    (Q := fun _ => True) h (fun _ _ => trivial) ⟨fun _ _ _ => .inl ⟨rfl, rfl⟩, Preceded.nil⟩ ?_
  · exact hinvariant.2
  · rintro monitored record action after - ⟨htallied, hexact⟩ hagree hstep
    refine htallied.step hexact hstep (fun call hcall cell n hcell => ?_) fun call hcall record hcell => ?_
    · rw [hagree call hcall]
      exact (All.hit hcell).2
    · have hcount := (All.hit hcell).1
      unfold Exact
      rw [reported_entry, hagree call hcall, hcount]
      omega

/-! ### One message, many evaluations -/

section Consumer

variable {policy : FraudPolicy} {fraudClock : FraudClock} {event : Nat} {call : EvaluationCall}

theorem step_consume {log : FraudLog} (h : log.state.evaluates (.consume policy fraudClock event) = some call) :
    log.step (.consume policy fraudClock event) =
      some ⟨⟨log.state.world, (evaluate call.policy call.clock log.state.counters call.input).2⟩,
        log.record ++ [call.entry log.state.counters]⟩ := by
  have hstep : log.state.step (.consume policy fraudClock event) =
      some ⟨log.state.world, (evaluate call.policy call.clock log.state.counters call.input).2⟩ := by
    show (log.state.evaluates _).bind _ = _
    rw [h]
    rfl
  unfold FraudLog.step recorded
  rw [hstep]
  show some _ = some _
  unfold Monitored.sees
  rw [h]
  rfl

/-- A consumer that is given one event `n` times makes `n` evaluations. -/
theorem consume_many (log : FraudLog) (n : Nat)
    (hcall : log.state.evaluates (.consume policy fraudClock event) = some call)
    (hclock : call.clock.redisNow = call.clock.now) :
    ∃ log' entries, Runs FraudLog.step (fun log action => ClocksAgree log.state action) log log' ∧
      log'.state.world = log.state.world ∧ log'.record = log.record ++ entries ∧ entries.length = n ∧
      ∀ entry ∈ entries, ∃ counters, entry = call.entry counters := by
  induction n with
  | zero => exact ⟨log, [], .refl, rfl, (List.append_nil _).symm, rfl, fun _ h => (nomatch h)⟩
  | succ n ih =>
    obtain ⟨log', entries, hrun, hworld, hrecord, hlength, hentries⟩ := ih
    have hcall' : log'.state.evaluates (.consume policy fraudClock event) = some call := by
      rw [← hcall]
      unfold Monitored.evaluates
      rw [hworld]
    have hagree : ClocksAgree log'.state (.consume policy fraudClock event) := by
      intro other hother
      rw [hcall'] at hother
      cases hother
      exact hclock
    refine ⟨_, entries ++ [call.entry log'.state.counters], .tail _ hrun hagree (step_consume hcall'), hworld,
      ?_, ?_, ?_⟩
    · rw [hrecord, List.append_assoc]
    · rw [List.length_append, hlength]
      rfl
    · intro entry hentry
      rcases List.mem_append.1 hentry with h | h
      · exact hentries entry h
      · exact ⟨_, List.mem_singleton.1 h⟩

end Consumer

end FraudLog

def Sample.fraudPolicy : FraudPolicy := ⟨[], 2, id⟩

def Sample.fraudClock : FraudClock := ⟨0, 0, 0, 0⟩

/-- A submission, and its dispatch event in the outbox. -/
def Sample.evaluatedOnce : List MonitoredAction :=
  [.submit fraudPolicy fraudClock true (clock 1) submission, .handle (.deliver 0),
    .handle (.advance 0 (env 2 (services .allow 3 (accepts "p"))))]

/-- The event is given to a consumer, and the worker dispatches it. -/
def Sample.evaluatedThrice : List MonitoredAction :=
  evaluatedOnce ++ [.consume fraudPolicy fraudClock 1, .handle (.deliver 1),
    .dispatch fraudPolicy fraudClock true 0 (env 3 (services .allow 3 (accepts "p")))]

def Sample.clocksAgree (log : FraudLog) (action : MonitoredAction) : Bool :=
  (log.state.evaluates action).all fun call => decide (call.clock.redisNow = call.clock.now)

namespace FraudLog

theorem runs_of_clocksAgree {actions : List MonitoredAction} {log log' : FraudLog}
    (h : execute (guarded FraudLog.step Sample.clocksAgree) log actions = some log') :
    Runs FraudLog.step (fun log action => ClocksAgree log.state action) log log' := by
  refine (runs_of_execute h).mono fun log action hagree call hcall => ?_
  exact of_decide_eq_true ((Option.all_eq_true _ _).1 hagree call hcall)

/-- Over all runs, an evaluation that reports the velocity has been preceded by at least 5000 evaluations of its tenant
and sender in its minute, each of them one at a submission, an attempt to dispatch or a delivery to a fraud consumer.
If the clocks agree, it reports the velocity exactly then. -/
theorem velocity_counts_evaluations (wallets : TenantId → Option WalletRow) :
    (∀ log, Reaches FraudLog.step (FraudLog.start wallets) log → Preceded Late log.record) ∧
      ∀ log, Runs FraudLog.step (fun log action => ClocksAgree log.state action) (FraudLog.start wallets) log →
        Preceded Exact log.record :=
  ⟨fun _ => late_of_reaches, fun _ => exact_of_runs⟩

theorem velocity_counts_evaluations_thrice : ∃ log : FraudLog,
    execute (guarded FraudLog.step Sample.clocksAgree) (FraudLog.start (Sample.wallets 100)) Sample.evaluatedThrice =
      some log ∧ log.record.length = 3 ∧ Preceded Late log.record ∧ Preceded Exact log.record := by
  have hrun : (execute (guarded FraudLog.step Sample.clocksAgree) (FraudLog.start (Sample.wallets 100))
      Sample.evaluatedThrice).any (fun log => decide (log.record.length = 3)) = true := by decide +kernel
  obtain ⟨log, hexecute, hlength⟩ := (Option.any_eq_true _ _).1 hrun
  have hruns := runs_of_clocksAgree hexecute
  have hcounts := velocity_counts_evaluations (Sample.wallets 100)
  exact ⟨log, hexecute, of_decide_eq_true hlength, hcounts.1 log hruns.reaches, hcounts.2 log hruns⟩

/-- One message, whose event is given 5000 times to a consumer, and once more. -/
theorem one_message_reports_velocity : ∃ log : FraudLog,
    Reaches FraudLog.step (FraudLog.start (Sample.wallets 100)) log ∧ ¬ CountsMessages log := by
  have hrun : (execute (guarded FraudLog.step Sample.clocksAgree) (FraudLog.start (Sample.wallets 100))
      Sample.evaluatedOnce).any (fun log => decide (log.record.length = 1 ∧
        (log.state.evaluates (.consume Sample.fraudPolicy Sample.fraudClock 1)).isSome = true)) = true := by
    decide +kernel
  obtain ⟨log, hexecute, hlog⟩ := (Option.any_eq_true _ _).1 hrun
  obtain ⟨hone, hsome⟩ := of_decide_eq_true hlog
  obtain ⟨call, hcall⟩ := Option.isSome_iff_exists.1 hsome
  obtain ⟨input, -, rfl⟩ := Option.map_eq_some_iff.1 hcall
  obtain ⟨log', entries, hruns, -, hrecord, hlength, hentries⟩ := consume_many log 5001 hcall rfl
  have hstart := (runs_of_clocksAgree hexecute).trans hruns
  refine ⟨log', hstart.reaches, fun hcounts => ?_⟩
  obtain ⟨before, last, rfl⟩ : ∃ before last, entries = before ++ [last] := by
    rcases List.eq_nil_or_concat entries with rfl | ⟨before, last, rfl⟩
    · simp at hlength
    · exact ⟨before, last, by simp⟩
  -- The last evaluation reports, as the 5000 deliveries before it were evaluated too.
  have hreported : last.reported = true := by
    have hexact := exact_of_runs hstart (log.record ++ before) last [] (by rw [hrecord, List.append_assoc])
    obtain ⟨counters, rfl⟩ := hentries last (by simp)
    refine hexact.2 ?_
    rw [List.countP_append]
    have hall : before.countP
        (EvaluationCall.entry ⟨.consumer, Sample.fraudPolicy, Sample.fraudClock, input⟩ counters).same =
          before.length := by
      refine List.countP_eq_length.2 fun entry hentry => ?_
      obtain ⟨counters', rfl⟩ := hentries entry (by simp [hentry])
      exact decide_eq_true ⟨rfl, rfl, rfl⟩
    simp only [List.length_append, List.length_singleton] at hlength
    unfold velocityThreshold
    omega
  -- Yet there has been one submission at most.
  have hmem : last ∈ log'.record := by
    rw [hrecord]
    simp
  have hfew := hcounts last hmem ?_
  · rw [hfew] at hreported
    cases hreported
  · rw [hrecord, List.countP_append]
    have hnone : (before ++ [last]).countP (fun other => decide (other.origin = .submission ∧
        other.tenantId = last.tenantId ∧ other.senderId = last.senderId)) = 0 := by
      refine List.countP_eq_zero.2 fun entry hentry => ?_
      obtain ⟨counters, rfl⟩ := hentries entry hentry
      simp [EvaluationCall.entry]
    have hle := @List.countP_le_length _ (fun other : EvaluationEntry => decide (other.origin = .submission ∧
      other.tenantId = last.tenantId ∧ other.senderId = last.senderId)) log.record
    unfold velocityThreshold
    omega

end FraudLog

end SmsPlatform
