import Mathlib.Data.List.Sort
import SmsPlatform.Lib.Rows
import SmsPlatform.Lib.Runs
import SmsPlatform.Outbox.Outbox

/-!
# The outbox relay

`outbox-relay.service.ts` as a system: the rows of `outbox_events` with the columns the relay works on, and any number
of executions of `flushBatch`.  An execution claims a batch in one transaction, and then, for each row of its copy,
publishes it and updates the row; between any two of these statements other executions run, time passes, and the
process may crash.  A row's key and the columns of its event never change.

The UPDATE to `published` stands in the same `try` as the publish call, so the `catch` records a failure when it throws,
whether PostgreSQL has executed it or not (`updateThrows`).  A failure UPDATE that throws ends the execution, which is a
crash before it or after it.

Timestamps are microseconds.  `attempts`, `recorded` and `unmarked` are no part of the program: they record the calls of
`kafkaService.publish`, the failure UPDATEs and the UPDATEs to `published` that have thrown, so that the development can
speak about them.
-/

namespace SmsPlatform

inductive OutboxStatus
  | pending | publishing | published | failed
  deriving DecidableEq, Repr

abbrev EventKey := SqlDate × Nat

/-- The primary key of `outbox_events`. -/
def OutboxRow.key (event : OutboxRow) : EventKey := (event.eventDate, event.id)

/-- A row of `outbox_events`: what `enqueue` has inserted, and the columns of the relay. -/
structure OutboxEventRow where
  event : OutboxRow
  status : OutboxStatus
  retryCount : Nat
  nextAttemptAt : Timestamp
  createdAt : Timestamp
  processedAt : Option Timestamp
  lastError : Option String
  deriving DecidableEq

/-- The copy of a row that the relay works on. -/
structure PendingOutboxRow where
  eventDate : SqlDate
  id : Nat
  topicName : KafkaTopic
  partitionKey : String
  payload : EventPayload
  retryCount : Nat
  deriving DecidableEq

def OutboxEventRow.key (row : OutboxEventRow) : EventKey := row.event.key

def PendingOutboxRow.key (row : PendingOutboxRow) : EventKey := (row.eventDate, row.id)

/-- The columns that the relay selects. -/
def OutboxEventRow.copy (row : OutboxEventRow) : PendingOutboxRow where
  eventDate := row.event.eventDate
  id := row.event.id
  topicName := row.event.topicName
  partitionKey := row.event.partitionKey
  payload := row.event.payload
  retryCount := row.retryCount

/-- The copy holds the event's own message. -/
def PendingOutboxRow.Describes (row : PendingOutboxRow) (event : OutboxRow) : Prop :=
  row.key = event.key ∧ row.topicName = event.topicName ∧ row.partitionKey = event.partitionKey ∧
    row.payload = event.payload

theorem OutboxEventRow.copy_describes (row : OutboxEventRow) : row.copy.Describes row.event := ⟨rfl, rfl, rfl, rfl⟩

/-! ### The statements -/

structure RelayConfig where
  batchSize : Nat
  publishLeaseSeconds : Nat
  batchSize_pos : 1 ≤ batchSize
  publishLeaseSeconds_ge : 5 ≤ publishLeaseSeconds

def seconds (n : Nat) : Int := n * 1000000

/-- The row that the INSERT of an event adds. -/
def insertedRow (clock : TxClock) (event : OutboxEventInput) (id : Nat) : OutboxEventRow where
  event := event.row clock id
  status := .pending
  retryCount := 0
  nextAttemptAt := (event.row clock id).nextAttemptAt
  createdAt := clock.now
  processedAt := none
  lastError := none

/-- The first UPDATE of a claim: rows whose lease has expired. -/
def resetExpired (now : Timestamp) (rows : List OutboxEventRow) : List OutboxEventRow :=
  Rows.update (fun row => decide (row.status = .publishing ∧ row.nextAttemptAt ≤ now))
    (fun row => { row with status := .pending }) rows

/-- The WHERE clause of the SELECT. -/
def eligible (now : Timestamp) (row : OutboxEventRow) : Bool :=
  decide (row.status = .pending ∧ row.nextAttemptAt ≤ now)

/-- SELECT … ORDER BY created_at LIMIT … FOR UPDATE SKIP LOCKED.  `locked` are the rows that other transactions hold
locked, `tie` is the order in which rows created at the same time are delivered. -/
def selectPending (config : RelayConfig) (now : Timestamp) (locked : EventKey → Bool) (tie : OutboxEventRow → Nat)
    (rows : List OutboxEventRow) : List OutboxEventRow :=
  ((rows.filter fun row => eligible now row && !locked row.key).insertionSort fun a b =>
    ((compare a.createdAt b.createdAt).then (compare (tie a) (tie b))).isLE = true).take config.batchSize

/-- The UPDATEs of the selected rows. -/
def markPublishing (config : RelayConfig) (now : Timestamp) (selected : List OutboxEventRow)
    (rows : List OutboxEventRow) : List OutboxEventRow :=
  Rows.update (fun row => decide (row.key ∈ selected.map OutboxEventRow.key))
    (fun row => { row with status := .publishing, nextAttemptAt := now + seconds config.publishLeaseSeconds }) rows

/-- The UPDATE after a publish that has returned. -/
def markPublished (now : Timestamp) (key : EventKey) (rows : List OutboxEventRow) : List OutboxEventRow :=
  Rows.update (fun row => decide (row.key = key))
    (fun row => { row with status := .published, processedAt := some now }) rows

/-- The UPDATE after a publish that has thrown. -/
def markFailure (now : Timestamp) (key : EventKey) (error : String) (rows : List OutboxEventRow) :
    List OutboxEventRow :=
  Rows.update (fun row => decide (row.key = key))
    (fun row => { row with
      status := if 10 ≤ row.retryCount + 1 then .failed else .pending
      retryCount := row.retryCount + 1
      nextAttemptAt := now + seconds (min 300 (max 5 ((row.retryCount + 1) * 5)))
      lastError := some error }) rows

/-- `retry_count` is a SMALLINT: the failure UPDATE raises an error at its limit. -/
def retryCountOverflows (key : EventKey) (rows : List OutboxEventRow) : Bool :=
  rows.any fun row => decide (row.key = key ∧ 32767 ≤ row.retryCount)

/-! ### The system -/

/-- Where an execution of `flushBatch` stands with the row it is working on. -/
inductive PublishPhase
  | publishing
  | acknowledged
  | threw (error : String)
  deriving DecidableEq

/-- An execution of `flushBatch` after its claim: the row it is working on, and the rows after it. -/
structure FlushExecution where
  row : PendingOutboxRow
  rest : List PendingOutboxRow
  phase : PublishPhase

def FlushExecution.copies (flush : FlushExecution) : List PendingOutboxRow := flush.row :: flush.rest

/-- The executions that go on with a list of rows: one, or none when the loop is over. -/
def startFlush : List PendingOutboxRow → List FlushExecution
  | [] => []
  | row :: rest => [⟨row, rest, .publishing⟩]

/-- What `kafkaService.publish` does.  It may throw although Kafka has accepted the message. -/
inductive PublishOutcome
  | returned
  | threw (error : String) (accepted : Bool)

def PublishOutcome.accepted : PublishOutcome → Bool
  | .returned => true
  | .threw _ accepted => accepted

def PublishOutcome.failed : PublishOutcome → Bool
  | .returned => false
  | .threw _ _ => true

def PublishOutcome.phase : PublishOutcome → PublishPhase
  | .returned => .acknowledged
  | .threw error _ => .threw error

structure PublishAttempt where
  row : PendingOutboxRow
  time : Timestamp
  accepted : Bool
  failed : Bool
  deriving DecidableEq

structure Relay where
  time : Timestamp
  rows : List OutboxEventRow
  flushes : List FlushExecution
  attempts : List PublishAttempt
  recorded : List EventKey
  unmarked : List EventKey

inductive RelayAction
  | enqueue (time : Timestamp) (clock : TxClock) (event : OutboxEventInput)
  | claim (time now : Timestamp) (locked : EventKey → Bool) (tie : OutboxEventRow → Nat)
  | publish (time : Timestamp) (index : Nat) (outcome : PublishOutcome)
  | update (time : Timestamp) (index : Nat)
  | updateThrows (time : Timestamp) (index : Nat) (error : String) (executed : Bool)
  | crash (time : Timestamp) (index : Nat)

def RelayAction.time : RelayAction → Timestamp
  | .enqueue time _ _ => time
  | .claim time _ _ _ => time
  | .publish time _ _ => time
  | .update time _ => time
  | .updateThrows time _ _ _ => time
  | .crash time _ => time

namespace Relay

def initial (time : Timestamp) : Relay where
  time := time
  rows := []
  flushes := []
  attempts := []
  recorded := []
  unmarked := []

variable (relay : Relay)

/-- The events in the table, in the order of their insertion. -/
def events : List OutboxRow := relay.rows.map OutboxEventRow.event

/-- A committed `enqueue`, with its ON CONFLICT (event_date, dedupe_key) DO NOTHING. -/
def enqueue (clock : TxClock) (event : OutboxEventInput) : Relay :=
  if relay.events.any fun row => decide (row.eventDate = clock.currentDate ∧ row.dedupeKey = event.dedupeKey) then relay
  else { relay with rows := relay.rows ++ [insertedRow clock event relay.rows.length] }

/-- The rows that the SELECT of a claim returns. -/
def selected (config : RelayConfig) (now : Timestamp) (locked : EventKey → Bool) (tie : OutboxEventRow → Nat) :
    List OutboxEventRow :=
  selectPending config now locked tie (resetExpired now relay.rows)

/-- The claim transaction of an execution; `now` is its start. -/
def claim (config : RelayConfig) (now : Timestamp) (locked : EventKey → Bool) (tie : OutboxEventRow → Nat) : Relay :=
  let selected := relay.selected config now locked tie
  { relay with
    rows := markPublishing config now selected (resetExpired now relay.rows)
    flushes := startFlush (selected.map OutboxEventRow.copy) ++ relay.flushes }

def publish (flush : FlushExecution) (others : List FlushExecution) (outcome : PublishOutcome) : Relay :=
  { relay with
    flushes := { flush with phase := outcome.phase } :: others
    attempts := ⟨flush.row, relay.time, outcome.accepted, outcome.failed⟩ :: relay.attempts }

def acknowledge (flush : FlushExecution) (others : List FlushExecution) : Relay :=
  { relay with
    rows := markPublished relay.time flush.row.key relay.rows
    flushes := startFlush flush.rest ++ others }

/-- The UPDATE to `published` throws, and the execution goes on in its `catch`. -/
def throwUpdate (flush : FlushExecution) (others : List FlushExecution) (error : String) (executed : Bool) : Relay :=
  { relay with
    rows := if executed then markPublished relay.time flush.row.key relay.rows else relay.rows
    flushes := { flush with phase := .threw error } :: others
    unmarked := flush.row.key :: relay.unmarked }

def recordFailure (flush : FlushExecution) (others : List FlushExecution) (error : String) : Relay :=
  if retryCountOverflows flush.row.key relay.rows then { relay with flushes := others }
  else { relay with
    rows := markFailure relay.time flush.row.key error relay.rows
    flushes := startFlush flush.rest ++ others
    recorded := flush.row.key :: relay.recorded }

/-- What an action does once the clock shows its time. -/
def act (config : RelayConfig) : RelayAction → Option Relay
  | .enqueue _ clock event => some (relay.enqueue clock event)
  | .claim time now locked tie => if now ≤ time then some (relay.claim config now locked tie) else none
  | .publish _ index outcome =>
    relay.flushes[index]?.bind fun flush =>
      if flush.phase = .publishing then some (relay.publish flush (relay.flushes.eraseIdx index) outcome) else none
  | .update _ index =>
    relay.flushes[index]?.bind fun flush =>
      match flush.phase with
      | .publishing => none
      | .acknowledged => some (relay.acknowledge flush (relay.flushes.eraseIdx index))
      | .threw error => some (relay.recordFailure flush (relay.flushes.eraseIdx index) error)
  | .updateThrows _ index error executed =>
    relay.flushes[index]?.bind fun flush =>
      if flush.phase = .acknowledged then some (relay.throwUpdate flush (relay.flushes.eraseIdx index) error executed)
      else none
  | .crash _ index =>
    if index < relay.flushes.length then some { relay with flushes := relay.flushes.eraseIdx index } else none

/-- One step at the time of the action; time does not go back. -/
def step (config : RelayConfig) (relay : Relay) (action : RelayAction) : Option Relay :=
  if relay.time ≤ action.time then { relay with time := action.time }.act config action else none

/-! ### What a step can do -/

/-- Everything an action can do, at its time. -/
inductive Stepped (config : RelayConfig) (relay : Relay) : RelayAction → Relay → Prop
  | enqueued (time : Timestamp) (clock : TxClock) (event : OutboxEventInput) :
      Stepped config relay (.enqueue time clock event) (relay.enqueue clock event)
  | claimed {now : Timestamp} (time : Timestamp) (locked : EventKey → Bool) (tie : OutboxEventRow → Nat)
      (hnow : now ≤ relay.time) :
      Stepped config relay (.claim time now locked tie) (relay.claim config now locked tie)
  | published {index : Nat} {flush : FlushExecution} (time : Timestamp) (outcome : PublishOutcome)
      (hflush : relay.flushes[index]? = some flush) (hphase : flush.phase = .publishing) :
      Stepped config relay (.publish time index outcome) (relay.publish flush (relay.flushes.eraseIdx index) outcome)
  | acknowledged {index : Nat} {flush : FlushExecution} (time : Timestamp)
      (hflush : relay.flushes[index]? = some flush) (hphase : flush.phase = .acknowledged) :
      Stepped config relay (.update time index) (relay.acknowledge flush (relay.flushes.eraseIdx index))
  | failed {index : Nat} {flush : FlushExecution} {error : String} (time : Timestamp)
      (hflush : relay.flushes[index]? = some flush) (hphase : flush.phase = .threw error) :
      Stepped config relay (.update time index) (relay.recordFailure flush (relay.flushes.eraseIdx index) error)
  | unmarked {index : Nat} {flush : FlushExecution} (time : Timestamp) (error : String) (executed : Bool)
      (hflush : relay.flushes[index]? = some flush) (hphase : flush.phase = .acknowledged) :
      Stepped config relay (.updateThrows time index error executed)
        (relay.throwUpdate flush (relay.flushes.eraseIdx index) error executed)
  | crashed {index : Nat} {flush : FlushExecution} (time : Timestamp)
      (hflush : relay.flushes[index]? = some flush) :
      Stepped config relay (.crash time index) { relay with flushes := relay.flushes.eraseIdx index }

variable {config : RelayConfig} {relay relay' : Relay} {action : RelayAction}

theorem step_cases (h : relay.step config action = some relay') :
    relay.time ≤ action.time ∧ Stepped config { relay with time := action.time } action relay' := by
  unfold step at h
  split at h
  · rename_i htime
    refine ⟨htime, ?_⟩
    cases action with
    | enqueue time clock event =>
      cases h
      exact .enqueued time clock event
    | claim time now locked tie =>
      unfold act at h
      dsimp only at h
      split at h
      · rename_i hnow
        cases h
        exact .claimed time locked tie hnow
      · cases h
    | publish time index outcome =>
      obtain ⟨flush, hflush, h⟩ := Option.bind_eq_some_iff.1 h
      split at h
      · rename_i hphase
        cases h
        exact .published time outcome hflush hphase
      · cases h
    | update time index =>
      obtain ⟨flush, hflush, h⟩ := Option.bind_eq_some_iff.1 h
      split at h
      · cases h
      · rename_i hphase
        cases h
        exact .acknowledged time hflush hphase
      · rename_i error hphase
        cases h
        exact .failed time hflush hphase
    | updateThrows time index error executed =>
      obtain ⟨flush, hflush, h⟩ := Option.bind_eq_some_iff.1 h
      split at h
      · rename_i hphase
        cases h
        exact .unmarked time error executed hflush hphase
      · cases h
    | crash time index =>
      unfold act at h
      dsimp only at h
      split at h
      · rename_i hindex
        cases h
        exact .crashed time (List.getElem?_eq_getElem hindex)
      · cases h
  · cases h

/-! ### The events stay -/

section Events

variable (relay) (config)

theorem events_enqueue (clock : TxClock) (event : OutboxEventInput) :
    ((∃ row ∈ relay.events, row.eventDate = clock.currentDate ∧ row.dedupeKey = event.dedupeKey) ∧
        relay.enqueue clock event = relay) ∨
      ((∀ row ∈ relay.events, row.eventDate = clock.currentDate → row.dedupeKey ≠ event.dedupeKey) ∧
        relay.enqueue clock event =
          { relay with rows := relay.rows ++ [insertedRow clock event relay.rows.length] }) := by
  unfold enqueue
  split
  · rename_i hany
    rw [List.any_eq_true] at hany
    obtain ⟨row, hrow, hkey⟩ := hany
    exact .inl ⟨⟨row, hrow, of_decide_eq_true hkey⟩, rfl⟩
  · rename_i hany
    refine .inr ⟨fun row hrow hdate hkey => hany ?_, rfl⟩
    rw [List.any_eq_true]
    exact ⟨row, hrow, decide_eq_true ⟨hdate, hkey⟩⟩

theorem events_resetExpired (now : Timestamp) (rows : List OutboxEventRow) :
    (resetExpired now rows).map OutboxEventRow.event = rows.map OutboxEventRow.event :=
  Rows.map_update (by intro row; rfl) rows

theorem events_claim (now : Timestamp) (locked : EventKey → Bool) (tie : OutboxEventRow → Nat) :
    (relay.claim config now locked tie).events = relay.events :=
  (Rows.map_update (by intro row; rfl) _).trans (events_resetExpired now relay.rows)

theorem events_acknowledge (flush : FlushExecution) (others : List FlushExecution) :
    (relay.acknowledge flush others).events = relay.events :=
  Rows.map_update (by intro row; rfl) _

theorem events_throwUpdate (flush : FlushExecution) (others : List FlushExecution) (error : String) (executed : Bool) :
    (relay.throwUpdate flush others error executed).events = relay.events := by
  cases executed with
  | true => exact Rows.map_update (by intro row; rfl) _
  | false => rfl

theorem events_recordFailure (flush : FlushExecution) (others : List FlushExecution) (error : String) :
    (relay.recordFailure flush others error).events = relay.events := by
  unfold recordFailure
  split
  · rfl
  · exact Rows.map_update (by intro row; rfl) _

end Events

/-- A step inserts at most one event, at the end of the table. -/
theorem Stepped.events (h : Stepped config relay action relay') : ∃ tail, relay'.events = relay.events ++ tail := by
  cases h with
  | enqueued time clock event =>
    rcases relay.events_enqueue clock event with ⟨-, hsame⟩ | ⟨-, hnew⟩
    · exact ⟨[], by rw [hsame, List.append_nil]⟩
    · refine ⟨[event.row clock relay.rows.length], ?_⟩
      rw [hnew]
      exact List.map_append
  | claimed time locked tie hnow => exact ⟨[], by rw [events_claim, List.append_nil]⟩
  | published time outcome hflush hphase => exact ⟨[], (List.append_nil _).symm⟩
  | acknowledged time hflush hphase => exact ⟨[], by rw [events_acknowledge, List.append_nil]⟩
  | failed time hflush hphase => exact ⟨[], by rw [events_recordFailure, List.append_nil]⟩
  | unmarked time error executed hflush hphase => exact ⟨[], by rw [events_throwUpdate, List.append_nil]⟩
  | crashed time hflush => exact ⟨[], (List.append_nil _).symm⟩

/-- No event is lost. -/
theorem events_of_reaches (h : Transition.Reaches (step config) relay relay') :
    ∃ tail, relay'.events = relay.events ++ tail := by
  refine h.relation (R := fun u v => ∃ tail, v.events = u.events ++ tail) ?_ ?_ ?_
  · exact fun u => ⟨[], (List.append_nil _).symm⟩
  · rintro u v w ⟨tail, hv⟩ ⟨tail', hw⟩
    exact ⟨tail ++ tail', by rw [hw, hv, List.append_assoc]⟩
  · intro u action v _ _ hstep
    exact (step_cases hstep).2.events

/-- On the events the system is the outbox of the pipeline: `enqueue` is its INSERT, and the relay touches none. -/
theorem events_eq_outbox {db : Db} (hdb : db.outbox = relay.events) (clock : TxClock) (event : OutboxEventInput) :
    (relay.enqueue clock event).events = (db.enqueue clock event).outbox := by
  have hlength : db.outbox.length = relay.rows.length := by
    rw [hdb]
    exact List.length_map _
  rcases relay.events_enqueue clock event with ⟨hkey, hsame⟩ | ⟨hnone, hnew⟩
  · rcases db.enqueue_outbox clock event with ⟨-, hdb', -⟩ | ⟨hfresh, -, -⟩
    · rw [hsame, hdb', hdb]
    · obtain ⟨row, hrow, hdate, hdedupe⟩ := hkey
      rw [hdb] at hfresh
      exact absurd hdedupe (hfresh row hrow hdate)
  · rcases db.enqueue_outbox clock event with ⟨hkey, -, -⟩ | ⟨-, hdb', -⟩
    · obtain ⟨row, hrow, hdate, hdedupe⟩ := hkey
      rw [hdb] at hrow
      exact absurd hdedupe (hnone row hrow hdate)
    · rw [hnew, hdb', hdb, ← hdb, hlength, hdb]
      exact List.map_append

end Relay

/-! ### A small instance -/

namespace Sample

def relayConfig : RelayConfig := ⟨10, 60, by decide, by decide⟩

/-- The event of a webhook. -/
def dlrEvent : OutboxEventInput where
  tenantId := none
  aggregateType := "dlr_webhook"
  aggregateId := "2026-01-01:1"
  eventType := .dlrReceived
  topicName := .smsDlr
  partitionKey := "1"
  dedupeKey := "dlr:2026-01-01:1"
  payload := .dlr ⟨day, 1, 1⟩

def enqueueAt (time : Timestamp) : RelayAction := .enqueue time (clock time) dlrEvent

def claimAt (time : Timestamp) : RelayAction := .claim time time (fun _ => false) fun _ => 0

/-- A round in which Kafka acknowledges the event, and then the database cannot be reached for a moment. -/
def unmarkedRound (time : Timestamp) : List RelayAction :=
  [claimAt time, .publish (time + 1) 0 .returned, .updateThrows (time + 2) 0 "connection terminated" false,
    .update (time + 3) 0]

/-- The table holds one row, of this status and with this number of failures. -/
def shows (status : OutboxStatus) (retryCount : Nat) (relay : Relay) : Bool :=
  decide (relay.rows.map (fun row => (row.status, row.retryCount)) = [(status, retryCount)])

theorem shows_eq {status : OutboxStatus} {retryCount : Nat} {relay : Relay} (h : shows status retryCount relay = true) :
    relay.rows.map (fun row => (row.status, row.retryCount)) = [(status, retryCount)] :=
  of_decide_eq_true h

end Sample

end SmsPlatform
