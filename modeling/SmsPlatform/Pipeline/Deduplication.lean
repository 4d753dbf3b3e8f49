import SmsPlatform.Outbox.AtLeastOnce
import SmsPlatform.Pipeline.Orphans

/-!
# Deduplication

The conflict target of `enqueue` is the pair of the date and the dedupe key, which `uq_outbox_dedupe` keeps unique.
So a key names at most one event of a date, in the table that the relay works on (`Relay.one_event_per_day`) and in
the outbox that the handlers fill (`outbox_deduplicated`).  Over two dates it may name two
(`redelivered_retry_enqueued_twice`).
-/

namespace SmsPlatform

/-- The columns of `uq_outbox_dedupe`. -/
def OutboxRow.dedupe (event : OutboxRow) : SqlDate × String := (event.eventDate, event.dedupeKey)

/-! ### The relay's table -/

namespace Relay

variable {config : RelayConfig} {relay : Relay}

/-- The rows satisfy the unique index on the date and the dedupe key. -/
def Deduplicated (relay : Relay) : Prop := Rows.Keyed OutboxRow.dedupe relay.events

theorem Deduplicated.step (h : relay.Deduplicated) {action : RelayAction} {relay' : Relay}
    (hstep : relay.step config action = some relay') : relay'.Deduplicated := by
  have hlater : Deduplicated { relay with time := action.time } := h
  have hsame : ∀ {u v : Relay}, v.events = u.events → u.Deduplicated → v.Deduplicated := by
    intro u v hevents hu
    unfold Deduplicated
    rw [hevents]
    exact hu
  cases (step_cases hstep).2 with
  | enqueued time clock event =>
    rcases Relay.events_enqueue { relay with time := time } clock event with ⟨-, hsame⟩ | ⟨hfresh, hnew⟩
    · show Deduplicated (Relay.enqueue { relay with time := time } clock event)
      rw [hsame]
      exact h
    · show Deduplicated (Relay.enqueue { relay with time := time } clock event)
      rw [hnew]
      unfold Deduplicated Relay.events
      rw [List.map_append]
      refine Rows.Keyed.append_fresh h ?_
      intro row hrow hkey
      exact hfresh row hrow (congrArg Prod.fst hkey) (congrArg Prod.snd hkey)
  | claimed time locked tie hnow => exact hsame (events_claim config _ _ locked tie) hlater
  | published time outcome hflush hphase => exact h
  | acknowledged time hflush hphase => exact hsame (events_acknowledge _ _ _) hlater
  | failed time hflush hphase => exact hsame (events_recordFailure _ _ _ _) hlater
  | unmarked time error executed hflush hphase => exact hsame (events_throwUpdate _ _ _ _ _) hlater
  | crashed time hflush => exact h

/-- However often and whenever an event is enqueued, one date holds at most one row with its key, and everything that
is published for the key and the date is the message of that row. -/
theorem one_event_per_day {time : Timestamp} (h : Transition.Reaches (step config) (Relay.initial time) relay) :
    relay.Deduplicated ∧ ∀ attempt ∈ relay.attempts, ∃ event ∈ relay.events, attempt.row.Describes event ∧
      ∀ event' ∈ relay.events, event'.eventDate = event.eventDate → event'.dedupeKey = event.dedupeKey →
        event' = event := by
  have hkeyed : relay.Deduplicated :=
    h.invariant List.nodup_nil fun _ _ _ hkeyed _ hstep => hkeyed.step hstep
  refine ⟨hkeyed, fun attempt hattempt => ?_⟩
  obtain ⟨event, hevent, hdescribes, -⟩ := (Sound.of_reaches h).attempted attempt hattempt
  refine ⟨event, hevent, hdescribes, fun event' hevent' hdate hkey => ?_⟩
  exact hkeyed.unique hevent' hevent (Prod.ext hdate hkey)

theorem one_event_per_day_repeated : ∃ relay,
    Transition.Reaches (step Sample.relayConfig) (Relay.initial 0) relay ∧ Sample.shows .pending 0 relay = true ∧
      relay.Deduplicated := by
  have h : (Transition.execute (step Sample.relayConfig) (Relay.initial 0)
      [Sample.enqueueAt 0, Sample.enqueueAt 7]).any (Sample.shows .pending 0) = true := by
    decide +kernel
  obtain ⟨relay, hrun, hshows⟩ := (Option.any_eq_true _ _).1 h
  have hreach := Transition.reaches_of_execute hrun
  exact ⟨relay, hreach, hshows, (one_event_per_day hreach).1⟩

end Relay

/-! ### The outbox of the pipeline -/

theorem OutboxStep.deduplicated {db db' : Db} {P : OutboxEventInput → Prop} (h : OutboxStep db db' P)
    (hkeyed : Rows.Keyed OutboxRow.dedupe db.outbox) : Rows.Keyed OutboxRow.dedupe db'.outbox := by
  cases h with
  | same h hs =>
    rw [h]
    exact hkeyed
  | enqueued clock input hp h hs =>
    rw [h]
    rcases db.enqueue_outbox clock input with ⟨-, ho, -⟩ | ⟨hfresh, ho, -⟩
    · rw [ho]
      exact hkeyed
    · rw [ho]
      refine hkeyed.append_fresh fun row hrow hkey => ?_
      exact hfresh row hrow (congrArg Prod.fst hkey) (congrArg Prod.snd hkey)

/-- Redelivered events, repeated webhooks and handlers run again leave one row for a date and a dedupe key. -/
theorem outbox_deduplicated {wallets : TenantId → Option WalletRow} {world : World}
    (h : Transition.Reaches World.step (World.initial wallets) world) :
    Rows.Keyed OutboxRow.dedupe world.db.outbox := by
  refine h.invariant_of (P := fun world : World => Rows.Keyed OutboxRow.dedupe world.db.outbox)
    (fun _ hrun => snapshots_of_reaches hrun) List.nodup_nil ?_
  intro world a world' hs _ hkeyed _ hstep
  exact (hs.world_emits hstep).deduplicated hkeyed

namespace Sample

/-- The retry event of the refused dispatch is delivered before midnight and once more after it. -/
def retriedOvernight : List Action :=
  refused ++ [.deliver 3, .advance 0 (env 7 (services .allow 3 refuses)), .deliver 3,
    .advance 0 { env 8 (services .allow 3 refuses) with clock := ⟨8, nextDay, 8⟩ }]

end Sample

theorem redelivered_retry_enqueued_twice : ∃ world,
    Transition.Reaches World.step (World.initial (Sample.wallets 100)) world ∧
      ∃ event ∈ world.db.outbox, ∃ event' ∈ world.db.outbox, event.id ≠ event'.id ∧
        event.dedupeKey = event'.dedupeKey ∧ event.topicName.isDispatch = true ∧ event'.topicName.isDispatch = true := by
  have h : (Sample.run Sample.retriedOvernight).any (fun world => decide (∃ event ∈ world.db.outbox,
      ∃ event' ∈ world.db.outbox, event.id ≠ event'.id ∧ event.dedupeKey = event'.dedupeKey ∧
        event.topicName.isDispatch = true ∧ event'.topicName.isDispatch = true)) = true := by
    decide +kernel
  obtain ⟨world, hrun, htwice⟩ := (Option.any_eq_true _ _).1 h
  exact ⟨world, Transition.reaches_of_execute hrun, of_decide_eq_true htwice⟩

end SmsPlatform
