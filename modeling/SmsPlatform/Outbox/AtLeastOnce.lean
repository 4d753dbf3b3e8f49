import SmsPlatform.Outbox.Relay

/-!
# At least once

What every reachable state of the relay guarantees: no event is lost, a published row was accepted by Kafka, a failed
row has ten failed tries behind it, a row whose lease has expired can be claimed again, and nothing is published before
its time (`outbox_at_least_once`).  A try fails when its publish call throws, and also when Kafka has acknowledged the
event but the UPDATE to `published` throws (`acknowledged_event_fails`).
-/

namespace SmsPlatform

namespace Relay

variable {config : RelayConfig} {relay : Relay}

/-- The calls of `publish` for a row that have thrown. -/
def failedAttempts (relay : Relay) (key : EventKey) : Nat :=
  relay.attempts.countP fun attempt => decide (attempt.row.key = key) && attempt.failed

/-- The tries of a row that have ended in the `catch`: the publish call has thrown, or the UPDATE after it. -/
def failedTries (relay : Relay) (key : EventKey) : Nat := relay.failedAttempts key + relay.unmarked.count key

/-- The executions that are about to record a failure of a row. -/
def failing (flushes : List FlushExecution) (key : EventKey) : Nat :=
  flushes.countP fun flush => decide (flush.row.key = key) && (match flush.phase with | .threw _ => true | _ => false)

/-- The invariant of the relay. -/
structure Sound (relay : Relay) : Prop where
  ids : relay.events.map OutboxRow.id = List.range relay.rows.length
  scheduled : ∀ row ∈ relay.rows, row.nextAttemptAt = row.event.nextAttemptAt ∨
    row.event.nextAttemptAt ≤ relay.time
  copies : ∀ flush ∈ relay.flushes, ∀ copy ∈ flush.copies, ∃ event ∈ relay.events, copy.Describes event ∧
    event.nextAttemptAt ≤ relay.time
  attempted : ∀ attempt ∈ relay.attempts, ∃ event ∈ relay.events, attempt.row.Describes event ∧
    event.nextAttemptAt ≤ attempt.time
  acknowledged : ∀ flush ∈ relay.flushes, flush.phase = .acknowledged →
    ∃ attempt ∈ relay.attempts, attempt.row = flush.row ∧ attempt.accepted = true
  published : ∀ row ∈ relay.rows, row.status = .published →
    ∃ attempt ∈ relay.attempts, attempt.row.Describes row.event ∧ attempt.accepted = true
  counted : ∀ row ∈ relay.rows, row.retryCount = relay.recorded.count row.key
  recordedIds : ∀ key ∈ relay.recorded, key.2 < relay.rows.length
  failed : ∀ row ∈ relay.rows, row.status = .failed → 10 ≤ row.retryCount
  backed : ∀ key, relay.recorded.count key + failing relay.flushes key ≤ relay.failedTries key

namespace Sound

theorem initial (time : Timestamp) : Sound (Relay.initial time) := by
  refine ⟨rfl, ?_, ?_, ?_, ?_, ?_, ?_, ?_, ?_, ?_⟩
  all_goals
    first
    | exact fun key => Nat.le_refl 0
    | intro x h; cases h

/-- A key names one event. -/
theorem event_unique (h : relay.Sound) {event event' : OutboxRow} (he : event ∈ relay.events)
    (he' : event' ∈ relay.events) (hkey : event.key = event'.key) : event = event' := by
  have hkeyed : Rows.Keyed OutboxRow.id relay.events := by
    unfold Rows.Keyed
    rw [h.ids]
    exact List.nodup_range
  exact hkeyed.unique he he' (congrArg Prod.snd hkey)

/-- A copy that describes an event is a copy of the row with its key. -/
theorem describes_row (h : relay.Sound) {copy : PendingOutboxRow} {row : OutboxEventRow} {event : OutboxRow}
    (hrow : row ∈ relay.rows) (hkey : row.key = copy.key) (hevent : event ∈ relay.events)
    (hcopy : copy.Describes event) : event = row.event :=
  h.event_unique hevent (List.mem_map_of_mem hrow) (hcopy.1.symm.trans hkey.symm)

/-- Time passes. -/
theorem later (h : relay.Sound) {time : Timestamp} (htime : relay.time ≤ time) :
    Sound { relay with time := time } := by
  refine ⟨h.ids, ?_, ?_, h.attempted, h.acknowledged, h.published, h.counted, h.recordedIds, h.failed, h.backed⟩
  · intro row hrow
    rcases h.scheduled row hrow with hsame | hle
    · exact .inl hsame
    · exact .inr (hle.trans htime)
  · intro flush hflush copy hcopy
    obtain ⟨event, hevent, hdescribes, hle⟩ := h.copies flush hflush copy hcopy
    exact ⟨event, hevent, hdescribes, hle.trans htime⟩

/-- The executions after a step are the others, and what goes on with rows that were in work before. -/
theorem flushes_startFlush {flush : FlushExecution} {rest : List PendingOutboxRow} (hflush : flush ∈ startFlush rest) :
    flush.phase = .publishing ∧ flush.copies = rest := by
  cases rest with
  | nil => cases hflush
  | cons row rest =>
    rw [List.mem_singleton.1 hflush]
    exact ⟨rfl, rfl⟩

theorem failing_startFlush (rest : List PendingOutboxRow) (others : List FlushExecution) (key : EventKey) :
    failing (startFlush rest ++ others) key = failing others key := by
  unfold failing
  rw [List.countP_append, Nat.add_eq_right, List.countP_eq_zero]
  intro flush hflush
  rw [(flushes_startFlush hflush).1, Bool.and_false]
  exact Bool.false_ne_true

/-- Taking an execution out of the list. -/
theorem failing_eraseIdx {flushes : List FlushExecution} {index : Nat} {flush : FlushExecution}
    (hflush : flushes[index]? = some flush) (key : EventKey) :
    failing flushes key = failing (flushes.eraseIdx index) key + failing [flush] key := by
  unfold failing
  rw [(Rows.perm_cons_eraseIdx hflush).countP_eq, List.countP_cons, List.countP_singleton]

/-! ### The parts of a step -/

/-- An UPDATE of the rows, checked row by row. -/
theorem withRows (h : relay.Sound) {rows : List OutboxEventRow}
    (hevents : rows.map OutboxEventRow.event = relay.events)
    (hscheduled : ∀ row ∈ rows, row.nextAttemptAt = row.event.nextAttemptAt ∨ row.event.nextAttemptAt ≤ relay.time)
    (hpublished : ∀ row ∈ rows, row.status = .published →
      ∃ attempt ∈ relay.attempts, attempt.row.Describes row.event ∧ attempt.accepted = true)
    (hcounted : ∀ row ∈ rows, row.retryCount = relay.recorded.count row.key)
    (hfailed : ∀ row ∈ rows, row.status = .failed → 10 ≤ row.retryCount) :
    Sound { relay with rows := rows } := by
  have hlength : rows.length = relay.rows.length := by
    have hmap := congrArg List.length hevents
    rwa [events, List.length_map, List.length_map] at hmap
  have hsame : Relay.events { relay with rows := rows } = relay.events := hevents
  refine ⟨?_, hscheduled, ?_, ?_, h.acknowledged, hpublished, hcounted, ?_, hfailed, h.backed⟩
  · rw [hsame, h.ids, hlength]
  · rw [hsame]
    exact h.copies
  · rw [hsame]
    exact h.attempted
  · intro key hkey
    show key.2 < rows.length
    rw [hlength]
    exact h.recordedIds key hkey

/-- An execution ends, or is taken out to go on. -/
theorem drop (h : relay.Sound) {index : Nat} {flush : FlushExecution} (hflush : relay.flushes[index]? = some flush) :
    Sound { relay with flushes := relay.flushes.eraseIdx index } := by
  refine ⟨h.ids, h.scheduled, ?_, h.attempted, ?_, h.published, h.counted, h.recordedIds, h.failed, ?_⟩
  · intro other hother
    exact h.copies other (List.mem_of_mem_eraseIdx hother)
  · intro other hother
    exact h.acknowledged other (List.mem_of_mem_eraseIdx hother)
  · intro key
    have hbacked := h.backed key
    rw [failing_eraseIdx hflush] at hbacked
    show relay.recorded.count key + failing (relay.flushes.eraseIdx index) key ≤ relay.failedTries key
    omega

/-- An execution goes on with rows whose time has come. -/
theorem addFlush (h : relay.Sound) {rest : List PendingOutboxRow}
    (hrest : ∀ copy ∈ rest, ∃ event ∈ relay.events, copy.Describes event ∧ event.nextAttemptAt ≤ relay.time) :
    Sound { relay with flushes := startFlush rest ++ relay.flushes } := by
  refine ⟨h.ids, h.scheduled, ?_, h.attempted, ?_, h.published, h.counted, h.recordedIds, h.failed, ?_⟩
  · intro flush hflush copy hcopy
    rcases List.mem_append.1 hflush with hflush | hflush
    · rw [(flushes_startFlush hflush).2] at hcopy
      exact hrest copy hcopy
    · exact h.copies flush hflush copy hcopy
  · intro flush hflush hphase
    rcases List.mem_append.1 hflush with hflush | hflush
    · rw [(flushes_startFlush hflush).1] at hphase
      cases hphase
    · exact h.acknowledged flush hflush hphase
  · intro key
    show relay.recorded.count key + failing (startFlush rest ++ relay.flushes) key ≤ relay.failedTries key
    rw [failing_startFlush]
    exact h.backed key

/-- The rows after the row in work. -/
theorem copies_rest (h : relay.Sound) {index : Nat} {flush : FlushExecution}
    (hflush : relay.flushes[index]? = some flush) :
    ∀ copy ∈ flush.rest, ∃ event ∈ relay.events, copy.Describes event ∧ event.nextAttemptAt ≤ relay.time :=
  fun copy hcopy => h.copies flush (List.mem_of_getElem? hflush) copy (List.mem_cons_of_mem _ hcopy)

/-! ### The steps -/

theorem enqueue (h : relay.Sound) (clock : TxClock) (event : OutboxEventInput) : Sound (relay.enqueue clock event) := by
  rcases relay.events_enqueue clock event with ⟨-, hsame⟩ | ⟨-, hnew⟩
  · rw [hsame]
    exact h
  · rw [hnew]
    -- no failure has been recorded under the new key
    have hfresh : relay.recorded.count (insertedRow clock event relay.rows.length).key = 0 := by
      rw [List.count_eq_zero]
      intro hkey
      exact absurd (h.recordedIds _ hkey) (Nat.lt_irrefl _)
    have hgrow : ∀ {e : OutboxRow}, e ∈ relay.events →
        e ∈ Relay.events { relay with rows := relay.rows ++ [insertedRow clock event relay.rows.length] } := by
      intro e he
      unfold Relay.events
      rw [List.map_append]
      exact List.mem_append_left _ he
    refine ⟨?_, ?_, ?_, ?_, h.acknowledged, ?_, ?_, ?_, ?_, h.backed⟩
    · unfold Relay.events
      rw [List.map_append, List.map_append, List.length_append]
      have hids := h.ids
      unfold Relay.events at hids
      rw [hids, List.length_singleton, List.range_succ]
      rfl
    · intro row hrow
      rcases List.mem_append.1 hrow with hrow | hrow
      · exact h.scheduled row hrow
      · rw [List.mem_singleton.1 hrow]
        exact .inl rfl
    · intro flush hflush copy hcopy
      obtain ⟨e, he, hdescribes⟩ := h.copies flush hflush copy hcopy
      exact ⟨e, hgrow he, hdescribes⟩
    · intro attempt hattempt
      obtain ⟨e, he, hdescribes⟩ := h.attempted attempt hattempt
      exact ⟨e, hgrow he, hdescribes⟩
    · intro row hrow hstatus
      rcases List.mem_append.1 hrow with hrow | hrow
      · exact h.published row hrow hstatus
      · rw [List.mem_singleton.1 hrow] at hstatus
        cases hstatus
    · intro row hrow
      rcases List.mem_append.1 hrow with hrow | hrow
      · exact h.counted row hrow
      · rw [List.mem_singleton.1 hrow]
        exact hfresh.symm
    · intro key hkey
      have hlt := h.recordedIds key hkey
      show key.2 < (relay.rows ++ [insertedRow clock event relay.rows.length]).length
      rw [List.length_append]
      omega
    · intro row hrow hstatus
      rcases List.mem_append.1 hrow with hrow | hrow
      · exact h.failed row hrow hstatus
      · rw [List.mem_singleton.1 hrow] at hstatus
        cases hstatus

theorem publish (h : relay.Sound) {index : Nat} {flush : FlushExecution}
    (hflush : relay.flushes[index]? = some flush) (outcome : PublishOutcome) :
    Sound (relay.publish flush (relay.flushes.eraseIdx index) outcome) := by
  have hmem := List.mem_of_getElem? hflush
  refine ⟨h.ids, h.scheduled, ?_, ?_, ?_, ?_, h.counted, h.recordedIds, h.failed, ?_⟩
  · intro other hother copy hcopy
    rcases List.mem_cons.1 hother with rfl | hother
    · exact h.copies flush hmem copy hcopy
    · exact h.copies other (List.mem_of_mem_eraseIdx hother) copy hcopy
  · intro attempt hattempt
    rcases List.mem_cons.1 hattempt with rfl | hattempt
    · exact h.copies flush hmem flush.row List.mem_cons_self
    · exact h.attempted attempt hattempt
  · intro other hother hacknowledged
    rcases List.mem_cons.1 hother with rfl | hother
    · refine ⟨_, List.mem_cons_self, rfl, ?_⟩
      cases outcome with
      | returned => rfl
      | threw error accepted => cases hacknowledged
    · obtain ⟨attempt, hattempt, haccepted⟩ :=
        h.acknowledged other (List.mem_of_mem_eraseIdx hother) hacknowledged
      exact ⟨attempt, List.mem_cons_of_mem _ hattempt, haccepted⟩
  · intro row hrow hstatus
    obtain ⟨attempt, hattempt, haccepted⟩ := h.published row hrow hstatus
    exact ⟨attempt, List.mem_cons_of_mem _ hattempt, haccepted⟩
  · intro key
    have hbacked := h.backed key
    rw [failing_eraseIdx hflush] at hbacked
    -- a call that throws is one failed attempt more and one execution more that will record it
    have hnew : failing ({ flush with phase := outcome.phase } :: relay.flushes.eraseIdx index) key =
        failing (relay.flushes.eraseIdx index) key +
          if (decide (flush.row.key = key) && outcome.failed) = true then 1 else 0 := by
      unfold failing
      rw [List.countP_cons]
      cases outcome <;> rfl
    show relay.recorded.count key + failing ({ flush with phase := outcome.phase } :: relay.flushes.eraseIdx index) key ≤
      List.countP _ (_ :: relay.attempts) + relay.unmarked.count key
    rw [hnew, List.countP_cons]
    unfold failedTries failedAttempts at hbacked
    dsimp only
    omega

/-- A row that a claim selects has come to its time. -/
theorem selected_due (h : relay.Sound) {now : Timestamp} (hnow : now ≤ relay.time) {locked : EventKey → Bool}
    {tie : OutboxEventRow → Nat} {row : OutboxEventRow} (hrow : row ∈ relay.selected config now locked tie) :
    row.event ∈ relay.events ∧ row.event.nextAttemptAt ≤ relay.time := by
  have hfiltered := (List.mem_insertionSort _).1 (List.mem_of_mem_take hrow)
  rw [List.mem_filter, Bool.and_eq_true] at hfiltered
  obtain ⟨hreset, heligible, -⟩ := hfiltered
  have hdue : row.nextAttemptAt ≤ now := (of_decide_eq_true heligible).2
  obtain ⟨old, hold, hrow⟩ := Rows.mem_update.1 hreset
  have hsame : row.event = old.event ∧ row.nextAttemptAt = old.nextAttemptAt := by
    rcases hrow with ⟨-, rfl⟩ | ⟨-, rfl⟩ <;> exact ⟨rfl, rfl⟩
  rw [hsame.1]
  refine ⟨List.mem_map_of_mem hold, ?_⟩
  rcases h.scheduled old hold with hfirst | hle
  · rw [← hfirst, ← hsame.2]
    exact hdue.trans hnow
  · exact hle

theorem claim (h : relay.Sound) {now : Timestamp} (hnow : now ≤ relay.time) (locked : EventKey → Bool)
    (tie : OutboxEventRow → Nat) : Sound (relay.claim config now locked tie) := by
  have hdue : ∀ row ∈ relay.selected config now locked tie, row.event ∈ relay.events ∧
      row.event.nextAttemptAt ≤ relay.time := fun row hrow => h.selected_due hnow hrow
  have hrows : Sound { relay with
      rows := markPublishing config now (relay.selected config now locked tie) (resetExpired now relay.rows) } := by
    have hevents : (markPublishing config now (relay.selected config now locked tie)
        (resetExpired now relay.rows)).map OutboxEventRow.event = relay.events :=
      relay.events_claim config now locked tie
    -- a row keeps all but its status and its next attempt, and it is selected when the latter changes
    have hcolumns : ∀ row ∈ markPublishing config now (relay.selected config now locked tie)
        (resetExpired now relay.rows), ∃ old ∈ relay.rows, row.event = old.event ∧ row.retryCount = old.retryCount ∧
          ((row.status = .published ∨ row.status = .failed) → row.status = old.status) ∧
          (row.nextAttemptAt = old.nextAttemptAt ∨ row.event.nextAttemptAt ≤ relay.time) := by
      intro row hrow
      obtain ⟨reset, hreset, hrow⟩ := Rows.mem_update.1 hrow
      obtain ⟨old, hold, hreset⟩ := Rows.mem_update.1 hreset
      have hkept : reset.event = old.event ∧ reset.retryCount = old.retryCount ∧
          ((reset.status = .published ∨ reset.status = .failed) → reset.status = old.status) ∧
          reset.nextAttemptAt = old.nextAttemptAt := by
        rcases hreset with ⟨-, rfl⟩ | ⟨-, rfl⟩
        · refine ⟨rfl, rfl, ?_, rfl⟩
          rintro (hs | hs) <;> cases hs
        · exact ⟨rfl, rfl, fun _ => rfl, rfl⟩
      rcases hrow with ⟨hselected, rfl⟩ | ⟨-, rfl⟩
      · obtain ⟨chosen, hchosen, hkey⟩ := List.mem_map.1 (of_decide_eq_true hselected)
        obtain ⟨hevent, hle⟩ := hdue chosen hchosen
        have hsame : chosen.event = reset.event :=
          h.event_unique hevent (hkept.1 ▸ List.mem_map_of_mem hold) hkey
        refine ⟨old, hold, hkept.1, hkept.2.1, ?_, .inr ?_⟩
        · rintro (hs | hs) <;> cases hs
        · show reset.event.nextAttemptAt ≤ relay.time
          rw [← hsame]
          exact hle
      · exact ⟨old, hold, hkept.1, hkept.2.1, hkept.2.2.1, .inl hkept.2.2.2⟩
    refine h.withRows hevents ?_ ?_ ?_ ?_
    · intro row hrow
      obtain ⟨old, hold, hevent, -, -, hnext | hle⟩ := hcolumns row hrow
      · rw [hnext, hevent]
        exact h.scheduled old hold
      · exact .inr hle
    · intro row hrow hstatus
      obtain ⟨old, hold, hevent, -, hkept, -⟩ := hcolumns row hrow
      rw [hevent]
      exact h.published old hold ((hkept (.inl hstatus)).symm.trans hstatus)
    · intro row hrow
      obtain ⟨old, hold, hevent, hcount, -⟩ := hcolumns row hrow
      have hkey : row.key = old.key := congrArg OutboxRow.key hevent
      rw [hcount, hkey]
      exact h.counted old hold
    · intro row hrow hstatus
      obtain ⟨old, hold, -, hcount, hkept, -⟩ := hcolumns row hrow
      rw [hcount]
      exact h.failed old hold ((hkept (.inr hstatus)).symm.trans hstatus)
  refine hrows.addFlush ?_
  intro copy hcopy
  obtain ⟨row, hrow, rfl⟩ := List.mem_map.1 hcopy
  have hevents : Relay.events { relay with
      rows := markPublishing config now (relay.selected config now locked tie) (resetExpired now relay.rows) } =
      relay.events := relay.events_claim config now locked tie
  rw [hevents]
  exact ⟨row.event, (hdue row hrow).1, row.copy_describes, (hdue row hrow).2⟩

/-- The UPDATE to `published` of a row whose publish call has returned. -/
theorem markPublished (h : relay.Sound) {index : Nat} {flush : FlushExecution}
    (hflush : relay.flushes[index]? = some flush) (hphase : flush.phase = .acknowledged) :
    Sound { relay with rows := SmsPlatform.markPublished relay.time flush.row.key relay.rows } := by
  have hmem := List.mem_of_getElem? hflush
  have hevents : (SmsPlatform.markPublished relay.time flush.row.key relay.rows).map OutboxEventRow.event =
      relay.events := relay.events_acknowledge flush []
  refine h.withRows hevents ?_ ?_ ?_ ?_
  · intro row hrow
    obtain ⟨old, hold, ⟨-, rfl⟩ | ⟨-, rfl⟩⟩ := Rows.mem_update.1 hrow
    · exact h.scheduled old hold
    · exact h.scheduled row hold
  · intro row hrow hstatus
    obtain ⟨old, hold, ⟨hkey, rfl⟩ | ⟨-, rfl⟩⟩ := Rows.mem_update.1 hrow
    · obtain ⟨attempt, hattempt, hrow, haccepted⟩ := h.acknowledged flush hmem hphase
      obtain ⟨event, hevent, hdescribes, -⟩ := h.copies flush hmem flush.row List.mem_cons_self
      have hsame := h.describes_row hold (of_decide_eq_true hkey) hevent hdescribes
      exact ⟨attempt, hattempt, by rw [hrow]; exact hsame ▸ hdescribes, haccepted⟩
    · exact h.published _ hold hstatus
  · intro row hrow
    obtain ⟨old, hold, ⟨-, rfl⟩ | ⟨-, rfl⟩⟩ := Rows.mem_update.1 hrow
    · exact h.counted old hold
    · exact h.counted row hold
  · intro row hrow hstatus
    obtain ⟨old, hold, ⟨-, rfl⟩ | ⟨-, rfl⟩⟩ := Rows.mem_update.1 hrow
    · cases hstatus
    · exact h.failed _ hold hstatus

theorem acknowledge (h : relay.Sound) {index : Nat} {flush : FlushExecution}
    (hflush : relay.flushes[index]? = some flush) (hphase : flush.phase = .acknowledged) :
    Sound (relay.acknowledge flush (relay.flushes.eraseIdx index)) := by
  have hrows := h.markPublished hflush hphase
  refine (hrows.drop hflush).addFlush ?_
  exact hrows.copies_rest hflush

/-- An acknowledged execution enters its `catch`: one failed try more, and one execution more that will record it. -/
theorem enterCatch (h : relay.Sound) {index : Nat} {flush : FlushExecution}
    (hflush : relay.flushes[index]? = some flush) (error : String) :
    Sound { relay with
      flushes := { flush with phase := .threw error } :: relay.flushes.eraseIdx index
      unmarked := flush.row.key :: relay.unmarked } := by
  have hmem := List.mem_of_getElem? hflush
  refine ⟨h.ids, h.scheduled, ?_, h.attempted, ?_, h.published, h.counted, h.recordedIds, h.failed, ?_⟩
  · intro other hother copy hcopy
    rcases List.mem_cons.1 hother with rfl | hother
    · exact h.copies flush hmem copy hcopy
    · exact h.copies other (List.mem_of_mem_eraseIdx hother) copy hcopy
  · intro other hother hacknowledged
    rcases List.mem_cons.1 hother with rfl | hother
    · cases hacknowledged
    · exact h.acknowledged other (List.mem_of_mem_eraseIdx hother) hacknowledged
  · intro key
    have hbacked := h.backed key
    rw [failing_eraseIdx hflush] at hbacked
    have hnew : failing ({ flush with phase := .threw error } :: relay.flushes.eraseIdx index) key =
        failing (relay.flushes.eraseIdx index) key + if flush.row.key = key then 1 else 0 := by
      unfold failing
      rw [List.countP_cons]
      simp
    show relay.recorded.count key + failing ({ flush with phase := .threw error } :: relay.flushes.eraseIdx index) key ≤
      relay.failedAttempts key + (flush.row.key :: relay.unmarked).count key
    rw [hnew, List.count_cons]
    unfold failedTries at hbacked
    simp only [beq_iff_eq]
    omega

theorem throwUpdate (h : relay.Sound) {index : Nat} {flush : FlushExecution}
    (hflush : relay.flushes[index]? = some flush) (hphase : flush.phase = .acknowledged) (error : String)
    (executed : Bool) : Sound (relay.throwUpdate flush (relay.flushes.eraseIdx index) error executed) := by
  cases executed with
  | true =>
    have hrows := h.markPublished hflush hphase
    exact hrows.enterCatch hflush error
  | false => exact h.enterCatch hflush error

theorem recordFailure (h : relay.Sound) {index : Nat} {flush : FlushExecution} {error : String}
    (hflush : relay.flushes[index]? = some flush) (hphase : flush.phase = .threw error) :
    Sound (relay.recordFailure flush (relay.flushes.eraseIdx index) error) := by
  unfold Relay.recordFailure
  split
  · exact h.drop hflush
  · have hmem := List.mem_of_getElem? hflush
    have hevents : (markFailure relay.time flush.row.key error relay.rows).map OutboxEventRow.event = relay.events :=
      Rows.map_update (by intro row; rfl) _
    have hsame : Relay.events { relay with
        rows := markFailure relay.time flush.row.key error relay.rows
        flushes := relay.flushes.eraseIdx index
        recorded := flush.row.key :: relay.recorded } = relay.events := hevents
    have hlength : (markFailure relay.time flush.row.key error relay.rows).length = relay.rows.length :=
      List.length_map _
    obtain ⟨event, hevent, hdescribes, hdue⟩ := h.copies flush hmem flush.row List.mem_cons_self
    have hcounted : Sound { relay with
        rows := markFailure relay.time flush.row.key error relay.rows
        flushes := relay.flushes.eraseIdx index
        recorded := flush.row.key :: relay.recorded } := by
      refine ⟨?_, ?_, ?_, ?_, ?_, ?_, ?_, ?_, ?_, ?_⟩
      · rw [hsame, h.ids, hlength]
      · intro row hrow
        obtain ⟨old, hold, ⟨hkey, rfl⟩ | ⟨-, rfl⟩⟩ := Rows.mem_update.1 hrow
        · have hsame := h.describes_row hold (of_decide_eq_true hkey) hevent hdescribes
          rw [hsame] at hdue
          exact .inr hdue
        · exact h.scheduled _ hold
      · rw [hsame]
        exact fun other hother => h.copies other (List.mem_of_mem_eraseIdx hother)
      · rw [hsame]
        exact h.attempted
      · exact fun other hother => h.acknowledged other (List.mem_of_mem_eraseIdx hother)
      · intro row hrow hstatus
        obtain ⟨old, hold, ⟨-, rfl⟩ | ⟨-, rfl⟩⟩ := Rows.mem_update.1 hrow
        · dsimp only at hstatus
          split at hstatus <;> cases hstatus
        · exact h.published _ hold hstatus
      · intro row hrow
        obtain ⟨old, hold, ⟨hkey, rfl⟩ | ⟨hkey, rfl⟩⟩ := Rows.mem_update.1 hrow
        · have hold' := h.counted old hold
          have hkey : old.key = flush.row.key := of_decide_eq_true hkey
          show old.retryCount + 1 = (flush.row.key :: relay.recorded).count old.key
          rw [← hkey, List.count_cons_self, hold']
        · have hold' := h.counted row hold
          have hkey : row.key ≠ flush.row.key := of_decide_eq_false hkey
          rw [List.count_cons_of_ne hkey.symm]
          exact hold'
      · intro key hkey
        show key.2 < (markFailure relay.time flush.row.key error relay.rows).length
        rw [hlength]
        rcases List.mem_cons.1 hkey with rfl | hkey
        · have hid : event.id ∈ relay.events.map OutboxRow.id := List.mem_map_of_mem hevent
          rw [h.ids, List.mem_range] at hid
          rw [hdescribes.1]
          exact hid
        · exact h.recordedIds key hkey
      · intro row hrow hstatus
        obtain ⟨old, hold, ⟨-, rfl⟩ | ⟨-, rfl⟩⟩ := Rows.mem_update.1 hrow
        · dsimp only at hstatus ⊢
          split at hstatus
          · assumption
          · cases hstatus
        · exact h.failed _ hold hstatus
      · intro key
        have hbacked := h.backed key
        rw [failing_eraseIdx hflush] at hbacked
        have hone : failing [flush] key = if flush.row.key = key then 1 else 0 := by
          unfold failing
          rw [List.countP_singleton, hphase]
          simp
        show (flush.row.key :: relay.recorded).count key + failing (relay.flushes.eraseIdx index) key ≤
          relay.failedTries key
        rw [List.count_cons]
        rw [hone] at hbacked
        simp only [beq_iff_eq]
        omega
    refine hcounted.addFlush ?_
    rw [hsame]
    exact h.copies_rest hflush

theorem step (h : relay.Sound) {action : RelayAction} {relay' : Relay} (hstep : relay.step config action = some relay') :
    relay'.Sound := by
  obtain ⟨htime, hstepped⟩ := step_cases hstep
  have hlater := h.later htime
  cases hstepped with
  | enqueued time clock event => exact hlater.enqueue clock event
  | claimed time locked tie hnow => exact hlater.claim hnow locked tie
  | published time outcome hflush hphase => exact hlater.publish hflush outcome
  | acknowledged time hflush hphase => exact hlater.acknowledge hflush hphase
  | failed time hflush hphase => exact hlater.recordFailure hflush hphase
  | unmarked time error executed hflush hphase => exact hlater.throwUpdate hflush hphase error executed
  | crashed time hflush => exact hlater.drop hflush

theorem of_reaches {time : Timestamp} (h : Transition.Reaches (Relay.step config) (Relay.initial time) relay) :
    relay.Sound :=
  h.invariant (Sound.initial time) fun _ _ _ hsound _ hstep => hsound.step hstep

end Sound

/-! ### The guarantees -/

/-- What the relay guarantees in a state. -/
structure AtLeastOnce (config : RelayConfig) (relay : Relay) : Prop where
  published : ∀ row ∈ relay.rows, row.status = .published →
    ∃ attempt ∈ relay.attempts, attempt.row.Describes row.event ∧ attempt.accepted = true
  failed : ∀ row ∈ relay.rows, row.status = .failed → 10 ≤ relay.failedTries row.key
  counted : ∀ row ∈ relay.rows, row.retryCount = relay.recorded.count row.key ∧
    row.retryCount ≤ relay.failedTries row.key
  released : ∀ row ∈ relay.rows, row.status = .publishing → ∀ now locked tie, row.nextAttemptAt ≤ now →
    locked row.key = false → row.key ∈ (relay.selected config now locked tie).map OutboxEventRow.key ∨
      (relay.selected config now locked tie).length = config.batchSize
  punctual : ∀ attempt ∈ relay.attempts, ∃ event ∈ relay.events, attempt.row.Describes event ∧
    event.nextAttemptAt ≤ attempt.time

/-- A row whose lease has expired is in the next claim, unless that is full. -/
theorem selected_of_expired {row : OutboxEventRow} (hrow : row ∈ relay.rows) (hstatus : row.status = .publishing)
    {now : Timestamp} {locked : EventKey → Bool} {tie : OutboxEventRow → Nat} (hdue : row.nextAttemptAt ≤ now)
    (hlocked : locked row.key = false) :
    row.key ∈ (relay.selected config now locked tie).map OutboxEventRow.key ∨
      (relay.selected config now locked tie).length = config.batchSize := by
  have hreset : { row with status := OutboxStatus.pending } ∈ resetExpired now relay.rows :=
    Rows.mem_update.2 ⟨row, hrow, .inl ⟨decide_eq_true ⟨hstatus, hdue⟩, rfl⟩⟩
  have heligible : { row with status := OutboxStatus.pending } ∈
      (resetExpired now relay.rows).filter fun row => eligible now row && !locked row.key := by
    rw [List.mem_filter, Bool.and_eq_true, Bool.not_eq_true']
    exact ⟨hreset, decide_eq_true ⟨rfl, hdue⟩, hlocked⟩
  unfold selected selectPending
  have hsorted := (List.mem_insertionSort fun a b : OutboxEventRow =>
    ((compare a.createdAt b.createdAt).then (compare (tie a) (tie b))).isLE = true).2 heligible
  rw [List.length_take]
  rcases Nat.le_total config.batchSize (List.insertionSort (fun a b : OutboxEventRow =>
      ((compare a.createdAt b.createdAt).then (compare (tie a) (tie b))).isLE = true)
      ((resetExpired now relay.rows).filter fun row => eligible now row && !locked row.key)).length with hfull | hroom
  · exact .inr (Nat.min_eq_left hfull)
  · rw [List.take_of_length_le hroom]
    exact .inl (List.mem_map.2 ⟨_, hsorted, rfl⟩)

/-- The transactional outbox delivers at least once: in every reachable state the relay's guarantees hold, and no later
state has lost a row. -/
theorem outbox_at_least_once {time : Timestamp}
    (h : Transition.Reaches (step config) (Relay.initial time) relay) :
    relay.AtLeastOnce config ∧ ∀ relay', Transition.Reaches (step config) relay relay' →
      ∀ row ∈ relay.rows, ∃ row' ∈ relay'.rows, row'.event = row.event := by
  have hsound := Sound.of_reaches h
  have hcounted : ∀ row ∈ relay.rows, row.retryCount ≤ relay.failedTries row.key := by
    intro row hrow
    have hbacked := hsound.backed row.key
    rw [hsound.counted row hrow]
    omega
  refine ⟨⟨hsound.published, ?_, ?_, ?_, hsound.attempted⟩, ?_⟩
  · intro row hrow hstatus
    exact (hsound.failed row hrow hstatus).trans (hcounted row hrow)
  · intro row hrow
    exact ⟨hsound.counted row hrow, hcounted row hrow⟩
  · intro row hrow hstatus now locked tie hdue hlocked
    exact selected_of_expired hrow hstatus hdue hlocked
  · intro relay' hlater row hrow
    obtain ⟨tail, htail⟩ := events_of_reaches hlater
    have hevent : row.event ∈ relay'.events := by
      rw [htail]
      exact List.mem_append_left _ (List.mem_map_of_mem hrow)
    obtain ⟨row', hrow', hsame⟩ := List.mem_map.1 hevent
    exact ⟨row', hrow', hsame⟩

theorem outbox_at_least_once_published : ∃ relay,
    Transition.Reaches (step Sample.relayConfig) (Relay.initial 0) relay ∧ Sample.shows .published 1 relay = true ∧
      relay.AtLeastOnce Sample.relayConfig := by
  have h : (Transition.execute (step Sample.relayConfig) (Relay.initial 0)
      [Sample.enqueueAt 0, Sample.claimAt 0, .publish 1 0 (.threw "timeout" false), .update 2 0,
        Sample.claimAt 5000002, .publish 5000003 0 .returned, .update 5000004 0]).any
      (Sample.shows .published 1) = true := by
    decide +kernel
  obtain ⟨relay, hrun, hshows⟩ := (Option.any_eq_true _ _).1 h
  have hreach := Transition.reaches_of_execute hrun
  exact ⟨relay, hreach, hshows, (outbox_at_least_once hreach).1⟩

/-- Ten rounds in which the UPDATE throws leave a failed row of an event that Kafka has accepted every time: no publish
call has failed. -/
theorem acknowledged_event_fails : ∃ relay,
    Transition.Reaches (step Sample.relayConfig) (Relay.initial 0) relay ∧
      ∃ row ∈ relay.rows, row.status = .failed ∧ relay.failedAttempts row.key = 0 ∧
        relay.attempts.countP (fun attempt => decide (attempt.row.key = row.key) && attempt.accepted) = 10 := by
  have h : (Transition.execute (step Sample.relayConfig) (Relay.initial 0) (Sample.enqueueAt 0 ::
      (List.range 10).flatMap fun (round : Nat) => Sample.unmarkedRound (round * 60000000))).any (fun relay =>
        relay.rows.any fun row => decide (row.status = .failed ∧ relay.failedAttempts row.key = 0 ∧
          relay.attempts.countP (fun attempt => decide (attempt.row.key = row.key) && attempt.accepted) = 10)) =
        true := by
    decide +kernel
  obtain ⟨relay, hrun, hfailed⟩ := (Option.any_eq_true _ _).1 h
  obtain ⟨row, hrow, hfacts⟩ := List.any_eq_true.1 hfailed
  exact ⟨relay, Transition.reaches_of_execute hrun, row, hrow, of_decide_eq_true hfacts⟩

end Relay

end SmsPlatform
