import SmsPlatform.Outbox.AtLeastOnce

/-!
# Published rows

The UPDATEs of an execution of `flushBatch` name the row by its key alone, so an execution whose row another one has
published in the meantime can still publish it again and record its failure; and an execution whose own UPDATE to
`published` has been executed but has thrown records a failure too.  Published is terminal exactly as long as no
execution does either (`published_terminal`); none does when every claim leaves alone the rows that an execution still
holds, and no UPDATE that throws has been executed.
-/

namespace SmsPlatform

namespace Relay

open Transition (Runs Reaches)

variable {config : RelayConfig} {relay relay' : Relay} {action : RelayAction}

/-- The calls of `publish` for a row. -/
def attemptsOn (relay : Relay) (key : EventKey) : Nat :=
  relay.attempts.countP fun attempt => decide (attempt.row.key = key)

/-- Every published row is published in the later state, and has not been handed to Kafka in between. -/
def KeepsPublished (relay relay' : Relay) : Prop :=
  ∀ row ∈ relay.rows, row.status = .published →
    (∃ row' ∈ relay'.rows, row'.event = row.event ∧ row'.status = .published) ∧
      relay'.attemptsOn row.key = relay.attemptsOn row.key

/-- The action neither publishes a published row nor records a failure of one. -/
def Spares (relay : Relay) : RelayAction → Prop
  | .publish _ index _ => ∀ flush, relay.flushes[index]? = some flush → flush.phase = .publishing →
    ∀ row ∈ relay.rows, row.key = flush.row.key → row.status ≠ .published
  | .update _ index => ∀ flush error, relay.flushes[index]? = some flush → flush.phase = .threw error →
    ∀ row ∈ relay.rows, row.key = flush.row.key → row.status = .published → 32767 ≤ row.retryCount
  | _ => True

/-- A claim takes no row that a running execution holds, and no UPDATE to `published` that throws has been executed. -/
def LeavesHeld (config : RelayConfig) (relay : Relay) : RelayAction → Prop
  | .claim _ now locked tie => ∀ row ∈ relay.selected config now locked tie, ∀ flush ∈ relay.flushes,
    ∀ copy ∈ flush.copies, copy.key ≠ row.key
  | .updateThrows _ _ _ executed => executed = false
  | _ => True

namespace KeepsPublished

theorem refl (relay : Relay) : KeepsPublished relay relay := by
  intro row hrow hstatus
  exact ⟨⟨row, hrow, rfl, hstatus⟩, rfl⟩

theorem trans {relay'' : Relay} (h : KeepsPublished relay relay') (h' : KeepsPublished relay' relay'') :
    KeepsPublished relay relay'' := by
  intro row hrow hstatus
  obtain ⟨⟨row', hrow', hevent, hstatus'⟩, hattempts⟩ := h row hrow hstatus
  obtain ⟨⟨row'', hrow'', hevent', hstatus''⟩, hattempts'⟩ := h' row' hrow' hstatus'
  have hkey : row'.key = row.key := congrArg OutboxRow.key hevent
  rw [hkey] at hattempts'
  exact ⟨⟨row'', hrow'', hevent'.trans hevent, hstatus''⟩, hattempts'.trans hattempts⟩

/-- An UPDATE that publishes the rows it touches or touches no published row. -/
theorem of_update {p : OutboxEventRow → Bool} {f : OutboxEventRow → OutboxEventRow}
    (hrows : relay'.rows = Rows.update p f relay.rows) (hattempts : relay'.attempts = relay.attempts)
    (h : ∀ row ∈ relay.rows, row.status = .published → p row = true →
      (f row).event = row.event ∧ (f row).status = .published) : KeepsPublished relay relay' := by
  intro row hrow hstatus
  refine ⟨?_, congrArg (List.countP _) hattempts⟩
  rw [hrows]
  by_cases hp : p row = true
  · exact ⟨f row, Rows.mem_update.2 ⟨row, hrow, .inl ⟨hp, rfl⟩⟩, h row hrow hstatus hp⟩
  · have hp : p row = false := by simpa using hp
    exact ⟨row, Rows.mem_update.2 ⟨row, hrow, .inr ⟨hp, rfl⟩⟩, rfl, hstatus⟩

end KeepsPublished

/-! ### What a claim selects -/

/-- A key names one row. -/
theorem Sound.rows_keyed (h : relay.Sound) : Rows.Keyed OutboxEventRow.key relay.rows := by
  have hids : (relay.rows.map fun row => row.event.id).Nodup := by
    have hids := h.ids
    unfold events at hids
    rw [List.map_map] at hids
    show (relay.rows.map (OutboxRow.id ∘ OutboxEventRow.event)).Nodup
    rw [hids]
    exact List.nodup_range
  have hsnd : (relay.rows.map fun row => row.event.id) = (relay.rows.map OutboxEventRow.key).map Prod.snd := by
    rw [List.map_map]
    rfl
  rw [hsnd] at hids
  exact hids.of_map _

/-- A selected row was pending, or its lease has expired. -/
theorem selected_cases {now : Timestamp} {locked : EventKey → Bool} {tie : OutboxEventRow → Nat}
    {row : OutboxEventRow} (hrow : row ∈ relay.selected config now locked tie) :
    ∃ old ∈ relay.rows, old.key = row.key ∧ (old.status = .pending ∨ old.status = .publishing) := by
  have hfiltered := (List.mem_insertionSort _).1 (List.mem_of_mem_take hrow)
  rw [List.mem_filter, Bool.and_eq_true] at hfiltered
  obtain ⟨hreset, heligible, -⟩ := hfiltered
  obtain ⟨old, hold, ⟨hexpired, rfl⟩ | ⟨-, rfl⟩⟩ := Rows.mem_update.1 hreset
  · exact ⟨old, hold, rfl, .inr (of_decide_eq_true hexpired).1⟩
  · exact ⟨row, hold, rfl, .inl (of_decide_eq_true heligible).1⟩

/-- The selected rows have different keys. -/
theorem Sound.selected_keyed (h : relay.Sound) (now : Timestamp) (locked : EventKey → Bool)
    (tie : OutboxEventRow → Nat) : Rows.Keyed OutboxEventRow.key (relay.selected config now locked tie) := by
  have hreset : Rows.Keyed OutboxEventRow.key (resetExpired now relay.rows) := by
    unfold Rows.Keyed resetExpired
    rw [Rows.map_update (by intro row; rfl)]
    exact h.rows_keyed
  unfold selected selectPending Rows.Keyed
  refine List.Nodup.sublist ((List.take_sublist _ _).map OutboxEventRow.key) ?_
  rw [((List.perm_insertionSort _ _).map OutboxEventRow.key).nodup_iff]
  exact hreset.sublist (List.filter_sublist.map OutboxEventRow.key)

/-- No claim touches a published row. -/
theorem Sound.keepsPublished_claim (h : relay.Sound) (now : Timestamp) (locked : EventKey → Bool)
    (tie : OutboxEventRow → Nat) : KeepsPublished relay (relay.claim config now locked tie) := by
  have hreset : KeepsPublished relay { relay with rows := resetExpired now relay.rows } := by
    refine .of_update rfl rfl fun row _ hstatus hexpired => ?_
    have hpublishing := (of_decide_eq_true hexpired).1
    rw [hstatus] at hpublishing
    cases hpublishing
  refine hreset.trans (.of_update rfl rfl fun row hrow hstatus hselected => ?_)
  obtain ⟨chosen, hchosen, hkey⟩ := List.mem_map.1 (of_decide_eq_true hselected)
  obtain ⟨old, hold, hsame, hopen⟩ := selected_cases hchosen
  obtain ⟨old', hold', ⟨-, rfl⟩ | ⟨-, rfl⟩⟩ := Rows.mem_update.1 hrow
  · cases hstatus
  · have heq : old = row := h.rows_keyed.unique hold hold' (hsame.trans hkey)
    rw [heq, hstatus] at hopen
    rcases hopen with hopen | hopen <;> cases hopen

/-! ### The other statements -/

theorem keepsPublished_enqueue (relay : Relay) (clock : TxClock) (event : OutboxEventInput) :
    KeepsPublished relay (relay.enqueue clock event) := by
  rcases relay.events_enqueue clock event with ⟨-, hsame⟩ | ⟨-, hnew⟩
  · rw [hsame]
    exact .refl relay
  · rw [hnew]
    intro row hrow hstatus
    exact ⟨⟨row, List.mem_append_left _ hrow, rfl, hstatus⟩, rfl⟩

theorem keepsPublished_publish_iff (relay : Relay) (flush : FlushExecution) (others : List FlushExecution)
    (outcome : PublishOutcome) :
    KeepsPublished relay (relay.publish flush others outcome) ↔
      ∀ row ∈ relay.rows, row.key = flush.row.key → row.status ≠ .published := by
  constructor
  · intro h row hrow hkey hstatus
    have hattempts := (h row hrow hstatus).2
    unfold attemptsOn Relay.publish at hattempts
    rw [List.countP_cons_of_pos (by simpa using hkey.symm)] at hattempts
    omega
  · intro h row hrow hstatus
    refine ⟨⟨row, hrow, rfl, hstatus⟩, ?_⟩
    have hkey : flush.row.key ≠ row.key := fun hkey => h row hrow hkey.symm hstatus
    unfold attemptsOn Relay.publish
    rw [List.countP_cons_of_neg (by simpa using hkey)]

theorem keepsPublished_acknowledge (relay : Relay) (flush : FlushExecution) (others : List FlushExecution) :
    KeepsPublished relay (relay.acknowledge flush others) :=
  .of_update rfl rfl fun _ _ _ _ => ⟨rfl, rfl⟩

/-- The UPDATE that throws does not undo a published row; the one in the `catch` does. -/
theorem keepsPublished_throwUpdate (relay : Relay) (flush : FlushExecution) (others : List FlushExecution)
    (error : String) (executed : Bool) : KeepsPublished relay (relay.throwUpdate flush others error executed) := by
  cases executed with
  | true => exact .of_update rfl rfl fun _ _ _ _ => ⟨rfl, rfl⟩
  | false => exact fun row hrow hstatus => ⟨⟨row, hrow, rfl, hstatus⟩, rfl⟩

theorem Sound.keepsPublished_recordFailure_iff (h : relay.Sound) (flush : FlushExecution)
    (others : List FlushExecution) (error : String) :
    KeepsPublished relay (relay.recordFailure flush others error) ↔
      ∀ row ∈ relay.rows, row.key = flush.row.key → row.status = .published → 32767 ≤ row.retryCount := by
  unfold Relay.recordFailure
  split
  · rename_i hoverflow
    refine iff_of_true ?_ ?_
    · intro row hrow hstatus
      exact ⟨⟨row, hrow, rfl, hstatus⟩, rfl⟩
    · intro row hrow hkey _
      obtain ⟨limited, hlimited, hlimit⟩ := List.any_eq_true.1 hoverflow
      have hlimit := of_decide_eq_true hlimit
      rw [h.rows_keyed.unique hrow hlimited (hkey.trans hlimit.1.symm)]
      exact hlimit.2
  · rename_i hroom
    constructor
    · -- the UPDATE leaves the row pending or failed
      intro hkeeps row hrow hkey hstatus
      obtain ⟨row', hrow', hevent, hpublished⟩ := (hkeeps row hrow hstatus).1
      obtain ⟨old, hold, ⟨-, rfl⟩ | ⟨hother, rfl⟩⟩ := Rows.mem_update.1 hrow'
      · dsimp only at hpublished
        split at hpublished <;> cases hpublished
      · have hsame : row'.key = row.key := congrArg OutboxRow.key hevent
        exact absurd (hsame.trans hkey) (of_decide_eq_false hother)
    · intro hspared
      refine .of_update rfl rfl fun row hrow hstatus hkey => ?_
      have hkey : row.key = flush.row.key := of_decide_eq_true hkey
      refine absurd (List.any_eq_true.2 ⟨row, hrow, ?_⟩) hroom
      exact decide_eq_true ⟨hkey, hspared row hrow hkey hstatus⟩

/-- A step keeps the published rows if and only if it spares them. -/
theorem Sound.keepsPublished_iff (h : relay.Sound) (hstep : relay.step config action = some relay') :
    KeepsPublished relay relay' ↔ relay.Spares action := by
  obtain ⟨htime, hstepped⟩ := step_cases hstep
  have hlater := h.later htime
  cases hstepped with
  | enqueued time clock event =>
    have hkeeps := keepsPublished_enqueue { relay with time := time } clock event
    exact iff_of_true hkeeps trivial
  | claimed time locked tie hnow => exact iff_of_true (hlater.keepsPublished_claim _ locked tie) trivial
  | @published index flush time outcome hflush hphase =>
    refine (keepsPublished_publish_iff { relay with time := time } flush _ outcome).trans ⟨?_, ?_⟩
    · intro hspares flush' hflush' _
      rw [Option.some.inj (hflush'.symm.trans hflush)]
      exact hspares
    · intro hspares
      exact hspares flush hflush hphase
  | @acknowledged index flush time hflush hphase =>
    have hkeeps := keepsPublished_acknowledge { relay with time := time } flush (relay.flushes.eraseIdx index)
    refine iff_of_true hkeeps ?_
    intro flush' error hflush' hthrew
    rw [Option.some.inj (hflush'.symm.trans hflush), hphase] at hthrew
    cases hthrew
  | @failed index flush error time hflush hphase =>
    refine (hlater.keepsPublished_recordFailure_iff flush _ error).trans ⟨?_, ?_⟩
    · intro hspares flush' _ hflush' _
      rw [Option.some.inj (hflush'.symm.trans hflush)]
      exact hspares
    · intro hspares
      exact hspares flush error hflush hphase
  | @unmarked index flush time error executed hflush hphase =>
    have hkeeps := keepsPublished_throwUpdate { relay with time := time } flush (relay.flushes.eraseIdx index) error
      executed
    exact iff_of_true hkeeps trivial
  | crashed time hflush => exact iff_of_true (fun row hrow hstatus => ⟨⟨row, hrow, rfl, hstatus⟩, rfl⟩) trivial

/-! ### Executions that hold their rows -/

/-- The keys of the rows that executions still work on. -/
def heldKeys (flushes : List FlushExecution) : List EventKey :=
  (flushes.flatMap FlushExecution.copies).map PendingOutboxRow.key

theorem heldKeys_cons (flush : FlushExecution) (others : List FlushExecution) :
    heldKeys (flush :: others) = flush.row.key :: (flush.rest.map PendingOutboxRow.key ++ heldKeys others) := by
  unfold heldKeys
  rw [List.flatMap_cons, List.map_append]
  rfl

theorem heldKeys_startFlush (rest : List PendingOutboxRow) (others : List FlushExecution) :
    heldKeys (startFlush rest ++ others) = rest.map PendingOutboxRow.key ++ heldKeys others := by
  cases rest with
  | nil => rfl
  | cons row rest => exact heldKeys_cons ⟨row, rest, .publishing⟩ others

theorem heldKeys_eraseIdx {flushes : List FlushExecution} {index : Nat} {flush : FlushExecution}
    (hflush : flushes[index]? = some flush) :
    (heldKeys flushes).Perm (heldKeys (flush :: flushes.eraseIdx index)) :=
  ((Rows.perm_cons_eraseIdx hflush).flatMap_right FlushExecution.copies).map PendingOutboxRow.key

/-- No row is held twice, and a held row is neither published nor failed. -/
structure Held (relay : Relay) : Prop where
  nodup : (heldKeys relay.flushes).Nodup
  inProgress : ∀ row ∈ relay.rows, row.key ∈ heldKeys relay.flushes → row.status = .publishing ∨ row.status = .pending

namespace Held

theorem initial (time : Timestamp) : Held (Relay.initial time) :=
  ⟨List.nodup_nil, fun _ hrow => by cases hrow⟩

/-- A statement that takes some keys away and changes only rows that are no longer held. -/
theorem release (h : relay.Held) (keys : List EventKey)
    (hperm : (heldKeys relay.flushes).Perm (keys ++ heldKeys relay'.flushes))
    (hrows : ∀ row' ∈ relay'.rows, row'.key ∈ keys ∨ row'.status = .pending ∨ row' ∈ relay.rows) : relay'.Held := by
  have hnodup := hperm.nodup_iff.1 h.nodup
  rw [List.nodup_append] at hnodup
  refine ⟨hnodup.2.1, fun row' hrow' hheld => ?_⟩
  rcases hrows row' hrow' with hkey | hpending | hsame
  · exact absurd rfl (hnodup.2.2 _ hkey _ hheld)
  · exact .inr hpending
  · refine h.inProgress row' hsame ?_
    rw [hperm.mem_iff]
    exact List.mem_append_right _ hheld

theorem enqueue (h : relay.Held) (clock : TxClock) (event : OutboxEventInput) : Held (relay.enqueue clock event) := by
  rcases relay.events_enqueue clock event with ⟨-, hsame⟩ | ⟨-, hnew⟩
  · rw [hsame]
    exact h
  · rw [hnew]
    refine h.release [] (List.Perm.refl _) fun row hrow => ?_
    rcases List.mem_append.1 hrow with hrow | hrow
    · exact .inr (.inr hrow)
    · rw [List.mem_singleton.1 hrow]
      exact .inr (.inl rfl)

theorem claim (h : relay.Held) (hsound : relay.Sound) (time : Timestamp) {now : Timestamp} {locked : EventKey → Bool}
    {tie : OutboxEventRow → Nat} (hfree : relay.LeavesHeld config (.claim time now locked tie)) :
    Held (relay.claim config now locked tie) := by
  have hkeys : heldKeys (relay.claim config now locked tie).flushes =
      (relay.selected config now locked tie).map OutboxEventRow.key ++ heldKeys relay.flushes := by
    unfold Relay.claim
    dsimp only
    rw [heldKeys_startFlush, List.map_map]
    rfl
  refine ⟨?_, ?_⟩
  · rw [hkeys, List.nodup_append]
    refine ⟨hsound.selected_keyed now locked tie, h.nodup, ?_⟩
    intro key hselected key' hheld heq
    obtain ⟨row, hrow, hkey⟩ := List.mem_map.1 hselected
    obtain ⟨copy, hcopy, hkey'⟩ := List.mem_map.1 hheld
    obtain ⟨flush, hflush, hcopy⟩ := List.mem_flatMap.1 hcopy
    exact hfree row hrow flush hflush copy hcopy (hkey'.trans (heq.symm.trans hkey.symm))
  · intro row' hrow' hheld
    obtain ⟨reset, hreset, ⟨-, rfl⟩ | ⟨hother, rfl⟩⟩ := Rows.mem_update.1 hrow'
    · exact .inl rfl
    · rw [hkeys, List.mem_append] at hheld
      have hheld := hheld.resolve_left (of_decide_eq_false hother)
      obtain ⟨old, hold, ⟨-, rfl⟩ | ⟨-, rfl⟩⟩ := Rows.mem_update.1 hreset
      · exact .inr rfl
      · exact h.inProgress _ hold hheld

theorem publish (h : relay.Held) {index : Nat} {flush : FlushExecution} (hflush : relay.flushes[index]? = some flush)
    (outcome : PublishOutcome) : Held (relay.publish flush (relay.flushes.eraseIdx index) outcome) := by
  have hperm := heldKeys_eraseIdx hflush
  exact h.release [] hperm fun _ hrow => .inr (.inr hrow)

/-- The UPDATE of the row in work, after which the execution goes on with the rest. -/
theorem goOn (h : relay.Held) {index : Nat} {flush : FlushExecution} (hflush : relay.flushes[index]? = some flush)
    {f : OutboxEventRow → OutboxEventRow} (hf : ∀ row, (f row).key = row.key) (recorded : List EventKey) :
    Held { relay with
      rows := Rows.update (fun row => decide (row.key = flush.row.key)) f relay.rows
      flushes := startFlush flush.rest ++ relay.flushes.eraseIdx index
      recorded := recorded } := by
  have hperm : (heldKeys relay.flushes).Perm
      ([flush.row.key] ++ heldKeys (startFlush flush.rest ++ relay.flushes.eraseIdx index)) := by
    rw [heldKeys_startFlush]
    have hperm := heldKeys_eraseIdx hflush
    rwa [heldKeys_cons] at hperm
  refine h.release _ hperm fun row' hrow' => ?_
  obtain ⟨old, hold, ⟨hkey, rfl⟩ | ⟨-, rfl⟩⟩ := Rows.mem_update.1 hrow'
  · rw [List.mem_singleton, hf]
    exact .inl (of_decide_eq_true hkey)
  · exact .inr (.inr hold)

/-- The execution ends. -/
theorem drop (h : relay.Held) {index : Nat} {flush : FlushExecution} (hflush : relay.flushes[index]? = some flush) :
    Held { relay with flushes := relay.flushes.eraseIdx index } := by
  have hperm := heldKeys_eraseIdx hflush
  rw [heldKeys_cons, ← List.cons_append] at hperm
  exact h.release _ hperm fun _ hrow => .inr (.inr hrow)

theorem step (h : relay.Held) (hsound : relay.Sound) (hfree : relay.LeavesHeld config action)
    (hstep : relay.step config action = some relay') : relay'.Held := by
  obtain ⟨htime, hstepped⟩ := step_cases hstep
  have hlater : Held { relay with time := action.time } := ⟨h.nodup, h.inProgress⟩
  cases hstepped with
  | enqueued time clock event => exact hlater.enqueue clock event
  | claimed time locked tie hnow => exact hlater.claim (hsound.later htime) time hfree
  | published time outcome hflush hphase => exact hlater.publish hflush outcome
  | acknowledged time hflush hphase => exact hlater.goOn hflush (by intro row; rfl) relay.recorded
  | @failed index flush error time hflush hphase =>
    unfold Relay.recordFailure
    split
    · exact hlater.drop hflush
    · exact hlater.goOn hflush (by intro row; rfl) (flush.row.key :: relay.recorded)
  | unmarked time error executed hflush hphase =>
    have hexecuted : executed = false := hfree
    subst hexecuted
    have hperm := heldKeys_eraseIdx hflush
    exact hlater.release [] hperm fun _ hrow => .inr (.inr hrow)
  | crashed time hflush => exact hlater.drop hflush

theorem of_runs {time : Timestamp} (h : Runs (Relay.step config) (LeavesHeld config) (Relay.initial time) relay) :
    relay.Held :=
  h.invariant_of (fun _ hrun => Sound.of_reaches hrun.reaches) (Held.initial time)
    fun _ _ _ hsound _ hheld hfree hstep => hheld.step hsound hfree hstep

/-- An execution that holds its row works on a row that is not published. -/
theorem spares (h : relay.Held) (action : RelayAction) : relay.Spares action := by
  have hwork : ∀ {index : Nat} {flush : FlushExecution}, relay.flushes[index]? = some flush →
      ∀ row ∈ relay.rows, row.key = flush.row.key → row.status ≠ .published := by
    intro index flush hflush row hrow hkey hstatus
    have hheld : row.key ∈ heldKeys relay.flushes := by
      rw [hkey, (heldKeys_eraseIdx hflush).mem_iff, heldKeys_cons]
      exact List.mem_cons_self
    rcases h.inProgress row hrow hheld with hs | hs <;> rw [hstatus] at hs <;> cases hs
  cases action with
  | publish time index outcome => exact fun flush hflush _ => hwork hflush
  | update time index =>
    intro flush error hflush _ row hrow hkey hstatus
    exact absurd hstatus (hwork hflush row hrow hkey)
  | enqueue time clock event => trivial
  | claim time now locked tie => trivial
  | updateThrows time index error executed => trivial
  | crash time index => trivial

end Held

/-! ### Published is terminal -/

/-- Published rows stay published and are not published again for as long as every step spares them; a step that does
not undoes one of them; and every step spares them when no claim has taken a row that an execution still held and no
UPDATE to `published` that has thrown had been executed. -/
theorem published_terminal {time : Timestamp} (h : Reaches (step config) (Relay.initial time) relay) :
    (∀ relay', Runs (step config) Spares relay relay' → KeepsPublished relay relay') ∧
      (∀ action relay', relay.step config action = some relay' → ¬ relay.Spares action →
        ¬ KeepsPublished relay relay') ∧
      (Runs (step config) (LeavesHeld config) (Relay.initial time) relay → ∀ action, relay.Spares action) := by
  refine ⟨fun relay' hrun => ?_, fun action relay' hstep hspares hkeeps => ?_, fun hrun => (Held.of_runs hrun).spares⟩
  · refine hrun.relation KeepsPublished.refl (fun _ _ _ => KeepsPublished.trans) ?_
    intro u action v hu hspares hstep
    have hsound := Sound.of_reaches (h.trans hu.reaches)
    exact (hsound.keepsPublished_iff hstep).2 hspares
  · exact hspares (((Sound.of_reaches h).keepsPublished_iff hstep).1 hkeeps)

theorem published_terminal_alone : ∃ relay relay',
    Runs (step Sample.relayConfig) (LeavesHeld Sample.relayConfig) (Relay.initial 0) relay ∧
      Sample.shows .published 0 relay = true ∧
      relay.step Sample.relayConfig (Sample.claimAt 60000000) = some relay' ∧ KeepsPublished relay relay' := by
  have h : (Transition.execute (Transition.guarded (step Sample.relayConfig) fun relay action =>
      match action with
      | .claim _ _ _ _ => relay.flushes.isEmpty
      | .updateThrows _ _ _ executed => !executed
      | _ => true) (Relay.initial 0)
      [Sample.enqueueAt 0, Sample.claimAt 0, .publish 1 0 .returned, .update 2 0]).any (fun relay =>
        Sample.shows .published 0 relay && (relay.step Sample.relayConfig (Sample.claimAt 60000000)).isSome) = true := by
    decide +kernel
  obtain ⟨relay, hrun, hrelay⟩ := (Option.any_eq_true _ _).1 h
  rw [Bool.and_eq_true] at hrelay
  obtain ⟨relay', hstep⟩ := Option.isSome_iff_exists.1 hrelay.2
  have hheld : Runs (step Sample.relayConfig) (LeavesHeld Sample.relayConfig) (Relay.initial 0) relay := by
    refine (Transition.runs_of_execute hrun).mono fun relay action hempty => ?_
    cases action with
    | claim time now locked tie =>
      intro row _ flush hflush
      rw [List.isEmpty_iff.1 hempty] at hflush
      cases hflush
    | updateThrows time index error executed => simpa [LeavesHeld] using hempty
    | _ => trivial
  obtain ⟨hkeeps, -, hspares⟩ := published_terminal hheld.reaches
  exact ⟨relay, relay', hheld, hrelay.1, hstep, hkeeps relay' (.tail _ .refl (hspares hheld _) hstep)⟩

/-- The lease of an execution runs out while its publish call is under way: another execution publishes the row, then
the call throws, the failure is recorded on the published row, and a third execution publishes it again. -/
theorem late_failure_unpublishes : ∃ relay relay' relay'',
    Reaches (step Sample.relayConfig) (Relay.initial 0) relay ∧ Sample.shows .published 0 relay = true ∧
      Reaches (step Sample.relayConfig) relay relay' ∧ Sample.shows .pending 1 relay' = true ∧
      Reaches (step Sample.relayConfig) relay' relay'' ∧
      relay''.attempts.countP (fun attempt => attempt.accepted) = 2 ∧ ¬ KeepsPublished relay relay' := by
  have h : (Transition.execute (step Sample.relayConfig) (Relay.initial 0)
      [Sample.enqueueAt 0, Sample.claimAt 0, Sample.claimAt 60000000, .publish 60000001 0 .returned,
        .update 60000002 0]).any (fun relay => Sample.shows .published 0 relay &&
      (Transition.execute (step Sample.relayConfig) relay
        [.publish 60000003 0 (.threw "timeout" false), .update 60000004 0]).any fun relay' =>
          Sample.shows .pending 1 relay' && (Transition.execute (step Sample.relayConfig) relay'
            [Sample.claimAt 65000004, .publish 65000005 0 .returned]).any fun relay'' =>
              decide (relay''.attempts.countP (fun attempt => attempt.accepted) = 2)) = true := by
    decide +kernel
  obtain ⟨relay, hrun, h⟩ := (Option.any_eq_true _ _).1 h
  obtain ⟨hpublished, h⟩ := Bool.and_eq_true_iff.1 h
  obtain ⟨relay', hrun', h⟩ := (Option.any_eq_true _ _).1 h
  obtain ⟨hpending, h⟩ := Bool.and_eq_true_iff.1 h
  obtain ⟨relay'', hrun'', htwice⟩ := (Option.any_eq_true _ _).1 h
  refine ⟨relay, relay', relay'', Transition.reaches_of_execute hrun, hpublished, Transition.reaches_of_execute hrun',
    hpending, Transition.reaches_of_execute hrun'', of_decide_eq_true htwice, fun hkeeps => ?_⟩
  have hrow := List.mem_singleton_self (OutboxStatus.published, 0)
  rw [← Sample.shows_eq hpublished] at hrow
  obtain ⟨row, hrow, hcolumns⟩ := List.mem_map.1 hrow
  obtain ⟨⟨row', hrow', -, hstatus⟩, -⟩ := hkeeps row hrow (congrArg Prod.fst hcolumns)
  have hmem := List.mem_map_of_mem (f := fun row : OutboxEventRow => (row.status, row.retryCount)) hrow'
  rw [Sample.shows_eq hpending, List.mem_singleton] at hmem
  have hne := congrArg Prod.fst hmem
  rw [hstatus] at hne
  cases hne

/-- The answer to an executed UPDATE is lost: the same execution records a failure of the row that it has published. -/
example : (Transition.execute (step Sample.relayConfig) (Relay.initial 0) [Sample.enqueueAt 0, Sample.claimAt 0,
    .publish 1 0 .returned, .updateThrows 2 0 "connection terminated" true]).any (fun relay =>
      Sample.shows .published 0 relay &&
        (Transition.execute (step Sample.relayConfig) relay [.update 3 0]).any (Sample.shows .pending 1)) = true := by
  decide +kernel

end Relay

end SmsPlatform
