import SmsPlatform.Explorers.MessageReads
import SmsPlatform.Pipeline.Logs

/-!
# The timeline of a message

A run with the steps it has taken (`Journal`).  The rows of `message_logs` about a message are in the order in which its
transactions have committed, since `created_at` is the `now()` with which the trigger lets `state_changed_at` move
forward.  So the timeline of `getMessageTrace` replays the statuses of the message if no step throttles a message that is
`submitting` (`timeline_truthful_iff`).
-/

namespace SmsPlatform

open Transition

/-! ### Runs with their steps -/

/-- A step that has been taken. -/
structure Taken where
  before : World
  action : Action
  after : World

structure Journal where
  world : World
  taken : List Taken

/-- A row of `message_logs` with its `created_at`, the `now()` of its transaction. -/
structure LogEntry where
  createdAt : Timestamp
  log : MessageLogRow

def Taken.entries (step : Taken) : List LogEntry :=
  (step.before.db.logged step.after.db).map fun log => ⟨step.action.now, log⟩

/-- The statuses of a list of rows lead from one status to another, each row taking up the status of the one before. -/
def Replays {α : Type} : Option α → List (Option α × Option α) → Option α → Prop
  | status, [], final => status = final
  | status, row :: rows, final => row.1 = status ∧ Replays row.2 rows final

namespace Journal

def initial (wallets : TenantId → Option WalletRow) : Journal := ⟨World.initial wallets, []⟩

def step (journal : Journal) (a : Action) : Option Journal :=
  (journal.world.step a).map fun world => ⟨world, journal.taken ++ [⟨journal.world, a, world⟩]⟩

/-- The table `message_logs`. -/
def entries (journal : Journal) : List LogEntry := journal.taken.flatMap Taken.entries

/-- The rows about a message. -/
def about (journal : Journal) (messageRef : MessageCompositeId) : List LogEntry :=
  journal.entries.filter fun entry => decide (entry.log.messageRef = messageRef)

end Journal

def LogEntry.statuses (entry : LogEntry) : Option MessageStatus × Option MessageStatus :=
  (entry.log.statusFrom, entry.log.statusTo)

/-! ### Replays -/

section Replays

variable {α β : Type}

theorem Replays.append {status final : Option α} {rows : List (Option α × Option α)} (h : Replays status rows final)
    {next : Option α} : Replays status (rows ++ [(final, next)]) next := by
  induction rows generalizing status with
  | nil => exact ⟨h.symm, rfl⟩
  | cons row rows ih => exact ⟨h.1, ih h.2⟩

theorem Replays.map (f : α → β) {status final : Option α} {rows : List (Option α × Option α)}
    (h : Replays status rows final) :
    Replays (status.map f) (rows.map fun row => (row.1.map f, row.2.map f)) (final.map f) := by
  induction rows generalizing status with
  | nil => exact congrArg (Option.map f) h
  | cons row rows ih => exact ⟨congrArg (Option.map f) h.1, ih h.2⟩

end Replays

/-! ### The order of the rows -/

/-- What holds of the rows in every run. -/
structure SoundJournal (journal : Journal) : Prop where
  snapshots : Snapshots journal.world
  storable : ∀ row ∈ journal.world.db.messages, row.Storable
  named : ∀ entry ∈ journal.entries, ∃ message ∈ journal.world.db.messages, entry.log.messageRef = message.composite
  ordered : ∀ message ∈ journal.world.db.messages,
    (journal.about message.composite).Pairwise (fun entry later => entry.createdAt < later.createdAt) ∧
      ∀ entry ∈ journal.about message.composite, entry.createdAt ≤ message.stateChangedAt

/-- The rows about every message replay its status. -/
def Replayed (journal : Journal) : Prop := ∀ message ∈ journal.world.db.messages,
  Replays none ((journal.about message.composite).map LogEntry.statuses) (some message.status)

section Steps

variable {journal journal' : Journal} {a : Action}

theorem Journal.step_eq (h : journal.step a = some journal') : journal.world.step a = some journal'.world ∧
    journal'.taken = journal.taken ++ [⟨journal.world, a, journal'.world⟩] ∧
    journal'.entries = journal.entries ++ (journal.world.db.logged journal'.world.db).map fun log => ⟨a.now, log⟩ := by
  obtain ⟨world, hworld, rfl⟩ := Option.map_eq_some_iff.1 h
  refine ⟨hworld, rfl, ?_⟩
  unfold Journal.entries
  rw [List.flatMap_append, List.flatMap_singleton]
  rfl

theorem Journal.about_append {rows : List LogEntry} (h : journal'.entries = journal.entries ++ rows)
    (messageRef : MessageCompositeId) : journal'.about messageRef =
      journal.about messageRef ++ rows.filter fun entry => decide (entry.log.messageRef = messageRef) := by
  unfold Journal.about
  rw [h, List.filter_append]

/-- Where a row of the message table after a step comes from, with the rows about it. -/
inductive AboutStep (journal : Journal) (a : Action) (journal' : Journal) (message : MessageRow) : Prop
  | kept (hmem : message ∈ journal.world.db.messages)
      (habout : journal'.about message.composite = journal.about message.composite)
  | created (log : MessageLogRow) (habout : journal'.about message.composite = [⟨a.now, log⟩])
      (hfrom : log.statusFrom = none) (hto : log.statusTo = some message.status)
      (hnow : message.stateChangedAt = a.now)
  | written (old : MessageRow) (log : MessageLogRow) (status next : MessageStatus)
      (hmem : old ∈ journal.world.db.messages) (hcomposite : message.composite = old.composite)
      (habout : journal'.about message.composite = journal.about old.composite ++ [⟨a.now, log⟩])
      (hfrom : log.statusFrom = some status) (hto : log.statusTo = some next)
      (htruth : (status = old.status ∧ next = message.status) ∨ ThrottlesSubmitting journal.world a)
      (hlater : old.stateChangedAt < a.now) (hnow : message.stateChangedAt = a.now)

theorem SoundJournal.aboutStep (hr : SoundJournal journal) (h : journal.step a = some journal') {message : MessageRow}
    (hmessage : message ∈ journal'.world.db.messages) : AboutStep journal a journal' message := by
  obtain ⟨hworld, -, hentries⟩ := Journal.step_eq h
  have hkeyed' := keyed_composite (hr.snapshots.step hworld).keyed
  have habout := Journal.about_append hentries message.composite
  cases hr.snapshots.logStep hworld with
  | quiet hmessages hlogs =>
    rw [Db.logged_of_eq hlogs] at habout
    refine .kept (hmessages ▸ hmessage) ?_
    rw [habout]
    simp
  | created new log hid hmessages hlogs href hfrom hto hnow =>
    rw [Db.logged_of_append hlogs] at habout
    rw [hmessages] at hmessage hkeyed'
    by_cases hnew : message.composite = new.composite
    · obtain rfl : message = new := hkeyed'.unique hmessage (by simp) hnew
      have hnone : journal.about message.composite = [] := by
        -- no row is about a message that is not in the table yet
        refine List.filter_eq_nil_iff.2 fun entry hentry heq => ?_
        obtain ⟨old, hold, hrefOld⟩ := hr.named entry hentry
        have hsame : old.composite = message.composite := hrefOld.symm.trans (by simpa using heq)
        have hfresh := hr.snapshots.fresh old hold
        have hids := congrArg MessageCompositeId.id hsame
        simp only [MessageRow.composite] at hids
        omega
      refine .created log ?_ hfrom hto hnow
      rw [habout, hnone]
      simp [href]
    · rcases List.mem_append.1 hmessage with hmem | hmem
      · refine .kept hmem ?_
        rw [habout]
        simp [href, Ne.symm hnew]
      · exact absurd (congrArg MessageRow.composite (List.mem_singleton.1 hmem)) hnew
  | written before old after new log status next hmessages hmessages' hcomposite hlogs href hfrom hto htruth hlater hnow =>
    rw [Db.logged_of_append hlogs] at habout
    rw [hmessages'] at hmessage hkeyed'
    by_cases hnew : message.composite = old.composite
    · -- the row of the write is appended to those about the message
      obtain rfl : message = new := hkeyed'.unique hmessage (by simp) (hnew.trans hcomposite.symm)
      refine .written old log status next (by rw [hmessages]; simp) hnew ?_ hfrom hto htruth hlater hnow
      rw [habout, hnew]
      simp [href]
    · rcases Rows.mem_replace (r := old) hmessage with rfl | hmem
      · exact absurd hcomposite hnew
      · refine .kept (hmessages ▸ hmem) ?_
        rw [habout]
        simp [href, Ne.symm hnew]

theorem SoundJournal.step_named (hr : SoundJournal journal) (h : journal.step a = some journal') :
    ∀ entry ∈ journal'.entries,
      ∃ message ∈ journal'.world.db.messages, entry.log.messageRef = message.composite := by
  obtain ⟨hworld, -, hentries⟩ := Journal.step_eq h
  have hold : ∀ message ∈ journal.world.db.messages, ∃ later ∈ journal'.world.db.messages,
      later.composite = message.composite := by
    intro message hmessage
    rcases (World.step_cases (keyed_composite hr.snapshots.keyed) hworld).messages.row_later hmessage with
      hsame | ⟨later, hlater, hstep⟩
    · exact ⟨message, hsame, rfl⟩
    · exact ⟨later, hlater, MessageRow.composite_of_content hstep.content⟩
  have hkept : ∀ messageRef, (∃ message ∈ journal.world.db.messages, messageRef = message.composite) →
      ∃ message ∈ journal'.world.db.messages, messageRef = message.composite := by
    rintro messageRef ⟨message, hmessage, rfl⟩
    obtain ⟨later, hlater, hcomposite⟩ := hold message hmessage
    exact ⟨later, hlater, hcomposite.symm⟩
  intro entry hentry
  rw [hentries] at hentry
  rcases List.mem_append.1 hentry with hmem | hmem
  · exact hkept _ (hr.named entry hmem)
  · cases hr.snapshots.logStep hworld with
    | quiet hmessages hlogs =>
      rw [Db.logged_of_eq hlogs] at hmem
      cases hmem
    | created new log hid hmessages hlogs href hfrom hto hnow =>
      rw [Db.logged_of_append hlogs] at hmem
      obtain rfl := List.mem_singleton.1 hmem
      exact ⟨new, by rw [hmessages]; simp, href⟩
    | written before old after new log status next hmessages hmessages' hcomposite hlogs href =>
      rw [Db.logged_of_append hlogs] at hmem
      obtain rfl := List.mem_singleton.1 hmem
      exact hkept _ ⟨old, by rw [hmessages]; simp, href⟩

theorem SoundJournal.step (hr : SoundJournal journal) (h : journal.step a = some journal') : SoundJournal journal' := by
  have hworld := (Journal.step_eq h).1
  refine ⟨hr.snapshots.step hworld, hr.snapshots.storable_step hr.storable hworld, hr.step_named h, ?_⟩
  intro message hmessage
  cases hr.aboutStep h hmessage with
  | kept hmem habout =>
    rw [habout]
    exact hr.ordered message hmem
  | created log habout hfrom hto hnow =>
    rw [habout]
    refine ⟨List.pairwise_singleton _ _, fun entry hentry => ?_⟩
    rw [List.mem_singleton.1 hentry, hnow]
  | written old log status next hmem hcomposite habout hfrom hto htruth hlater hnow =>
    obtain ⟨hsorted, hbound⟩ := hr.ordered old hmem
    rw [habout]
    constructor
    · -- the trigger has let `state_changed_at` move forward
      rw [List.pairwise_append]
      refine ⟨hsorted, List.pairwise_singleton _ _, fun entry hentry later hlast => ?_⟩
      rw [List.mem_singleton.1 hlast]
      exact Int.lt_of_le_of_lt (hbound entry hentry) hlater
    · intro entry hentry
      rw [hnow]
      rcases List.mem_append.1 hentry with hearlier | hlast
      · exact Int.le_of_lt (Int.lt_of_le_of_lt (hbound entry hearlier) hlater)
      · rw [List.mem_singleton.1 hlast]

/-- A step that does not throttle a `submitting` message keeps the replays. -/
theorem Replayed.step (hreplayed : Replayed journal) (hr : SoundJournal journal) (h : journal.step a = some journal')
    (hnot : ¬ ThrottlesSubmitting journal.world a) : Replayed journal' := by
  intro message hmessage
  cases hr.aboutStep h hmessage with
  | kept hmem habout =>
    rw [habout]
    exact hreplayed message hmem
  | created log habout hfrom hto hnow =>
    rw [habout]
    exact ⟨hfrom, hto⟩
  | written old log status next hmem hcomposite habout hfrom hto htruth hlater hnow =>
    obtain ⟨rfl, rfl⟩ : status = old.status ∧ next = message.status := htruth.resolve_right hnot
    have hold := @Replays.append _ _ _ _ (hreplayed old hmem) log.statusTo
    rw [habout, List.map_append, ← hto]
    rw [← hfrom] at hold
    exact hold

end Steps

theorem soundJournal_of_reaches {wallets : TenantId → Option WalletRow} {journal : Journal}
    (h : Reaches Journal.step (Journal.initial wallets) journal) : SoundJournal journal := by
  refine h.invariant ⟨Snapshots.initial wallets, ?_, ?_, ?_⟩ fun _ _ _ hr _ hstep => hr.step hstep
  · intro row hrow
    cases hrow
  · intro entry hentry
    cases hentry
  · intro message hmessage
    cases hmessage

/-- The steps that are logged truthfully are those that do not throttle a `submitting` message, and without such a step
the rows about every message replay its status. -/
structure Told (journal : Journal) : Prop where
  truthful : ∀ step ∈ journal.taken,
    (Truthful step.before.db step.after.db ↔ ¬ ThrottlesSubmitting step.before step.action)
  replayed : (∀ step ∈ journal.taken, ¬ ThrottlesSubmitting step.before step.action) → Replayed journal

theorem Told.step {journal journal' : Journal} {a : Action} (ht : Told journal) (hr : SoundJournal journal)
    (h : journal.step a = some journal') : Told journal' := by
  obtain ⟨hworld, htaken, -⟩ := Journal.step_eq h
  constructor
  · intro step hmem
    rw [htaken] at hmem
    rcases List.mem_append.1 hmem with hearlier | hlast
    · exact ht.truthful step hearlier
    · rw [List.mem_singleton.1 hlast]
      exact hr.snapshots.truthful_iff hr.storable hworld
  · intro hnot
    rw [htaken] at hnot
    refine (ht.replayed fun step hmem => hnot step (List.mem_append_left _ hmem)).step hr h ?_
    exact hnot _ (List.mem_append_right _ (List.mem_singleton_self _))

theorem told_of_reaches {wallets : TenantId → Option WalletRow} {journal : Journal}
    (h : Reaches Journal.step (Journal.initial wallets) journal) : Told journal := by
  refine h.invariant_of (fun _ hu => soundJournal_of_reaches hu) ?_ fun _ _ _ hr _ ht _ hstep => ht.step hr hstep
  constructor
  · intro step hstep
    cases hstep
  · intro _ message hmessage
    cases hmessage

/-! ### The trace -/

section Trace

open Explorers Queries StateExcept

/-- What the timeline shows of a row. -/
structure LogColumns where
  messageRef : MessageCompositeId
  statusFrom : Option String
  statusTo : Option String
  createdAt : Timestamp

def LogEntry.columns (entry : LogEntry) : LogColumns :=
  ⟨entry.log.messageRef, entry.log.statusFrom.map MessageStatus.text, entry.log.statusTo.map MessageStatus.text,
    entry.createdAt⟩

def logColumns (row : Explorers.MessageLogRow) : LogColumns :=
  ⟨⟨row.messageSubmitDate, row.tenantId, row.messageId⟩, row.statusFrom, row.statusTo, row.createdAt⟩

/-- The tables that the explorers read after a run. -/
structure Shows (tables : Tables) (journal : Journal) : Prop where
  messages : tables.messages = journal.world.db.messages
  logs : tables.messageLogs.map logColumns = journal.entries.map LogEntry.columns

/-- The statuses that a trace shows, row by row. -/
def shownStatuses (trace : MessageTrace) : List (Option String × Option String) :=
  trace.timeline.map fun entry => (entry.statusFrom, entry.statusTo)

variable {sql : Sql} {tables : Tables} {journal : Journal} {user : JwtClaims} {messageRef : MessageRef}
  {trace : MessageTrace}

/-- The rows that the timeline is selected from are those about the message. -/
theorem select_about (hshows : Shows tables journal) (message : MessageRow) :
    (select [equals (fun row : Explorers.MessageLogRow => some row.tenantId) message.tenantId,
      equals (fun row => some row.messageSubmitDate) message.submitDate,
      equals (fun row => some (row.messageId : Int)) (message.id : Int)] tables.messageLogs).map logColumns =
        (journal.about message.composite).map LogEntry.columns := by
  have hselect : ∀ row : Explorers.MessageLogRow,
      ([equals (fun row : Explorers.MessageLogRow => some row.tenantId) message.tenantId,
        equals (fun row => some row.messageSubmitDate) message.submitDate,
        equals (fun row => some (row.messageId : Int)) (message.id : Int)].all fun holds => holds row) =
      decide ((logColumns row).messageRef = message.composite) := by
    intro row
    simp only [equals, List.all_cons, List.all_nil, Bool.and_true, logColumns, MessageRow.composite,
      Option.some.injEq, Int.natCast_inj, MessageCompositeId.mk.injEq, Bool.decide_and]
    rw [Bool.and_left_comm]
  unfold select Journal.about
  rw [List.filter_congr fun row _ => hselect row]
  have hrows := congrArg (List.filter fun columns => decide (columns.messageRef = message.composite)) hshows.logs
  rw [List.filter_map, List.filter_map] at hrows
  exact hrows

/-- The rows of a trace are the rows about its message, in their order. -/
theorem trace_timeline (hr : SoundJournal journal) (hshows : Shows tables journal)
    (h : MessagesService.getMessageTrace sql tables user messageRef = .ok trace) :
    ∃ message ∈ journal.world.db.messages, trace.message.status = message.status ∧
      shownStatuses trace = (journal.about message.composite).map fun entry =>
        (entry.log.statusFrom.map MessageStatus.text, entry.log.statusTo.map MessageStatus.text) := by
  obtain ⟨scope, -, h⟩ := except_bind_eq_ok.1 h
  obtain ⟨message, hmessage, h⟩ := except_bind_eq_ok.1 h
  obtain ⟨submitDate, hdate, h⟩ := except_bind_eq_ok.1 h
  obtain ⟨tenant, htenant, h⟩ := except_bind_eq_ok.1 h
  obtain ⟨hmem, hdate', htenant', hid⟩ := getMessageRow_tenant hmessage
  have hdates : submitDate = message.submitDate := Option.some.inj ((cast_ok hdate).symm.trans hdate')
  have htenants : tenant = message.tenantId := Option.some.inj ((cast_ok htenant).symm.trans htenant')
  rw [hshows.messages] at hmem
  have hselected := select_about hshows message
  generalize hrows : select [equals (fun row : Explorers.MessageLogRow => some row.tenantId) message.tenantId,
    equals (fun row => some row.messageSubmitDate) message.submitDate,
    equals (fun row => some (row.messageId : Int)) (message.id : Int)] tables.messageLogs = rows at hselected
  -- the rows are read in the order of the table, so sorting by time leaves them where they are
  have hsorted : rows.Pairwise fun row later => row.createdAt < later.createdAt := by
    have hcolumns : ((journal.about message.composite).map LogEntry.columns).Pairwise fun columns later =>
        columns.createdAt < later.createdAt := List.pairwise_map.2 (hr.ordered message hmem).1
    rw [← hselected] at hcolumns
    have hrowColumns := List.pairwise_map.1 hcolumns
    exact hrowColumns
  have hshown : rows.map (fun row => (row.statusFrom, row.statusTo)) = (journal.about message.composite).map fun entry =>
      (entry.log.statusFrom.map MessageStatus.text, entry.log.statusTo.map MessageStatus.text) := by
    have hstatuses := congrArg (List.map fun columns => (columns.statusFrom, columns.statusTo)) hselected
    rw [List.map_map, List.map_map] at hstatuses
    exact hstatuses
  cases h
  refine ⟨message, hmem, rfl, ?_⟩
  unfold shownStatuses
  dsimp only
  rw [htenants, hdates, ← hid, hrows, oldestFirst_of_pairwise _ hsorted, List.map_map]
  exact hshown

end Trace

/-- In every run: every step is logged truthfully, and the timeline of every trace replays the status that it shows,
exactly if no step throttles a message that is `submitting`. -/
theorem timeline_truthful_iff {wallets : TenantId → Option WalletRow} {journal : Journal}
    (h : Reaches Journal.step (Journal.initial wallets) journal) :
    ((∀ step ∈ journal.taken, Truthful step.before.db step.after.db) ∧
      ∀ sql tables user messageRef trace, Shows tables journal →
        Explorers.MessagesService.getMessageTrace sql tables user messageRef = .ok trace →
        Replays none (shownStatuses trace) (some trace.message.status.text)) ↔
    ∀ step ∈ journal.taken, ¬ ThrottlesSubmitting step.before step.action := by
  have htold := told_of_reaches h
  constructor
  · rintro ⟨htruthful, -⟩ step hstep
    exact (htold.truthful step hstep).1 (htruthful step hstep)
  · intro hnot
    refine ⟨fun step hstep => (htold.truthful step hstep).2 (hnot step hstep), ?_⟩
    intro sql tables user messageRef trace hshows htrace
    obtain ⟨message, hmem, hstatus, hshown⟩ := trace_timeline (soundJournal_of_reaches h) hshows htrace
    have hreplays := (htold.replayed hnot message hmem).map MessageStatus.text
    rw [List.map_map] at hreplays
    rw [hshown, hstatus]
    exact hreplays

/-! ### A small instance -/

theorem taken_actions {journal journal' : Journal} {actions : List Action}
    (h : execute Journal.step journal actions = some journal') :
    journal'.taken.map Taken.action = journal.taken.map Taken.action ++ actions := by
  induction actions generalizing journal with
  | nil =>
    cases h
    rw [List.append_nil]
  | cons a actions ih =>
    obtain ⟨next, hnext, hrest⟩ := Option.bind_eq_some_iff.1 h
    rw [ih hrest, (Journal.step_eq hnext).2.1]
    simp

namespace Sample

/-- A message that its provider accepts. -/
def accepted : List Action :=
  let advance (time : Timestamp) : Action := .advance 0 (env time (services .allow 3 (accepts "provider-message")))
  [.submit (clock 1) submission, .deliver 0, advance 2, .deliver 1, advance 3, advance 3, advance 3, .deliver 2,
    advance 4]

/-- A message whose first attempt is refused and whose second one meets a throttle verdict. -/
def throttledRetry : List Action :=
  let advance (time : Timestamp) : Action := .advance 0 (env time (services .allow 2 refuses))
  [.submit (clock 1) submission, .deliver 0, advance 2, .deliver 1, advance 3, advance 3, advance 3, .deliver 2,
    advance 4, .deliver 3, advance 5, .deliver 4, .advance 0 (env 6 (services .throttle 2 refuses))]

end Sample

theorem timeline_truthful_accepted :
    ∃ journal, execute Journal.step (Journal.initial (Sample.wallets 100)) Sample.accepted = some journal ∧
      (∃ message ∈ journal.world.db.messages, message.status = .providerAccepted) ∧
      ∀ step ∈ journal.taken, Truthful step.before.db step.after.db := by
  have hfacts : (execute Journal.step (Journal.initial (Sample.wallets 100)) Sample.accepted).any (fun journal =>
      journal.world.db.messages.any fun message => decide (message.status = .providerAccepted)) = true := by
    decide +kernel
  obtain ⟨journal, hrun, hany⟩ := (Option.any_eq_true _ _).1 hfacts
  obtain ⟨message, hmem, hstatus⟩ := List.any_eq_true.1 hany
  refine ⟨journal, hrun, ⟨message, hmem, of_decide_eq_true hstatus⟩, ?_⟩
  have hactions := taken_actions hrun
  refine ((timeline_truthful_iff (reaches_of_execute hrun)).2 fun step hstep hthrottles => ?_).1
  have haction : step.action ∈ Sample.accepted := by
    have hmapped := List.mem_map_of_mem (f := Taken.action) hstep
    rw [hactions] at hmapped
    exact hmapped
  generalize step.action = action at haction hthrottles
  unfold Sample.accepted at haction
  simp only [List.mem_cons, List.not_mem_nil, or_false] at haction
  -- only the routing and the dispatch steps have a verdict, and it is the one of `services .allow`
  rcases haction with rfl | rfl | rfl | rfl | rfl | rfl | rfl | rfl | rfl
  all_goals first
    | exact hthrottles
    | (obtain ⟨_, _, -, -, hverdict, -⟩ := hthrottles
       cases hverdict)

/-- The row of the throttle verdict says that the message has stayed `routed`. -/
theorem timeline_untruthful_throttle :
    ¬ ∀ (wallets : TenantId → Option WalletRow) (journal : Journal),
      Reaches Journal.step (Journal.initial wallets) journal →
      ∀ step ∈ journal.taken, Truthful step.before.db step.after.db := by
  intro hall
  have hfacts : (execute Journal.step (Journal.initial (Sample.wallets 100)) Sample.throttledRetry).any (fun journal =>
      journal.taken.any fun step => (step.before.db.logged step.after.db).any fun log =>
        decide (log.statusFrom = some .routed ∧ log.statusTo = some .routed ∧
          step.before.db.statusOf log.messageRef = some .submitting)) = true := by
    decide +kernel
  obtain ⟨journal, hrun, hany⟩ := (Option.any_eq_true _ _).1 hfacts
  obtain ⟨step, hstep, hany⟩ := List.any_eq_true.1 hany
  obtain ⟨log, hlog, hstatuses⟩ := List.any_eq_true.1 hany
  obtain ⟨hfrom, hto, hbefore⟩ := of_decide_eq_true hstatuses
  have htold := (hall _ _ (reaches_of_execute hrun) step hstep).told log hlog _ _ hfrom hto
  rw [hbefore] at htold
  cases htold.1

end SmsPlatform
