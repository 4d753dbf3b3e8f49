import Mathlib.Data.List.Chain
import SmsPlatform.Campaigns.Sessions

/-!
# Materialization of due schedules

Beside the system all visible writes are written down.  The jobs of a recurring schedule stand for consecutive
occurrences of its expression from its first `next_run_at` on, none before its time, and a committed pause is only undone
by `setScheduleActive` (`schedules_materialize`).  A one-time schedule is parked a hundred years ahead, so after these
it runs a second time when it has been resumed (`materialized_again`).
-/

namespace SmsPlatform.Campaigns

open RowLocks Transition

/-! ### Reading the record -/

def Entry.jobs : Entry → List JobRow
  | .scheduled inserted => [inserted.job]
  | .materialized m => [m.job]
  | _ => []

/-- The schedules that an entry is about. -/
def Entry.schedules : Entry → List Nat
  | .scheduled inserted => [inserted.schedule.id]
  | .materialized m => [m.schedule.id]
  | .activated scheduleId _ => [scheduleId]
  | .cancelled _ schedules => schedules

def Entry.round (scheduleId : Nat) : Entry → Option Materialized
  | .materialized m => if m.schedule.id = scheduleId then some m else none
  | _ => none

/-- The rounds of a schedule, in the order of their commits. -/
def materializations (scheduleId : Nat) (record : List Entry) : List Materialized :=
  record.filterMap (Entry.round scheduleId)

/-- The `is_active` that an entry gives a schedule; a recurring one stays active. -/
def Entry.sets (scheduleId : Nat) : Entry → Option Bool
  | .scheduled _ => none
  | .materialized m =>
    if m.schedule.id = scheduleId ∧ m.schedule.recurrenceCron = none then some false else none
  | .activated id isActive => if id = scheduleId then some isActive else none
  | .cancelled _ schedules => if scheduleId ∈ schedules then some false else none

/-- The last `is_active` that a schedule has been given. -/
def lastActivity (scheduleId : Nat) (record : List Entry) : Option Bool :=
  record.foldl (fun last entry => (entry.sets scheduleId).or last) none

/-- The schedules as they were at the start, or as they were inserted. -/
def firsts (db : Tables) (record : List Entry) : List ScheduleRow :=
  db.schedules ++ record.filterMap fun
    | .scheduled inserted => some inserted.schedule
    | _ => none

section Record

variable {scheduleId : Nat} {record entries : List Entry}

theorem materializations_append : materializations scheduleId (record ++ entries) =
    materializations scheduleId record ++ materializations scheduleId entries :=
  List.filterMap_append

theorem mem_materializations {m : Materialized} (h : m ∈ materializations scheduleId record) :
    .materialized m ∈ record ∧ m.schedule.id = scheduleId := by
  obtain ⟨entry, hentry, hsome⟩ := List.mem_filterMap.1 h
  cases entry with
  | materialized m' =>
    unfold Entry.round at hsome
    dsimp only at hsome
    split at hsome
    · rename_i hid
      cases hsome
      exact ⟨hentry, hid⟩
    · cases hsome
  | _ => cases hsome

/-- The entries of a commit hold at most one round of a schedule. -/
theorem materializations_done_of_not_mem {done : List Materialized} (h : ∀ m ∈ done, m.schedule.id ≠ scheduleId) :
    materializations scheduleId (done.map Entry.materialized) = [] := by
  refine List.filterMap_eq_nil_iff.2 fun entry hentry => ?_
  obtain ⟨m, hm, rfl⟩ := List.mem_map.1 hentry
  exact if_neg (h m hm)

theorem materializations_done_of_mem {done : List Materialized} (hdistinct : (done.map fun m => m.schedule.id).Nodup)
    {m : Materialized} (hm : m ∈ done) :
    materializations m.schedule.id (done.map Entry.materialized) = [m] := by
  obtain ⟨before, after, rfl⟩ := List.append_of_mem hm
  rw [List.map_append, List.map_cons, List.nodup_append, List.nodup_cons] at hdistinct
  obtain ⟨-, ⟨hafter, -⟩, hbefore⟩ := hdistinct
  have hnone : ∀ other ∈ before, other.schedule.id ≠ m.schedule.id := by
    intro other hother
    exact hbefore _ (List.mem_map_of_mem hother) _ (List.mem_cons_self ..)
  have hnone' : ∀ other ∈ after, other.schedule.id ≠ m.schedule.id := by
    intro other hother hsame
    exact hafter (hsame ▸ List.mem_map_of_mem hother)
  rw [List.map_append, List.map_cons, materializations_append, materializations_done_of_not_mem hnone, List.nil_append]
  have hself : Entry.round m.schedule.id (.materialized m) = some m := if_pos rfl
  show (Entry.materialized m :: after.map Entry.materialized).filterMap (Entry.round m.schedule.id) = [m]
  rw [List.filterMap_cons_some hself]
  exact congrArg (m :: ·) (materializations_done_of_not_mem hnone')

theorem lastActivity_snoc {entry : Entry} : lastActivity scheduleId (record ++ [entry]) =
    (entry.sets scheduleId).or (lastActivity scheduleId record) :=
  List.foldl_concat ..

/-- Entries about other schedules do not count. -/
theorem lastActivity_append_of_none (h : ∀ entry ∈ entries, entry.sets scheduleId = none) :
    lastActivity scheduleId (record ++ entries) = lastActivity scheduleId record := by
  induction entries generalizing record with
  | nil => rw [List.append_nil]
  | cons entry entries ih =>
    obtain ⟨hnone, hrest⟩ := List.forall_mem_cons.1 h
    have hsplit : record ++ entry :: entries = (record ++ [entry]) ++ entries := by simp
    rw [hsplit, ih hrest, lastActivity_snoc, hnone]
    rfl

theorem Entry.sets_of_not_mem {entry : Entry} (h : scheduleId ∉ entry.schedules) : entry.sets scheduleId = none := by
  cases entry with
  | scheduled inserted => rfl
  | materialized m => exact if_neg fun hsets => h (by rw [← hsets.1]; exact List.mem_singleton_self _)
  | activated id isActive => exact if_neg fun hid => h (by rw [← hid]; exact List.mem_singleton_self _)
  | cancelled campaignId schedules => exact if_neg h

end Record

/-! ### The rounds of one schedule -/

/-- The same schedule at another time. -/
def ScheduleRow.Later (first row : ScheduleRow) : Prop :=
  row = { first with nextRunAt := row.nextRunAt, isActive := row.isActive }

/-- What the rounds of a schedule have been: the occurrences in order and without gaps, the next one still to come; or,
of a one-time schedule, rounds that lie a hundred years apart. -/
structure Progress (cron : Cron) (first : ScheduleRow) (nextRunAt : Instant) (rounds : List Materialized) : Prop where
  starts : ((rounds.map fun m => m.schedule.nextRunAt) ++ [nextRunAt]).head? = some first.nextRunAt
  recurs : ∀ expression, recurring first.recurrenceCron = some expression →
    ((rounds.map fun m => m.schedule.nextRunAt) ++ [nextRunAt]).IsChain (cron.IsNext expression first.timezone)
  parked : recurring first.recurrenceCron = none →
    (rounds.IsChain fun m m' => m.clientNow + hundredYears ≤ m'.job.createdAt) ∧
      ∀ m ∈ rounds.getLast?, nextRunAt = m.clientNow + hundredYears

theorem Progress.start (cron : Cron) (first : ScheduleRow) : Progress cron first first.nextRunAt [] where
  starts := rfl
  recurs := fun _ _ => List.isChain_singleton _
  parked := fun _ => ⟨List.isChain_nil, fun m hm => by cases hm⟩

/-- One more round. -/
theorem Progress.snoc {cron : Cron} {first row : ScheduleRow} {rounds : List Materialized} {m : Materialized}
    {now : Instant} (h : Progress cron first row.nextRunAt rounds) (hrow : first.Later row) (hm : m.Of cron now row)
    (hdue : row.nextRunAt ≤ now) : Progress cron first m.nextRunAt (rounds ++ [m]) := by
  have hcron : row.recurrenceCron = first.recurrenceCron := by rw [hrow]
  have hzone : row.timezone = first.timezone := by rw [hrow]
  have htimes : (rounds ++ [m]).map (fun m => m.schedule.nextRunAt) =
      rounds.map (fun m => m.schedule.nextRunAt) ++ [row.nextRunAt] := by
    rw [List.map_append, List.map_singleton, hm.schedule]
  refine ⟨?_, ?_, ?_⟩
  · rw [htimes, List.head?_append, h.starts]
    rfl
  · intro expression hrecurring
    rw [htimes, List.isChain_append]
    refine ⟨h.recurs expression hrecurring, List.isChain_singleton _, fun t ht t' ht' => ?_⟩
    rw [List.getLast?_concat, Option.mem_some_iff] at ht
    rw [List.head?_cons, Option.mem_some_iff] at ht'
    rw [← ht, ← ht', ← hzone]
    exact hm.recurs expression (by rw [hcron]; exact hrecurring)
  · intro honce
    obtain ⟨hchain, hlast⟩ := h.parked honce
    refine ⟨?_, fun m' hm' => ?_⟩
    · rw [List.isChain_append]
      refine ⟨hchain, List.isChain_singleton _, fun last hl next hn => ?_⟩
      rw [List.head?_cons, Option.mem_some_iff] at hn
      rw [← hn, hm.createdAt, ← hlast last hl]
      exact hdue
    · rw [List.getLast?_concat, Option.mem_some_iff] at hm'
      rw [← hm']
      exact hm.parked (by rw [hcron]; exact honce)

/-! ### The record and the tables -/

/-- A round comes only when nothing has deactivated its schedule since it was last activated. -/
def Respects (entry : Entry) (before : List Entry) : Prop :=
  ∀ m, entry = .materialized m → lastActivity m.schedule.id before ≠ some false

/-- The job of a round is one of its schedule, and it is not created before its occurrence. -/
structure Materialized.Punctual (m : Materialized) : Prop where
  tenantId : m.job.tenantId = m.schedule.tenantId
  campaignId : m.job.campaignId = m.schedule.campaignId
  createdAt : m.schedule.nextRunAt ≤ m.job.createdAt

/-- What the record says about the tables, from the tables `db` at the start. -/
structure History (cron : Cron) (db : Tables) (s : System) (record : List Entry) : Prop where
  jobs : s.db.jobs = db.jobs ++ record.flatMap Entry.jobs
  progress : ∀ first ∈ firsts db record, ∃ row ∈ s.db.schedules, first.Later row ∧
    Progress cron first row.nextRunAt (materializations first.id record)
  inactive : ∀ row ∈ s.db.schedules, lastActivity row.id record = some false → row.isActive = false
  respected : Preceded Respects record
  named : ∀ entry ∈ record, ∀ id ∈ entry.schedules, id ∈ s.db.schedules.map ScheduleRow.id
  punctual : ∀ m, .materialized m ∈ record → m.Punctual

theorem History.initial (cron : Cron) (db : Tables) (ids : Sequences) :
    History cron db (System.initial db ids) [] := by
  refine ⟨?_, ?_, ?_, .nil, ?_, ?_⟩
  · exact (List.append_nil _).symm
  · intro first hfirst
    rw [show firsts db [] = db.schedules from List.append_nil _] at hfirst
    exact ⟨first, hfirst, rfl, .start cron first⟩
  · intro row hrow hsome
    cases hsome
  · intro entry hentry
    cases hentry
  · intro m hm
    cases hm

theorem ScheduleRow.Later.id {first row : ScheduleRow} (h : first.Later row) : row.id = first.id := by
  rw [h]

theorem ScheduleRow.Later.trans {first row : ScheduleRow} (h : first.Later row) (nextRunAt : Instant)
    (isActive : Bool) : first.Later { row with nextRunAt := nextRunAt, isActive := isActive } := by
  unfold ScheduleRow.Later at h ⊢
  rw [h]

section Steps

variable {cron : Cron} {db : Tables} {s t : System} {record : List Entry}

theorem firsts_snoc {entry : Entry} (h : ∀ inserted, entry ≠ .scheduled inserted) :
    firsts db (record ++ [entry]) = firsts db record := by
  unfold firsts
  rw [List.filterMap_append]
  cases entry with
  | scheduled inserted => exact absurd rfl (h inserted)
  | _ => exact congrArg _ (List.append_nil _)

theorem firsts_done {done : List Materialized} : firsts db (record ++ done.map Entry.materialized) =
    firsts db record := by
  unfold firsts
  rw [List.filterMap_append, List.filterMap_map]
  have hnone : done.filterMap ((fun | Entry.scheduled inserted => some inserted.schedule | _ => none) ∘
      Entry.materialized) = [] := List.filterMap_eq_nil_iff.2 fun _ _ => rfl
  rw [hnone, List.append_nil]

private theorem respected_snoc (h : Preceded Respects record) {entry : Entry}
    (hentry : ∀ m, entry ≠ .materialized m) : Preceded Respects (record ++ [entry]) := by
  refine h.append fun entry' hentry' before m hm => ?_
  rw [List.mem_singleton.1 hentry'] at hm
  exact absurd hm (hentry m)

private theorem named_snoc (h : History cron db s record) {entry : Entry} {ids : List Nat}
    (hids : ∀ id ∈ s.db.schedules.map ScheduleRow.id, id ∈ ids) (hentry : ∀ id ∈ entry.schedules, id ∈ ids) :
    ∀ other ∈ record ++ [entry], ∀ id ∈ other.schedules, id ∈ ids := by
  intro other hother id hid
  rcases List.mem_append.1 hother with hold | hnew
  · exact hids id (h.named other hold id hid)
  · rw [List.mem_singleton.1 hnew] at hid
    exact hentry id hid

/-- An entry that is no round and no new schedule, over schedules that keep their times. -/
private theorem progress_flags (h : History cron db s record) {entry : Entry} {f : ScheduleRow → ScheduleRow}
    (hf : ∀ row, ∃ active, f row = { row with isActive := active }) (hround : ∀ id, entry.round id = none)
    (hinserted : ∀ inserted, entry ≠ .scheduled inserted) :
    ∀ first ∈ firsts db (record ++ [entry]), ∃ row ∈ s.db.schedules.map f, first.Later row ∧
      Progress cron first row.nextRunAt (materializations first.id (record ++ [entry])) := by
  intro first hfirst
  rw [firsts_snoc hinserted] at hfirst
  obtain ⟨row, hrow, hlater, hprogress⟩ := h.progress first hfirst
  obtain ⟨active, hactive⟩ := hf row
  have hsame : materializations first.id (record ++ [entry]) = materializations first.id record := by
    rw [materializations_append]
    unfold materializations
    rw [List.filterMap_cons_none (hround first.id), List.filterMap_nil, List.append_nil]
  refine ⟨f row, List.mem_map_of_mem hrow, ?_, ?_⟩
  · rw [hactive]
    exact hlater.trans row.nextRunAt active
  · rw [hsame, hactive]
    exact hprogress

theorem History.scheduled (h : History cron db s record) {inserted : Scheduling}
    (hfresh : inserted.schedule.id ∉ s.db.schedules.map ScheduleRow.id)
    (hdb : t.db = s.db.insertScheduling inserted) : History cron db t (record ++ [.scheduled inserted]) := by
  have hschedules : t.db.schedules = s.db.schedules ++ [inserted.schedule] := by rw [hdb]; rfl
  have hjobs : t.db.jobs = s.db.jobs ++ [inserted.job] := by rw [hdb]; rfl
  -- nothing in the record is about the new schedule
  have hunnamed : ∀ entry ∈ record, inserted.schedule.id ∉ entry.schedules := fun entry hentry hid =>
    hfresh (h.named entry hentry _ hid)
  have hsilent : lastActivity inserted.schedule.id record = none := by
    have hnone : lastActivity inserted.schedule.id ([] ++ record) = lastActivity inserted.schedule.id [] :=
      lastActivity_append_of_none fun entry hentry => Entry.sets_of_not_mem (hunnamed entry hentry)
    rw [List.nil_append] at hnone
    exact hnone
  refine ⟨?_, ?_, ?_, respected_snoc h.respected fun m hm => (by cases hm), ?_, ?_⟩
  · rw [hjobs, h.jobs, List.flatMap_append, List.append_assoc]
    rfl
  · intro first hfirst
    have hsame : materializations first.id (record ++ [.scheduled inserted]) = materializations first.id record := by
      rw [materializations_append]
      exact List.append_nil _
    rw [hsame, hschedules]
    have hfirsts : firsts db (record ++ [.scheduled inserted]) = firsts db record ++ [inserted.schedule] := by
      unfold firsts
      rw [List.filterMap_append, List.append_assoc]
      rfl
    rw [hfirsts] at hfirst
    rcases List.mem_append.1 hfirst with hold | hnew
    · obtain ⟨row, hrow, hlater, hprogress⟩ := h.progress first hold
      exact ⟨row, List.mem_append_left _ hrow, hlater, hprogress⟩
    · rw [List.mem_singleton.1 hnew]
      have hnone : materializations inserted.schedule.id record = [] := by
        refine List.eq_nil_iff_forall_not_mem.2 fun m hm => ?_
        obtain ⟨hentry, hid⟩ := mem_materializations hm
        exact hunnamed _ hentry (by rw [← hid]; exact List.mem_singleton_self _)
      rw [hnone]
      exact ⟨_, List.mem_append_right _ (List.mem_singleton_self _), rfl, .start cron _⟩
  · intro row hrow hlast
    rw [lastActivity_snoc] at hlast
    have hlast : lastActivity row.id record = some false := hlast
    rw [hschedules] at hrow
    rcases List.mem_append.1 hrow with hold | hnew
    · exact h.inactive row hold hlast
    · rw [List.mem_singleton.1 hnew, hsilent] at hlast
      cases hlast
  · rw [hschedules, List.map_append]
    refine named_snoc h (fun id hid => List.mem_append_left _ hid) fun id hid => ?_
    rw [List.mem_singleton.1 hid]
    exact List.mem_append_right _ (List.mem_singleton_self _)
  · intro m hm
    rcases List.mem_append.1 hm with hold | hnew
    · exact h.punctual m hold
    · cases List.mem_singleton.1 hnew

/-- An entry that sets the flags of some schedules and does nothing else. -/
private theorem History.flagged (h : History cron db s record) {entry : Entry} (hnone : entry.jobs = [])
    (hround : ∀ m, entry ≠ .materialized m) (hinserted : ∀ inserted, entry ≠ .scheduled inserted)
    (hknown : ∀ id ∈ entry.schedules, id ∈ s.db.schedules.map ScheduleRow.id) (hjobs : t.db.jobs = s.db.jobs)
    {p : ScheduleRow → Bool} {isActive : Bool}
    (hschedules : t.db.schedules = s.db.schedules.map fun r => if p r then { r with isActive := isActive } else r)
    (hsets : ∀ r ∈ s.db.schedules, entry.sets r.id = if p r then some isActive else none) :
    History cron db t (record ++ [entry]) := by
  have hids : t.db.schedules.map ScheduleRow.id = s.db.schedules.map ScheduleRow.id := by
    rw [hschedules]
    exact Rows.map_update (f := fun r : ScheduleRow => { r with isActive := isActive }) (fun _ => rfl) _
  have hrounds (id : Nat) : entry.round id = none := by
    cases entry with
    | materialized m => exact absurd rfl (hround m)
    | _ => rfl
  refine ⟨?_, ?_, ?_, respected_snoc h.respected hround, ?_, ?_⟩
  · rw [hjobs, h.jobs, List.flatMap_append, List.flatMap_singleton, hnone, List.append_nil]
  · rw [hschedules]
    refine progress_flags h (fun r => ?_) hrounds hinserted
    by_cases hp : p r = true
    · exact ⟨isActive, if_pos hp⟩
    · exact ⟨r.isActive, if_neg hp⟩
  · intro r' hr' hlast
    rw [hschedules] at hr'
    obtain ⟨r, hr, rfl⟩ := List.mem_map.1 hr'
    rw [lastActivity_snoc] at hlast
    by_cases hp : p r = true
    · rw [if_pos hp] at hlast ⊢
      rw [show ({ r with isActive := isActive } : ScheduleRow).id = r.id from rfl, hsets r hr, if_pos hp] at hlast
      exact Option.some.inj hlast
    · rw [if_neg hp] at hlast ⊢
      rw [hsets r hr, if_neg hp] at hlast
      exact h.inactive r hr hlast
  · rw [hids]
    exact named_snoc h (fun id hid => hid) hknown
  · intro m hm
    rcases List.mem_append.1 hm with hold | hnew
    · exact h.punctual m hold
    · exact absurd (List.mem_singleton.1 hnew).symm (hround m)

theorem History.activated (h : History cron db s record) (hs : Consistent cron s) {row : ScheduleRow}
    (hrow : row ∈ s.db.schedules) {isActive : Bool} (hdb : t.db = s.db.writeActive row.tenantId row.id isActive) :
    History cron db t (record ++ [.activated row.id isActive]) := by
  have hjobs : t.db.jobs = s.db.jobs := by rw [hdb]; rfl
  have hschedules : t.db.schedules = s.db.schedules.map fun r =>
      if decide (r.tenantId = row.tenantId ∧ r.id = row.id) = true then { r with isActive := isActive } else r := by
    rw [hdb]
    rfl
  refine h.flagged rfl (fun m hm => by cases hm) (fun inserted hm => by cases hm) (fun id hid => ?_) hjobs hschedules
    fun r hr => ?_
  · rw [List.mem_singleton.1 hid]
    exact List.mem_map_of_mem hrow
  · show (if row.id = r.id then some isActive else none) = _
    by_cases hid : r.id = row.id
    · obtain rfl : r = row := hs.unique hr hrow hid
      rw [if_pos rfl, if_pos (decide_eq_true ⟨rfl, rfl⟩)]
    · rw [if_neg (Ne.symm hid), if_neg fun hp => hid (of_decide_eq_true hp).2]

theorem History.cancelled (h : History cron db s record) {now : Instant} {tenantId : TenantId} {campaignId : Nat}
    {updated : List Nat} (hupdated : ∀ id ∈ updated, id ∈ s.db.schedules.map ScheduleRow.id)
    (hdb : t.db = s.db.writeCancelled now tenantId campaignId updated) :
    History cron db t (record ++ [.cancelled campaignId updated]) := by
  have hjobs : t.db.jobs = s.db.jobs := by rw [hdb]; rfl
  have hschedules : t.db.schedules = s.db.schedules.map fun r =>
      if decide (r.id ∈ updated) = true then { r with isActive := false } else r := by
    rw [hdb]
    rfl
  refine h.flagged rfl (fun m hm => by cases hm) (fun inserted hm => by cases hm) hupdated hjobs hschedules fun r _ => ?_
  show (if r.id ∈ updated then some false else none) = _
  by_cases hid : r.id ∈ updated
  · rw [if_pos hid, if_pos (decide_eq_true hid)]
  · rw [if_neg hid, if_neg fun hp => hid (of_decide_eq_true hp)]

/-- Rounds of other schedules do not count. -/
private theorem sets_done {done : List Materialized} {scheduleId : Nat} (h : ∀ m ∈ done, m.schedule.id ≠ scheduleId) :
    ∀ entry ∈ done.map Entry.materialized, entry.sets scheduleId = none := by
  intro entry hentry
  obtain ⟨m, hm, rfl⟩ := List.mem_map.1 hentry
  exact if_neg fun hsets => h m hm hsets.1

/-- The last activity of a schedule after one of the rounds of a commit was its own. -/
private theorem lastActivity_done {done : List Materialized} (hdistinct : (done.map fun m => m.schedule.id).Nodup)
    {m : Materialized} (hm : m ∈ done) : lastActivity m.schedule.id (record ++ done.map Entry.materialized) =
      ((Entry.materialized m).sets m.schedule.id).or (lastActivity m.schedule.id record) := by
  obtain ⟨before, after, rfl⟩ := List.append_of_mem hm
  rw [List.map_append, List.map_cons, List.nodup_append, List.nodup_cons] at hdistinct
  obtain ⟨-, ⟨hafter, -⟩, hbefore⟩ := hdistinct
  have hnone : ∀ other ∈ before, other.schedule.id ≠ m.schedule.id := fun other hother =>
    hbefore _ (List.mem_map_of_mem hother) _ (List.mem_cons_self ..)
  have hnone' : ∀ other ∈ after, other.schedule.id ≠ m.schedule.id := fun other hother hsame =>
    hafter (hsame ▸ List.mem_map_of_mem hother)
  have hsplit : record ++ (before ++ m :: after).map Entry.materialized =
      ((record ++ before.map Entry.materialized) ++ [.materialized m]) ++ after.map Entry.materialized := by
    simp
  rw [hsplit, lastActivity_append_of_none (sets_done hnone'), lastActivity_snoc,
    lastActivity_append_of_none (sets_done hnone)]

theorem History.materialized (h : History cron db s record) (hs : Consistent cron s) {session : Nat} {now : Instant}
    {done : List Materialized} (hsession : s.sessions session = some (.materializing now [] done))
    (hdb : t.db = s.db.writeMaterialized done) : History cron db t (record ++ done.map Entry.materialized) := by
  have hdistinct := hs.rounds_distinct hsession
  have hheld : ∀ m ∈ done, Held s session m.schedule := fun m hm => (hs.round_held hsession hm).1
  have hdue : ∀ m ∈ done, m.schedule.nextRunAt ≤ now := fun m hm => (hs.round_held hsession hm).2.1
  have hdone : ∀ m ∈ done, m.Of cron now m.schedule := fun m hm => (hs.round_held hsession hm).2.2
  have hschedules : t.db.schedules = s.db.schedules.map (written done) := by
    rw [hdb]
    exact writeMaterialized_schedules ..
  -- the row of a round is the one that is stored
  have hcases : ∀ row ∈ s.db.schedules, (∃ m ∈ done, m.schedule = row ∧ written done row =
      { row with nextRunAt := m.nextRunAt, isActive := m.isActive }) ∨
        ((∀ m ∈ done, m.schedule.id ≠ row.id) ∧ written done row = row) := by
    intro row hrow
    by_cases hid : ∃ m ∈ done, m.schedule.id = row.id
    · obtain ⟨m, hm, hid⟩ := hid
      exact .inl ⟨m, hm, hs.unique (hheld m hm).stored hrow hid, written_of_mem hdistinct hm hid.symm⟩
    · have hnone : ∀ m ∈ done, m.schedule.id ≠ row.id := fun m hm heq => hid ⟨m, hm, heq⟩
      exact .inr ⟨hnone, written_of_not_mem hnone⟩
  refine ⟨?_, ?_, ?_, ?_, ?_, ?_⟩
  · have hjobs : t.db.jobs = s.db.jobs ++ done.map Materialized.job := by rw [hdb]; rfl
    have hflat : (done.map Entry.materialized).flatMap Entry.jobs = done.map Materialized.job := by
      rw [List.flatMap_map]
      exact List.map_eq_flatMap.symm
    rw [hjobs, h.jobs, List.flatMap_append, List.append_assoc, hflat]
  · intro first hfirst
    rw [firsts_done] at hfirst
    obtain ⟨row, hrow, hlater, hprogress⟩ := h.progress first hfirst
    refine ⟨written done row, by rw [hschedules]; exact List.mem_map_of_mem hrow, ?_⟩
    rw [materializations_append, ← hlater.id]
    rw [← hlater.id] at hprogress
    rcases hcases row hrow with ⟨m, hm, hrowEq, hwritten⟩ | ⟨hnone, hwritten⟩
    · rw [hwritten]
      refine ⟨hlater.trans _ _, ?_⟩
      have hone := materializations_done_of_mem hdistinct hm
      rw [hrowEq] at hone
      rw [hone]
      have hof := hdone m hm
      rw [hrowEq] at hof
      exact hprogress.snoc hlater hof (hrowEq ▸ hdue m hm)
    · rw [hwritten, materializations_done_of_not_mem hnone, List.append_nil]
      exact ⟨hlater, hprogress⟩
  · intro row' hrow' hlast
    rw [hschedules] at hrow'
    obtain ⟨row, hrow, rfl⟩ := List.mem_map.1 hrow'
    rw [written_id] at hlast
    rcases hcases row hrow with ⟨m, hm, hrowEq, hwritten⟩ | ⟨hnone, hwritten⟩
    · rw [hwritten]
      show m.isActive = false
      rw [(hdone m hm).isActive]
      rw [← hrowEq, lastActivity_done hdistinct hm] at hlast
      by_cases honce : m.schedule.recurrenceCron = none
      · rw [honce]
        rfl
      · -- the round found its schedule active
        have hsets : (Entry.materialized m).sets m.schedule.id = none := if_neg fun hsets => honce hsets.2
        rw [hsets] at hlast
        have hactive := (hheld m hm).active
        rw [h.inactive _ (hheld m hm).stored hlast] at hactive
        cases hactive
    · rw [hwritten]
      rw [lastActivity_append_of_none (sets_done hnone)] at hlast
      exact h.inactive row hrow hlast
  · refine h.respected.append_of_split fun before entry after heq m hentry hlast => ?_
    obtain ⟨done₁, rest, rfl, rfl, hrest⟩ := List.map_eq_append_iff.1 heq
    obtain ⟨m', done₂, rfl, hm', -⟩ := List.map_eq_cons_iff.1 hrest
    have hsame : m' = m := Entry.materialized.inj (hm'.trans hentry)
    subst hsame
    rw [List.map_append, List.map_cons, List.nodup_append] at hdistinct
    have hnone : ∀ other ∈ done₁, other.schedule.id ≠ m'.schedule.id := fun other hother =>
      hdistinct.2.2 _ (List.mem_map_of_mem hother) _ (List.mem_cons_self ..)
    rw [lastActivity_append_of_none (sets_done hnone)] at hlast
    have hm : m' ∈ done₁ ++ m' :: done₂ := by simp
    have hactive := (hheld m' hm).active
    rw [h.inactive _ (hheld m' hm).stored hlast] at hactive
    cases hactive
  · intro entry hentry id hid
    rw [hschedules, List.map_map]
    have hsame : (ScheduleRow.id ∘ written done) = ScheduleRow.id := funext fun row => written_id done row
    rw [hsame]
    rcases List.mem_append.1 hentry with hold | hnew
    · exact h.named entry hold id hid
    · obtain ⟨m, hm, rfl⟩ := List.mem_map.1 hnew
      rw [List.mem_singleton.1 hid]
      exact List.mem_map_of_mem (hheld m hm).stored
  · intro m hm
    rcases List.mem_append.1 hm with hold | hnew
    · exact h.punctual m hold
    · obtain ⟨m', hm', heq⟩ := List.mem_map.1 hnew
      cases heq
      have hof := hdone m hm'
      refine ⟨hof.tenantId, hof.campaignId, ?_⟩
      rw [hof.createdAt]
      exact hdue m hm'

theorem History.step (h : History cron db s record) (hs : Consistent cron s) {a : Action}
    (hstep : Stepped cron s a t) : History cron db t (record ++ entries s a t) := by
  have hsilent : t.db = s.db → entries s a t = [] → History cron db t (record ++ entries s a t) := by
    intro hdb hnone
    rw [hnone, List.append_nil]
    exact ⟨hdb ▸ h.jobs, hdb ▸ h.progress, hdb ▸ h.inactive, h.respected, hdb ▸ h.named, h.punctual⟩
  cases hstep with
  | refused a ha => exact hsilent rfl ha
  | ended ha => exact hsilent rfl ha
  | @scheduled session inserted hsession =>
    rw [entries_commit hsession]
    refine h.scheduled ?_ rfl
    exact hs.schedules.heldFresh session _ (by unfold drawn; rw [hsession]; rfl)
  | rounds hsession =>
    rw [entries_commit hsession]
    exact h.materialized hs hsession rfl
  | @cancelled session now tenantId campaignId updated hsession =>
    rw [entries_commit hsession]
    obtain ⟨-, -, hknown⟩ : Session.Ok cron s session (.deactivating now tenantId campaignId [] updated) :=
      hs.sessions session _ hsession
    exact h.cancelled hknown rfl
  | activated hrow hfree =>
    rw [entries_setScheduleActive hrow]
    exact h.activated hs hrow rfl
  | _ => exact hsilent rfl rfl

end Steps

/-! ### Whole runs -/

theorem history_of_reaches {cron : Cron} {db : Tables} {ids : Sequences} (hdb : db.Numbered ids)
    {run : Recorded System Entry} (h : Reaches (recorded (System.step cron) entries) ⟨System.initial db ids, []⟩ run) :
    History cron db run.state run.record :=
  Runs.record_invariant_reaches (P := History cron db) (Q := Consistent cron) h
    (fun _ hrun => consistent_of_reaches hdb hrun) (History.initial cron db ids)
    fun _ _ _ _ hs hp hstep => hp.step hs (System.step_cases hstep)

/-- Over every run, with any number of schedulers that may abort at any time: the jobs are those of the record; the rounds
of a schedule stand for consecutive occurrences from its first `next_run_at` on, or lie a hundred years apart; no job is
created before its occurrence; and no round comes after a pause, or after the round of a one-time schedule, unless the
schedule has been resumed since. -/
theorem schedules_materialize (cron : Cron) {db : Tables} {ids : Sequences} (hdb : db.Numbered ids)
    {run : Recorded System Entry} (h : Reaches (recorded (System.step cron) entries) ⟨System.initial db ids, []⟩ run) :
    run.state.db.jobs = db.jobs ++ run.record.flatMap Entry.jobs ∧
    (∀ first ∈ firsts db run.record, ∃ row ∈ run.state.db.schedules, first.Later row ∧
      Progress cron first row.nextRunAt (materializations first.id run.record)) ∧
    (∀ m, .materialized m ∈ run.record → m.Punctual) ∧
    Preceded Respects run.record ∧
    ∀ row ∈ run.state.db.schedules, lastActivity row.id run.record = some false → row.isActive = false := by
  have hhistory := history_of_reaches hdb h
  exact ⟨hhistory.jobs, hhistory.progress, hhistory.punctual, hhistory.respected, hhistory.inactive⟩

/-- A round of the schedule with id 1. -/
def Sample.round (session : Nat) (now : Instant) : List Action :=
  [.materialize session now, .lockDue session 1, .select session, .materializeNext session now, .commit session]

/-- Two schedulers one after the other, a minute apart. -/
theorem schedules_materialize_every_minute : ∃ run,
    Reaches (recorded (System.step Sample.everyMinute) entries)
      ⟨System.initial (Sample.tables (some "* * * * *")) Sample.ids, []⟩ run ∧
    (materializations 1 run.record).map (fun m => m.schedule.nextRunAt) = [60000, 120000] ∧
    ∃ row ∈ run.state.db.schedules, ∀ expression, recurring (some "* * * * *") = some expression →
      ([60000, 120000] ++ [row.nextRunAt]).IsChain (Sample.everyMinute.IsNext expression "UTC") := by
  have h : (execute (recorded (System.step Sample.everyMinute) entries)
      ⟨System.initial (Sample.tables (some "* * * * *")) Sample.ids, []⟩
      (Sample.round 0 60500 ++ Sample.round 1 121000)).any (fun run => decide
        ((materializations 1 run.record).map (fun m => m.schedule.nextRunAt) = [60000, 120000])) = true := by
    decide +kernel
  obtain ⟨run, hrun, htimes⟩ := (Option.any_eq_true _ _).1 h
  have htimes := of_decide_eq_true htimes
  have hreach := reaches_of_execute hrun
  obtain ⟨-, hprogress, -⟩ := schedules_materialize Sample.everyMinute (Sample.numbered _) hreach
  obtain ⟨row, hrow, -, hrow'⟩ := hprogress (Sample.schedule (some "* * * * *")) (List.mem_append_left _
    (List.mem_singleton_self _))
  refine ⟨run, hreach, htimes, row, hrow, fun expression hexpression => ?_⟩
  rw [← htimes]
  exact hrow'.recurs expression hexpression

/-- A one-time schedule that is resumed after its round runs again when its hundred years are over. -/
theorem materialized_again : ∃ run, Reaches (recorded (System.step Sample.everyMinute) entries)
      ⟨System.initial (Sample.tables none) Sample.ids, []⟩ run ∧
    (∃ row ∈ run.state.db.schedules, row.id = 1 ∧ row.recurrenceCron = none) ∧
      (materializations 1 run.record).length = 2 := by
  have h : (execute (recorded (System.step Sample.everyMinute) entries)
      ⟨System.initial (Sample.tables none) Sample.ids, []⟩ (Sample.round 0 60500 ++
        [.setScheduleActive SmsPlatform.Sample.tenant 1 true] ++ Sample.round 0 (60500 + hundredYears))).any
          (fun run => decide ((∃ row ∈ run.state.db.schedules, row.id = 1 ∧ row.recurrenceCron = none) ∧
            (materializations 1 run.record).length = 2)) = true := by
    decide +kernel
  obtain ⟨run, hrun, htwice⟩ := (Option.any_eq_true _ _).1 h
  exact ⟨run, reaches_of_execute hrun, of_decide_eq_true htwice⟩

end SmsPlatform.Campaigns
