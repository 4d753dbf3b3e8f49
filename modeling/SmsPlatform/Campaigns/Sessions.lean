import SmsPlatform.Campaigns.Campaigns
import SmsPlatform.Lib.Records

/-!
# Transactions of the campaigns service

Any number of open transactions over the tables, each statement a step of its own.  What a transaction writes is its own
until COMMIT, and the rows that it has locked are changed by nobody else: `SELECT … FOR UPDATE SKIP LOCKED` passes over a
locked row and takes a free one in the version that satisfies its predicate now, an UPDATE waits.  `scheduleCampaign`
only inserts, so it is one step up to its COMMIT.  Every transaction may end at any time without a COMMIT.
-/

namespace SmsPlatform.Campaigns

open RowLocks

/-- A row that can be locked. -/
inductive Lockable
  | campaign (id : Nat)
  | schedule (id : Nat)
  deriving DecidableEq

inductive Session
  | scheduling (scheduling : Scheduling)
  | selecting (now : Instant) (due : List ScheduleRow)
  | materializing (now : Instant) (due : List ScheduleRow) (done : List Materialized)
  | cancelling (now : Instant) (tenantId : TenantId) (campaignId : Nat)
  | deactivating (now : Instant) (tenantId : TenantId) (campaignId : Nat) (pending updated : List Nat)

structure System where
  db : Tables
  ids : Sequences
  sessions : Nat → Option Session
  locks : Locks Lockable Nat

def System.initial (db : Tables) (ids : Sequences) : System := ⟨db, ids, fun _ => none, fun _ => none⟩

inductive Action
  | schedule (session : Nat) (now clientNow : Instant) (tenantId : TenantId) (dto : ScheduleCampaignDto)
  | materialize (session : Nat) (now : Instant)
  | lockDue (session : Nat) (scheduleId : Nat)
  | select (session : Nat)
  | materializeNext (session : Nat) (clientNow : Instant)
  | cancel (session : Nat) (now : Instant) (tenantId : TenantId) (campaignId : Nat)
  | findSchedules (session : Nat)
  | deactivate (session : Nat)
  | commit (session : Nat)
  | abort (session : Nat)
  | setScheduleActive (tenantId : TenantId) (scheduleId : Nat) (isActive : Bool)

/-- `LIMIT 25`. -/
def batchSize : Nat := 25

def System.set (s : System) (session : Nat) (state : Session) : System :=
  { s with sessions := Function.update s.sessions session (some state) }

def System.lock (s : System) (session : Nat) (row : Lockable) : System :=
  { s with locks := acquire s.locks row session }

/-- The end of a transaction, with or without COMMIT. -/
def System.finish (s : System) (session : Nat) : System :=
  { s with sessions := Function.update s.sessions session none, locks := release s.locks session }

/-- What a transaction has written when it commits. -/
def System.committed (s : System) : Session → Option Tables
  | .scheduling scheduling => some (s.db.insertScheduling scheduling)
  | .materializing _ [] done => some (s.db.writeMaterialized done)
  | .deactivating now tenantId campaignId [] updated => some (s.db.writeCancelled now tenantId campaignId updated)
  | _ => none

def System.step (cron : Cron) (s : System) : Action → Option System
  | .schedule session now clientNow tenantId dto =>
    if (s.sessions session).isSome then none
    else match scheduleCampaign cron s.db s.ids now clientNow tenantId dto with
      | .error _ => some s
      | .ok scheduling => some { s.set session (.scheduling scheduling) with ids := s.ids.after scheduling }
  | .materialize session now =>
    if (s.sessions session).isSome then none else some (s.set session (.selecting now []))
  | .lockDue session scheduleId =>
    match s.sessions session, s.db.schedules.find? fun row => decide (row.id = scheduleId) with
    | some (.selecting now due), some row =>
      -- a locked row is skipped, a free one is checked again in its current version
      if s.locks (.schedule scheduleId) = none ∧ row.isActive = true ∧ row.nextRunAt ≤ now ∧ due.length < batchSize then
        some ((s.set session (.selecting now (due ++ [row]))).lock session (.schedule scheduleId))
      else none
    | _, _ => none
  | .select session =>
    match s.sessions session with
    | some (.selecting now due) => some (s.set session (.materializing now due []))
    | _ => none
  | .materializeNext session clientNow =>
    match s.sessions session with
    | some (.materializing now (row :: due) done) =>
      match materializeSchedule cron s.db s.ids.job now clientNow row with
      -- an expression without a next occurrence rolls the whole batch back
      | .error _ => some (s.finish session)
      | .ok materialized => some { s.set session (.materializing now due (done ++ [materialized])) with
          ids := { s.ids with job := s.ids.job + 1 } }
    | _ => none
  | .cancel session now tenantId campaignId =>
    if (s.sessions session).isSome then none
    else match s.db.findCampaign tenantId campaignId with
      | none => some s
      | some _ =>
        if s.locks (.campaign campaignId) = none then
          some ((s.set session (.cancelling now tenantId campaignId)).lock session (.campaign campaignId))
        else none
  | .findSchedules session =>
    match s.sessions session with
    | some (.cancelling now tenantId campaignId) =>
      -- the snapshot of the second UPDATE: schedules that are committed later are not in it
      some (s.set session (.deactivating now tenantId campaignId ((s.db.schedules.filter fun row =>
        decide (row.tenantId = tenantId ∧ row.campaignId = campaignId)).map ScheduleRow.id) []))
    | _ => none
  | .deactivate session =>
    match s.sessions session with
    | some (.deactivating now tenantId campaignId (id :: pending) updated) =>
      if s.locks (.schedule id) = none ∨ s.locks (.schedule id) = some session then
        some ((s.set session (.deactivating now tenantId campaignId pending (updated ++ [id]))).lock session
          (.schedule id))
      else none
    | _ => none
  | .commit session =>
    ((s.sessions session).bind s.committed).map fun db => { s.finish session with db := db }
  | .abort session => if (s.sessions session).isSome then some (s.finish session) else none
  | .setScheduleActive tenantId scheduleId isActive =>
    match s.db.findSchedule tenantId scheduleId with
    | none => some s
    | some _ =>
      if s.locks (.schedule scheduleId) = none then
        some { s with db := s.db.writeActive tenantId scheduleId isActive }
      else none

/-! ### What becomes visible -/

/-- The writes that a commit makes visible, one for each round of a materialization. -/
inductive Entry
  | scheduled (inserted : Scheduling)
  | materialized (materialized : Materialized)
  | activated (scheduleId : Nat) (isActive : Bool)
  | cancelled (campaignId : Nat) (schedules : List Nat)

def Session.entries : Session → List Entry
  | .scheduling inserted => [.scheduled inserted]
  | .materializing _ _ done => done.map .materialized
  | .deactivating _ _ campaignId _ updated => [.cancelled campaignId updated]
  | _ => []

def entries (s : System) (a : Action) (_ : System) : List Entry :=
  match a with
  | .commit session => ((s.sessions session).map Session.entries).getD []
  | .setScheduleActive tenantId scheduleId isActive =>
    if (s.db.findSchedule tenantId scheduleId).isSome then [.activated scheduleId isActive] else []
  | _ => []

theorem entries_commit {s t : System} {session : Nat} {state : Session} (h : s.sessions session = some state) :
    entries s (.commit session) t = state.entries := by
  unfold entries
  dsimp only
  rw [h]
  rfl

theorem entries_setScheduleActive {s t : System} {row : ScheduleRow} {isActive : Bool} (h : row ∈ s.db.schedules) :
    entries s (.setScheduleActive row.tenantId row.id isActive) t = [.activated row.id isActive] := by
  have hfound : (s.db.findSchedule row.tenantId row.id).isSome = true := by
    unfold Tables.findSchedule
    rw [List.find?_isSome]
    exact ⟨row, h, decide_eq_true ⟨rfl, rfl⟩⟩
  exact if_pos hfound

/-! ### What a step can do -/

/-- The steps, one constructor for each statement that does something. -/
inductive Stepped (cron : Cron) (s : System) : Action → System → Prop
  /-- A request that is refused, or an UPDATE without a row. -/
  | refused (a : Action) (ha : entries s a s = []) : Stepped cron s a s
  | scheduling {session : Nat} {now clientNow : Instant} {tenantId : TenantId} {dto : ScheduleCampaignDto}
      {scheduling : Scheduling} (hfree : s.sessions session = none)
      (h : Scheduled cron s.db s.ids tenantId dto scheduling) :
      Stepped cron s (.schedule session now clientNow tenantId dto)
        { s.set session (.scheduling scheduling) with ids := s.ids.after scheduling }
  | selecting {session : Nat} {now : Instant} (hfree : s.sessions session = none) :
      Stepped cron s (.materialize session now) (s.set session (.selecting now []))
  | locked {session : Nat} {now : Instant} {due : List ScheduleRow} {row : ScheduleRow}
      (hsession : s.sessions session = some (.selecting now due)) (hrow : row ∈ s.db.schedules)
      (hfree : s.locks (.schedule row.id) = none) (hactive : row.isActive = true) (hdue : row.nextRunAt ≤ now)
      (hlimit : due.length < batchSize) :
      Stepped cron s (.lockDue session row.id)
        ((s.set session (.selecting now (due ++ [row]))).lock session (.schedule row.id))
  | selected {session : Nat} {now : Instant} {due : List ScheduleRow}
      (hsession : s.sessions session = some (.selecting now due)) :
      Stepped cron s (.select session) (s.set session (.materializing now due []))
  | materialized {session : Nat} {now clientNow : Instant} {row : ScheduleRow} {due : List ScheduleRow}
      {done : List Materialized} {materialized : Materialized}
      (hsession : s.sessions session = some (.materializing now (row :: due) done))
      (h : materialized.Of cron now row) :
      Stepped cron s (.materializeNext session clientNow)
        { s.set session (.materializing now due (done ++ [materialized])) with
          ids := { s.ids with job := s.ids.job + 1 } }
  | cancelling {session : Nat} {now : Instant} {campaign : CampaignRow} (hfree : s.sessions session = none)
      (hcampaign : campaign ∈ s.db.campaigns) (hlock : s.locks (.campaign campaign.id) = none) :
      Stepped cron s (.cancel session now campaign.tenantId campaign.id)
        ((s.set session (.cancelling now campaign.tenantId campaign.id)).lock session (.campaign campaign.id))
  | found {session : Nat} {now : Instant} {tenantId : TenantId} {campaignId : Nat}
      (hsession : s.sessions session = some (.cancelling now tenantId campaignId)) :
      Stepped cron s (.findSchedules session)
        (s.set session (.deactivating now tenantId campaignId ((s.db.schedules.filter fun row =>
          decide (row.tenantId = tenantId ∧ row.campaignId = campaignId)).map ScheduleRow.id) []))
  | deactivated {session : Nat} {now : Instant} {tenantId : TenantId} {campaignId id : Nat} {pending updated : List Nat}
      (hsession : s.sessions session = some (.deactivating now tenantId campaignId (id :: pending) updated))
      (hlock : s.locks (.schedule id) = none ∨ s.locks (.schedule id) = some session) :
      Stepped cron s (.deactivate session)
        ((s.set session (.deactivating now tenantId campaignId pending (updated ++ [id]))).lock session (.schedule id))
  | ended {a : Action} {session : Nat} (ha : entries s a (s.finish session) = []) :
      Stepped cron s a (s.finish session)
  | scheduled {session : Nat} {inserted : Scheduling} (hsession : s.sessions session = some (.scheduling inserted)) :
      Stepped cron s (.commit session) { s.finish session with db := s.db.insertScheduling inserted }
  | rounds {session : Nat} {now : Instant} {done : List Materialized}
      (hsession : s.sessions session = some (.materializing now [] done)) :
      Stepped cron s (.commit session) { s.finish session with db := s.db.writeMaterialized done }
  | cancelled {session : Nat} {now : Instant} {tenantId : TenantId} {campaignId : Nat} {updated : List Nat}
      (hsession : s.sessions session = some (.deactivating now tenantId campaignId [] updated)) :
      Stepped cron s (.commit session)
        { s.finish session with db := s.db.writeCancelled now tenantId campaignId updated }
  | activated {row : ScheduleRow} {isActive : Bool} (hrow : row ∈ s.db.schedules)
      (hfree : s.locks (.schedule row.id) = none) :
      Stepped cron s (.setScheduleActive row.tenantId row.id isActive)
        { s with db := s.db.writeActive row.tenantId row.id isActive }

theorem System.step_cases {cron : Cron} {s t : System} {a : Action} (h : s.step cron a = some t) :
    Stepped cron s a t := by
  cases a with
  | schedule session now clientNow tenantId dto =>
    unfold System.step at h
    dsimp only at h
    split at h
    · cases h
    · rename_i hfree
      split at h
      · cases h
        exact .refused _ rfl
      · rename_i scheduling hok
        cases h
        exact .scheduling (by simpa using hfree) (scheduleCampaign_ok hok)
  | materialize session now =>
    unfold System.step at h
    dsimp only at h
    split at h
    · cases h
    · rename_i hfree
      cases h
      exact .selecting (by simpa using hfree)
  | lockDue session scheduleId =>
    unfold System.step at h
    dsimp only at h
    split at h
    · rename_i now due row hsession hfind
      split at h
      · rename_i hdue
        cases h
        have hid : row.id = scheduleId := by simpa using List.find?_some hfind
        subst hid
        exact .locked hsession (List.mem_of_find?_eq_some hfind) hdue.1 hdue.2.1 hdue.2.2.1 hdue.2.2.2
      · cases h
    · cases h
  | select session =>
    unfold System.step at h
    dsimp only at h
    split at h
    · rename_i now due hsession
      cases h
      exact .selected hsession
    · cases h
  | materializeNext session clientNow =>
    unfold System.step at h
    dsimp only at h
    split at h
    · rename_i now row due done hsession
      split at h
      · cases h
        exact .ended rfl
      · rename_i materialized hok
        cases h
        exact .materialized hsession (materializeSchedule_ok hok)
    · cases h
  | cancel session now tenantId campaignId =>
    unfold System.step at h
    dsimp only at h
    split at h
    · cases h
    · rename_i hfree
      split at h
      · cases h
        exact .refused _ rfl
      · rename_i campaign hfind
        have hmem := List.mem_of_find?_eq_some hfind
        have hkey : campaign.tenantId = tenantId ∧ campaign.id = campaignId := by simpa using List.find?_some hfind
        obtain ⟨rfl, rfl⟩ := hkey
        split at h
        · rename_i hlock
          cases h
          exact .cancelling (by simpa using hfree) hmem hlock
        · cases h
  | findSchedules session =>
    unfold System.step at h
    dsimp only at h
    split at h
    · rename_i now tenantId campaignId hsession
      cases h
      exact .found hsession
    · cases h
  | deactivate session =>
    unfold System.step at h
    dsimp only at h
    split at h
    · rename_i now tenantId campaignId id pending updated hsession
      split at h
      · rename_i hlock
        cases h
        exact .deactivated hsession hlock
      · cases h
    · cases h
  | commit session =>
    obtain ⟨db, hbind, rfl⟩ := Option.map_eq_some_iff.1 h
    obtain ⟨state, hsession, hcommitted⟩ := Option.bind_eq_some_iff.1 hbind
    unfold System.committed at hcommitted
    split at hcommitted
    · cases hcommitted
      exact .scheduled hsession
    · cases hcommitted
      exact .rounds hsession
    · cases hcommitted
      exact .cancelled hsession
    · cases hcommitted
  | abort session =>
    unfold System.step at h
    dsimp only at h
    split at h
    · cases h
      exact .ended rfl
    · cases h
  | setScheduleActive tenantId scheduleId isActive =>
    unfold System.step at h
    dsimp only at h
    split at h
    · rename_i hnone
      cases h
      exact .refused _ (if_neg (by rw [hnone]; exact Bool.false_ne_true))
    · rename_i row hfind
      have hmem := List.mem_of_find?_eq_some hfind
      have hkey : row.tenantId = tenantId ∧ row.id = scheduleId := by simpa using List.find?_some hfind
      obtain ⟨rfl, rfl⟩ := hkey
      split at h
      · rename_i hlock
        cases h
        exact .activated hmem hlock
      · cases h

theorem System.step_commit {cron : Cron} {s : System} {session : Nat} {state : Session}
    (h : s.sessions session = some state) :
    s.step cron (.commit session) = (s.committed state).map fun db => { s.finish session with db := db } := by
  unfold System.step
  dsimp only
  rw [h]
  rfl

/-! ### What the writes do to a schedule -/

/-- A schedule after one UPDATE of a materialization. -/
def Materialized.write (materialized : Materialized) (row : ScheduleRow) : ScheduleRow :=
  if row.id = materialized.schedule.id then
    { row with nextRunAt := materialized.nextRunAt, isActive := materialized.isActive }
  else row

theorem Materialized.write_of_ne {materialized : Materialized} {row : ScheduleRow}
    (h : row.id ≠ materialized.schedule.id) : materialized.write row = row :=
  if_neg h

@[simp] theorem Materialized.write_id (materialized : Materialized) (row : ScheduleRow) :
    (materialized.write row).id = row.id := by
  unfold Materialized.write
  split <;> rfl

/-- A schedule after all of them. -/
def written (done : List Materialized) (row : ScheduleRow) : ScheduleRow :=
  done.foldl (fun row materialized => materialized.write row) row

theorem writeMaterialized_schedules (db : Tables) (done : List Materialized) :
    (db.writeMaterialized done).schedules = db.schedules.map (written done) := by
  show done.foldl _ db.schedules = _
  generalize db.schedules = schedules
  induction done generalizing schedules with
  | nil => exact (List.map_id schedules).symm
  | cons materialized done ih =>
    have hupdate : Rows.update (fun row => decide (row.id = materialized.schedule.id))
        (fun row => { row with nextRunAt := materialized.nextRunAt, isActive := materialized.isActive }) schedules =
          schedules.map materialized.write := by
      refine List.map_congr_left fun row _ => ?_
      unfold Materialized.write
      simp only [decide_eq_true_eq]
    rw [List.foldl_cons, ih, hupdate, List.map_map]
    rfl

@[simp] theorem written_id (done : List Materialized) (row : ScheduleRow) : (written done row).id = row.id := by
  induction done generalizing row with
  | nil => rfl
  | cons materialized done ih =>
    show (written done (materialized.write row)).id = row.id
    rw [ih, materialized.write_id]

/-- A schedule that was not materialized. -/
theorem written_of_not_mem {done : List Materialized} {row : ScheduleRow}
    (h : ∀ materialized ∈ done, materialized.schedule.id ≠ row.id) : written done row = row := by
  induction done with
  | nil => rfl
  | cons materialized done ih =>
    obtain ⟨hne, hrest⟩ := List.forall_mem_cons.1 h
    show written done (materialized.write row) = row
    rw [materialized.write_of_ne (Ne.symm hne)]
    exact ih hrest

theorem written_of_mem {done : List Materialized} (hdistinct : (done.map fun m => m.schedule.id).Nodup)
    {materialized : Materialized} (hmem : materialized ∈ done) {row : ScheduleRow}
    (hid : row.id = materialized.schedule.id) :
    written done row = { row with nextRunAt := materialized.nextRunAt, isActive := materialized.isActive } := by
  induction done with
  | nil => cases hmem
  | cons first done ih =>
    rw [List.map_cons, List.nodup_cons] at hdistinct
    rcases List.mem_cons.1 hmem with rfl | hmem
    · have hrest : ∀ other ∈ done, other.schedule.id ≠ (materialized.write row).id := by
        intro other hother hsame
        rw [materialized.write_id] at hsame
        exact hdistinct.1 (List.mem_map.2 ⟨other, hother, hsame.trans hid⟩)
      show written done (materialized.write row) = _
      rw [written_of_not_mem hrest]
      exact if_pos hid
    · have hne : row.id ≠ first.schedule.id := by
        intro hsame
        exact hdistinct.1 (List.mem_map.2 ⟨materialized, hmem, hid.symm.trans hsame⟩)
      show written done (first.write row) = _
      rw [first.write_of_ne hne]
      exact ih hdistinct.2 hmem

@[simp] theorem writeMaterialized_ids (db : Tables) (done : List Materialized) :
    (db.writeMaterialized done).schedules.map ScheduleRow.id = db.schedules.map ScheduleRow.id := by
  rw [writeMaterialized_schedules, List.map_map]
  exact List.map_congr_left fun row _ => written_id done row

section Ids

variable (db : Tables) (now : Instant) (tenantId : TenantId) (campaignId scheduleId : Nat) (updated : List Nat)
  (isActive : Bool)

@[simp] theorem writeCancelled_ids : (db.writeCancelled now tenantId campaignId updated).schedules.map ScheduleRow.id =
    db.schedules.map ScheduleRow.id := by
  refine Rows.map_update ?_ db.schedules
  intro row
  rfl

@[simp] theorem writeCancelled_campaigns :
    (db.writeCancelled now tenantId campaignId updated).campaigns.map CampaignRow.id =
      db.campaigns.map CampaignRow.id := by
  refine Rows.map_update ?_ db.campaigns
  intro row
  rfl

@[simp] theorem writeActive_ids : (db.writeActive tenantId scheduleId isActive).schedules.map ScheduleRow.id =
    db.schedules.map ScheduleRow.id := by
  refine Rows.map_update ?_ db.schedules
  intro row
  rfl

end Ids

/-! ### The invariant -/

/-- A row that a materialization has locked: the version that it holds is the one that is stored. -/
structure Held (s : System) (session : Nat) (row : ScheduleRow) : Prop where
  stored : row ∈ s.db.schedules
  locked : s.locks (.schedule row.id) = some session
  active : row.isActive = true

/-- The rows that a materialization has locked, each once. -/
structure Batch (s : System) (session : Nat) (now : Instant) (rows : List ScheduleRow) : Prop where
  distinct : (rows.map ScheduleRow.id).Nodup
  held : ∀ row ∈ rows, Held s session row
  due : ∀ row ∈ rows, row.nextRunAt ≤ now

theorem Batch.distinct_rounds {s : System} {session : Nat} {now : Instant} {done : List Materialized}
    (h : Batch s session now ([] ++ done.map Materialized.schedule)) : (done.map fun m => m.schedule.id).Nodup := by
  have hdistinct := h.distinct
  rw [List.nil_append, List.map_map] at hdistinct
  exact hdistinct

def Session.Ok (cron : Cron) (s : System) (session : Nat) : Session → Prop
  | .scheduling _ => True
  | .selecting now due => Batch s session now due
  | .materializing now due done =>
    Batch s session now (due ++ done.map Materialized.schedule) ∧ ∀ m ∈ done, m.Of cron now m.schedule
  | .cancelling _ _ campaignId => s.locks (.campaign campaignId) = some session
  | .deactivating _ _ campaignId pending updated =>
    s.locks (.campaign campaignId) = some session ∧ (∀ id ∈ updated, s.locks (.schedule id) = some session) ∧
      ∀ id ∈ pending ++ updated, id ∈ s.db.schedules.map ScheduleRow.id

/-- The ids that open transactions have drawn. -/
def Session.scheduleId : Session → Option Nat
  | .scheduling inserted => some inserted.schedule.id
  | _ => none

def Session.campaignId : Session → Option Nat
  | .scheduling inserted => inserted.campaign.map CampaignRow.id
  | _ => none

def drawn (sessions : Nat → Option Session) (column : Session → Option Nat) (session : Nat) : Option Nat :=
  (sessions session).bind column

theorem drawn_update (sessions : Nat → Option Session) (column : Session → Option Nat) (session : Nat)
    (state : Option Session) : drawn (Function.update sessions session state) column =
      Function.update (drawn sessions column) session (state.bind column) := by
  funext session'
  unfold drawn
  by_cases h : session' = session
  · subst h
    rw [Function.update_self, Function.update_self]
  · rw [Function.update_of_ne h, Function.update_of_ne h]

structure Consistent (cron : Cron) (s : System) : Prop where
  schedules : Sequenced (s.db.schedules.map ScheduleRow.id) (drawn s.sessions Session.scheduleId) s.ids.schedule
  campaigns : Sequenced (s.db.campaigns.map CampaignRow.id) (drawn s.sessions Session.campaignId) s.ids.campaign
  sessions : ∀ session state, s.sessions session = some state → state.Ok cron s session

/-- The tables that a system can start from: ids are unique, and the sequences are past them. -/
structure Tables.Numbered (db : Tables) (ids : Sequences) : Prop where
  schedules : (db.schedules.map ScheduleRow.id).Nodup
  schedulesBelow : ∀ row ∈ db.schedules, row.id < ids.schedule
  campaigns : (db.campaigns.map CampaignRow.id).Nodup
  campaignsBelow : ∀ row ∈ db.campaigns, row.id < ids.campaign

theorem Consistent.initial {cron : Cron} {db : Tables} {ids : Sequences} (h : db.Numbered ids) :
    Consistent cron (System.initial db ids) := by
  have hdrawn : ∀ column, drawn (System.initial db ids).sessions column = fun _ => none := fun column => rfl
  refine ⟨?_, ?_, ?_⟩
  · rw [hdrawn]
    refine ⟨h.schedules, ?_, ?_, ?_, ?_⟩
    · intro id hid
      obtain ⟨row, hrow, rfl⟩ := List.mem_map.1 hid
      exact h.schedulesBelow row hrow
    · intro session id hnone
      cases hnone
    · intro session id hnone
      cases hnone
    · intro session session' id hnone
      cases hnone
  · rw [hdrawn]
    refine ⟨h.campaigns, ?_, ?_, ?_, ?_⟩
    · intro id hid
      obtain ⟨row, hrow, rfl⟩ := List.mem_map.1 hid
      exact h.campaignsBelow row hrow
    · intro session id hnone
      cases hnone
    · intro session id hnone
      cases hnone
    · intro session session' id hnone
      cases hnone
  · intro session state hnone
    cases hnone

/-! ### One step -/

section Step

variable {cron : Cron} {s t : System} {a : Action}

/-- What an open transaction holds is not touched by a step of another one. -/
theorem Session.Ok.frame {session : Nat} {state : Session} (h : state.Ok cron s session)
    (hlocks : ∀ row, s.locks row = some session → t.locks row = some session)
    (hrows : ∀ row, Held s session row → row ∈ t.db.schedules)
    (hids : ∀ id ∈ s.db.schedules.map ScheduleRow.id, id ∈ t.db.schedules.map ScheduleRow.id) :
    state.Ok cron t session := by
  have hbatch : ∀ now rows, Batch s session now rows → Batch t session now rows := by
    intro now rows hb
    refine ⟨hb.distinct, fun row hrow => ?_, hb.due⟩
    have hheld := hb.held row hrow
    exact ⟨hrows row hheld, hlocks _ hheld.locked, hheld.active⟩
  cases state with
  | scheduling inserted => trivial
  | selecting now due => exact hbatch _ _ h
  | materializing now due done => exact ⟨hbatch _ _ h.1, h.2⟩
  | cancelling now tenantId campaignId => exact hlocks _ h
  | deactivating now tenantId campaignId pending updated =>
    exact ⟨hlocks _ h.1, fun id hid => hlocks _ (h.2.1 id hid), fun id hid => hids id (h.2.2 id hid)⟩

/-- The ids of schedules stay. -/
theorem Stepped.ids_mem (h : Stepped cron s a t) :
    ∀ id ∈ s.db.schedules.map ScheduleRow.id, id ∈ t.db.schedules.map ScheduleRow.id := by
  intro id hid
  cases h with
  | @scheduled session inserted hsession =>
    show id ∈ (s.db.schedules ++ [inserted.schedule]).map ScheduleRow.id
    rw [List.map_append]
    exact List.mem_append_left _ hid
  | @rounds session now done hsession =>
    show id ∈ (s.db.writeMaterialized done).schedules.map ScheduleRow.id
    rw [writeMaterialized_ids]
    exact hid
  | cancelled hsession =>
    show id ∈ (s.db.writeCancelled _ _ _ _).schedules.map ScheduleRow.id
    rw [writeCancelled_ids]
    exact hid
  | activated hrow hfree =>
    show id ∈ (s.db.writeActive _ _ _).schedules.map ScheduleRow.id
    rw [writeActive_ids]
    exact hid
  | _ => exact hid

/-- A step of one transaction: the others keep what they hold, and it is left in a good state or has ended. -/
theorem Consistent.sessions_update (h : Consistent cron s) {session : Nat} {state : Option Session}
    (hsessions : t.sessions = Function.update s.sessions session state)
    (hstate : ∀ new, state = some new → new.Ok cron t session)
    (hlocks : ∀ other row, other ≠ session → s.locks row = some other → t.locks row = some other)
    (hrows : ∀ other row, other ≠ session → Held s other row → row ∈ t.db.schedules)
    (hids : ∀ id ∈ s.db.schedules.map ScheduleRow.id, id ∈ t.db.schedules.map ScheduleRow.id) :
    ∀ other new, t.sessions other = some new → new.Ok cron t other := by
  intro other new hnew
  rw [hsessions] at hnew
  rcases of_update hnew with ⟨rfl, hself⟩ | ⟨hne, hother⟩
  · exact hstate new hself
  · exact (h.sessions other new hother).frame (fun row => hlocks other row hne) (fun row => hrows other row hne) hids

/-- A materialization changes no schedule that it has not locked. -/
theorem rounds_keep {session : Nat} {now : Instant} {rows : List ScheduleRow} {done : List Materialized}
    (h : Batch s session now rows) (hdone : ∀ m ∈ done, m.schedule ∈ rows) {row : ScheduleRow}
    (hrow : row ∈ s.db.schedules) (hlock : s.locks (.schedule row.id) ≠ some session) :
    row ∈ (s.db.writeMaterialized done).schedules := by
  rw [writeMaterialized_schedules]
  have hkept : written done row = row := by
    refine written_of_not_mem fun m hm hid => hlock ?_
    rw [← hid]
    exact (h.held m.schedule (hdone m hm)).locked
  exact List.mem_map.2 ⟨row, hrow, hkept⟩

/-- Two rows of the table with one id are one row. -/
theorem Consistent.unique (h : Consistent cron s) {row row' : ScheduleRow} (hrow : row ∈ s.db.schedules)
    (hrow' : row' ∈ s.db.schedules) (hid : row.id = row'.id) : row = row' := by
  have hkeyed : Rows.Keyed ScheduleRow.id s.db.schedules := h.schedules.nodup
  exact hkeyed.unique hrow hrow' hid

/-- The rounds of a materialization that commits: their schedules are locked, and as they were read. -/
theorem Consistent.round_held (h : Consistent cron s) {session : Nat} {now : Instant} {done : List Materialized}
    (hsession : s.sessions session = some (.materializing now [] done)) {m : Materialized} (hm : m ∈ done) :
    Held s session m.schedule ∧ m.schedule.nextRunAt ≤ now ∧ m.Of cron now m.schedule := by
  obtain ⟨hbatch, hdone⟩ : Session.Ok cron s session (.materializing now [] done) := h.sessions session _ hsession
  have hrow : m.schedule ∈ [] ++ done.map Materialized.schedule := List.mem_map_of_mem hm
  exact ⟨hbatch.held _ hrow, hbatch.due _ hrow, hdone m hm⟩

/-- A schedule is in at most one round of a materialization. -/
theorem Consistent.rounds_distinct (h : Consistent cron s) {session : Nat} {now : Instant} {done : List Materialized}
    (hsession : s.sessions session = some (.materializing now [] done)) : (done.map fun m => m.schedule.id).Nodup := by
  obtain ⟨hbatch, -⟩ : Session.Ok cron s session (.materializing now [] done) := h.sessions session _ hsession
  exact hbatch.distinct_rounds

private theorem Consistent.step_sessions (h : Consistent cron s) (hstep : Stepped cron s a t) :
    ∀ session state, t.sessions session = some state → state.Ok cron t session := by
  have hstay : ∀ other row, Held s other row → row ∈ s.db.schedules := fun _ _ hheld => hheld.stored
  have hids := hstep.ids_mem
  cases hstep with
  | refused a ha => exact h.sessions
  | scheduling hfree hscheduled =>
    refine h.sessions_update rfl ?_ (fun _ _ _ hlock => hlock) (fun other row _ => hstay other row) hids
    rintro new ⟨⟩
    trivial
  | selecting hfree =>
    refine h.sessions_update rfl ?_ (fun _ _ _ hlock => hlock) (fun other row _ => hstay other row) hids
    rintro new ⟨⟩
    exact ⟨List.nodup_nil, fun row hrow => (by cases hrow), fun row hrow => (by cases hrow)⟩
  | @locked session now due row hsession hrow hfree hactive hdue hlimit =>
    have hbatch : Batch s session now due := h.sessions session _ hsession
    refine h.sessions_update rfl ?_ (fun other row' _ => acquire_keeps (.inl hfree))
      (fun other row _ => hstay other row) hids
    rintro new ⟨⟩
    refine ⟨?_, ?_, ?_⟩
    · rw [List.map_append, List.nodup_append]
      refine ⟨hbatch.distinct, List.nodup_singleton _, fun id hid id' hid' heq => ?_⟩
      -- the rows that are locked already are others
      obtain ⟨old, hold, rfl⟩ := List.mem_map.1 hid
      rw [List.map_singleton, List.mem_singleton] at hid'
      have hlock := (hbatch.held old hold).locked
      rw [heq, hid', hfree] at hlock
      cases hlock
    · intro row' hrow'
      rcases List.mem_append.1 hrow' with hold | hnew
      · have hheld := hbatch.held row' hold
        exact ⟨hheld.stored, acquire_keeps (.inl hfree) hheld.locked, hheld.active⟩
      · rw [List.mem_singleton.1 hnew]
        exact ⟨hrow, acquire_self, hactive⟩
    · intro row' hrow'
      rcases List.mem_append.1 hrow' with hold | hnew
      · exact hbatch.due row' hold
      · rw [List.mem_singleton.1 hnew]
        exact hdue
  | @selected session now due hsession =>
    refine h.sessions_update rfl ?_ (fun _ _ _ hlock => hlock) (fun other row _ => hstay other row) hids
    rintro new ⟨⟩
    have hbatch : Batch (s.set session (.materializing now due [])) session now due :=
      (h.sessions session _ hsession).frame (fun _ hlock => hlock) (fun row => hstay session row) hids
    refine ⟨?_, fun m hm => (by cases hm)⟩
    rw [List.map_nil, List.append_nil]
    exact hbatch
  | @materialized session now clientNow row due done m hsession hm =>
    obtain ⟨hbatch, hdone⟩ : Session.Ok cron s session (.materializing now (row :: due) done) :=
      h.sessions session _ hsession
    refine h.sessions_update rfl ?_ (fun _ _ _ hlock => hlock) (fun other row _ => hstay other row) hids
    rintro new ⟨⟩
    have hrows : (due ++ (done ++ [m]).map Materialized.schedule).Perm
        (row :: due ++ done.map Materialized.schedule) := by
      rw [List.map_append, List.map_singleton, hm.schedule, ← List.append_assoc]
      exact List.perm_append_singleton row _
    refine ⟨⟨?_, ?_, ?_⟩, ?_⟩
    · exact (hrows.map ScheduleRow.id).nodup_iff.2 hbatch.distinct
    · intro row' hrow'
      have hheld := hbatch.held row' (hrows.mem_iff.1 hrow')
      exact ⟨hheld.stored, hheld.locked, hheld.active⟩
    · exact fun row' hrow' => hbatch.due row' (hrows.mem_iff.1 hrow')
    · intro m' hm'
      rcases List.mem_append.1 hm' with hold | hnew
      · exact hdone m' hold
      · rw [List.mem_singleton.1 hnew, hm.schedule]
        exact hm
  | @cancelling session now campaign hfree hcampaign hlock =>
    refine h.sessions_update rfl ?_ (fun other row _ => acquire_keeps (.inl hlock))
      (fun other row _ => hstay other row) hids
    rintro new ⟨⟩
    exact acquire_self
  | @found session now tenantId campaignId hsession =>
    refine h.sessions_update rfl ?_ (fun _ _ _ hlock => hlock) (fun other row _ => hstay other row) hids
    rintro new ⟨⟩
    have hlock : s.locks (.campaign campaignId) = some session := h.sessions session _ hsession
    refine ⟨hlock, fun id hid => (by cases hid), fun id hid => ?_⟩
    rw [List.append_nil] at hid
    obtain ⟨row, hrow, rfl⟩ := List.mem_map.1 hid
    exact List.mem_map_of_mem (List.mem_filter.1 hrow).1
  | @deactivated session now tenantId campaignId id pending updated hsession hlock =>
    obtain ⟨hcampaign, hupdated, hknown⟩ : Session.Ok cron s session
      (.deactivating now tenantId campaignId (id :: pending) updated) := h.sessions session _ hsession
    refine h.sessions_update rfl ?_ (fun other row _ => acquire_keeps hlock) (fun other row _ => hstay other row) hids
    rintro new ⟨⟩
    refine ⟨acquire_keeps hlock hcampaign, fun id' hid' => ?_, fun id' hid' => ?_⟩
    · rcases List.mem_append.1 hid' with hold | hnew
      · exact acquire_keeps hlock (hupdated id' hold)
      · rw [List.mem_singleton.1 hnew]
        exact acquire_self
    · refine hknown id' ?_
      simp only [List.mem_append, List.mem_cons, List.not_mem_nil, or_false] at hid' ⊢
      tauto
  | @ended a session ha =>
    refine h.sessions_update rfl ?_ ?_ (fun other row _ => hstay other row) hids
    · rintro new ⟨⟩
    · intro other row hne hlock
      exact release_keeps hlock hne
  | @scheduled session inserted hsession =>
    refine h.sessions_update rfl ?_ ?_ ?_ hids
    · rintro new ⟨⟩
    · exact fun other row hne hlock => release_keeps hlock hne
    · exact fun other row hne hheld => List.mem_append_left _ hheld.stored
  | @rounds session now done hsession =>
    obtain ⟨hbatch, -⟩ : Session.Ok cron s session (.materializing now [] done) := h.sessions session _ hsession
    refine h.sessions_update rfl ?_ ?_ ?_ hids
    · rintro new ⟨⟩
    · exact fun other row hne hlock => release_keeps hlock hne
    · intro other row hne hheld
      refine rounds_keep hbatch (fun m hm => List.mem_map_of_mem hm) hheld.stored ?_
      rw [hheld.locked]
      exact fun heq => hne (Option.some.inj heq)
  | @cancelled session now tenantId campaignId updated hsession =>
    obtain ⟨-, hupdated, -⟩ : Session.Ok cron s session (.deactivating now tenantId campaignId [] updated) :=
      h.sessions session _ hsession
    refine h.sessions_update rfl ?_ ?_ ?_ hids
    · rintro new ⟨⟩
    · exact fun other row hne hlock => release_keeps hlock hne
    · intro other row hne hheld
      refine Rows.mem_update.2 ⟨row, hheld.stored, .inr ⟨decide_eq_false fun hid => ?_, rfl⟩⟩
      exact hne (Option.some.inj (hheld.locked.symm.trans (hupdated row.id hid)))
  | @activated row isActive hrow hfree =>
    intro other state hstate
    refine (h.sessions other state hstate).frame (fun _ hlock => hlock) (fun row' hheld => ?_) hids
    refine Rows.mem_update.2 ⟨row', hheld.stored, .inr ⟨?_, rfl⟩⟩
    refine decide_eq_false fun hkey => ?_
    have hlock := hheld.locked
    rw [hkey.2, hfree] at hlock
    cases hlock

/-- The ids of the schedules after a step. -/
private theorem Consistent.step_schedules (h : Consistent cron s) (hstep : Stepped cron s a t) :
    Sequenced (t.db.schedules.map ScheduleRow.id) (drawn t.sessions Session.scheduleId) t.ids.schedule := by
  have hdrop : ∀ session (state : Option Session), state.bind Session.scheduleId = none →
      Sequenced (s.db.schedules.map ScheduleRow.id)
        (drawn (Function.update s.sessions session state) Session.scheduleId) s.ids.schedule := by
    intro session state hnone
    rw [drawn_update, hnone]
    exact h.schedules.drop
  cases hstep with
  | refused a ha => exact h.schedules
  | scheduling hfree hscheduled =>
    show Sequenced _ (drawn (Function.update _ _ _) _) _
    rw [drawn_update]
    show Sequenced _ (Function.update _ _ (some _)) (s.ids.schedule + 1)
    rw [hscheduled.scheduleId]
    exact h.schedules.draw
  | selecting hfree => exact hdrop _ _ rfl
  | locked hsession hrow hfree hactive hdue hlimit => exact hdrop _ _ rfl
  | selected hsession => exact hdrop _ _ rfl
  | materialized hsession hm => exact hdrop _ _ rfl
  | cancelling hfree hcampaign hlock => exact hdrop _ _ rfl
  | found hsession => exact hdrop _ _ rfl
  | deactivated hsession hlock => exact hdrop _ _ rfl
  | ended ha => exact hdrop _ _ rfl
  | @scheduled session inserted hsession =>
    show Sequenced ((s.db.schedules ++ [inserted.schedule]).map _) (drawn (Function.update _ _ _) _) _
    rw [drawn_update, List.map_append]
    refine h.schedules.publish ?_
    unfold drawn
    rw [hsession]
    rfl
  | @rounds session now done hsession =>
    show Sequenced ((s.db.writeMaterialized done).schedules.map _) _ _
    rw [writeMaterialized_ids]
    exact hdrop _ _ rfl
  | cancelled hsession =>
    show Sequenced ((s.db.writeCancelled _ _ _ _).schedules.map _) _ _
    rw [writeCancelled_ids]
    exact hdrop _ _ rfl
  | activated hrow hfree =>
    show Sequenced ((s.db.writeActive _ _ _).schedules.map _) _ _
    rw [writeActive_ids]
    exact h.schedules

/-- The ids of the campaigns after a step. -/
private theorem Consistent.step_campaigns (h : Consistent cron s) (hstep : Stepped cron s a t) :
    Sequenced (t.db.campaigns.map CampaignRow.id) (drawn t.sessions Session.campaignId) t.ids.campaign := by
  have hdrop : ∀ session (state : Option Session), state.bind Session.campaignId = none →
      Sequenced (s.db.campaigns.map CampaignRow.id)
        (drawn (Function.update s.sessions session state) Session.campaignId) s.ids.campaign := by
    intro session state hnone
    rw [drawn_update, hnone]
    exact h.campaigns.drop
  cases hstep with
  | refused a ha => exact h.campaigns
  | @scheduling session now clientNow tenantId dto inserted hfree hscheduled =>
    show Sequenced _ (drawn (Function.update _ _ _) _) (s.ids.after inserted).campaign
    rw [drawn_update]
    unfold Sequences.after
    dsimp only
    show Sequenced _ (Function.update _ _ (inserted.campaign.map CampaignRow.id)) _
    rcases hscheduled.campaign with ⟨row, hrow, hid, -, -⟩ | ⟨id, -, hnone, -, -⟩
    · rw [hrow, Option.map_some, hid]
      exact h.campaigns.draw
    · rw [hnone]
      exact h.campaigns.drop
  | selecting hfree => exact hdrop _ _ rfl
  | locked hsession hrow hfree hactive hdue hlimit => exact hdrop _ _ rfl
  | selected hsession => exact hdrop _ _ rfl
  | materialized hsession hm => exact hdrop _ _ rfl
  | cancelling hfree hcampaign hlock => exact hdrop _ _ rfl
  | found hsession => exact hdrop _ _ rfl
  | deactivated hsession hlock => exact hdrop _ _ rfl
  | ended ha => exact hdrop _ _ rfl
  | @scheduled session inserted hsession =>
    show Sequenced ((s.db.campaigns ++ inserted.campaign.toList).map _) (drawn (Function.update _ _ _) _) _
    have hheld : drawn s.sessions Session.campaignId session = inserted.campaign.map CampaignRow.id := by
      unfold drawn
      rw [hsession]
      rfl
    rw [drawn_update, List.map_append]
    cases hcampaign : inserted.campaign with
    | none =>
      rw [Option.toList_none, List.map_nil, List.append_nil]
      exact h.campaigns.drop
    | some row =>
      rw [hcampaign] at hheld
      exact h.campaigns.publish hheld
  | rounds hsession => exact hdrop _ _ rfl
  | cancelled hsession =>
    show Sequenced ((s.db.writeCancelled _ _ _ _).campaigns.map _) _ _
    rw [writeCancelled_campaigns]
    exact hdrop _ _ rfl
  | activated hrow hfree => exact h.campaigns

theorem Consistent.step (h : Consistent cron s) (hstep : Stepped cron s a t) : Consistent cron t :=
  ⟨h.step_schedules hstep, h.step_campaigns hstep, h.step_sessions hstep⟩

end Step

/-- The sessions, their locks and the sequences are in order in every state that can be reached. -/
theorem consistent_of_reaches {cron : Cron} {db : Tables} {ids : Sequences} (hdb : db.Numbered ids) {s : System}
    (h : Transition.Reaches (System.step cron) (System.initial db ids) s) : Consistent cron s :=
  h.invariant (Consistent.initial hdb) fun _ _ _ hs _ hstep => hs.step (System.step_cases hstep)

/-! ### Where rows come from -/

/-- Where a schedule comes from that is in the table after a step. -/
inductive ScheduleOrigin (s : System) : Action → ScheduleRow → Prop
  | kept {a : Action} {row : ScheduleRow} (h : row ∈ s.db.schedules) : ScheduleOrigin s a row
  | inserted {session : Nat} {inserted : Scheduling} (hsession : s.sessions session = some (.scheduling inserted)) :
      ScheduleOrigin s (.commit session) inserted.schedule
  | round {session : Nat} {now : Instant} {done : List Materialized} {m : Materialized}
      (hsession : s.sessions session = some (.materializing now [] done)) (hm : m ∈ done) :
      ScheduleOrigin s (.commit session) { m.schedule with nextRunAt := m.nextRunAt, isActive := m.isActive }
  | cancelled {session : Nat} {now : Instant} {tenantId : TenantId} {campaignId : Nat} {updated : List Nat}
      (hsession : s.sessions session = some (.deactivating now tenantId campaignId [] updated)) (old : ScheduleRow)
      (hold : old ∈ s.db.schedules) (hupdated : old.id ∈ updated) :
      ScheduleOrigin s (.commit session) { old with isActive := false }
  | activated (old : ScheduleRow) (hold : old ∈ s.db.schedules) (isActive : Bool) :
      ScheduleOrigin s (.setScheduleActive old.tenantId old.id isActive) { old with isActive := isActive }

inductive JobOrigin (s : System) : Action → JobRow → Prop
  | kept {a : Action} {job : JobRow} (h : job ∈ s.db.jobs) : JobOrigin s a job
  | inserted {session : Nat} {inserted : Scheduling} (hsession : s.sessions session = some (.scheduling inserted)) :
      JobOrigin s (.commit session) inserted.job
  | round {session : Nat} {now : Instant} {done : List Materialized} {m : Materialized}
      (hsession : s.sessions session = some (.materializing now [] done)) (hm : m ∈ done) :
      JobOrigin s (.commit session) m.job

section Origins

variable {cron : Cron} {s t : System} {a : Action}

theorem Consistent.schedule_origin (hs : Consistent cron s) (h : Stepped cron s a t) {row : ScheduleRow}
    (hrow : row ∈ t.db.schedules) : ScheduleOrigin s a row := by
  cases h with
  | @scheduled session inserted hsession =>
    have hrow : row ∈ s.db.schedules ++ [inserted.schedule] := hrow
    rcases List.mem_append.1 hrow with hold | hnew
    · exact .kept hold
    · rw [List.mem_singleton.1 hnew]
      exact .inserted hsession
  | @rounds session now done hsession =>
    have hdistinct := hs.rounds_distinct hsession
    have hrow : row ∈ (s.db.writeMaterialized done).schedules := hrow
    rw [writeMaterialized_schedules] at hrow
    obtain ⟨old, hold, rfl⟩ := List.mem_map.1 hrow
    by_cases hid : ∃ m ∈ done, m.schedule.id = old.id
    · obtain ⟨m, hm, hid⟩ := hid
      have hsame : m.schedule = old := hs.unique (hs.round_held hsession hm).1.stored hold hid
      rw [written_of_mem hdistinct hm hid.symm, ← hsame]
      exact .round hsession hm
    · rw [written_of_not_mem fun m hm heq => hid ⟨m, hm, heq⟩]
      exact .kept hold
  | cancelled hsession =>
    obtain ⟨old, hold, ⟨hupdated, rfl⟩ | ⟨-, rfl⟩⟩ := Rows.mem_update.1 hrow
    · exact .cancelled hsession old hold (of_decide_eq_true hupdated)
    · exact .kept hold
  | @activated target isActive htarget hfree =>
    obtain ⟨old, hold, ⟨hkey, rfl⟩ | ⟨-, rfl⟩⟩ := Rows.mem_update.1 hrow
    · obtain ⟨htenant, hid⟩ := of_decide_eq_true hkey
      rw [← htenant, ← hid]
      exact .activated old hold isActive
    · exact .kept hold
  | _ => exact .kept hrow

theorem Stepped.job_origin (h : Stepped cron s a t) {job : JobRow} (hjob : job ∈ t.db.jobs) : JobOrigin s a job := by
  cases h with
  | scheduled hsession =>
    rcases List.mem_append.1 hjob with hold | hnew
    · exact .kept hold
    · rw [List.mem_singleton.1 hnew]
      exact .inserted hsession
  | rounds hsession =>
    rcases List.mem_append.1 hjob with hold | hnew
    · exact .kept hold
    · obtain ⟨m, hm, rfl⟩ := List.mem_map.1 hnew
      exact .round hsession hm
  | _ => exact .kept hjob

/-- A campaign stays, with its id and its tenant; a cancelled one stays cancelled. -/
theorem Stepped.campaign_later (h : Stepped cron s a t) {campaign : CampaignRow}
    (hcampaign : campaign ∈ s.db.campaigns) :
    ∃ campaign' ∈ t.db.campaigns, campaign'.id = campaign.id ∧ campaign'.tenantId = campaign.tenantId ∧
      (campaign.status = .cancelled → campaign'.status = .cancelled) := by
  cases h with
  | scheduled hsession => exact ⟨campaign, List.mem_append_left _ hcampaign, rfl, rfl, id⟩
  | @cancelled session now tenantId campaignId updated hsession =>
    by_cases hkey : campaign.tenantId = tenantId ∧ campaign.id = campaignId
    · exact ⟨_, Rows.mem_update.2 ⟨campaign, hcampaign, .inl ⟨decide_eq_true hkey, rfl⟩⟩, rfl, rfl, fun _ => rfl⟩
    · exact ⟨_, Rows.mem_update.2 ⟨campaign, hcampaign, .inr ⟨decide_eq_false hkey, rfl⟩⟩, rfl, rfl, id⟩
  | _ => exact ⟨campaign, hcampaign, rfl, rfl, id⟩

/-- Nobody changes groups and uploads. -/
theorem Stepped.contacts (h : Stepped cron s a t) :
    t.db.contactGroups = s.db.contactGroups ∧ t.db.contactUploads = s.db.contactUploads := by
  cases h <;> exact ⟨rfl, rfl⟩

/-- An open `scheduleCampaign` was open before the step, or has been begun by it. -/
theorem Stepped.scheduling_origin (h : Stepped cron s a t) {session : Nat} {inserted : Scheduling}
    (hsession : t.sessions session = some (.scheduling inserted)) :
    s.sessions session = some (.scheduling inserted) ∨ ∃ now clientNow tenantId dto,
      a = .schedule session now clientNow tenantId dto ∧ Scheduled cron s.db s.ids tenantId dto inserted := by
  have hother : ∀ session' (state : Option Session), t.sessions = Function.update s.sessions session' state →
      state ≠ some (.scheduling inserted) → s.sessions session = some (.scheduling inserted) := by
    intro session' state hupdate hne
    rw [hupdate] at hsession
    rcases of_update hsession with ⟨-, hself⟩ | ⟨-, hold⟩
    · exact absurd hself hne
    · exact hold
  cases h with
  | refused a ha => exact .inl hsession
  | @scheduling session' now clientNow tenantId dto inserted' hfree hscheduled =>
    rcases of_update hsession with ⟨rfl, hself⟩ | ⟨-, hold⟩
    · cases hself
      exact .inr ⟨now, clientNow, tenantId, dto, rfl, hscheduled⟩
    · exact .inl hold
  | activated hrow hfree => exact .inl hsession
  | _ => exact .inl (hother _ _ rfl (by simp))

end Origins

/-- What an open `scheduleCampaign` has checked, or has made so. -/
structure Prepared (db : Tables) (inserted : Scheduling) : Prop where
  jobTenantId : inserted.job.tenantId = inserted.schedule.tenantId
  jobCampaignId : inserted.job.campaignId = inserted.schedule.campaignId
  campaign : ∀ row, inserted.campaign = some row →
    row.id = inserted.schedule.campaignId ∧ row.tenantId = inserted.schedule.tenantId
  contactGroup : ∀ id, inserted.schedule.contactGroupId = some id →
    ∃ row ∈ db.contactGroups, row.id = id ∧ row.tenantId = inserted.schedule.tenantId
  contactUpload : ∀ id, inserted.schedule.contactUploadId = some id →
    ∃ row ∈ db.contactUploads, row.id = id ∧ row.tenantId = inserted.schedule.tenantId
  isActive : inserted.schedule.isActive = true

theorem Scheduled.prepared {cron : Cron} {db : Tables} {ids : Sequences} {tenantId : TenantId}
    {dto : ScheduleCampaignDto} {inserted : Scheduling} (h : Scheduled cron db ids tenantId dto inserted) :
    Prepared db inserted where
  jobTenantId := h.jobTenantId.trans h.scheduleTenantId.symm
  jobCampaignId := h.jobCampaignId
  campaign := by
    intro row hrow
    rcases h.campaign with ⟨row', hrow', hid, htenant, hcampaign, -⟩ | ⟨id, -, hnone, -, -⟩
    · cases hrow.symm.trans hrow'
      exact ⟨hid.trans hcampaign.symm, htenant.trans h.scheduleTenantId.symm⟩
    · rw [hnone] at hrow
      cases hrow
  contactGroup := by
    rw [h.scheduleTenantId]
    exact h.contactGroup
  contactUpload := by
    rw [h.scheduleTenantId]
    exact h.contactUpload
  isActive := h.isActive

theorem prepared_of_reaches {cron : Cron} {db : Tables} {ids : Sequences} {s : System}
    (h : Transition.Reaches (System.step cron) (System.initial db ids) s) :
    ∀ session inserted, s.sessions session = some (.scheduling inserted) → Prepared s.db inserted := by
  refine h.invariant (P := fun s => ∀ session inserted, s.sessions session = some (.scheduling inserted) →
    Prepared s.db inserted) ?_ ?_
  · intro session inserted hnone
    cases hnone
  · intro s a t ih _ hstep session inserted hsession
    have hstepped := System.step_cases hstep
    have hp : Prepared s.db inserted := by
      rcases hstepped.scheduling_origin hsession with hold | ⟨now, clientNow, tenantId, dto, -, hscheduled⟩
      · exact ih session inserted hold
      · exact hscheduled.prepared
    obtain ⟨hgroups, huploads⟩ := hstepped.contacts
    exact ⟨hp.jobTenantId, hp.jobCampaignId, hp.campaign, hgroups ▸ hp.contactGroup, huploads ▸ hp.contactUpload,
      hp.isActive⟩

/-! ### A small instance -/

namespace Sample

/-- The minute after a time. -/
private theorem next_minute (reference : Int) :
    IsLeast {t : Int | t % 60000 = 0 ∧ reference < t} ((reference / 60000 + 1) * 60000) := by
  constructor
  · constructor
    · omega
    · omega
  · rintro t ⟨hminute, hafter⟩
    omega

/-- The expression for every minute, and no other. -/
def everyMinute : Cron where
  occurs := fun expression _ t => expression = "* * * * *" ∧ t % 60000 = 0
  next := fun expression _ reference =>
    if expression = "* * * * *" then .ok ((reference / 60000 + 1) * 60000) else .error "Invalid cron expression"
  least := by
    intro expression timezone reference time h
    split at h
    · rename_i hexpression
      cases h
      obtain ⟨⟨hminute, hafter⟩, hleast⟩ := next_minute reference
      refine ⟨⟨⟨hexpression, hminute⟩, hafter⟩, ?_⟩
      rintro t ⟨⟨-, hminute'⟩, hafter'⟩
      exact hleast ⟨hminute', hafter'⟩
    · cases h

def campaign : CampaignRow where
  id := 1
  tenantId := SmsPlatform.Sample.tenant
  name := "Promo"
  status := .scheduled
  sourceType := .api
  scheduledAt := some 60000
  metadata := ⟨"promo-template@1", "MYAPP", some 1, none⟩
  createdAt := 0
  updatedAt := 0

def schedule (recurrenceCron : Option String) : ScheduleRow where
  id := 1
  tenantId := SmsPlatform.Sample.tenant
  campaignId := 1
  templateRef := "promo-template@1"
  senderId := "MYAPP"
  contactGroupId := some 1
  contactUploadId := none
  recurrenceCron := recurrenceCron
  timezone := "UTC"
  nextRunAt := 60000
  shardCount := 4
  isActive := true
  createdAt := 0

/-- One campaign with one schedule, for a group of two contacts. -/
def tables (recurrenceCron : Option String) : Tables where
  timezones := fun _ => some "UTC"
  contactGroups := [⟨1, SmsPlatform.Sample.tenant⟩]
  contactGroupMembers := [(1, 1), (1, 2)]
  contactUploads := []
  campaigns := [campaign]
  schedules := [schedule recurrenceCron]
  jobs := []

def ids : Sequences := ⟨2, 2, 1⟩

theorem numbered (recurrenceCron : Option String) : (tables recurrenceCron).Numbered ids where
  schedules := List.nodup_singleton _
  schedulesBelow := by
    intro row hrow
    rw [List.mem_singleton.1 hrow]
    exact Nat.lt_succ_self 1
  campaigns := List.nodup_singleton _
  campaignsBelow := by
    intro row hrow
    rw [List.mem_singleton.1 hrow]
    exact Nat.lt_succ_self 1

end Sample

end SmsPlatform.Campaigns
