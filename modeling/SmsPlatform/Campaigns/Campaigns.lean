import Mathlib.Data.PNat.Defs
import Mathlib.Order.Bounds.Defs
import SmsPlatform.Database
import SmsPlatform.Lib.Queries
import SmsPlatform.Lib.RowLocks
import SmsPlatform.Lib.Rows

/-!
# Campaigns, schedules and jobs

`campaigns.service.ts`: `scheduleCampaign`, `setScheduleActive`, `cancelCampaign`, `materializeDueSchedules` and
`listCampaigns`, with the rows they read and write.  Times are the milliseconds of a JavaScript `Date`; a `now()` of the
database is rounded down to them, which no comparison with a `Date` can tell.  The text of an audit entry is left out.
-/

namespace SmsPlatform.Campaigns

open StateExcept
open Queries (newestFirst)

abbrev Instant := Int

/-! ### Rows -/

inductive CampaignStatus
  | draft | scheduled | cancelled
  deriving DecidableEq, Repr

inductive SourceType
  | api | contactGroup | upload
  deriving DecidableEq, Repr

inductive JobStatus
  | pending | queued
  deriving DecidableEq, Repr

structure CampaignMetadata where
  templateRef : String
  senderId : String
  contactGroupId : Option Nat
  contactUploadId : Option Nat
  deriving DecidableEq

structure CampaignRow where
  id : Nat
  tenantId : TenantId
  name : String
  status : CampaignStatus
  sourceType : SourceType
  scheduledAt : Option Instant
  metadata : CampaignMetadata
  createdAt : Instant
  updatedAt : Instant
  deriving DecidableEq

structure ScheduleRow where
  id : Nat
  tenantId : TenantId
  campaignId : Nat
  templateRef : String
  senderId : String
  contactGroupId : Option Nat
  contactUploadId : Option Nat
  recurrenceCron : Option String
  timezone : String
  nextRunAt : Instant
  shardCount : Nat
  isActive : Bool
  createdAt : Instant
  deriving DecidableEq

structure JobRow where
  id : Nat
  tenantId : TenantId
  campaignId : Nat
  sourceType : SourceType
  status : JobStatus
  totalRecords : Nat
  processedRecords : Nat
  shardCount : Nat
  priority : Nat
  createdAt : Instant
  startedAt : Option Instant
  deriving DecidableEq

structure ContactGroupRow where
  id : Nat
  tenantId : TenantId
  deriving DecidableEq

structure ContactUploadRow where
  id : Nat
  tenantId : TenantId
  validRows : Nat
  deriving DecidableEq

/-- The tables of the campaigns, and those about tenants and contacts that they read; a group has its members' ids. -/
structure Tables where
  timezones : TenantId → Option String
  contactGroups : List ContactGroupRow
  contactGroupMembers : List (Nat × Nat)
  contactUploads : List ContactUploadRow
  campaigns : List CampaignRow
  schedules : List ScheduleRow
  jobs : List JobRow

/-- The identity columns' next values. -/
structure Sequences where
  campaign : Nat
  schedule : Nat
  job : Nat

/-! ### Recurrence -/

/-- cron-parser: the times an expression stands for in a time zone, and its `next()`, which throws or returns the least
of them after its reference. -/
structure Cron where
  occurs : String → String → Instant → Prop
  next : String → String → Instant → Except String Instant
  least : ∀ {expression timezone reference time}, next expression timezone reference = .ok time →
    IsLeast {t | occurs expression timezone t ∧ reference < t} time

/-- The condition `recurrence_cron` of JavaScript: neither NULL nor the empty text. -/
def recurring (recurrenceCron : Option String) : Option String := recurrenceCron.filter fun text => decide (text ≠ "")

def parseCronExpression (cron : Cron) (expression timezone : String) (referenceDate : Instant) :
    Except Failure Instant :=
  match cron.next expression timezone referenceDate with
  | .ok time => .ok time
  | .error message => .error (.badRequest ("Invalid campaign recurrence cron: " ++ message))

def computeNextRunAt (cron : Cron) (recurrenceCron : Option String) (timezone : String) (referenceDate : Instant)
    (includeReference : Bool) : Except Failure Instant :=
  match recurring recurrenceCron with
  | none => .ok referenceDate
  | some expression =>
    parseCronExpression cron expression timezone (if includeReference then referenceDate - 1000 else referenceDate)

/-- The occurrence after `time`. -/
def Cron.IsNext (cron : Cron) (expression timezone : String) (time next : Instant) : Prop :=
  IsLeast {t | cron.occurs expression timezone t ∧ time < t} next

theorem parseCronExpression_ok {cron : Cron} {expression timezone : String} {referenceDate time : Instant}
    (h : parseCronExpression cron expression timezone referenceDate = .ok time) :
    cron.IsNext expression timezone referenceDate time := by
  unfold parseCronExpression at h
  split at h
  · rename_i time' hnext
    cases h
    exact cron.least hnext
  · cases h

/-- Where a one-time schedule is parked: `100 * 365 * 24 * 60 * 60 * 1000`. -/
def hundredYears : Instant := 100 * 365 * 24 * 60 * 60 * 1000

/-! ### scheduleCampaign -/

/-- A validated request body; `startAt` is the `Date` made of it. -/
structure ScheduleCampaignDto where
  campaignId : Option ℕ+ := none
  campaignName : Option String := none
  startAt : Instant
  recurrenceCron : Option String := none
  templateRef : String
  senderId : String
  contactGroupId : Option ℕ+ := none
  contactUploadId : Option ℕ+ := none
  shardCount : Option ℕ+ := none

/-- The rows that one `scheduleCampaign` inserts. -/
structure Scheduling where
  campaign : Option CampaignRow
  schedule : ScheduleRow
  job : JobRow

/-- `if (condition) throw`. -/
def rejectIf (condition : Prop) [Decidable condition] (failure : Failure) : Except Failure Unit :=
  if condition then .error failure else .ok ()

theorem rejectIf_ok {condition : Prop} [Decidable condition] {failure : Failure} :
    rejectIf condition failure = .ok () ↔ ¬ condition := by
  unfold rejectIf
  by_cases h : condition
  · rw [if_pos h]
    simp [h]
  · rw [if_neg h]
    simp [h]

def checkContacts (db : Tables) (tenantId : TenantId) (dto : ScheduleCampaignDto) : Except Failure Unit := do
  rejectIf (dto.contactGroupId = none ∧ dto.contactUploadId = none)
    (.badRequest "Campaign scheduling requires contactGroupId or contactUploadId")
  rejectIf (∃ id ∈ dto.contactGroupId, ∀ row ∈ db.contactGroups, ¬ (row.id = id ∧ row.tenantId = tenantId))
    (.notFound "Contact group not found")
  rejectIf (∃ id ∈ dto.contactUploadId, ∀ row ∈ db.contactUploads, ¬ (row.id = id ∧ row.tenantId = tenantId))
    (.notFound "Contact upload not found")

/-- The VARCHAR columns of the rows to insert. -/
def checkColumns (name : Option String) (dto : ScheduleCampaignDto) : Except Failure Unit := do
  rejectIf (∃ text ∈ name, 160 < text.length) (.valueTooLong 160)
  rejectIf (100 < dto.templateRef.length) (.valueTooLong 100)
  rejectIf (20 < dto.senderId.length) (.valueTooLong 20)
  rejectIf (∃ text ∈ dto.recurrenceCron, 64 < text.length) (.valueTooLong 64)

def newCampaign (ids : Sequences) (now clientNow : Instant) (tenantId : TenantId) (dto : ScheduleCampaignDto) :
    CampaignRow where
  id := ids.campaign
  tenantId := tenantId
  name := dto.campaignName.getD ("campaign-" ++ toString clientNow)
  status := .scheduled
  sourceType := .api
  scheduledAt := some dto.startAt
  metadata := ⟨dto.templateRef, dto.senderId, dto.contactGroupId.map (↑), dto.contactUploadId.map (↑)⟩
  createdAt := now
  updatedAt := now

/-- The foreign key of the schedule is all that looks at a `campaignId` of the request. -/
def checkCampaign (db : Tables) (dto : ScheduleCampaignDto) : Except Failure Unit :=
  rejectIf (∃ id ∈ dto.campaignId, ∀ row ∈ db.campaigns, row.id ≠ id)
    (.error "insert or update on table \"campaign_schedules\" violates foreign key constraint")

def scheduleCampaign (cron : Cron) (db : Tables) (ids : Sequences) (now clientNow : Instant) (tenantId : TenantId)
    (dto : ScheduleCampaignDto) : Except Failure Scheduling := do
  checkContacts db tenantId dto
  let tenantTimezone := (db.timezones tenantId).getD "UTC"
  let firstRunAt ← computeNextRunAt cron dto.recurrenceCron tenantTimezone dto.startAt true
  -- the INSERTs refuse texts that are too long for their columns, and an unknown campaign
  let created := if dto.campaignId = none then some (newCampaign ids now clientNow tenantId dto) else none
  checkColumns (created.map CampaignRow.name) dto
  checkCampaign db dto
  let campaignId := (dto.campaignId.map (↑)).getD ids.campaign
  let shardCount := (dto.shardCount.map (↑)).getD 4
  return {
    campaign := created
    schedule := {
      id := ids.schedule
      tenantId := tenantId
      campaignId := campaignId
      templateRef := dto.templateRef
      senderId := dto.senderId
      contactGroupId := dto.contactGroupId.map (↑)
      contactUploadId := dto.contactUploadId.map (↑)
      recurrenceCron := dto.recurrenceCron
      timezone := tenantTimezone
      nextRunAt := firstRunAt
      shardCount := shardCount
      isActive := true
      createdAt := now }
    job := {
      id := ids.job
      tenantId := tenantId
      campaignId := campaignId
      sourceType := .api
      status := .pending
      totalRecords := 0
      processedRecords := 0
      shardCount := shardCount
      priority := 5
      createdAt := now
      startedAt := none } }

def Sequences.after (ids : Sequences) (scheduling : Scheduling) : Sequences where
  campaign := if scheduling.campaign.isSome then ids.campaign + 1 else ids.campaign
  schedule := ids.schedule + 1
  job := ids.job + 1

/-- What is true of the rows that a `scheduleCampaign` inserts. -/
structure Scheduled (cron : Cron) (db : Tables) (ids : Sequences) (tenantId : TenantId) (dto : ScheduleCampaignDto)
    (scheduling : Scheduling) : Prop where
  scheduleId : scheduling.schedule.id = ids.schedule
  scheduleTenantId : scheduling.schedule.tenantId = tenantId
  jobTenantId : scheduling.job.tenantId = tenantId
  jobCampaignId : scheduling.job.campaignId = scheduling.schedule.campaignId
  campaign : (∃ row, scheduling.campaign = some row ∧ row.id = ids.campaign ∧ row.tenantId = tenantId ∧
      scheduling.schedule.campaignId = ids.campaign ∧ dto.campaignId = none) ∨
    ∃ id : ℕ+, dto.campaignId = some id ∧ scheduling.campaign = none ∧ scheduling.schedule.campaignId = id ∧
      ∃ row ∈ db.campaigns, row.id = id
  contactGroup : ∀ id, scheduling.schedule.contactGroupId = some id →
    ∃ row ∈ db.contactGroups, row.id = id ∧ row.tenantId = tenantId
  contactUpload : ∀ id, scheduling.schedule.contactUploadId = some id →
    ∃ row ∈ db.contactUploads, row.id = id ∧ row.tenantId = tenantId
  isActive : scheduling.schedule.isActive = true
  firstRunAt : computeNextRunAt cron scheduling.schedule.recurrenceCron scheduling.schedule.timezone dto.startAt true =
    .ok scheduling.schedule.nextRunAt

theorem checkContacts_ok {db : Tables} {tenantId : TenantId} {dto : ScheduleCampaignDto}
    (h : checkContacts db tenantId dto = .ok ()) :
    (∀ id : ℕ+, dto.contactGroupId = some id → ∃ row ∈ db.contactGroups, row.id = id ∧ row.tenantId = tenantId) ∧
      ∀ id : ℕ+, dto.contactUploadId = some id → ∃ row ∈ db.contactUploads, row.id = id ∧ row.tenantId = tenantId := by
  obtain ⟨_, -, h⟩ := except_bind_eq_ok.1 h
  obtain ⟨_, hgroup, hupload⟩ := except_bind_eq_ok.1 h
  have hgroup := rejectIf_ok.1 hgroup
  have hupload := rejectIf_ok.1 hupload
  constructor
  · intro id hid
    by_contra hnone
    exact hgroup ⟨id, hid, fun row hrow hfound => hnone ⟨row, hrow, hfound⟩⟩
  · intro id hid
    by_contra hnone
    exact hupload ⟨id, hid, fun row hrow hfound => hnone ⟨row, hrow, hfound⟩⟩

theorem checkCampaign_ok {db : Tables} {dto : ScheduleCampaignDto} (h : checkCampaign db dto = .ok ()) {id : ℕ+}
    (hid : dto.campaignId = some id) : ∃ row ∈ db.campaigns, row.id = id := by
  have h := rejectIf_ok.1 h
  by_contra hnone
  exact h ⟨id, hid, fun row hrow hfound => hnone ⟨row, hrow, hfound⟩⟩

theorem scheduleCampaign_ok {cron : Cron} {db : Tables} {ids : Sequences} {now clientNow : Instant}
    {tenantId : TenantId} {dto : ScheduleCampaignDto} {scheduling : Scheduling}
    (h : scheduleCampaign cron db ids now clientNow tenantId dto = .ok scheduling) :
    Scheduled cron db ids tenantId dto scheduling := by
  obtain ⟨_, hcontacts, h⟩ := except_bind_eq_ok.1 h
  obtain ⟨firstRunAt, hfirst, h⟩ := except_bind_eq_ok.1 h
  obtain ⟨_, -, h⟩ := except_bind_eq_ok.1 h
  obtain ⟨_, hcampaign, h⟩ := except_bind_eq_ok.1 h
  obtain ⟨hgroup, hupload⟩ := checkContacts_ok hcontacts
  cases h
  refine ⟨rfl, rfl, rfl, rfl, ?_, ?_, ?_, rfl, hfirst⟩
  · cases hid : dto.campaignId with
    | none => exact .inl ⟨newCampaign ids now clientNow tenantId dto, rfl, rfl, rfl, rfl, rfl⟩
    | some id => exact .inr ⟨id, rfl, rfl, rfl, checkCampaign_ok hcampaign hid⟩
  · intro id hid
    obtain ⟨id', hid', rfl⟩ := Option.map_eq_some_iff.1 hid
    exact hgroup id' hid'
  · intro id hid
    obtain ⟨id', hid', rfl⟩ := Option.map_eq_some_iff.1 hid
    exact hupload id' hid'

/-! ### materializeDueSchedules -/

/-- One round of the loop: the row as it was locked, the job, and the two columns of the UPDATE. -/
structure Materialized where
  schedule : ScheduleRow
  clientNow : Instant
  job : JobRow
  nextRunAt : Instant
  isActive : Bool

/-- `COUNT(*)` of the group, `valid_rows` of the upload, or nothing. -/
def recordsOf (db : Tables) (schedule : ScheduleRow) : SourceType × Nat :=
  match schedule.contactGroupId, schedule.contactUploadId with
  | some groupId, _ => (.contactGroup, (db.contactGroupMembers.filter fun member => member.1 = groupId).length)
  | none, some uploadId =>
    (.upload, ((db.contactUploads.find? fun row => decide (row.id = uploadId)).map ContactUploadRow.validRows).getD 0)
  | none, none => (.api, 0)

/-- `nextRunAt` of the loop: the occurrence after this run, or a hundred years from now. -/
def nextRunAtOf (cron : Cron) (clientNow : Instant) (schedule : ScheduleRow) : Except Failure Instant :=
  if (recurring schedule.recurrenceCron).isSome then
    computeNextRunAt cron schedule.recurrenceCron schedule.timezone schedule.nextRunAt false
  else .ok (clientNow + hundredYears)

def materializeSchedule (cron : Cron) (db : Tables) (jobId : Nat) (now clientNow : Instant) (schedule : ScheduleRow) :
    Except Failure Materialized := do
  let records := recordsOf db schedule
  let nextRunAt ← nextRunAtOf cron clientNow schedule
  return {
    schedule := schedule
    clientNow := clientNow
    job := {
      id := jobId
      tenantId := schedule.tenantId
      campaignId := schedule.campaignId
      sourceType := records.1
      status := .queued
      totalRecords := records.2
      processedRecords := 0
      shardCount := schedule.shardCount
      priority := 5
      createdAt := now
      startedAt := some now }
    nextRunAt := nextRunAt
    -- `CASE WHEN recurrence_cron IS NULL THEN FALSE ELSE TRUE END`
    isActive := schedule.recurrenceCron.isSome }

/-- What is true of one round of the loop. -/
structure Materialized.Of (cron : Cron) (now : Instant) (row : ScheduleRow) (materialized : Materialized) : Prop where
  schedule : materialized.schedule = row
  tenantId : materialized.job.tenantId = row.tenantId
  campaignId : materialized.job.campaignId = row.campaignId
  createdAt : materialized.job.createdAt = now
  isActive : materialized.isActive = row.recurrenceCron.isSome
  recurs : ∀ expression, recurring row.recurrenceCron = some expression →
    cron.IsNext expression row.timezone row.nextRunAt materialized.nextRunAt
  parked : recurring row.recurrenceCron = none → materialized.nextRunAt = materialized.clientNow + hundredYears

theorem materializeSchedule_ok {cron : Cron} {db : Tables} {jobId : Nat} {now clientNow : Instant}
    {schedule : ScheduleRow} {materialized : Materialized}
    (h : materializeSchedule cron db jobId now clientNow schedule = .ok materialized) :
    materialized.Of cron now schedule := by
  obtain ⟨nextRunAt, hnext, h⟩ := except_bind_eq_ok.1 h
  cases h
  unfold nextRunAtOf at hnext
  refine ⟨rfl, rfl, rfl, rfl, rfl, ?_, ?_⟩
  · intro expression hrecurring
    rw [if_pos (by rw [hrecurring]; rfl)] at hnext
    unfold computeNextRunAt at hnext
    rw [hrecurring] at hnext
    exact parseCronExpression_ok hnext
  · intro hnone
    rw [if_neg (by rw [hnone]; simp)] at hnext
    cases hnext
    rfl

/-! ### Writes -/

namespace Tables

def insertScheduling (db : Tables) (scheduling : Scheduling) : Tables :=
  { db with
    campaigns := db.campaigns ++ scheduling.campaign.toList
    schedules := db.schedules ++ [scheduling.schedule]
    jobs := db.jobs ++ [scheduling.job] }

def writeMaterialized (db : Tables) (done : List Materialized) : Tables :=
  { db with
    schedules := done.foldl (fun schedules materialized =>
      Rows.update (fun row => decide (row.id = materialized.schedule.id))
        (fun row => { row with nextRunAt := materialized.nextRunAt, isActive := materialized.isActive }) schedules)
      db.schedules
    jobs := db.jobs ++ done.map Materialized.job }

/-- The UPDATE of the campaign, and that of the schedules that it has found. -/
def writeCancelled (db : Tables) (now : Instant) (tenantId : TenantId) (campaignId : Nat) (updated : List Nat) :
    Tables :=
  { db with
    campaigns := Rows.update (fun row => decide (row.tenantId = tenantId ∧ row.id = campaignId))
      (fun row => { row with status := .cancelled, updatedAt := now }) db.campaigns
    schedules := Rows.update (fun row => decide (row.id ∈ updated)) (fun row => { row with isActive := false })
      db.schedules }

def writeActive (db : Tables) (tenantId : TenantId) (scheduleId : Nat) (isActive : Bool) : Tables :=
  { db with
    schedules := Rows.update (fun row => decide (row.tenantId = tenantId ∧ row.id = scheduleId))
      (fun row => { row with isActive := isActive }) db.schedules }

def findSchedule (db : Tables) (tenantId : TenantId) (scheduleId : Nat) : Option ScheduleRow :=
  db.schedules.find? fun row => decide (row.tenantId = tenantId ∧ row.id = scheduleId)

def findCampaign (db : Tables) (tenantId : TenantId) (campaignId : Nat) : Option CampaignRow :=
  db.campaigns.find? fun row => decide (row.tenantId = tenantId ∧ row.id = campaignId)

end Tables

/-! ### listCampaigns -/

structure CampaignListing where
  campaign : CampaignRow
  latestJob : Option JobRow

/-- The lateral join takes the newest job of the campaign, whoever its tenant is. -/
def listCampaigns (db : Tables) (tie : CampaignRow → Nat) (tieJob : JobRow → Nat) (tenantId : TenantId) :
    List CampaignListing :=
  (newestFirst CampaignRow.createdAt tie (db.campaigns.filter fun row => decide (row.tenantId = tenantId))).map
    fun campaign => ⟨campaign, (newestFirst JobRow.createdAt tieJob
      (db.jobs.filter fun job => decide (job.campaignId = campaign.id))).head?⟩

end SmsPlatform.Campaigns
