import SmsPlatform.Campaigns.Materialization

/-!
# The tenants of campaigns, schedules and jobs

The contacts of a request are looked up under its tenant, the campaign is not.  As long as every request names a campaign
of its own tenant (`NamesOwn`), the rows that refer to each other are of one tenant and `listCampaigns` shows nobody else's
jobs (`tenants_separate`); a request with a foreign id puts its schedule and its job on another tenant's campaign
(`foreign_job_listed`).
-/

namespace SmsPlatform.Campaigns

open Transition

section OwnedBy

variable {ρ : Type} {key : ρ → Nat} {tenant : ρ → TenantId} {rows rows' : List ρ} {id : Nat} {tenantId : TenantId}

/-- The row with an id is there, and it belongs to a tenant. -/
def OwnedBy (key : ρ → Nat) (tenant : ρ → TenantId) (rows : List ρ) (id : Nat) (tenantId : TenantId) : Prop :=
  ∃ row ∈ rows, key row = id ∧ tenant row = tenantId

theorem OwnedBy.unique (h : OwnedBy key tenant rows id tenantId) (hkeys : (rows.map key).Nodup) {row : ρ}
    (hrow : row ∈ rows) (hid : key row = id) : tenant row = tenantId := by
  obtain ⟨row', hrow', hid', htenant⟩ := h
  rw [Rows.Keyed.unique hkeys hrow hrow' (hid.trans hid'.symm)]
  exact htenant

theorem OwnedBy.mono (h : OwnedBy key tenant rows id tenantId)
    (hrows : ∀ row ∈ rows, ∃ row' ∈ rows', key row' = key row ∧ tenant row' = tenant row) :
    OwnedBy key tenant rows' id tenantId := by
  obtain ⟨row, hrow, hid, htenant⟩ := h
  obtain ⟨row', hrow', hid', htenant'⟩ := hrows row hrow
  exact ⟨row', hrow', hid'.trans hid, htenant'.trans htenant⟩

end OwnedBy

abbrev Tables.OwnsCampaign (db : Tables) : Nat → TenantId → Prop :=
  OwnedBy CampaignRow.id CampaignRow.tenantId db.campaigns

/-- What a schedule refers to is there and of its own tenant. -/
structure ScheduleRow.Owned (db : Tables) (row : ScheduleRow) : Prop where
  campaign : db.OwnsCampaign row.campaignId row.tenantId
  contactGroup : ∀ id, row.contactGroupId = some id →
    OwnedBy ContactGroupRow.id ContactGroupRow.tenantId db.contactGroups id row.tenantId
  contactUpload : ∀ id, row.contactUploadId = some id →
    OwnedBy ContactUploadRow.id ContactUploadRow.tenantId db.contactUploads id row.tenantId

structure Tables.Owned (db : Tables) : Prop where
  schedules : ∀ row ∈ db.schedules, row.Owned db
  jobs : ∀ job ∈ db.jobs, db.OwnsCampaign job.campaignId job.tenantId

/-- Rows that refer to each other are of one tenant. -/
structure Tables.Separate (db : Tables) : Prop where
  scheduleCampaign : ∀ row ∈ db.schedules, ∀ campaign ∈ db.campaigns, campaign.id = row.campaignId →
    campaign.tenantId = row.tenantId
  scheduleGroup : ∀ row ∈ db.schedules, ∀ group ∈ db.contactGroups, row.contactGroupId = some group.id →
    group.tenantId = row.tenantId
  scheduleUpload : ∀ row ∈ db.schedules, ∀ upload ∈ db.contactUploads, row.contactUploadId = some upload.id →
    upload.tenantId = row.tenantId
  jobCampaign : ∀ job ∈ db.jobs, ∀ campaign ∈ db.campaigns, campaign.id = job.campaignId →
    campaign.tenantId = job.tenantId

/-- A request that names a campaign names one of its own tenant. -/
def NamesOwn (s : System) : Action → Prop
  | .schedule _ _ _ tenantId dto =>
    ∀ id ∈ dto.campaignId, ∀ campaign ∈ s.db.campaigns, campaign.id = id → campaign.tenantId = tenantId
  | _ => True

instance (s : System) : DecidablePred (NamesOwn s)
  | .schedule _ _ _ tenantId dto => inferInstanceAs (Decidable
    (∀ id ∈ dto.campaignId, ∀ campaign ∈ s.db.campaigns, campaign.id = id → campaign.tenantId = tenantId))
  | .materialize _ _ | .lockDue _ _ | .select _ | .materializeNext _ _ | .cancel _ _ _ _ | .findSchedules _
  | .deactivate _ | .commit _ | .abort _ | .setScheduleActive _ _ _ => isTrue trivial

/-! ### One step -/

/-- The campaign of an open `scheduleCampaign` is one of its tenant, or the one that it inserts. -/
def Opened (s : System) : Prop :=
  ∀ session inserted, s.sessions session = some (.scheduling inserted) → inserted.campaign = none →
    s.db.OwnsCampaign inserted.schedule.campaignId inserted.schedule.tenantId

section Step

variable {cron : Cron} {s t : System} {a : Action}

theorem Stepped.ownsCampaign (h : Stepped cron s a t) {id : Nat} {tenantId : TenantId}
    (hown : s.db.OwnsCampaign id tenantId) : t.db.OwnsCampaign id tenantId := by
  refine hown.mono fun campaign hcampaign => ?_
  obtain ⟨campaign', hcampaign', hid, htenant, -⟩ := h.campaign_later hcampaign
  exact ⟨campaign', hcampaign', hid, htenant⟩

theorem ScheduleRow.Owned.later {row row' : ScheduleRow} (hrow : row.Owned s.db) (h : Stepped cron s a t)
    (hsame : row' = { row with nextRunAt := row'.nextRunAt, isActive := row'.isActive }) : row'.Owned t.db := by
  obtain ⟨hgroups, huploads⟩ := h.contacts
  rw [hsame]
  refine ⟨h.ownsCampaign hrow.campaign, ?_, ?_⟩
  · rw [hgroups]
    exact hrow.contactGroup
  · rw [huploads]
    exact hrow.contactUpload

theorem Opened.step (hopened : Opened s) (h : Stepped cron s a t) (hown : NamesOwn s a) : Opened t := by
  intro session inserted hsession hnone
  rcases h.scheduling_origin hsession with hold | ⟨now, clientNow, tenantId, dto, rfl, hscheduled⟩
  · exact h.ownsCampaign (hopened session inserted hold hnone)
  · refine h.ownsCampaign ?_
    rcases hscheduled.campaign with ⟨row, hsome, -, -, -⟩ | ⟨id, hdto, -, hid, campaign, hcampaign, hcampaignId⟩
    · rw [hnone] at hsome
      cases hsome
    · -- the foreign key has found the campaign, and the condition says whose it is
      rw [hid, hscheduled.scheduleTenantId]
      exact ⟨campaign, hcampaign, hcampaignId, hown id hdto campaign hcampaign hcampaignId⟩

/-- The rows of a `scheduleCampaign` belong to the tenant of its campaign when it commits. -/
theorem owned_inserted {inserted : Scheduling} (hprepared : Prepared s.db inserted)
    (hopened : inserted.campaign = none → s.db.OwnsCampaign inserted.schedule.campaignId inserted.schedule.tenantId) :
    inserted.schedule.Owned (s.db.insertScheduling inserted) ∧
      (s.db.insertScheduling inserted).OwnsCampaign inserted.job.campaignId inserted.job.tenantId := by
  have hcampaign : (s.db.insertScheduling inserted).OwnsCampaign inserted.schedule.campaignId
      inserted.schedule.tenantId := by
    cases hinserted : inserted.campaign with
    | none =>
      obtain ⟨campaign, hmem, hkey⟩ := hopened hinserted
      exact ⟨campaign, List.mem_append_left _ hmem, hkey⟩
    | some campaign =>
      have hmem : campaign ∈ inserted.campaign.toList := by rw [hinserted]; exact List.mem_singleton_self _
      exact ⟨campaign, List.mem_append_right _ hmem, hprepared.campaign campaign hinserted⟩
  refine ⟨⟨hcampaign, hprepared.contactGroup, hprepared.contactUpload⟩, ?_⟩
  rw [hprepared.jobCampaignId, hprepared.jobTenantId]
  exact hcampaign

theorem Tables.Owned.step (hdb : s.db.Owned) (hs : Consistent cron s) (hopened : Opened s)
    (hprepared : ∀ session inserted, s.sessions session = some (.scheduling inserted) → Prepared s.db inserted)
    (h : s.step cron a = some t) : t.db.Owned := by
  have hstepped := System.step_cases h
  refine ⟨fun row hrow => ?_, fun job hjob => ?_⟩
  · cases hs.schedule_origin hstepped hrow with
    | kept hold => exact (hdb.schedules row hold).later hstepped rfl
    | @inserted session inserted hsession =>
      cases (System.step_commit hsession).symm.trans h
      exact (owned_inserted (hprepared session inserted hsession) (hopened session inserted hsession)).1
    -- a round changes the times of a row that is stored
    | round hsession hm =>
      exact (hdb.schedules _ (hs.round_held hsession hm).1.stored).later hstepped rfl
    | cancelled hsession old hold hupdated => exact (hdb.schedules old hold).later hstepped rfl
    | activated old hold isActive => exact (hdb.schedules old hold).later hstepped rfl
  · cases hstepped.job_origin hjob with
    | kept hold => exact hstepped.ownsCampaign (hdb.jobs job hold)
    | @inserted session inserted hsession =>
      cases (System.step_commit hsession).symm.trans h
      exact (owned_inserted (hprepared session inserted hsession) (hopened session inserted hsession)).2
    | round hsession hm =>
      obtain ⟨hheld, -, hof⟩ := hs.round_held hsession hm
      rw [hof.campaignId, hof.tenantId]
      exact hstepped.ownsCampaign (hdb.schedules _ hheld.stored).campaign

end Step

/-! ### Whole runs -/

theorem Tables.Owned.separate {db : Tables} (h : db.Owned) (hcampaigns : (db.campaigns.map CampaignRow.id).Nodup)
    (hgroups : (db.contactGroups.map ContactGroupRow.id).Nodup)
    (huploads : (db.contactUploads.map ContactUploadRow.id).Nodup) : db.Separate where
  scheduleCampaign := fun row hrow _ hcampaign hid =>
    (h.schedules row hrow).campaign.unique hcampaigns hcampaign hid
  scheduleGroup := fun row hrow group hgroup hid =>
    ((h.schedules row hrow).contactGroup group.id hid).unique hgroups hgroup rfl
  scheduleUpload := fun row hrow upload hupload hid =>
    ((h.schedules row hrow).contactUpload upload.id hid).unique huploads hupload rfl
  jobCampaign := fun job hjob _ hcampaign hid => (h.jobs job hjob).unique hcampaigns hcampaign hid

/-- The listing of a tenant has its campaigns, each with a job of its own. -/
theorem Tables.Separate.listCampaigns {db : Tables} (h : db.Separate) {tie : CampaignRow → Nat} {tieJob : JobRow → Nat}
    {tenantId : TenantId} {listing : CampaignListing} (hlisting : listing ∈ listCampaigns db tie tieJob tenantId) :
    listing.campaign.tenantId = tenantId ∧ ∀ job ∈ listing.latestJob, job.tenantId = tenantId := by
  obtain ⟨campaign, hcampaign, rfl⟩ := List.mem_map.1 hlisting
  obtain ⟨hmem, htenant⟩ := List.mem_filter.1 (Queries.mem_newestFirst.1 hcampaign)
  have htenant : campaign.tenantId = tenantId := of_decide_eq_true htenant
  refine ⟨htenant, fun job hjob => ?_⟩
  obtain ⟨hjobMem, hid⟩ := List.mem_filter.1 (Queries.mem_newestFirst.1 (List.mem_of_mem_head? hjob))
  have hid : job.campaignId = campaign.id := of_decide_eq_true hid
  rw [← h.jobCampaign job hjobMem campaign hmem hid.symm]
  exact htenant

theorem owned_of_runs {cron : Cron} {db : Tables} {ids : Sequences} (hdb : db.Numbered ids) (howned : db.Owned)
    {s : System} (h : Runs (System.step cron) NamesOwn (System.initial db ids) s) :
    s.db.Owned ∧ Opened s ∧ s.db.contactGroups = db.contactGroups ∧ s.db.contactUploads = db.contactUploads := by
  refine h.invariant_of
    (Q := fun s => Reaches (System.step cron) (System.initial db ids) s)
    (P := fun s => s.db.Owned ∧ Opened s ∧ s.db.contactGroups = db.contactGroups ∧
      s.db.contactUploads = db.contactUploads)
    (fun _ hrun => hrun.reaches) ⟨howned, ?_, rfl, rfl⟩ ?_
  · intro session inserted hsession
    cases hsession
  · intro s a t hs _ ⟨hdbs, hopened, hgroups, huploads⟩ hown hstep
    have hstepped := System.step_cases hstep
    obtain ⟨hgroups', huploads'⟩ := hstepped.contacts
    exact ⟨hdbs.step (consistent_of_reaches hdb hs) hopened (prepared_of_reaches hs) hstep,
      hopened.step hstepped hown, hgroups'.trans hgroups, huploads'.trans huploads⟩

theorem separate_of_runs {cron : Cron} {db : Tables} {ids : Sequences} (hdb : db.Numbered ids) (howned : db.Owned)
    (hgroups : (db.contactGroups.map ContactGroupRow.id).Nodup)
    (huploads : (db.contactUploads.map ContactUploadRow.id).Nodup) {s : System}
    (h : Runs (System.step cron) NamesOwn (System.initial db ids) s) : s.db.Separate := by
  obtain ⟨hdbs, -, hgroups', huploads'⟩ := owned_of_runs hdb howned h
  refine hdbs.separate (consistent_of_reaches hdb h.reaches).campaigns.nodup ?_ ?_
  · rw [hgroups']
    exact hgroups
  · rw [huploads']
    exact huploads

/-- A request that is accepted although it names another tenant's campaign mixes the tenants when it commits. -/
theorem namesOwn_of_separate {cron : Cron} {s t : System} {session : Nat} {now clientNow : Instant}
    {tenantId : TenantId} {dto : ScheduleCampaignDto}
    (h : s.step cron (.schedule session now clientNow tenantId dto) = some t) (hopen : (t.sessions session).isSome)
    (hcommit : ∀ u, t.step cron (.commit session) = some u → u.db.Separate) :
    NamesOwn s (.schedule session now clientNow tenantId dto) := by
  intro id hid campaign hcampaign hcampaignId
  unfold System.step at h
  dsimp only at h
  split at h
  · cases h
  · rename_i hfree
    split at h
    · cases h
      exact absurd hopen hfree
    · rename_i inserted hok
      cases h
      have hscheduled := scheduleCampaign_ok hok
      have hcommitted := @System.step_commit cron
        { s.set session (.scheduling inserted) with ids := s.ids.after inserted } session (.scheduling inserted)
        (Function.update_self ..)
      have hseparate := hcommit _ hcommitted
      rcases hscheduled.campaign with ⟨row, -, -, -, -, hnone⟩ | ⟨id', hid', -, hschedule, -⟩
      · rw [hnone] at hid
        cases hid
      · -- the schedule that the commit inserts is on the campaign of the request
        rw [hid'] at hid
        cases hid
        rw [← hscheduled.scheduleTenantId]
        exact hseparate.scheduleCampaign inserted.schedule (List.mem_append_right _ (List.mem_singleton_self _)) campaign
          (List.mem_append_left _ hcampaign) (hcampaignId.trans hschedule.symm)

/-- In every run whose requests name campaigns of their own tenants, rows that refer to each other are of one tenant, and
a listing shows only campaigns and jobs of its tenant; and it is exactly the accepted requests outside of that which mix
the tenants when they commit. -/
theorem tenants_separate (cron : Cron) {db : Tables} {ids : Sequences} (hdb : db.Numbered ids) (howned : db.Owned)
    (hgroups : (db.contactGroups.map ContactGroupRow.id).Nodup)
    (huploads : (db.contactUploads.map ContactUploadRow.id).Nodup) {s : System}
    (h : Runs (System.step cron) NamesOwn (System.initial db ids) s) :
    s.db.Separate ∧
    (∀ tie tieJob tenantId, ∀ listing ∈ listCampaigns s.db tie tieJob tenantId,
      listing.campaign.tenantId = tenantId ∧ ∀ job ∈ listing.latestJob, job.tenantId = tenantId) ∧
    ∀ session now clientNow tenantId dto t, s.step cron (.schedule session now clientNow tenantId dto) = some t →
      (t.sessions session).isSome → (NamesOwn s (.schedule session now clientNow tenantId dto) ↔
        ∀ u, t.step cron (.commit session) = some u → u.db.Separate) := by
  have hseparate := separate_of_runs hdb howned hgroups huploads h
  refine ⟨hseparate, fun tie tieJob tenantId listing hlisting => hseparate.listCampaigns hlisting, ?_⟩
  intro session now clientNow tenantId dto t hschedule hopen
  constructor
  · intro hown u hcommit
    have hopened := Runs.tail (.schedule session now clientNow tenantId dto) h hown hschedule
    exact separate_of_runs hdb howned hgroups huploads (.tail (.commit session) hopened trivial hcommit)
  · exact namesOwn_of_separate hschedule hopen

namespace Sample

/-- The same tables with a group of another tenant. -/
def shared : Tables :=
  { tables (some "* * * * *") with
    contactGroups := [⟨1, SmsPlatform.Sample.tenant⟩, ⟨2, SmsPlatform.Sample.neighbour⟩] }

theorem shared_numbered : shared.Numbered ids :=
  ⟨(numbered none).schedules, (numbered (some "* * * * *")).schedulesBelow, (numbered none).campaigns,
    (numbered none).campaignsBelow⟩

theorem shared_owned : shared.Owned where
  schedules := by
    intro row hrow
    rw [List.mem_singleton.1 hrow]
    refine ⟨⟨campaign, List.mem_singleton_self _, rfl, rfl⟩, fun id hid => ?_, fun id hid => ?_⟩
    · cases hid
      exact ⟨_, List.mem_cons_self .., rfl, rfl⟩
    · cases hid
  jobs := by
    intro job hjob
    cases hjob

/-- A request for the group of the other tenant. -/
def request (campaignId : Option ℕ+) : ScheduleCampaignDto where
  campaignId := campaignId
  startAt := 60000
  templateRef := "promo-template@1"
  senderId := "MYAPP"
  contactGroupId := some 2

end Sample

/-- A tenant with a campaign of its own, beside a round of the first tenant's schedule. -/
theorem tenants_separate_neighbours : ∃ s, Reaches (System.step Sample.everyMinute)
    (System.initial Sample.shared Sample.ids) s ∧ s.db.jobs.length = 2 ∧ s.db.Separate := by
  have h : (execute (guarded (System.step Sample.everyMinute) fun s a => decide (NamesOwn s a))
      (System.initial Sample.shared Sample.ids)
      ([.schedule 1 31000 31000 SmsPlatform.Sample.neighbour (Sample.request none), .commit 1] ++
        Sample.round 0 60500)).any (fun s => decide (s.db.jobs.length = 2)) = true := by
    decide +kernel
  obtain ⟨s, hs, hjobs⟩ := (Option.any_eq_true _ _).1 h
  have hrun : Runs (System.step Sample.everyMinute) NamesOwn (System.initial Sample.shared Sample.ids) s :=
    (runs_of_execute hs).mono fun _ _ hok => of_decide_eq_true hok
  obtain ⟨hseparate, -⟩ := tenants_separate Sample.everyMinute Sample.shared_numbered Sample.shared_owned
    (by decide) (by decide) hrun
  exact ⟨s, hrun.reaches, of_decide_eq_true hjobs, hseparate⟩

/-- The listing of a tenant shows the job that another one has put on its campaign. -/
theorem foreign_job_listed : ∃ s, Reaches (System.step Sample.everyMinute)
      (System.initial Sample.shared Sample.ids) s ∧
    ∃ listing ∈ listCampaigns s.db CampaignRow.id JobRow.id SmsPlatform.Sample.tenant,
      ∃ job ∈ listing.latestJob, job.tenantId = SmsPlatform.Sample.neighbour := by
  have h : (execute (System.step Sample.everyMinute) (System.initial Sample.shared Sample.ids)
      [.schedule 1 31000 31000 SmsPlatform.Sample.neighbour (Sample.request (some 1)), .commit 1]).any
      (fun (s : System) => decide (∃ listing ∈ listCampaigns s.db CampaignRow.id JobRow.id SmsPlatform.Sample.tenant,
          ∃ job ∈ listing.latestJob, job.tenantId = SmsPlatform.Sample.neighbour)) = true := by
    decide +kernel
  obtain ⟨s, hs, hlisted⟩ := (Option.any_eq_true _ _).1 h
  exact ⟨s, reaches_of_execute hs, of_decide_eq_true hlisted⟩

end SmsPlatform.Campaigns
