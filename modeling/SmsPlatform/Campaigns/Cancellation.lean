import SmsPlatform.Campaigns.Materialization

/-!
# After a cancellation

A committed `cancelCampaign` leaves the campaign without active schedules, and nothing inserts a job for it, as long as
no step brings an active schedule back (`Final`, `cancelled_final`).  Neither the resume of a schedule nor
`scheduleCampaign` looks at the status of the campaign, so both do (`resumed_after_cancel`).
-/

namespace SmsPlatform.Campaigns

open Transition

/-- The campaign that a transaction cancels when it commits. -/
def Session.cancels : Session → Option Nat
  | .deactivating _ _ campaignId [] _ => some campaignId
  | _ => none

def Tables.Cancelled (db : Tables) (campaignId : Nat) : Prop :=
  ∃ campaign ∈ db.campaigns, campaign.id = campaignId ∧ campaign.status = .cancelled

instance (db : Tables) (campaignId : Nat) : Decidable (db.Cancelled campaignId) :=
  inferInstanceAs (Decidable (∃ campaign ∈ db.campaigns, campaign.id = campaignId ∧ campaign.status = .cancelled))

/-- No schedule of the campaign is active. -/
def Tables.Idle (db : Tables) (campaignId : Nat) : Prop :=
  ∀ row ∈ db.schedules, row.campaignId = campaignId → row.isActive = false

def Tables.jobsOf (db : Tables) (campaignId : Nat) : List JobRow :=
  db.jobs.filter fun job => decide (job.campaignId = campaignId)

/-- What a commit may do: no new schedule for a cancelled campaign, and a cancellation that has found all its active
schedules. -/
def Session.Final (db : Tables) (campaignId : Nat) : Session → Prop
  | .scheduling inserted => inserted.schedule.campaignId = campaignId → ¬ db.Cancelled campaignId
  | .deactivating _ _ cancelled _ updated => cancelled = campaignId →
    ∀ row ∈ db.schedules, row.campaignId = campaignId → row.isActive = true → row.id ∈ updated
  | _ => True

instance (db : Tables) (campaignId : Nat) : DecidablePred (Session.Final db campaignId)
  | .scheduling inserted =>
    inferInstanceAs (Decidable (inserted.schedule.campaignId = campaignId → ¬ db.Cancelled campaignId))
  | .deactivating _ _ cancelled _ updated => inferInstanceAs (Decidable (cancelled = campaignId →
    ∀ row ∈ db.schedules, row.campaignId = campaignId → row.isActive = true → row.id ∈ updated))
  | .selecting _ _ => isTrue trivial
  | .materializing _ _ _ => isTrue trivial
  | .cancelling _ _ _ => isTrue trivial

/-- The steps under which a cancellation is final: such commits, and no resume of a schedule of a cancelled campaign. -/
def Final (campaignId : Nat) (s : System) : Action → Prop
  | .setScheduleActive tenantId scheduleId isActive => isActive = true →
    ∀ row ∈ s.db.findSchedule tenantId scheduleId, row.campaignId = campaignId → ¬ s.db.Cancelled campaignId
  | .commit session => ∀ state ∈ s.sessions session, state.Final s.db campaignId
  | _ => True

instance (campaignId : Nat) (s : System) : DecidablePred (Final campaignId s)
  | .setScheduleActive tenantId scheduleId isActive => inferInstanceAs (Decidable (isActive = true →
    ∀ row ∈ s.db.findSchedule tenantId scheduleId, row.campaignId = campaignId → ¬ s.db.Cancelled campaignId))
  | .commit session => inferInstanceAs (Decidable (∀ state ∈ s.sessions session, state.Final s.db campaignId))
  | .schedule _ _ _ _ _ | .materialize _ _ | .lockDue _ _ | .select _ | .materializeNext _ _ | .cancel _ _ _ _
  | .findSchedules _ | .deactivate _ | .abort _ => isTrue trivial

/-! ### The campaign of an open cancellation -/

def Session.target : Session → Option (TenantId × Nat)
  | .cancelling _ tenantId campaignId => some (tenantId, campaignId)
  | .deactivating _ tenantId campaignId _ _ => some (tenantId, campaignId)
  | _ => none

theorem Session.target_of_cancels {state : Session} {campaignId : Nat} (h : state.cancels = some campaignId) :
    ∃ now tenantId updated, state = .deactivating now tenantId campaignId [] updated := by
  cases state with
  | deactivating now tenantId id pending updated =>
    cases pending with
    | nil =>
      cases h
      exact ⟨now, tenantId, updated, rfl⟩
    | cons _ _ => cases h
  | _ => cases h

section Target

variable {cron : Cron} {s t : System} {a : Action} {session : Nat} {tenantId : TenantId} {campaignId : Nat}

/-- A transaction goes on cancelling what it has found at its start. -/
theorem Stepped.target_origin (h : Stepped cron s a t)
    (htarget : (t.sessions session).bind Session.target = some (tenantId, campaignId)) :
    (s.sessions session).bind Session.target = some (tenantId, campaignId) ∨
      ∃ campaign ∈ s.db.campaigns, campaign.id = campaignId ∧ campaign.tenantId = tenantId := by
  obtain ⟨state, hsession, hstate⟩ := Option.bind_eq_some_iff.1 htarget
  -- only the step's own transaction can have a new target
  have hupdate : ∀ session' (new : Option Session), t.sessions = Function.update s.sessions session' new →
      (new.bind Session.target = some (tenantId, campaignId) → session = session' →
        (s.sessions session).bind Session.target = some (tenantId, campaignId) ∨
          ∃ campaign ∈ s.db.campaigns, campaign.id = campaignId ∧ campaign.tenantId = tenantId) →
      (s.sessions session).bind Session.target = some (tenantId, campaignId) ∨
        ∃ campaign ∈ s.db.campaigns, campaign.id = campaignId ∧ campaign.tenantId = tenantId := by
    intro session' new heq hself
    rw [heq] at hsession
    rcases RowLocks.of_update hsession with ⟨hsame, hnew⟩ | ⟨-, hold⟩
    · exact hself (Option.bind_eq_some_iff.2 ⟨state, hnew, hstate⟩) hsame
    · exact .inl (Option.bind_eq_some_iff.2 ⟨state, hold, hstate⟩)
  cases h with
  | refused a ha => exact .inl htarget
  | activated hrow hfree => exact .inl htarget
  | @cancelling session' now campaign hfree hcampaign hlock =>
    refine hupdate session' _ rfl fun hself _ => .inr ⟨campaign, hcampaign, ?_⟩
    cases hself
    exact ⟨rfl, rfl⟩
  | @found session' now tenantId' campaignId' hfrom =>
    refine hupdate session' _ rfl fun hself hsame => .inl ?_
    rw [hsame, hfrom]
    exact hself
  | @deactivated session' now tenantId' campaignId' id pending updated hfrom hlock =>
    refine hupdate session' _ rfl fun hself hsame => .inl ?_
    rw [hsame, hfrom]
    exact hself
  | _ => exact hupdate _ _ rfl fun hself _ => by cases hself

/-- The campaign of an open cancellation is in the table. -/
theorem target_of_reaches {db : Tables} {ids : Sequences} (h : Reaches (System.step cron) (System.initial db ids) s)
    (htarget : (s.sessions session).bind Session.target = some (tenantId, campaignId)) :
    ∃ campaign ∈ s.db.campaigns, campaign.id = campaignId ∧ campaign.tenantId = tenantId := by
  revert htarget
  refine h.invariant (P := fun s => (s.sessions session).bind Session.target = some (tenantId, campaignId) →
    ∃ campaign ∈ s.db.campaigns, campaign.id = campaignId ∧ campaign.tenantId = tenantId) ?_ ?_
  · intro hnone
    cases hnone
  · intro s a t ih _ hstep htarget
    have hstepped := System.step_cases hstep
    have hbefore : ∃ campaign ∈ s.db.campaigns, campaign.id = campaignId ∧ campaign.tenantId = tenantId := by
      rcases hstepped.target_origin htarget with hold | hnew
      · exact ih hold
      · exact hnew
    obtain ⟨campaign, hcampaign, hid, htenant⟩ := hbefore
    obtain ⟨campaign', hcampaign', hid', htenant', -⟩ := hstepped.campaign_later hcampaign
    exact ⟨campaign', hcampaign', hid'.trans hid, htenant'.trans htenant⟩

end Target

/-! ### One step -/

section Step

variable {cron : Cron} {s t : System} {a : Action} {campaignId : Nat}

theorem Tables.findSchedule_some {db : Tables} {tenantId : TenantId} {scheduleId : Nat} {row : ScheduleRow}
    (h : db.findSchedule tenantId scheduleId = some row) :
    row ∈ db.schedules ∧ row.tenantId = tenantId ∧ row.id = scheduleId := by
  refine ⟨List.mem_of_find?_eq_some h, ?_⟩
  simpa using List.find?_some h

theorem Consistent.findSchedule (hs : Consistent cron s) {row : ScheduleRow} (hrow : row ∈ s.db.schedules) :
    s.db.findSchedule row.tenantId row.id = some row := by
  have hfound : (s.db.findSchedule row.tenantId row.id).isSome = true := by
    unfold Tables.findSchedule
    rw [List.find?_isSome]
    exact ⟨row, hrow, decide_eq_true ⟨rfl, rfl⟩⟩
  obtain ⟨found, hsome⟩ := Option.isSome_iff_exists.1 hfound
  obtain ⟨hmem, -, hid⟩ := Tables.findSchedule_some hsome
  rw [hsome, hs.unique hmem hrow hid]

/-- An idle campaign has no round: its schedule would have been active. -/
theorem Consistent.no_round (hs : Consistent cron s) (hidle : s.db.Idle campaignId) {session : Nat} {now : Instant}
    {done : List Materialized} (hsession : s.sessions session = some (.materializing now [] done)) {m : Materialized}
    (hm : m ∈ done) : m.schedule.campaignId ≠ campaignId := by
  intro hcampaign
  obtain ⟨hheld, -⟩ := hs.round_held hsession hm
  have hactive := hheld.active
  rw [hidle _ hheld.stored hcampaign] at hactive
  cases hactive

theorem Stepped.cancelled_later (h : Stepped cron s a t) (hclosed : s.db.Cancelled campaignId) :
    t.db.Cancelled campaignId := by
  obtain ⟨campaign, hcampaign, hid, hstatus⟩ := hclosed
  obtain ⟨campaign', hcampaign', hid', -, hlater⟩ := h.campaign_later hcampaign
  exact ⟨campaign', hcampaign', hid'.trans hid, hlater hstatus⟩

/-- An idle campaign that is cancelled stays idle. -/
theorem Stepped.idle_of_final (h : Stepped cron s a t) (hs : Consistent cron s) (hclosed : s.db.Cancelled campaignId)
    (hidle : s.db.Idle campaignId) (hfinal : Final campaignId s a) : t.db.Idle campaignId := by
  intro row hrow hcampaign
  cases hs.schedule_origin h hrow with
  | kept hold => exact hidle row hold hcampaign
  -- the two writers of an active schedule are those that `Final` restricts
  | inserted hsession => exact absurd hclosed (hfinal _ hsession hcampaign)
  | round hsession hm => exact absurd hcampaign (hs.no_round hidle hsession hm)
  | cancelled hsession old hold hupdated => rfl
  | activated old hold isActive =>
    cases isActive with
    | false => rfl
    | true => exact absurd hclosed (hfinal rfl old (hs.findSchedule hold) hcampaign)

/-- Nothing is inserted for an idle campaign that is cancelled. -/
theorem Stepped.jobsOf_of_final (h : Stepped cron s a t) (hs : Consistent cron s)
    (hprepared : ∀ session inserted, s.sessions session = some (.scheduling inserted) → Prepared s.db inserted)
    (hclosed : s.db.Cancelled campaignId) (hidle : s.db.Idle campaignId) (hfinal : Final campaignId s a) :
    t.db.jobsOf campaignId = s.db.jobsOf campaignId := by
  have happend : ∀ jobs : List JobRow, (∀ job ∈ jobs, job.campaignId ≠ campaignId) →
      (s.db.jobs ++ jobs).filter (fun job => decide (job.campaignId = campaignId)) = s.db.jobsOf campaignId := by
    intro jobs hjobs
    have hnone : jobs.filter (fun job => decide (job.campaignId = campaignId)) = [] :=
      List.filter_eq_nil_iff.2 fun job hjob hsame => hjobs job hjob (of_decide_eq_true hsame)
    rw [List.filter_append, hnone, List.append_nil]
    rfl
  cases h with
  | @scheduled session inserted hsession =>
    refine happend [inserted.job] fun job hjob hsame => ?_
    rw [List.mem_singleton.1 hjob, (hprepared session inserted hsession).jobCampaignId] at hsame
    exact hfinal _ hsession hsame hclosed
  | @rounds session now done hsession =>
    refine happend (done.map Materialized.job) fun job hjob hsame => ?_
    obtain ⟨m, hm, rfl⟩ := List.mem_map.1 hjob
    obtain ⟨-, -, hof⟩ := hs.round_held hsession hm
    exact hs.no_round hidle hsession hm (hof.campaignId.symm.trans hsame)
  | _ => rfl

/-- The commit of a cancellation. -/
theorem committed_of_cancels {session : Nat} (hcancels : (s.sessions session).bind Session.cancels = some campaignId)
    (h : s.step cron (.commit session) = some t) : ∃ now tenantId updated,
      s.sessions session = some (.deactivating now tenantId campaignId [] updated) ∧
        t.db = s.db.writeCancelled now tenantId campaignId updated := by
  obtain ⟨state, hsession, hstate⟩ := Option.bind_eq_some_iff.1 hcancels
  obtain ⟨now, tenantId, updated, rfl⟩ := Session.target_of_cancels hstate
  refine ⟨now, tenantId, updated, hsession, ?_⟩
  rw [System.step_commit hsession] at h
  cases h
  rfl

theorem idle_of_cancels {session : Nat} (hcancels : (s.sessions session).bind Session.cancels = some campaignId)
    (h : s.step cron (.commit session) = some t) (hfinal : Final campaignId s (.commit session)) :
    t.db.Idle campaignId := by
  obtain ⟨now, tenantId, updated, hsession, hdb⟩ := committed_of_cancels hcancels h
  intro row hrow hcampaign
  rw [hdb] at hrow
  obtain ⟨old, hold, ⟨-, rfl⟩ | ⟨hother, rfl⟩⟩ := Rows.mem_update.1 hrow
  · rfl
  · -- a schedule that the UPDATE has not found was not active
    by_contra hactive
    rw [Bool.not_eq_false] at hactive
    have hfound : row.id ∈ updated := hfinal _ hsession rfl row hold hcampaign hactive
    rw [decide_eq_true hfound] at hother
    cases hother

/-- A step outside the condition leaves an active schedule of the campaign behind. -/
theorem final_of_idle
    (hprepared : ∀ session inserted, s.sessions session = some (.scheduling inserted) → Prepared s.db inserted)
    (h : s.step cron a = some t) (hidle : t.db.Idle campaignId) : Final campaignId s a := by
  cases a with
  | setScheduleActive tenantId scheduleId isActive =>
    intro hresume row hfound hcampaign
    unfold System.step at h
    dsimp only at h
    rw [hfound] at h
    dsimp only at h
    split at h
    · cases h
      obtain ⟨hmem, hkey⟩ := Tables.findSchedule_some hfound
      have hidle := hidle { row with isActive := isActive }
        (Rows.mem_update.2 ⟨row, hmem, .inl ⟨decide_eq_true hkey, rfl⟩⟩) hcampaign
      rw [hresume] at hidle
      cases hidle
    · cases h
  | commit session =>
    intro state hsession
    have hsession : s.sessions session = some state := hsession
    rw [System.step_commit hsession] at h
    cases state with
    | scheduling inserted =>
      intro hcampaign
      cases h
      have hidle := hidle inserted.schedule (List.mem_append_right _ (List.mem_singleton_self _)) hcampaign
      rw [(hprepared session inserted hsession).isActive] at hidle
      cases hidle
    | deactivating now tenantId cancelled pending updated =>
      intro hsame row hrow hcampaign hactive
      cases pending with
      | nil =>
        cases h
        -- a schedule that is not found stays as it is
        by_contra hmissed
        have hkept : row ∈ (s.db.writeCancelled now tenantId cancelled updated).schedules :=
          Rows.mem_update.2 ⟨row, hrow, .inr ⟨decide_eq_false hmissed, rfl⟩⟩
        rw [hidle row hkept hcampaign] at hactive
        cases hactive
      | cons id pending => cases h
    | _ => trivial
  | _ => trivial

end Step

/-! ### Whole runs -/

/-- Once a transaction has cancelled a campaign, its jobs stay what they are, over every run of further transactions that
keep to `Final`; and it is exactly the steps outside of `Final` that leave an active schedule of the campaign behind. -/
theorem cancelled_final (cron : Cron) {db : Tables} {ids : Sequences} (hdb : db.Numbered ids) {s t u : System}
    (hrun : Reaches (System.step cron) (System.initial db ids) s) {session campaignId : Nat}
    (hcancels : (s.sessions session).bind Session.cancels = some campaignId)
    (hcommit : s.step cron (.commit session) = some t) (hfinal : Final campaignId s (.commit session))
    (hlater : Runs (System.step cron) (Final campaignId) t u) :
    u.db.jobsOf campaignId = t.db.jobsOf campaignId ∧
      ∀ a v, u.step cron a = some v → (Final campaignId u a ↔ v.db.Idle campaignId) := by
  have hreach : ∀ v, Runs (System.step cron) (Final campaignId) t v →
      Reaches (System.step cron) (System.initial db ids) v := fun v hv =>
    .trans (.tail _ hrun trivial hcommit) hv.reaches
  -- the first UPDATE has found the campaign, and nobody removes it
  have hcancelled : t.db.Cancelled campaignId := by
    obtain ⟨now, tenantId, updated, hsession, hdb'⟩ := committed_of_cancels hcancels hcommit
    have htarget : (s.sessions session).bind Session.target = some (tenantId, campaignId) := by
      rw [hsession]
      rfl
    obtain ⟨campaign, hcampaign, hid, htenant⟩ := target_of_reaches hrun htarget
    rw [hdb']
    exact ⟨_, Rows.mem_update.2 ⟨campaign, hcampaign, .inl ⟨decide_eq_true ⟨htenant, hid⟩, rfl⟩⟩, hid, rfl⟩
  have hkept : u.db.Cancelled campaignId ∧ u.db.Idle campaignId ∧ u.db.jobsOf campaignId = t.db.jobsOf campaignId := by
    refine hlater.invariant_of
      (P := fun v => v.db.Cancelled campaignId ∧ v.db.Idle campaignId ∧ v.db.jobsOf campaignId = t.db.jobsOf campaignId)
      hreach ⟨hcancelled, idle_of_cancels hcancels hcommit hfinal, rfl⟩ ?_
    intro v a w hv _ ⟨hclosed, hidle, hjobs⟩ hfinal hstep
    have hstepped := System.step_cases hstep
    have hs := consistent_of_reaches hdb hv
    refine ⟨hstepped.cancelled_later hclosed, hstepped.idle_of_final hs hclosed hidle hfinal, ?_⟩
    rw [hstepped.jobsOf_of_final hs (prepared_of_reaches hv) hclosed hidle hfinal]
    exact hjobs
  obtain ⟨hclosed, hidle, hjobs⟩ := hkept
  have hu := hreach u hlater
  refine ⟨hjobs, fun a v hstep => ⟨fun hstepFinal => ?_, fun hlaterIdle => ?_⟩⟩
  · exact (System.step_cases hstep).idle_of_final (consistent_of_reaches hdb hu) hclosed hidle hstepFinal
  · exact final_of_idle (prepared_of_reaches hu) hstep hlaterIdle

/-- The transaction that cancels the campaign with id 1, up to its COMMIT. -/
def Sample.cancellation : List Action :=
  [.cancel 0 30000 SmsPlatform.Sample.tenant 1, .findSchedules 0, .deactivate 0]

/-- A new campaign, from its request to a round of its schedule. -/
def Sample.another : List Action :=
  [.schedule 1 31000 31000 SmsPlatform.Sample.tenant
      { startAt := 60000, templateRef := "promo-template@1", senderId := "MYAPP", contactGroupId := some 1 },
    .commit 1, .setScheduleActive SmsPlatform.Sample.tenant 2 false, .setScheduleActive SmsPlatform.Sample.tenant 2 true,
    .materialize 0 120500, .lockDue 0 2, .select 0, .materializeNext 0 120500, .commit 0]

/-- After a cancellation another campaign runs, and the cancelled one keeps the one job that it had. -/
theorem cancelled_final_another : ∃ u, Reaches (System.step Sample.everyMinute)
      (System.initial (Sample.tables (some "* * * * *")) Sample.ids) u ∧
    (u.db.jobsOf 1).length = 1 ∧ u.db.jobs.length = 3 := by
  have h : (execute (System.step Sample.everyMinute)
      (System.initial (Sample.tables (some "* * * * *")) Sample.ids)
      (Sample.round 0 60500 ++ Sample.cancellation)).any (fun s =>
        decide ((s.sessions 0).bind Session.cancels = some 1 ∧ Final 1 s (.commit 0)) &&
        (s.step Sample.everyMinute (.commit 0)).any fun t => decide ((t.db.jobsOf 1).length = 1) &&
          (execute (guarded (System.step Sample.everyMinute) fun s a => decide (Final 1 s a)) t Sample.another).any
            fun u => decide (u.db.jobs.length = 3)) = true := by
    decide +kernel
  obtain ⟨s, hs, h⟩ := (Option.any_eq_true _ _).1 h
  obtain ⟨hcancel, h⟩ := (Bool.and_eq_true _ _).mp h
  obtain ⟨hcancels, hfinal⟩ := of_decide_eq_true hcancel
  obtain ⟨t, hcommit, h⟩ := (Option.any_eq_true _ _).1 h
  obtain ⟨hjobs, h⟩ := (Bool.and_eq_true _ _).mp h
  obtain ⟨u, hu, hlength⟩ := (Option.any_eq_true _ _).1 h
  have hlater : Runs (System.step Sample.everyMinute) (Final 1) t u :=
    (runs_of_execute hu).mono fun _ _ hok => of_decide_eq_true hok
  have hrun := reaches_of_execute hs
  obtain ⟨hkept, -⟩ := cancelled_final Sample.everyMinute (Sample.numbered _) hrun hcancels hcommit hfinal hlater
  refine ⟨u, .trans (.tail _ hrun trivial hcommit) hlater.reaches, ?_, of_decide_eq_true hlength⟩
  rw [hkept]
  exact of_decide_eq_true hjobs

/-- A schedule that is resumed after the cancellation of its campaign is due again. -/
theorem resumed_after_cancel : ∃ s t u, Reaches (System.step Sample.everyMinute)
      (System.initial (Sample.tables none) Sample.ids) s ∧
    (s.sessions 0).bind Session.cancels = some 1 ∧ s.step Sample.everyMinute (.commit 0) = some t ∧
      Reaches (System.step Sample.everyMinute) t u ∧ t.db.jobsOf 1 = [] ∧ (u.db.jobsOf 1).length = 1 := by
  have h : (execute (System.step Sample.everyMinute) (System.initial (Sample.tables none) Sample.ids)
      Sample.cancellation).any (fun s => decide ((s.sessions 0).bind Session.cancels = some 1) &&
        (s.step Sample.everyMinute (.commit 0)).any fun t => decide (t.db.jobsOf 1 = []) &&
          (execute (System.step Sample.everyMinute) t
            (.setScheduleActive SmsPlatform.Sample.tenant 1 true :: Sample.round 0 60500)).any
              fun u => decide ((u.db.jobsOf 1).length = 1)) = true := by
    decide +kernel
  obtain ⟨s, hs, h⟩ := (Option.any_eq_true _ _).1 h
  obtain ⟨hcancels, h⟩ := (Bool.and_eq_true _ _).mp h
  obtain ⟨t, hcommit, h⟩ := (Option.any_eq_true _ _).1 h
  obtain ⟨hnone, h⟩ := (Bool.and_eq_true _ _).mp h
  obtain ⟨u, hu, hlength⟩ := (Option.any_eq_true _ _).1 h
  exact ⟨s, t, u, reaches_of_execute hs, of_decide_eq_true hcancels, hcommit, reaches_of_execute hu,
    of_decide_eq_true hnone, of_decide_eq_true hlength⟩

end SmsPlatform.Campaigns
