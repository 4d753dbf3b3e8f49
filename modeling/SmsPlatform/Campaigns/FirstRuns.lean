import SmsPlatform.Campaigns.Sessions

/-!
# The first run of a recurring campaign

`scheduleCampaign` asks cron-parser for the occurrence after `startAt` less one second, which is to take in an
occurrence at `startAt` itself.  It takes in those of that second, too.
-/

namespace SmsPlatform.Campaigns

open StateExcept

variable {cron : Cron} {expression timezone : String} {startAt time : Instant}

/-- The occurrence that is not earlier than a time. -/
def Cron.IsFirst (cron : Cron) (expression timezone : String) (startAt first : Instant) : Prop :=
  IsLeast {t | cron.occurs expression timezone t ∧ startAt ≤ t} first

/-- No occurrence lies in the second before a time. -/
def Cron.QuietBefore (cron : Cron) (expression timezone : String) (startAt : Instant) : Prop :=
  ∀ t, cron.occurs expression timezone t → startAt - 1000 < t → startAt ≤ t

/-- The occurrence after the shifted reference is the first one if the second before it is quiet, and else is earlier
than it. -/
theorem Cron.IsNext.isFirst_iff (h : cron.IsNext expression timezone (startAt - 1000) time) :
    cron.IsFirst expression timezone startAt time ↔ cron.QuietBefore expression timezone startAt := by
  obtain ⟨⟨hoccurs, hafter⟩, hleast⟩ := h
  constructor
  · rintro ⟨⟨-, hstart⟩, -⟩ t ht hafter'
    have hle : time ≤ t := hleast ⟨ht, hafter'⟩
    exact hstart.trans hle
  · intro hquiet
    refine ⟨⟨hoccurs, hquiet time hoccurs hafter⟩, ?_⟩
    rintro t ⟨ht, hstart⟩
    apply hleast
    refine ⟨ht, ?_⟩
    unfold Instant at *
    omega

/-- Occurrences on whole seconds leave the second before a whole second quiet. -/
theorem Cron.quietBefore_of_whole (hoccurs : ∀ t, cron.occurs expression timezone t → t % 1000 = 0)
    (hstart : startAt % 1000 = 0) : cron.QuietBefore expression timezone startAt := by
  intro t ht hafter
  have hwhole := hoccurs t ht
  unfold Instant at *
  omega

theorem computeNextRunAt_included {recurrenceCron : Option String}
    (h : computeNextRunAt cron recurrenceCron timezone startAt true = .ok time)
    (hrecurring : recurring recurrenceCron = some expression) :
    cron.IsNext expression timezone (startAt - 1000) time := by
  unfold computeNextRunAt at h
  rw [hrecurring] at h
  exact parseCronExpression_ok h

section Schedule

variable {db : Tables} {ids : Sequences} {now clientNow : Instant} {tenantId : TenantId} {dto : ScheduleCampaignDto}
  {scheduling : Scheduling}

theorem scheduleCampaign_nextRunAt (h : scheduleCampaign cron db ids now clientNow tenantId dto = .ok scheduling) :
    computeNextRunAt cron dto.recurrenceCron ((db.timezones tenantId).getD "UTC") dto.startAt true =
      .ok scheduling.schedule.nextRunAt := by
  obtain ⟨_, -, h⟩ := except_bind_eq_ok.1 h
  obtain ⟨firstRunAt, hfirst, h⟩ := except_bind_eq_ok.1 h
  obtain ⟨_, -, h⟩ := except_bind_eq_ok.1 h
  obtain ⟨_, -, h⟩ := except_bind_eq_ok.1 h
  cases h
  exact hfirst

/-- The run that `scheduleCampaign` stores for a recurring campaign is the first occurrence from `startAt` on if and
only if no occurrence lies in the second before `startAt`. -/
theorem scheduleCampaign_isFirst_iff
    (h : scheduleCampaign cron db ids now clientNow tenantId dto = .ok scheduling)
    (hrecurring : recurring dto.recurrenceCron = some expression) :
    cron.IsFirst expression ((db.timezones tenantId).getD "UTC") dto.startAt scheduling.schedule.nextRunAt ↔
      cron.QuietBefore expression ((db.timezones tenantId).getD "UTC") dto.startAt := by
  have hnext := computeNextRunAt_included (scheduleCampaign_nextRunAt h) hrecurring
  exact hnext.isFirst_iff

end Schedule

namespace Sample

/-- A campaign for every minute, from a time on. -/
def everyMinuteFrom (startAt : Instant) : ScheduleCampaignDto where
  startAt := startAt
  recurrenceCron := some "* * * * *"
  templateRef := "promo-template@1"
  senderId := "MYAPP"
  contactGroupId := some ⟨1, Nat.one_pos⟩

/-- From half a second past eight on, the first run is that of eight o'clock. -/
theorem firstRun_before_startAt : ∃ scheduling, scheduleCampaign everyMinute (tables none) ids 0 0
      SmsPlatform.Sample.tenant (everyMinuteFrom 1775203200500) = .ok scheduling ∧
    scheduling.schedule.nextRunAt = 1775203200000 ∧
    ¬ everyMinute.IsFirst "* * * * *" "UTC" 1775203200500 scheduling.schedule.nextRunAt := by
  refine ⟨_, rfl, by decide, ?_⟩
  rintro ⟨⟨-, hstart⟩, -⟩
  exact absurd hstart (by decide)

/-- From eight o'clock on, the first run is that of eight o'clock. -/
theorem firstRun_at_startAt : ∃ scheduling, scheduleCampaign everyMinute (tables none) ids 0 0
      SmsPlatform.Sample.tenant (everyMinuteFrom 1775203200000) = .ok scheduling ∧
    everyMinute.IsFirst "* * * * *" "UTC" 1775203200000 scheduling.schedule.nextRunAt := by
  have hok : scheduleCampaign everyMinute (tables none) ids 0 0 SmsPlatform.Sample.tenant
    (everyMinuteFrom 1775203200000) = .ok _ := rfl
  refine ⟨_, hok, (scheduleCampaign_isFirst_iff hok rfl).2 ?_⟩
  apply Cron.quietBefore_of_whole
  · rintro t ⟨-, hminute⟩
    unfold Instant at *
    omega
  · decide

end Sample

end SmsPlatform.Campaigns
