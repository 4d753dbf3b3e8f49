import SmsPlatform.Pipeline.Platform

/-!
# Whole routes

A message stores its route in three columns.  Submission and acceptance write all three from one route; a retry writes
them one by one with `??`, so a next route without an SMPP config leaves the config of the old one.  As long as no retry
drops a config that way, the three columns are those of one selected route (`RoutesWhole.rows`).  A submit takes its
provider from the event and its SMPP config from the row, so it also needs the event to be in step with the row.
-/

namespace SmsPlatform

open StateExcept Transition

/-! ### The steps that mix routes -/

/-- The row stores exactly this route. -/
structure MessageRow.Follows (row : MessageRow) (route : RouteDecision) : Prop where
  providerId : row.providerId = some route.providerId
  smppConfigId : row.smppConfigId = route.smppConfigId
  routeRuleId : row.routeRuleId = some route.routingRuleId

instance (row : MessageRow) (route : RouteDecision) : Decidable (row.Follows route) :=
  decidable_of_iff (row.providerId = some route.providerId ∧ row.smppConfigId = route.smppConfigId ∧
    row.routeRuleId = some route.routingRuleId) ⟨fun ⟨h₁, h₂, h₃⟩ => ⟨h₁, h₂, h₃⟩, fun ⟨h₁, h₂, h₃⟩ => ⟨h₁, h₂, h₃⟩⟩

/-- A retry moves a message that has an SMPP config to a route without one. -/
def Stage.dropsConfig (env : Environment) (db : Db) (stage : Stage) : Bool :=
  match stage with
  | .result job => (stage.selects env db).any fun selection =>
      job.message.smppConfigId.isSome && selection.route.smppConfigId.isNone
  | _ => false

/-- An SMPP submit goes by an event that names another provider than the row. -/
def Stage.mixesProvider (env : Environment) (db : Db) (stage : Stage) : Bool :=
  match stage with
  | .provider job _ => (stage.submitsVia env db).any fun via =>
      via.2.isSome && (db.findMessage job.payload.toComposite).any fun row =>
        decide (row.providerId ≠ job.payload.providerId)
  | _ => false

def World.keepsRoutes (world : World) (a : PlatformAction) : Bool :=
  match a.action with
  | some (.advance index env) =>
    (world.executions[index]?).all fun execution =>
      !execution.stage.dropsConfig env world.db && !execution.stage.mixesProvider env world.db
  | _ => true

theorem World.keepsRoutes_advance {world : World} {a : PlatformAction} {index : Nat} {env : Environment}
    {execution : Execution} (h : world.keepsRoutes a = true) (ha : a.action = some (.advance index env))
    (hexec : world.executions[index]? = some execution) :
    execution.stage.dropsConfig env world.db = false ∧ execution.stage.mixesProvider env world.db = false := by
  unfold World.keepsRoutes at h
  rw [ha] at h
  dsimp only at h
  rw [hexec, Option.all_some, Bool.and_eq_true, Bool.not_eq_true', Bool.not_eq_true'] at h
  exact h

/-! ### What the record shows -/

/-- `selectRoute` has returned the route for the message. -/
def Decided (record : List RouteEntry) (ref : MessageCompositeId) (route : RouteDecision) : Prop :=
  ∃ senderName approved, .selected ref senderName route approved ∈ record

theorem Decided.mono {record entries : List RouteEntry} {ref : MessageCompositeId} {route : RouteDecision}
    (h : Decided record ref route) : Decided (record ++ entries) ref route := by
  obtain ⟨senderName, approved, hmem⟩ := h
  exact ⟨senderName, approved, List.mem_append_left _ hmem⟩

theorem Selection.decided {senderIds : List SenderIdRow} {selection : Selection} {record entries : List RouteEntry}
    (h : selection.entry senderIds ∈ entries) :
    Decided (record ++ entries) selection.message.composite selection.route :=
  ⟨_, _, List.mem_append_right _ h⟩

section Sees

variable {world world' : World} {a : PlatformAction}

theorem World.sees_submit {clock : TxClock} {submission : Submission} (ha : a.action = some (.submit clock submission))
    (hrow : submission.row clock world.db.nextMessageId ∈ world'.db.messages) :
    Selection.entry a.senderIds ⟨submission.row clock world.db.nextMessageId, submission.senderId,
      submission.routePreview⟩ ∈ world.sees a world' := by
  unfold World.sees
  rw [ha]
  dsimp only
  rw [if_pos hrow]
  exact List.mem_singleton_self _

theorem World.sees_advance {index : Nat} {env : Environment} {execution : Execution} {selection : Selection}
    (ha : a.action = some (.advance index env)) (hexec : world.executions[index]? = some execution)
    (h : execution.stage.selects env world.db = some selection) :
    selection.entry a.senderIds ∈ world.sees a world' := by
  unfold World.sees Stage.sees
  rw [ha]
  dsimp only
  rw [hexec]
  dsimp only
  rw [h]
  exact List.mem_append_left _ (List.mem_singleton_self _)

/-- A submit in the record of a step is the submit of the execution that the step advances. -/
theorem World.submitted_mem_sees {ref : MessageCompositeId} {senderName : String} {providerId : Nat}
    {smppConfigId : Option Nat} (h : .submitted ref senderName providerId smppConfigId ∈ world.sees a world') :
    ∃ index env execution payload, a.action = some (.advance index env) ∧ world.executions[index]? = some execution ∧
      execution.stage.event = some payload ∧
      execution.stage.submitsVia env world.db = some (providerId, smppConfigId) ∧ ref = payload.toComposite ∧
      senderName = payload.senderId := by
  unfold World.sees at h
  split at h
  · dsimp only at h
    split at h
    · cases List.mem_singleton.1 h
    · cases h
  · rename_i index env haction
    split at h
    · rename_i execution hexec
      unfold Stage.sees at h
      rcases List.mem_append.1 h with h | h
      · rw [Option.mem_toList, Option.map_eq_some_iff] at h
        obtain ⟨selection, -, hentry⟩ := h
        cases hentry
      · split at h
        · rename_i payload providerId' smppConfigId' hevent hvia
          cases List.mem_singleton.1 h
          exact ⟨index, env, execution, payload, haction, hexec, hevent, hvia, rfl, rfl⟩
        · cases h
    · cases h
  · cases h

end Sees

/-- The plan of an SMPP submit has found the row and its config. -/
theorem Stage.submitsVia_smpp {env : Environment} {db : Db} {stage : Stage} {providerId smppConfigId : Nat}
    (h : stage.submitsVia env db = some (providerId, some smppConfigId)) :
    ∃ job submittingVersion row, stage = .provider job submittingVersion ∧ job.payload.providerId = some providerId ∧
      db.findMessage job.payload.toComposite = some row ∧ row.smppConfigId = some smppConfigId := by
  unfold Stage.submitsVia at h
  split at h
  · rename_i job submittingVersion
    split at h
    · obtain ⟨provider, -, hvia⟩ := Option.map_eq_some_iff.1 h
      cases hvia
    · obtain ⟨provider, hprovider, hvia⟩ := Option.map_eq_some_iff.1 h
      obtain ⟨rfl, hconfig⟩ := Prod.mk.inj hvia
      obtain ⟨row, hrow, hconfig⟩ := Option.bind_eq_some_iff.1 hconfig
      exact ⟨job, submittingVersion, row, rfl, hprovider, hrow, hconfig⟩
    · cases h
  · cases h

/-! ### One write -/

section Columns

variable (clock : TxClock) (next : MessageStatus) (inc : Bool) (row : MessageRow) {fields : MessageFields}

/-- An UPDATE without the three columns of the route keeps them. -/
theorem patchedRow_route (hprovider : fields.providerId = none) (hconfig : fields.smppConfigId = none)
    (hrule : fields.routeRuleId = none) : (patchedRow clock fields row).providerId = row.providerId ∧
      (patchedRow clock fields row).smppConfigId = row.smppConfigId ∧
      (patchedRow clock fields row).routeRuleId = row.routeRuleId := by
  unfold patchedRow MessageFields.assign
  rw [hprovider, hconfig, hrule]
  exact ⟨rfl, rfl, rfl⟩

theorem transitionedRow_route (hprovider : fields.providerId = none) (hconfig : fields.smppConfigId = none)
    (hrule : fields.routeRuleId = none) : (transitionedRow clock next fields inc row).providerId = row.providerId ∧
      (transitionedRow clock next fields inc row).smppConfigId = row.smppConfigId ∧
      (transitionedRow clock next fields inc row).routeRuleId = row.routeRuleId := by
  unfold transitionedRow MessageFields.assign
  rw [hprovider, hconfig, hrule]
  exact ⟨rfl, rfl, rfl⟩

end Columns

/-- A guarded write keeps the columns of the route, or stores the route it has selected; of a route without SMPP config
a retry may store the other two columns only. -/
theorem Stage.WorkOf.routed {env : Environment} {db : Db} {stage : Stage} {work : GuardedWork}
    {next : MessageRow → Option Stage} (hw : Stage.WorkOf env stage work next) (hm : work.message ∈ db.messages) :
    ((work.assign work.message).providerId = work.message.providerId ∧
      (work.assign work.message).smppConfigId = work.message.smppConfigId ∧
      (work.assign work.message).routeRuleId = work.message.routeRuleId) ∨
    ∃ selection, stage.selects env db = some selection ∧ selection.message = work.message ∧
      (work.assign work.message).providerId = some selection.route.providerId ∧
      (work.assign work.message).routeRuleId = some selection.route.routingRuleId ∧
      (stage.dropsConfig env db = false → (work.assign work.message).smppConfigId = selection.route.smppConfigId) := by
  cases hw with
  | accepted job next hnext =>
    have hm : job.message ∈ db.messages := hm
    right
    refine ⟨⟨job.message, job.payload.senderId, next⟩, ?_, rfl, rfl, rfl, fun _ => rfl⟩
    unfold Stage.selects
    dsimp only
    rw [if_pos hm, hnext]
    rfl
  | retrySubmit job retryPolicy nextRoute hpolicy hretry hroute haccepted huncertain =>
    have hm : job.message ∈ db.messages := hm
    cases hnext : nextRoute with
    | none => exact .inl ⟨rfl, rfl, rfl⟩
    | some next =>
      right
      have hselects : (Stage.result job).selects env db = some ⟨job.message, job.payload.senderId, next⟩ := by
        unfold Stage.selects
        dsimp only
        rw [if_pos ⟨hm, haccepted, huncertain, by rw [hpolicy]; exact hretry⟩, ← hroute, hnext]
        rfl
      refine ⟨_, hselects, rfl, rfl, rfl, fun hkeeps => ?_⟩
      show next.smppConfigId.or job.message.smppConfigId = next.smppConfigId
      cases hsmpp : next.smppConfigId with
      | some smppConfigId => rfl
      | none =>
        unfold Stage.dropsConfig at hkeeps
        dsimp only at hkeeps
        rw [hselects] at hkeeps
        simpa [hsmpp] using hkeeps
  | attempt job =>
    left
    change (attemptRow env.clock job.message job.message).providerId = job.message.providerId ∧
      (attemptRow env.clock job.message job.message).smppConfigId = job.message.smppConfigId ∧
      (attemptRow env.clock job.message job.message).routeRuleId = job.message.routeRuleId
    unfold attemptRow
    split
    · exact transitionedRow_route _ _ _ _ rfl rfl rfl
    · exact patchedRow_route _ _ rfl rfl rfl
  | throttle job haction => exact .inl (patchedRow_route _ _ rfl rfl rfl)
  | ack job haccepted => exact .inl (transitionedRow_route _ _ _ _ rfl rfl rfl)
  | unknown job => exact .inl (patchedRow_route _ _ rfl rfl rfl)
  | failure job => exact .inl (transitionedRow_route _ _ _ _ rfl rfl rfl)
  | delivered report message hstatus => exact .inl (transitionedRow_route _ _ _ _ rfl rfl rfl)
  | dlrFailed report message hstatus => exact .inl (transitionedRow_route _ _ _ _ rfl rfl rfl)

/-- A guarded write of a step that drops no config keeps the row on its route or moves it to the selected one. -/
theorem Stage.WorkOf.follows {env : Environment} {db : Db} {stage : Stage} {work : GuardedWork}
    {next : MessageRow → Option Stage} (hw : Stage.WorkOf env stage work next) (hm : work.message ∈ db.messages)
    (hkeeps : stage.dropsConfig env db = false) {route : RouteDecision} (h : work.message.Follows route) :
    (work.assign work.message).Follows route ∨
      ∃ selection, stage.selects env db = some selection ∧ selection.message = work.message ∧
        (work.assign work.message).Follows selection.route := by
  rcases hw.routed hm with ⟨hprovider, hconfig, hrule⟩ | ⟨selection, hselects, hmessage, hprovider, hrule, hconfig⟩
  · exact .inl ⟨hprovider.trans h.providerId, hconfig.trans h.smppConfigId, hrule.trans h.routeRuleId⟩
  · exact .inr ⟨selection, hselects, hmessage, ⟨hprovider, hconfig hkeeps, hrule⟩⟩

/-! ### Along a run -/

/-- An SMPP submit goes by the provider and the config of one route, selected before for the message. -/
def RouteEntry.ByOneRoute (entry : RouteEntry) (before : List RouteEntry) : Prop :=
  ∀ ref senderName providerId smppConfigId, entry = .submitted ref senderName providerId (some smppConfigId) →
    ∃ route, Decided before ref route ∧ route.providerId = providerId ∧ route.smppConfigId = some smppConfigId

/-- Every message stores one selected route, and every SMPP submit goes by one. -/
structure RoutesWhole (world : World) (record : List RouteEntry) : Prop where
  rows : ∀ row ∈ world.db.messages, ∃ route, Decided record row.composite route ∧ row.Follows route
  submits : Preceded RouteEntry.ByOneRoute record

/-- Where every route leads to its own provider's SMPP config, every SMPP submit goes to the config of its provider. -/
theorem RoutesWhole.owner_eq {world : World} {record : List RouteEntry} (whole : RoutesWhole world record)
    {owner : Nat → Nat} (howner : ∀ ref route smppConfigId, Decided record ref route →
      route.smppConfigId = some smppConfigId → owner smppConfigId = route.providerId)
    {ref : MessageCompositeId} {senderName : String} {providerId smppConfigId : Nat}
    (h : .submitted ref senderName providerId (some smppConfigId) ∈ record) : owner smppConfigId = providerId := by
  obtain ⟨before, after, hrecord⟩ := List.append_of_mem h
  obtain ⟨route, hdecided, hprovider, hconfig⟩ := whole.submits before _ after hrecord _ _ _ _ rfl
  rw [← hprovider]
  refine howner ref route smppConfigId ?_ hconfig
  rw [hrecord]
  exact hdecided.mono

section Step

variable {world world' : World} {a : PlatformAction} {record : List RouteEntry}

private theorem RoutesWhole.step_rows (hs : Snapshots world) (whole : RoutesWhole world record)
    (hkeeps : world.keepsRoutes a = true) (h : world.platformStep a = some world') :
    ∀ row ∈ world'.db.messages, ∃ route, Decided (record ++ world.sees a world') row.composite route ∧
      row.Follows route := by
  have hold : ∀ row ∈ world.db.messages, ∃ route, Decided (record ++ world.sees a world') row.composite route ∧
      row.Follows route := by
    intro row hrow
    obtain ⟨route, hdecided, hfollows⟩ := whole.rows row hrow
    exact ⟨route, hdecided.mono, hfollows⟩
  intro row hrow
  rcases World.platformStep_cases h with ⟨-, rfl⟩ | ⟨action, haction, hmove⟩
  · exact hold row hrow
  · cases hs.origin hmove hrow with
    | kept hkept => exact hold row hkept
    | created clock submission hnew =>
      rw [hnew] at hrow ⊢
      exact ⟨submission.routePreview, Selection.decided (World.sees_submit haction hrow), ⟨rfl, rfl, rfl⟩⟩
    | written hexec hw hm hwritten hfits =>
      rename_i index env execution work next
      obtain ⟨route, hdecided, hfollows⟩ := whole.rows work.message hm
      have hdrops := (World.keepsRoutes_advance hkeeps haction hexec).1
      have hcomposite : row.composite = work.message.composite := by
        rw [hwritten]
        exact MessageRow.composite_of_content (hw.rowStep rfl).content
      rw [hcomposite, hwritten]
      rcases hw.follows hm hdrops hfollows with hsame | ⟨selection, hselects, hmessage, hnew⟩
      · exact ⟨route, hdecided.mono, hsame⟩
      · rw [← hmessage]
        exact ⟨selection.route, Selection.decided (World.sees_advance haction hexec hselects), hmessage ▸ hnew⟩

private theorem RoutesWhole.step_submits (whole : RoutesWhole world record)
    (hkeeps : world.keepsRoutes a = true) : Preceded RouteEntry.ByOneRoute (record ++ world.sees a world') := by
  refine whole.submits.append ?_
  rintro entry hmem before ref senderName providerId smppConfigId rfl
  obtain ⟨index, env, execution, payload, haction, hexec, hevent, hvia, rfl, -⟩ := World.submitted_mem_sees hmem
  obtain ⟨job, submittingVersion, row, hstage, hprovider, hrow, hconfig⟩ := Stage.submitsVia_smpp hvia
  rw [hstage] at hevent
  cases hevent
  have hmixes := (World.keepsRoutes_advance hkeeps haction hexec).2
  have hsame : row.providerId = some providerId := by
    rw [hstage] at hmixes hvia
    unfold Stage.mixesProvider at hmixes
    dsimp only at hmixes
    rw [hvia, hrow, hprovider] at hmixes
    simpa using hmixes
  have hmessage : row ∈ world.db.messages := List.mem_of_find?_eq_some hrow
  have hcomposite : row.composite = job.payload.toComposite := by simpa using List.find?_some hrow
  obtain ⟨route, hdecided, hfollows⟩ := whole.rows row hmessage
  rw [hcomposite] at hdecided
  refine ⟨route, hdecided.mono, ?_, ?_⟩
  · exact Option.some.inj (hfollows.providerId.symm.trans hsame)
  · exact hfollows.smppConfigId.symm.trans hconfig

end Step

/-- In every run in which no retry drops an SMPP config and no SMPP submit goes by an event that names another provider
than the row, every message stores one route that `selectRoute` has returned for it, and every SMPP submit goes out
through the provider and the config of one such route. -/
theorem routes_whole {wallets : TenantId → Option WalletRow} {log : RouteLog}
    (h : Runs RouteLog.step (fun log a => log.state.keepsRoutes a = true) (RouteLog.initial wallets) log) :
    RoutesWhole log.state log.record := by
  have hsnapshots : ∀ u, Runs World.platformStep (fun world a => world.keepsRoutes a = true)
      (RouteLog.initial wallets).state u → Snapshots u := fun u hu => snapshots_of_reaches (reaches_of_platform hu)
  refine Runs.record_invariant (P := RoutesWhole) h hsnapshots ?_ ?_
  · constructor
    · intro row hrow
      cases hrow
    · exact .nil
  · intro world record a world' hs whole hkeeps hstep
    exact ⟨whole.step_rows hs hkeeps hstep, whole.step_submits hkeeps⟩

/-! ### Runs -/

/-- The entry is a selection for the message, of a route that satisfies `p`. -/
def RouteEntry.decides (ref : MessageCompositeId) (p : RouteDecision → Bool) : RouteEntry → Bool
  | .selected ref' _ route _ => decide (ref' = ref) && p route
  | .submitted _ _ _ _ => false

theorem Decided.not_of_any {record : List RouteEntry} {ref : MessageCompositeId} {p : RouteDecision → Bool}
    (h : record.any (RouteEntry.decides ref p) = false) {route : RouteDecision} (hd : Decided record ref route) :
    p route = false := by
  obtain ⟨senderName, approved, hmem⟩ := hd
  rw [List.any_eq_false] at h
  have hentry := h _ hmem
  simpa [RouteEntry.decides] using hentry

namespace Sample

/-- The services of one step: the route they select, and an SMPP config for every id. -/
def routing (route : RouteDecision) : Services :=
  { services .allow 3 refuses with
    selectRoute := fun _ _ _ _ => .ok route
    getSmppConfig := fun _ => .ok ⟨"host", 2775, "system", "secret", 1, 10⟩ }

def platform (request : PlatformRequest) : PlatformAction := ⟨⟨[], []⟩, senderIds, request⟩

def advance (time : Timestamp) (route : RouteDecision) : PlatformAction :=
  platform (.handle (.advance 0 (env time (routing route))))

def deliver (event : Nat) : PlatformAction := platform (.handle (.deliver event))

/-- A message routed over SMPP config 7 of provider 1, whose first attempt is refused and retried on `next`. -/
def rerouted (next : RouteDecision) : List PlatformAction :=
  [platform (.submit submissionServices context (dto "0911234567") (clock 1)),
    deliver 0, advance 2 ⟨1, 1, some 7, .smpp, 1⟩,
    deliver 1, advance 3 next, advance 4 next, advance 5 next, deliver 2, advance 6 next]

/-- The retried attempt goes out. -/
def retriedOn (next : RouteDecision) : List PlatformAction :=
  rerouted next ++ [deliver 3, advance 7 next, deliver 4, advance 8 next, advance 9 next]

/-- The dispatch event of the first attempt is delivered again. -/
def redispatched (next : RouteDecision) : List PlatformAction :=
  rerouted next ++ [deliver 1, advance 7 next, advance 8 next]

end Sample

/-- A retry on another provider's SMPP config stores its route whole. -/
theorem routes_whole_retried : ∃ log, execute (guarded RouteLog.step fun log a => log.state.keepsRoutes a)
      (RouteLog.initial (Sample.wallets 100)) (Sample.retriedOn ⟨2, 2, some 8, .smpp, 1⟩) = some log ∧
    RoutesWhole log.state log.record := by
  have h : (execute (guarded RouteLog.step fun log a => log.state.keepsRoutes a)
      (RouteLog.initial (Sample.wallets 100)) (Sample.retriedOn ⟨2, 2, some 8, .smpp, 1⟩)).isSome = true := by
    decide +kernel
  obtain ⟨log, hrun⟩ := Option.isSome_iff_exists.1 h
  exact ⟨log, hrun, routes_whole (runs_of_execute hrun)⟩

/-- A retry on a route without SMPP config leaves the config of the old route: the message stores no selected route,
and the next attempt goes out through SMPP config 7 of provider 1 in the name of provider 2. -/
theorem reroute_mixes_routes : ∃ log, Reaches RouteLog.step (RouteLog.initial (Sample.wallets 100)) log ∧
    (∃ row ∈ log.state.db.messages, ∀ route, Decided log.record row.composite route → ¬ row.Follows route) ∧
    ∃ ref senderName, .submitted ref senderName 2 (some 7) ∈ log.record ∧
      ∀ route, Decided log.record ref route → ¬ (route.providerId = 2 ∧ route.smppConfigId = some 7) := by
  have h : (execute RouteLog.step (RouteLog.initial (Sample.wallets 100))
      (Sample.retriedOn ⟨2, 2, none, .smpp, 1⟩)).any (fun log =>
        (log.state.db.messages.any fun row =>
          !log.record.any (RouteEntry.decides row.composite fun route => decide (row.Follows route))) &&
        decide (.submitted ⟨Sample.day, Sample.tenant, 1⟩ "ACME" 2 (some 7) ∈ log.record) &&
        !log.record.any (RouteEntry.decides ⟨Sample.day, Sample.tenant, 1⟩ fun route =>
          decide (route.providerId = 2 ∧ route.smppConfigId = some 7))) = true := by
    decide +kernel
  obtain ⟨log, hrun, hfacts⟩ := (Option.any_eq_true _ _).1 h
  simp only [Bool.and_eq_true, List.any_eq_true, Bool.not_eq_true', decide_eq_true_eq] at hfacts
  obtain ⟨⟨⟨row, hrow, hnone⟩, hsubmitted⟩, hsubmit⟩ := hfacts
  refine ⟨log, reaches_of_execute hrun, ⟨row, hrow, fun route hdecided => ?_⟩, _, _, hsubmitted,
    fun route hdecided => ?_⟩
  · exact of_decide_eq_false (hdecided.not_of_any hnone)
  · exact of_decide_eq_false (hdecided.not_of_any hsubmit)

/-- The old dispatch event, delivered again after a retry that stored its route whole, submits through the new SMPP
config in the name of the old provider. -/
theorem redelivery_mixes_routes : ∃ log, Reaches RouteLog.step (RouteLog.initial (Sample.wallets 100)) log ∧
    ∃ ref senderName, .submitted ref senderName 1 (some 8) ∈ log.record ∧
      ∀ route, Decided log.record ref route → ¬ (route.providerId = 1 ∧ route.smppConfigId = some 8) := by
  have h : (execute RouteLog.step (RouteLog.initial (Sample.wallets 100))
      (Sample.redispatched ⟨2, 2, some 8, .smpp, 1⟩)).any (fun log =>
        decide (.submitted ⟨Sample.day, Sample.tenant, 1⟩ "ACME" 1 (some 8) ∈ log.record) &&
        !log.record.any (RouteEntry.decides ⟨Sample.day, Sample.tenant, 1⟩ fun route =>
          decide (route.providerId = 1 ∧ route.smppConfigId = some 8))) = true := by
    decide +kernel
  obtain ⟨log, hrun, hfacts⟩ := (Option.any_eq_true _ _).1 h
  simp only [Bool.and_eq_true, Bool.not_eq_true', decide_eq_true_eq] at hfacts
  refine ⟨log, reaches_of_execute hrun, _, _, hfacts.1, fun route hdecided => ?_⟩
  exact of_decide_eq_false (hdecided.not_of_any hfacts.2)

end SmsPlatform
