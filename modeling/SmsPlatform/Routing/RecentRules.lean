import SmsPlatform.Lib.SharedCache
import SmsPlatform.Routing.RuleCache

/-!
# Routes along recent rules

`getRules` and `upsertRoutingRule` of `routing.service.ts` again, now called by any number of processes, each of which may
stand between its query and its SET while others write rules and delete keys.  `selectRoute` may so go along a rule that
has been withdrawn, but only for the minute that Redis keeps a list of rules, and the time from a query to its SET
(`route_recent`).
-/

namespace SmsPlatform

open Transition ReadThrough

namespace Routing

/-- What the database may answer to `getRules`. -/
def answers (table : RoutingTable) (key : TenantId × TrafficType) (rows : List RoutingRuleRow) : Prop :=
  Answer table.rules key.1 key.2 rows

instance (table : RoutingTable) (key : TenantId × TrafficType) (rows : List RoutingRuleRow) :
    Decidable (answers table key rows) :=
  decidable_of_iff (rows.Perm (table.rules.filterMap (seenBy key.1 key.2)) ∧ rows.Pairwise fun a b =>
      a.priority < b.priority ∨ (a.priority = b.priority ∧ a.failoverOrder ≤ b.failoverOrder))
    ⟨fun h => ⟨h.1, h.2⟩, fun h => ⟨h.same, h.ordered⟩⟩

/-- The processes over PostgreSQL and Redis.  `upsertRoutingRule` is a `write` of `writeRule` and then a `drop`; other
writes are those of operators. -/
abbrev RuleCaches := Shared RoutingTable (TenantId × TrafficType) (List RoutingRuleRow) Nat

abbrev RuleAccess := Access RoutingTable (TenantId × TrafficType) (List RoutingRuleRow) Nat

abbrev RuleEvent := Event RoutingTable (TenantId × TrafficType) (List RoutingRuleRow)

/-- Every list is truthy. -/
def accepts (_ : List RoutingRuleRow) : Bool := true

def access (caches : RuleCaches) (call : RuleAccess) : Option RuleCaches := caches.step answers accepts 60000 call

def emptyCaches (table : RoutingTable) (time : Int) : RuleCaches where
  source := table
  cells := fun _ => none
  readers := fun _ => none
  time := time

/-- The table of `key` was this one at a time of the run between two times. -/
def TableAt (record : List RuleEvent) (first last : Int) (table : RoutingTable) : Prop :=
  ∃ now, .source now table ∈ record ∧ first ≤ now ∧ now ≤ last

/-- The route goes along a rule of the table that the tenant sees for the traffic type. -/
def Along (table : RoutingTable) (tenantId : TenantId) (trafficType : TrafficType) (found : ScoredRoute) : Prop :=
  ∃ rule ∈ table.rules, (rule.tenantId = some tenantId ∨ rule.tenantId = none) ∧ rule.trafficType = trafficType ∧
    rule.isActive = true ∧ found.routingRuleId = rule.id ∧ found.providerId = rule.providerId ∧
    found.smppConfigId = rule.smppConfigId

theorem seenBy_eq_some {tenantId : TenantId} {trafficType : TrafficType} {rule : StoredRoutingRule}
    {row : RoutingRuleRow} : seenBy tenantId trafficType rule = some row ↔
      (rule.tenantId = some tenantId ∨ rule.tenantId = none) ∧ rule.trafficType = trafficType ∧ rule.isActive = true ∧
        rule.toRoutingRuleRow = row := by
  unfold seenBy
  rw [Option.ite_none_right_eq_some, Option.some.injEq, and_assoc, and_assoc]

/-- A selection goes along one of the rules that it is given. -/
theorem along_of_selectRoute {sources : RouteSources} {tenantId phoneNumber : String} {tenant : TenantId}
    {trafficType : TrafficType} {options : RouteOptions} {table : RoutingTable} {rows : List RoutingRuleRow}
    (hanswer : Answer table.rules tenant trafficType rows) (hrows : sources.getRules tenantId trafficType = .ok rows)
    {found : ScoredRoute} (hfound : selectRoute sources tenantId phoneNumber trafficType options = .ok found) :
    Along table tenant trafficType found := by
  obtain ⟨row, hleast, rfl⟩ := (selectRoute_least hrows).1 hfound
  obtain ⟨rule, hrule, hseen⟩ := List.mem_filterMap.1 (hanswer.same.mem_iff.1 hleast.mem)
  obtain ⟨htenant, htype, hactive, rfl⟩ := seenBy_eq_some.1 hseen
  exact ⟨rule, hrule, htenant, htype, hactive, rfl, rfl, rfl⟩

/-- A selection over rules that `getRules` has returned goes along a rule that was in the table, active and visible to the
tenant for the traffic type, at one moment of the last 60 seconds and the delay between a query and its SET. -/
theorem route_recent {table : RoutingTable} {time delay : Int} {after : Recorded RuleCaches RuleEvent}
    (hrun : Runs (recorded access (events accepts)) (fun caches call => Prompt delay caches.state call)
      ⟨emptyCaches table time, []⟩ after) {tenantId : TenantId} {trafficType : TrafficType} {rows : List RoutingRuleRow}
    {now : Int} (hrows : .answer (tenantId, trafficType) rows now ∈ after.record) :
    ∃ tableThen, TableAt after.record (now - 60000 - delay) now tableThen ∧
      ∀ sources phoneNumber options found, sources.getRules tenantId.text trafficType = .ok rows →
        selectRoute sources tenantId.text phoneNumber trafficType options = .ok found →
        Along tableThen tenantId trafficType found := by
  obtain ⟨queriedAt, tableThen, hevent, hfirst, hlast, hanswer⟩ :=
    answers_right (by decide) hrun rfl (fun reader state hreader => by cases hreader) hrows
  refine ⟨tableThen, ⟨queriedAt, hevent, hfirst, hlast⟩, ?_⟩
  intro sources phoneNumber options found hsources hfound
  exact along_of_selectRoute hanswer hsources hfound

/-! ### Withdrawn rules -/

/-- No rule with the id is active. -/
def Withdrawn (id : Int) (table : RoutingTable) : Prop := ∀ rule ∈ table.rules, (rule.id : Int) = id → rule.isActive = false

theorem withdrawn_writeRule {dto : UpsertRoutingRuleDto} {tenantId : TenantId} {id : Int} {table : RoutingTable}
    (hid : id ≠ 0) (hinactive : dto.isActive = some false) :
    Withdrawn id (writeRule dto tenantId (some id) table) := by
  have hgiven : (some id).filter (· ≠ 0) = some id := by simp [hid]
  have hrules : (writeRule dto tenantId (some id) table).rules =
      Rows.update (names id) (fun rule => ruleOf dto tenantId rule.id) table.rules := by
    unfold writeRule
    rw [hgiven]
  intro rule hrule hnamed
  rw [hrules] at hrule
  obtain ⟨old, -, ⟨-, rfl⟩ | ⟨hother, rfl⟩⟩ := Rows.mem_update.1 hrule
  · show dto.isActive.getD true = false
    rw [hinactive]
    rfl
  · exact absurd hnamed (of_decide_eq_false hother)

theorem Along.ne_of_withdrawn {table : RoutingTable} {tenantId : TenantId} {trafficType : TrafficType} {found : ScoredRoute}
    (h : Along table tenantId trafficType found) {id : Int} (hwithdrawn : Withdrawn id table) :
    (found.routingRuleId : Int) ≠ id := by
  obtain ⟨rule, hrule, -, -, hactive, hid, -⟩ := h
  intro heq
  rw [hid] at heq
  rw [hwithdrawn rule hrule heq] at hactive
  cases hactive

/-- The tables that are written have the rule withdrawn. -/
def KeepsWithdrawn (id : Int) (call : RuleAccess) : Prop := ∀ table, call.move = .write table → Withdrawn id table

/-- The key that `upsertRoutingRule` deletes. -/
def writtenKey (tenantId : TenantId) (dto : UpsertRoutingRuleDto) : TenantId × TrafficType :=
  (tenantId, dto.trafficType.getD .transactional)

/-- After the UPDATE and the DEL of an `upsertRoutingRule` that deactivates a rule, no selection over rules that `getRules`
returns for the tenant and the traffic type of the request goes along it as long as it stays withdrawn, if no call of
`getRules` stands between its query and its SET when the DEL comes. -/
theorem withdrawn_unused {dto : UpsertRoutingRuleDto} {tenantId : TenantId} {id : Int}
    (hid : id ≠ 0) (hinactive : dto.isActive = some false) {caches written between deleted : RuleCaches}
    {writtenAt deletedAt : Int}
    (hwrite : access caches ⟨writtenAt, .write (writeRule dto tenantId (some id) caches.source)⟩ = some written)
    (hbetween : Runs access (fun _ call => KeepsWithdrawn id call) written between)
    (hdelete : access between ⟨deletedAt, .drop (writtenKey tenantId dto)⟩ = some deleted)
    (hidle : ∀ reader state, between.readers reader = some state → state.key = writtenKey tenantId dto →
      state.queried = none)
    {after : Recorded RuleCaches RuleEvent}
    (hrun : Runs (recorded access (events accepts)) (fun _ call => KeepsWithdrawn id call) ⟨deleted, []⟩ after)
    {rows : List RoutingRuleRow} {now : Int} (hrows : .answer (writtenKey tenantId dto) rows now ∈ after.record)
    (sources : RouteSources) (phoneNumber : String) (options : RouteOptions) {found : ScoredRoute}
    (hsources : sources.getRules tenantId.text (dto.trafficType.getD .transactional) = .ok rows)
    (hfound : selectRoute sources tenantId.text phoneNumber (dto.trafficType.getD .transactional) options = .ok found) :
    (found.routingRuleId : Int) ≠ id := by
  have hwritten : Withdrawn id written.source := by
    obtain ⟨-, hsome⟩ := Option.ite_none_right_eq_some.1 hwrite
    obtain rfl := Option.some.inj hsome
    exact withdrawn_writeRule hid hinactive
  have hkept : Withdrawn id between.source :=
    hbetween.invariant hwritten fun _ _ _ h hkeeps hstep => source_of_step h hkeeps hstep
  obtain ⟨-, hsome⟩ := Option.ite_none_right_eq_some.1 hdelete
  obtain rfl := Option.some.inj hsome
  have hcell : Function.update between.cells (writtenKey tenantId dto) none (writtenKey tenantId dto) = none :=
    Function.update_self ..
  obtain ⟨table, htable, hanswer⟩ := answers_settled (by decide) hrun hkept hcell hidle hrows
  have halong : Along table tenantId (dto.trafficType.getD .transactional) found := along_of_selectRoute hanswer hsources hfound
  exact halong.ne_of_withdrawn htable

end Routing

/-! ### Runs of a small table -/

namespace Sample

open Routing

/-- The tenant's rules for one-time passwords: along SMPP, and along HTTP. -/
def twoRoutes : RoutingTable := ⟨[otpRule, { otpRule with toRoutingRuleRow := httpRule }], 3⟩

/-- The rule along SMPP is deactivated. -/
def withdrawal : UpsertRoutingRuleDto := { reweighed .otp with isActive := some false }

def withdrawnRoutes : RoutingTable := writeRule withdrawal tenant (some 1) twoRoutes

/-- Redis still has both rules when the first is withdrawn. -/
def keptRules : List RuleAccess :=
  [⟨1, .ask 0 (tenant, .otp)⟩, ⟨2, .query 0 [smppRule, httpRule]⟩, ⟨3, .keep 0⟩, ⟨10, .write withdrawnRoutes⟩,
    ⟨20, .ask 1 (tenant, .otp)⟩]

/-- After the DEL. -/
def reread : List RuleAccess :=
  [⟨21, .ask 0 (tenant, .otp)⟩, ⟨22, .query 0 [httpRule]⟩, ⟨23, .keep 0⟩, ⟨30, .ask 1 (tenant, .otp)⟩]

theorem reread_keeps : ∀ call ∈ reread, KeepsWithdrawn 1 call := by
  intro call hcall table hwrite
  simp only [reread, List.mem_cons, List.not_mem_nil, or_false] at hcall
  rcases hcall with rfl | rfl | rfl | rfl <;> cases hwrite

/-- The rules that `getRules` has returned to the tenant for one-time passwords, and when. -/
def returnedRules (record : List RuleEvent) : List (List RoutingRuleRow × Int) :=
  record.filterMap fun event =>
    match event with
    | .answer key rows now => if key = (tenant, .otp) then some (rows, now) else none
    | .source _ _ => none

theorem mem_of_returnedRules {record : List RuleEvent} {rows : List RoutingRuleRow} {now : Int}
    (h : (rows, now) ∈ returnedRules record) : .answer (tenant, .otp) rows now ∈ record := by
  obtain ⟨event, hevent, hsome⟩ := List.mem_filterMap.1 h
  split at hsome
  · split at hsome
    · rename_i hkey
      obtain ⟨rfl, rfl⟩ := Prod.mk.inj (Option.some.inj hsome)
      rw [← hkey]
      exact hevent
    · cases hsome
  · cases hsome

def sourcesWith (rows : List RoutingRuleRow) : RouteSources := { routeSources with getRules := fun _ _ => .ok rows }

def beforeDelete : RuleCaches := { emptyCaches twoRoutes 10 with source := withdrawnRoutes }

def afterDelete : RuleCaches :=
  { beforeDelete with cells := Function.update beforeDelete.cells (writtenKey tenant withdrawal) none, time := 20 }

end Sample

namespace Routing

open SmsPlatform.Sample

/-- At 20 the rule that was withdrawn at 10 is still among the rules. -/
theorem route_recent_kept : ∃ after,
    Runs (recorded access (events accepts)) (fun caches call => Prompt 1 caches.state call) ⟨emptyCaches twoRoutes 0, []⟩
        after ∧ returnedRules after.record = [([smppRule, httpRule], 3), ([smppRule, httpRule], 20)] ∧
      ∃ tableThen, TableAt after.record (20 - 60000 - 1) 20 tableThen ∧
        ∀ sources phoneNumber options found, sources.getRules tenant.text .otp = .ok [smppRule, httpRule] →
          selectRoute sources tenant.text phoneNumber .otp options = .ok found → Along tableThen tenant .otp found := by
  have h : (execute (guarded (recorded access (events accepts)) fun caches call => decide (Prompt 1 caches.state call))
      ⟨emptyCaches twoRoutes 0, []⟩ keptRules).any (fun after => decide (returnedRules after.record =
        [([smppRule, httpRule], 3), ([smppRule, httpRule], 20)])) = true := by
    decide +kernel
  obtain ⟨after, hrun, hreturned⟩ := (Option.any_eq_true _ _).1 h
  have hruns := (runs_of_execute hrun).mono fun _ _ hok => of_decide_eq_true hok
  refine ⟨after, hruns, of_decide_eq_true hreturned, ?_⟩
  have hrows : ([smppRule, httpRule], 20) ∈ returnedRules after.record := by
    rw [of_decide_eq_true hreturned]
    simp
  exact route_recent hruns (mem_of_returnedRules hrows)

/-- After the DEL one-time passwords go along HTTP. -/
theorem withdrawn_unused_reread : ∃ after found,
    Runs (recorded access (events accepts)) (fun _ call => KeepsWithdrawn 1 call) ⟨afterDelete, []⟩ after ∧
      returnedRules after.record = [([httpRule], 23), ([httpRule], 30)] ∧
      selectRoute (sourcesWith [httpRule]) tenant.text "+251911234567" .otp {} = .ok found ∧
      (found.routingRuleId : Int) ≠ 1 := by
  have h : (execute (guarded (recorded access (events accepts)) fun _ _ => true) ⟨afterDelete, []⟩ reread).any
      (fun after => decide (returnedRules after.record = [([httpRule], 23), ([httpRule], 30)])) = true := by
    decide +kernel
  obtain ⟨after, hrun, hreturned⟩ := (Option.any_eq_true _ _).1 h
  have hruns : Runs (recorded access (events accepts)) (fun _ call => KeepsWithdrawn 1 call) ⟨afterDelete, []⟩ after :=
    (runs_of_execute_all reread_keeps hrun).mono fun _ _ hok => hok.2
  have hfirst : Ranking.FirstLeast (Usable (sourcesWith [httpRule]) {}) (score (sourcesWith [httpRule]) .otp {}) [httpRule]
      httpRule := ⟨[], [], rfl, by decide, by simp, by simp⟩
  obtain ⟨found, hfound⟩ : ∃ found,
      selectRoute (sourcesWith [httpRule]) tenant.text "+251911234567" .otp {} = .ok found :=
    ⟨_, (selectRoute_least rfl).2 ⟨httpRule, hfirst, rfl⟩⟩
  refine ⟨after, found, hruns, of_decide_eq_true hreturned, hfound, ?_⟩
  have hrows : ([httpRule], 30) ∈ returnedRules after.record := by
    rw [of_decide_eq_true hreturned]
    simp
  have hwrite : access (emptyCaches twoRoutes 5) ⟨10, .write (writeRule withdrawal tenant (some 1) twoRoutes)⟩ =
    some beforeDelete := rfl
  have hdelete : access beforeDelete ⟨20, .drop (writtenKey tenant withdrawal)⟩ = some afterDelete := rfl
  exact withdrawn_unused (by decide) rfl hwrite .refl hdelete (fun reader state hreader => by cases hreader) hruns
    (mem_of_returnedRules hrows) (sourcesWith [httpRule]) "+251911234567" {} rfl hfound

end Routing

end SmsPlatform
