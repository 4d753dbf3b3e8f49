import SmsPlatform.Fraud.Verdict
import SmsPlatform.Lib.SharedCache
import SmsPlatform.Messages.Preparation

/-!
# Fraud rules in force

`createRule`, `getRules` and `getTenantPriorityTier` of `fraud.service.ts`, called by any number of processes: what the two
readers have queried stays in Redis for 60 seconds, and `createRule` drops the rules of its tenant after its INSERT.  A
verdict is one over rules and a tier that the database has had within those 60 seconds, and the time that a reader takes
from its query to its SET (`verdict_recent`).  A rule of `createRule` is read and counts from its DEL on, unless a reader
was then between the two (`createRule_enforced`).
-/

namespace SmsPlatform

open Expiring Segments Transition ReadThrough

deriving instance DecidableEq for FraudRuleRow

/-! ### The tables and their caches -/

/-- A row of `fraud_rules`. -/
structure StoredFraudRule where
  id : Nat
  tenantId : Option TenantId
  rule : FraudRuleRow
  isActive : Bool
  deriving DecidableEq

/-- The rules, the next value of their identity column, and the tiers of the rows of `tenants`. -/
structure FraudTables where
  rules : List StoredFraudRule
  nextRuleId : Nat
  priorityTier : TenantId → Option Int

structure CreateFraudRuleDto where
  ruleType : String
  action : FraudAction
  values : Option (List String) := none
  isActive : Option Bool := none
  ruleType_mem : ruleType ∈ ["keyword_block", "prefix_block", "velocity_threshold"]

inductive FraudKey
  | rules (tenantId : TenantId)
  | tier (tenantId : TenantId)
  deriving DecidableEq

def FraudKey.text : FraudKey → String
  | .rules tenantId => joinColon ["fraud-rules", tenantId.text]
  | .tier tenantId => joinColon ["fraud-tenant-tier", tenantId.text]

/-- Redis has a key for each of them. -/
theorem FraudKey.text_injective : Function.Injective FraudKey.text := by
  intro key key' h
  cases key with
  | rules tenantId =>
    cases key' with
    | rules tenantId' =>
      obtain ⟨-, htenant⟩ := joinColon_cons_inj (by decide) (by decide) (by simp) (by simp) h
      rw [Segment.ext_text (show tenantId.text = tenantId'.text by simpa [joinColon] using htenant)]
    | tier tenantId' =>
      obtain ⟨hword, -⟩ := joinColon_cons_inj (by decide) (by decide) (by simp) (by simp) h
      exact absurd hword (by decide)
  | tier tenantId =>
    cases key' with
    | rules tenantId' =>
      obtain ⟨hword, -⟩ := joinColon_cons_inj (by decide) (by decide) (by simp) (by simp) h
      exact absurd hword (by decide)
    | tier tenantId' =>
      obtain ⟨-, htenant⟩ := joinColon_cons_inj (by decide) (by decide) (by simp) (by simp) h
      rw [Segment.ext_text (show tenantId.text = tenantId'.text by simpa [joinColon] using htenant)]

inductive FraudAnswer
  | rules (rows : List FraudRuleRow)
  | tier (tier : Int)
  deriving DecidableEq

/-- A policy with the rules and the tier that have been read. -/
def FraudPolicy.asRead (policy : FraudPolicy) (rules : List FraudRuleRow) (tenantPriorityTier : Int) : FraudPolicy :=
  { policy with rules := rules, tenantPriorityTier := tenantPriorityTier }

namespace FraudService

/-- The INSERT of `createRule`. -/
def insertRule (tenantId : TenantId) (dto : CreateFraudRuleDto) (tables : FraudTables) : FraudTables :=
  { tables with
    rules := tables.rules ++ [{
      id := tables.nextRuleId
      tenantId := some tenantId
      rule := ⟨dto.ruleType, dto.action, dto.values.getD []⟩
      isActive := dto.isActive.getD true }]
    nextRuleId := tables.nextRuleId + 1 }

/-- The query of `getRules`. -/
def queryRules (tables : FraudTables) (tenantId : TenantId) : List FraudRuleRow :=
  (tables.rules.filter fun stored =>
    decide ((stored.tenantId = some tenantId ∨ stored.tenantId = none) ∧ stored.isActive = true)).map StoredFraudRule.rule

/-- The query of `getTenantPriorityTier`. -/
def queryTier (tables : FraudTables) (tenantId : TenantId) : Int := (tables.priorityTier tenantId).getD 1

/-- What the database may answer; it delivers the rules in any order. -/
def answers (tables : FraudTables) : FraudKey → FraudAnswer → Prop
  | .rules tenantId, .rules rows => rows.Perm (queryRules tables tenantId)
  | .tier tenantId, .tier tier => tier = queryTier tables tenantId
  | _, _ => False

instance (tables : FraudTables) (key : FraudKey) (answer : FraudAnswer) : Decidable (answers tables key answer) := by
  cases key <;> cases answer <;> unfold answers <;> infer_instance

/-- `if (cached)`: a list is truthy, a tier unless it is 0. -/
def accepts : FraudAnswer → Bool
  | .rules _ => true
  | .tier tier => decide (tier ≠ 0)

/-- The processes over PostgreSQL and Redis.  `createRule` is a `write` of `insertRule` and then a `drop`; other writes are
those of operators. -/
abbrev FraudCaches := Shared FraudTables FraudKey FraudAnswer Nat

abbrev FraudAccess := Access FraudTables FraudKey FraudAnswer Nat

abbrev FraudEvent := Event FraudTables FraudKey FraudAnswer

def access (caches : FraudCaches) (call : FraudAccess) : Option FraudCaches := caches.step answers accepts 60000 call

def start (tables : FraudTables) (time : Int) : FraudCaches where
  source := tables
  cells := fun _ => none
  readers := fun _ => none
  time := time

/-- The rule is one of those that `getRules` asks for. -/
def InForce (tenantId : TenantId) (rule : FraudRuleRow) (tables : FraudTables) : Prop :=
  ∃ stored ∈ tables.rules, (stored.tenantId = some tenantId ∨ stored.tenantId = none) ∧ stored.isActive = true ∧
    stored.rule = rule

instance (tenantId : TenantId) (rule : FraudRuleRow) (tables : FraudTables) : Decidable (InForce tenantId rule tables) :=
  inferInstanceAs (Decidable (∃ stored ∈ tables.rules, (stored.tenantId = some tenantId ∨ stored.tenantId = none) ∧
    stored.isActive = true ∧ stored.rule = rule))

/-- The tables that are written have the rule in force. -/
def Keeps (tenantId : TenantId) (rule : FraudRuleRow) (call : FraudAccess) : Prop :=
  ∀ tables, call.move = .write tables → InForce tenantId rule tables

/-! ### Rules in verdicts -/

/-- The verdicts of two policies differ at most in the order of their reasons. -/
def SameVerdicts (policy policy' : FraudPolicy) : Prop :=
  ∀ clock counters input,
    (evaluate policy clock counters input).1.action = (evaluate policy' clock counters input).1.action ∧
      (evaluate policy clock counters input).1.reasons.Perm (evaluate policy' clock counters input).1.reasons ∧
      (evaluate policy clock counters input).2 = (evaluate policy' clock counters input).2

section Verdicts

/-- Rules in another order give the same action. -/
theorem evaluate_action_perm {policy : FraudPolicy} {clock : FraudClock} {counters : Counters}
    {input : FraudEvaluationInput} {rules : List FraudRuleRow} (h : policy.rules.Perm rules) :
    (evaluate policy clock counters input).1.action = (evaluate (policy.withRules rules) clock counters input).1.action := by
  refine le_antisymm (evaluate_withRules_le h.subset) ?_
  have hback : policy = (policy.withRules rules).withRules policy.rules := rfl
  conv_rhs => rw [hback]
  exact evaluate_withRules_le h.symm.subset

variable {tenantId : TenantId} {rule : FraudRuleRow} {tables : FraudTables} {rows : List FraudRuleRow}

theorem mem_of_answers (hforce : InForce tenantId rule tables) (h : answers tables (.rules tenantId) (.rules rows)) :
    rule ∈ rows := by
  obtain ⟨stored, hstored, htenant, hactive, rfl⟩ := hforce
  have hperm : rows.Perm (queryRules tables tenantId) := h
  rw [hperm.mem_iff]
  exact List.mem_map_of_mem (List.mem_filter.2 ⟨hstored, decide_eq_true ⟨htenant, hactive⟩⟩)

theorem inForce_insertRule {dto : CreateFraudRuleDto} (hactive : dto.isActive.getD true = true) :
    InForce tenantId ⟨dto.ruleType, dto.action, dto.values.getD []⟩ (insertRule tenantId dto tables) :=
  ⟨_, List.mem_append_right _ (List.mem_singleton_self _), .inl rfl, hactive, rfl⟩

/-- Whatever the counters and the tier are, a verdict over these rules is at least as severe as the rule if it fires, and
if that is to throttle or to block, the submission is refused. -/
def Enforces (rows : List FraudRuleRow) (rule : FraudRuleRow) : Prop :=
  ∀ policy clock counters input, Fires policy input rule →
    rule.action ≤ (evaluate (policy.withRules rows) clock counters input).1.action ∧
      ∀ services, services.evaluate input = (evaluate (policy.withRules rows) clock counters input).1 →
        .throttle ≤ rule.action → ∃ failure, MessagesService.enforceSubmission services input = .error failure

theorem enforceSubmission_refuses {services : SubmissionServices} {input : FraudEvaluationInput}
    (h : FraudAction.throttle ≤ (services.evaluate input).action) :
    ∃ failure, MessagesService.enforceSubmission services input = .error failure := by
  unfold MessagesService.enforceSubmission
  dsimp only
  cases haction : (services.evaluate input).action with
  | block => exact ⟨_, rfl⟩
  | throttle => exact ⟨_, rfl⟩
  | alert =>
    rw [haction] at h
    exact absurd h (by decide)
  | allow =>
    rw [haction] at h
    exact absurd h (by decide)

theorem enforces_of_mem (hmem : rule ∈ rows) : Enforces rows rule := by
  intro policy clock counters input hfires
  have hgreatest : IsGreatest {action | Contributes (policy.withRules rows) clock counters input action}
    (evaluate (policy.withRules rows) clock counters input).1.action := evaluate_isGreatest
  have hle := hgreatest.2 (Contributes.rule hmem hfires)
  refine ⟨hle, fun services hservices hsevere => enforceSubmission_refuses ?_⟩
  rw [hservices]
  exact hsevere.trans hle

end Verdicts

/-! ### Runs -/

/-- The tables were these at a time of the run between two times. -/
def WereAt (record : List FraudEvent) (first last : Int) (tables : FraudTables) : Prop :=
  ∃ now, .source now tables ∈ record ∧ first ≤ now ∧ now ≤ last

/-- A verdict over what the two readers have returned is the one over the rules and the tier that the database had at two
moments of the last 60 seconds, and the delay between a query and its SET. -/
theorem verdict_recent {tables : FraudTables} {time delay : Int} {after : Recorded FraudCaches FraudEvent}
    (hrun : Runs (recorded access (events accepts)) (fun caches call => Prompt delay caches.state call)
      ⟨start tables time, []⟩ after) {tenantId : TenantId} {rows : List FraudRuleRow} {rowsAt : Int}
    (hrows : .answer (.rules tenantId) (.rules rows) rowsAt ∈ after.record) {tier tierAt : Int}
    (htier : .answer (.tier tenantId) (.tier tier) tierAt ∈ after.record) :
    ∃ rulesThen tierThen, WereAt after.record (rowsAt - 60000 - delay) rowsAt rulesThen ∧
      WereAt after.record (tierAt - 60000 - delay) tierAt tierThen ∧ ∀ policy : FraudPolicy,
        SameVerdicts (policy.asRead rows tier)
          (policy.asRead (queryRules rulesThen tenantId) (queryTier tierThen tenantId)) := by
  have hidle : ∀ key reader state, (start tables time).readers reader = some state → state.key = key →
      state.queried = none := by
    intro key reader state hreader
    cases hreader
  obtain ⟨rulesNow, rulesThen, hrulesEvent, hrulesFirst, hrulesLast, hperm⟩ :=
    answers_right (by decide) hrun rfl (hidle _) hrows
  obtain ⟨tierNow, tierThen, htierEvent, htierFirst, htierLast, rfl⟩ :=
    answers_right (by decide) hrun rfl (hidle _) htier
  refine ⟨rulesThen, tierThen, ⟨rulesNow, hrulesEvent, hrulesFirst, hrulesLast⟩,
    ⟨tierNow, htierEvent, htierFirst, htierLast⟩, fun policy clock counters input => ?_⟩
  exact ⟨evaluate_action_perm hperm, evaluate_reasons_perm hperm, rfl⟩

/-- After the INSERT and the DEL of `createRule`, the rule is in every list that `getRules` returns as long as it stays in
force, and counts in every verdict over it, if no call of `getRules` stands between its query and its SET when the DEL
comes. -/
theorem createRule_enforced {tenantId : TenantId} {dto : CreateFraudRuleDto} {rule : FraudRuleRow}
    (hactive : dto.isActive.getD true = true) (hrule : rule = ⟨dto.ruleType, dto.action, dto.values.getD []⟩)
    {caches inserted between deleted : FraudCaches} {insertedAt deletedAt : Int}
    (hinsert : access caches ⟨insertedAt, .write (insertRule tenantId dto caches.source)⟩ = some inserted)
    (hbetween : Runs access (fun _ call => Keeps tenantId rule call) inserted between)
    (hdelete : access between ⟨deletedAt, .drop (.rules tenantId)⟩ = some deleted)
    (hidle : ∀ reader state, between.readers reader = some state → state.key = .rules tenantId → state.queried = none)
    {after : Recorded FraudCaches FraudEvent}
    (hrun : Runs (recorded access (events accepts)) (fun _ call => Keeps tenantId rule call) ⟨deleted, []⟩ after)
    {rows : List FraudRuleRow} {now : Int} (hanswer : .answer (.rules tenantId) (.rules rows) now ∈ after.record) :
    rule ∈ rows ∧ Enforces rows rule := by
  have hinserted : InForce tenantId rule inserted.source := by
    obtain ⟨-, hsome⟩ := Option.ite_none_right_eq_some.1 hinsert
    obtain rfl := Option.some.inj hsome
    rw [hrule]
    exact inForce_insertRule hactive
  have hkept : InForce tenantId rule between.source :=
    hbetween.invariant hinserted fun _ _ _ h hkeeps hstep => source_of_step h hkeeps hstep
  obtain ⟨-, hsome⟩ := Option.ite_none_right_eq_some.1 hdelete
  obtain rfl := Option.some.inj hsome
  have hcell : Function.update between.cells (.rules tenantId) none (.rules tenantId) = none := Function.update_self ..
  obtain ⟨source, hsource, hanswers⟩ := answers_settled (by decide) hrun hkept hcell hidle hanswer
  have hmem := mem_of_answers hsource hanswers
  exact ⟨hmem, enforces_of_mem hmem⟩

/-! ### Runs of a small tenant -/

namespace Sample

open SmsPlatform.Sample (tenant)

def noRules : FraudTables := ⟨[], 1, fun _ => none⟩

def blockWinCash : CreateFraudRuleDto where
  ruleType := "keyword_block"
  action := .block
  values := some ["win cash"]
  ruleType_mem := by decide

/-- A call of `getRules` that finds nothing in Redis. -/
def readAt (reader : Nat) (now : Int) (rows : List FraudRuleRow) : List FraudAccess :=
  [⟨now, .ask reader (.rules tenant)⟩, ⟨now, .query reader (.rules rows)⟩, ⟨now + 1, .keep reader⟩]

/-- The rule comes into force at 10, and no one drops the cache of 2. -/
def forgotten : List FraudAccess :=
  readAt 0 1 [] ++ ⟨2, .ask 3 (.tier tenant)⟩ :: ⟨2, .query 3 (.tier 1)⟩ :: ⟨2, .keep 3⟩ ::
    ⟨10, .write (insertRule tenant blockWinCash noRules)⟩ :: ⟨20, .ask 1 (.rules tenant)⟩ ::
      readAt 2 60015 [keywordBlock ["win cash"]]

/-- A call of `getRules` has asked and not yet queried. -/
def asked : FraudCaches :=
  { start noRules 5 with readers := Function.update (fun _ => none) 0 (some ⟨.rules tenant, none⟩) }

def inserted : FraudCaches := { asked with source := insertRule tenant blockWinCash noRules, time := 10 }

def deleted : FraudCaches :=
  { inserted with cells := Function.update inserted.cells (.rules tenant) none, time := 20 }

theorem asked_idle : ∀ reader state, inserted.readers reader = some state → state.key = .rules tenant →
    state.queried = none := by
  intro reader state hstate _
  change Function.update (fun _ => none) 0 (some ⟨.rules tenant, none⟩) reader = some state at hstate
  rcases of_update_eq_some hstate with ⟨-, hnew⟩ | hold
  · obtain rfl := Option.some.inj hnew
    rfl
  · cases hold

def created : List FraudAccess :=
  [⟨21, .query 0 (.rules [keywordBlock ["win cash"]])⟩, ⟨22, .keep 0⟩, ⟨30, .ask 1 (.rules tenant)⟩]

theorem created_keeps : ∀ call ∈ created, Keeps tenant (keywordBlock ["win cash"]) call := by
  intro call hcall tables hwrite
  simp only [created, List.mem_cons, List.not_mem_nil, or_false] at hcall
  rcases hcall with rfl | rfl | rfl <;> cases hwrite

/-- The rules that `getRules` has returned, and when. -/
def returned (record : List FraudEvent) : List (List FraudRuleRow × Int) :=
  record.filterMap fun event =>
    match event with
    | .answer (.rules tenantId) (.rules rows) now => if tenantId = tenant then some (rows, now) else none
    | _ => none

theorem mem_of_returned {record : List FraudEvent} {rows : List FraudRuleRow} {now : Int}
    (h : (rows, now) ∈ returned record) : .answer (.rules tenant) (.rules rows) now ∈ record := by
  obtain ⟨event, hevent, hsome⟩ := List.mem_filterMap.1 h
  split at hsome
  · split at hsome
    · rename_i htenant
      obtain ⟨rfl, rfl⟩ := Prod.mk.inj (Option.some.inj hsome)
      rw [← htenant]
      exact hevent
    · cases hsome
  · cases hsome

/-- The tier has been returned at 2. -/
def hasTier (record : List FraudEvent) : Bool :=
  record.any fun event =>
    match event with
    | .answer (.tier tenantId) (.tier tier) now => decide (tenantId = tenant ∧ tier = 1 ∧ now = 2)
    | _ => false

theorem mem_of_hasTier {record : List FraudEvent} (h : hasTier record = true) :
    .answer (.tier tenant) (.tier 1) 2 ∈ record := by
  obtain ⟨event, hevent, hsome⟩ := List.any_eq_true.1 h
  split at hsome
  · obtain ⟨rfl, rfl, rfl⟩ := of_decide_eq_true hsome
    exact hevent
  · cases hsome

end Sample

open FraudService.Sample

/-- At 20 the verdict is still the one without the rule. -/
theorem verdict_recent_forgotten : ∃ after,
    Runs (recorded access (events accepts)) (fun caches call => Prompt 1 caches.state call) ⟨start noRules 0, []⟩ after ∧
      returned after.record = [([], 2), ([], 20), ([keywordBlock ["win cash"]], 60016)] ∧
      ∃ rulesThen tierThen, WereAt after.record (20 - 60000 - 1) 20 rulesThen ∧
        WereAt after.record (2 - 60000 - 1) 2 tierThen ∧ ∀ policy : FraudPolicy,
          SameVerdicts (policy.asRead [] 1) (policy.asRead (queryRules rulesThen SmsPlatform.Sample.tenant)
            (queryTier tierThen SmsPlatform.Sample.tenant)) := by
  have h : (execute (guarded (recorded access (events accepts)) fun caches call => decide (Prompt 1 caches.state call))
      ⟨start noRules 0, []⟩ forgotten).any (fun after => decide (returned after.record =
        [([], 2), ([], 20), ([keywordBlock ["win cash"]], 60016)]) && hasTier after.record) = true := by
    decide +kernel
  obtain ⟨after, hrun, hafter⟩ := (Option.any_eq_true _ _).1 h
  obtain ⟨hreturned, htier⟩ := (Bool.and_eq_true _ _).mp hafter
  have hruns := (runs_of_execute hrun).mono fun _ _ hok => of_decide_eq_true hok
  refine ⟨after, hruns, of_decide_eq_true hreturned, ?_⟩
  have hrows : ([], 20) ∈ returned after.record := by
    rw [of_decide_eq_true hreturned]
    simp
  exact verdict_recent hruns (mem_of_returned hrows) (mem_of_hasTier htier)

/-- The call that was under way keeps the new rule, and the next one finds it. -/
theorem createRule_enforced_created : ∃ after,
    Runs (recorded access (events accepts))
        (fun _ call => Keeps SmsPlatform.Sample.tenant (keywordBlock ["win cash"]) call) ⟨deleted, []⟩ after ∧
      returned after.record = [([keywordBlock ["win cash"]], 22), ([keywordBlock ["win cash"]], 30)] ∧
      keywordBlock ["win cash"] ∈ [keywordBlock ["win cash"]] ∧
      Enforces [keywordBlock ["win cash"]] (keywordBlock ["win cash"]) := by
  have h : (execute (guarded (recorded access (events accepts)) fun _ _ => true) ⟨deleted, []⟩ created).any (fun after =>
      decide (returned after.record = [([keywordBlock ["win cash"]], 22), ([keywordBlock ["win cash"]], 30)])) = true := by
    decide +kernel
  obtain ⟨after, hrun, hreturned⟩ := (Option.any_eq_true _ _).1 h
  have hruns : Runs (recorded access (events accepts))
      (fun _ call => Keeps SmsPlatform.Sample.tenant (keywordBlock ["win cash"]) call) ⟨deleted, []⟩ after :=
    (runs_of_execute_all created_keeps hrun).mono fun _ _ hok => hok.2
  refine ⟨after, hruns, of_decide_eq_true hreturned, ?_⟩
  have hlast : ([keywordBlock ["win cash"]], 30) ∈ returned after.record := by
    rw [of_decide_eq_true hreturned]
    simp
  have hinsert : access asked ⟨10, .write (insertRule SmsPlatform.Sample.tenant blockWinCash asked.source)⟩ =
    some inserted := rfl
  have hdelete : access inserted ⟨20, .drop (.rules SmsPlatform.Sample.tenant)⟩ = some deleted := rfl
  exact createRule_enforced rfl rfl hinsert .refl hdelete asked_idle hruns (mem_of_returned hlast)

/-- A call that stands between its query and its SET keeps what the DEL has dropped. -/
example : (execute (recorded access (events accepts)) ⟨start noRules 0, []⟩
    [⟨1, .ask 0 (.rules SmsPlatform.Sample.tenant)⟩, ⟨2, .query 0 (.rules [])⟩,
      ⟨10, .write (insertRule SmsPlatform.Sample.tenant blockWinCash noRules)⟩,
      ⟨20, .drop (.rules SmsPlatform.Sample.tenant)⟩, ⟨30, .keep 0⟩, ⟨40, .ask 1 (.rules SmsPlatform.Sample.tenant)⟩]).map
        (fun after => returned after.record) = some [([], 30), ([], 40)] := by
  decide +kernel

end FraudService

end SmsPlatform
