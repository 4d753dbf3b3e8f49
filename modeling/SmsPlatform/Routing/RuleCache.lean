import SmsPlatform.Auth.Guards
import SmsPlatform.Lib.ReadThrough
import SmsPlatform.Lib.Rows
import SmsPlatform.Lib.Runs
import SmsPlatform.Routing.Routing

/-!
# The cache of routing rules

`getRules` and `upsertRoutingRule` of `routing.service.ts`.  The rules of a tenant and a traffic type are kept in Redis for
a minute, and a write deletes one key, the one of the tenant and the traffic type that it writes.  What it takes from other
keys, by moving a rule to another tenant or traffic type, stays there (`rules_coherent`).
-/

namespace SmsPlatform

open ReadThrough

/-- A row of `routing_rules`. -/
structure StoredRoutingRule extends RoutingRuleRow where
  tenantId : Option TenantId
  name : String
  countryCode : String
  trafficType : TrafficType
  isActive : Bool
  deriving DecidableEq

structure UpsertRoutingRuleDto where
  tenantId : Option String := none
  name : String
  countryCode : Option String := none
  trafficType : Option TrafficType := none
  providerId : Nat
  smppConfigId : Option Nat := none
  preferredProtocol : Option Protocol := none
  priority : Option Int := none
  weight : Option Int := none
  costRank : Option Int := none
  failoverOrder : Option Int := none
  maxTps : Option Int := none
  isActive : Option Bool := none

/-- The table, and the next value of its identity column. -/
structure RoutingTable where
  rules : List StoredRoutingRule
  nextId : Nat

/-- A table whose ids are its own and below the next one. -/
structure RoutingTable.Sound (table : RoutingTable) : Prop where
  keyed : Rows.Keyed (fun rule => rule.id) table.rules
  below : ∀ rule ∈ table.rules, rule.id < table.nextId

/-- The table with the keys of Redis that have not expired. -/
abbrev RoutingState := Cached RoutingTable String (List RoutingRuleRow)

namespace Routing

/-! ### The service -/

def rulesCacheKey (tenantId : String) (trafficType : TrafficType) : String :=
  "routing-rules:" ++ tenantId ++ ":" ++ trafficType.text

/-- What a tenant sees of a rule for a traffic type. -/
def seenBy (tenantId : TenantId) (trafficType : TrafficType) (rule : StoredRoutingRule) : Option RoutingRuleRow :=
  if (rule.tenantId = some tenantId ∨ rule.tenantId = none) ∧ rule.trafficType = trafficType ∧ rule.isActive then
    some rule.toRoutingRuleRow
  else none

/-- `priority ASC, failover_order ASC`; `tie` is the order in which PostgreSQL happens to deliver equal rows. -/
def rulesOrder (tie : RoutingRuleRow → Nat) : RoutingRuleRow → RoutingRuleRow → Ordering :=
  compareLex (compareOn RoutingRuleRow.priority) (compareLex (compareOn RoutingRuleRow.failoverOrder) (compareOn tie))

/-- The query of `getRules`. -/
def queryRules (tie : RoutingRuleRow → Nat) (rules : List StoredRoutingRule) (tenantId : TenantId)
    (trafficType : TrafficType) : List RoutingRuleRow :=
  (rules.filterMap (seenBy tenantId trafficType)).insertionSort fun a b => (rulesOrder tie a b).isLE = true

/-- `uuid` is the UUID that PostgreSQL reads from a text, if any. -/
def getRules (uuid : String → Option TenantId) (tie : RoutingRuleRow → Nat) (tenantId : String)
    (trafficType : TrafficType) (state : RoutingState) : Except Failure (List RoutingRuleRow) × RoutingState :=
  let cacheKey := rulesCacheKey tenantId trafficType
  match state.entries cacheKey with
  | some cached => (.ok cached, state)
  | none =>
    match uuid tenantId with
    | none => (.error (.error "invalid input syntax for type uuid"), state)
    | some tenant =>
      let rows := queryRules tie state.source.rules tenant trafficType
      (.ok rows, state.fill cacheKey rows)

/-- The row that is written, with the defaults of the service. -/
def ruleOf (dto : UpsertRoutingRuleDto) (tenantId : TenantId) (id : Nat) : StoredRoutingRule where
  id := id
  tenantId := some tenantId
  name := dto.name
  countryCode := dto.countryCode.getD "ET"
  trafficType := dto.trafficType.getD .transactional
  providerId := dto.providerId
  smppConfigId := dto.smppConfigId
  preferredProtocol := dto.preferredProtocol
  priority := dto.priority.getD 100
  weight := dto.weight.getD 100
  maxTps := dto.maxTps
  costRank := dto.costRank.getD 100
  failoverOrder := dto.failoverOrder.getD 1
  isActive := dto.isActive.getD true

def names (id : Int) (rule : StoredRoutingRule) : Bool := decide ((rule.id : Int) = id)

/-- The UPDATE of the rule with an id, or the INSERT if the id is falsy. -/
def writeRule (dto : UpsertRoutingRuleDto) (tenantId : TenantId) (id : Option Int) (table : RoutingTable) :
    RoutingTable :=
  match id.filter (· ≠ 0) with
  | some id =>
    { table with rules := Rows.update (names id) (fun rule => ruleOf dto tenantId rule.id) table.rules }
  | none => { rules := table.rules ++ [ruleOf dto tenantId table.nextId], nextId := table.nextId + 1 }

def scopeOf (user : JwtClaims) (dto : UpsertRoutingRuleDto) : Except Failure String :=
  match given dto.tenantId with
  | some tenantId => resolveTenantScope user (some tenantId)
  | none => .ok user.tenantId

/-- `refusal` is the error that PostgreSQL raises for the row, for a foreign key or the size of a value.  The list of
rules in which the service looks up its answer afterwards changes nothing and is left out, with the answer. -/
def upsertRoutingRule (uuid : String → Option TenantId) (user : JwtClaims) (dto : UpsertRoutingRuleDto) (id : Option Int)
    (refusal : Option Failure) (state : RoutingState) : Except Failure Unit × RoutingState :=
  match scopeOf user dto with
  | .error failure => (.error failure, state)
  | .ok tenantId =>
    match uuid tenantId, refusal with
    | none, _ => (.error (.error "invalid input syntax for type uuid"), state)
    | some _, some failure => (.error failure, state)
    | some tenant, none => (.ok (), state.write (writeRule dto tenant id state.source)
        (rulesCacheKey tenantId (dto.trafficType.getD .transactional)))

/-! ### Runs -/

inductive RuleAction
  | getRules (tenantId : String) (trafficType : TrafficType) (tie : RoutingRuleRow → Nat)
  | upsertRoutingRule (user : JwtClaims) (dto : UpsertRoutingRuleDto) (id : Option Int) (refusal : Option Failure)
  | expire (key : String)

/-- The calls one after the other, and the loss of keys at any time. -/
def step (uuid : String → Option TenantId) (state : RoutingState) : RuleAction → Option RoutingState
  | .getRules tenantId trafficType tie => some (getRules uuid tie tenantId trafficType state).2
  | .upsertRoutingRule user dto id refusal => some (upsertRoutingRule uuid user dto id refusal state).2
  | .expire key => some (state.drop key)

def start (table : RoutingTable) : RoutingState := ⟨table, fun _ => none⟩

/-- The rows of the query, in an order that its ORDER BY allows. -/
structure Answer (rules : List StoredRoutingRule) (tenantId : TenantId) (trafficType : TrafficType)
    (rows : List RoutingRuleRow) : Prop where
  same : rows.Perm (rules.filterMap (seenBy tenantId trafficType))
  ordered : rows.Pairwise fun a b =>
    a.priority < b.priority ∨ (a.priority = b.priority ∧ a.failoverOrder ≤ b.failoverOrder)

/-- Whatever a call of `getRules` returns is an answer of the query at that moment. -/
def ReadsRight (uuid : String → Option TenantId) (state : RoutingState) : Prop :=
  ∀ tenantId trafficType tie rows, (getRules uuid tie tenantId trafficType state).1 = .ok rows →
    ∃ tenant, uuid tenantId = some tenant ∧ Answer state.source.rules tenant trafficType rows

/-! ### Keys and answers -/

theorem rulesCacheKey_injective {tenantId tenantId' : String} {trafficType trafficType' : TrafficType}
    (h : rulesCacheKey tenantId trafficType = rulesCacheKey tenantId' trafficType') :
    tenantId = tenantId' ∧ trafficType = trafficType' := by
  have htail : tenantId.toList ++ ':' :: trafficType.text.toList = tenantId'.toList ++ ':' :: trafficType'.text.toList := by
    have hlists := congrArg String.toList h
    unfold rulesCacheKey at hlists
    simpa using hlists
  -- the texts of two traffic types end in different letters
  have hlast := congrArg List.getLast? htail
  have htype : trafficType = trafficType' := by
    cases trafficType <;> cases trafficType' <;> first | rfl | simp [TrafficType.text] at hlast
  subst htype
  exact ⟨String.toList_inj.1 (List.append_cancel_right htail), rfl⟩

theorem queryRules_answer (tie : RoutingRuleRow → Nat) (rules : List StoredRoutingRule) (tenantId : TenantId)
    (trafficType : TrafficType) : Answer rules tenantId trafficType (queryRules tie rules tenantId trafficType) where
  same := List.perm_insertionSort _ _
  ordered := by
    have htrans : Std.TransCmp (rulesOrder tie) := by
      unfold rulesOrder
      infer_instance
    refine (Ranking.pairwise_insertionSort_isLE (rulesOrder tie) _).imp fun {a b} hle => ?_
    rcases Ordering.isLE_then_iff_or.1 hle with hlt | ⟨heq, hrest⟩
    · exact .inl (compare_lt_iff_lt.1 hlt)
    · exact .inr ⟨compare_eq_iff_eq.1 heq, Int.isLE_compare.1 (Ordering.isLE_left_of_isLE_then hrest)⟩

/-- What a key may be answered with. -/
def RightUnder (uuid : String → Option TenantId) (table : RoutingTable) (key : String) (rows : List RoutingRuleRow) :
    Prop :=
  ∀ tenantId trafficType, key = rulesCacheKey tenantId trafficType →
    ∃ tenant, uuid tenantId = some tenant ∧ Answer table.rules tenant trafficType rows

section Coherence

variable {uuid : String → Option TenantId} {state : RoutingState}

/-- Reads are right exactly if the cache is coherent. -/
theorem readsRight_iff : ReadsRight uuid state ↔ Coherent (RightUnder uuid) state := by
  constructor
  · rintro h key rows hkept tenantId trafficType rfl
    refine h tenantId trafficType (fun _ => 0) rows ?_
    unfold getRules
    dsimp only
    rw [hkept]
  · intro h tenantId trafficType tie rows hrows
    unfold getRules at hrows
    dsimp only at hrows
    cases hkept : state.entries (rulesCacheKey tenantId trafficType) with
    | some cached =>
      rw [hkept] at hrows
      cases hrows
      exact h _ _ hkept tenantId trafficType rfl
    | none =>
      rw [hkept] at hrows
      dsimp only at hrows
      cases htenant : uuid tenantId with
      | none =>
        rw [htenant] at hrows
        cases hrows
      | some tenant =>
        rw [htenant] at hrows
        cases hrows
        exact ⟨tenant, rfl, queryRules_answer tie state.source.rules tenant trafficType⟩

/-- A read keeps the cache coherent. -/
theorem coherent_getRules (h : Coherent (RightUnder uuid) state) (tenantId : String) (trafficType : TrafficType)
    (tie : RoutingRuleRow → Nat) : Coherent (RightUnder uuid) (getRules uuid tie tenantId trafficType state).2 := by
  unfold getRules
  dsimp only
  cases state.entries (rulesCacheKey tenantId trafficType) with
  | some cached => exact h
  | none =>
    dsimp only
    cases htenant : uuid tenantId with
    | none => exact h
    | some tenant =>
      refine h.fill fun tenantId' trafficType' hkey => ?_
      obtain ⟨rfl, rfl⟩ := rulesCacheKey_injective hkey
      exact ⟨tenant, htenant, queryRules_answer tie state.source.rules tenant trafficType⟩

end Coherence

/-! ### Writes -/

/-- The reader sees no more and no less of the written rule than before. -/
def SeesNoChange (dto : UpsertRoutingRuleDto) (tenantId : TenantId) (id : Option Int) (table : RoutingTable)
    (reader : TenantId) (trafficType : TrafficType) : Prop :=
  match id.filter (· ≠ 0) with
  | some id => ∀ rule ∈ table.rules, names id rule = true →
      seenBy reader trafficType (ruleOf dto tenantId rule.id) = seenBy reader trafficType rule
  | none => seenBy reader trafficType (ruleOf dto tenantId table.nextId) = none

/-- A write changes nothing for the readers of the cached keys, but for the one key that it deletes. -/
def Harmless (uuid : String → Option TenantId) (state : RoutingState) : RuleAction → Prop
  | .upsertRoutingRule user dto id none => ∀ tenantId tenant, scopeOf user dto = .ok tenantId →
      uuid tenantId = some tenant → ∀ readerId reader trafficType, uuid readerId = some reader →
        rulesCacheKey readerId trafficType ≠ rulesCacheKey tenantId (dto.trafficType.getD .transactional) →
        (state.entries (rulesCacheKey readerId trafficType)).isSome = true →
          SeesNoChange dto tenant id state.source reader trafficType
  | _ => True

section Writes

variable {uuid : String → Option TenantId} {state : RoutingState} {table : RoutingTable} {dto : UpsertRoutingRuleDto}
  {tenantId reader : TenantId} {id : Option Int} {trafficType : TrafficType}

/-- At most one rule has an id. -/
theorem names_once (hsound : table.Sound) (id : Int) :
    table.rules.Pairwise fun rule other => ¬ (names id rule = true ∧ names id other = true) := by
  refine (List.pairwise_map.1 hsound.keyed).imp fun {rule other} hne h => hne ?_
  unfold names at h
  have hrule := of_decide_eq_true h.1
  have hother := of_decide_eq_true h.2
  omega

theorem filterMap_writeRule (hsound : table.Sound) :
    ((writeRule dto tenantId id table).rules.filterMap (seenBy reader trafficType)).Perm
      (table.rules.filterMap (seenBy reader trafficType)) ↔ SeesNoChange dto tenantId id table reader trafficType := by
  unfold writeRule SeesNoChange
  cases id.filter (· ≠ 0) with
  | some id => exact Rows.filterMap_update_perm_iff (names_once hsound id)
  | none =>
    dsimp only
    rw [List.filterMap_append]
    cases hseen : seenBy reader trafficType (ruleOf dto tenantId table.nextId) with
    | none => simp [hseen]
    | some row =>
      refine ⟨fun hperm => absurd hperm.length_eq ?_, fun h => (nomatch h)⟩
      simp [hseen]

/-- An answer stays one exactly if its reader sees no change. -/
theorem answer_writeRule_iff (hsound : table.Sound) {rows : List RoutingRuleRow}
    (h : Answer table.rules reader trafficType rows) :
    Answer (writeRule dto tenantId id table).rules reader trafficType rows ↔
      SeesNoChange dto tenantId id table reader trafficType := by
  rw [← filterMap_writeRule hsound]
  constructor
  · intro h'
    exact h'.same.symm.trans h.same
  · intro hperm
    exact ⟨h.same.trans hperm.symm, h.ordered⟩

theorem sound_writeRule (hsound : table.Sound) : (writeRule dto tenantId id table).Sound := by
  unfold writeRule
  cases id.filter (· ≠ 0) with
  | some id =>
    have hids : (Rows.update (names id) (fun rule => ruleOf dto tenantId rule.id) table.rules).map (fun rule => rule.id) =
        table.rules.map fun rule => rule.id := by
      have hid : ∀ rule : StoredRoutingRule, (ruleOf dto tenantId rule.id).id = rule.id := fun _ => rfl
      exact Rows.map_update hid table.rules
    constructor
    · have hkeyed := hsound.keyed
      unfold Rows.Keyed at hkeyed ⊢
      rw [hids]
      exact hkeyed
    · intro rule hrule
      have hmem : rule.id ∈ table.rules.map fun rule => rule.id := hids ▸ List.mem_map_of_mem hrule
      obtain ⟨old, hold, heq⟩ := List.mem_map.1 hmem
      rw [← heq]
      exact hsound.below old hold
  | none =>
    constructor
    · refine hsound.keyed.append_fresh fun rule hrule => ?_
      exact Nat.ne_of_lt (hsound.below rule hrule)
    · intro rule hrule
      rcases List.mem_append.1 hrule with hrule | hrule
      · exact Nat.lt_succ_of_lt (hsound.below rule hrule)
      · rw [List.mem_singleton.1 hrule]
        exact Nat.lt_succ_self _

/-- A write keeps the cache coherent exactly if it is harmless. -/
theorem coherent_upsertRoutingRule_iff (hsound : state.source.Sound) (h : Coherent (RightUnder uuid) state)
    (user : JwtClaims) (dto : UpsertRoutingRuleDto) (id : Option Int) (refusal : Option Failure) :
    Coherent (RightUnder uuid) (upsertRoutingRule uuid user dto id refusal state).2 ↔
      Harmless uuid state (.upsertRoutingRule user dto id refusal) := by
  unfold upsertRoutingRule
  cases refusal with
  | some failure =>
    refine iff_of_true ?_ trivial
    cases scopeOf user dto with
    | error failure => exact h
    | ok tenantId =>
      dsimp only
      cases uuid tenantId <;> exact h
  | none =>
    unfold Harmless
    cases hscope : scopeOf user dto with
    | error failure =>
      refine iff_of_true h fun _ _ hok => ?_
      rw [hscope] at hok
      cases hok
    | ok tenantId =>
      dsimp only
      cases htenant : uuid tenantId with
      | none =>
        refine iff_of_true h fun _ _ hok hsome => ?_
        rw [hscope] at hok
        cases hok
        rw [htenant] at hsome
        cases hsome
      | some tenant =>
        dsimp only
        rw [coherent_write_iff]
        constructor
        · intro hright tenantId' tenant' hok hsome readerId reader trafficType hreader hne hlive
          rw [hscope] at hok
          cases hok
          cases htenant.symm.trans hsome
          obtain ⟨rows, hrows⟩ := Option.isSome_iff_exists.1 hlive
          obtain ⟨before, hbefore, hold⟩ := h _ rows hrows readerId trafficType rfl
          obtain ⟨after, hafter, hnew⟩ := hright _ rows hne hrows readerId trafficType rfl
          cases hreader.symm.trans hbefore
          cases hreader.symm.trans hafter
          exact (answer_writeRule_iff hsound hold).1 hnew
        · rintro hharmless key rows hne hrows readerId trafficType rfl
          obtain ⟨reader, hreader, hold⟩ := h _ rows hrows readerId trafficType rfl
          have hlive : (state.entries (rulesCacheKey readerId trafficType)).isSome = true := by simp [hrows]
          have hunseen := hharmless tenantId tenant hscope htenant readerId reader trafficType hreader hne hlive
          exact ⟨reader, hreader, (answer_writeRule_iff hsound hold).2 hunseen⟩

end Writes

/-! ### Runs -/

section Runs

open Transition

variable {uuid : String → Option TenantId} {table : RoutingTable} {state : RoutingState}

/-- A sound table under a coherent cache. -/
structure Inv (uuid : String → Option TenantId) (state : RoutingState) : Prop where
  sound : state.source.Sound
  coherent : Coherent (RightUnder uuid) state

theorem source_getRules (tenantId : String) (trafficType : TrafficType) (tie : RoutingRuleRow → Nat) :
    (getRules uuid tie tenantId trafficType state).2.source = state.source := by
  unfold getRules
  dsimp only
  cases state.entries (rulesCacheKey tenantId trafficType) with
  | some cached => rfl
  | none => dsimp only; cases uuid tenantId <;> rfl

theorem sound_upsertRoutingRule (hsound : state.source.Sound) (user : JwtClaims) (dto : UpsertRoutingRuleDto)
    (id : Option Int) (refusal : Option Failure) :
    (upsertRoutingRule uuid user dto id refusal state).2.source.Sound := by
  unfold upsertRoutingRule
  cases scopeOf user dto with
  | error failure => exact hsound
  | ok tenantId =>
    dsimp only
    cases uuid tenantId with
    | none => exact hsound
    | some tenant =>
      cases refusal with
      | some failure => exact hsound
      | none => exact sound_writeRule hsound

/-- A step keeps reads right exactly if it is harmless. -/
theorem coherent_step_iff (h : Inv uuid state) {action : RuleAction} {after : RoutingState}
    (hstep : step uuid state action = some after) :
    Coherent (RightUnder uuid) after ↔ Harmless uuid state action := by
  cases action with
  | getRules tenantId trafficType tie =>
    cases hstep
    exact iff_of_true (coherent_getRules h.coherent tenantId trafficType tie) trivial
  | upsertRoutingRule user dto id refusal =>
    cases hstep
    exact coherent_upsertRoutingRule_iff h.sound h.coherent user dto id refusal
  | expire key =>
    cases hstep
    exact iff_of_true (h.coherent.drop key) trivial

theorem Inv.step (h : Inv uuid state) {action : RuleAction} {after : RoutingState}
    (hharmless : Harmless uuid state action) (hstep : Routing.step uuid state action = some after) : Inv uuid after := by
  refine ⟨?_, (coherent_step_iff h hstep).2 hharmless⟩
  cases action with
  | getRules tenantId trafficType tie =>
    cases hstep
    rw [source_getRules]
    exact h.sound
  | upsertRoutingRule user dto id refusal =>
    cases hstep
    exact sound_upsertRoutingRule h.sound user dto id refusal
  | expire key =>
    cases hstep
    exact h.sound

theorem Inv.start (hsound : table.Sound) : Inv uuid (start table) :=
  ⟨hsound, fun _ _ hkept => (nomatch hkept)⟩

/-- As long as every write is harmless, every read returns what the query would return; the first write that is not leaves
a tenant with a read that does not. -/
theorem rules_coherent (uuid : String → Option TenantId) {table : RoutingTable} (hsound : table.Sound)
    {state : RoutingState} (hrun : Runs (step uuid) (Harmless uuid) (start table) state) :
    ReadsRight uuid state ∧ ∀ action after, step uuid state action = some after →
      (ReadsRight uuid after ↔ Harmless uuid state action) := by
  have hinv : Inv uuid state := hrun.invariant (.start hsound) fun _ _ _ h hharmless hstep => h.step hharmless hstep
  refine ⟨readsRight_iff.2 hinv.coherent, fun action after hstep => ?_⟩
  rw [readsRight_iff]
  exact coherent_step_iff hinv hstep

end Runs

end Routing

namespace Sample

def uuid (text : String) : Option TenantId := if text = "tenant" then some tenant else none

def admin : JwtClaims where
  sub := "admin"
  tenantId := "tenant"
  role := "admin"

/-- A rule of the tenant for one-time passwords. -/
def otpRule : StoredRoutingRule where
  toRoutingRuleRow := smppRule
  tenantId := some tenant
  name := "otp"
  countryCode := "ET"
  trafficType := .otp
  isActive := true

def routingTable : RoutingTable := ⟨[otpRule], 2⟩

theorem routingTable_sound : routingTable.Sound :=
  ⟨List.nodup_singleton _, by simp [routingTable, otpRule, smppRule]⟩

/-- The rule with another weight, for a traffic type. -/
def reweighed (trafficType : TrafficType) : UpsertRoutingRuleDto where
  name := "otp"
  trafficType := some trafficType
  providerId := 1
  weight := some 50

/-- A read, and then a write of the rule. -/
def readThenWritten (trafficType : TrafficType) : RoutingState :=
  (Routing.upsertRoutingRule uuid admin (reweighed trafficType) (some 1) none
    (Routing.getRules uuid (fun _ => 0) "tenant" .otp (Routing.start routingTable)).2).2

end Sample

namespace Routing

open Sample Transition

theorem rules_coherent_reweighed : ReadsRight uuid (readThenWritten .otp) := by
  have hread : Runs (step uuid) (Harmless uuid) (start routingTable)
      (getRules uuid (fun _ => 0) "tenant" .otp (start routingTable)).2 :=
    .tail (.getRules "tenant" .otp fun _ => 0) .refl trivial rfl
  refine (rules_coherent uuid routingTable_sound (.tail (.upsertRoutingRule admin (reweighed .otp) (some 1) none) hread ?_
    rfl)).1
  intro tenantId tenant hscope _ readerId reader trafficType _ hne hlive
  cases (show Except.ok "tenant" = Except.ok tenantId from hscope)
  -- the only key there is the one that the write deletes
  change (Function.update (fun _ => none) (rulesCacheKey "tenant" .otp) (some _) _).isSome = true at hlive
  have hother : rulesCacheKey readerId trafficType ≠ rulesCacheKey "tenant" .otp := hne
  rw [Function.update_of_ne hother] at hlive
  cases hlive

/-- A rule that has been moved to another traffic type is still read under its old one. -/
theorem moved_rule_cached : ∃ table state, table.Sound ∧ Reaches (step uuid) (start table) state ∧ ¬ ReadsRight uuid state := by
  have hread : Reaches (step uuid) (start routingTable)
      (getRules uuid (fun _ => 0) "tenant" .otp (start routingTable)).2 :=
    .tail (.getRules "tenant" .otp fun _ => 0) .refl trivial rfl
  refine ⟨routingTable, readThenWritten .transactional, routingTable_sound,
    .tail (.upsertRoutingRule admin (reweighed .transactional) (some 1) none) hread trivial rfl, fun hright => ?_⟩
  have hstale : (getRules uuid (fun _ => 0) "tenant" .otp (readThenWritten .transactional)).1 = .ok [smppRule] := by
    decide +kernel
  obtain ⟨reader, hreader, hanswer⟩ := hright "tenant" .otp (fun _ => 0) [smppRule] hstale
  have hnone : (readThenWritten .transactional).source.rules.filterMap (seenBy tenant .otp) = [] := by decide +kernel
  cases (show some tenant = some reader from hreader)
  have hsame := hanswer.same
  rw [hnone] at hsame
  exact absurd hsame.length_eq (by simp)

end Routing

end SmsPlatform
