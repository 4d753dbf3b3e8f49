import Mathlib.Algebra.Order.Ring.Unbundled.Rat
import SmsPlatform.Lib.Queries
import SmsPlatform.Lib.Ranking
import SmsPlatform.Messages.Preparation
import SmsPlatform.Redis.CircuitBreaker

/-!
# Routing

`selectRoute` of `routing.service.ts`, over the rules of a tenant, the unit costs and the metrics of the providers
(`RouteSources`), and `getProviderMetrics` of `providers.service.ts`.  Scores are rational.  The selection takes the
first of the usable rules with the least score (`selectRoute_least`).
-/

namespace SmsPlatform

/-- What `getRules` selects of a rule.  Ids start at 1. -/
structure RoutingRuleRow where
  id : Nat
  providerId : Nat
  smppConfigId : Option Nat
  preferredProtocol : Option Protocol
  priority : Int
  weight : Int
  costRank : Int
  failoverOrder : Int
  maxTps : Option Int
  deriving DecidableEq

structure ProviderMetrics where
  latencyMs : Int
  errorRate : ℚ
  circuitState : CircuitState
  deriving DecidableEq

/-- The options of a selection, with the one that no caller sets. -/
structure RouteOptions extends RouteSelectionOptions where
  allowOpenCircuitProbe : Bool := false

/-- `RouteDecision` with its score. -/
structure ScoredRoute extends RouteDecision where
  score : ℚ
  deriving DecidableEq

def TrafficType.text : TrafficType → String
  | .transactional => "transactional"
  | .otp => "otp"
  | .marketing => "marketing"

/-- What a selection asks for.  The unit costs are a Map from providers. -/
structure RouteSources where
  getRules : String → TrafficType → Except Failure (List RoutingRuleRow)
  getUnitCosts : List Nat → String → TrafficType → Nat → Option Int
  getProviderMetrics : Nat → ProviderMetrics

namespace Routing

/-! ### The metrics of a provider -/

/-- A row of `provider_health_logs`. -/
structure ProviderHealthLogRow where
  providerId : Nat
  latencyMs : Option Int
  errorRate : Option ℚ
  recordedAt : Timestamp

def getProviderMetrics (logs : List ProviderHealthLogRow) (tie : ProviderHealthLogRow → Nat)
    (getState : Nat → CircuitState) (providerId : Nat) : ProviderMetrics :=
  let row := (Queries.newestFirst ProviderHealthLogRow.recordedAt tie
    (logs.filter fun row => decide (row.providerId = providerId))).head?
  { latencyMs := (row.bind ProviderHealthLogRow.latencyMs).getD 0
    errorRate := (row.bind ProviderHealthLogRow.errorRate).getD 0
    circuitState := getState providerId }

/-! ### The selection -/

def normalizeCountryCode (phoneNumber : String) : String :=
  if startsWith phoneNumber.toList "+251" then "ET" else "INTL"

/-- The rule is not excluded, nor its provider. -/
def allowed (options : RouteOptions) (rule : RoutingRuleRow) : Bool :=
  !options.excludedProviderIds.contains rule.providerId && !options.excludedRuleIds.contains rule.id

def protocolOf (rule : RoutingRuleRow) : Protocol :=
  rule.preferredProtocol.getD (if rule.smppConfigId.any (· ≠ 0) then .smpp else .http)

def scoreOf (metrics : ProviderMetrics) (trafficType : TrafficType) (options : RouteOptions) (rule : RoutingRuleRow) :
    ℚ :=
  let protocol := protocolOf rule
  let trafficBoost : ℚ := if trafficType = .otp then (if protocol = .smpp then 10 else 0) else 0
  let preferredProtocolBoost : ℚ := if options.preferProtocol = some protocol then 5 else 0
  let healthPenalty : ℚ :=
    if metrics.circuitState = .halfOpen then 250 + metrics.errorRate * 100 else metrics.errorRate * 100
  let latencyPenalty : ℚ := metrics.latencyMs / 50
  rule.priority * 5 + rule.costRank + latencyPenalty + healthPenalty - rule.weight - trafficBoost -
    preferredProtocolBoost

def routeOf (metrics : ProviderMetrics) (unitCosts : Nat → Option Int) (trafficType : TrafficType)
    (options : RouteOptions) (rule : RoutingRuleRow) : ScoredRoute where
  routingRuleId := rule.id
  providerId := rule.providerId
  smppConfigId := rule.smppConfigId
  protocol := protocolOf rule
  estimatedUnitCostMinor := (unitCosts rule.providerId).getD 0
  score := scoreOf metrics trafficType options rule

variable (sources : RouteSources) (tenantId phoneNumber : String) (trafficType : TrafficType) (options : RouteOptions)

/-- What the selection makes of one of its rules; the circuit of the provider may rule it out. -/
def candidateOf (unitCosts : Nat → Option Int) (rule : RoutingRuleRow) : Option ScoredRoute :=
  let metrics := sources.getProviderMetrics rule.providerId
  if metrics.circuitState = .opened ∧ options.allowOpenCircuitProbe = false then none
  else some (routeOf metrics unitCosts trafficType options rule)

def selectRoute : Except Failure ScoredRoute := do
  let rules := (← sources.getRules tenantId trafficType).filter (allowed options)
  if rules = [] then
    throw (.error ("No routing rules found for " ++ tenantId ++ "/" ++ trafficType.text))
  let unitCosts := sources.getUnitCosts (rules.map RoutingRuleRow.providerId) (normalizeCountryCode phoneNumber)
    trafficType
  let candidates := rules.filterMap (candidateOf sources trafficType options unitCosts)
  match (candidates.insertionSort fun left right => left.score ≤ right.score).head? with
  | none => throw (.error "No route candidates available")
  | some winner => return winner

/-! ### What it selects -/

/-- The rule is not excluded, nor its provider, and the circuit of the provider is not open or may be probed. -/
structure Usable (rule : RoutingRuleRow) : Prop where
  ruleAllowed : rule.id ∉ options.excludedRuleIds
  providerAllowed : rule.providerId ∉ options.excludedProviderIds
  reachable : (sources.getProviderMetrics rule.providerId).circuitState = .opened →
    options.allowOpenCircuitProbe = true

theorem usable_iff {rule : RoutingRuleRow} : Usable sources options rule ↔ allowed options rule = true ∧
    ¬ ((sources.getProviderMetrics rule.providerId).circuitState = .opened ∧ options.allowOpenCircuitProbe = false) := by
  constructor
  · rintro ⟨hrule, hprovider, hreachable⟩
    refine ⟨by simp [allowed, hrule, hprovider], fun ⟨hopened, hprobe⟩ => ?_⟩
    rw [hreachable hopened] at hprobe
    cases hprobe
  · rintro ⟨hallowed, hreachable⟩
    simp only [allowed, Bool.and_eq_true, Bool.not_eq_true', List.contains_eq_mem, decide_eq_false_iff_not] at hallowed
    refine ⟨hallowed.2, hallowed.1, fun hopened => ?_⟩
    by_contra hprobe
    exact hreachable ⟨hopened, by simpa using hprobe⟩

instance : DecidablePred (Usable sources options) := fun _ => decidable_of_iff _ (usable_iff sources options).symm

/-- The score of a rule in this selection. -/
def score (rule : RoutingRuleRow) : ℚ :=
  scoreOf (sources.getProviderMetrics rule.providerId) trafficType options rule

/-- The costs that are looked up: those of the providers that are not excluded. -/
def unitCosts (rules : List RoutingRuleRow) : Nat → Option Int :=
  sources.getUnitCosts ((rules.filter (allowed options)).map RoutingRuleRow.providerId)
    (normalizeCountryCode phoneNumber) trafficType

/-- The route along a rule. -/
def route (rules : List RoutingRuleRow) (rule : RoutingRuleRow) : ScoredRoute :=
  routeOf (sources.getProviderMetrics rule.providerId) (unitCosts sources phoneNumber trafficType options rules) trafficType
    options rule

section Selection

variable {sources tenantId phoneNumber trafficType options} {rules : List RoutingRuleRow}

/-- The candidates are the routes along the usable rules, in their order. -/
theorem filterMap_candidateOf : (rules.filter (allowed options)).filterMap
    (candidateOf sources trafficType options (unitCosts sources phoneNumber trafficType options rules)) =
      (rules.filter fun rule => decide (Usable sources options rule)).map
        (route sources phoneNumber trafficType options rules) := by
  unfold route
  generalize unitCosts sources phoneNumber trafficType options rules = costs
  induction rules with
  | nil => rfl
  | cons rule rules ih =>
    by_cases hallowed : allowed options rule = true
    · by_cases hopened : (sources.getProviderMetrics rule.providerId).circuitState = .opened ∧
        options.allowOpenCircuitProbe = false
      · have hunusable : ¬ Usable sources options rule := fun h => ((usable_iff sources options).1 h).2 hopened
        simp [hallowed, hunusable, candidateOf, hopened, ih]
      · have husable : Usable sources options rule := (usable_iff sources options).2 ⟨hallowed, hopened⟩
        simp [hallowed, husable, candidateOf, hopened, ih]
    · have hunusable : ¬ Usable sources options rule := fun h => hallowed ((usable_iff sources options).1 h).1
      simp [hallowed, hunusable, ih]

/-- The usable rules' routes, by their scores. -/
private def sortedRoutes (sources : RouteSources) (phoneNumber : String) (trafficType : TrafficType)
    (options : RouteOptions) (rules : List RoutingRuleRow) : List ScoredRoute :=
  ((rules.filter fun rule => decide (Usable sources options rule)).map
    (route sources phoneNumber trafficType options rules)).insertionSort fun left right => left.score ≤ right.score

private theorem head?_sortedRoutes {found : ScoredRoute} :
    (sortedRoutes sources phoneNumber trafficType options rules).head? = some found ↔
      ∃ rule, Ranking.FirstLeast (Usable sources options) (score sources trafficType options) rules rule ∧
        found = route sources phoneNumber trafficType options rules rule := by
  unfold sortedRoutes
  rw [Ranking.head?_insertionSort, Ranking.firstLeast_map]
  exact exists_congr fun rule => and_congr_left fun _ => Ranking.firstLeast_filter

private theorem selectRoute_ok_iff (hrules : sources.getRules tenantId trafficType = .ok rules) {found : ScoredRoute} :
    selectRoute sources tenantId phoneNumber trafficType options = .ok found ↔
      (sortedRoutes sources phoneNumber trafficType options rules).head? = some found := by
  have hselect : selectRoute sources tenantId phoneNumber trafficType options =
      (if rules.filter (allowed options) = [] then
        .error (.error ("No routing rules found for " ++ tenantId ++ "/" ++ trafficType.text))
      else match (sortedRoutes sources phoneNumber trafficType options rules).head? with
        | none => .error (.error "No route candidates available")
        | some winner => .ok winner) := by
    unfold selectRoute sortedRoutes
    rw [hrules, ← filterMap_candidateOf]
    rfl
  rw [hselect]
  split
  · rename_i hnil
    -- without an allowed rule there is no usable one
    have hnone : (rules.filter fun rule => decide (Usable sources options rule)) = [] := by
      rw [List.filter_eq_nil_iff] at hnil ⊢
      intro rule hrule husable
      exact hnil rule hrule ((usable_iff sources options).1 (of_decide_eq_true husable)).1
    simp [sortedRoutes, hnone]
  · cases (sortedRoutes sources phoneNumber trafficType options rules).head? with
    | none => simp
    | some winner => simp

/-- The selection answers with the route along the first usable rule of least score. -/
theorem selectRoute_least (hrules : sources.getRules tenantId trafficType = .ok rules) {found : ScoredRoute} :
    selectRoute sources tenantId phoneNumber trafficType options = .ok found ↔
      ∃ rule, Ranking.FirstLeast (Usable sources options) (score sources trafficType options) rules rule ∧
        found = route sources phoneNumber trafficType options rules rule :=
  (selectRoute_ok_iff hrules).trans head?_sortedRoutes

/-- It throws when there is no usable rule. -/
theorem selectRoute_error (hrules : sources.getRules tenantId trafficType = .ok rules) :
    (∃ failure, selectRoute sources tenantId phoneNumber trafficType options = .error failure) ↔
      ∀ rule ∈ rules, ¬ Usable sources options rule := by
  constructor
  · rintro ⟨failure, hfailure⟩ rule hrule husable
    obtain ⟨least, hleast⟩ : ∃ least, Ranking.FirstLeast (Usable sources options) (score sources trafficType options) rules
      least := Ranking.exists_firstLeast ⟨rule, hrule, husable⟩
    rw [(selectRoute_least hrules).2 ⟨least, hleast, rfl⟩] at hfailure
    cases hfailure
  · intro hnone
    cases hselect : selectRoute sources tenantId phoneNumber trafficType options with
    | error failure => exact ⟨failure, rfl⟩
    | ok found =>
      obtain ⟨rule, hrule, -⟩ := (selectRoute_least hrules).1 hselect
      exact absurd hrule.holds (hnone rule hrule.mem)

/-! ### Exclusions -/

/-- The options exclude at least as much and agree otherwise. -/
structure Narrows (options options' : RouteOptions) : Prop where
  rules : options.excludedRuleIds ⊆ options'.excludedRuleIds
  providers : options.excludedProviderIds ⊆ options'.excludedProviderIds
  protocol : options.preferProtocol = options'.preferProtocol
  probe : options.allowOpenCircuitProbe = options'.allowOpenCircuitProbe

theorem Usable.of_narrows {options' : RouteOptions} {rule : RoutingRuleRow} (h : Usable sources options' rule)
    (hnarrows : Narrows options options') : Usable sources options rule where
  ruleAllowed := fun hmem => h.ruleAllowed (hnarrows.rules hmem)
  providerAllowed := fun hmem => h.providerAllowed (hnarrows.providers hmem)
  reachable := fun hopened => hnarrows.probe ▸ h.reachable hopened

theorem score_of_narrows {options' : RouteOptions} (hnarrows : Narrows options options') :
    score sources trafficType options' = score sources trafficType options := by
  unfold score scoreOf
  rw [hnarrows.protocol]

/-- What `selectRoute` answers on any list of rules: with the route along the first usable rule of least score, or with
an error if there is no usable rule; and further exclusions do not lower the score. -/
theorem selectRoute_best (hrules : sources.getRules tenantId trafficType = .ok rules) :
    (∀ found, selectRoute sources tenantId phoneNumber trafficType options = .ok found ↔
      ∃ rule, Ranking.FirstLeast (Usable sources options) (score sources trafficType options) rules rule ∧
        found = route sources phoneNumber trafficType options rules rule) ∧
    ((∃ failure, selectRoute sources tenantId phoneNumber trafficType options = .error failure) ↔
      ∀ rule ∈ rules, ¬ Usable sources options rule) ∧
    ∀ options' found found', Narrows options options' →
      selectRoute sources tenantId phoneNumber trafficType options = .ok found →
      selectRoute sources tenantId phoneNumber trafficType options' = .ok found' → found.score ≤ found'.score := by
  refine ⟨fun _ => selectRoute_least hrules, selectRoute_error hrules, ?_⟩
  intro options' found found' hnarrows hfound hfound'
  obtain ⟨rule, hrule, rfl⟩ := (selectRoute_least hrules).1 hfound
  obtain ⟨rule', hrule', rfl⟩ := (selectRoute_least hrules).1 hfound'
  have hle : score sources trafficType options rule ≤ score sources trafficType options rule' :=
    hrule.le hrule'.mem (hrule'.holds.of_narrows hnarrows)
  calc score sources trafficType options rule
      ≤ score sources trafficType options rule' := hle
    _ = score sources trafficType options' rule' := by rw [score_of_narrows hnarrows]

end Selection

end Routing

/-! ### A small instance

A healthy SMPP route and a slower HTTP route. -/

namespace Sample

def smppRule : RoutingRuleRow := ⟨1, 1, some 11, some .smpp, 10, 100, 50, 1, some 100⟩

def httpRule : RoutingRuleRow := ⟨2, 2, none, some .http, 20, 50, 10, 2, some 100⟩

def routeSources : RouteSources where
  getRules := fun _ _ => .ok [smppRule, httpRule]
  getUnitCosts := fun _ _ _ providerId => some (if providerId = 1 then 18 else 12)
  getProviderMetrics := fun providerId => if providerId = 1 then ⟨50, 1 / 100, .closed⟩ else ⟨400, 1 / 5, .closed⟩

end Sample

namespace Routing

open Sample

theorem selectRoute_best_otp : ∃ found, selectRoute routeSources "tenant" "+251911234567" .otp {} = .ok found ∧
    found.routingRuleId = 1 := by
  have husable : Usable routeSources {} smppRule := by decide
  have hleast : score routeSources .otp {} smppRule ≤ score routeSources .otp {} httpRule := by decide +kernel
  have hfirst : Ranking.FirstLeast (Usable routeSources {}) (score routeSources .otp {}) [smppRule, httpRule] smppRule :=
    ⟨[], [httpRule], rfl, husable, by simp, by simpa using fun _ => hleast⟩
  exact ⟨_, ((selectRoute_best rfl).1 _).2 ⟨smppRule, hfirst, rfl⟩, rfl⟩

end Routing

end SmsPlatform
