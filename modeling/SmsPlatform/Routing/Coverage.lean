import SmsPlatform.Routing.RuleCache

/-!
# What a route covers

A routing rule names a country, a provider and perhaps an SMPP configuration, and the last two can be deactivated.
`selectRoute` goes by none of the three.  So the rule that it selects covers the destination exactly if every usable rule
that does not is beaten by one that does (`route_covers_iff`).
-/

namespace SmsPlatform

structure ProviderRow where
  id : Nat
  isActive : Bool
  deriving DecidableEq

structure SmppConfigRow where
  id : Nat
  providerId : Nat
  isActive : Bool
  deriving DecidableEq

/-- The tables that a route refers to. -/
structure Carriers where
  rules : List StoredRoutingRule
  providers : List ProviderRow
  smppConfigs : List SmppConfigRow

namespace Routing

/-- The rule is for the country of the destination, and the provider and the SMPP configuration are active. -/
structure Covers (carriers : Carriers) (phoneNumber : String) (ruleId providerId : Nat) (smppConfigId : Option Nat) :
    Prop where
  country : ∃ rule ∈ carriers.rules, rule.id = ruleId ∧ rule.countryCode = normalizeCountryCode phoneNumber
  provider : ∃ provider ∈ carriers.providers, provider.id = providerId ∧ provider.isActive = true
  smppConfig : ∀ id, smppConfigId = some id → ∃ config ∈ carriers.smppConfigs, config.id = id ∧ config.isActive = true

def RuleCovers (carriers : Carriers) (phoneNumber : String) (rule : RoutingRuleRow) : Prop :=
  Covers carriers phoneNumber rule.id rule.providerId rule.smppConfigId

def RouteCovers (carriers : Carriers) (phoneNumber : String) (found : ScoredRoute) : Prop :=
  Covers carriers phoneNumber found.routingRuleId found.providerId found.smppConfigId

/-- The selection with the rules from the cache or the table. -/
def sourcesOf (uuid : String → Option TenantId) (tie : RoutingRuleRow → Nat) (state : RoutingState)
    (getUnitCosts : List Nat → String → TrafficType → Nat → Option Int) (getProviderMetrics : Nat → ProviderMetrics) :
    RouteSources where
  getRules := fun tenantId trafficType => (getRules uuid tie tenantId trafficType state).1
  getUnitCosts := getUnitCosts
  getProviderMetrics := getProviderMetrics

/-- Every usable rule that does not cover the destination is beaten by one that does: one with a lower score, or an earlier
one with the same. -/
def Outranked (sources : RouteSources) (carriers : Carriers) (phoneNumber : String) (trafficType : TrafficType)
    (options : RouteOptions) (rules : List RoutingRuleRow) : Prop :=
  ∀ before rule after, rules = before ++ rule :: after → Usable sources options rule →
    ¬ RuleCovers carriers phoneNumber rule →
      (∃ better ∈ before, Usable sources options better ∧ RuleCovers carriers phoneNumber better ∧
        score sources trafficType options better ≤ score sources trafficType options rule) ∨
      ∃ better ∈ after, Usable sources options better ∧ RuleCovers carriers phoneNumber better ∧
        score sources trafficType options better < score sources trafficType options rule

section

variable {sources : RouteSources} {carriers : Carriers} {tenantId phoneNumber : String} {trafficType : TrafficType}
  {options : RouteOptions} {rules : List RoutingRuleRow}

theorem routeCovers_route {rule : RoutingRuleRow} :
    RouteCovers carriers phoneNumber (route sources phoneNumber trafficType options rules rule) ↔
      RuleCovers carriers phoneNumber rule := Iff.rfl

theorem selectRoute_covers_iff (hrules : sources.getRules tenantId trafficType = .ok rules) :
    (∀ found, selectRoute sources tenantId phoneNumber trafficType options = .ok found →
      RouteCovers carriers phoneNumber found) ↔ Outranked sources carriers phoneNumber trafficType options rules := by
  unfold Outranked
  rw [← Ranking.firstLeast_has_iff]
  constructor
  · intro h rule hrule
    exact routeCovers_route.1 (h _ ((selectRoute_least hrules).2 ⟨rule, hrule, rfl⟩))
  · intro h found hfound
    obtain ⟨rule, hrule, rfl⟩ := (selectRoute_least hrules).1 hfound
    exact routeCovers_route.2 (h rule hrule)

end

/-- The route that is selected covers its destination exactly if the rules that do not are outranked. -/
theorem route_covers_iff (uuid : String → Option TenantId) (tie : RoutingRuleRow → Nat) (state : RoutingState)
    (providers : List ProviderRow) (smppConfigs : List SmppConfigRow)
    (getUnitCosts : List Nat → String → TrafficType → Nat → Option Int) (getProviderMetrics : Nat → ProviderMetrics)
    (tenantId phoneNumber : String) (trafficType : TrafficType) (options : RouteOptions) {rules : List RoutingRuleRow}
    (hrules : (getRules uuid tie tenantId trafficType state).1 = .ok rules) :
    let sources := sourcesOf uuid tie state getUnitCosts getProviderMetrics
    let carriers : Carriers := ⟨state.source.rules, providers, smppConfigs⟩
    (∀ found, selectRoute sources tenantId phoneNumber trafficType options = .ok found →
      RouteCovers carriers phoneNumber found) ↔ Outranked sources carriers phoneNumber trafficType options rules :=
  selectRoute_covers_iff hrules

end Routing

namespace Sample

/-- The one rule of the tenant, which is for Ethiopia, with its provider and its SMPP configuration. -/
def carriers : Carriers := ⟨routingTable.rules, [⟨1, true⟩], [⟨11, 1, true⟩]⟩

def otpSources : RouteSources :=
  Routing.sourcesOf uuid (fun _ => 0) (Routing.start routingTable) (fun _ _ _ _ => some 18) fun _ => ⟨50, 1 / 100, .closed⟩

theorem otpRule_covers : Routing.RuleCovers carriers "+251911234567" smppRule where
  country := ⟨otpRule, by simp [carriers, routingTable], rfl, by decide⟩
  provider := ⟨⟨1, true⟩, by simp [carriers], rfl, rfl⟩
  smppConfig := by
    intro id hid
    cases hid
    exact ⟨⟨11, 1, true⟩, by simp [carriers], rfl, rfl⟩

theorem otpRule_first :
    Ranking.FirstLeast (Routing.Usable otpSources {}) (Routing.score otpSources .otp {}) [smppRule] smppRule :=
  ⟨[], [], rfl, by decide, by simp, by simp⟩

end Sample

namespace Routing

open Sample

theorem route_covers_iff_domestic : ∃ found, selectRoute otpSources "tenant" "+251911234567" .otp {} = .ok found ∧
    RouteCovers carriers "+251911234567" found := by
  obtain ⟨found, hfound⟩ : ∃ found, selectRoute otpSources "tenant" "+251911234567" .otp {} = .ok found :=
    ⟨_, (selectRoute_least rfl).2 ⟨smppRule, otpRule_first, rfl⟩⟩
  refine ⟨found, hfound,
    (route_covers_iff uuid (fun _ => 0) (start routingTable) _ _ _ _ "tenant" "+251911234567" .otp {} rfl).2 ?_ _ hfound⟩
  intro before rule after hsplit _ hnot
  have hrule : rule = smppRule := by
    have hmem : rule ∈ [smppRule] := by
      rw [show [smppRule] = before ++ rule :: after from hsplit]
      simp
    exact List.mem_singleton.1 hmem
  exact absurd (hrule ▸ otpRule_covers) hnot

/-- A message to Kenya takes the route for Ethiopia. -/
theorem foreign_destination_routed : ∃ found, selectRoute otpSources "tenant" "+254712345678" .otp {} = .ok found ∧
    ¬ RouteCovers carriers "+254712345678" found := by
  refine ⟨_, (selectRoute_least rfl).2 ⟨smppRule, otpRule_first, rfl⟩, fun hcovers => ?_⟩
  obtain ⟨rule, hrule, -, hcountry⟩ := hcovers.country
  rw [List.mem_singleton.1 hrule] at hcountry
  exact absurd hcountry (by decide)

end Routing

end SmsPlatform
