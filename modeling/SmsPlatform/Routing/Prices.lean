import SmsPlatform.Routing.Routing

/-!
# Prices

`getSellUnitPriceMinor` of `messages.service.ts` and `getUnitCosts` of `routing.service.ts`, over the table of pricing rules.
Both take the row that became effective last; neither asks whether it has become effective yet, and the second does not
look at the numbers of parts that the row is for.  `prices_in_force_iff` says when the rows they take are in force.
-/

namespace SmsPlatform

inductive PricingKind
  | sell | cost
  deriving DecidableEq

/-- A row of `pricing_rules`. -/
structure PricingRuleRow where
  kind : PricingKind
  tenantId : Option TenantId
  providerId : Option Nat
  countryCode : String
  trafficType : TrafficType
  partsFrom : Int
  partsTo : Int
  unitPriceMinor : Int
  effectiveFrom : Timestamp
  effectiveTo : Option Timestamp
  isActive : Bool
  deriving DecidableEq

namespace Pricing

open Queries

/-! ### The services -/

/-- `effective_to IS NULL OR effective_to > now()`. -/
def notEnded (now : Timestamp) (row : PricingRuleRow) : Bool :=
  row.effectiveTo.all fun effectiveTo => decide (now < effectiveTo)

section Services

variable (table : List PricingRuleRow) (now : Timestamp) (countryCode : String) (trafficType : TrafficType)

/-- The largest SMALLINT. -/
def maxSmallint : Nat := 2 ^ 15 - 1

/-- The WHERE clause of `getSellUnitPriceMinor`. -/
def sellMatch (tenantId : TenantId) (parts : Nat) (row : PricingRuleRow) : Bool :=
  decide (row.kind = .sell ∧ row.tenantId = some tenantId ∧ row.countryCode = countryCode ∧
    row.trafficType = trafficType) && decide (row.partsFrom ≤ parts ∧ (parts : Int) ≤ row.partsTo) && row.isActive &&
    notEnded now row

/-- `ORDER BY effective_from DESC LIMIT 1`. -/
def sellRow (tie : PricingRuleRow → Nat) (tenantId : TenantId) (parts : Nat) : Option PricingRuleRow :=
  (newestFirst PricingRuleRow.effectiveFrom tie
    (table.filter (sellMatch now countryCode trafficType tenantId parts))).head?

/-- The comparison with SMALLINT columns makes the number of parts a SMALLINT. -/
def getSellUnitPriceMinor (tie : PricingRuleRow → Nat) (tenantId : TenantId) (parts : Nat) : Except Failure Int :=
  if maxSmallint < parts then .error (.error "value out of range for type smallint")
  else .ok (((sellRow table now countryCode trafficType tie tenantId parts).map PricingRuleRow.unitPriceMinor).getD 0)

/-- The WHERE clause of `getUnitCosts`. -/
def costMatch (providerIds : List Nat) (row : PricingRuleRow) : Bool :=
  decide (row.kind = .cost ∧ (∃ providerId ∈ providerIds, row.providerId = some providerId) ∧
    row.countryCode = countryCode ∧ row.trafficType = trafficType) && row.isActive && notEnded now row

def costRows (tie : PricingRuleRow → Nat) (providerIds : List Nat) : List PricingRuleRow :=
  newestFirst PricingRuleRow.effectiveFrom tie (table.filter (costMatch now countryCode trafficType providerIds))

/-- One step of the loop that fills the Map. -/
def addCost (costs : Nat → Option Int) (row : PricingRuleRow) : Nat → Option Int :=
  match row.providerId with
  | none => costs
  | some providerId =>
    if (costs providerId).isSome then costs else Function.update costs providerId (some row.unitPriceMinor)

def getUnitCosts (tie : PricingRuleRow → Nat) (providerIds : List Nat) : Nat → Option Int :=
  (costRows table now countryCode trafficType tie providerIds).foldl addCost fun _ => none

/-- The row that the cost of a provider is taken from. -/
def costRow (tie : PricingRuleRow → Nat) (providerIds : List Nat) (providerId : Nat) : Option PricingRuleRow :=
  (costRows table now countryCode trafficType tie providerIds).find? fun row => decide (row.providerId = some providerId)

end Services

theorem foldl_addCost (rows : List PricingRuleRow) (costs : Nat → Option Int) (providerId : Nat) :
    rows.foldl addCost costs providerId = (costs providerId).or
      ((rows.find? fun row => decide (row.providerId = some providerId)).map PricingRuleRow.unitPriceMinor) := by
  induction rows generalizing costs with
  | nil => simp
  | cons row rows ih =>
    rw [List.foldl_cons, ih, List.find?_cons]
    unfold addCost
    cases hrow : row.providerId with
    | none => simp
    | some other =>
      by_cases hother : other = providerId
      · subst hother
        cases hcost : costs other with
        | none => simp [hcost]
        | some cost => simp [hcost]
      · have hne : providerId ≠ other := Ne.symm hother
        cases hcost : costs other with
        | none => simp [hcost, hother, hne]
        | some cost => simp [hcost, hother]

theorem getSellUnitPriceMinor_eq {table : List PricingRuleRow} {now : Timestamp} {countryCode : String}
    {trafficType : TrafficType} {tie : PricingRuleRow → Nat} {tenantId : TenantId} {parts : Nat}
    (hparts : parts ≤ maxSmallint) : getSellUnitPriceMinor table now countryCode trafficType tie tenantId parts =
      .ok (((sellRow table now countryCode trafficType tie tenantId parts).map PricingRuleRow.unitPriceMinor).getD 0) :=
  if_neg (Nat.not_lt.2 hparts)

/-- The Map holds the cost of the first row of each provider. -/
theorem getUnitCosts_eq (table : List PricingRuleRow) (now : Timestamp) (countryCode : String) (trafficType : TrafficType)
    (tie : PricingRuleRow → Nat) (providerIds : List Nat) (providerId : Nat) :
    getUnitCosts table now countryCode trafficType tie providerIds providerId =
      (costRow table now countryCode trafficType tie providerIds providerId).map PricingRuleRow.unitPriceMinor := by
  unfold getUnitCosts costRow
  rw [foldl_addCost]
  rfl

/-! ### Rows in force -/

/-- The row is active, is for messages of so many parts, has become effective and has not ended. -/
structure InForce (now : Timestamp) (parts : Nat) (row : PricingRuleRow) : Prop where
  active : row.isActive = true
  partsFrom : row.partsFrom ≤ parts
  partsTo : parts ≤ row.partsTo
  begun : row.effectiveFrom ≤ now
  notEnded : ∀ effectiveTo, row.effectiveTo = some effectiveTo → now < effectiveTo

def SellRule (tenantId : TenantId) (countryCode : String) (trafficType : TrafficType) (row : PricingRuleRow) : Prop :=
  row.kind = .sell ∧ row.tenantId = some tenantId ∧ row.countryCode = countryCode ∧ row.trafficType = trafficType

def CostRule (providerId : Nat) (countryCode : String) (trafficType : TrafficType) (row : PricingRuleRow) : Prop :=
  row.kind = .cost ∧ row.providerId = some providerId ∧ row.countryCode = countryCode ∧ row.trafficType = trafficType

/-- The row is the latest of the rows of a kind, or there are none of the kind. -/
def TakenFrom (table : List PricingRuleRow) (kind : PricingRuleRow → Prop) : Option PricingRuleRow → Prop
  | some row => Latest PricingRuleRow.effectiveFrom kind table row
  | none => ∀ row ∈ table, ¬ kind row

/-- Whatever PostgreSQL delivers first, the sell price is that of the latest row in force, and so is the cost of each
provider; without a row in force there is no such row. -/
structure PricesInForce (table : List PricingRuleRow) (now : Timestamp) (countryCode : String) (trafficType : TrafficType)
    (tenantId : TenantId) (parts : Nat) (providerIds : List Nat) : Prop where
  sell : ∀ tie, TakenFrom table (fun row => SellRule tenantId countryCode trafficType row ∧ InForce now parts row)
    (sellRow table now countryCode trafficType tie tenantId parts)
  cost : ∀ providerId ∈ providerIds, ∀ tie,
    TakenFrom table (fun row => CostRule providerId countryCode trafficType row ∧ InForce now parts row)
      (costRow table now countryCode trafficType tie providerIds providerId)

/-- What a lookup of the newest row takes is always of a kind exactly if every other row that matches has a later one of
the kind. -/
theorem takenFrom_iff {table : List PricingRuleRow} {kind : PricingRuleRow → Prop} {holds key : PricingRuleRow → Bool}
    (hkind : ∀ row, kind row → holds row = true ∧ key row = true) :
    (∀ tie, TakenFrom table kind ((newestFirst PricingRuleRow.effectiveFrom tie (table.filter holds)).find? key)) ↔
      ∀ row ∈ table, holds row = true ∧ key row = true → ¬ kind row →
        ∃ later ∈ table, kind later ∧ row.effectiveFrom < later.effectiveFrom := by
  rw [← latest_sub_iff fun row _ => hkind row]
  constructor
  · intro h row hlatest
    obtain ⟨tie, hfind⟩ := exists_tie_find?_newestFirst.2 (latest_filter.2 hlatest)
    have htaken := h tie
    rw [hfind] at htaken
    exact htaken
  · intro h tie
    cases hfind : (newestFirst PricingRuleRow.effectiveFrom tie (table.filter holds)).find? key with
    | some row => exact h row (latest_filter.1 (find?_newestFirst_latest hfind))
    | none =>
      intro row hrow hrowKind
      obtain ⟨hholds, hkey⟩ := hkind row hrowKind
      have hmem : row ∈ newestFirst PricingRuleRow.effectiveFrom tie (table.filter holds) :=
        mem_newestFirst.2 (List.mem_filter.2 ⟨hrow, hholds⟩)
      exact List.find?_eq_none.1 hfind row hmem hkey

section Lookups

variable {table : List PricingRuleRow} {now : Timestamp} {countryCode : String} {trafficType : TrafficType}
  {tenantId : TenantId} {parts : Nat} {providerIds : List Nat} {providerId : Nat} {row : PricingRuleRow}

theorem notEnded_iff : notEnded now row = true ↔ ∀ effectiveTo, row.effectiveTo = some effectiveTo → now < effectiveTo := by
  unfold Pricing.notEnded
  rw [Option.all_eq_true]
  exact forall_congr' fun effectiveTo => imp_congr_right fun _ => decide_eq_true_iff

/-- All that a row of the sell query may lack is to have become effective. -/
theorem sellMatch_of_inForce (hrule : SellRule tenantId countryCode trafficType row) (h : InForce now parts row) :
    sellMatch now countryCode trafficType tenantId parts row = true := by
  unfold sellMatch
  rw [Bool.and_eq_true, Bool.and_eq_true, Bool.and_eq_true, decide_eq_true_eq, decide_eq_true_eq]
  exact ⟨⟨⟨hrule, h.partsFrom, h.partsTo⟩, h.active⟩, notEnded_iff.2 h.notEnded⟩

theorem inForce_of_sellMatch (hmatch : sellMatch now countryCode trafficType tenantId parts row = true)
    (hbegun : row.effectiveFrom ≤ now) : SellRule tenantId countryCode trafficType row ∧ InForce now parts row := by
  unfold sellMatch at hmatch
  rw [Bool.and_eq_true, Bool.and_eq_true, Bool.and_eq_true, decide_eq_true_eq, decide_eq_true_eq] at hmatch
  obtain ⟨⟨⟨hrule, hparts⟩, hactive⟩, hended⟩ := hmatch
  exact ⟨hrule, hactive, hparts.1, hparts.2, hbegun, notEnded_iff.1 hended⟩

theorem costMatch_iff (hprovider : providerId ∈ providerIds) :
    costMatch now countryCode trafficType providerIds row = true ∧ decide (row.providerId = some providerId) = true ↔
      CostRule providerId countryCode trafficType row ∧ row.isActive = true ∧ notEnded now row = true := by
  unfold costMatch CostRule
  rw [Bool.and_eq_true, Bool.and_eq_true, decide_eq_true_eq, decide_eq_true_eq]
  constructor
  · rintro ⟨⟨⟨⟨hkind, -, hcountry, htraffic⟩, hactive⟩, hended⟩, hid⟩
    exact ⟨⟨hkind, hid, hcountry, htraffic⟩, hactive, hended⟩
  · rintro ⟨⟨hkind, hid, hcountry, htraffic⟩, hactive, hended⟩
    exact ⟨⟨⟨⟨hkind, ⟨providerId, hprovider, hid⟩, hcountry, htraffic⟩, hactive⟩, hended⟩, hid⟩

/-- The sell price is right exactly if no row that the query finds is still to become effective. -/
theorem sell_takenFrom_iff :
    (∀ tie, TakenFrom table (fun row => SellRule tenantId countryCode trafficType row ∧ InForce now parts row)
      (sellRow table now countryCode trafficType tie tenantId parts)) ↔
      ∀ row ∈ table, sellMatch now countryCode trafficType tenantId parts row = true → row.effectiveFrom ≤ now := by
  have hhead : ∀ rows : List PricingRuleRow, rows.head? = rows.find? fun _ => true := by
    intro rows
    cases rows <;> rfl
  unfold sellRow
  simp only [hhead]
  rw [takenFrom_iff fun row hrow => ⟨sellMatch_of_inForce hrow.1 hrow.2, rfl⟩]
  constructor
  · intro h row hrow hmatch
    by_contra hahead
    have hnot : ¬ (SellRule tenantId countryCode trafficType row ∧ InForce now parts row) := fun h => hahead h.2.begun
    obtain ⟨later, -, hlater, hlt⟩ := h row hrow ⟨hmatch, rfl⟩ hnot
    exact hahead (Int.le_trans (Int.le_of_lt hlt) hlater.2.begun)
  · intro h row hrow hmatch hnot
    exact absurd (inForce_of_sellMatch hmatch.1 (h row hrow hmatch.1)) hnot

theorem cost_takenFrom_iff (hprovider : providerId ∈ providerIds) :
    (∀ tie, TakenFrom table (fun row => CostRule providerId countryCode trafficType row ∧ InForce now parts row)
      (costRow table now countryCode trafficType tie providerIds providerId)) ↔
      ∀ row ∈ table, CostRule providerId countryCode trafficType row → row.isActive = true → notEnded now row = true →
        ¬ InForce now parts row → ∃ later ∈ table, CostRule providerId countryCode trafficType later ∧
          InForce now parts later ∧ row.effectiveFrom < later.effectiveFrom := by
  unfold costRow costRows
  rw [takenFrom_iff fun row hrow => (costMatch_iff hprovider).2 ⟨hrow.1, hrow.2.active, notEnded_iff.2 hrow.2.notEnded⟩]
  constructor
  · intro h row hrow hrule hactive hended hnot
    obtain ⟨later, hlater, ⟨hrule', hforce⟩, hlt⟩ :=
      h row hrow ((costMatch_iff hprovider).2 ⟨hrule, hactive, hended⟩) fun h => hnot h.2
    exact ⟨later, hlater, hrule', hforce, hlt⟩
  · intro h row hrow hmatch hnot
    obtain ⟨hrule, hactive, hended⟩ := (costMatch_iff hprovider).1 hmatch
    obtain ⟨later, hlater, hrule', hforce, hlt⟩ := h row hrow hrule hactive hended fun h => hnot ⟨hrule, h⟩
    exact ⟨later, hlater, ⟨hrule', hforce⟩, hlt⟩

end Lookups

/-- The price and the costs are those of the rows that the queries take, and these are the rows in force exactly if no
active sell row of the tenant for so many parts is still to become effective, and every active cost row of a provider that
is not in force has a later one that is. -/
theorem prices_in_force_iff (table : List PricingRuleRow) (now : Timestamp) (countryCode : String)
    (trafficType : TrafficType) (tenantId : TenantId) (parts : Nat) (providerIds : List Nat) :
    (∀ tie, (parts ≤ maxSmallint → getSellUnitPriceMinor table now countryCode trafficType tie tenantId parts =
        .ok (((sellRow table now countryCode trafficType tie tenantId parts).map PricingRuleRow.unitPriceMinor).getD 0)) ∧
      ∀ providerId, getUnitCosts table now countryCode trafficType tie providerIds providerId =
        (costRow table now countryCode trafficType tie providerIds providerId).map PricingRuleRow.unitPriceMinor) ∧
    (PricesInForce table now countryCode trafficType tenantId parts providerIds ↔
      (∀ row ∈ table, sellMatch now countryCode trafficType tenantId parts row = true → row.effectiveFrom ≤ now) ∧
      ∀ providerId ∈ providerIds, ∀ row ∈ table, CostRule providerId countryCode trafficType row → row.isActive = true →
        notEnded now row = true → ¬ InForce now parts row → ∃ later ∈ table,
          CostRule providerId countryCode trafficType later ∧ InForce now parts later ∧
            row.effectiveFrom < later.effectiveFrom) := by
  refine ⟨fun tie => ⟨getSellUnitPriceMinor_eq, fun providerId => getUnitCosts_eq ..⟩, ?_, ?_⟩
  · intro h
    exact ⟨sell_takenFrom_iff.1 h.sell, fun providerId hprovider => (cost_takenFrom_iff hprovider).1 (h.cost _ hprovider)⟩
  · rintro ⟨hsell, hcost⟩
    exact ⟨sell_takenFrom_iff.2 hsell, fun providerId hprovider => (cost_takenFrom_iff hprovider).2 (hcost _ hprovider)⟩

end Pricing

/-! ### In a submission -/

namespace MessagesService

open Pricing StateExcept

/-- The price of a prepared submission is that of the row of the sell query, for its number of parts. -/
theorem prepareSubmission_price {services : SubmissionServices} {compliance : ComplianceDb} {senderIds : List SenderIdRow}
    {context : SubmissionContext} {dto : SubmitMessageDto} {submission : Submission} {table : List PricingRuleRow}
    {now : Timestamp} {tie : PricingRuleRow → Nat}
    (hprices : ∀ tenantId countryCode trafficType parts, services.unitPriceMinor tenantId countryCode trafficType parts =
      (getSellUnitPriceMinor table now countryCode trafficType tie tenantId parts).toOption)
    (h : prepareSubmission services compliance senderIds context dto = .ok submission)
    (hparts : submission.messageParts ≤ maxSmallint) :
    submission.sellUnitPriceMinor = ((sellRow table now (countryCodeFor submission.phoneNumber) submission.trafficType tie
      context.tenantId submission.messageParts).map PricingRuleRow.unitPriceMinor).getD 0 := by
  unfold prepareSubmission at h
  split at h
  · cases h
  · obtain ⟨_, -, h⟩ := except_bind_eq_ok.1 h
    obtain ⟨_, -, h⟩ := except_bind_eq_ok.1 h
    obtain ⟨phoneNumber, -, h⟩ := except_bind_eq_ok.1 h
    obtain ⟨_, -, h⟩ := except_bind_eq_ok.1 h
    obtain ⟨body, routePreview, rfl, -, -⟩ := completeSubmission_ok h
    have hfits : computeMessageParts body ≤ maxSmallint := hparts
    show (services.unitPriceMinor _ _ _ _).getD 0 = _
    rw [hprices, getSellUnitPriceMinor_eq hfits]
    rfl

end MessagesService

namespace Sample

/-- A price of the tenant that is in force from time 0 on, and a dearer one from time 100 on. -/
def price (unitPriceMinor : Int) (effectiveFrom : Timestamp) : PricingRuleRow where
  kind := .sell
  tenantId := some tenant
  providerId := none
  countryCode := "ET"
  trafficType := .otp
  partsFrom := 1
  partsTo := 10
  unitPriceMinor := unitPriceMinor
  effectiveFrom := effectiveFrom
  effectiveTo := none
  isActive := true

/-- What the provider costs for messages of these numbers of parts. -/
def cost (unitPriceMinor partsFrom partsTo : Int) (effectiveFrom : Timestamp) : PricingRuleRow :=
  { price unitPriceMinor effectiveFrom with
    kind := .cost
    tenantId := none
    providerId := some 1
    partsFrom := partsFrom
    partsTo := partsTo }

end Sample

namespace Pricing

open Sample

/-- A message of one part is given the cost of messages of two parts and more, which has been written later, and a price
that is announced for time 100 is charged at time 10. -/
theorem other_price_charged :
    (getUnitCosts [cost 5 1 1 0, cost 3 2 10 100] 200 "ET" .otp (fun _ => 0) [1] 1 = some 3 ∧
      ¬ PricesInForce [cost 5 1 1 0, cost 3 2 10 100] 200 "ET" .otp tenant 1 [1]) ∧
    getSellUnitPriceMinor [price 18 0, price 25 100] 10 "ET" .otp (fun _ => 0) tenant 1 = .ok 25 ∧
      ¬ PricesInForce [price 18 0, price 25 100] 10 "ET" .otp tenant 1 [] := by
  have hcost : costRow [cost 5 1 1 0, cost 3 2 10 100] 200 "ET" .otp (fun _ => 0) [1] 1 = some (cost 3 2 10 100) := by
    have hmatch : [cost 5 1 1 0, cost 3 2 10 100].filter (costMatch 200 "ET" .otp [1]) =
        [cost 5 1 1 0, cost 3 2 10 100] := by
      decide
    unfold costRow costRows Queries.newestFirst
    rw [hmatch]
    simp [price, cost, List.mergeSort]
  have hsell : sellRow [price 18 0, price 25 100] 10 "ET" .otp (fun _ => 0) tenant 1 = some (price 25 100) := by
    have hmatch : [price 18 0, price 25 100].filter (sellMatch 10 "ET" .otp tenant 1) = [price 18 0, price 25 100] := by
      decide
    unfold sellRow Queries.newestFirst
    rw [hmatch]
    simp [price, List.mergeSort]
  have hthree : getUnitCosts [cost 5 1 1 0, cost 3 2 10 100] 200 "ET" .otp (fun _ => 0) [1] 1 = some 3 := by
    rw [getUnitCosts_eq, hcost]
    rfl
  have hcharged : getSellUnitPriceMinor [price 18 0, price 25 100] 10 "ET" .otp (fun _ => 0) tenant 1 = .ok 25 := by
    unfold getSellUnitPriceMinor
    rw [hsell]
    decide
  refine ⟨⟨hthree, fun h => ?_⟩, hcharged, fun h => ?_⟩
  · have htaken := h.cost 1 (by decide) fun _ => 0
    rw [hcost] at htaken
    exact absurd htaken.2.1.2.partsFrom (by decide)
  · have htaken := h.sell fun _ => 0
    rw [hsell] at htaken
    exact absurd htaken.2.1.2.begun (by decide)

end Pricing

end SmsPlatform
