import SmsPlatform.Dlr.Processor
import SmsPlatform.Wallet.JsNumbers

/-!
# The fields of a webhook as parameters

What `processWebhook` has extracted from a payload goes into the lookup by fields as it is: PostgreSQL casts the time
and the two ids, or raises an error (`ExtractedFields.cast`).  A lookup that finds the message by its provider message
id does not come to that (`CastsMatter`); otherwise a field that cannot be cast makes `processWebhook` throw
(`correlateExtracted_error`).
-/

namespace SmsPlatform

open StateExcept

/-! ### The casts of the fallback lookup -/

/-- A number as a BIGINT parameter.  Its text has a point or an exponent unless it is an integer below `1e21`. -/
def bigintOfNumber (value : ℚ) : Except Failure Int :=
  if value.den = 1 ∧ value.num.natAbs < 10 ^ 21 then bigintOf (.number (.int value.num))
  else .error (.error "invalid input syntax for type bigint")

def timestamptzOf (readings : DlrReadings) (text : String) : Except Failure Timestamp :=
  match readings.timestamptz text with
  | some time => .ok time
  | none => .error (.error "invalid input syntax for type timestamp with time zone")

/-- A parameter that may be NULL. -/
def castOptional {α β : Type} (cast : α → Except Failure β) : Option α → Except Failure (Option β)
  | none => .ok none
  | some value => (cast value).map some

/-- What is left of a parameter that PostgreSQL does not read. -/
def readOptional {α β : Type} (cast : α → Except Failure β) (value : Option α) : Option β :=
  value.bind fun v => (cast v).toOption

/-- PostgreSQL reads the parameter. -/
def Casts {α β : Type} (cast : α → Except Failure β) (value : Option α) : Prop :=
  ∀ v, value = some v → (cast v).toOption.isSome = true

namespace ExtractedFields

variable (readings : DlrReadings) (fields : ExtractedFields)

/-- The parameters as the statement sees them; a negative id is the id of no row. -/
def cast : Except Failure DlrFields := do
  let eventAt ← castOptional (timestamptzOf readings) fields.eventAt
  let campaignId ← castOptional bigintOfNumber fields.campaignId
  let routeRuleId ← castOptional bigintOfNumber fields.routeRuleId
  return {
    phoneNumber := fields.phoneNumber
    senderId := fields.senderId
    eventAt := eventAt
    bodyHash := fields.bodyHash
    campaignId := campaignId.bind Int.toNat?
    routeRuleId := routeRuleId.bind Int.toNat? }

/-- The fields without those that cannot be cast. -/
def readable : DlrFields where
  phoneNumber := fields.phoneNumber
  senderId := fields.senderId
  eventAt := readOptional (timestamptzOf readings) fields.eventAt
  bodyHash := fields.bodyHash
  campaignId := (readOptional bigintOfNumber fields.campaignId).bind Int.toNat?
  routeRuleId := (readOptional bigintOfNumber fields.routeRuleId).bind Int.toNat?

structure Castable : Prop where
  eventAt : Casts (timestamptzOf readings) fields.eventAt
  campaignId : Casts bigintOfNumber fields.campaignId
  routeRuleId : Casts bigintOfNumber fields.routeRuleId

end ExtractedFields

instance {α β : Type} (cast : α → Except Failure β) (value : Option α) : Decidable (Casts cast value) :=
  match value with
  | none => .isTrue fun _ h => (nomatch h)
  | some v => decidable_of_iff ((cast v).toOption.isSome = true)
      ⟨fun h _ hv => Option.some.inj hv ▸ h, fun h => h v rfl⟩

instance (readings : DlrReadings) (fields : ExtractedFields) : Decidable (fields.Castable readings) :=
  decidable_of_iff (Casts (timestamptzOf readings) fields.eventAt ∧ Casts bigintOfNumber fields.campaignId ∧
    Casts bigintOfNumber fields.routeRuleId) ⟨fun h => ⟨h.1, h.2.1, h.2.2⟩, fun h => ⟨h.1, h.2, h.3⟩⟩

/-- The number of an id is one that a BIGINT holds, printed by JavaScript as its digits. -/
theorem bigintOfNumber_isSome {value : ℚ} : (bigintOfNumber value).toOption.isSome = true ↔
    value.den = 1 ∧ value.num.natAbs < 10 ^ 21 ∧ IsBigint (Binary64.shortest value.num) := by
  unfold bigintOfNumber
  by_cases hplain : value.den = 1 ∧ value.num.natAbs < 10 ^ 21
  · rw [if_pos hplain]
    unfold bigintOf JsValue.toText
    rw [Decimal.parse_text]
    dsimp only
    by_cases hbigint : IsBigint (Binary64.shortest value.num)
    · rw [if_pos hbigint]
      exact ⟨fun _ => ⟨hplain.1, hplain.2, hbigint⟩, fun _ => rfl⟩
    · rw [if_neg hbigint]
      exact ⟨fun h => (nomatch h), fun h => absurd h.2.2 hbigint⟩
  · rw [if_neg hplain]
    constructor
    · intro h
      cases h
    · rintro ⟨hden, hnum, -⟩
      exact absurd ⟨hden, hnum⟩ hplain

section Casts

variable {α β : Type} {cast : α → Except Failure β} {value : Option α}

theorem castOptional_of_casts (h : Casts cast value) : castOptional cast value = .ok (readOptional cast value) := by
  cases value with
  | none => rfl
  | some v =>
    have hv := h v rfl
    show (cast v).map some = .ok (cast v).toOption
    cases hcast : cast v with
    | error failure =>
      rw [hcast] at hv
      cases hv
    | ok b => rfl

theorem castOptional_error (h : ¬ Casts cast value) : ∃ failure, castOptional cast value = .error failure := by
  cases value with
  | none => exact absurd (fun _ h => (nomatch h)) h
  | some v =>
    show ∃ failure, (cast v).map some = _
    cases hcast : cast v with
    | error failure => exact ⟨failure, rfl⟩
    | ok b =>
      refine absurd (fun v' hv' => ?_) h
      cases hv'
      rw [hcast]
      rfl

end Casts

namespace ExtractedFields

variable {readings : DlrReadings} {fields : ExtractedFields}

theorem cast_of_castable (h : fields.Castable readings) : fields.cast readings = .ok (fields.readable readings) := by
  unfold cast
  rw [castOptional_of_casts h.eventAt, castOptional_of_casts h.campaignId, castOptional_of_casts h.routeRuleId]
  rfl

/-- One field that cannot be cast is enough for an error. -/
theorem cast_of_not_castable (h : ¬ fields.Castable readings) : ∃ failure, fields.cast readings = .error failure := by
  unfold cast
  by_cases heventAt : Casts (timestamptzOf readings) fields.eventAt
  · rw [castOptional_of_casts heventAt]
    by_cases hcampaign : Casts bigintOfNumber fields.campaignId
    · rw [castOptional_of_casts hcampaign]
      have hroute : ¬ Casts bigintOfNumber fields.routeRuleId := fun hroute => h ⟨heventAt, hcampaign, hroute⟩
      obtain ⟨failure, hfailure⟩ := castOptional_error hroute
      rw [hfailure]
      exact ⟨failure, rfl⟩
    · obtain ⟨failure, hfailure⟩ := castOptional_error hcampaign
      rw [hfailure]
      exact ⟨failure, rfl⟩
  · obtain ⟨failure, hfailure⟩ := castOptional_error heventAt
    rw [hfailure]
    exact ⟨failure, rfl⟩

end ExtractedFields

/-! ### What a failing cast throws -/

/-- The lookup by the provider's message id. -/
def directLookup (db : Db) (tie : MessageRow → Nat) (input : DlrCorrelationInput) : Option MessageRow :=
  if truthy input.providerMessageId then
    (orderBy sentAtDescNullsLast tie (db.messages.filter (directMatch input))).head?
  else none

/-- `correlateMessageForDlr` on fields that have not been cast yet. -/
def correlateExtracted (readings : DlrReadings) (db : Db) (clock : TxClock) (tie : MessageRow → Nat)
    (input : DlrCorrelationInput) (fields : ExtractedFields) : Except Failure (Option MessageRow) :=
  match directLookup db tie input with
  | some row => .ok (some row)
  | none =>
    if truthy fields.phoneNumber then
      (fields.cast readings).map fun cast => correlateFallback db clock tie { input with fields := cast }
    else .ok none

theorem directLookup_isSome {db : Db} {tie : MessageRow → Nat} {input : DlrCorrelationInput} :
    (directLookup db tie input).isSome = true ↔
      truthy input.providerMessageId = true ∧ ∃ message ∈ db.messages, directMatch input message = true := by
  unfold directLookup
  by_cases htruthy : truthy input.providerMessageId = true
  · rw [if_pos htruthy, List.isSome_head?]
    constructor
    · intro hrows
      obtain ⟨row, hrow⟩ := List.exists_mem_of_ne_nil _ (by simpa using hrows)
      rw [mem_orderBy, List.mem_filter] at hrow
      exact ⟨htruthy, row, hrow⟩
    · rintro ⟨-, row, hrow, hmatch⟩
      have hmem : row ∈ orderBy sentAtDescNullsLast tie (db.messages.filter (directMatch input)) :=
        mem_orderBy.2 (List.mem_filter.2 ⟨hrow, hmatch⟩)
      simpa using List.ne_nil_of_mem hmem
  · rw [if_neg htruthy]
    exact ⟨fun h => (nomatch h), fun h => absurd h.1 htruthy⟩

theorem directLookup_eq_none {db : Db} {tie : MessageRow → Nat} {input : DlrCorrelationInput}
    (h : ¬ (truthy input.providerMessageId = true ∧ ∃ message ∈ db.messages, directMatch input message = true)) :
    directLookup db tie input = none := by
  rw [← Option.not_isSome_iff_eq_none, directLookup_isSome]
  exact h

section Correlation

variable {readings : DlrReadings} {db : Db} {clock : TxClock} {tie : MessageRow → Nat} {input : DlrCorrelationInput}
  {fields : ExtractedFields}

/-- The casts matter only for a number that the direct lookup leaves. -/
def CastsMatter (db : Db) (input : DlrCorrelationInput) (fields : ExtractedFields) : Prop :=
  truthy fields.phoneNumber = true ∧
    ¬ (truthy input.providerMessageId = true ∧ ∃ message ∈ db.messages, directMatch input message = true)

instance (db : Db) (input : DlrCorrelationInput) (fields : ExtractedFields) : Decidable (CastsMatter db input fields) :=
  inferInstanceAs (Decidable (_ ∧ ¬ (_ ∧ ∃ message ∈ db.messages, _)))

theorem correlateExtracted_of_castable (hfields : input.fields = fields.readable readings)
    (h : CastsMatter db input fields → fields.Castable readings) :
    correlateExtracted readings db clock tie input fields = .ok (correlateMessageForDlr db clock tie input) := by
  unfold correlateExtracted correlateMessageForDlr
  show _ = Except.ok (match directLookup db tie input with | some row => some row | none => _)
  cases hdirect : directLookup db tie input with
  | some row => rfl
  | none =>
    dsimp only
    have hphone : input.fields.phoneNumber = fields.phoneNumber := by
      rw [hfields]
      rfl
    rw [hphone]
    by_cases htruthy : truthy fields.phoneNumber = true
    · have hnone : ¬ (directLookup db tie input).isSome = true := by
        rw [hdirect]
        exact Bool.false_ne_true
      rw [if_pos htruthy, if_pos htruthy, ExtractedFields.cast_of_castable (h ⟨htruthy, mt directLookup_isSome.2 hnone⟩),
        ← hfields]
      rfl
    · rw [if_neg htruthy, if_neg htruthy]

theorem correlateExtracted_error (h : CastsMatter db input fields) (hcast : ¬ fields.Castable readings) :
    ∃ failure, correlateExtracted readings db clock tie input fields = .error failure := by
  obtain ⟨failure, hfailure⟩ := ExtractedFields.cast_of_not_castable hcast
  unfold correlateExtracted
  rw [directLookup_eq_none h.2]
  dsimp only
  rw [if_pos h.1, hfailure]
  exact ⟨failure, rfl⟩

/-- A correlation that does not throw is the one of the fields as PostgreSQL reads them. -/
theorem correlateExtracted_ok {found : Option MessageRow} (hfields : input.fields = fields.readable readings)
    (h : correlateExtracted readings db clock tie input fields = .ok found) :
    found = correlateMessageForDlr db clock tie input := by
  have hcast : CastsMatter db input fields → fields.Castable readings := by
    intro hmatter
    by_contra hnot
    obtain ⟨failure, hfailure⟩ := @correlateExtracted_error readings db clock tie input fields hmatter hnot
    rw [hfailure] at h
    cases h
  rw [correlateExtracted_of_castable hfields hcast] at h
  exact (Except.ok.inj h).symm

end Correlation

/-! ### The correlation of a stored webhook -/

/-- What `processWebhook` correlates a webhook by; the event names the provider. -/
def DlrWebhookRow.correlationInput (readings : DlrReadings) (webhook : DlrWebhookRow) (providerId : Nat) :
    DlrCorrelationInput where
  tenantId := webhook.tenantId
  providerId := providerId
  providerMessageId := webhook.providerMessageId
  fields := (extractFields readings webhook.payload).readable readings

/-- The call of `correlateMessageForDlr` in `processWebhook`. -/
def DlrWebhookRow.correlate (readings : DlrReadings) (db : Db) (clock : TxClock) (tie : MessageRow → Nat)
    (webhook : DlrWebhookRow) (providerId : Nat) : Except Failure (Option MessageRow) :=
  correlateExtracted readings db clock tie (webhook.correlationInput readings providerId)
    (extractFields readings webhook.payload)

namespace DlrWebhookRow

variable {readings : DlrReadings} {db : Db} {clock : TxClock} {tie : MessageRow → Nat} {webhook : DlrWebhookRow}
  {providerId : Nat}

theorem correlate_ok {found : Option MessageRow}
    (h : webhook.correlate readings db clock tie providerId = .ok found) :
    found = correlateMessageForDlr db clock tie (webhook.correlationInput readings providerId) :=
  correlateExtracted_ok rfl h

end DlrWebhookRow

end SmsPlatform
