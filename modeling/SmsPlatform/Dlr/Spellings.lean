import SmsPlatform.Compliance.Spelling
import SmsPlatform.Dlr.Correlation

/-!
# The number of a report

A submission stores the normal form of its number, and the explorer looks numbers up by their normal form, but the fallback
lookup compares the text of the report with the stored one as it stands.  So two reports that spell one number differently
are correlated alike only when the number does not matter, or when neither text is the number of a message that the report
could be about (`correlates_alike_iff`).
-/

namespace SmsPlatform

/-! ### Normal forms -/

def NormalForm (phoneNumber : String) : Prop := MessagesService.normalizePhoneNumber phoneNumber = .ok phoneNumber

instance (phoneNumber : String) : Decidable (NormalForm phoneNumber) :=
  decidable_of_iff ((MessagesService.normalizePhoneNumber phoneNumber).toOption = some phoneNumber) (by
    unfold NormalForm
    cases MessagesService.normalizePhoneNumber phoneNumber <;> simp [Except.toOption])

theorem normalForm_of_normalize {phoneNumber normalized : String}
    (h : MessagesService.normalizePhoneNumber phoneNumber = .ok normalized) : NormalForm normalized := by
  obtain ⟨number, hwrites, rfl⟩ := MessagesService.normalizePhoneNumber_ok.1 h
  exact MessagesService.normalizePhoneNumber_ok.2 ⟨number, hwrites.again, rfl⟩

/-- A submission stores a number in normal form. -/
theorem MessagesService.prepareSubmission_normalForm {services : SubmissionServices} {compliance : ComplianceDb}
    {senderIds : List SenderIdRow} {context : SubmissionContext} {dto : SubmitMessageDto} {submission : Submission}
    (h : prepareSubmission services compliance senderIds context dto = .ok submission) (clock : TxClock) (id : Nat) :
    NormalForm (submission.row clock id).phoneNumber :=
  normalForm_of_normalize (prepareSubmission_ok h).phone

/-! ### Two payloads that differ in the number -/

def phoneNumberKeys : List String := ["phoneNumber", "phone_number", "to", "destination"]

/-- The payloads differ in the number only: one carries the text `p`, the other the text `q`. -/
structure DifferInPhone (payload payload' : JsonObject) (p q : String) : Prop where
  rest : ∀ key, key ∉ phoneNumberKeys → payload'.lookup key = payload.lookup key
  first : extractFirstString payload phoneNumberKeys = some p
  second : extractFirstString payload' phoneNumberKeys = some q

section Extraction

variable {payload payload' : JsonObject} {keys : List String}

theorem extractFirstString_congr (h : ∀ key ∈ keys, payload'.lookup key = payload.lookup key) :
    extractFirstString payload' keys = extractFirstString payload keys := by
  unfold extractFirstString
  induction keys with
  | nil => rfl
  | cons key keys ih =>
    rw [List.findSome?_cons, List.findSome?_cons, h key (by simp), ih fun key hkey => h key (by simp [hkey])]

theorem extractFirstNumber_congr (h : ∀ key ∈ keys, payload'.lookup key = payload.lookup key) :
    extractFirstNumber payload' keys = extractFirstNumber payload keys := by
  unfold extractFirstNumber
  induction keys with
  | nil => rfl
  | cons key keys ih =>
    rw [List.findSome?_cons, List.findSome?_cons, h key (by simp), ih fun key hkey => h key (by simp [hkey])]

theorem DifferInPhone.fields {p q : String} (h : DifferInPhone payload payload' p q) (readings : DlrReadings) :
    extractFields readings payload' = { extractFields readings payload with phoneNumber := some q } := by
  have hstring : ∀ keys, (∀ key ∈ keys, key ∉ phoneNumberKeys) →
      extractFirstString payload' keys = extractFirstString payload keys :=
    fun keys hkeys => extractFirstString_congr fun key hkey => h.rest key (hkeys key hkey)
  have hnumber : ∀ keys, (∀ key ∈ keys, key ∉ phoneNumberKeys) →
      extractFirstNumber payload' keys = extractFirstNumber payload keys :=
    fun keys hkeys => extractFirstNumber_congr fun key hkey => h.rest key (hkeys key hkey)
  unfold extractFields
  rw [hstring ["senderId", "sender_id", "from", "source"] (by decide),
    hstring ["eventAt", "event_at", "deliveredAt", "submitDate", "sentAt"] (by decide),
    hstring ["bodyHash", "body_hash"] (by decide), hstring ["body", "text", "message", "shortMessage"] (by decide),
    hnumber ["campaignId", "campaign_id"] (by decide), hnumber ["routeRuleId", "route_rule_id"] (by decide)]
  congr 1
  exact h.second

end Extraction

/-- The number of a report is handed over as it is, so a failed cast is the same for every number. -/
theorem ExtractedFields.cast_phoneNumber (readings : DlrReadings) (fields : ExtractedFields) (phoneNumber : Option String) :
    ExtractedFields.cast readings { fields with phoneNumber := phoneNumber } =
      (fields.cast readings).map fun cast => { cast with phoneNumber := phoneNumber } := by
  unfold cast
  dsimp only
  cases castOptional (timestamptzOf readings) fields.eventAt with
  | error failure => rfl
  | ok eventAt =>
    cases castOptional bigintOfNumber fields.campaignId with
    | error failure => rfl
    | ok campaignId => cases castOptional bigintOfNumber fields.routeRuleId <;> rfl

/-! ### When the spelling does not matter -/

section Correlation

variable (readings : DlrReadings) (db : Db) (clock : TxClock) (tie : MessageRow → Nat) (input : DlrCorrelationInput)
  (payload payload' : JsonObject)

/-- The two reports are correlated to the same message, or neither is to any. -/
def CorrelatesAlike : Prop :=
  correlateExtracted readings db clock tie input (extractFields readings payload) =
    correlateExtracted readings db clock tie input (extractFields readings payload')

/-- The provider's message id names a message. -/
def DirectlyMatched : Prop :=
  truthy input.providerMessageId = true ∧ ∃ message ∈ db.messages, directMatch input message = true

/-- A stored message is the safe match of the report, whose number is compared as a text. -/
def FallbackMatched : Prop :=
  ∃ message, SafeMatch db clock { input with fields := (extractFields readings payload).readable readings } message

variable {readings db clock tie input payload payload'} {p q n : String}

theorem DifferInPhone.castable_iff (h : DifferInPhone payload payload' p q) :
    (extractFields readings payload').Castable readings ↔ (extractFields readings payload).Castable readings := by
  rw [h.fields]
  exact ⟨fun h => ⟨h.eventAt, h.campaignId, h.routeRuleId⟩, fun h => ⟨h.eventAt, h.campaignId, h.routeRuleId⟩⟩

theorem truthy_of_extracted {keys : List String} (h : extractFirstString payload keys = some p) :
    truthy (some p) = true := by
  obtain ⟨key, -, hkey⟩ := List.exists_of_findSome?_eq_some h
  have hne : p ≠ "" := by
    split at hkey
    · split at hkey
      · cases hkey
      · cases hkey
        assumption
    · cases hkey
  simpa [truthy] using hne

/-- The messages that a report can be about have its number. -/
theorem phoneNumber_of_safeMatch {message : MessageRow} (hphone : (extractFields readings payload).phoneNumber = some p)
    (h : SafeMatch db clock { input with fields := (extractFields readings payload).readable readings } message) :
    message.phoneNumber = p := by
  have hsame := h.candidate.phoneNumber
  change (extractFields readings payload).phoneNumber = _ at hsame
  rw [hphone] at hsame
  exact (Option.some.inj hsame).symm

/-- Under fields that can be cast, what is found is the safe match. -/
theorem correlate_eq_ok_iff (hset : db.messages.Nodup) (hdirect : ¬ DirectlyMatched db input)
    (hphone : truthy (extractFields readings payload).phoneNumber = true)
    (hcast : (extractFields readings payload).Castable readings) {found : Option MessageRow} :
    correlateExtracted readings db clock tie input (extractFields readings payload) = .ok found ↔
      ∀ message, found = some message ↔
        SafeMatch db clock { input with fields := (extractFields readings payload).readable readings } message := by
  rw [correlateExtracted_fallback ⟨hphone, hdirect⟩ hcast]
  constructor
  · intro h message
    cases h
    exact correlateFallback_iff hset
  · intro h
    congr 1
    apply Option.ext
    intro message
    show _ = some message ↔ _ = some message
    rw [correlateFallback_iff hset, h]

/-- Two texts find no common message, so they are correlated alike only if both find none. -/
theorem DifferInPhone.alike_iff (h : DifferInPhone payload payload' p q) (hset : db.messages.Nodup)
    (hdirect : ¬ DirectlyMatched db input) (hcast : (extractFields readings payload).Castable readings) (hne : p ≠ q) :
    CorrelatesAlike readings db clock tie input payload payload' ↔
      ¬ FallbackMatched readings db clock input payload ∧ ¬ FallbackMatched readings db clock input payload' := by
  have hphone : (extractFields readings payload).phoneNumber = some p := h.first
  have hphone' : (extractFields readings payload').phoneNumber = some q := h.second
  have htruthy : truthy (extractFields readings payload).phoneNumber = true := hphone ▸ truthy_of_extracted h.first
  have htruthy' : truthy (extractFields readings payload').phoneNumber = true := hphone' ▸ truthy_of_extracted h.second
  have hspec := @correlate_eq_ok_iff readings db clock tie input payload hset hdirect htruthy hcast
  have hspec' := @correlate_eq_ok_iff readings db clock tie input payload' hset hdirect htruthy' (h.castable_iff.2 hcast)
  constructor
  · intro halike
    unfold CorrelatesAlike at halike
    have hnone : ∀ message,
        SafeMatch db clock { input with fields := (extractFields readings payload).readable readings } message →
        SafeMatch db clock { input with fields := (extractFields readings payload').readable readings } message →
        False := by
      intro message hmatch hmatch'
      exact hne ((phoneNumber_of_safeMatch hphone hmatch).symm.trans (phoneNumber_of_safeMatch hphone' hmatch'))
    have hfound := @correlateExtracted_fallback readings db clock input _ tie ⟨htruthy, hdirect⟩ hcast
    have hfirst := hspec.1 hfound
    have hsecond := hspec'.1 (halike ▸ hfound)
    constructor
    · rintro ⟨message, hmatch⟩
      exact hnone message hmatch ((hsecond message).1 ((hfirst message).2 hmatch))
    · rintro ⟨message, hmatch⟩
      exact hnone message ((hfirst message).1 ((hsecond message).2 hmatch)) hmatch
  · rintro ⟨hnone, hnone'⟩
    unfold CorrelatesAlike
    have hfirst : correlateExtracted readings db clock tie input (extractFields readings payload) = .ok none :=
      hspec.2 fun message => ⟨fun hsome => (nomatch hsome), fun hmatch => absurd ⟨message, hmatch⟩ hnone⟩
    have hsecond : correlateExtracted readings db clock tie input (extractFields readings payload') = .ok none :=
      hspec'.2 fun message => ⟨fun hsome => (nomatch hsome), fun hmatch => absurd ⟨message, hmatch⟩ hnone'⟩
    rw [hfirst, hsecond]

theorem correlate_of_direct (hdirect : DirectlyMatched db input) {fields fields' : ExtractedFields} :
    correlateExtracted readings db clock tie input fields = correlateExtracted readings db clock tie input fields' := by
  have hsome : (directLookup db tie input).isSome = true := directLookup_isSome.2 hdirect
  unfold correlateExtracted
  cases hlookup : directLookup db tie input with
  | some message => rfl
  | none =>
    rw [hlookup] at hsome
    cases hsome

/-- Both reports throw the error of the field that cannot be cast. -/
theorem DifferInPhone.alike_of_not_castable (h : DifferInPhone payload payload' p q)
    (hdirect : ¬ DirectlyMatched db input) (hcast : ¬ (extractFields readings payload).Castable readings) :
    CorrelatesAlike readings db clock tie input payload payload' := by
  obtain ⟨failure, hfailure⟩ := ExtractedFields.cast_of_not_castable hcast
  have hphone : (extractFields readings payload).phoneNumber = some p := h.first
  unfold CorrelatesAlike
  rw [h.fields]
  unfold correlateExtracted
  rw [directLookup_eq_none hdirect]
  dsimp only
  rw [if_pos (hphone ▸ truthy_of_extracted h.first), if_pos (truthy_of_extracted h.second),
    ExtractedFields.cast_phoneNumber readings _ (some q), hfailure]
  rfl

/-- In a store of normal forms, only the normal form of a number finds a message. -/
theorem eq_of_fallbackMatched (hnormal : ∀ message ∈ db.messages, NormalForm message.phoneNumber)
    (hphone : (extractFields readings payload).phoneNumber = some p)
    (hp : MessagesService.normalizePhoneNumber p = .ok n) (h : FallbackMatched readings db clock input payload) :
    p = n := by
  obtain ⟨message, hmatch⟩ := h
  have hform := hnormal message hmatch.mem
  rw [phoneNumber_of_safeMatch hphone hmatch] at hform
  exact Except.ok.inj (hform.symm.trans hp)

/-- Reports that spell one number differently are correlated alike if and only if the number is not looked at, or neither
text is, as it stands, the number of the report's safe match; when all stored numbers are normal forms, this can only be
the text that is the normal form. -/
theorem correlates_alike_iff (hset : db.messages.Nodup) (h : DifferInPhone payload payload' p q)
    (hp : MessagesService.normalizePhoneNumber p = .ok n) (hq : MessagesService.normalizePhoneNumber q = .ok n) :
    (CorrelatesAlike readings db clock tie input payload payload' ↔
      DirectlyMatched db input ∨ p = q ∨ ¬ (extractFields readings payload).Castable readings ∨
        (¬ FallbackMatched readings db clock input payload ∧ ¬ FallbackMatched readings db clock input payload')) ∧
    ((∀ message ∈ db.messages, NormalForm message.phoneNumber) →
      (CorrelatesAlike readings db clock tie input payload payload' ↔
        DirectlyMatched db input ∨ p = q ∨ ¬ (extractFields readings payload).Castable readings ∨
          ((p = n → ¬ FallbackMatched readings db clock input payload) ∧
            (q = n → ¬ FallbackMatched readings db clock input payload')))) := by
  have hgeneral : CorrelatesAlike readings db clock tie input payload payload' ↔
      DirectlyMatched db input ∨ p = q ∨ ¬ (extractFields readings payload).Castable readings ∨
        (¬ FallbackMatched readings db clock input payload ∧ ¬ FallbackMatched readings db clock input payload') := by
    by_cases hdirect : DirectlyMatched db input
    · exact ⟨fun _ => .inl hdirect, fun _ => correlate_of_direct hdirect⟩
    · by_cases hcast : (extractFields readings payload).Castable readings
      · by_cases hsame : p = q
        · refine ⟨fun _ => .inr (.inl hsame), fun _ => ?_⟩
          unfold CorrelatesAlike
          rw [h.fields, ← hsame, ← h.first]
          rfl
        · rw [h.alike_iff hset hdirect hcast hsame]
          simp [hdirect, hcast, hsame]
      · exact ⟨fun _ => .inr (.inr (.inl hcast)), fun _ => h.alike_of_not_castable hdirect hcast⟩
  refine ⟨hgeneral, fun hnormal => ?_⟩
  have hfirst : (p = n → ¬ FallbackMatched readings db clock input payload) ↔
      ¬ FallbackMatched readings db clock input payload :=
    ⟨fun himp hmatch => himp (eq_of_fallbackMatched hnormal h.first hp hmatch) hmatch, fun hnone _ => hnone⟩
  have hsecond : (q = n → ¬ FallbackMatched readings db clock input payload') ↔
      ¬ FallbackMatched readings db clock input payload' :=
    ⟨fun himp hmatch => himp (eq_of_fallbackMatched hnormal h.second hq hmatch) hmatch, fun hnone _ => hnone⟩
  rw [hgeneral, hfirst, hsecond]

end Correlation

/-! ### Three spellings -/

namespace Sample

/-- A report on `sentMessage` by its number and its text. -/
def spelledReport (phoneNumber : String) : JsonObject :=
  [("phoneNumber", .string phoneNumber), ("senderId", .string "ACME"), ("bodyHash", .string "hash")]

theorem spelledReport_differ (p q : String) (hp : p ≠ "") (hq : q ≠ "") :
    DifferInPhone (spelledReport p) (spelledReport q) p q where
  rest := by
    intro key hkey
    have hne : (key == "phoneNumber") = false := by
      rw [beq_eq_false_iff_ne]
      rintro rfl
      exact hkey (by decide)
    unfold spelledReport
    simp only [List.lookup_cons, hne]
  first := by simp [extractFirstString, spelledReport, phoneNumberKeys, hp]
  second := by simp [extractFirstString, spelledReport, phoneNumberKeys, hq]

end Sample

/-- Neither spelling is the stored text, so neither report finds the message. -/
theorem correlates_alike_iff_local : CorrelatesAlike Sample.noReadings Sample.sentDb (Sample.clock 2)
    (fun message => message.id) Sample.sentReport (Sample.spelledReport "0911000000")
    (Sample.spelledReport "251911000000") := by
  have hdiffer := Sample.spelledReport_differ "0911000000" "251911000000" (by decide) (by decide)
  have hnormal : ∀ message ∈ Sample.sentDb.messages, NormalForm message.phoneNumber := by decide
  have hiff := (@correlates_alike_iff Sample.noReadings Sample.sentDb (Sample.clock 2) (fun message => message.id)
    Sample.sentReport _ _ _ _ "+251911000000" (List.nodup_singleton _) hdiffer rfl rfl).2 hnormal
  exact hiff.2 (.inr (.inr (.inr ⟨fun h => absurd h (by decide), fun h => absurd h (by decide)⟩)))

/-- The stored spelling finds the message, the local spelling of the same number does not. -/
theorem local_spelling_not_found :
    MessagesService.normalizePhoneNumber "0911000000" = MessagesService.normalizePhoneNumber "+251911000000" ∧
      DifferInPhone (Sample.spelledReport "+251911000000") (Sample.spelledReport "0911000000") "+251911000000"
        "0911000000" ∧
      ¬ CorrelatesAlike Sample.noReadings Sample.sentDb (Sample.clock 2) (fun message => message.id) Sample.sentReport
        (Sample.spelledReport "+251911000000") (Sample.spelledReport "0911000000") := by
  refine ⟨rfl, Sample.spelledReport_differ _ _ (by decide) (by decide), ?_⟩
  unfold CorrelatesAlike
  have hfound : correlateExtracted Sample.noReadings Sample.sentDb (Sample.clock 2) (fun message => message.id)
      Sample.sentReport (extractFields Sample.noReadings (Sample.spelledReport "+251911000000")) =
        .ok (some Sample.sentMessage) := by rfl
  have hmissed : correlateExtracted Sample.noReadings Sample.sentDb (Sample.clock 2) (fun message => message.id)
      Sample.sentReport (extractFields Sample.noReadings (Sample.spelledReport "0911000000")) = .ok none := by rfl
  rw [hfound, hmissed]
  intro h
  cases h

end SmsPlatform
