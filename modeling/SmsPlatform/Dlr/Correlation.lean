import SmsPlatform.Dlr.Payload
import SmsPlatform.Lib.Ranking

/-!
# What the fallback lookup finds

A report without a direct match is correlated to the one message that its fields speak for most: the candidates are the
messages of the provider, the tenant and the number that were sent inside the search window, and the found one has the
highest score of all of them, at least `4`, and shares it with no other (`SafeMatch`).  The code reads this off the first
two of at most five rows in a sorted order (`correlateFallback_iff`), whatever order PostgreSQL gives to rows with equal
sort keys, and off fields that PostgreSQL has cast (`correlates_safely_iff`).
-/

namespace SmsPlatform

/-! ### The safe match -/

section Specification

variable (db : Db) (clock : TxClock) (input : DlrCorrelationInput)

/-- Six hours on both sides of the reported time, or the last day. -/
def InSearchWindow (sentAt : Timestamp) : Prop :=
  match input.fields.eventAt with
  | some eventAt => eventAt - hours 6 ≤ sentAt ∧ sentAt ≤ eventAt + hours 6
  | none => clock.now - hours 24 ≤ sentAt ∧ sentAt ≤ clock.now

structure Candidate (message : MessageRow) : Prop where
  provider : message.providerId = some input.providerId
  tenant : ∀ tenantId, input.tenantId = some tenantId → message.tenantId = tenantId
  phoneNumber : input.fields.phoneNumber = some message.phoneNumber
  sent : ∃ sentAt, message.sentAt = some sentAt ∧ InSearchWindow clock input sentAt

/-- The message that a report without a direct match belongs to. -/
structure SafeMatch (message : MessageRow) : Prop where
  mem : message ∈ db.messages
  candidate : Candidate clock input message
  sole : ∀ other ∈ db.messages, Candidate clock input other → other ≠ message →
    confidenceScore input other < confidenceScore input message
  confident : 4 ≤ confidenceScore input message

end Specification

section Fallback

variable {db : Db} {clock : TxClock} {input : DlrCorrelationInput} {message : MessageRow}

theorem SafeMatch.unique {message' : MessageRow} (h : SafeMatch db clock input message)
    (h' : SafeMatch db clock input message') : message = message' := by
  by_contra hne
  have hlt := h.sole message' h'.mem h'.candidate (Ne.symm hne)
  have hgt := h'.sole message h.mem h.candidate hne
  omega

/-- The bounds as the query has them. -/
theorem inSearchWindow_iff {sentAt : Timestamp} : InSearchWindow clock input sentAt ↔
    (input.fields.eventAt.map (· - hours 6)).getD (clock.now - hours 24) ≤ sentAt ∧
      sentAt ≤ (input.fields.eventAt.map (· + hours 6)).getD clock.now := by
  unfold InSearchWindow
  cases input.fields.eventAt with
  | none => exact Iff.rfl
  | some eventAt => exact Iff.rfl

theorem fallbackMatch_iff : fallbackMatch clock input message = true ↔ Candidate clock input message := by
  have htenant : (input.tenantId = none ∨ input.tenantId = some message.tenantId) ↔
      ∀ tenantId, input.tenantId = some tenantId → message.tenantId = tenantId := by
    cases input.tenantId with
    | none => simp
    | some tenantId => simp [eq_comm]
  unfold fallbackMatch
  rw [Bool.and_eq_true, decide_eq_true_iff, htenant]
  constructor
  · rintro ⟨⟨hprovider, htenant, hphone⟩, hsent⟩
    refine ⟨hprovider, htenant, hphone.symm, ?_⟩
    cases hsentAt : message.sentAt with
    | none =>
      rw [hsentAt] at hsent
      cases hsent
    | some sentAt =>
      rw [hsentAt] at hsent
      exact ⟨sentAt, rfl, inSearchWindow_iff.2 (of_decide_eq_true hsent)⟩
  · rintro ⟨hprovider, htenant, hphone, sentAt, hsentAt, hwindow⟩
    refine ⟨⟨hprovider, htenant, hphone.symm⟩, ?_⟩
    rw [hsentAt]
    exact decide_eq_true (inSearchWindow_iff.1 hwindow)

theorem safeMatch_iff_sole : SafeMatch db clock input message ↔
    Ranking.Sole (confidenceScore input) (db.messages.filter (fallbackMatch clock input)) message ∧
      4 ≤ confidenceScore input message := by
  unfold Ranking.Sole
  simp only [List.mem_filter, fallbackMatch_iff]
  constructor
  · rintro ⟨hmem, hcandidate, hsole, hconfident⟩
    exact ⟨⟨⟨hmem, hcandidate⟩, fun other hother => hsole other hother.1 hother.2⟩, hconfident⟩
  · rintro ⟨⟨⟨hmem, hcandidate⟩, hsole⟩, hconfident⟩
    exact ⟨hmem, hcandidate, fun other hother hcandidate => hsole other ⟨hother, hcandidate⟩, hconfident⟩

/-! ### The order of the lookup -/

theorem sentAtDescNullsLast_swap (a b : MessageRow) : sentAtDescNullsLast a b = (sentAtDescNullsLast b a).swap := by
  unfold sentAtDescNullsLast
  cases a.sentAt with
  | none => cases b.sentAt <;> rfl
  | some s =>
    cases b.sentAt with
    | none => rfl
    | some t => exact Std.OrientedOrd.eq_swap

instance : Std.TransCmp sentAtDescNullsLast where
  eq_swap := sentAtDescNullsLast_swap _ _
  isLE_trans {a b c} := by
    unfold sentAtDescNullsLast
    cases a.sentAt with
    | none => cases b.sentAt <;> cases c.sentAt <;> simp
    | some s =>
      cases b.sentAt with
      | none => cases c.sentAt <;> simp
      | some t =>
        cases c.sentAt with
        | none => simp
        | some u =>
          intro hab hbc
          exact Std.TransOrd.isLE_trans hbc hab

instance (tie : MessageRow → Nat) :
    Std.TransCmp fun a b => (fallbackOrder input a b).then (compare (tie a) (tie b)) :=
  have : Std.TransCmp fun a b => compare (confidenceScore input b) (confidenceScore input a) :=
    @Std.TransCmp.opposite _ (compareOn (confidenceScore input)) _
  inferInstanceAs (Std.TransCmp (compareLex (compareLex _ sentAtDescNullsLast) (compareOn tie)))

theorem orderBy_fallback_sorted (tie : MessageRow → Nat) (rows : List MessageRow) :
    (orderBy (fallbackOrder input) tie rows).Pairwise fun a b => confidenceScore input b ≤ confidenceScore input a := by
  have hsorted := Ranking.pairwise_insertionSort_isLE
    (fun a b => (fallbackOrder input a b).then (compare (tie a) (tie b))) rows
  refine hsorted.imp fun {a b} hle => ?_
  have hscore := Ordering.isLE_left_of_isLE_then (Ordering.isLE_left_of_isLE_then hle)
  exact Nat.isLE_compare.1 hscore

/-! ### The decision from the first two rows -/

/-- The fallback lookup finds the safe match, if there is one. -/
theorem correlateFallback_iff (hset : db.messages.Nodup) {tie : MessageRow → Nat} :
    correlateFallback db clock tie input = some message ↔ SafeMatch db clock input message := by
  have hperm := List.perm_insertionSort (fun a b => ((fallbackOrder input a b).then (compare (tie a) (tie b))).isLE = true)
    (db.messages.filter (fallbackMatch clock input))
  have hsorted := @orderBy_fallback_sorted input tie (db.messages.filter (fallbackMatch clock input))
  have hnodup := hperm.nodup_iff.2 (hset.filter _)
  have hsole : SafeMatch db clock input message ↔ Ranking.Sole (confidenceScore input)
      (orderBy (fallbackOrder input) tie (db.messages.filter (fallbackMatch clock input))) message ∧
        4 ≤ confidenceScore input message := by
    rw [safeMatch_iff_sole]
    unfold Ranking.Sole
    simp only [mem_orderBy]
  rw [hsole]
  unfold correlateFallback
  change (orderBy _ _ _).Nodup at hnodup
  generalize orderBy (fallbackOrder input) tie (db.messages.filter (fallbackMatch clock input)) = rows at hsorted hnodup ⊢
  cases rows with
  | nil => simp [Ranking.Sole]
  | cons best rest =>
    rw [Ranking.sole_cons_iff hsorted hnodup]
    simp only [List.take_succ_cons]
    by_cases hconfident : confidenceScore input best < 4
    · rw [if_pos hconfident]
      constructor
      · intro h
        cases h
      · rintro ⟨⟨rfl, -⟩, hfour⟩
        omega
    · rw [if_neg hconfident]
      cases rest with
      | nil =>
        constructor
        · intro h
          cases h
          exact ⟨⟨rfl, by simp⟩, by omega⟩
        · rintro ⟨⟨rfl, -⟩, -⟩
          rfl
      | cons runnerUp rest =>
        have hle : confidenceScore input runnerUp ≤ confidenceScore input best :=
          (List.pairwise_cons.1 hsorted).1 runnerUp (by simp)
        simp only [List.take_succ_cons]
        split
        · rename_i htie
          constructor
          · intro h
            cases h
          · rintro ⟨⟨-, hrunner⟩, -⟩
            have := hrunner runnerUp (by simp)
            omega
        · rename_i hne
          constructor
          · intro h
            cases h
            refine ⟨⟨rfl, fun other hother => ?_⟩, by omega⟩
            cases hother
            omega
          · rintro ⟨⟨rfl, -⟩, -⟩
            rfl

end Fallback

/-! ### The decision on fields as they come -/

section Extracted

variable {readings : DlrReadings} {db : Db} {clock : TxClock} {input : DlrCorrelationInput} {fields : ExtractedFields}

/-- The correlation of a report with these fields finds the safe match or nothing, whatever the order of equally ranked
rows. -/
def CorrelatesSafely (readings : DlrReadings) (db : Db) (clock : TxClock) (input : DlrCorrelationInput)
    (fields : ExtractedFields) : Prop :=
  ∃ found, (∀ tie, correlateExtracted readings db clock tie input fields = .ok found) ∧
    ∀ message, found = some message ↔ SafeMatch db clock { input with fields := fields.readable readings } message

theorem correlateExtracted_fallback {tie : MessageRow → Nat} (h : CastsMatter db input fields)
    (hcast : fields.Castable readings) : correlateExtracted readings db clock tie input fields =
      .ok (correlateFallback db clock tie { input with fields := fields.readable readings }) := by
  unfold correlateExtracted
  rw [directLookup_eq_none h.2]
  dsimp only
  rw [if_pos h.1, ExtractedFields.cast_of_castable hcast]
  rfl

/-- Without a direct match, a report with a phone number is correlated to its safe match or to nothing if and only if
PostgreSQL can cast its fields. -/
theorem correlates_safely_iff (hset : db.messages.Nodup) (hphone : truthy fields.phoneNumber = true)
    (hdirect : ¬ (truthy input.providerMessageId = true ∧
      ∃ message ∈ db.messages, directMatch input message = true)) :
    CorrelatesSafely readings db clock input fields ↔ fields.Castable readings := by
  constructor
  · rintro ⟨found, hfound, -⟩
    by_contra hcast
    obtain ⟨failure, hfailure⟩ : ∃ failure, correlateExtracted readings db clock (fun _ => 0) input fields =
        .error failure := correlateExtracted_error ⟨hphone, hdirect⟩ hcast
    rw [hfound] at hfailure
    cases hfailure
  · intro hcast
    refine ⟨correlateFallback db clock (fun _ => 0) { input with fields := fields.readable readings }, fun tie => ?_,
      fun message => correlateFallback_iff hset⟩
    rw [correlateExtracted_fallback ⟨hphone, hdirect⟩ hcast]
    congr 1
    apply Option.ext
    intro message
    show _ = some message ↔ _ = some message
    rw [correlateFallback_iff hset, correlateFallback_iff hset]

end Extracted

/-! ### Two reports on one message -/

namespace Sample

/-- A message of the provider, sent a moment ago. -/
def sentMessage : MessageRow :=
  { (⟨tenant, none, none, none, "ACME", "+251911000000", "hello", "hash", .transactional, 1, route, 10, none⟩ :
      Submission).row (clock 1) 1 with status := .providerAccepted, sentAt := some 1 }

def sentDb : Db := { Db.initial (wallets 100) with messages := [sentMessage] }

def sentReport : DlrCorrelationInput := ⟨some tenant, 1, none, {}⟩

def sentFields (campaignId : Option ℚ) : ExtractedFields :=
  ⟨some "+251911000000", some "ACME", none, some "hash", campaignId, none⟩

def noReadings : DlrReadings := ⟨id, fun _ => none, fun _ => none⟩

end Sample

theorem correlates_safely_iff_sent :
    CorrelatesSafely Sample.noReadings Sample.sentDb (Sample.clock 2) Sample.sentReport (Sample.sentFields none) :=
  (correlates_safely_iff (List.nodup_singleton _) (by decide) (by decide)).2 (by decide)

/-- The message is the only one that the report can be about, and the report says so by the sender and the text; that it
also names a campaign `1.5` makes the correlation throw. -/
theorem fractional_campaign_throws :
    SafeMatch Sample.sentDb (Sample.clock 2) { Sample.sentReport with
        fields := (Sample.sentFields (some (3 / 2))).readable Sample.noReadings } Sample.sentMessage ∧
      (∀ tie, correlateExtracted Sample.noReadings Sample.sentDb (Sample.clock 2) tie Sample.sentReport
        (Sample.sentFields (some (3 / 2))) = .error (.error "invalid input syntax for type bigint")) ∧
      ¬ CorrelatesSafely Sample.noReadings Sample.sentDb (Sample.clock 2) Sample.sentReport
        (Sample.sentFields (some (3 / 2))) := by
  have hthrows : ∀ tie, correlateExtracted Sample.noReadings Sample.sentDb (Sample.clock 2) tie Sample.sentReport
      (Sample.sentFields (some (3 / 2))) = .error (.error "invalid input syntax for type bigint") := by
    intro tie
    have hvalue : bigintOfNumber (3 / 2) = .error (.error "invalid input syntax for type bigint") :=
      if_neg (by decide +kernel)
    have hcast : castOptional bigintOfNumber (some (3 / 2)) =
        .error (.error "invalid input syntax for type bigint") := by
      show (bigintOfNumber (3 / 2)).map some = _
      rw [hvalue]
      rfl
    show ((Sample.sentFields (some (3 / 2))).cast Sample.noReadings).map _ = _
    have hfields : (Sample.sentFields (some (3 / 2))).cast Sample.noReadings =
        .error (.error "invalid input syntax for type bigint") := by
      show castOptional bigintOfNumber (some (3 / 2)) >>= _ = _
      rw [hcast]
      rfl
    rw [hfields]
    rfl
  refine ⟨?_, hthrows, fun ⟨found, hfound, _⟩ => ?_⟩
  · rw [safeMatch_iff_sole]
    refine ⟨⟨by decide +kernel, fun other hother hne => ?_⟩, by decide +kernel⟩
    have hmem := List.mem_of_mem_filter hother
    exact absurd (List.mem_singleton.1 hmem) hne
  · have hok := hfound fun _ => 0
    rw [hthrows] at hok
    cases hok

end SmsPlatform
