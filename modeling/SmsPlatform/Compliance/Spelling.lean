import SmsPlatform.Messages.Preparation
import SmsPlatform.Pipeline.World

/-!
# Spellings of a phone number

Two texts spell the same subscriber when their digits, with a leading 0 turned into 251, are the same.  The normalisers
go by the digits and the plus signs, so they do not see through every spelling: a number without country code is
stored as it stands, a plus sign before a local 0 hides it, and a plus sign after the first digit stays.  A stored
number blocks a spelling exactly if both write the same number (`opt_out_covers_spelling`); plain spellings do.
-/

namespace SmsPlatform

open StateExcept

/-! ### What a text writes -/

/-- The digits of a text, with a leading 0 turned into 251. -/
def subscriberDigits (phoneNumber : String) : List Char :=
  match phoneNumber.toList.filter Char.isDigit with
  | '0' :: rest => "251".toList ++ rest
  | digits => digits

def SameSubscriber (p q : String) : Prop := subscriberDigits p = subscriberDigits q

instance (p q : String) : Decidable (SameSubscriber p q) := inferInstanceAs (Decidable (_ = _))

/-- The number that a text writes, in one of the three ways to write one: behind a plus sign, with its country code, or
with a 0 in the place of 251. -/
inductive Writes (phoneNumber : String) : List Char → Prop
  | plus {number : List Char} (h : digitsAndPlus phoneNumber = '+' :: number) : Writes phoneNumber number
  | country {number : List Char} (h : digitsAndPlus phoneNumber = "251".toList ++ number) :
      Writes phoneNumber ("251".toList ++ number)
  | national {number : List Char} (h : digitsAndPlus phoneNumber = '0' :: number) :
      Writes phoneNumber ("251".toList ++ number)

theorem startsWith_iff {text : List Char} {pre : String} :
    startsWith text pre = true ↔ ∃ rest, text = pre.toList ++ rest := by
  unfold startsWith
  rw [List.isPrefixOf_iff_prefix]
  constructor
  · rintro ⟨rest, rfl⟩
    exact ⟨rest, rfl⟩
  · rintro ⟨rest, rfl⟩
    exact ⟨rest, rfl⟩

/-- The normaliser of submissions succeeds exactly on the texts that write a number, and then agrees with the
compliance service. -/
theorem MessagesService.normalizePhoneNumber_ok {phoneNumber normalized : String} :
    MessagesService.normalizePhoneNumber phoneNumber = .ok normalized ↔
      ∃ number, Writes phoneNumber number ∧ normalized = .ofList ('+' :: number) := by
  unfold MessagesService.normalizePhoneNumber
  dsimp only
  constructor
  · intro h
    split at h
    · rename_i hplus
      obtain ⟨number, hnumber⟩ := startsWith_iff.1 hplus
      rw [hnumber] at h
      exact ⟨number, .plus hnumber, (Except.ok.inj h).symm⟩
    · split at h
      · rename_i hcountry
        obtain ⟨number, hnumber⟩ := startsWith_iff.1 hcountry
        rw [hnumber] at h
        exact ⟨_, .country hnumber, (Except.ok.inj h).symm⟩
      · split at h
        · rename_i hnational
          obtain ⟨number, hnumber⟩ := startsWith_iff.1 hnational
          rw [hnumber] at h
          exact ⟨_, .national hnumber, (Except.ok.inj h).symm⟩
        · cases h
  · rintro ⟨number, hwrites, rfl⟩
    cases hwrites with
    | plus h => rw [h]; rfl
    | country h => rw [h]; rfl
    | national h => rw [h]; rfl

/-- The normaliser of the compliance service yields a number behind a plus sign exactly if the text writes it. -/
theorem ComplianceService.normalizePhoneNumber_eq {phoneNumber : String} {number : List Char} :
    ComplianceService.normalizePhoneNumber phoneNumber = .ofList ('+' :: number) ↔ Writes phoneNumber number := by
  unfold ComplianceService.normalizePhoneNumber
  dsimp only
  constructor
  · intro h
    split at h
    · exact .plus (String.ofList_inj.1 h)
    · rename_i hplus
      split at h
      · rename_i hcountry
        obtain ⟨rest, hrest⟩ := startsWith_iff.1 hcountry
        have hnumber := (List.cons.inj (String.ofList_inj.1 h)).2
        rw [← hnumber, hrest]
        exact .country hrest
      · split at h
        · rename_i hnational
          obtain ⟨rest, hrest⟩ := startsWith_iff.1 hnational
          have hnumber := (List.cons.inj (String.ofList_inj.1 h)).2
          rw [← hnumber, hrest]
          exact .national hrest
        · exact absurd (startsWith_iff.2 ⟨number, String.ofList_inj.1 h⟩) hplus
  · intro hwrites
    cases hwrites with
    | plus h => rw [h]; rfl
    | country h => rw [h]; rfl
    | national h => rw [h]; rfl

theorem Writes.unique {phoneNumber : String} {number number' : List Char} (h : Writes phoneNumber number)
    (h' : Writes phoneNumber number') : number = number' := by
  have hsame := (ComplianceService.normalizePhoneNumber_eq.2 h).symm.trans
    (ComplianceService.normalizePhoneNumber_eq.2 h')
  exact (List.cons.inj (String.ofList_inj.1 hsame)).2

/-- A number that is written has digits and plus signs only. -/
theorem Writes.kept {phoneNumber : String} {number : List Char} (h : Writes phoneNumber number) :
    ∀ c ∈ number, (c.isDigit || c == '+') = true := by
  have hkept : ∀ c ∈ digitsAndPlus phoneNumber, (c.isDigit || c == '+') = true := fun c hc => (List.mem_filter.1 hc).2
  have hcode : ∀ c ∈ "251".toList, (c.isDigit || c == '+') = true := by simp
  intro c hc
  cases h with
  | plus h => exact hkept c (h ▸ List.mem_cons_of_mem _ hc)
  | country h => exact hkept c (h ▸ hc)
  | national h =>
    rcases List.mem_append.1 hc with hc | hrest
    · exact hcode c hc
    · exact hkept c (h ▸ List.mem_cons_of_mem _ hrest)

/-- A number behind a plus sign writes itself. -/
theorem Writes.again {phoneNumber : String} {number : List Char} (h : Writes phoneNumber number) :
    Writes (.ofList ('+' :: number)) number := by
  refine .plus ?_
  unfold digitsAndPlus
  rw [String.toList_ofList, List.filter_cons_of_pos rfl, List.filter_eq_self.2 h.kept]

/-- The number of a submission is in normal form: the check of the compliance service leaves it as it is. -/
theorem Writes.normalize_eq {phoneNumber : String} {number : List Char} (h : Writes phoneNumber number) :
    ComplianceService.normalizePhoneNumber (.ofList ('+' :: number)) = .ofList ('+' :: number) :=
  ComplianceService.normalizePhoneNumber_eq.2 h.again

/-! ### Plain spellings -/

/-- A text without a plus sign after its first digit, which writes a number with country code behind a plus sign, or
without one with its country code or a leading 0. -/
def Plain (phoneNumber : String) : Prop :=
  ∃ digits : List Char, (∀ c ∈ digits, c.isDigit = true) ∧
    ((digitsAndPlus phoneNumber = '+' :: digits ∧ startsWith digits "0" = false) ∨
      (digitsAndPlus phoneNumber = digits ∧ (startsWith digits "251" = true ∨ startsWith digits "0" = true)))

theorem filter_isDigit_digitsAndPlus (phoneNumber : String) :
    (digitsAndPlus phoneNumber).filter Char.isDigit = phoneNumber.toList.filter Char.isDigit := by
  unfold digitsAndPlus
  rw [List.filter_filter]
  refine List.filter_congr fun c _ => ?_
  cases c.isDigit <;> rfl

/-- A plain text writes the digits that it spells. -/
theorem Plain.writes {phoneNumber : String} (h : Plain phoneNumber) :
    Writes phoneNumber (subscriberDigits phoneNumber) := by
  obtain ⟨digits, hdigits, hform⟩ := h
  have hself : digits.filter Char.isDigit = digits := List.filter_eq_self.2 hdigits
  unfold subscriberDigits
  rw [← filter_isDigit_digitsAndPlus]
  rcases hform with ⟨hplus, hzero⟩ | ⟨hbare, hcountry | hnational⟩
  · rw [hplus, List.filter_cons_of_neg (by decide), hself]
    split
    · rename_i rest
      cases hzero
    · exact .plus hplus
  · obtain ⟨rest, rfl⟩ := startsWith_iff.1 hcountry
    rw [hbare, hself]
    exact .country hbare
  · obtain ⟨rest, rfl⟩ := startsWith_iff.1 hnational
    rw [hbare, hself]
    exact .national hbare

/-- Plain spellings of the same subscriber write the same number. -/
theorem SameSubscriber.writes {p q : String} (h : SameSubscriber p q) (hp : Plain p) (hq : Plain q) :
    ∀ number, Writes q number → Writes p number := by
  intro number hwrites
  have hnumber : number = subscriberDigits p := by
    rw [hwrites.unique hq.writes]
    exact h.symm
  rw [hnumber]
  exact hp.writes

/-! ### What the check catches -/

namespace MessagesService

section Rejection

variable (services : SubmissionServices) (compliance : ComplianceDb) (senderIds : List SenderIdRow)
  (context : SubmissionContext) (dto : SubmitMessageDto) (clock : TxClock) (db : Db)

/-- The call throws, and no INSERT of a message row has succeeded before. -/
def RejectsBeforeInsert : Prop :=
  (∃ failure, (submitMessageWithContext services compliance senderIds context dto clock db).1 = .error failure) ∧
    ∀ submission, prepareSubmission services compliance senderIds context dto = .ok submission →
      ∀ result, (insertMessage clock submission).run db ≠ .ok result

variable {services compliance senderIds context dto clock db}

theorem rejectsBeforeInsert_of_error {failure : Failure}
    (h : prepareSubmission services compliance senderIds context dto = .error failure) :
    RejectsBeforeInsert services compliance senderIds context dto clock db := by
  constructor
  · refine ⟨failure, ?_⟩
    unfold submitMessageWithContext
    rw [h]
  · intro submission hok
    rw [h] at hok
    cases hok

/-- A stored number stops every text that writes it before the transaction. -/
theorem rejects_of_writes {p : String} (hstored : StoredFor context.tenantId p compliance)
    (hwrites : ∀ number, Writes dto.phoneNumber number → Writes p number) :
    RejectsBeforeInsert services compliance senderIds context dto clock db := by
  cases hprepare : prepareSubmission services compliance senderIds context dto with
  | error failure => exact rejectsBeforeInsert_of_error hprepare
  | ok submission =>
    have hprepared := prepareSubmission_ok hprepare
    obtain ⟨number, hnumber, hphone⟩ := normalizePhoneNumber_ok.1 hprepared.phone
    have hblocks := hstored.blocks
    rw [ComplianceService.normalizePhoneNumber_eq.2 (hwrites number hnumber), ← hnumber.normalize_eq, ← hphone] at hblocks
    have hblocked := assertNotOptedOut_eq_error.2 ⟨hblocks, rfl⟩
    rw [hprepared.cleared] at hblocked
    cases hblocked

end Rejection

end MessagesService

/-! ### What gets through -/

namespace Sample

/-- The submission of the message to a number. -/
def prepared (phoneNumber : String) : Submission :=
  MessagesService.submissionOf submissionServices context (dto phoneNumber) phoneNumber "hello" .transactional route

/-- One opt-out and nothing else. -/
def optedOut (phoneNumber : String) : ComplianceDb :=
  ⟨[⟨tenant, ComplianceService.normalizePhoneNumber phoneNumber, none, true⟩], []⟩

/-- A database that holds one message, under the idempotency key of the submission. -/
def submitted : Db :=
  { Db.initial (wallets 0) with messages := [{ submission with idempotencyKey := some "key" }.row (clock 0) 1] }

end Sample

open Sample MessagesService

theorem storedFor_optedOut {p : String} (h : (ComplianceService.normalizePhoneNumber p).length ≤ 20) :
    StoredFor tenant p (optedOut p) := by
  refine ⟨.optOuts, ⟨[], []⟩, none, optedOut p, ?_, .refl⟩
  show (ComplianceService.storedPhoneNumber p).map _ = _
  rw [storedPhoneNumber_of_fits h]
  rfl

/-- A text that writes a number which the stored one does not write passes every check. -/
theorem prepareSubmission_evading {p q : String} {number : List Char} (hq : Writes q number) (hp : ¬ Writes p number) :
    prepareSubmission submissionServices (optedOut p) senderIds context (dto q) =
      .ok (prepared (.ofList ('+' :: number))) := by
  have hphone := normalizePhoneNumber_ok.2 ⟨number, hq, rfl⟩
  have hfree : ComplianceService.assertNotOptedOut (optedOut p) tenant (.ofList ('+' :: number)) = .ok () := by
    cases hcheck : ComplianceService.assertNotOptedOut (optedOut p) tenant (.ofList ('+' :: number)) with
    | ok _ => rfl
    | error failure =>
      obtain ⟨⟨row, hrow, hfor, -⟩, -⟩ := assertNotOptedOut_eq_error.1 hcheck
      rw [hq.normalize_eq] at hfor
      rw [List.mem_singleton.1 hrow] at hfor
      exact absurd (ComplianceService.normalizePhoneNumber_eq.1 (of_decide_eq_true hfor).2) hp
  have hbody : messageBody submissionServices context (dto q) = .ok "hello" := rfl
  have happroved : ensureApproved senderIds tenant "ACME" (some 1) = .ok () := by decide +kernel
  have hcomplete : completeSubmission submissionServices senderIds context (dto q) (.ofList ('+' :: number)) =
      .ok (prepared (.ofList ('+' :: number))) :=
    except_bind_eq_ok.2 ⟨_, hbody, except_bind_eq_ok.2 ⟨route, rfl, except_bind_eq_ok.2 ⟨(), happroved,
      except_bind_eq_ok.2 ⟨(), rfl, rfl⟩⟩⟩⟩
  unfold prepareSubmission
  rw [if_neg (by decide)]
  exact except_bind_eq_ok.2 ⟨⟨100, 100⟩, rfl, except_bind_eq_ok.2 ⟨(), rfl, except_bind_eq_ok.2 ⟨_, hphone,
    except_bind_eq_ok.2 ⟨(), hfree, hcomplete⟩⟩⟩⟩

/-- The submission carries an idempotency key, so it looks for an earlier message. -/
private theorem prepared_looksUp (phoneNumber : String) :
    (truthy (prepared phoneNumber).idempotencyKey || truthy (prepared phoneNumber).clientMessageId) = true := by
  show (truthy (some "key") || truthy none) = true
  decide

private theorem prepared_storable {phoneNumber : String} (hclean : Clean phoneNumber) (h : phoneNumber.length ≤ 20) :
    (prepared phoneNumber).Storable where
  clean := by
    intro text htext
    have hcases : text ∈ ["key", "ACME", phoneNumber, "hello"] := htext
    simp only [List.mem_cons, List.not_mem_nil, or_false] at hcases
    rcases hcases with rfl | rfl | rfl | rfl
    · decide
    · decide
    · exact hclean
    · decide
  clientMessageId := trivial
  idempotencyKey := show FitsVarchar 128 (some "key") by decide
  senderId := show FitsVarchar 32 (some "ACME") by decide
  phoneNumber := h
  messageParts := show computeMessageParts "hello" ≤ maxSmallint by decide +kernel
  templateRef := trivial

/-- A number that fits its column becomes a message of an empty database. -/
theorem submit_prepared {phoneNumber : String} (hclean : Clean phoneNumber) (h : phoneNumber.length ≤ 20) :
    ∃ message db', (SmsPlatform.submitMessageWithContext (clock 0) (prepared phoneNumber)).run
      (Db.initial (wallets 0)) = .ok (message, db') ∧ db'.messages = [message] ∧
        message.phoneNumber = phoneNumber := by
  have hinsert : (insertMessage (clock 0) (prepared phoneNumber)).run (Db.initial (wallets 0)) = .ok (_, _) :=
    insertMessage_run (prepared_storable hclean h) rfl
  have hcharge : ∃ message db', (createMessage (clock 0) (prepared phoneNumber)).run (Db.initial (wallets 0)) =
      .ok (message, db') ∧ db'.messages = [message] ∧ message.phoneNumber = phoneNumber := by
    rw [createMessage_eq, bind_of_ok hinsert]
    exact ⟨_, _, rfl, rfl, rfl⟩
  unfold SmsPlatform.submitMessageWithContext
  rw [bind_of_ok (a := Db.initial (wallets 0)) (t := Db.initial (wallets 0)) rfl, if_pos (prepared_looksUp phoneNumber)]
  exact hcharge

/-- Under a key that a message of the day has, any number is answered with that message. -/
theorem submit_again (phoneNumber : String) :
    ∃ message, (SmsPlatform.submitMessageWithContext (clock 0) (prepared phoneNumber)).run submitted =
      .ok (message, submitted) := by
  unfold SmsPlatform.submitMessageWithContext
  rw [bind_of_ok (a := submitted) (t := submitted) rfl, if_pos (prepared_looksUp phoneNumber)]
  exact ⟨_, rfl⟩

/-- The opt-out of `p` blocks its spelling `q` exactly if `p` writes the number that `q` writes. -/
theorem opt_out_covers_spelling {p q : String} (hp : (ComplianceService.normalizePhoneNumber p).length ≤ 20) :
    (SameSubscriber p q → ∀ tenantId compliance, StoredFor tenantId p compliance →
      ∀ services senderIds context dto clock db, context.tenantId = tenantId → dto.phoneNumber = q →
        RejectsBeforeInsert services compliance senderIds context dto clock db) ↔
      (SameSubscriber p q → ∀ number, Writes q number → Writes p number) := by
  refine imp_congr_right fun _ => ?_
  constructor
  · intro hrejects number hq
    by_contra hnot
    have hprepared := prepareSubmission_evading hq hnot
    have hfails : ∀ db message db', (SmsPlatform.submitMessageWithContext (clock 0)
        (prepared (.ofList ('+' :: number)))).run db ≠ .ok (message, db') := by
      intro db message db' hrun
      obtain ⟨⟨failure, hfailure⟩, -⟩ := hrejects tenant (optedOut p) (storedFor_optedOut hp) submissionServices
        senderIds context (dto q) (clock 0) db rfl rfl
      rw [submitMessageWithContext_of_ok hprepared hrun] at hfailure
      cases hfailure
    by_cases hfits : Clean (.ofList ('+' :: number)) ∧ (String.ofList ('+' :: number)).length ≤ 20
    · obtain ⟨message, db', hrun, -⟩ := submit_prepared hfits.1 hfits.2
      exact hfails _ _ _ hrun
    · -- the INSERT refuses the text, but a repeated request is answered before it
      obtain ⟨message, hrun⟩ := submit_again (.ofList ('+' :: number))
      exact hfails _ _ _ hrun
  · intro hwrites tenantId compliance hstored services senderIds context dto clock db htenant hphone
    subst htenant hphone
    exact rejects_of_writes hstored hwrites

/-- The opt-out of a local number blocks the same number in international form. -/
theorem opt_out_covers_spelling_international :
    RejectsBeforeInsert submissionServices (optedOut "0911 234 567") senderIds context (dto "+251 911-234-567") (clock 0)
      (Db.initial (wallets 100)) := by
  have hlocal : Plain "0911 234 567" := ⟨"0911234567".toList, by simp, .inr ⟨by decide, .inr (by decide)⟩⟩
  have hinternational : Plain "+251 911-234-567" := ⟨"251911234567".toList, by simp, .inl ⟨by decide, by decide⟩⟩
  have hfits : (ComplianceService.normalizePhoneNumber "0911 234 567").length ≤ 20 := by decide
  exact (opt_out_covers_spelling hfits).2 (fun h => h.writes hlocal hinternational) (by decide) tenant _
    (storedFor_optedOut hfits) _ _ _ _ _ _ rfl rfl

/-- A plus sign before the local number hides it from the opt-out. -/
theorem plus_before_local_evades :
    ¬ ∀ p q, SameSubscriber p q → ∀ tenantId compliance, StoredFor tenantId p compliance →
      ∀ services senderIds context dto clock db, context.tenantId = tenantId → dto.phoneNumber = q →
        RejectsBeforeInsert services compliance senderIds context dto clock db := by
  intro hclaim
  have hfits : (ComplianceService.normalizePhoneNumber "0911234567").length ≤ 20 := by decide
  have hq : Writes "+0911234567" "0911234567".toList := .plus (by decide)
  have hp : ¬ Writes "0911234567" "0911234567".toList := by
    rw [← ComplianceService.normalizePhoneNumber_eq]
    decide
  have hcolumn : (String.ofList ('+' :: "0911234567".toList)).length ≤ 20 := by decide
  obtain ⟨message, db', hrun, -⟩ := submit_prepared (by decide) hcolumn
  obtain ⟨⟨failure, hfailure⟩, -⟩ := hclaim "0911234567" "+0911234567" (by decide) tenant _ (storedFor_optedOut hfits)
    submissionServices senderIds context (dto "+0911234567") (clock 0) (Db.initial (wallets 0)) rfl rfl
  rw [submitMessageWithContext_of_ok (prepareSubmission_evading hq hp) hrun] at hfailure
  cases hfailure

end SmsPlatform
