import SmsPlatform.Compliance.Spelling
import SmsPlatform.Contacts.Imports

/-!
# The three normalisers

Submissions, contact uploads and the compliance service each have a `normalizePhoneNumber` of their own.  On a text that
writes a number all three return that number behind a plus sign, and return it again when they are given it
(`InNormalForm`); on every other text the first two throw, and the third returns the digits and plus signs as they are.
So the number that a submission checks and stores is the one that an upload of the same text stores.
-/

namespace SmsPlatform

/-- None of the three changes the number. -/
structure InNormalForm (number : String) : Prop where
  messages : MessagesService.normalizePhoneNumber number = .ok number
  contacts : ContactsService.normalizePhoneNumber number = .ok number
  compliance : ComplianceService.normalizePhoneNumber number = number

/-- The two that throw are the same function. -/
theorem normalizePhoneNumber_contacts_eq (phoneNumber : String) :
    ContactsService.normalizePhoneNumber phoneNumber = MessagesService.normalizePhoneNumber phoneNumber := rfl

/-- A number behind a plus sign that some text writes is in normal form. -/
theorem Writes.inNormalForm {phoneNumber : String} {number : List Char} (h : Writes phoneNumber number) :
    InNormalForm (.ofList ('+' :: number)) := by
  have hmessages : MessagesService.normalizePhoneNumber (.ofList ('+' :: number)) = .ok (.ofList ('+' :: number)) :=
    MessagesService.normalizePhoneNumber_ok.2 ⟨number, h.again, rfl⟩
  exact ⟨hmessages, hmessages, h.normalize_eq⟩

/-- The check of a text is the check of the number it writes. -/
theorem assertNotOptedOut_normalized {phoneNumber number : String} (hform : InNormalForm number)
    (h : ComplianceService.normalizePhoneNumber phoneNumber = number) (compliance : ComplianceDb) (tenantId : TenantId) :
    ComplianceService.assertNotOptedOut compliance tenantId phoneNumber =
      ComplianceService.assertNotOptedOut compliance tenantId number := by
  unfold ComplianceService.assertNotOptedOut
  rw [h, hform.compliance]

/-- A submission of the text keeps the number for its message. -/
theorem prepareSubmission_phoneNumber {phoneNumber number : String}
    (h : MessagesService.normalizePhoneNumber phoneNumber = .ok number) {services : SubmissionServices}
    {compliance : ComplianceDb} {senderIds : List SenderIdRow} {context : SubmissionContext} {dto : SubmitMessageDto}
    {submission : Submission} (hphone : dto.phoneNumber = phoneNumber)
    (hprepare : MessagesService.prepareSubmission services compliance senderIds context dto = .ok submission) :
    submission.phoneNumber = number := by
  have hsubmitted := (MessagesService.prepareSubmission_ok hprepare).phone
  rw [hphone, h] at hsubmitted
  exact (Except.ok.inj hsubmitted).symm

/-- An upload of the text keeps the number for its contact. -/
theorem parseRows_phoneNumber {header : ContactsService.CsvHeader} {rows : List ContactsService.DataRow}
    {seen : List String} {parsed : ContactsService.ParsedContactRow}
    (h : parsed ∈ (ContactsService.parseRows header rows seen).1) :
    ∃ row ∈ rows, MessagesService.normalizePhoneNumber (row.columns.getD header.phoneIndex "") =
      .ok parsed.phoneNumber := by
  obtain ⟨before, row, after, hrows, phoneNumber, hfresh, hparsed⟩ := ContactsService.mem_parseRows.1 h
  refine ⟨row, by rw [hrows]; simp, ?_⟩
  rw [hparsed]
  exact hfresh.normalized

/-- The three normalisers agree wherever that of submissions does not throw, and change nothing when applied again; that
of contacts throws on the same texts.  So what a text's message, its contact and the check of its opt-out go by is one
number. -/
theorem normalisers_agree :
    (∀ phoneNumber number, MessagesService.normalizePhoneNumber phoneNumber = .ok number →
      (ContactsService.normalizePhoneNumber phoneNumber = .ok number ∧
        ComplianceService.normalizePhoneNumber phoneNumber = number) ∧
      InNormalForm number ∧
      (∀ compliance tenantId, ComplianceService.assertNotOptedOut compliance tenantId phoneNumber =
        ComplianceService.assertNotOptedOut compliance tenantId number) ∧
      (∀ services compliance senderIds context dto submission, dto.phoneNumber = phoneNumber →
        MessagesService.prepareSubmission services compliance senderIds context dto = .ok submission →
          ∀ clock id, (submission.row clock id).phoneNumber = number)) ∧
    (∀ phoneNumber failure, MessagesService.normalizePhoneNumber phoneNumber = .error failure ↔
      ContactsService.normalizePhoneNumber phoneNumber = .error failure) ∧
    (∀ header rows seen, ∀ parsed ∈ (ContactsService.parseRows header rows seen).1, ∃ row ∈ rows,
      ∀ tenantId clock id, MessagesService.normalizePhoneNumber (row.columns.getD header.phoneIndex "") =
        .ok (parsed.contact tenantId clock id).phoneNumber) := by
  refine ⟨fun phoneNumber number h => ?_, fun phoneNumber failure => ?_, fun header rows seen parsed hparsed => ?_⟩
  · obtain ⟨digits, hwrites, rfl⟩ := MessagesService.normalizePhoneNumber_ok.1 h
    have hform := hwrites.inNormalForm
    have hcompliance := ComplianceService.normalizePhoneNumber_eq.2 hwrites
    refine ⟨⟨?_, hcompliance⟩, hform, ?_, ?_⟩
    · rw [normalizePhoneNumber_contacts_eq, h]
    · exact assertNotOptedOut_normalized hform hcompliance
    · intro services compliance senderIds context dto submission hphone hprepare clock id
      exact prepareSubmission_phoneNumber h hphone hprepare
  · rw [normalizePhoneNumber_contacts_eq]
  · obtain ⟨row, hrow, hnumber⟩ := parseRows_phoneNumber hparsed
    exact ⟨row, hrow, fun _ _ _ => hnumber⟩

end SmsPlatform
