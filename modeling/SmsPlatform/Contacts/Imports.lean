import Mathlib.Data.PNat.Defs
import SmsPlatform.Contacts.Csv
import SmsPlatform.Dlr.Payload
import SmsPlatform.Lib.Rows
import SmsPlatform.Lib.StateExcept

/-!
# Importing contacts

`importInlineCsv` of `contacts.service.ts` over the tables that it reads and writes.  The parser accepts every number that
can be normalised and every name, and all rows of an upload are written in one transaction; PostgreSQL refuses a number or a
name that is too long for its column, and the character U+0000 in any text, and then nothing of the upload is kept
(`imports_iff`).
-/

namespace SmsPlatform

namespace ContactsService

/-! ### Tables -/

structure ContactRow where
  id : Nat
  tenantId : TenantId
  phoneNumber : String
  name : Option String
  metadata : JsonObject
  source : String
  updatedAt : Timestamp

structure ContactUploadRow where
  id : Nat
  tenantId : TenantId
  targetGroupId : Option ℕ+
  storageUri : String
  originalFileName : String
  status : String
  totalRows : Nat
  validRows : Nat
  invalidRows : Nat
  metadata : CsvRecord
  createdAt : Timestamp
  completedAt : Option Timestamp

structure ContactUploadErrorRow where
  contactUploadId : Nat
  rowNumber : Nat
  rawRecord : CsvRecord
  errorReason : String

/-- `groups` has the ids of `contact_groups` with their tenants, `members` the pairs of `contact_group_members`. -/
structure ContactsDb where
  contacts : List ContactRow
  nextContactId : Nat
  groups : List (ℕ+ × TenantId)
  members : List (ℕ+ × Nat)
  uploads : List ContactUploadRow
  nextUploadId : Nat
  uploadErrors : List ContactUploadErrorRow

abbrev ContactsTx := StateT ContactsDb (Except Failure)

/-- A request body that the validation pipe lets through. -/
structure UploadContactsDto where
  fileName : String
  csvContent : String
  targetGroupId : Option ℕ+ := none
  delimiter : Option String := none
  fileName_le : fileName.length ≤ 255
  delimiter_le : ∀ text ∈ delimiter, text.length ≤ 1

/-! ### What PostgreSQL stores -/

def CleanRecord (record : CsvRecord) : Prop := ∀ entry ∈ record, Clean entry.1 ∧ Clean entry.2

instance (record : CsvRecord) : Decidable (CleanRecord record) := inferInstanceAs (Decidable (∀ entry ∈ record, _))

/-- A text in a column, for a VARCHAR with its limit. -/
def storeText (limit : Option Nat) (text : String) : Except Failure Unit :=
  if ¬ Clean text then .error (.error "invalid byte sequence for encoding UTF8: 0x00")
  else
    match limit with
    | none => .ok ()
    | some limit => if limit < text.length then .error (.valueTooLong limit) else .ok ()

/-- A text that may be NULL. -/
def storeOptional (limit : Option Nat) : Option String → Except Failure Unit
  | none => .ok ()
  | some text => storeText limit text

/-- An object in a JSONB column. -/
def storeJson (record : CsvRecord) : Except Failure Unit :=
  if CleanRecord record then .ok () else .error (.error "unsupported Unicode escape sequence")

/-! ### The statements of the import -/

/-- `contacts.metadata || EXCLUDED.metadata`. -/
def mergeMetadata (metadata : JsonObject) (record : CsvRecord) : JsonObject :=
  metadata.filter (fun entry => !record.any fun new => new.1 == entry.1) ++
    record.map fun entry => (entry.1, JsonValue.string entry.2)

/-- The conflict target of the INSERT. -/
def ParsedContactRow.conflicts (tenantId : TenantId) (row : ParsedContactRow) (contact : ContactRow) : Bool :=
  decide (contact.tenantId = tenantId ∧ contact.phoneNumber = row.phoneNumber)

def ParsedContactRow.contact (tenantId : TenantId) (clock : TxClock) (row : ParsedContactRow) (id : Nat) : ContactRow where
  id := id
  tenantId := tenantId
  phoneNumber := row.phoneNumber
  name := row.name
  metadata := mergeMetadata [] row.metadata
  source := "upload"
  updatedAt := clock.now

/-- The assignments of `ON CONFLICT … DO UPDATE SET`. -/
def ParsedContactRow.merge (clock : TxClock) (row : ParsedContactRow) (contact : ContactRow) : ContactRow :=
  { contact with
    name := row.name.or contact.name
    metadata := mergeMetadata contact.metadata row.metadata
    updatedAt := clock.now }

def ContactsDb.upsertContact (db : ContactsDb) (tenantId : TenantId) (clock : TxClock) (row : ParsedContactRow) :
    Nat × ContactsDb :=
  match Rows.splitFirst (row.conflicts tenantId) db.contacts with
  | some (before, contact, after) => (contact.id, { db with contacts := before ++ row.merge clock contact :: after })
  | none => (db.nextContactId, { db with
      contacts := db.contacts ++ [row.contact tenantId clock db.nextContactId]
      nextContactId := db.nextContactId + 1 })

/-- `ON CONFLICT (group_id, contact_id) DO NOTHING`. -/
def ContactsDb.addMember (db : ContactsDb) (targetGroupId : Option ℕ+) (contactId : Nat) : ContactsDb :=
  match targetGroupId with
  | none => db
  | some groupId =>
    if (groupId, contactId) ∈ db.members then db else { db with members := db.members ++ [(groupId, contactId)] }

/-- The columns of a contact that the row fills. -/
def ParsedContactRow.store (row : ParsedContactRow) : Except Failure Unit := do
  storeText (some 20) row.phoneNumber
  storeOptional (some 100) row.name
  storeJson row.metadata

/-- The contact of a row that has been stored, and its membership. -/
def ContactsDb.withRow (tenantId : TenantId) (clock : TxClock) (targetGroupId : Option ℕ+) (db : ContactsDb)
    (row : ParsedContactRow) : ContactsDb :=
  let inserted := db.upsertContact tenantId clock row
  inserted.2.addMember targetGroupId inserted.1

/-- One row of the upload; the INSERT returns a row in any case. -/
def importRow (tenantId : TenantId) (clock : TxClock) (targetGroupId : Option ℕ+) (row : ParsedContactRow) :
    ContactsTx Unit := fun db => row.store.map fun _ => ((), db.withRow tenantId clock targetGroupId row)

/-- The loop over the parsed rows, with the count of those that have been written. -/
def importRows (tenantId : TenantId) (clock : TxClock) (targetGroupId : Option ℕ+) :
    List ParsedContactRow → Nat → ContactsTx Nat
  | [], validRows => pure validRows
  | row :: rows, validRows => do
    importRow tenantId clock targetGroupId row
    importRows tenantId clock targetGroupId rows (validRows + 1)

def ParsedContactError.row (uploadId : Nat) (error : ParsedContactError) : ContactUploadErrorRow :=
  ⟨uploadId, error.rowNumber, error.rawRecord, error.errorReason⟩

def recordError (uploadId : Nat) (error : ParsedContactError) : ContactsTx Unit := fun db =>
  (storeJson error.rawRecord).map fun _ => ((), { db with uploadErrors := db.uploadErrors ++ [error.row uploadId] })

def recordErrors (uploadId : Nat) : List ParsedContactError → ContactsTx Unit
  | [] => pure ()
  | error :: errors => do
    recordError uploadId error
    recordErrors uploadId errors

namespace UploadContactsDto

variable (dto : UploadContactsDto)

def delimiterText : String := dto.delimiter.getD ","

/-- `inline://…`, with the time in milliseconds. -/
def storageUri (clock : TxClock) : String :=
  "inline://" ++ String.ofList (Decimal.text (clock.clientNow / 1000)) ++ "-" ++ dto.fileName

def uploadRow (tenantId : TenantId) (clock : TxClock) (id : Nat) : ContactUploadRow where
  id := id
  tenantId := tenantId
  targetGroupId := dto.targetGroupId
  storageUri := dto.storageUri clock
  originalFileName := dto.fileName
  status := "importing"
  totalRows := 0
  validRows := 0
  invalidRows := 0
  metadata := [("delimiter", dto.delimiterText)]
  createdAt := clock.now
  completedAt := none

end UploadContactsDto

def createUpload (tenantId : TenantId) (dto : UploadContactsDto) (clock : TxClock) : ContactsTx Nat := fun db => do
  storeText none (dto.storageUri clock)
  storeText (some 255) dto.fileName
  storeJson [("delimiter", dto.delimiterText)]
  return (db.nextUploadId, { db with
    uploads := db.uploads ++ [dto.uploadRow tenantId clock db.nextUploadId], nextUploadId := db.nextUploadId + 1 })

def completeUpload (clock : TxClock) (uploadId totalRows validRows invalidRows : Nat) : ContactsTx Unit :=
  modify fun db => { db with
    uploads := Rows.update (fun upload => decide (upload.id = uploadId)) (fun upload =>
      { upload with
        status := "completed"
        totalRows := totalRows
        validRows := validRows
        invalidRows := invalidRows
        completedAt := some clock.now }) db.uploads }

structure ContactUploadResponse where
  uploadId : Nat
  fileName : String
  totalRows : Nat
  validRows : Nat
  invalidRows : Nat
  groupId : Option ℕ+
  createdAt : Timestamp

def importTx (tenantId : TenantId) (dto : UploadContactsDto) (clock : TxClock) (rows : List ParsedContactRow)
    (errors : List ParsedContactError) : ContactsTx ContactUploadResponse := do
  let uploadId ← createUpload tenantId dto clock
  recordErrors uploadId errors
  let validRows ← importRows tenantId clock dto.targetGroupId rows 0
  completeUpload clock uploadId (rows.length + errors.length) validRows errors.length
  return {
    uploadId := uploadId
    fileName := dto.fileName
    totalRows := rows.length + errors.length
    validRows := validRows
    invalidRows := errors.length
    groupId := dto.targetGroupId
    createdAt := clock.now }

/-- The call, and the tables after it; a transaction that fails is rolled back.  A number beyond BIGINT is the id of no
group. -/
def importInlineCsv (tenantId : TenantId) (dto : UploadContactsDto) (clock : TxClock) (db : ContactsDb) :
    Except Failure ContactUploadResponse × ContactsDb :=
  match parseCsvContent dto.csvContent dto.delimiterText with
  | .error failure => (.error failure, db)
  | .ok (rows, errors) =>
    if (dto.targetGroupId.all fun groupId => decide ((groupId, tenantId) ∈ db.groups)) = false then
      (.error (.notFound "Target group not found"), db)
    else
      match (importTx tenantId dto clock rows errors).run db with
      | .error failure => (.error failure, db)
      | .ok (response, db') => (.ok response, db')

/-! ### Which statements succeed -/

section Statements

variable {tenantId : TenantId} {clock : TxClock} {targetGroupId : Option ℕ+} {row : ParsedContactRow}
  {rows : List ParsedContactRow} {db : ContactsDb}

/-- A name that its column takes. -/
def StorableName (name : String) : Prop := Clean name ∧ name.length ≤ 100

structure ParsedContactRow.Storable (row : ParsedContactRow) : Prop where
  phoneNumber : Clean row.phoneNumber
  phoneNumber_le : row.phoneNumber.length ≤ 20
  name : ∀ name ∈ row.name, StorableName name
  metadata : CleanRecord row.metadata

theorem eq_ok_or_error (result : Except Failure Unit) : result = .ok () ∨ ∃ failure, result = .error failure := by
  cases result with
  | error failure => exact .inr ⟨failure, rfl⟩
  | ok _ => exact .inl rfl

theorem storeText_eq_ok {limit : Option Nat} {text : String} :
    storeText limit text = .ok () ↔ Clean text ∧ ∀ n ∈ limit, text.length ≤ n := by
  unfold storeText
  by_cases hclean : Clean text
  · rw [if_neg (not_not.2 hclean)]
    cases limit with
    | none => simp [hclean]
    | some limit =>
      by_cases hlong : limit < text.length
      · simp [hlong, hclean]
      · simp only [if_neg hlong, hclean, true_and, Option.mem_some_iff, forall_eq', true_iff]
        omega
  · rw [if_pos hclean]
    simp [hclean]

theorem storeJson_eq_ok {record : CsvRecord} : storeJson record = .ok () ↔ CleanRecord record := by
  unfold storeJson
  by_cases hclean : CleanRecord record
  · simp [hclean]
  · simp [hclean]

theorem ParsedContactRow.store_eq_ok : row.store = .ok () ↔ row.Storable := by
  have hname : storeOptional (some 100) row.name = .ok () ↔ ∀ name ∈ row.name, StorableName name := by
    cases row.name with
    | none => simp [storeOptional]
    | some name => simp [storeOptional, storeText_eq_ok, StorableName]
  unfold ParsedContactRow.store
  simp only [StateExcept.except_bind_eq_ok]
  constructor
  · rintro ⟨_, hphone, _, hstored, hmetadata⟩
    obtain ⟨hclean, hlength⟩ := storeText_eq_ok.1 hphone
    exact ⟨hclean, hlength 20 rfl, hname.1 hstored, storeJson_eq_ok.1 hmetadata⟩
  · rintro ⟨hclean, hlength, hstored, hmetadata⟩
    refine ⟨(), storeText_eq_ok.2 ⟨hclean, ?_⟩, (), hname.2 hstored, storeJson_eq_ok.2 hmetadata⟩
    simpa using hlength

theorem importRow_of_storable (h : row.Storable) :
    (importRow tenantId clock targetGroupId row).run db = .ok ((), db.withRow tenantId clock targetGroupId row) := by
  show row.store.map _ = _
  rw [ParsedContactRow.store_eq_ok.2 h]
  rfl

theorem importRow_of_not_storable (h : ¬ row.Storable) :
    ∃ failure, (importRow tenantId clock targetGroupId row).run db = .error failure := by
  rcases eq_ok_or_error row.store with hok | ⟨failure, hfailure⟩
  · exact absurd (ParsedContactRow.store_eq_ok.1 hok) h
  · refine ⟨failure, ?_⟩
    show row.store.map _ = _
    rw [hfailure]
    rfl

/-- All rows are written and counted. -/
theorem importRows_of_storable (h : ∀ row ∈ rows, row.Storable) (validRows : Nat) :
    (importRows tenantId clock targetGroupId rows validRows).run db =
      .ok (validRows + rows.length, rows.foldl (ContactsDb.withRow tenantId clock targetGroupId) db) := by
  induction rows generalizing db validRows with
  | nil => rfl
  | cons row rows ih =>
    rw [List.forall_mem_cons] at h
    unfold importRows
    rw [StateExcept.bind_of_ok (importRow_of_storable h.1), ih h.2]
    simp only [List.length_cons, List.foldl_cons]
    congr 2
    omega

theorem importRows_of_not_storable (h : ¬ ∀ row ∈ rows, row.Storable) (validRows : Nat) :
    ∃ failure, (importRows tenantId clock targetGroupId rows validRows).run db = .error failure := by
  induction rows generalizing db validRows with
  | nil => simp at h
  | cons row rows ih =>
    unfold importRows
    by_cases hrow : row.Storable
    · rw [StateExcept.bind_of_ok (importRow_of_storable hrow)]
      exact ih (fun hrows => h (List.forall_mem_cons.2 ⟨hrow, hrows⟩)) _
    · obtain ⟨failure, hfailure⟩ := @importRow_of_not_storable tenantId clock targetGroupId row db hrow
      exact ⟨failure, StateExcept.bind_of_error hfailure⟩

theorem recordError_of_clean {uploadId : Nat} {error : ParsedContactError} (h : CleanRecord error.rawRecord) :
    (recordError uploadId error).run db =
      .ok ((), { db with uploadErrors := db.uploadErrors ++ [error.row uploadId] }) := by
  show (storeJson error.rawRecord).map _ = _
  rw [storeJson_eq_ok.2 h]
  rfl

theorem recordError_of_not_clean {uploadId : Nat} {error : ParsedContactError} (h : ¬ CleanRecord error.rawRecord) :
    ∃ failure, (recordError uploadId error).run db = .error failure := by
  rcases eq_ok_or_error (storeJson error.rawRecord) with hok | ⟨failure, hfailure⟩
  · exact absurd (storeJson_eq_ok.1 hok) h
  · refine ⟨failure, ?_⟩
    show (storeJson error.rawRecord).map _ = _
    rw [hfailure]
    rfl

theorem recordErrors_of_clean {uploadId : Nat} {errors : List ParsedContactError}
    (h : ∀ error ∈ errors, CleanRecord error.rawRecord) : (recordErrors uploadId errors).run db =
      .ok ((), { db with uploadErrors := db.uploadErrors ++ errors.map (ParsedContactError.row uploadId) }) := by
  induction errors generalizing db with
  | nil =>
    simp only [List.map_nil, List.append_nil]
    rfl
  | cons error errors ih =>
    rw [List.forall_mem_cons] at h
    unfold recordErrors
    rw [StateExcept.bind_of_ok (recordError_of_clean h.1), ih h.2]
    simp

theorem recordErrors_of_not_clean {uploadId : Nat} {errors : List ParsedContactError}
    (h : ¬ ∀ error ∈ errors, CleanRecord error.rawRecord) :
    ∃ failure, (recordErrors uploadId errors).run db = .error failure := by
  induction errors generalizing db with
  | nil => simp at h
  | cons error errors ih =>
    unfold recordErrors
    by_cases herror : CleanRecord error.rawRecord
    · rw [StateExcept.bind_of_ok (recordError_of_clean herror)]
      exact ih fun herrors => h (List.forall_mem_cons.2 ⟨herror, herrors⟩)
    · obtain ⟨failure, hfailure⟩ := @recordError_of_not_clean db uploadId error herror
      exact ⟨failure, StateExcept.bind_of_error hfailure⟩

end Statements

/-! ### Where a row lands -/

section Landing

variable {tenantId : TenantId} {clock : TxClock} {targetGroupId : Option ℕ+} {row other : ParsedContactRow}
  {rows : List ParsedContactRow} {db : ContactsDb}

/-- There is a contact with the number and the name of the row, and it is in the target group. -/
def Landed (tenantId : TenantId) (targetGroupId : Option ℕ+) (db : ContactsDb) (phoneNumber : String)
    (name : Option String) : Prop :=
  ∃ contact ∈ db.contacts, contact.tenantId = tenantId ∧ contact.phoneNumber = phoneNumber ∧
    (∀ text ∈ name, contact.name = some text) ∧ ∀ groupId ∈ targetGroupId, (groupId, contact.id) ∈ db.members

theorem addMember_contacts (contactId : Nat) : (db.addMember targetGroupId contactId).contacts = db.contacts := by
  unfold ContactsDb.addMember
  cases targetGroupId with
  | none => rfl
  | some groupId =>
    dsimp only
    split <;> rfl

theorem mem_addMember (contactId : Nat) : ∀ groupId ∈ targetGroupId,
    (groupId, contactId) ∈ (db.addMember targetGroupId contactId).members := by
  intro groupId hgroup
  cases hgroup
  unfold ContactsDb.addMember
  dsimp only
  split
  · assumption
  · simp

theorem members_subset_addMember (contactId : Nat) : db.members ⊆ (db.addMember targetGroupId contactId).members := by
  unfold ContactsDb.addMember
  cases targetGroupId with
  | none => exact List.Subset.refl _
  | some groupId =>
    dsimp only
    split
    · exact List.Subset.refl _
    · exact List.subset_append_left ..

theorem addMember_uploads (contactId : Nat) : (db.addMember targetGroupId contactId).uploads = db.uploads ∧
    (db.addMember targetGroupId contactId).uploadErrors = db.uploadErrors := by
  unfold ContactsDb.addMember
  cases targetGroupId with
  | none => exact ⟨rfl, rfl⟩
  | some groupId =>
    dsimp only
    split <;> exact ⟨rfl, rfl⟩

/-- The upsert makes a contact of the row, or makes one the contact that has its number. -/
theorem upsertContact_cases (db : ContactsDb) (tenantId : TenantId) (clock : TxClock) (row : ParsedContactRow) :
    (∃ before contact after, db.contacts = before ++ contact :: after ∧ contact.tenantId = tenantId ∧
      contact.phoneNumber = row.phoneNumber ∧ db.upsertContact tenantId clock row =
        (contact.id, { db with contacts := before ++ row.merge clock contact :: after })) ∨
    db.upsertContact tenantId clock row = (db.nextContactId, { db with
      contacts := db.contacts ++ [row.contact tenantId clock db.nextContactId]
      nextContactId := db.nextContactId + 1 }) := by
  unfold ContactsDb.upsertContact
  cases hsplit : Rows.splitFirst (row.conflicts tenantId) db.contacts with
  | none => exact .inr rfl
  | some found =>
    obtain ⟨before, contact, after⟩ := found
    obtain ⟨hcontacts, hconflicts⟩ := Rows.eq_append_of_splitFirst hsplit
    obtain ⟨htenant, hphone⟩ := of_decide_eq_true hconflicts
    exact .inl ⟨before, contact, after, hcontacts, htenant, hphone, rfl⟩

theorem withRow_uploads : (db.withRow tenantId clock targetGroupId row).uploads = db.uploads ∧
    (db.withRow tenantId clock targetGroupId row).uploadErrors = db.uploadErrors := by
  unfold ContactsDb.withRow
  dsimp only
  rw [(addMember_uploads _).1, (addMember_uploads _).2]
  rcases upsertContact_cases db tenantId clock row with ⟨_, _, _, -, -, -, hupsert⟩ | hupsert
  · rw [hupsert]
    exact ⟨rfl, rfl⟩
  · rw [hupsert]
    exact ⟨rfl, rfl⟩

theorem merge_name (contact : ContactRow) : ∀ text ∈ row.name, (row.merge clock contact).name = some text := by
  intro text hname
  show row.name.or contact.name = some text
  rw [hname]
  rfl

/-- A row that is stored lands. -/
theorem landed_withRow : Landed tenantId targetGroupId (db.withRow tenantId clock targetGroupId row) row.phoneNumber
    row.name := by
  unfold ContactsDb.withRow Landed
  dsimp only
  rw [addMember_contacts]
  rcases upsertContact_cases db tenantId clock row with
    ⟨before, contact, after, -, htenant, hphone, hupsert⟩ | hupsert
  · rw [hupsert]
    exact ⟨row.merge clock contact, by simp, htenant, hphone, merge_name contact, mem_addMember contact.id⟩
  · rw [hupsert]
    exact ⟨row.contact tenantId clock db.nextContactId, by simp, rfl, rfl, fun _ h => h, mem_addMember db.nextContactId⟩

/-- It stays where it landed when a row with another number is stored. -/
theorem Landed.withRow {phoneNumber : String} {name : Option String} (h : Landed tenantId targetGroupId db phoneNumber name)
    (hne : phoneNumber ≠ row.phoneNumber) :
    Landed tenantId targetGroupId (db.withRow tenantId clock targetGroupId row) phoneNumber name := by
  obtain ⟨contact, hcontact, htenant, hphone, hname, hmembers⟩ := h
  unfold ContactsDb.withRow Landed
  dsimp only
  rw [addMember_contacts]
  rcases upsertContact_cases db tenantId clock row with
    ⟨before, old, after, hcontacts, -, hold, hupsert⟩ | hupsert
  · rw [hupsert]
    have hother : contact ≠ old := by
      rintro rfl
      exact hne (hphone.symm.trans hold)
    rw [hcontacts] at hcontact
    refine ⟨contact, Rows.mem_replace_of_ne hcontact hother, htenant, hphone, hname, fun groupId hgroup => ?_⟩
    exact members_subset_addMember _ (hmembers groupId hgroup)
  · rw [hupsert]
    refine ⟨contact, by simp [hcontact], htenant, hphone, hname, fun groupId hgroup => ?_⟩
    exact members_subset_addMember _ (hmembers groupId hgroup)

theorem landed_foldl_of_not_mem {phoneNumber : String} {name : Option String}
    (h : Landed tenantId targetGroupId db phoneNumber name) (hne : ∀ row ∈ rows, phoneNumber ≠ row.phoneNumber) :
    Landed tenantId targetGroupId (rows.foldl (ContactsDb.withRow tenantId clock targetGroupId) db) phoneNumber name := by
  induction rows generalizing db with
  | nil => exact h
  | cons row rows ih => exact ih (h.withRow (hne row (by simp))) fun row hrow => hne row (by simp [hrow])

/-- All rows have landed at the end, as no two of them have the same number. -/
theorem landed_foldl (hnumbers : (rows.map ParsedContactRow.phoneNumber).Nodup) : ∀ row ∈ rows,
    Landed tenantId targetGroupId (rows.foldl (ContactsDb.withRow tenantId clock targetGroupId) db) row.phoneNumber
      row.name := by
  induction rows generalizing db with
  | nil => simp
  | cons first rows ih =>
    rw [List.map_cons, List.nodup_cons] at hnumbers
    intro row hrow
    rcases List.mem_cons.1 hrow with rfl | hrow
    · rw [List.foldl_cons]
      refine landed_foldl_of_not_mem landed_withRow fun other hother hsame => hnumbers.1 ?_
      rw [hsame]
      exact List.mem_map_of_mem hother
    · exact ih hnumbers.2 row hrow

theorem foldl_uploads : (rows.foldl (ContactsDb.withRow tenantId clock targetGroupId) db).uploads = db.uploads ∧
    (rows.foldl (ContactsDb.withRow tenantId clock targetGroupId) db).uploadErrors = db.uploadErrors := by
  induction rows generalizing db with
  | nil => exact ⟨rfl, rfl⟩
  | cons row rows ih =>
    have hrow := @withRow_uploads tenantId clock targetGroupId row db
    have hrest := @ih (db.withRow tenantId clock targetGroupId row)
    exact ⟨hrest.1.trans hrow.1, hrest.2.trans hrow.2⟩

end Landing

/-! ### The law of an upload -/

namespace UploadContactsDto

variable (dto : UploadContactsDto)

def lines : List (List Char) := splitLines (Numerals.strip dto.csvContent.toList)

def headers : List String := columnsOf dto.delimiterText (dto.lines.headD [])

def header : CsvHeader where
  headers := dto.headers
  phoneIndex := dto.headers.findIdx fun header => decide (header ∈ phoneHeaders)
  nameIndex := dto.headers.findIdx? fun header => decide (header ∈ nameHeaders)

def rows : List DataRow := dataRows dto.delimiterText dto.lines

/-- The row is no duplicate of a row before it; its number is `phoneNumber`. -/
def IsNew (before : List DataRow) (row : DataRow) (phoneNumber : String) : Prop :=
  Fresh dto.header [] before row phoneNumber

/-- The number and the name fit their columns. -/
def FitsColumns (row : DataRow) (phoneNumber : String) : Prop :=
  phoneNumber.length ≤ 20 ∧ ∀ name ∈ row.name dto.header, name.length ≤ 100

/-- Every new row that fits has landed, every other row is recorded, and the rows are counted. -/
structure Imported (tenantId : TenantId) (uploadId : Nat) (db : ContactsDb) : Prop where
  landed : ∀ before row after phoneNumber, dto.rows = before ++ row :: after → dto.IsNew before row phoneNumber →
    dto.FitsColumns row phoneNumber → Landed tenantId dto.targetGroupId db phoneNumber (row.name dto.header)
  recorded : ∀ before row after, dto.rows = before ++ row :: after →
    (∀ phoneNumber, dto.IsNew before row phoneNumber → ¬ dto.FitsColumns row phoneNumber) →
    ∃ reason, ⟨uploadId, row.rowNumber, row.rawRecord dto.header, reason⟩ ∈ db.uploadErrors
  counted : ∃ upload ∈ db.uploads, upload.id = uploadId ∧ upload.status = "completed" ∧
    upload.totalRows = dto.rows.length ∧ upload.totalRows = upload.validRows + upload.invalidRows

/-- The call commits, and the tables are as they should be. -/
def Imports (tenantId : TenantId) (clock : TxClock) (db : ContactsDb) : Prop :=
  ∃ response db', importInlineCsv tenantId dto clock db = (.ok response, db') ∧
    dto.Imported tenantId response.uploadId db'

/-- All new rows fit their columns, and nothing that is stored has the character U+0000. -/
structure Storable : Prop where
  fileName : Clean dto.fileName
  delimiter : Clean dto.delimiterText
  fits : ∀ before row after phoneNumber, dto.rows = before ++ row :: after → dto.IsNew before row phoneNumber →
    dto.FitsColumns row phoneNumber ∧ (∀ name ∈ row.name dto.header, Clean name) ∧
      CleanRecord (row.metadata dto.header)
  refused : ∀ before row after, dto.rows = before ++ row :: after →
    (∀ phoneNumber, ¬ dto.IsNew before row phoneNumber) → CleanRecord (row.rawRecord dto.header)

end UploadContactsDto

section Law

variable {tenantId : TenantId} {clock : TxClock} {dto : UploadContactsDto} {db : ContactsDb}

theorem clean_of_kept {text : List Char} (h : ∀ c ∈ text, (c.isDigit || c == '+') = true) : Clean (.ofList text) := by
  unfold Clean
  rw [String.toList_ofList]
  intro hmem
  have hnul := h nul hmem
  exact absurd hnul (by decide)

/-- A normalised number has digits and plus signs only. -/
theorem clean_of_normalize {text phoneNumber : String} (h : normalizePhoneNumber text = .ok phoneNumber) :
    Clean phoneNumber := by
  have hkept : ∀ c ∈ digitsAndPlus text, (c.isDigit || c == '+') = true := fun c hc => (List.mem_filter.1 hc).2
  unfold normalizePhoneNumber at h
  dsimp only at h
  split at h
  · cases h
    exact clean_of_kept hkept
  · split at h
    · cases h
      refine clean_of_kept fun c hc => ?_
      rcases List.mem_cons.1 hc with rfl | hc
      · rfl
      · exact hkept c hc
    · split at h
      · cases h
        refine clean_of_kept fun c hc => ?_
        rcases List.mem_append.1 hc with hc | hc
        · simp only [String.reduceToList, List.mem_cons, List.not_mem_nil, or_false] at hc
          rcases hc with rfl | rfl | rfl | rfl <;> rfl
        · exact hkept c (List.mem_of_mem_drop hc)
      · cases h

theorem clean_storageUri : Clean (dto.storageUri clock) ↔ Clean dto.fileName := by
  have hdigits : nul ∉ Decimal.text (clock.clientNow / 1000) := by
    intro hmem
    unfold Decimal.text at hmem
    split at hmem
    · rcases List.mem_cons.1 hmem with hsign | hmem
      · exact absurd hsign (by decide)
      · exact absurd (Decimal.allDigits_digits _ nul hmem) (by decide)
    · exact absurd (Decimal.allDigits_digits _ nul hmem) (by decide)
  have hscheme : nul ∉ "inline://".toList := by decide
  have hdash : nul ∉ "-".toList := by decide
  unfold Clean UploadContactsDto.storageUri
  simp only [String.toList_append, String.toList_ofList, List.mem_append, hdigits, hscheme, hdash, false_or]

/-- The upload is created unless the file's name or the delimiter is not clean. -/
theorem createUpload_eq_ok (hfile : Clean dto.fileName) (hdelimiter : Clean dto.delimiterText) :
    (createUpload tenantId dto clock).run db = .ok (db.nextUploadId, { db with
      uploads := db.uploads ++ [dto.uploadRow tenantId clock db.nextUploadId], nextUploadId := db.nextUploadId + 1 }) := by
  have huri : storeText none (dto.storageUri clock) = .ok () :=
    storeText_eq_ok.2 ⟨clean_storageUri.2 hfile, fun _ h => (nomatch h)⟩
  have hname : storeText (some 255) dto.fileName = .ok () :=
    storeText_eq_ok.2 ⟨hfile, fun n hn => by cases hn; exact dto.fileName_le⟩
  have hjson : storeJson [("delimiter", dto.delimiterText)] = .ok () := by
    rw [storeJson_eq_ok]
    intro entry hentry
    rw [List.mem_singleton.1 hentry]
    exact ⟨(by decide : Clean "delimiter"), hdelimiter⟩
  show (storeText none (dto.storageUri clock) >>= fun _ => storeText (some 255) dto.fileName >>= fun _ =>
    storeJson [("delimiter", dto.delimiterText)] >>= fun _ => _) = _
  rw [huri, hname, hjson]
  rfl

theorem createUpload_clean {created : Nat × ContactsDb} (h : (createUpload tenantId dto clock).run db = .ok created) :
    Clean dto.fileName ∧ Clean dto.delimiterText := by
  change (storeText none (dto.storageUri clock) >>= fun _ => storeText (some 255) dto.fileName >>= fun _ =>
    storeJson [("delimiter", dto.delimiterText)] >>= fun _ => _) = _ at h
  simp only [StateExcept.except_bind_eq_ok] at h
  obtain ⟨_, -, _, hname, _, hjson, -⟩ := h
  exact ⟨(storeText_eq_ok.1 hname).1, (storeJson_eq_ok.1 hjson ("delimiter", dto.delimiterText) (by simp)).2⟩

/-- A text with a phone column in its first line, and not too many others, is parsed. -/
theorem parseCsvContent_eq_ok (hheader : ∃ header ∈ dto.headers, header ∈ phoneHeaders)
    (hlines : dto.lines.length ≤ 100001) :
    parseCsvContent dto.csvContent dto.delimiterText = .ok (parseRows dto.header dto.rows []) := by
  obtain ⟨header, hmem, hphone⟩ := hheader
  have hne : Numerals.strip dto.csvContent.toList ≠ [] := by
    intro hempty
    unfold UploadContactsDto.headers UploadContactsDto.lines at hmem
    rw [hempty] at hmem
    have hblank : header = "" := by
      unfold columnsOf split at hmem
      split at hmem
      · simp [splitLines] at hmem
      · simpa [splitLines, Numerals.strip] using hmem
    rw [hblank] at hphone
    exact absurd hphone (by decide)
  exact parseCsvContent_ok_iff.2 ⟨hne, hlines, dto.header, readHeader_of_phone ⟨header, hmem, hphone⟩, rfl⟩

theorem refusal_eq (header : CsvHeader) (row : DataRow) : ∃ reason, row.refusal header = row.error header reason := by
  unfold DataRow.refusal
  cases row.normalizedPhone header with
  | error failure => exact ⟨_, rfl⟩
  | ok phoneNumber => exact ⟨_, rfl⟩

/-- The condition, in terms of what the parser returns. -/
theorem storable_iff : dto.Storable ↔ Clean dto.fileName ∧ Clean dto.delimiterText ∧
    (∀ row ∈ (parseRows dto.header dto.rows []).1, row.Storable) ∧
      ∀ error ∈ (parseRows dto.header dto.rows []).2, CleanRecord error.rawRecord := by
  constructor
  · rintro ⟨hfile, hdelimiter, hfits, hrefused⟩
    refine ⟨hfile, hdelimiter, fun parsed hparsed => ?_, fun error herror => ?_⟩
    · obtain ⟨before, row, after, hsplit, phoneNumber, hfresh, rfl⟩ := mem_parseRows.1 hparsed
      obtain ⟨⟨hlength, hname⟩, hcleanName, hmetadata⟩ := hfits before row after phoneNumber hsplit hfresh
      exact ⟨clean_of_normalize hfresh.normalized, hlength, fun name hmem => ⟨hcleanName name hmem, hname name hmem⟩,
        hmetadata⟩
    · obtain ⟨before, row, after, hsplit, hstale, rfl⟩ := mem_parseErrors.1 herror
      obtain ⟨reason, hreason⟩ := refusal_eq dto.header row
      rw [hreason]
      exact hrefused before row after hsplit hstale
  · rintro ⟨hfile, hdelimiter, hrows, herrors⟩
    refine ⟨hfile, hdelimiter, fun before row after phoneNumber hsplit hfresh => ?_, fun before row after hsplit hstale => ?_⟩
    · have hstorable := hrows _ (mem_parseRows.2 ⟨before, row, after, hsplit, phoneNumber, hfresh, rfl⟩)
      exact ⟨⟨hstorable.phoneNumber_le, fun name hname => (hstorable.name name hname).2⟩,
        fun name hname => (hstorable.name name hname).1, hstorable.metadata⟩
    · have hclean := herrors _ (mem_parseErrors.2 ⟨before, row, after, hsplit, hstale, rfl⟩)
      obtain ⟨reason, hreason⟩ := refusal_eq dto.header row
      rw [hreason] at hclean
      exact hclean

/-- A transaction that commits has stored everything. -/
theorem storable_of_importTx {result : ContactUploadResponse × ContactsDb}
    (h : (importTx tenantId dto clock (parseRows dto.header dto.rows []).1 (parseRows dto.header dto.rows []).2).run db =
      .ok result) : dto.Storable := by
  unfold importTx at h
  obtain ⟨uploadId, created, hcreated, h⟩ := StateExcept.bind_eq_ok.1 h
  obtain ⟨hfile, hdelimiter⟩ := createUpload_clean hcreated
  obtain ⟨_, recorded, hrecorded, h⟩ := StateExcept.bind_eq_ok.1 h
  obtain ⟨validRows, imported, himported, -⟩ := StateExcept.bind_eq_ok.1 h
  refine storable_iff.2 ⟨hfile, hdelimiter, ?_, ?_⟩
  · by_contra hrows
    obtain ⟨failure, hfailure⟩ := @importRows_of_not_storable tenantId clock dto.targetGroupId _ recorded hrows 0
    rw [himported] at hfailure
    cases hfailure
  · by_contra herrors
    obtain ⟨failure, hfailure⟩ := @recordErrors_of_not_clean created uploadId _ herrors
    rw [hrecorded] at hfailure
    cases hfailure

/-- The transaction of an upload that can be stored. -/
theorem importTx_of_storable (h : dto.Storable) : ∃ response db',
    (importTx tenantId dto clock (parseRows dto.header dto.rows []).1 (parseRows dto.header dto.rows []).2).run db =
      .ok (response, db') ∧ dto.Imported tenantId response.uploadId db' := by
  obtain ⟨hfile, hdelimiter, hrows, herrors⟩ := storable_iff.1 h
  have hnumbers := (@parseRows_numbers dto.header dto.rows []).1
  have hlength := @parseRows_length dto.header dto.rows []
  have hrow := fun parsed => @mem_parseRows dto.header dto.rows [] parsed
  have herror := fun refused => @mem_parseErrors dto.header dto.rows [] refused
  generalize (parseRows dto.header dto.rows []).1 = rows at *
  generalize (parseRows dto.header dto.rows []).2 = errors at *
  unfold importTx
  rw [StateExcept.bind_of_ok (createUpload_eq_ok hfile hdelimiter), StateExcept.bind_of_ok (recordErrors_of_clean herrors),
    StateExcept.bind_of_ok (importRows_of_storable hrows 0)]
  refine ⟨_, _, rfl, ?_, ?_, ?_⟩
  · intro before row after phoneNumber hsplit hnew hfits
    have hparsed := (hrow (row.parsed dto.header phoneNumber)).2 ⟨before, row, after, hsplit, phoneNumber, hnew, rfl⟩
    exact landed_foldl hnumbers _ hparsed
  · intro before row after hsplit hunfit
    have hstale : ∀ phoneNumber, ¬ dto.IsNew before row phoneNumber := by
      intro phoneNumber hnew
      exact hunfit phoneNumber hnew (h.fits before row after phoneNumber hsplit hnew).1
    obtain ⟨reason, hreason⟩ := refusal_eq dto.header row
    have hrefused := (herror (row.refusal dto.header)).2 ⟨before, row, after, hsplit, hstale, rfl⟩
    refine ⟨reason, ?_⟩
    show _ ∈ (rows.foldl (ContactsDb.withRow tenantId clock dto.targetGroupId) _).uploadErrors
    rw [foldl_uploads.2]
    refine List.mem_append_right _ (List.mem_map.2 ⟨_, hrefused, ?_⟩)
    rw [hreason]
    rfl
  · let completed : ContactUploadRow := { dto.uploadRow tenantId clock db.nextUploadId with
      status := "completed"
      totalRows := rows.length + errors.length
      validRows := 0 + rows.length
      invalidRows := errors.length
      completedAt := some clock.now }
    refine ⟨completed, ?_, rfl, rfl, hlength, by simp [completed]⟩
    show completed ∈ Rows.update _ _ (rows.foldl (ContactsDb.withRow tenantId clock dto.targetGroupId) _).uploads
    rw [foldl_uploads.1]
    exact Rows.mem_update.2 ⟨dto.uploadRow tenantId clock db.nextUploadId, List.mem_append_right _ (by simp),
      .inl ⟨decide_eq_true rfl, rfl⟩⟩

section Call

variable (hheader : ∃ header ∈ dto.headers, header ∈ phoneHeaders) (hlines : dto.lines.length ≤ 100001)
  (hgroup : ∀ groupId ∈ dto.targetGroupId, (groupId, tenantId) ∈ db.groups)

include hheader hlines hgroup

theorem importInlineCsv_eq : importInlineCsv tenantId dto clock db =
    match (importTx tenantId dto clock (parseRows dto.header dto.rows []).1 (parseRows dto.header dto.rows []).2).run db with
    | .error failure => (.error failure, db)
    | .ok (response, db') => (.ok response, db') := by
  have hall : (dto.targetGroupId.all fun groupId => decide ((groupId, tenantId) ∈ db.groups)) = true := by
    cases htarget : dto.targetGroupId with
    | none => rfl
    | some groupId => simpa using hgroup groupId htarget
  unfold importInlineCsv
  rw [parseCsvContent_eq_ok hheader hlines]
  dsimp only
  rw [if_neg (by rw [hall]; decide)]

/-- Of an upload that cannot be stored, nothing is kept. -/
theorem importInlineCsv_of_not_storable (h : ¬ dto.Storable) :
    ∃ failure, importInlineCsv tenantId dto clock db = (.error failure, db) := by
  rw [importInlineCsv_eq hheader hlines hgroup]
  cases hrun : (importTx tenantId dto clock (parseRows dto.header dto.rows []).1
      (parseRows dto.header dto.rows []).2).run db with
  | error failure => exact ⟨failure, rfl⟩
  | ok result => exact absurd (storable_of_importTx hrun) h

/-- Of the uploads with a phone column, at most 100000 other lines and a group of the tenant or none, exactly those keep
the law whose new rows all fit their columns and in which nothing that is stored has the character U+0000. -/
theorem imports_iff : dto.Imports tenantId clock db ↔ dto.Storable := by
  constructor
  · rintro ⟨response, db', hresult, -⟩
    by_contra hstorable
    obtain ⟨failure, hfailure⟩ :=
      @importInlineCsv_of_not_storable tenantId clock dto db hheader hlines hgroup hstorable
    rw [hfailure] at hresult
    cases hresult
  · intro hstorable
    obtain ⟨response, db', hrun, himported⟩ := @importTx_of_storable tenantId clock dto db hstorable
    refine ⟨response, db', ?_, himported⟩
    rw [importInlineCsv_eq hheader hlines hgroup, hrun]

end Call

end Law

instance (row : ParsedContactRow) : Decidable row.Storable :=
  decidable_of_iff (Clean row.phoneNumber ∧ row.phoneNumber.length ≤ 20 ∧
    (∀ name ∈ row.name, Clean name ∧ name.length ≤ 100) ∧ CleanRecord row.metadata)
    ⟨fun h => ⟨h.1, h.2.1, h.2.2.1, h.2.2.2⟩, fun h => ⟨h.phoneNumber, h.phoneNumber_le, h.name, h.metadata⟩⟩

instance (dto : UploadContactsDto) : Decidable dto.Storable := decidable_of_iff _ storable_iff.symm

/-! ### Two uploads -/

namespace Sample

open SmsPlatform.Sample (tenant)

def noContacts : ContactsDb where
  contacts := []
  nextContactId := 1
  groups := []
  members := []
  uploads := []
  nextUploadId := 1
  uploadErrors := []

/-- A good row, a duplicate of it, a row without a number, and the lines that follow. -/
def upload (more : String) : UploadContactsDto where
  fileName := "contacts.csv"
  csvContent := "phone_number,name\n0911234567,Abel\n251911234567,Duplicate\ninvalid,Oops" ++ more
  fileName_le := by decide
  delimiter_le := by simp

end Sample

theorem imports_iff_sample :
    (Sample.upload "").Imports SmsPlatform.Sample.tenant (SmsPlatform.Sample.clock 1) Sample.noContacts :=
  (imports_iff ⟨"phone_number", by decide +kernel, by decide⟩ (by decide +kernel) (by simp [Sample.upload])).2
    (by decide +kernel)

/-- With a row whose number has 21 digits, the good row is not stored either. -/
theorem long_number_sinks_upload :
    (∃ header ∈ (Sample.upload "\n+251911234567890123456,Long").headers, header ∈ phoneHeaders) ∧
      (Sample.upload "\n+251911234567890123456,Long").lines.length ≤ 100001 ∧
      (∃ failure, importInlineCsv SmsPlatform.Sample.tenant (Sample.upload "\n+251911234567890123456,Long")
        (SmsPlatform.Sample.clock 1) Sample.noContacts = (.error failure, Sample.noContacts)) ∧
      ¬ (Sample.upload "\n+251911234567890123456,Long").Imports SmsPlatform.Sample.tenant
        (SmsPlatform.Sample.clock 1) Sample.noContacts := by
  have hheader : ∃ header ∈ (Sample.upload "\n+251911234567890123456,Long").headers, header ∈ phoneHeaders :=
    ⟨"phone_number", by decide +kernel, by decide⟩
  have hlines : (Sample.upload "\n+251911234567890123456,Long").lines.length ≤ 100001 := by decide +kernel
  have hstorable : ¬ (Sample.upload "\n+251911234567890123456,Long").Storable := by decide +kernel
  obtain ⟨failure, hfailure⟩ := @importInlineCsv_of_not_storable SmsPlatform.Sample.tenant (SmsPlatform.Sample.clock 1) _
    Sample.noContacts hheader hlines (by simp [Sample.upload]) hstorable
  refine ⟨hheader, hlines, ⟨failure, hfailure⟩, ?_⟩
  rintro ⟨response, db', hresult, -⟩
  rw [hfailure] at hresult
  cases hresult

end ContactsService

end SmsPlatform
