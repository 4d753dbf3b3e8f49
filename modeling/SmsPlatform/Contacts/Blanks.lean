import SmsPlatform.Contacts.Imports

/-!
# Empty cells and stored contacts

`importInlineCsv` keeps a stored name where the upload has none: `COALESCE(EXCLUDED.name, contacts.name)`.  Yet a name cell
that is there and empty is the empty text, and so is every other cell that is empty or missing: they overwrite what is
stored.
-/

namespace SmsPlatform

namespace ContactsService

/-! ### Reading a record -/

theorem lookup_cons_eq {β : Type} (key other : String) (value : β) (record : List (String × β)) :
    ((key, value) :: record).lookup other = if other = key then some value else record.lookup other := by
  rw [List.lookup_cons]
  by_cases h : other = key
  · simp [h]
  · have hbeq : (other == key) = false := by simpa using h
    rw [hbeq, if_neg h]

theorem lookup_setProperty (key value other : String) (record : CsvRecord) :
    (setProperty key value record).lookup other = if other = key then some value else record.lookup other := by
  induction record with
  | nil => exact lookup_cons_eq key other value []
  | cons entry record ih =>
    obtain ⟨k, v⟩ := entry
    unfold setProperty
    by_cases hk : k = key
    · subst hk
      rw [if_pos rfl, lookup_cons_eq, lookup_cons_eq]
      by_cases h : other = k
      · rw [if_pos h, if_pos h]
      · rw [if_neg h, if_neg h, if_neg h]
    · rw [if_neg hk, lookup_cons_eq, lookup_cons_eq, ih]
      by_cases h : other = k
      · subst h
        rw [if_pos rfl, if_pos rfl, if_neg hk]
      · rw [if_neg h, if_neg h]

/-- Of entries whose values depend on their keys, each key has its value. -/
theorem lookup_fromEntries {keys : List String} {value : String → String} {key : String} :
    (fromEntries (keys.map fun key => (key, value key))).lookup key = if key ∈ keys then some (value key) else none := by
  have hfold : ∀ record : CsvRecord,
      ((keys.map fun key => (key, value key)).foldl (fun record entry => setProperty entry.1 entry.2 record) record).lookup
        key = if key ∈ keys then some (value key) else record.lookup key := by
    induction keys with
    | nil => simp
    | cons first keys ih =>
      intro record
      rw [List.map_cons, List.foldl_cons, ih, lookup_setProperty]
      by_cases hmem : key ∈ keys
      · simp [hmem]
      · by_cases hfirst : key = first
        · subst hfirst
          simp
        · simp [hmem, hfirst]
  exact hfold []

/-- The column is neither that of the number nor that of the name. -/
def CsvHeader.MetadataKey (header : CsvHeader) (key : String) : Prop :=
  ∃ i, header.headers[i]? = some key ∧ i ≠ header.phoneIndex ∧ some i ≠ header.nameIndex

namespace DataRow

variable {header : CsvHeader} {row : DataRow} {key : String}

/-- The cell under a header, empty if it is missing. -/
def cell (header : CsvHeader) (row : DataRow) (key : String) : String := row.columns.getD (header.headers.idxOf key) ""

theorem lookup_metadata : (row.metadata header).lookup key =
    if key ∈ ((header.headers.zipIdx.filter fun column =>
      decide (column.2 ≠ header.phoneIndex ∧ some column.2 ≠ header.nameIndex)).map Prod.fst)
    then some (row.cell header key) else none := by
  rw [← lookup_fromEntries, List.map_map]
  rfl

theorem mem_metadataKeys : key ∈ ((header.headers.zipIdx.filter fun column =>
    decide (column.2 ≠ header.phoneIndex ∧ some column.2 ≠ header.nameIndex)).map Prod.fst) ↔
      header.MetadataKey key := by
  unfold CsvHeader.MetadataKey
  simp only [List.mem_map, List.mem_filter, List.mem_zipIdx_iff_getElem?, decide_eq_true_eq]
  constructor
  · rintro ⟨⟨header', i⟩, ⟨hget, hcolumn⟩, rfl⟩
    exact ⟨i, hget, hcolumn⟩
  · rintro ⟨i, hget, hcolumn⟩
    exact ⟨(key, i), ⟨hget, hcolumn⟩, rfl⟩

theorem lookup_metadata_of_key (h : header.MetadataKey key) :
    (row.metadata header).lookup key = some (row.cell header key) := by
  rw [lookup_metadata, if_pos (mem_metadataKeys.2 h)]

theorem lookup_metadata_of_not_key (h : ¬ header.MetadataKey key) : (row.metadata header).lookup key = none := by
  rw [lookup_metadata, if_neg fun hmem => h (mem_metadataKeys.1 hmem)]

end DataRow

theorem lookup_map_string (record : CsvRecord) (key : String) :
    (record.map fun entry => (entry.1, JsonValue.string entry.2)).lookup key =
      (record.lookup key).map JsonValue.string := by
  induction record with
  | nil => rfl
  | cons entry record ih =>
    rw [List.map_cons, lookup_cons_eq, show entry = (entry.1, entry.2) from rfl, lookup_cons_eq, ih]
    split <;> rfl

theorem lookup_filter_other (metadata : JsonObject) (record : CsvRecord) (key : String) :
    (metadata.filter fun entry => !record.any fun new => new.1 == entry.1).lookup key =
      if (record.lookup key).isSome then none else metadata.lookup key := by
  have hany : (record.any fun new => new.1 == key) = (record.lookup key).isSome := by
    rw [Bool.eq_iff_iff, List.any_eq_true, List.lookup_isSome_iff]
    simp only [beq_iff_eq, @eq_comm _ key]
  induction metadata with
  | nil => simp
  | cons entry metadata ih =>
    obtain ⟨k, v⟩ := entry
    rw [List.filter_cons, lookup_cons_eq]
    by_cases hk : key = k
    · subst hk
      by_cases hsome : (record.lookup key).isSome = true
      · rw [if_neg (by simp [hany, hsome]), ih, if_pos hsome, if_pos hsome]
      · rw [if_pos (by simp [hany, hsome]), lookup_cons_eq, if_pos rfl, if_pos rfl, if_neg hsome]
    · rw [if_neg hk]
      split
      · rw [lookup_cons_eq, if_neg hk, ih]
      · exact ih

/-- A key of the row has the row's value; every other one keeps its own. -/
theorem lookup_mergeMetadata (metadata : JsonObject) (record : CsvRecord) (key : String) :
    (mergeMetadata metadata record).lookup key =
      ((record.lookup key).map JsonValue.string).or (metadata.lookup key) := by
  unfold mergeMetadata
  rw [List.lookup_append, lookup_filter_other, lookup_map_string]
  cases record.lookup key with
  | none => simp
  | some value => simp

/-! ### The contact of a row -/

/-- The UNIQUE constraint of `contacts`. -/
def ContactRow.key (contact : ContactRow) : TenantId × String := (contact.tenantId, contact.phoneNumber)

section Upserts

variable {tenantId : TenantId} {clock : TxClock} {targetGroupId : Option ℕ+} {row : ParsedContactRow}
  {rows : List ParsedContactRow} {db : ContactsDb} {contact : ContactRow}

theorem conflicts_iff : row.conflicts tenantId contact = true ↔ contact.key = (tenantId, row.phoneNumber) := by
  unfold ParsedContactRow.conflicts ContactRow.key
  simp

theorem withRow_contacts (db : ContactsDb) (row : ParsedContactRow) :
    (db.withRow tenantId clock targetGroupId row).contacts = (db.upsertContact tenantId clock row).2.contacts :=
  addMember_contacts _

/-- What an upsert makes of the contacts. -/
theorem withRow_contacts_cases (db : ContactsDb) (row : ParsedContactRow) :
    (∃ before contact after, db.contacts = before ++ contact :: after ∧ contact.key = (tenantId, row.phoneNumber) ∧
      (db.withRow tenantId clock targetGroupId row).contacts = before ++ row.merge clock contact :: after) ∨
    ((∀ contact ∈ db.contacts, contact.key ≠ (tenantId, row.phoneNumber)) ∧
      (db.withRow tenantId clock targetGroupId row).contacts =
        db.contacts ++ [row.contact tenantId clock db.nextContactId]) := by
  rw [withRow_contacts]
  unfold ContactsDb.upsertContact
  cases hsplit : Rows.splitFirst (row.conflicts tenantId) db.contacts with
  | none =>
    refine .inr ⟨fun contact hcontact hkey => ?_, rfl⟩
    have hnone := Rows.splitFirst_eq_none.1 hsplit contact hcontact
    rw [conflicts_iff.2 hkey] at hnone
    cases hnone
  | some found =>
    obtain ⟨before, contact, after⟩ := found
    obtain ⟨hcontacts, hconflicts⟩ := Rows.eq_append_of_splitFirst hsplit
    exact .inl ⟨before, contact, after, hcontacts, conflicts_iff.1 hconflicts, rfl⟩

theorem keyed_withRow (h : Rows.Keyed ContactRow.key db.contacts) (row : ParsedContactRow) :
    Rows.Keyed ContactRow.key (db.withRow tenantId clock targetGroupId row).contacts := by
  rcases @withRow_contacts_cases tenantId clock targetGroupId db row with
    ⟨before, contact, after, hcontacts, -, hresult⟩ | ⟨hnone, hresult⟩
  · rw [hresult]
    rw [hcontacts] at h
    exact h.replace rfl
  · rw [hresult]
    exact h.append_fresh hnone

theorem keyed_foldl (h : Rows.Keyed ContactRow.key db.contacts) :
    Rows.Keyed ContactRow.key (rows.foldl (ContactsDb.withRow tenantId clock targetGroupId) db).contacts := by
  induction rows generalizing db with
  | nil => exact h
  | cons row rows ih => exact ih (keyed_withRow h row)

/-- A row with the number of a contact is merged into it. -/
theorem merge_mem_withRow (h : Rows.Keyed ContactRow.key db.contacts) (hcontact : contact ∈ db.contacts)
    (hkey : contact.key = (tenantId, row.phoneNumber)) :
    row.merge clock contact ∈ (db.withRow tenantId clock targetGroupId row).contacts := by
  rcases @withRow_contacts_cases tenantId clock targetGroupId db row with
    ⟨before, found, after, hcontacts, hfound, hresult⟩ | ⟨hnone, -⟩
  · have hmem : found ∈ db.contacts := by
      rw [hcontacts]
      simp
    rw [hresult, h.unique hcontact hmem (hkey.trans hfound.symm)]
    simp
  · exact absurd hkey (hnone contact hcontact)

/-- A row with another number leaves a contact alone. -/
theorem mem_withRow_of_ne (hcontact : contact ∈ db.contacts) (hkey : contact.key ≠ (tenantId, row.phoneNumber)) :
    contact ∈ (db.withRow tenantId clock targetGroupId row).contacts := by
  rcases @withRow_contacts_cases tenantId clock targetGroupId db row with
    ⟨before, found, after, hcontacts, hfound, hresult⟩ | ⟨-, hresult⟩
  · rw [hresult]
    rw [hcontacts] at hcontact
    refine Rows.mem_replace_of_ne hcontact ?_
    rintro rfl
    exact hkey hfound
  · rw [hresult]
    simp [hcontact]

theorem mem_foldl_of_ne (hcontact : contact ∈ db.contacts)
    (hkey : ∀ row ∈ rows, contact.key ≠ (tenantId, row.phoneNumber)) :
    contact ∈ (rows.foldl (ContactsDb.withRow tenantId clock targetGroupId) db).contacts := by
  induction rows generalizing db with
  | nil => exact hcontact
  | cons row rows ih =>
    rw [List.forall_mem_cons] at hkey
    exact ih (mem_withRow_of_ne hcontact hkey.1) hkey.2

/-- Of rows with different numbers, the one with the number of a contact is merged into it, and no other. -/
theorem merge_mem_foldl (h : Rows.Keyed ContactRow.key db.contacts)
    (hnumbers : (rows.map ParsedContactRow.phoneNumber).Nodup) (hcontact : contact ∈ db.contacts)
    (hrow : row ∈ rows) (hkey : contact.key = (tenantId, row.phoneNumber)) :
    row.merge clock contact ∈ (rows.foldl (ContactsDb.withRow tenantId clock targetGroupId) db).contacts := by
  induction rows generalizing db with
  | nil => simp at hrow
  | cons first rows ih =>
    rw [List.map_cons, List.nodup_cons] at hnumbers
    rw [List.foldl_cons]
    rcases List.mem_cons.1 hrow with rfl | hrow
    · refine mem_foldl_of_ne (merge_mem_withRow h hcontact hkey) fun other hother hsame => hnumbers.1 ?_
      have hnumber : row.phoneNumber = other.phoneNumber := congrArg Prod.snd (hkey.symm.trans hsame)
      rw [hnumber]
      exact List.mem_map_of_mem hother
    · refine ih (keyed_withRow h first) hnumbers.2 (mem_withRow_of_ne hcontact fun hsame => hnumbers.1 ?_) hrow
      have hnumber : first.phoneNumber = row.phoneNumber := congrArg Prod.snd (hsame.symm.trans hkey)
      rw [hnumber]
      exact List.mem_map_of_mem hrow

end Upserts

/-! ### The call -/

namespace UploadContactsDto

variable (dto : UploadContactsDto)

/-- The call stores the upload: it has a phone column and at most 100000 other lines, its group is one of the tenant, and
PostgreSQL takes all that is stored. -/
structure Commits (tenantId : TenantId) (db : ContactsDb) : Prop where
  header : ∃ header ∈ dto.headers, header ∈ phoneHeaders
  lines : dto.lines.length ≤ 100001
  group : ∀ groupId ∈ dto.targetGroupId, (groupId, tenantId) ∈ db.groups
  storable : dto.Storable

/-- The row is parsed, and it has the number of the contact. -/
def RowOf (contact : ContactRow) (row : DataRow) : Prop :=
  ∃ before after, dto.rows = before ++ row :: after ∧ dto.IsNew before row contact.phoneNumber

end UploadContactsDto

section Call

variable {tenantId : TenantId} {clock : TxClock} {dto : UploadContactsDto} {db : ContactsDb} {contact : ContactRow}
  {row : DataRow}

theorem parseCsvContent_ok {parsed : List ParsedContactRow × List ParsedContactError}
    (h : parseCsvContent dto.csvContent dto.delimiterText = .ok parsed) :
    (∃ header ∈ dto.headers, header ∈ phoneHeaders) ∧ dto.lines.length ≤ 100001 := by
  obtain ⟨-, hlines, header, hread, -⟩ := parseCsvContent_ok_iff.1 h
  exact ⟨exists_phone_of_readHeader hread, hlines⟩

theorem importInlineCsv_of_not_commits (h : ¬ dto.Commits tenantId db) :
    (importInlineCsv tenantId dto clock db).2 = db := by
  cases hparse : parseCsvContent dto.csvContent dto.delimiterText with
  | error failure =>
    unfold importInlineCsv
    rw [hparse]
  | ok parsed =>
    obtain ⟨hheader, hlines⟩ := parseCsvContent_ok hparse
    by_cases hgroup : ∀ groupId ∈ dto.targetGroupId, (groupId, tenantId) ∈ db.groups
    · have hstorable : ¬ dto.Storable := fun hstorable => h ⟨hheader, hlines, hgroup, hstorable⟩
      obtain ⟨failure, hfailure⟩ :=
        @importInlineCsv_of_not_storable tenantId clock dto db hheader hlines hgroup hstorable
      rw [hfailure]
    · have hfalse : (dto.targetGroupId.all fun groupId => decide ((groupId, tenantId) ∈ db.groups)) = false := by
        rw [Bool.eq_false_iff, ne_eq, Option.all_eq_true]
        exact fun hall => hgroup fun groupId hmem => of_decide_eq_true (hall groupId hmem)
      unfold importInlineCsv
      rw [hparse]
      dsimp only
      rw [if_pos hfalse]

theorem importTx_contacts {rows : List ParsedContactRow} {errors : List ParsedContactError} (hfile : Clean dto.fileName)
    (hdelimiter : Clean dto.delimiterText) (hrows : ∀ row ∈ rows, row.Storable)
    (herrors : ∀ error ∈ errors, CleanRecord error.rawRecord) : ∃ response db' started,
      (importTx tenantId dto clock rows errors).run db = .ok (response, db') ∧ started.contacts = db.contacts ∧
        db'.contacts = (rows.foldl (ContactsDb.withRow tenantId clock dto.targetGroupId) started).contacts := by
  unfold importTx
  rw [StateExcept.bind_of_ok (createUpload_eq_ok hfile hdelimiter), StateExcept.bind_of_ok (recordErrors_of_clean herrors),
    StateExcept.bind_of_ok (importRows_of_storable hrows 0)]
  refine ⟨_, _, _, rfl, ?_, rfl⟩
  rfl

/-- The contacts after an upload that is stored. -/
theorem importInlineCsv_of_commits (h : dto.Commits tenantId db) : ∃ started : ContactsDb,
    started.contacts = db.contacts ∧ (importInlineCsv tenantId dto clock db).2.contacts =
      ((parseRows dto.header dto.rows []).1.foldl (ContactsDb.withRow tenantId clock dto.targetGroupId)
        started).contacts := by
  obtain ⟨hfile, hdelimiter, hrows, herrors⟩ := storable_iff.1 h.storable
  obtain ⟨response, db', started, hrun, hstarted, hresult⟩ :=
    @importTx_contacts tenantId clock dto db _ _ hfile hdelimiter hrows herrors
  rw [importInlineCsv_eq h.header h.lines h.group, hrun]
  exact ⟨started, hstarted, hresult⟩

/-- The row of a contact is merged into it, and no other contact has its number. -/
theorem contact_of_commits (h : dto.Commits tenantId db) (hkeys : Rows.Keyed ContactRow.key db.contacts)
    (hcontact : contact ∈ db.contacts) (htenant : contact.tenantId = tenantId) (hrow : dto.RowOf contact row)
    {contact' : ContactRow} :
    (contact' ∈ (importInlineCsv tenantId dto clock db).2.contacts ∧ contact'.key = contact.key) ↔
      contact' = (row.parsed dto.header contact.phoneNumber).merge clock contact := by
  obtain ⟨before, after, hsplit, hnew⟩ := hrow
  obtain ⟨started, hstarted, hresult⟩ := @importInlineCsv_of_commits tenantId clock dto db h
  have hparsed := mem_parseRows.2 ⟨before, row, after, hsplit, contact.phoneNumber, hnew, rfl⟩
  rw [← hstarted] at hkeys hcontact
  have hkey : contact.key = (tenantId, (row.parsed dto.header contact.phoneNumber).phoneNumber) := by
    rw [← htenant]
    rfl
  have hmerged := @merge_mem_foldl tenantId clock dto.targetGroupId _ _ started contact hkeys parseRows_numbers.1 hcontact
    hparsed hkey
  rw [hresult]
  constructor
  · rintro ⟨hmem, hsame⟩
    exact (keyed_foldl hkeys).unique hmem hmerged hsame
  · rintro rfl
    exact ⟨hmerged, rfl⟩

end Call

/-! ### The law -/

/-- The name cell of the row is empty, or missing. -/
def BlankName (header : CsvHeader) (row : DataRow) : Prop := row.name header = none ∨ row.name header = some ""

/-- The cell of the row under a key of the metadata is empty, or missing. -/
def BlankKey (header : CsvHeader) (row : DataRow) (key : String) : Prop :=
  header.MetadataKey key → row.cell header key = ""

/-- Where the row has no text, the contact is as before. -/
structure Keeps (header : CsvHeader) (row : DataRow) (contact contact' : ContactRow) : Prop where
  name : BlankName header row → contact'.name = contact.name
  metadata : ∀ key value, BlankKey header row key → contact.metadata.lookup key = some value →
    contact'.metadata.lookup key = some value

/-- No empty cell of the row meets anything stored but the empty text. -/
structure Harmless (header : CsvHeader) (row : DataRow) (contact : ContactRow) : Prop where
  name : row.name header = some "" → contact.name = some ""
  metadata : ∀ key value, header.MetadataKey key → row.cell header key = "" → contact.metadata.lookup key = some value →
    value = .string ""

theorem keeps_merge_iff {header : CsvHeader} {row : DataRow} {contact : ContactRow} (clock : TxClock)
    (phoneNumber : String) : Keeps header row contact ((row.parsed header phoneNumber).merge clock contact) ↔
      Harmless header row contact := by
  have hname : ((row.parsed header phoneNumber).merge clock contact).name = (row.name header).or contact.name := rfl
  have hmetadata : ∀ key, ((row.parsed header phoneNumber).merge clock contact).metadata.lookup key =
      (((row.metadata header).lookup key).map JsonValue.string).or (contact.metadata.lookup key) :=
    lookup_mergeMetadata contact.metadata (row.metadata header)
  constructor
  · rintro ⟨hkeepsName, hkeepsMetadata⟩
    constructor
    · intro hempty
      have hsame := hkeepsName (.inr hempty)
      rw [hname, hempty] at hsame
      exact hsame.symm
    · intro key value hkey hcell hstored
      have hsame := hkeepsMetadata key value (fun _ => hcell) hstored
      rw [hmetadata, DataRow.lookup_metadata_of_key hkey, hcell] at hsame
      exact (Option.some.inj hsame).symm
  · rintro ⟨hharmlessName, hharmlessMetadata⟩
    constructor
    · rintro (hmissing | hempty)
      · rw [hname, hmissing]
        rfl
      · rw [hname, hempty, hharmlessName hempty]
        rfl
    · intro key value hblank hstored
      rw [hmetadata]
      by_cases hkey : header.MetadataKey key
      · rw [DataRow.lookup_metadata_of_key hkey, hblank hkey, hharmlessMetadata key value hkey (hblank hkey) hstored]
        rfl
      · rw [DataRow.lookup_metadata_of_not_key hkey]
        exact hstored

/-- Every contact that there is keeps what its row has no text for. -/
def UploadContactsDto.NeverBlanks (tenantId : TenantId) (clock : TxClock) (dto : UploadContactsDto) (db : ContactsDb) :
    Prop :=
  ∀ contact ∈ db.contacts, contact.tenantId = tenantId → ∀ row, dto.RowOf contact row →
    ∃ contact' ∈ (importInlineCsv tenantId dto clock db).2.contacts, contact'.key = contact.key ∧
      Keeps dto.header row contact contact'

/-- The UNIQUE constraint holds after an upload, too. -/
theorem keyed_importInlineCsv {tenantId : TenantId} {clock : TxClock} {dto : UploadContactsDto} {db : ContactsDb}
    (hkeys : Rows.Keyed ContactRow.key db.contacts) :
    Rows.Keyed ContactRow.key (importInlineCsv tenantId dto clock db).2.contacts := by
  by_cases hcommits : dto.Commits tenantId db
  · obtain ⟨started, hstarted, hresult⟩ := @importInlineCsv_of_commits tenantId clock dto db hcommits
    rw [hresult]
    apply keyed_foldl
    rw [hstarted]
    exact hkeys
  · rw [importInlineCsv_of_not_commits hcommits]
    exact hkeys

/-- An upload blanks nothing if and only if it is not stored, or none of its empty cells meets anything stored but the
empty text. -/
theorem neverBlanks_iff {tenantId : TenantId} {clock : TxClock} {dto : UploadContactsDto} {db : ContactsDb}
    (hkeys : Rows.Keyed ContactRow.key db.contacts) : dto.NeverBlanks tenantId clock db ↔
      (dto.Commits tenantId db → ∀ contact ∈ db.contacts, contact.tenantId = tenantId → ∀ row, dto.RowOf contact row →
        Harmless dto.header row contact) := by
  constructor
  · intro h hcommits contact hcontact htenant row hrow
    obtain ⟨contact', hmem, hkey, hkeeps⟩ := h contact hcontact htenant row hrow
    rw [(contact_of_commits hcommits hkeys hcontact htenant hrow).1 ⟨hmem, hkey⟩] at hkeeps
    exact (keeps_merge_iff clock contact.phoneNumber).1 hkeeps
  · intro h contact hcontact htenant row hrow
    by_cases hcommits : dto.Commits tenantId db
    · obtain ⟨hmem, hkey⟩ := (@contact_of_commits tenantId clock dto db contact row hcommits hkeys hcontact htenant hrow _).2
        rfl
      exact ⟨_, hmem, hkey, (keeps_merge_iff clock contact.phoneNumber).2 (h hcommits contact hcontact htenant row hrow)⟩
    · refine ⟨contact, ?_, rfl, fun _ => rfl, fun _ _ _ hstored => hstored⟩
      rw [importInlineCsv_of_not_commits hcommits]
      exact hcontact

namespace Sample

open SmsPlatform.Sample (tenant clock)

def abel : ContactRow where
  id := 1
  tenantId := tenant
  phoneNumber := "+251911234567"
  name := some "Abel"
  metadata := [("city", .string "Adama")]
  source := "api"
  updatedAt := 0

def oneContact : ContactsDb := { noContacts with contacts := [abel], nextContactId := 2 }

/-- One row for the contact, with these cells behind its number. -/
def uploadRow (cells : String) : UploadContactsDto where
  fileName := "abel.csv"
  csvContent := "phone_number,name,city\n0911234567" ++ cells
  delimiter := some ","
  fileName_le := by decide
  delimiter_le := by
    rintro text ⟨⟩
    decide

theorem rowOf_abel : (uploadRow ",,").RowOf abel ⟨2, ["0911234567", "", ""]⟩ :=
  ⟨[], [], rfl, rfl, by simp, by simp⟩

end Sample

/-- The contact without a city, but with the key. -/
def Sample.cityless : ContactRow := { Sample.abel with metadata := [("city", .string "")] }

/-- A row whose city is empty and whose name is missing. -/
def Sample.nameless : UploadContactsDto :=
  { Sample.uploadRow "" with csvContent := "phone_number,city,name\n0911234567," }

/-- A missing name and an empty city that meets an empty one blank nothing. -/
theorem neverBlanks_nameless :
    Sample.nameless.NeverBlanks SmsPlatform.Sample.tenant (SmsPlatform.Sample.clock 1)
      { Sample.oneContact with contacts := [Sample.cityless] } := by
  have hkeys : Rows.Keyed ContactRow.key [Sample.cityless] := List.nodup_singleton _
  refine (neverBlanks_iff hkeys).2 fun _ contact hcontact _ row hrow => ?_
  obtain rfl := List.mem_singleton.1 hcontact
  obtain ⟨before, after, hsplit, -⟩ := hrow
  have hrows : Sample.nameless.rows = [⟨2, ["0911234567", ""]⟩] := rfl
  rw [hrows] at hsplit
  obtain rfl : row = ⟨2, ["0911234567", ""]⟩ := by
    have hmem : row ∈ before ++ row :: after := by simp
    rw [← hsplit] at hmem
    exact List.mem_singleton.1 hmem
  have hheader : Sample.nameless.header = ⟨["phone_number", "city", "name"], 0, some 2⟩ := rfl
  rw [hheader]
  constructor
  · intro hempty
    exact absurd hempty (by decide)
  · rintro key value ⟨i, hkey, hphone, hname⟩ - hstored
    rcases i with _ | _ | _ | i
    · exact absurd rfl hphone
    · obtain rfl : "city" = key := Option.some.inj hkey
      exact (Option.some.inj hstored).symm
    · exact absurd rfl hname
    · simp at hkey

/-- Two empty cells blank the name and the city of a contact. -/
theorem empty_cells_blank_contact :
    ¬ (Sample.uploadRow ",,").NeverBlanks SmsPlatform.Sample.tenant (SmsPlatform.Sample.clock 1) Sample.oneContact := by
  intro h
  obtain ⟨contact', hmem, -, hkeeps⟩ := h Sample.abel (by simp [Sample.oneContact]) rfl _ Sample.rowOf_abel
  have hname := hkeeps.name (.inr rfl)
  have hall : ∀ contact ∈ (importInlineCsv SmsPlatform.Sample.tenant (Sample.uploadRow ",,") (SmsPlatform.Sample.clock 1)
      Sample.oneContact).2.contacts, contact.name = some "" := by
    decide +kernel
  rw [hall contact' hmem] at hname
  exact absurd hname (by decide)

end ContactsService

end SmsPlatform
