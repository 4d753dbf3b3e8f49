import SmsPlatform.Contacts.Blanks
import SmsPlatform.Lib.Queries
import SmsPlatform.Lib.Runs

/-!
# The address book of all tenants

The rest of `contacts.service.ts` over the tables of the import: `createContact`, `updateContact`, `createGroup`, and the
six reads.  All tenants share the tables.  A call writes rows of its tenant, but a membership has no tenant of its own, and
`getGroupDetail` reads the members of a group by the group alone.
-/

namespace SmsPlatform

namespace ContactsService

/-- `metadata || $4`. -/
def mergeObject (metadata object : JsonObject) : JsonObject :=
  metadata.filter (fun entry => !object.any fun new => new.1 == entry.1) ++ object

/-! ### Requests and tables -/

/-- A request body that the validation pipe lets through, as the next two are. -/
structure CreateContactDto where
  phoneNumber : String
  name : Option String := none
  metadata : Option JsonObject := none
  phoneNumber_le : phoneNumber.length ≤ 20
  name_le : ∀ text ∈ name, text.length ≤ 100

structure UpdateContactDto where
  name : Option String := none
  metadata : Option JsonObject := none
  name_le : ∀ text ∈ name, text.length ≤ 100

structure CreateContactGroupDto where
  name : String
  name_le : name.length ≤ 100

/-- The tables of the import, with the columns that it does not read by the ids of their rows. -/
structure ContactStore where
  tables : ContactsDb
  nextGroupId : ℕ+
  groupName : ℕ+ → String
  groupCreatedAt : ℕ+ → Timestamp
  contactCreatedAt : Nat → Timestamp

structure StoredContact extends ContactRow where
  createdAt : Timestamp

structure ContactGroupRow where
  id : ℕ+
  tenantId : TenantId
  name : String
  createdAt : Timestamp

namespace ContactStore

variable (store : ContactStore)

def storedContact (contact : ContactRow) : StoredContact := { contact with createdAt := store.contactCreatedAt contact.id }

def groupRow (group : ℕ+ × TenantId) : ContactGroupRow :=
  ⟨group.1, group.2, store.groupName group.1, store.groupCreatedAt group.1⟩

/-- The rows of `contacts`. -/
def contacts : List StoredContact := store.tables.contacts.map store.storedContact

/-- The rows of `contact_groups`. -/
def groups : List ContactGroupRow := store.tables.groups.map store.groupRow

end ContactStore

/-! ### Writes -/

/-- `INSERT … ON CONFLICT (tenant_id, phone_number) DO UPDATE SET …`, and the id of the row. -/
def ContactsDb.upsert (db : ContactsDb) (tenantId : TenantId) (phoneNumber : String) (merge : ContactRow → ContactRow)
    (make : Nat → ContactRow) : Nat × ContactsDb :=
  match Rows.splitFirst (fun contact => decide (contact.tenantId = tenantId ∧ contact.phoneNumber = phoneNumber))
      db.contacts with
  | some (before, contact, after) => (contact.id, { db with contacts := before ++ merge contact :: after })
  | none => (db.nextContactId, { db with
      contacts := db.contacts ++ [make db.nextContactId]
      nextContactId := db.nextContactId + 1 })

/-- The columns that a row gets when it is inserted: those in use keep theirs. -/
def ContactStore.stampContacts (store : ContactStore) (clock : TxClock) (id : Nat) : Timestamp :=
  if id < store.tables.nextContactId then store.contactCreatedAt id else clock.now

structure ContactItem where
  id : Nat
  phoneNumber : String
  name : Option String
  metadata : JsonObject
  createdAt : Timestamp
  updatedAt : Timestamp

def StoredContact.item (contact : StoredContact) : ContactItem where
  id := contact.id
  phoneNumber := contact.phoneNumber
  name := contact.name
  metadata := contact.metadata
  createdAt := contact.createdAt
  updatedAt := contact.updatedAt

namespace CreateContactDto

variable (dto : CreateContactDto)

def contact (tenantId : TenantId) (phoneNumber : String) (clock : TxClock) (id : Nat) : ContactRow where
  id := id
  tenantId := tenantId
  phoneNumber := phoneNumber
  name := dto.name
  metadata := dto.metadata.getD []
  source := "manual"
  updatedAt := clock.now

def merge (clock : TxClock) (contact : ContactRow) : ContactRow :=
  { contact with
    name := dto.name.or contact.name
    metadata := mergeObject contact.metadata (dto.metadata.getD [])
    updatedAt := clock.now }

/-- The number that is stored, if PostgreSQL takes the row: a local number grows by three characters. -/
def stored : Except Failure String := do
  let phoneNumber ← normalizePhoneNumber dto.phoneNumber
  storeText (some 20) phoneNumber
  storeOptional (some 100) dto.name
  storeObject (dto.metadata.getD [])
  return phoneNumber

end CreateContactDto

section Calls

variable (tenantId : TenantId) (clock : TxClock) (store : ContactStore)

/-- The answer also has the tenant's id. -/
def createContact (dto : CreateContactDto) : Except Failure (Option (TenantId × ContactItem)) × ContactStore :=
  match dto.stored with
  | .error failure => (.error failure, store)
  | .ok phoneNumber =>
    let (id, tables) := store.tables.upsert tenantId phoneNumber (dto.merge clock) (dto.contact tenantId phoneNumber clock)
    let store' := { store with tables := tables, contactCreatedAt := store.stampContacts clock }
    (.ok ((store'.contacts.find? fun contact => decide (contact.id = id)).map fun contact =>
      (contact.tenantId, contact.item)), store')

/-- `WHERE tenant_id = $1 AND id = $2`.  A number beyond BIGINT is the id of nothing. -/
def ownContact (contactId : Int) (contact : ContactRow) : Bool :=
  decide (contact.tenantId = tenantId ∧ (contact.id : Int) = contactId)

def UpdateContactDto.apply (dto : UpdateContactDto) (contact : ContactRow) : ContactRow :=
  { contact with
    name := dto.name.or contact.name
    metadata := dto.metadata.elim contact.metadata (mergeObject contact.metadata)
    updatedAt := clock.now }

def UpdateContactDto.stored (dto : UpdateContactDto) : Except Failure Unit := do
  storeOptional (some 100) dto.name
  storeObject (dto.metadata.getD [])

def updateContact (contactId : Int) (dto : UpdateContactDto) : Except Failure ContactItem × ContactStore :=
  match dto.stored with
  | .error failure => (.error failure, store)
  | .ok () =>
    let contacts := Rows.update (ownContact tenantId contactId) (dto.apply clock) store.tables.contacts
    let store' := { store with tables := { store.tables with contacts := contacts } }
    match contacts.find? (ownContact tenantId contactId) with
    | none => (.error (.notFound "Contact not found"), store')
    | some contact => (.ok (store'.storedContact contact).item, store')

structure CreatedGroup where
  id : ℕ+
  name : String
  createdAt : Timestamp

/-- A name that the tenant has given to a group already is refused. -/
def createGroup (dto : CreateContactGroupDto) : Except Failure CreatedGroup × ContactStore :=
  match storeText (some 100) dto.name with
  | .error failure => (.error failure, store)
  | .ok () =>
    if store.groups.any (fun group => decide (group.tenantId = tenantId ∧ group.name = dto.name)) = true then
      (.error (.uniqueViolation "contact_groups_tenant_id_name_key"), store)
    else
      let id := store.nextGroupId
      (.ok ⟨id, dto.name, clock.now⟩, { store with
        tables := { store.tables with groups := store.tables.groups ++ [(id, tenantId)] }
        nextGroupId := Nat.succPNat id
        groupName := Function.update store.groupName id dto.name
        groupCreatedAt := Function.update store.groupCreatedAt id clock.now })

/-- The import, with the times of the contacts that it makes. -/
def uploadInlineCsv (dto : UploadContactsDto) : Except Failure ContactUploadResponse × ContactStore :=
  match importInlineCsv tenantId dto clock store.tables with
  | (.error failure, tables) => (.error failure, { store with tables := tables })
  | (.ok response, tables) =>
    (.ok response, { store with tables := tables, contactCreatedAt := store.stampContacts clock })

end Calls

/-! ### Reads -/

/-- What PostgreSQL chooses: the order of texts, and of the rows that an ORDER BY leaves open. -/
structure ContactsOrder where
  nameLe : String → String → Bool
  group : ContactGroupRow → Nat
  member : StoredContact → Nat
  upload : ContactUploadRow → Nat
  uploadError : ContactUploadErrorRow → Nat

structure ContactDetail extends ContactItem where
  groups : List (ℕ+ × String)

structure GroupItem where
  id : ℕ+
  name : String
  memberCount : Nat
  createdAt : Timestamp

structure GroupMember where
  id : Nat
  phoneNumber : String
  name : Option String
  createdAt : Timestamp

structure GroupDetail where
  id : ℕ+
  name : String
  createdAt : Timestamp
  members : List GroupMember

structure UploadItem where
  id : Nat
  targetGroupId : Option ℕ+
  originalFileName : String
  status : String
  totalRows : Nat
  validRows : Nat
  invalidRows : Nat
  createdAt : Timestamp
  completedAt : Option Timestamp

structure UploadErrorItem where
  rowNumber : Nat
  rawRecord : CsvRecord
  errorReason : String

def StoredContact.member (contact : StoredContact) : GroupMember :=
  ⟨contact.id, contact.phoneNumber, contact.name, contact.createdAt⟩

def ContactUploadRow.item (upload : ContactUploadRow) : UploadItem where
  id := upload.id
  targetGroupId := upload.targetGroupId
  originalFileName := upload.originalFileName
  status := upload.status
  totalRows := upload.totalRows
  validRows := upload.validRows
  invalidRows := upload.invalidRows
  createdAt := upload.createdAt
  completedAt := upload.completedAt

def ContactUploadErrorRow.item (error : ContactUploadErrorRow) : UploadErrorItem :=
  ⟨error.rowNumber, error.rawRecord, error.errorReason⟩

section Reads

variable (order : ContactsOrder) (tenantId : TenantId) (store : ContactStore)

/-- `ORDER BY updated_at DESC, id DESC`. -/
def latestFirst (contact other : StoredContact) : Bool :=
  decide (other.updatedAt < contact.updatedAt ∨ (contact.updatedAt = other.updatedAt ∧ other.id ≤ contact.id))

def listContacts : List ContactItem :=
  (((store.contacts.filter fun contact => decide (contact.tenantId = tenantId)).mergeSort latestFirst).take 500).map
    StoredContact.item

/-- `contact_group_members` joined with the groups and with the contact of the tenant. -/
def groupsOfContact (contactId : Int) : List ContactGroupRow :=
  store.tables.members.flatMap fun member =>
    (store.groups.filter fun group => decide (group.id = member.1)).filter fun _ =>
      store.contacts.any fun contact =>
        decide (contact.id = member.2 ∧ contact.tenantId = tenantId ∧ (contact.id : Int) = contactId)

def getContact (contactId : Int) : Except Failure ContactDetail :=
  match (store.contacts.filter fun contact =>
      decide (contact.tenantId = tenantId ∧ (contact.id : Int) = contactId)).head? with
  | none => .error (.notFound "Contact not found")
  | some contact =>
    .ok { contact.item with
      groups := ((groupsOfContact tenantId store contactId).mergeSort fun group other =>
        order.nameLe group.name other.name).map fun group => (group.id, group.name) }

def memberCount (groupId : ℕ+) : Nat := store.tables.members.countP fun member => decide (member.1 = groupId)

def listGroups : List GroupItem :=
  (Queries.newestFirst ContactGroupRow.createdAt order.group
    (store.groups.filter fun group => decide (group.tenantId = tenantId))).map fun group =>
      ⟨group.id, group.name, memberCount store group.id, group.createdAt⟩

/-- `contact_group_members` joined with the contacts; there is no condition on a tenant. -/
def membersOfGroup (groupId : Int) : List StoredContact :=
  (store.tables.members.filter fun member => decide (((member.1 : Nat) : Int) = groupId)).flatMap fun member =>
    store.contacts.filter fun contact => decide (contact.id = member.2)

def getGroupDetail (groupId : Int) : Except Failure GroupDetail :=
  match (store.groups.filter fun group =>
      decide (group.tenantId = tenantId ∧ ((group.id : Nat) : Int) = groupId)).head? with
  | none => .error (.notFound "Contact group not found")
  | some group =>
    .ok ⟨group.id, group.name, group.createdAt,
      ((Queries.newestFirst StoredContact.createdAt order.member (membersOfGroup store groupId)).take 500).map
        StoredContact.member⟩

def listUploads : List UploadItem :=
  ((Queries.newestFirst ContactUploadRow.createdAt order.upload
    (store.tables.uploads.filter fun upload => decide (upload.tenantId = tenantId))).take 100).map ContactUploadRow.item

def listUploadErrors (uploadId : Int) : Except Failure (List UploadErrorItem) :=
  match (store.tables.uploads.filter fun upload =>
      decide (upload.tenantId = tenantId ∧ (upload.id : Int) = uploadId)).head? with
  | none => .error (.notFound "Contact upload not found")
  | some _ =>
    .ok ((Queries.oldestFirst (fun error => (error.rowNumber : Int)) order.uploadError
      (store.tables.uploadErrors.filter fun error => decide ((error.contactUploadId : Int) = uploadId))).map
        ContactUploadErrorRow.item)

end Reads

/-! ### Runs -/

inductive ContactsCall
  | createContact (dto : CreateContactDto)
  | updateContact (contactId : Int) (dto : UpdateContactDto)
  | createGroup (dto : CreateContactGroupDto)
  | uploadInlineCsv (dto : UploadContactsDto)

structure ContactsRequest where
  tenantId : TenantId
  clock : TxClock
  call : ContactsCall

/-- The calls that write, one after the other. -/
def step (store : ContactStore) (request : ContactsRequest) : Option ContactStore :=
  match request.call with
  | .createContact dto => some (createContact request.tenantId request.clock store dto).2
  | .updateContact contactId dto => some (updateContact request.tenantId request.clock store contactId dto).2
  | .createGroup dto => some (createGroup request.tenantId request.clock store dto).2
  | .uploadInlineCsv dto => some (uploadInlineCsv request.tenantId request.clock store dto).2

/-- The empty tables. -/
def empty : ContactStore where
  tables := ⟨[], 1, [], [], [], 1, []⟩
  nextGroupId := Nat.succPNat 0
  groupName := fun _ => ""
  groupCreatedAt := fun _ => 0
  contactCreatedAt := fun _ => 0

end ContactsService

end SmsPlatform
