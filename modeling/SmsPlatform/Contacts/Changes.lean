import SmsPlatform.Contacts.Store

/-!
# What the calls write

A call of the address book is a sequence of changes (`Change`), each of which touches rows of the calling tenant only:
contacts change in place, to names that the call brings, or are new, a membership joins a contact with a group of the same
tenant, and nothing is taken away (`changes_step`).  All of them keep the tables fitting (`ContactStore.Sound`).
-/

namespace SmsPlatform

namespace ContactsService

open Transition

/-! ### What a call changes -/

/-- The names in the valid rows of an import. -/
def UploadContactsDto.names (dto : UploadContactsDto) : List String :=
  match parseCsvContent dto.csvContent dto.delimiterText with
  | .error _ => []
  | .ok (rows, _) => rows.filterMap ParsedContactRow.name

/-- The names that a call brings for contacts. -/
def ContactsCall.names : ContactsCall → List String
  | .createContact dto => dto.name.toList
  | .updateContact _ dto => dto.name.toList
  | .createGroup _ => []
  | .uploadInlineCsv dto => dto.names

/-- The contact afterwards: its name is the same or one that was brought, which may be the empty text but never NULL, and no
key of the metadata goes. -/
structure ContactRow.Becomes (names : Set String) (contact contact' : ContactRow) : Prop where
  id : contact'.id = contact.id
  tenantId : contact'.tenantId = contact.tenantId
  phoneNumber : contact'.phoneNumber = contact.phoneNumber
  name : contact'.name = contact.name ∨ ∃ name ∈ names, contact'.name = some name
  metadata : ∀ key, (contact.metadata.lookup key).isSome = true → (contact'.metadata.lookup key).isSome = true

theorem ContactRow.Becomes.refl {names : Set String} (contact : ContactRow) : contact.Becomes names contact :=
  ⟨rfl, rfl, rfl, .inl rfl, fun _ h => h⟩

theorem ContactRow.Becomes.trans {names : Set String} {contact contact' contact'' : ContactRow}
    (h : contact.Becomes names contact') (h' : contact'.Becomes names contact'') : contact.Becomes names contact'' where
  id := h'.id.trans h.id
  tenantId := h'.tenantId.trans h.tenantId
  phoneNumber := h'.phoneNumber.trans h.phoneNumber
  name := by
    rcases h'.name with hkept | hbrought
    · rw [hkept]
      exact h.name
    · exact .inr hbrought
  metadata := fun key hkey => h'.metadata key (h.metadata key hkey)

/-- The contact is kept, or it is one of the tenant. -/
def ContactRow.ChangedBy (tenantId : TenantId) (names : Set String) (contact contact' : ContactRow) : Prop :=
  contact' = contact ∨ (contact.tenantId = tenantId ∧ contact.Becomes names contact')

def ContactUploadRow.ChangedBy (tenantId : TenantId) (upload upload' : ContactUploadRow) : Prop :=
  upload' = upload ∨ (upload.tenantId = tenantId ∧ upload'.id = upload.id ∧ upload'.tenantId = tenantId)

/-- One thing that a call of a tenant with these names may do to the tables. -/
inductive Change (tenantId : TenantId) (names : Set String) (store : ContactStore) : ContactStore → Prop
  | contacts {contacts : List ContactRow}
      (hchanged : List.Forall₂ (ContactRow.ChangedBy tenantId names) store.tables.contacts contacts) :
      Change tenantId names store { store with tables := { store.tables with contacts := contacts } }
  | contact {contact : ContactRow} (hid : contact.id = store.tables.nextContactId) (htenant : contact.tenantId = tenantId)
      (hkey : ∀ other ∈ store.tables.contacts, other.key ≠ contact.key) :
      Change tenantId names store { store with tables := { store.tables with
        contacts := store.tables.contacts ++ [contact], nextContactId := store.tables.nextContactId + 1 } }
  | member {groupId : ℕ+} {contact : ContactRow} (hgroup : (groupId, tenantId) ∈ store.tables.groups)
      (hcontact : contact ∈ store.tables.contacts) (htenant : contact.tenantId = tenantId)
      (hnew : (groupId, contact.id) ∉ store.tables.members) :
      Change tenantId names store { store with tables := { store.tables with
        members := store.tables.members ++ [(groupId, contact.id)] } }
  | group {groupName : ℕ+ → String} {groupCreatedAt : ℕ+ → Timestamp}
      (hname : ∀ group ∈ store.tables.groups, groupName group.1 = store.groupName group.1)
      (hcreated : ∀ group ∈ store.tables.groups, groupCreatedAt group.1 = store.groupCreatedAt group.1) :
      Change tenantId names store {
        tables := { store.tables with groups := store.tables.groups ++ [(store.nextGroupId, tenantId)] }
        nextGroupId := Nat.succPNat store.nextGroupId
        groupName := groupName
        groupCreatedAt := groupCreatedAt
        contactCreatedAt := store.contactCreatedAt }
  | upload {upload : ContactUploadRow} (hid : upload.id = store.tables.nextUploadId) (htenant : upload.tenantId = tenantId) :
      Change tenantId names store { store with tables := { store.tables with
        uploads := store.tables.uploads ++ [upload], nextUploadId := store.tables.nextUploadId + 1 } }
  | uploads {uploads : List ContactUploadRow}
      (hchanged : List.Forall₂ (ContactUploadRow.ChangedBy tenantId) store.tables.uploads uploads) :
      Change tenantId names store { store with tables := { store.tables with uploads := uploads } }
  | uploadError {error : ContactUploadErrorRow} {upload : ContactUploadRow} (hupload : upload ∈ store.tables.uploads)
      (htenant : upload.tenantId = tenantId) (hid : error.contactUploadId = upload.id) :
      Change tenantId names store { store with tables := { store.tables with
        uploadErrors := store.tables.uploadErrors ++ [error] } }
  | columns {contactCreatedAt : Nat → Timestamp}
      (hcreated : ∀ contact ∈ store.tables.contacts, contactCreatedAt contact.id = store.contactCreatedAt contact.id) :
      Change tenantId names store { store with contactCreatedAt := contactCreatedAt }

abbrev Changes (tenantId : TenantId) (names : Set String) : ContactStore → ContactStore → Prop :=
  Relation.ReflTransGen (Change tenantId names)

/-! ### Tables that fit together -/

structure ContactStore.Sound (store : ContactStore) : Prop where
  contactIds : Rows.Keyed ContactRow.id store.tables.contacts
  contactsBelow : ∀ contact ∈ store.tables.contacts, contact.id < store.tables.nextContactId
  contactKeys : Rows.Keyed ContactRow.key store.tables.contacts
  groupIds : Rows.Keyed Prod.fst store.tables.groups
  groupsBelow : ∀ group ∈ store.tables.groups, group.1 < store.nextGroupId
  uploadIds : Rows.Keyed ContactUploadRow.id store.tables.uploads
  uploadsBelow : ∀ upload ∈ store.tables.uploads, upload.id < store.tables.nextUploadId
  members : ∀ member ∈ store.tables.members, ∃ contact ∈ store.tables.contacts,
    contact.id = member.2 ∧ (member.1, contact.tenantId) ∈ store.tables.groups
  once : store.tables.members.Nodup

section Changes

variable {tenantId reader : TenantId} {names : Set String} {store store' : ContactStore}

theorem ContactRow.ChangedBy.becomes {contact contact' : ContactRow} (h : contact.ChangedBy tenantId names contact') :
    contact.Becomes names contact' := by
  rcases h with rfl | ⟨-, h⟩
  · exact .refl _
  · exact h

theorem ContactUploadRow.ChangedBy.id_eq {upload upload' : ContactUploadRow} (h : upload.ChangedBy tenantId upload') :
    upload'.id = upload.id := by
  rcases h with rfl | ⟨-, h, -⟩
  · rfl
  · exact h

/-- A change keeps the tables fitting. -/
theorem sound_change (h : Change tenantId names store store') (hs : store.Sound) : store'.Sound := by
  cases h with
  | contacts hchanged =>
    have hids := @Rows.map_eq_of_forall₂ ContactRow Nat _ _ _ ContactRow.id hchanged fun _ _ h => h.becomes.id
    have hkeys := @Rows.map_eq_of_forall₂ ContactRow _ _ _ _ ContactRow.key hchanged fun contact contact' h => by
      unfold ContactRow.key
      rw [h.becomes.tenantId, h.becomes.phoneNumber]
    refine { hs with contactIds := ?_, contactsBelow := ?_, contactKeys := ?_, members := ?_ }
    · unfold Rows.Keyed
      rw [hids]
      exact hs.contactIds
    · have hbelow : ∀ id ∈ store.tables.contacts.map ContactRow.id, id < store.tables.nextContactId := by
        intro id hid
        obtain ⟨contact, hcontact, rfl⟩ := List.mem_map.1 hid
        exact hs.contactsBelow contact hcontact
      intro contact hcontact
      refine hbelow contact.id ?_
      rw [← hids]
      exact List.mem_map_of_mem hcontact
    · unfold Rows.Keyed
      rw [hkeys]
      exact hs.contactKeys
    · intro member hmember
      obtain ⟨contact, hcontact, hid, hgroup⟩ := hs.members member hmember
      obtain ⟨contact', hcontact', hbecomes⟩ := Rows.exists_of_forall₂ hchanged hcontact
      refine ⟨contact', hcontact', hbecomes.becomes.id.trans hid, ?_⟩
      rw [hbecomes.becomes.tenantId]
      exact hgroup
  | @contact contact hid htenant hkey =>
    have hfresh : ∀ other ∈ store.tables.contacts, other.id ≠ contact.id := by
      intro other hother
      have hlt := hs.contactsBelow other hother
      omega
    refine { hs with contactIds := ?_, contactsBelow := ?_, contactKeys := ?_, members := ?_ }
    · exact hs.contactIds.append_fresh hfresh
    · intro other hother
      show other.id < store.tables.nextContactId + 1
      rcases List.mem_append.1 hother with hother | hother
      · have hlt := hs.contactsBelow other hother
        omega
      · rw [List.mem_singleton.1 hother]
        omega
    · exact hs.contactKeys.append_fresh hkey
    · intro member hmember
      obtain ⟨other, hother, hmember⟩ := hs.members member hmember
      exact ⟨other, List.mem_append_left _ hother, hmember⟩
  | @member groupId contact hgroup hcontact htenant hnew =>
    refine { hs with members := ?_, once := ?_ }
    · intro member hmember
      rcases List.mem_append.1 hmember with hmember | hmember
      · exact hs.members member hmember
      · rw [List.mem_singleton.1 hmember]
        refine ⟨contact, hcontact, rfl, ?_⟩
        rw [htenant]
        exact hgroup
    · rw [List.nodup_append]
      refine ⟨hs.once, by simp, ?_⟩
      rintro member hmember other hother rfl
      rw [List.mem_singleton.1 hother] at hmember
      exact hnew hmember
  | group hname hcreated =>
    refine { hs with groupIds := ?_, groupsBelow := ?_, members := ?_ }
    · exact hs.groupIds.append_fresh fun group hgroup => (hs.groupsBelow group hgroup).ne
    · intro group hgroup
      show group.1 < Nat.succPNat store.nextGroupId
      rcases List.mem_append.1 hgroup with hgroup | hgroup
      · exact (hs.groupsBelow group hgroup).trans (Nat.lt_succ_self _)
      · rw [List.mem_singleton.1 hgroup]
        exact Nat.lt_succ_self _
    · intro member hmember
      obtain ⟨contact, hcontact, hid, hgroup⟩ := hs.members member hmember
      exact ⟨contact, hcontact, hid, List.mem_append_left _ hgroup⟩
  | @upload upload hid htenant =>
    have hfresh : ∀ other ∈ store.tables.uploads, other.id ≠ upload.id := by
      intro other hother
      have hlt := hs.uploadsBelow other hother
      omega
    refine { hs with uploadIds := hs.uploadIds.append_fresh hfresh, uploadsBelow := ?_ }
    intro other hother
    show other.id < store.tables.nextUploadId + 1
    rcases List.mem_append.1 hother with hother | hother
    · have hlt := hs.uploadsBelow other hother
      omega
    · rw [List.mem_singleton.1 hother]
      omega
  | uploads hchanged =>
    have hids := @Rows.map_eq_of_forall₂ ContactUploadRow Nat _ _ _ ContactUploadRow.id hchanged fun _ _ h => h.id_eq
    refine { hs with uploadIds := ?_, uploadsBelow := ?_ }
    · unfold Rows.Keyed
      rw [hids]
      exact hs.uploadIds
    · have hbelow : ∀ id ∈ store.tables.uploads.map ContactUploadRow.id, id < store.tables.nextUploadId := by
        intro id hid
        obtain ⟨upload, hupload, rfl⟩ := List.mem_map.1 hid
        exact hs.uploadsBelow upload hupload
      intro upload hupload
      refine hbelow upload.id ?_
      rw [← hids]
      exact List.mem_map_of_mem hupload
  | uploadError => exact { hs with }
  | columns => exact { hs with }

theorem sound_changes (h : Changes tenantId names store store') (hs : store.Sound) : store'.Sound := by
  induction h with
  | refl => exact hs
  | tail _ hchange ih => exact sound_change hchange ih

end Changes

/-! ### What the calls do -/

theorem becomes_merge {names : Set String} {contact : ContactRow} {name : Option String} {metadata : JsonObject}
    {updatedAt : Timestamp} (hname : ∀ name' ∈ name, name' ∈ names)
    (hmetadata : ∀ key, (contact.metadata.lookup key).isSome = true → (metadata.lookup key).isSome = true) :
    contact.Becomes names { contact with name := name.or contact.name, metadata := metadata, updatedAt := updatedAt } where
  id := rfl
  tenantId := rfl
  phoneNumber := rfl
  name := by
    cases name with
    | none => exact .inl rfl
    | some name => exact .inr ⟨name, hname name rfl, rfl⟩
  metadata := hmetadata

theorem lookup_mergeObject (metadata object : JsonObject) (key : String) :
    ((mergeObject metadata object).lookup key).isSome = ((object.lookup key).isSome || (metadata.lookup key).isSome) := by
  unfold mergeObject
  rw [Bool.eq_iff_iff, Bool.or_eq_true]
  simp only [List.lookup_isSome_iff, List.mem_append, List.mem_filter, Bool.not_eq_true', List.any_eq_false, beq_iff_eq]
  constructor
  · rintro ⟨entry, ⟨hmem, -⟩ | hmem, hkey⟩
    · exact .inr ⟨entry, hmem, hkey⟩
    · exact .inl ⟨entry, hmem, hkey⟩
  · rintro (⟨entry, hmem, hkey⟩ | ⟨entry, hmem, hkey⟩)
    · exact ⟨entry, .inr hmem, hkey⟩
    · -- the key's entry is kept unless the object has the key
      by_cases hobject : ∃ new ∈ object, key = new.1
      · obtain ⟨new, hnew, heq⟩ := hobject
        exact ⟨new, .inr hnew, heq⟩
      · refine ⟨entry, .inl ⟨hmem, fun new hnew heq => hobject ⟨new, hnew, ?_⟩⟩, hkey⟩
        exact hkey.trans heq.symm

theorem becomes_mergeObject {names : Set String} {contact : ContactRow} {name : Option String} {object : JsonObject}
    {updatedAt : Timestamp} (hname : ∀ name' ∈ name, name' ∈ names) :
    contact.Becomes names { contact with
      name := name.or contact.name
      metadata := mergeObject contact.metadata object
      updatedAt := updatedAt } :=
  becomes_merge hname fun key hkey => by rw [lookup_mergeObject, hkey, Bool.or_true]

theorem becomes_merge_row {names : Set String} (clock : TxClock) {row : ParsedContactRow}
    (hname : ∀ name ∈ row.name, name ∈ names) (contact : ContactRow) : contact.Becomes names (row.merge clock contact) := by
  refine becomes_merge hname fun key hkey => ?_
  rw [lookup_mergeMetadata]
  cases row.metadata.lookup key with
  | none => simpa using hkey
  | some value => rfl

theorem becomes_apply {names : Set String} (clock : TxClock) {dto : UpdateContactDto}
    (hname : ∀ name ∈ dto.name, name ∈ names) (contact : ContactRow) : contact.Becomes names (dto.apply clock contact) := by
  unfold UpdateContactDto.apply
  cases dto.metadata with
  | none => exact becomes_merge hname fun _ hkey => hkey
  | some object => exact becomes_mergeObject hname

section Calls

variable {tenantId : TenantId} {names : Set String} {clock : TxClock} {store : ContactStore}

/-- The upsert of a row of the tenant, and the contact that has its id then. -/
theorem changes_upsert {phoneNumber : String} {merge : ContactRow → ContactRow} {make : Nat → ContactRow}
    (hmerge : ∀ contact : ContactRow, contact.Becomes names (merge contact))
    (hmake : ∀ id, (make id).id = id ∧ (make id).key = (tenantId, phoneNumber)) :
    Changes tenantId names store { store with tables := (store.tables.upsert tenantId phoneNumber merge make).2 } ∧
      (store.tables.upsert tenantId phoneNumber merge make).2.groups = store.tables.groups ∧
      ∃ contact ∈ (store.tables.upsert tenantId phoneNumber merge make).2.contacts,
        contact.id = (store.tables.upsert tenantId phoneNumber merge make).1 ∧ contact.tenantId = tenantId := by
  unfold ContactsDb.upsert
  cases hsplit : Rows.splitFirst (fun contact : ContactRow =>
      decide (contact.tenantId = tenantId ∧ contact.phoneNumber = phoneNumber)) store.tables.contacts with
  | some found =>
    obtain ⟨before, contact, after⟩ := found
    obtain ⟨hcontacts, hfound⟩ := Rows.eq_append_of_splitFirst hsplit
    obtain ⟨htenant, -⟩ := of_decide_eq_true hfound
    have hchanged : List.Forall₂ (ContactRow.ChangedBy tenantId names) store.tables.contacts
        (before ++ merge contact :: after) := by
      rw [hcontacts]
      exact Rows.forall₂_replace (fun _ => .inl rfl) (.inr ⟨htenant, hmerge contact⟩)
    refine ⟨.single (.contacts hchanged), rfl, merge contact, by simp, (hmerge contact).id, ?_⟩
    rw [(hmerge contact).tenantId]
    exact htenant
  | none =>
    obtain ⟨hid, hkey⟩ := hmake store.tables.nextContactId
    have htenant : (make store.tables.nextContactId).tenantId = tenantId := congrArg Prod.fst hkey
    have hfresh : ∀ other ∈ store.tables.contacts, other.key ≠ (make store.tables.nextContactId).key := by
      intro other hother heq
      rw [hkey] at heq
      have hnone := Rows.splitFirst_eq_none.1 hsplit other hother
      exact of_decide_eq_false hnone ⟨congrArg Prod.fst heq, congrArg Prod.snd heq⟩
    exact ⟨.single (.contact hid htenant hfresh), rfl, make store.tables.nextContactId, by simp, hid, htenant⟩

theorem changes_addMember {targetGroupId : Option ℕ+} (hgroup : ∀ groupId ∈ targetGroupId,
    (groupId, tenantId) ∈ store.tables.groups) {contactId : Nat} (hcontact : ∃ contact ∈ store.tables.contacts,
      contact.id = contactId ∧ contact.tenantId = tenantId) :
    Changes tenantId names store { store with tables := store.tables.addMember targetGroupId contactId } := by
  obtain ⟨contact, hcontact, rfl, htenant⟩ := hcontact
  unfold ContactsDb.addMember
  cases targetGroupId with
  | none => exact .refl
  | some groupId =>
    dsimp only
    by_cases hmem : (groupId, contact.id) ∈ store.tables.members
    · rw [if_pos hmem]
    · rw [if_neg hmem]
      exact .single (.member (hgroup groupId rfl) hcontact htenant hmem)

theorem changes_withRow {targetGroupId : Option ℕ+} (hgroup : ∀ groupId ∈ targetGroupId,
    (groupId, tenantId) ∈ store.tables.groups) {row : ParsedContactRow} (hname : ∀ name ∈ row.name, name ∈ names) :
    Changes tenantId names store { store with tables := store.tables.withRow tenantId clock targetGroupId row } ∧
      (store.tables.withRow tenantId clock targetGroupId row).groups = store.tables.groups := by
  obtain ⟨hupsert, hgroups, hcontact⟩ := @changes_upsert tenantId names store row.phoneNumber (row.merge clock)
    (row.contact tenantId clock) (becomes_merge_row clock hname) fun id => ⟨rfl, rfl⟩
  have hgroup' : ∀ groupId ∈ targetGroupId,
      (groupId, tenantId) ∈ (store.tables.upsertContact tenantId clock row).2.groups := by
    intro groupId htarget
    show _ ∈ (store.tables.upsert tenantId row.phoneNumber (row.merge clock) (row.contact tenantId clock)).2.groups
    rw [hgroups]
    exact hgroup groupId htarget
  refine ⟨hupsert.trans (@changes_addMember tenantId names { store with tables := _ } targetGroupId hgroup' _ hcontact), ?_⟩
  refine Eq.trans ?_ hgroups
  unfold ContactsDb.withRow ContactsDb.addMember
  cases targetGroupId with
  | none => rfl
  | some groupId =>
    dsimp only
    split <;> rfl

theorem changes_foldl {targetGroupId : Option ℕ+} (rows : List ParsedContactRow) (hgroup : ∀ groupId ∈ targetGroupId,
    (groupId, tenantId) ∈ store.tables.groups) (hnames : ∀ row ∈ rows, ∀ name ∈ row.name, name ∈ names) :
    Changes tenantId names store
      { store with tables := rows.foldl (ContactsDb.withRow tenantId clock targetGroupId) store.tables } := by
  induction rows generalizing store with
  | nil => exact .refl
  | cons row rows ih =>
    obtain ⟨hname, hnames⟩ := List.forall_mem_cons.1 hnames
    obtain ⟨hrow, hgroups⟩ := @changes_withRow tenantId names clock store targetGroupId hgroup row hname
    refine hrow.trans (@ih { store with tables := store.tables.withRow tenantId clock targetGroupId row } ?_ hnames)
    intro groupId htarget
    show _ ∈ (store.tables.withRow tenantId clock targetGroupId row).groups
    rw [hgroups]
    exact hgroup groupId htarget

theorem createUpload_run {dto : UploadContactsDto} {db : ContactsDb} {created : Nat × ContactsDb}
    (h : (createUpload tenantId dto clock).run db = .ok created) : created = (db.nextUploadId, { db with
      uploads := db.uploads ++ [dto.uploadRow tenantId clock db.nextUploadId], nextUploadId := db.nextUploadId + 1 }) := by
  obtain ⟨hfile, hdelimiter⟩ := createUpload_clean h
  rw [createUpload_eq_ok hfile hdelimiter] at h
  exact (Except.ok.inj h).symm

theorem recordErrors_run {uploadId : Nat} {errors : List ParsedContactError} {db : ContactsDb} {result : Unit × ContactsDb}
    (h : (recordErrors uploadId errors).run db = .ok result) : result =
      ((), { db with uploadErrors := db.uploadErrors ++ errors.map (ParsedContactError.row uploadId) }) := by
  by_cases hclean : ∀ error ∈ errors, CleanRecord error.rawRecord
  · rw [recordErrors_of_clean hclean] at h
    exact (Except.ok.inj h).symm
  · obtain ⟨failure, hfailure⟩ := @recordErrors_of_not_clean db uploadId errors hclean
    rw [hfailure] at h
    cases h

theorem importRows_run {targetGroupId : Option ℕ+} {rows : List ParsedContactRow} {db : ContactsDb}
    {result : Nat × ContactsDb} (h : (importRows tenantId clock targetGroupId rows 0).run db = .ok result) :
    result.2 = rows.foldl (ContactsDb.withRow tenantId clock targetGroupId) db := by
  by_cases hstorable : ∀ row ∈ rows, row.Storable
  · rw [importRows_of_storable hstorable] at h
    rw [← Except.ok.inj h]
  · obtain ⟨failure, hfailure⟩ := @importRows_of_not_storable tenantId clock targetGroupId rows db hstorable 0
    rw [hfailure] at h
    cases h

theorem changes_errors {upload : ContactUploadRow} (hupload : upload ∈ store.tables.uploads)
    (htenant : upload.tenantId = tenantId) (errors : List ContactUploadErrorRow)
    (herrors : ∀ error ∈ errors, error.contactUploadId = upload.id) :
    Changes tenantId names store { store with tables := { store.tables with
      uploadErrors := store.tables.uploadErrors ++ errors } } := by
  induction errors generalizing store with
  | nil =>
    rw [List.append_nil]
  | cons error errors ih =>
    obtain ⟨hid, hrest⟩ := List.forall_mem_cons.1 herrors
    have hchange := @Change.uploadError tenantId names store error upload hupload htenant hid
    have hchanges := @ih { store with tables := { store.tables with
      uploadErrors := store.tables.uploadErrors ++ [error] } } hupload hrest
    dsimp only at hchanges
    rw [List.append_assoc] at hchanges
    exact .head hchange hchanges

/-- The transaction of an import, for a group of the tenant or none. -/
theorem changes_importTx (hs : store.Sound) {dto : UploadContactsDto} {rows : List ParsedContactRow}
    {errors : List ParsedContactError} {response : ContactUploadResponse} {tables : ContactsDb}
    (hgroup : ∀ groupId ∈ dto.targetGroupId, (groupId, tenantId) ∈ store.tables.groups)
    (hnames : ∀ row ∈ rows, ∀ name ∈ row.name, name ∈ names)
    (h : (importTx tenantId dto clock rows errors).run store.tables = .ok (response, tables)) :
    Changes tenantId names store { store with tables := tables } := by
  unfold importTx at h
  obtain ⟨uploadId, db₁, hcreated, h⟩ := StateExcept.bind_eq_ok.1 h
  obtain ⟨_, db₂, hrecorded, h⟩ := StateExcept.bind_eq_ok.1 h
  obtain ⟨validRows, db₃, himported, h⟩ := StateExcept.bind_eq_ok.1 h
  cases h
  obtain ⟨rfl, hdb₁⟩ := Prod.mk.inj (createUpload_run hcreated)
  have hdb₂ := (Prod.mk.inj (recordErrors_run hrecorded)).2
  have hdb₃ : db₃ = rows.foldl (ContactsDb.withRow tenantId clock dto.targetGroupId) db₂ := importRows_run himported
  -- the upload's row, its errors, the contacts, and the row once more
  have hrow : Changes tenantId names store { store with tables := db₁ } := by
    rw [hdb₁]
    exact .single (.upload rfl rfl)
  have hupload : dto.uploadRow tenantId clock store.tables.nextUploadId ∈ db₁.uploads := by
    rw [hdb₁]
    simp
  have herrors : Changes tenantId names { store with tables := db₁ } { store with tables := db₂ } := by
    rw [hdb₂]
    refine @changes_errors tenantId names { store with tables := db₁ } _ hupload rfl _ fun error herror => ?_
    obtain ⟨parsed, -, rfl⟩ := List.mem_map.1 herror
    rfl
  have hgroups : db₂.groups = store.tables.groups := by rw [hdb₂, hdb₁]
  have hrows : Changes tenantId names { store with tables := db₂ } { store with tables := db₃ } := by
    rw [hdb₃]
    exact @changes_foldl tenantId names clock { store with tables := db₂ } dto.targetGroupId rows
      (fun groupId htarget => hgroups ▸ hgroup groupId htarget) hnames
  have hsound := sound_changes ((hrow.trans herrors).trans hrows) hs
  have huploads : db₃.uploads = db₁.uploads := by rw [hdb₃, foldl_uploads.1, hdb₂]
  refine ((hrow.trans herrors).trans hrows).tail (.uploads (Rows.forall₂_update (fun _ => .inl rfl) ?_))
  intro upload hmem hid
  have hsame : upload = dto.uploadRow tenantId clock store.tables.nextUploadId :=
    hsound.uploadIds.unique hmem (huploads ▸ hupload) (of_decide_eq_true hid)
  rw [hsame]
  exact .inr ⟨rfl, rfl, rfl⟩

/-- Contacts that are new get the time of the call. -/
theorem changes_stamp (hs : store.Sound) :
    Changes tenantId names store { store with contactCreatedAt := store.stampContacts clock } := by
  refine .single (.columns fun contact hcontact => ?_)
  unfold ContactStore.stampContacts
  rw [if_pos (hs.contactsBelow contact hcontact)]

theorem sound_stamp (hs : store.Sound) : ContactStore.Sound { store with contactCreatedAt := store.stampContacts clock } :=
  { hs with }

theorem changes_uploadInlineCsv (hs : store.Sound) (dto : UploadContactsDto)
    (hnames : ∀ name ∈ dto.names, name ∈ names) :
    Changes tenantId names store (uploadInlineCsv tenantId clock store dto).2 := by
  unfold uploadInlineCsv importInlineCsv
  unfold UploadContactsDto.names at hnames
  cases hparsed : parseCsvContent dto.csvContent dto.delimiterText with
  | error failure => exact .refl
  | ok parsed =>
    obtain ⟨rows, errors⟩ := parsed
    dsimp only
    by_cases hall : (dto.targetGroupId.all fun groupId => decide ((groupId, tenantId) ∈ store.tables.groups)) = false
    · rw [if_pos hall]
    · rw [if_neg hall]
      have hgroup : ∀ groupId ∈ dto.targetGroupId, (groupId, tenantId) ∈ store.tables.groups := by
        intro groupId htarget
        rw [Bool.not_eq_false, htarget] at hall
        exact of_decide_eq_true hall
      cases hrun : (importTx tenantId dto clock rows errors).run store.tables with
      | error failure => exact .refl
      | ok result =>
        obtain ⟨response, tables⟩ := result
        refine (changes_stamp hs).trans (changes_importTx (sound_stamp hs) hgroup (fun row hrow name hname => ?_) hrun)
        rw [hparsed] at hnames
        exact hnames name (List.mem_filterMap.2 ⟨row, hrow, hname⟩)

theorem changes_createContact (hs : store.Sound) (dto : CreateContactDto) (hname : ∀ name ∈ dto.name, name ∈ names) :
    Changes tenantId names store (createContact tenantId clock store dto).2 := by
  unfold createContact
  cases dto.stored with
  | error failure => exact .refl
  | ok phoneNumber =>
    refine (@changes_stamp tenantId names clock store hs).trans ?_
    exact (@changes_upsert tenantId names { store with contactCreatedAt := store.stampContacts clock } phoneNumber
      (dto.merge clock) (dto.contact tenantId phoneNumber clock) (fun _ => becomes_mergeObject hname) fun _ => ⟨rfl, rfl⟩).1

theorem changes_updateContact (contactId : Int) (dto : UpdateContactDto) (hname : ∀ name ∈ dto.name, name ∈ names) :
    Changes tenantId names store (updateContact tenantId clock store contactId dto).2 := by
  unfold updateContact
  cases dto.stored with
  | error failure => exact .refl
  | ok _ =>
    dsimp only
    have hchanged : List.Forall₂ (ContactRow.ChangedBy tenantId names) store.tables.contacts
        (Rows.update (ownContact tenantId contactId) (dto.apply clock) store.tables.contacts) :=
      Rows.forall₂_update (fun _ => .inl rfl) fun contact _ hown =>
        .inr ⟨(of_decide_eq_true hown).1, becomes_apply clock hname contact⟩
    have hchange := @Change.contacts tenantId names store _ hchanged
    split
    · exact .single hchange
    · exact .single hchange

theorem changes_createGroup (hs : store.Sound) (dto : CreateContactGroupDto) :
    Changes tenantId names store (createGroup tenantId clock store dto).2 := by
  unfold createGroup
  cases storeText (some 100) dto.name with
  | error failure => exact .refl
  | ok _ =>
    dsimp only
    split
    · exact .refl
    · refine .single (.group (fun group hgroup => ?_) fun group hgroup => ?_)
      · exact Function.update_of_ne (hs.groupsBelow group hgroup).ne _ _
      · exact Function.update_of_ne (hs.groupsBelow group hgroup).ne _ _

/-- A call changes rows of its tenant only, and names only to those that it brings. -/
theorem changes_step (hs : store.Sound) {request : ContactsRequest} {store' : ContactStore}
    (hnames : ∀ name ∈ request.call.names, name ∈ names) (h : step store request = some store') :
    Changes request.tenantId names store store' := by
  obtain ⟨tenantId, clock, call⟩ := request
  unfold step at h
  cases call with
  | createContact dto =>
    cases h
    exact changes_createContact hs dto fun name hname => hnames name (Option.mem_toList.2 hname)
  | updateContact contactId dto =>
    cases h
    exact changes_updateContact contactId dto fun name hname => hnames name (Option.mem_toList.2 hname)
  | createGroup dto =>
    cases h
    exact changes_createGroup hs dto
  | uploadInlineCsv dto =>
    cases h
    exact changes_uploadInlineCsv hs dto hnames

/-- Any call, whatever names it brings. -/
theorem changes_step_univ (hs : store.Sound) {request : ContactsRequest} {store' : ContactStore}
    (h : step store request = some store') : Changes request.tenantId Set.univ store store' :=
  changes_step hs (fun _ _ => Set.mem_univ _) h

end Calls

/-! ### Runs -/

theorem sound_empty : empty.Sound where
  contactIds := List.nodup_nil
  contactsBelow := by simp [empty]
  contactKeys := List.nodup_nil
  groupIds := List.nodup_nil
  groupsBelow := by simp [empty]
  uploadIds := List.nodup_nil
  uploadsBelow := by simp [empty]
  members := by simp [empty]
  once := List.nodup_nil

theorem sound_of_reaches {store : ContactStore} (h : Reaches step empty store) : store.Sound :=
  h.invariant sound_empty fun _ _ _ hs _ hstep => sound_changes (changes_step_univ hs hstep) hs

theorem sound_of_runs {ok : ContactStore → ContactsRequest → Prop} {store store' : ContactStore}
    (h : Runs step ok store store') (hs : store.Sound) : store'.Sound :=
  h.invariant hs fun _ _ _ hs _ hstep => sound_changes (changes_step_univ hs hstep) hs

end ContactsService

end SmsPlatform
