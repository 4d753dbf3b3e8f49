import SmsPlatform.Contacts.Changes

/-!
# One address book a tenant

All tenants share the tables of the address book, and a membership has no tenant of its own: `getGroupDetail` reads the
members of a group by the group alone.  As every change is one of the calling tenant's rows, a tenant is shown nothing that
the calls of others have changed (`reads_unmoved`).
-/

namespace SmsPlatform

namespace ContactsService

open Transition Queries

/-! ### The rows of a tenant -/

/-- The membership is one of a group of the tenant. -/
def ownMember (tenantId : TenantId) (store : ContactStore) (member : ℕ+ × Nat) : Bool :=
  store.tables.groups.any fun group => decide (group = (member.1, tenantId))

theorem ownMember_eq_true {tenantId : TenantId} {store : ContactStore} {member : ℕ+ × Nat} :
    ownMember tenantId store member = true ↔ (member.1, tenantId) ∈ store.tables.groups := by
  simp [ownMember]

/-- The error is one of an upload of the tenant. -/
def ownError (tenantId : TenantId) (store : ContactStore) (error : ContactUploadErrorRow) : Bool :=
  (store.tables.uploads.filter fun upload => decide (upload.tenantId = tenantId)).any fun upload =>
    decide (upload.id = error.contactUploadId)

/-- The tenant has the same rows in both. -/
structure SameFor (tenantId : TenantId) (store store' : ContactStore) : Prop where
  contacts : Agree (fun contact => decide (contact.tenantId = tenantId)) store.contacts store'.contacts
  groups : Agree (fun group => decide (group.tenantId = tenantId)) store.groups store'.groups
  members : store.tables.members.filter (ownMember tenantId store) =
    store'.tables.members.filter (ownMember tenantId store')
  uploads : Agree (fun upload => decide (upload.tenantId = tenantId)) store.tables.uploads store'.tables.uploads
  uploadErrors : store.tables.uploadErrors.filter (ownError tenantId store) =
    store'.tables.uploadErrors.filter (ownError tenantId store')

theorem SameFor.refl (tenantId : TenantId) (store : ContactStore) : SameFor tenantId store store :=
  ⟨rfl, rfl, rfl, rfl, rfl⟩

theorem SameFor.trans {tenantId : TenantId} {store store' store'' : ContactStore} (h : SameFor tenantId store store')
    (h' : SameFor tenantId store' store'') : SameFor tenantId store store'' where
  contacts := Eq.trans h.contacts h'.contacts
  groups := Eq.trans h.groups h'.groups
  members := h.members.trans h'.members
  uploads := Eq.trans h.uploads h'.uploads
  uploadErrors := h.uploadErrors.trans h'.uploadErrors

section Isolation

variable {tenantId reader : TenantId} {names : Set String} {store store' : ContactStore}

theorem contacts_filter (store : ContactStore) (tenantId : TenantId) :
    (store.contacts.filter fun contact => decide (contact.tenantId = tenantId)) =
      (store.tables.contacts.filter fun contact => decide (contact.tenantId = tenantId)).map store.storedContact := by
  unfold ContactStore.contacts
  rw [List.filter_map]
  rfl

theorem groups_filter (store : ContactStore) (tenantId : TenantId) :
    (store.groups.filter fun group => decide (group.tenantId = tenantId)) =
      (store.tables.groups.filter fun group => decide (group.2 = tenantId)).map store.groupRow := by
  unfold ContactStore.groups
  rw [List.filter_map]
  rfl

/-- The rows of a group's id have one tenant. -/
theorem tenant_unique (hs : store.Sound) {groupId : ℕ+} (h : (groupId, tenantId) ∈ store.tables.groups)
    (h' : (groupId, reader) ∈ store.tables.groups) : tenantId = reader :=
  congrArg Prod.snd (hs.groupIds.unique h h' rfl)

theorem contact_unique (hs : store.Sound) {contact other : ContactRow} (h : contact ∈ store.tables.contacts)
    (h' : other ∈ store.tables.contacts) (hid : contact.id = other.id) : contact = other := hs.contactIds.unique h h' hid

/-- A change by another tenant is none of the rows of this one. -/
theorem sameFor_change (h : Change tenantId names store store') (hs : store.Sound) (hne : tenantId ≠ reader) :
    SameFor reader store store' := by
  cases h with
  | contacts hchanged =>
    refine { SameFor.refl reader store with contacts := ?_ }
    unfold Agree
    rw [contacts_filter, contacts_filter]
    refine congrArg _ (Rows.filter_eq_of_forall₂ hchanged fun contact contact' h => ?_).symm
    rcases h with rfl | ⟨htenant, hbecomes⟩
    · exact .inl rfl
    · refine .inr ⟨decide_eq_false fun heq => hne (htenant.symm.trans heq), decide_eq_false fun heq => ?_⟩
      exact hne ((hbecomes.tenantId.trans htenant).symm.trans heq)
  | @contact contact hid htenant hkey =>
    refine { SameFor.refl reader store with contacts := ?_ }
    have hother : decide (contact.tenantId = reader) = false := decide_eq_false fun heq => hne (htenant.symm.trans heq)
    unfold Agree
    rw [contacts_filter, contacts_filter, List.filter_append, List.filter_cons_of_neg (by simp [hother])]
    simp only [List.filter_nil, List.append_nil]
    rfl
  | @member groupId contact hgroup hcontact htenant hnew =>
    refine { SameFor.refl reader store with members := ?_ }
    have hother : ownMember reader store (groupId, contact.id) = false :=
      Bool.eq_false_iff.2 fun hown => hne (tenant_unique hs hgroup (ownMember_eq_true.1 hown))
    show _ = (store.tables.members ++ [(groupId, contact.id)]).filter (ownMember reader store)
    rw [List.filter_append, List.filter_cons_of_neg (by simp [hother])]
    simp
  | @group groupName groupCreatedAt hname hcreated =>
    refine { SameFor.refl reader store with groups := ?_, members := ?_ }
    · unfold Agree
      rw [groups_filter, groups_filter, List.filter_append, List.filter_cons_of_neg (by simp [hne])]
      simp only [List.filter_nil, List.append_nil]
      refine List.map_congr_left fun group hgroup => ?_
      have hmem := (List.mem_filter.1 hgroup).1
      unfold ContactStore.groupRow
      dsimp only
      rw [hname group hmem, hcreated group hmem]
    · refine List.filter_congr fun member _ => ?_
      unfold ownMember
      simp [hne]
  | @upload upload hid htenant =>
    have hown : (store.tables.uploads ++ [upload]).filter (fun upload => decide (upload.tenantId = reader)) =
        store.tables.uploads.filter fun upload => decide (upload.tenantId = reader) := by
      have hother : ¬ upload.tenantId = reader := fun heq => hne (htenant.symm.trans heq)
      rw [List.filter_append, List.filter_cons_of_neg (by simp [hother])]
      simp
    refine { SameFor.refl reader store with uploads := hown.symm, uploadErrors := ?_ }
    unfold ownError
    rw [hown]
  | uploads hchanged =>
    have hown := @Rows.filter_eq_of_forall₂ ContactUploadRow _ _ _ (fun upload => decide (upload.tenantId = reader))
      hchanged fun upload upload' h => by
        rcases h with rfl | ⟨htenant, -, htenant'⟩
        · exact .inl rfl
        · refine .inr ⟨decide_eq_false fun heq => hne (htenant.symm.trans heq), decide_eq_false fun heq => ?_⟩
          exact hne (htenant'.symm.trans heq)
    refine { SameFor.refl reader store with uploads := hown.symm, uploadErrors := ?_ }
    unfold ownError
    rw [hown]
  | @uploadError error upload hupload htenant hid =>
    refine { SameFor.refl reader store with uploadErrors := ?_ }
    have hother : ownError reader store error = false := by
      rw [Bool.eq_false_iff]
      intro hany
      obtain ⟨own, hown, heq⟩ := List.any_eq_true.1 hany
      obtain ⟨hmem, hreader⟩ := List.mem_filter.1 hown
      have hsame : own = upload := hs.uploadIds.unique hmem hupload ((of_decide_eq_true heq).trans hid)
      rw [hsame] at hreader
      exact hne (htenant.symm.trans (of_decide_eq_true hreader))
    show _ = (store.tables.uploadErrors ++ [error]).filter (ownError reader store)
    rw [List.filter_append, List.filter_cons_of_neg (by simp [hother])]
    simp
  | @columns contactCreatedAt hcreated =>
    refine { SameFor.refl reader store with contacts := ?_ }
    unfold Agree
    rw [contacts_filter, contacts_filter]
    refine List.map_congr_left fun contact hcontact => ?_
    unfold ContactStore.storedContact
    dsimp only
    rw [hcreated contact (List.mem_filter.1 hcontact).1]

theorem sameFor_changes (h : Changes tenantId names store store') (hs : store.Sound) (hne : tenantId ≠ reader) :
    SameFor reader store store' := by
  induction h with
  | refl => exact SameFor.refl reader store
  | tail hchanges hchange ih => exact ih.trans (sameFor_change hchange (sound_changes hchanges hs) hne)

end Isolation

/-! ### What the tenant reads -/

inductive ContactsRead
  | listContacts
  | getContact (contactId : Int)
  | listGroups
  | getGroupDetail (groupId : Int)
  | listUploads
  | listUploadErrors (uploadId : Int)

inductive ContactsAnswer
  | contacts (items : List ContactItem)
  | contact (detail : Except Failure ContactDetail)
  | groups (items : List GroupItem)
  | group (detail : Except Failure GroupDetail)
  | uploads (items : List UploadItem)
  | uploadErrors (items : Except Failure (List UploadErrorItem))

def answer (order : ContactsOrder) (tenantId : TenantId) (store : ContactStore) : ContactsRead → ContactsAnswer
  | .listContacts => .contacts (listContacts tenantId store)
  | .getContact contactId => .contact (getContact order tenantId store contactId)
  | .listGroups => .groups (listGroups order tenantId store)
  | .getGroupDetail groupId => .group (getGroupDetail order tenantId store groupId)
  | .listUploads => .uploads (listUploads order tenantId store)
  | .listUploadErrors uploadId => .uploadErrors (listUploadErrors order tenantId store uploadId)

section Reads

variable {order : ContactsOrder} {tenantId : TenantId} {store store' : ContactStore}

theorem mem_groups {group : ContactGroupRow} (h : group ∈ store.groups) : (group.id, group.tenantId) ∈ store.tables.groups := by
  obtain ⟨pair, hpair, rfl⟩ := List.mem_map.1 h
  exact hpair

theorem mem_contacts {contact : StoredContact} (h : contact ∈ store.contacts) :
    contact.toContactRow ∈ store.tables.contacts := by
  obtain ⟨row, hrow, rfl⟩ := List.mem_map.1 h
  exact hrow

/-- The tenant of a membership: that of its group and of its contact. -/
theorem tenant_of_member (hs : store.Sound) {member : ℕ+ × Nat} (hmember : member ∈ store.tables.members)
    {contact : ContactRow} (hcontact : contact ∈ store.tables.contacts) (hid : contact.id = member.2) :
    (member.1, contact.tenantId) ∈ store.tables.groups := by
  obtain ⟨other, hother, hotherId, hgroup⟩ := hs.members member hmember
  rw [contact_unique hs hcontact hother (hid.trans hotherId.symm)]
  exact hgroup

/-- The group with an id of the tenant's is found among the tenant's own. -/
theorem groups_own (hs : store.Sound) {groupId : ℕ+} (hgroup : (groupId, tenantId) ∈ store.tables.groups) :
    (store.groups.filter fun group => decide (group.id = groupId)) =
      (store.groups.filter fun group => decide (group.tenantId = tenantId)).filter fun group =>
        decide (group.id = groupId) := by
  rw [List.filter_filter]
  refine List.filter_congr fun group hmem => ?_
  by_cases hid : group.id = groupId
  · have htenant : group.tenantId = tenantId := tenant_unique hs (mem_groups hmem) (hid ▸ hgroup)
    simp [hid, htenant]
  · simp [hid]

/-- The errors of an upload of the tenant are among its own rows. -/
theorem uploadErrors_own {upload : ContactUploadRow} (hupload : upload ∈ store.tables.uploads)
    (htenant : upload.tenantId = tenantId) :
    (store.tables.uploadErrors.filter fun error => decide ((error.contactUploadId : Int) = upload.id)) =
      (store.tables.uploadErrors.filter (ownError tenantId store)).filter fun error =>
        decide ((error.contactUploadId : Int) = upload.id) := by
  rw [List.filter_filter]
  refine List.filter_congr fun error _ => ?_
  by_cases hid : (error.contactUploadId : Int) = upload.id
  · have hown : ownError tenantId store error = true := by
      refine List.any_eq_true.2 ⟨upload, List.mem_filter.2 ⟨hupload, decide_eq_true htenant⟩, decide_eq_true ?_⟩
      exact (Int.ofNat.inj hid).symm
    rw [hown, Bool.and_true]
  · simp [hid]

/-- The groups of a contact are found among the tenant's own rows. -/
theorem groupsOfContact_own (hs : store.Sound) (contactId : Int) : groupsOfContact tenantId store contactId =
    (store.tables.members.filter (ownMember tenantId store)).flatMap fun member =>
      ((store.groups.filter fun group => decide (group.tenantId = tenantId)).filter fun group =>
        decide (group.id = member.1)).filter fun _ =>
          (store.contacts.filter fun contact => decide (contact.tenantId = tenantId)).any fun contact =>
            decide (contact.id = member.2 ∧ contact.tenantId = tenantId ∧ (contact.id : Int) = contactId) := by
  have hany : ∀ member : ℕ+ × Nat, (store.contacts.any fun contact =>
      decide (contact.id = member.2 ∧ contact.tenantId = tenantId ∧ (contact.id : Int) = contactId)) =
        (store.contacts.filter fun contact => decide (contact.tenantId = tenantId)).any fun contact =>
          decide (contact.id = member.2 ∧ contact.tenantId = tenantId ∧ (contact.id : Int) = contactId) := by
    intro member
    rw [Bool.eq_iff_iff, List.any_eq_true, List.any_eq_true]
    constructor
    · rintro ⟨contact, hcontact, hfound⟩
      exact ⟨contact, List.mem_filter.2 ⟨hcontact, decide_eq_true (of_decide_eq_true hfound).2.1⟩, hfound⟩
    · rintro ⟨contact, hcontact, hfound⟩
      exact ⟨contact, (List.mem_filter.1 hcontact).1, hfound⟩
  unfold groupsOfContact
  rw [← @flatMap_filter _ (ownMember tenantId store)]
  · refine List.flatMap_congr fun member hmember => ?_
    have hown := ownMember_eq_true.1 (List.mem_filter.1 hmember).2
    rw [hany member, groups_own hs hown]
  · intro member hmember hother
    rw [List.filter_eq_nil_iff]
    intro group _ hfound
    obtain ⟨contact, hcontact, hjoined⟩ := List.any_eq_true.1 hfound
    obtain ⟨hid, htenant, -⟩ := of_decide_eq_true hjoined
    have hgroup := tenant_of_member hs hmember (mem_contacts hcontact) hid
    rw [htenant] at hgroup
    exact Bool.eq_false_iff.1 hother (ownMember_eq_true.2 hgroup)

/-- The members of a group of the tenant are among its own rows. -/
theorem membersOfGroup_own (hs : store.Sound) {groupId : ℕ+} (hgroup : (groupId, tenantId) ∈ store.tables.groups) :
    membersOfGroup store (groupId : Nat) =
      ((store.tables.members.filter (ownMember tenantId store)).filter fun member =>
        decide (((member.1 : Nat) : Int) = (groupId : Nat))).flatMap fun member =>
          (store.contacts.filter fun contact => decide (contact.tenantId = tenantId)).filter fun contact =>
            decide (contact.id = member.2) := by
  have hmembers : ((store.tables.members.filter (ownMember tenantId store)).filter fun member =>
      decide (((member.1 : Nat) : Int) = (groupId : Nat))) =
        store.tables.members.filter fun member => decide (((member.1 : Nat) : Int) = (groupId : Nat)) := by
    rw [List.filter_filter]
    refine List.filter_congr fun member _ => ?_
    by_cases hid : ((member.1 : Nat) : Int) = (groupId : Nat)
    · have heq : member.1 = groupId := PNat.coe_inj.1 (Int.ofNat.inj hid)
      have hown : ownMember tenantId store member = true := ownMember_eq_true.2 (heq ▸ hgroup)
      rw [hown, Bool.and_true]
    · simp [hid]
  unfold membersOfGroup
  rw [hmembers]
  refine List.flatMap_congr fun member hmember => ?_
  obtain ⟨hmember, hid⟩ := List.mem_filter.1 hmember
  have heq : member.1 = groupId := PNat.coe_inj.1 (Int.ofNat.inj (of_decide_eq_true hid))
  rw [List.filter_filter]
  refine List.filter_congr fun contact hcontact => ?_
  by_cases hjoined : contact.id = member.2
  · have htenant := tenant_of_member hs hmember (mem_contacts hcontact) hjoined
    rw [heq] at htenant
    simp [hjoined, tenant_unique hs htenant hgroup]
  · simp [hjoined]

theorem memberCount_own {groupId : ℕ+} (hgroup : (groupId, tenantId) ∈ store.tables.groups) : memberCount store groupId =
    (store.tables.members.filter (ownMember tenantId store)).countP fun member => decide (member.1 = groupId) := by
  unfold memberCount
  rw [List.countP_filter]
  refine List.countP_congr fun member _ => ?_
  by_cases hid : member.1 = groupId
  · have hown : ownMember tenantId store member = true := ownMember_eq_true.2 (hid ▸ hgroup)
    simp [hid, hown]
  · simp [hid]

/-- Two stores with the same rows of a tenant answer it alike. -/
theorem answer_congr (hs : store.Sound) (hs' : store'.Sound) (h : SameFor tenantId store store') (read : ContactsRead) :
    answer order tenantId store read = answer order tenantId store' read := by
  have hcontacts : _ = _ := h.contacts
  have hgroups : _ = _ := h.groups
  have huploads : _ = _ := h.uploads
  cases read with
  | listContacts =>
    show ContactsAnswer.contacts _ = .contacts _
    unfold listContacts
    rw [hcontacts]
  | getContact contactId =>
    show ContactsAnswer.contact _ = .contact _
    unfold getContact
    rw [h.contacts.filter fun contact hcontact => decide_eq_true (of_decide_eq_true hcontact).1, groupsOfContact_own hs,
      groupsOfContact_own hs', h.members, hgroups, hcontacts]
  | listGroups =>
    show ContactsAnswer.groups _ = .groups _
    unfold listGroups
    rw [hgroups]
    refine congrArg _ (List.map_congr_left fun group hgroup => ?_)
    have hown' := mem_newestFirst.1 hgroup
    have hown := hown'
    rw [← hgroups] at hown
    obtain ⟨hmem, htenant⟩ := List.mem_filter.1 hown
    obtain ⟨hmem', -⟩ := List.mem_filter.1 hown'
    have htenant : group.tenantId = tenantId := of_decide_eq_true htenant
    rw [memberCount_own (htenant ▸ mem_groups hmem), memberCount_own (htenant ▸ mem_groups hmem'), h.members]
  | getGroupDetail groupId =>
    show ContactsAnswer.group _ = .group _
    unfold getGroupDetail
    have hfilter := h.groups.filter (p := fun group => decide (group.tenantId = tenantId ∧ ((group.id : Nat) : Int) = groupId))
      fun group hgroup => decide_eq_true (of_decide_eq_true hgroup).1
    rw [hfilter]
    cases hfound : (store'.groups.filter fun group =>
        decide (group.tenantId = tenantId ∧ ((group.id : Nat) : Int) = groupId)).head? with
    | none => rfl
    | some group =>
      obtain ⟨hmem', hown⟩ := List.mem_filter.1 (List.mem_of_head? hfound)
      rw [← hfilter] at hfound
      obtain ⟨hmem, -⟩ := List.mem_filter.1 (List.mem_of_head? hfound)
      obtain ⟨htenant, rfl⟩ := of_decide_eq_true hown
      dsimp only
      rw [membersOfGroup_own hs (htenant ▸ mem_groups hmem), membersOfGroup_own hs' (htenant ▸ mem_groups hmem'),
        h.members, hcontacts]
  | listUploads =>
    show ContactsAnswer.uploads _ = .uploads _
    unfold listUploads
    rw [huploads]
  | listUploadErrors uploadId =>
    show ContactsAnswer.uploadErrors _ = .uploadErrors _
    unfold listUploadErrors
    have hfilter := h.uploads.filter (p := fun upload => decide (upload.tenantId = tenantId ∧ (upload.id : Int) = uploadId))
      fun upload hupload => decide_eq_true (of_decide_eq_true hupload).1
    rw [hfilter]
    cases hfound : (store'.tables.uploads.filter fun upload =>
        decide (upload.tenantId = tenantId ∧ (upload.id : Int) = uploadId)).head? with
    | none => rfl
    | some upload =>
      obtain ⟨hmem', hown⟩ := List.mem_filter.1 (List.mem_of_head? hfound)
      rw [← hfilter] at hfound
      obtain ⟨hmem, -⟩ := List.mem_filter.1 (List.mem_of_head? hfound)
      obtain ⟨htenant, rfl⟩ := of_decide_eq_true hown
      dsimp only
      rw [uploadErrors_own hmem htenant, uploadErrors_own hmem' htenant, h.uploadErrors]

theorem sameFor_runs (hs : store.Sound)
    (h : Runs step (fun _ request => request.tenantId ≠ tenantId) store store') : SameFor tenantId store store' := by
  refine h.relation (SameFor.refl tenantId) (fun _ _ _ => SameFor.trans) fun between request after hrun hother hstep => ?_
  have hbetween := sound_of_runs hrun hs
  exact sameFor_changes (changes_step_univ hbetween hstep) hbetween hother

end Reads

/-- In any state that the calls of all tenants have reached, whatever other tenants call from there on, a tenant is answered
as before by each of its reads. -/
theorem reads_unmoved (order : ContactsOrder) {tenantId : TenantId} {store store' : ContactStore}
    (hreach : Reaches step empty store)
    (hrun : Runs step (fun _ request => request.tenantId ≠ tenantId) store store') (read : ContactsRead) :
    answer order tenantId store' read = answer order tenantId store read := by
  have hs := sound_of_reaches hreach
  exact (answer_congr hs (sound_of_runs hrun hs) (sameFor_runs hs hrun) read).symm

namespace Sample

open SmsPlatform.Sample (tenant neighbour clock)

def contactsOrder : ContactsOrder where
  nameLe := fun name other => decide (name.toList ≤ other.toList)
  group := fun group => group.id
  member := fun contact => contact.id
  upload := fun upload => upload.id
  uploadError := fun error => error.rowNumber

/-- Two good rows, for a group. -/
def intoGroup (groupId : ℕ+) : UploadContactsDto :=
  { upload "" with
    csvContent := "phone_number,name\n0911234567,Abel\n0911223344,Selam"
    targetGroupId := some groupId }

def createGroup (tenantId : TenantId) (now : Timestamp) : ContactsRequest :=
  ⟨tenantId, clock now, .createGroup ⟨"VIP Customers", by decide⟩⟩

def uploadInto (tenantId : TenantId) (earlierGroups : Nat) (now : Timestamp) : ContactsRequest :=
  ⟨tenantId, clock now, .uploadInlineCsv (intoGroup (Nat.succPNat earlierGroups))⟩

/-- A group of the tenant with two contacts. -/
def before : List ContactsRequest := [createGroup tenant 1, uploadInto tenant 0 2]

/-- The neighbour has a group of the same name and the same numbers, and tries the tenant's group too. -/
def after : List ContactsRequest :=
  [createGroup neighbour 3, uploadInto neighbour 1 4, uploadInto neighbour 0 5]

/-- The number of contacts, and the names in the group of the tenant. -/
def seen (store : ContactStore) : Nat × List (Option String) :=
  (store.tables.contacts.length, (membersOfGroup store 1).map fun contact => contact.name)

end Sample

/-- There are two contacts more, and the tenant still sees its own two. -/
theorem reads_unmoved_neighbour : ∃ store store', Sample.seen store = (2, [some "Abel", some "Selam"]) ∧
    Sample.seen store' = (4, [some "Abel", some "Selam"]) ∧
    answer Sample.contactsOrder SmsPlatform.Sample.tenant store' (.getGroupDetail 1) =
      answer Sample.contactsOrder SmsPlatform.Sample.tenant store (.getGroupDetail 1) := by
  have hbefore : (execute step empty Sample.before).map Sample.seen = some (2, [some "Abel", some "Selam"]) := by
    decide +kernel
  have hafter : ((execute step empty Sample.before).bind fun store => (execute (guarded step fun _ request =>
      decide (request.tenantId ≠ SmsPlatform.Sample.tenant)) store Sample.after).map Sample.seen) =
        some (4, [some "Abel", some "Selam"]) := by
    decide +kernel
  obtain ⟨store, hstore, hseen⟩ := Option.map_eq_some_iff.1 hbefore
  rw [hstore, Option.bind_some] at hafter
  obtain ⟨store', hstore', hseen'⟩ := Option.map_eq_some_iff.1 hafter
  refine ⟨store, store', hseen, hseen', reads_unmoved Sample.contactsOrder (reaches_of_execute hstore) ?_ _⟩
  exact (runs_of_execute hstore').mono fun _ _ hok => of_decide_eq_true hok

end ContactsService

end SmsPlatform
