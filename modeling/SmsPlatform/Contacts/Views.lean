import SmsPlatform.Contacts.Isolation

/-!
# Two views of a membership

A membership is shown in three reads: `getGroupDetail` lists the contacts of a group, up to 500, `getContact` the groups of
a contact, and `listGroups` counts.  Each is a query of its own, one joins with the contacts, one with the groups as well,
and one joins with neither.  They agree in every state that the calls reach (`membership_views_agree`), and what is stored
stays (`address_book_grows`).
-/

namespace SmsPlatform

namespace ContactsService

open Transition Queries

section Views

variable {order : ContactsOrder} {tenantId : TenantId} {store : ContactStore}

theorem contacts_keyed (hs : store.Sound) : Rows.Keyed (fun contact : StoredContact => contact.id) store.contacts := by
  unfold Rows.Keyed ContactStore.contacts
  rw [List.map_map]
  exact hs.contactIds

/-- A membership joins with one contact. -/
theorem filter_contact (hs : store.Sound) {member : ℕ+ × Nat} (hmember : member ∈ store.tables.members) :
    ∃ contact ∈ store.contacts, contact.id = member.2 ∧
      (store.contacts.filter fun contact => decide (contact.id = member.2)) = [contact] := by
  obtain ⟨row, hrow, hid, -⟩ := hs.members member hmember
  have hcontact : store.storedContact row ∈ store.contacts := List.mem_map_of_mem hrow
  have hjoined : store.storedContact row ∈ store.contacts.filter fun contact => decide (contact.id = member.2) :=
    List.mem_filter.2 ⟨hcontact, decide_eq_true hid⟩
  have hone := (contacts_keyed hs).length_filter_le member.2
  refine ⟨store.storedContact row, hcontact, hid, ?_⟩
  cases hfilter : store.contacts.filter fun contact => decide (contact.id = member.2) with
  | nil =>
    rw [hfilter] at hjoined
    exact absurd hjoined List.not_mem_nil
  | cons first rest =>
    rw [hfilter] at hjoined hone
    have hrest : rest = [] := by
      rw [← List.length_eq_zero_iff]
      simp only [List.length_cons] at hone
      omega
    subst hrest
    rw [List.mem_singleton.1 hjoined]

/-- The ids of the contacts of a group, as its memberships have them. -/
theorem membersOfGroup_ids (hs : store.Sound) (groupId : Int) :
    (membersOfGroup store groupId).map (fun contact => contact.id) =
      (store.tables.members.filter fun member => decide (((member.1 : Nat) : Int) = groupId)).map Prod.snd := by
  unfold membersOfGroup
  have hsub : ∀ member ∈ store.tables.members.filter fun member => decide (((member.1 : Nat) : Int) = groupId),
      member ∈ store.tables.members := fun _ hmember => (List.mem_filter.1 hmember).1
  generalize (store.tables.members.filter fun member => decide (((member.1 : Nat) : Int) = groupId)) = members at hsub
  induction members with
  | nil => rfl
  | cons member members ih =>
    obtain ⟨hmember, hrest⟩ := List.forall_mem_cons.1 hsub
    obtain ⟨contact, -, hid, hfilter⟩ := filter_contact hs hmember
    rw [List.flatMap_cons, hfilter, List.map_append, ih hrest, List.map_cons, hid]
    rfl

theorem membersOfGroup_length (hs : store.Sound) (groupId : ℕ+) :
    (membersOfGroup store (groupId : Nat)).length = memberCount store groupId := by
  have hids := congrArg List.length (membersOfGroup_ids hs (groupId : Nat))
  rw [List.length_map, List.length_map] at hids
  rw [hids]
  unfold memberCount
  rw [List.countP_eq_length_filter]
  congr 1
  refine List.filter_congr fun member _ => ?_
  by_cases hid : member.1 = groupId
  · simp [hid]
  · have hne : ¬ ((member.1 : Nat) : Int) = (groupId : Nat) := fun heq => hid (PNat.coe_inj.1 (Int.ofNat.inj heq))
    simp [hid, hne]

/-- No contact is twice in a group. -/
theorem membersOfGroup_nodup (hs : store.Sound) (groupId : Int) :
    ((membersOfGroup store groupId).map fun contact => contact.id).Nodup := by
  rw [membersOfGroup_ids hs]
  refine (List.nodup_map_iff_inj_on (hs.once.filter _)).2 ?_
  intro member hmember other hother heq
  have hgroup := of_decide_eq_true (List.mem_filter.1 hmember).2
  have hgroup' := of_decide_eq_true (List.mem_filter.1 hother).2
  exact Prod.ext (PNat.coe_inj.1 (Int.ofNat.inj (hgroup.trans hgroup'.symm))) heq

theorem mem_membersOfGroup_id (hs : store.Sound) {groupId : ℕ+} {contactId : Nat} :
    (∃ contact ∈ membersOfGroup store (groupId : Nat), contact.id = contactId) ↔
      (groupId, contactId) ∈ store.tables.members := by
  refine List.mem_map.symm.trans ?_
  rw [membersOfGroup_ids hs, List.mem_map]
  constructor
  · rintro ⟨member, hmember, rfl⟩
    obtain ⟨hmember, hgroup⟩ := List.mem_filter.1 hmember
    have heq : member.1 = groupId := PNat.coe_inj.1 (Int.ofNat.inj (of_decide_eq_true hgroup))
    rw [← heq]
    exact hmember
  · intro hmember
    exact ⟨(groupId, contactId), List.mem_filter.2 ⟨hmember, decide_eq_true rfl⟩, rfl⟩

theorem mem_groupsOfContact {contactId : Int} {group : ContactGroupRow} :
    group ∈ groupsOfContact tenantId store contactId ↔ group ∈ store.groups ∧ ∃ contact ∈ store.contacts,
      contact.tenantId = tenantId ∧ (contact.id : Int) = contactId ∧ (group.id, contact.id) ∈ store.tables.members := by
  unfold groupsOfContact
  simp only [List.mem_flatMap, List.mem_filter, List.any_eq_true, decide_eq_true_eq]
  constructor
  · rintro ⟨member, hmember, ⟨hgroup, hid⟩, contact, hcontact, hjoined, htenant, hcontactId⟩
    refine ⟨hgroup, contact, hcontact, htenant, hcontactId, ?_⟩
    rw [hid, hjoined]
    exact hmember
  · rintro ⟨hgroup, contact, hcontact, htenant, hcontactId, hmember⟩
    exact ⟨(group.id, contact.id), hmember, ⟨hgroup, rfl⟩, contact, hcontact, rfl, htenant, hcontactId⟩

/-- What a successful `getGroupDetail` shows. -/
theorem getGroupDetail_eq_ok {groupId : Int} {detail : GroupDetail}
    (h : getGroupDetail order tenantId store groupId = .ok detail) : ∃ group ∈ store.groups,
      group.tenantId = tenantId ∧ ((group.id : Nat) : Int) = groupId ∧ detail.id = group.id ∧ detail.name = group.name ∧
      detail.members = ((newestFirst StoredContact.createdAt order.member (membersOfGroup store (group.id : Nat))).take
        500).map StoredContact.member := by
  unfold getGroupDetail at h
  cases hfound : (store.groups.filter fun group =>
      decide (group.tenantId = tenantId ∧ ((group.id : Nat) : Int) = groupId)).head? with
  | none =>
    rw [hfound] at h
    cases h
  | some group =>
    rw [hfound] at h
    cases h
    obtain ⟨hgroup, hown⟩ := List.mem_filter.1 (List.mem_of_head? hfound)
    obtain ⟨htenant, rfl⟩ := of_decide_eq_true hown
    exact ⟨group, hgroup, htenant, rfl, rfl, rfl, rfl⟩

theorem getContact_eq_ok {contactId : Int} {detail : ContactDetail}
    (h : getContact order tenantId store contactId = .ok detail) : ∃ contact ∈ store.contacts,
      contact.tenantId = tenantId ∧ (contact.id : Int) = contactId ∧ detail.toContactItem = contact.item ∧
      ∀ groupId name, (groupId, name) ∈ detail.groups ↔ ∃ group ∈ groupsOfContact tenantId store contactId,
        group.id = groupId ∧ group.name = name := by
  unfold getContact at h
  cases hfound : (store.contacts.filter fun contact =>
      decide (contact.tenantId = tenantId ∧ (contact.id : Int) = contactId)).head? with
  | none =>
    rw [hfound] at h
    cases h
  | some contact =>
    rw [hfound] at h
    cases h
    obtain ⟨hcontact, hown⟩ := List.mem_filter.1 (List.mem_of_head? hfound)
    obtain ⟨htenant, hid⟩ := of_decide_eq_true hown
    refine ⟨contact, hcontact, htenant, hid, rfl, fun groupId name => ?_⟩
    simp only [List.mem_map, List.mem_mergeSort, Prod.mk.injEq]

/-- A group is shown in the detail of a contact only if the tenant has it, and `getGroupDetail` finds it then. -/
theorem getGroupDetail_of_shown (hs : store.Sound) {contactId : Int} {group : ContactGroupRow}
    (hgroup : group ∈ groupsOfContact tenantId store contactId) :
    ∃ detail, getGroupDetail order tenantId store (group.id : Nat) = .ok detail ∧ detail.id = group.id ∧
      detail.name = group.name := by
  obtain ⟨hgroup, contact, hcontact, htenant, -, hmember⟩ := mem_groupsOfContact.1 hgroup
  have hown := tenant_of_member hs hmember (mem_contacts hcontact) rfl
  have hgroupTenant : group.tenantId = tenantId :=
    (tenant_unique hs (mem_groups hgroup) hown).trans htenant
  have hkeyed : Rows.Keyed ContactGroupRow.id store.groups := by
    unfold Rows.Keyed ContactStore.groups
    rw [List.map_map]
    exact hs.groupIds
  unfold getGroupDetail
  have hfound : group ∈ store.groups.filter fun group' =>
      decide (group'.tenantId = tenantId ∧ ((group'.id : Nat) : Int) = (group.id : Nat)) :=
    List.mem_filter.2 ⟨hgroup, decide_eq_true ⟨hgroupTenant, rfl⟩⟩
  cases hhead : (store.groups.filter fun group' =>
      decide (group'.tenantId = tenantId ∧ ((group'.id : Nat) : Int) = (group.id : Nat))).head? with
  | none =>
    rw [List.head?_eq_none_iff.1 hhead] at hfound
    exact absurd hfound List.not_mem_nil
  | some found =>
    obtain ⟨hfound, hsame⟩ := List.mem_filter.1 (List.mem_of_head? hhead)
    have hid : found.id = group.id := PNat.coe_inj.1 (Int.ofNat.inj (of_decide_eq_true hsame).2)
    rw [hkeyed.unique hfound hgroup hid]
    exact ⟨_, rfl, rfl, rfl⟩

/-- The rows behind a group's list of members. -/
theorem getGroupDetail_members (hs : store.Sound) {groupId : Int} {group : GroupDetail}
    (hgroup : getGroupDetail order tenantId store groupId = .ok group) :
    (∀ member ∈ group.members, ∃ contact ∈ membersOfGroup store (group.id : Nat), contact.member = member) ∧
    group.members.length = min 500 (memberCount store group.id) ∧
    (memberCount store group.id ≤ 500 → ∀ contact ∈ membersOfGroup store (group.id : Nat), contact.member ∈ group.members) ∧
    (group.members.map GroupMember.id).Nodup := by
  obtain ⟨row, -, -, -, hid, -, hmembers⟩ := getGroupDetail_eq_ok hgroup
  have hperm : (newestFirst StoredContact.createdAt order.member (membersOfGroup store (row.id : Nat))).Perm
      (membersOfGroup store (row.id : Nat)) := List.mergeSort_perm _ _
  rw [hid, hmembers]
  refine ⟨fun member hmember => ?_, ?_, fun hcount contact hcontact => ?_, ?_⟩
  · obtain ⟨contact, hcontact, rfl⟩ := List.mem_map.1 hmember
    exact ⟨contact, hperm.mem_iff.1 (List.mem_of_mem_take hcontact), rfl⟩
  · rw [List.length_map, List.length_take, hperm.length_eq, membersOfGroup_length hs]
  · -- the list is not cut off
    have hall : (newestFirst StoredContact.createdAt order.member (membersOfGroup store (row.id : Nat))).length ≤ 500 := by
      rw [hperm.length_eq, membersOfGroup_length hs]
      exact hcount
    rw [List.take_of_length_le hall]
    exact List.mem_map_of_mem (hperm.mem_iff.2 hcontact)
  · rw [List.map_map]
    exact ((hperm.map _).nodup_iff.2 (membersOfGroup_nodup hs (row.id : Nat))).sublist ((List.take_sublist _ _).map _)

/-- A group that is shown: contacts of the tenant, each once, and as many as `listGroups` counts. -/
theorem group_shows (hs : store.Sound) {groupId : Int} {group : GroupDetail}
    (hgroup : getGroupDetail order tenantId store groupId = .ok group) :
    (∀ member ∈ group.members, ∃ contact ∈ store.contacts, contact.tenantId = tenantId ∧ contact.member = member) ∧
    (group.members.map GroupMember.id).Nodup ∧
    ∃ item ∈ listGroups order tenantId store, item.id = group.id ∧ item.name = group.name ∧
      group.members.length = min 500 item.memberCount := by
  obtain ⟨hlisted, hlength, -, hnodup⟩ := getGroupDetail_members hs hgroup
  obtain ⟨row, hrow, htenant, -, hid, hname, -⟩ := getGroupDetail_eq_ok hgroup
  rw [hid] at hlisted hlength
  have hown : (row.id, tenantId) ∈ store.tables.groups := htenant ▸ mem_groups hrow
  refine ⟨fun member hmember => ?_, hnodup, ?_⟩
  · obtain ⟨contact, hcontact, rfl⟩ := hlisted member hmember
    rw [membersOfGroup_own hs hown] at hcontact
    obtain ⟨_, -, hcontact⟩ := List.mem_flatMap.1 hcontact
    obtain ⟨hcontact, -⟩ := List.mem_filter.1 hcontact
    obtain ⟨hcontact, hcontactTenant⟩ := List.mem_filter.1 hcontact
    exact ⟨contact, hcontact, of_decide_eq_true hcontactTenant, rfl⟩
  · refine ⟨⟨row.id, row.name, memberCount store row.id, row.createdAt⟩, ?_, hid.symm, hname.symm, hlength⟩
    exact List.mem_map_of_mem (mem_newestFirst.2 (List.mem_filter.2 ⟨hrow, decide_eq_true htenant⟩))

/-- A contact shows a group whose list shows the contact, and every group that it shows does so unless it is cut off. -/
theorem contact_shows (hs : store.Sound) {groupId : Int} {group : GroupDetail}
    (hgroup : getGroupDetail order tenantId store groupId = .ok group) {contactId : Int} {contact : ContactDetail}
    (hcontact : getContact order tenantId store contactId = .ok contact) :
    ((∃ member ∈ group.members, member.id = contact.id) → (group.id, group.name) ∈ contact.groups) ∧
    (group.members.length < 500 → (group.id, group.name) ∈ contact.groups →
      ∃ member ∈ group.members, member.id = contact.id) := by
  obtain ⟨hlisted, hlength, hwhole, -⟩ := getGroupDetail_members hs hgroup
  obtain ⟨row, hrow, -, -, hid, hname, -⟩ := getGroupDetail_eq_ok hgroup
  rw [hid] at hlisted hlength hwhole
  obtain ⟨stored, hstored, hstoredTenant, hstoredId, hitem, hgroups⟩ := getContact_eq_ok hcontact
  have hcontactId : contact.id = stored.id := congrArg ContactItem.id hitem
  constructor
  · rintro ⟨member, hmember, heq⟩
    obtain ⟨found, hfound, rfl⟩ := hlisted member hmember
    have hmembership := (mem_membersOfGroup_id hs).1 ⟨found, hfound, heq.trans hcontactId⟩
    refine (hgroups _ _).2 ⟨row, mem_groupsOfContact.2 ?_, hid.symm, hname.symm⟩
    exact ⟨hrow, stored, hstored, hstoredTenant, hstoredId, hmembership⟩
  · intro hshort hshown
    obtain ⟨shown, hshown, hshownId, -⟩ := (hgroups _ _).1 hshown
    obtain ⟨-, other, hother, -, hotherId, hmembership⟩ := mem_groupsOfContact.1 hshown
    have hsame : other.id = contact.id := by
      rw [hcontactId]
      exact Int.ofNat.inj (hotherId.trans hstoredId.symm)
    rw [hshownId, hid, hsame] at hmembership
    obtain ⟨found, hfound, hfoundId⟩ := (mem_membersOfGroup_id hs).2 hmembership
    exact ⟨found.member, hwhole (by omega) found hfound, hfoundId⟩

end Views

/-- In every state that the calls reach: a group shows contacts of its tenant only, each once, as many as it is said to
have, up to 500; the groups that a contact shows are those that show the contact, if they are not cut off, and each of them
is shown to the tenant. -/
theorem membership_views_agree (order : ContactsOrder) {tenantId : TenantId} {store : ContactStore}
    (hreach : Reaches step empty store) :
    (∀ groupId group, getGroupDetail order tenantId store groupId = .ok group →
      (∀ member ∈ group.members, ∃ contact ∈ store.contacts, contact.tenantId = tenantId ∧ contact.member = member) ∧
      (group.members.map GroupMember.id).Nodup ∧
      ∃ item ∈ listGroups order tenantId store, item.id = group.id ∧ item.name = group.name ∧
        group.members.length = min 500 item.memberCount) ∧
    ∀ contactId contact, getContact order tenantId store contactId = .ok contact →
      (∀ groupId group, getGroupDetail order tenantId store groupId = .ok group →
        ((∃ member ∈ group.members, member.id = contact.id) → (group.id, group.name) ∈ contact.groups) ∧
        (group.members.length < 500 → (group.id, group.name) ∈ contact.groups →
          ∃ member ∈ group.members, member.id = contact.id)) ∧
      ∀ shown ∈ contact.groups, ∃ group, getGroupDetail order tenantId store (shown.1 : Nat) = .ok group ∧
        group.id = shown.1 ∧ group.name = shown.2 := by
  have hs := sound_of_reaches hreach
  refine ⟨fun groupId group hgroup => group_shows hs hgroup, fun contactId contact hcontact =>
    ⟨fun groupId group hgroup => contact_shows hs hgroup hcontact, fun shown hshown => ?_⟩⟩
  obtain ⟨-, -, -, -, -, hgroups⟩ := getContact_eq_ok hcontact
  obtain ⟨group, hgroup, hid, hname⟩ := (hgroups shown.1 shown.2).1 hshown
  rw [← hid, ← hname]
  exact getGroupDetail_of_shown hs hgroup

theorem membership_views_agree_group : ∃ store group, memberCount store 1 = 2 ∧
    getGroupDetail Sample.contactsOrder SmsPlatform.Sample.tenant store 1 = .ok group ∧
    ∃ item ∈ listGroups Sample.contactsOrder SmsPlatform.Sample.tenant store, item.id = group.id ∧
      item.name = group.name ∧ group.members.length = min 500 item.memberCount := by
  have hbefore : (execute step empty Sample.before).map (fun store => (memberCount store 1,
      (getGroupDetail Sample.contactsOrder SmsPlatform.Sample.tenant store 1).toOption.isSome)) = some (2, true) := by
    decide +kernel
  obtain ⟨store, hstore, hseen⟩ := Option.map_eq_some_iff.1 hbefore
  obtain ⟨hcount, hsome⟩ := Prod.mk.inj hseen
  cases hgroup : getGroupDetail Sample.contactsOrder SmsPlatform.Sample.tenant store 1 with
  | error failure =>
    rw [hgroup] at hsome
    cases hsome
  | ok group =>
    exact ⟨store, group, hcount, hgroup,
      ((membership_views_agree Sample.contactsOrder (reaches_of_execute hstore)).1 1 group hgroup).2.2⟩

/-! ### Nothing is lost -/

/-- Contacts only become more, in number and each in itself, with the names that are brought for its tenant, and groups,
memberships and errors stay. -/
structure ContactStore.Grows (names : TenantId → Set String) (store store' : ContactStore) : Prop where
  contacts : ∀ contact ∈ store.contacts, ∃ contact' ∈ store'.contacts,
    contact.toContactRow.Becomes (names contact.tenantId) contact'.toContactRow ∧ contact'.createdAt = contact.createdAt
  groups : store.groups ⊆ store'.groups
  members : store.tables.members ⊆ store'.tables.members
  uploadErrors : store.tables.uploadErrors ⊆ store'.tables.uploadErrors

namespace ContactStore.Grows

variable {names : TenantId → Set String} {store store' store'' : ContactStore}

theorem refl (names : TenantId → Set String) (store : ContactStore) : store.Grows names store where
  contacts := fun contact hcontact => ⟨contact, hcontact, .refl _, rfl⟩
  groups := List.Subset.refl _
  members := List.Subset.refl _
  uploadErrors := List.Subset.refl _

theorem trans (h : store.Grows names store') (h' : store'.Grows names store'') : store.Grows names store'' where
  contacts := by
    intro contact hcontact
    obtain ⟨contact', hcontact', hbecomes, hcreated⟩ := h.contacts contact hcontact
    obtain ⟨contact'', hcontact'', hbecomes', hcreated'⟩ := h'.contacts contact' hcontact'
    rw [hbecomes.tenantId] at hbecomes'
    exact ⟨contact'', hcontact'', hbecomes.trans hbecomes', hcreated'.trans hcreated⟩
  groups := fun _ hmem => h'.groups (h.groups hmem)
  members := fun _ hmem => h'.members (h.members hmem)
  uploadErrors := fun _ hmem => h'.uploadErrors (h.uploadErrors hmem)

end ContactStore.Grows

theorem grows_change {names : TenantId → Set String} {tenantId : TenantId} {store store' : ContactStore}
    (h : Change tenantId (names tenantId) store store') : store.Grows names store' := by
  cases h with
  | contacts hchanged =>
    refine { ContactStore.Grows.refl names store with contacts := fun contact hcontact => ?_ }
    obtain ⟨row, hrow, rfl⟩ := List.mem_map.1 hcontact
    obtain ⟨row', hrow', hbecomes⟩ := Rows.exists_of_forall₂ hchanged hrow
    refine ⟨store.storedContact row', List.mem_map_of_mem hrow', ?_, ?_⟩
    · rcases hbecomes with rfl | ⟨rfl, hbecomes⟩
      · exact .refl _
      · exact hbecomes
    · show store.contactCreatedAt row'.id = store.contactCreatedAt row.id
      rw [hbecomes.becomes.id]
  | contact hid htenant hkey =>
    refine { ContactStore.Grows.refl names store with contacts := fun contact hcontact => ?_ }
    obtain ⟨row, hrow, rfl⟩ := List.mem_map.1 hcontact
    exact ⟨store.storedContact row, List.mem_map_of_mem (List.mem_append_left _ hrow), .refl _, rfl⟩
  | member hgroup hcontact htenant hnew =>
    exact { ContactStore.Grows.refl names store with members := List.subset_append_left _ _ }
  | group hname hcreated =>
    refine { ContactStore.Grows.refl names store with groups := fun group hgroup => ?_ }
    obtain ⟨pair, hpair, rfl⟩ := List.mem_map.1 hgroup
    refine List.mem_map.2 ⟨pair, List.mem_append_left _ hpair, ?_⟩
    unfold ContactStore.groupRow
    dsimp only
    rw [hname pair hpair, hcreated pair hpair]
  | upload => exact { ContactStore.Grows.refl names store with }
  | uploads => exact { ContactStore.Grows.refl names store with }
  | uploadError => exact { ContactStore.Grows.refl names store with uploadErrors := List.subset_append_left _ _ }
  | columns hcreated =>
    refine { ContactStore.Grows.refl names store with contacts := fun contact hcontact => ?_ }
    obtain ⟨row, hrow, rfl⟩ := List.mem_map.1 hcontact
    exact ⟨_, List.mem_map_of_mem hrow, .refl _, hcreated row hrow⟩

theorem grows_runs {names : TenantId → Set String} {store store' : ContactStore} (hs : store.Sound)
    (h : Runs step (fun _ request => ∀ name ∈ request.call.names, name ∈ names request.tenantId) store store') :
    store.Grows names store' := by
  refine h.relation (.refl names) (fun _ _ _ => .trans) fun between request after hrun hnames hstep => ?_
  have hchanges := changes_step (sound_of_runs hrun hs) hnames hstep
  clear hstep
  induction hchanges with
  | refl => exact .refl names between
  | tail _ hchange ih => exact ih.trans (grows_change hchange)

/-- Whatever is called, by any tenants: the contact of a tenant and a number stays the same one, its name is the one that it
had or one that a call of its tenant brought, never NULL again, no key of its metadata goes, and groups, memberships and
recorded errors stay. -/
theorem address_book_grows {names : TenantId → Set String} {store store' : ContactStore}
    (hreach : Reaches step empty store)
    (hrun : Runs step (fun _ request => ∀ name ∈ request.call.names, name ∈ names request.tenantId) store store') :
    (∀ contact ∈ store.contacts, ∃! contact', contact' ∈ store'.contacts ∧
      contact'.tenantId = contact.tenantId ∧ contact'.phoneNumber = contact.phoneNumber) ∧
    (∀ contact ∈ store.contacts, ∀ contact' ∈ store'.contacts, contact'.tenantId = contact.tenantId →
      contact'.phoneNumber = contact.phoneNumber →
        contact.toContactRow.Becomes (names contact.tenantId) contact'.toContactRow ∧
        contact'.createdAt = contact.createdAt) ∧
    store.groups ⊆ store'.groups ∧ store.tables.members ⊆ store'.tables.members ∧
    store.tables.uploadErrors ⊆ store'.tables.uploadErrors := by
  have hs := sound_of_reaches hreach
  have hgrows := grows_runs hs hrun
  have hs' := sound_of_runs hrun hs
  -- a tenant and a number name one contact
  have hone : ∀ contact ∈ store'.contacts, ∀ other ∈ store'.contacts, contact.tenantId = other.tenantId →
      contact.phoneNumber = other.phoneNumber → contact = other := by
    intro contact hcontact other hother htenant hphone
    obtain ⟨row, hrow, rfl⟩ := List.mem_map.1 hcontact
    obtain ⟨row', hrow', rfl⟩ := List.mem_map.1 hother
    rw [hs'.contactKeys.unique hrow hrow' (Prod.ext htenant hphone)]
  refine ⟨fun contact hcontact => ?_, fun contact hcontact contact' hcontact' htenant hphone => ?_, hgrows.groups,
    hgrows.members, hgrows.uploadErrors⟩
  · obtain ⟨found, hfound, hbecomes, -⟩ := hgrows.contacts contact hcontact
    refine ⟨found, ⟨hfound, hbecomes.tenantId, hbecomes.phoneNumber⟩, ?_⟩
    rintro other ⟨hother, htenant, hphone⟩
    exact hone other hother found hfound (htenant.trans hbecomes.tenantId.symm) (hphone.trans hbecomes.phoneNumber.symm)
  · obtain ⟨found, hfound, hbecomes, hcreated⟩ := hgrows.contacts contact hcontact
    have hsame : contact' = found := hone contact' hcontact' found hfound (htenant.trans hbecomes.tenantId.symm)
      (hphone.trans hbecomes.phoneNumber.symm)
    rw [hsame]
    exact ⟨hbecomes, hcreated⟩

/-- The tenant renames its first contact to the empty text, and the neighbour's calls follow. -/
def Sample.renamed : List ContactsRequest :=
  ⟨SmsPlatform.Sample.tenant, SmsPlatform.Sample.clock 3, .updateContact 1 { name := some "", name_le := by decide }⟩ ::
    Sample.after

theorem address_book_grows_after : ∃ store store', Sample.seen store = (2, [some "Abel", some "Selam"]) ∧
    Sample.seen store' = (4, [some "", some "Selam"]) ∧ store.tables.members ⊆ store'.tables.members := by
  have hbefore : (execute step empty Sample.before).map Sample.seen = some (2, [some "Abel", some "Selam"]) := by
    decide +kernel
  have hafter : ((execute step empty Sample.before).bind fun store => (execute (guarded step fun _ request =>
      decide (request.tenantId = SmsPlatform.Sample.tenant → ∀ name ∈ request.call.names, name = "")) store
        Sample.renamed).map Sample.seen) = some (4, [some "", some "Selam"]) := by
    decide +kernel
  obtain ⟨store, hstore, hseen⟩ := Option.map_eq_some_iff.1 hbefore
  rw [hstore, Option.bind_some] at hafter
  obtain ⟨store', hstore', hseen'⟩ := Option.map_eq_some_iff.1 hafter
  -- the tenant brings no name but the empty text, and others may bring any
  have hrun : Runs step (fun _ request => ∀ name ∈ request.call.names,
      name ∈ {name | request.tenantId = SmsPlatform.Sample.tenant → name = ""}) store store' := by
    refine (runs_of_execute hstore').mono fun _ request hok name hname htenant => ?_
    exact (of_decide_eq_true hok : _ → _) htenant name hname
  exact ⟨store, store', hseen, hseen', (@address_book_grows
    (fun tenantId => {name | tenantId = SmsPlatform.Sample.tenant → name = ""}) store store' (reaches_of_execute hstore)
      hrun).2.2.2.1⟩

end ContactsService

end SmsPlatform
