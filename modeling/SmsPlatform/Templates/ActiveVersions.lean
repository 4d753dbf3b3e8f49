import SmsPlatform.Templates.References

/-!
# Active versions

An unversioned reference is meant to denote the active row of its name.  `createTemplate` deactivates the rows of the name
only when the flag is given, but writes an active row also when it is left out; `updateTemplate` takes the flag for given
then, but deactivates the rows of the template key, under whatever name they are.  So a name keeps at most one active row
over a run exactly while no call leaves one beside the row it writes (`one_active`).
-/

namespace SmsPlatform

namespace Templates

/-! ### The rows that a reference without a version is about -/

def nameKey (row : TemplateRow) : TenantId × String := (row.tenantId, row.name)

def activeRows (store : TemplateStore) : List TemplateRow := store.rows.filter TemplateRow.isActive

/-- At most one row of every name is active. -/
def OneActive (store : TemplateStore) : Prop := Rows.Keyed nameKey (activeRows store)

/-- A reference without a version has one meaning, in whatever order PostgreSQL delivers rows of one version. -/
def Unambiguous (store : TemplateStore) : Prop :=
  ∀ tenantId templateRef, versionOf (templateRef.toList.splitOn '@')[1]? = none →
    ∀ tie tie', resolveTemplate tie store tenantId templateRef = resolveTemplate tie' store tenantId templateRef

instance (store : TemplateStore) : Decidable (OneActive store) := inferInstanceAs (Decidable (List.Nodup _))

/-! ### What a call does to the active rows -/

/-- `is_active` of the row that the call writes. -/
def Call.activates : Call → Bool
  | .create _ dto _ _ => dto.isActive.getD true
  | .update _ _ dto => dto.isActive.getD true
  | .delete _ _ => false

/-- The rows that the call deactivates before it writes its own. -/
def Call.deactivates (store : TemplateStore) : Call → TemplateRow → Bool
  | .create tenantId dto _ _, row => decide (dto.isActive = some true) && named tenantId dto.name row
  | .update tenantId id dto, row => decide (dto.isActive.getD true = true) && (find tenantId id store).any fun existing =>
      decide (row.tenantId = tenantId ∧ row.templateKey = existing.templateKey)
  | .delete _ _, _ => false

/-- An active row that the call writes has no active row of its name beside it that the call does not deactivate. -/
def LeavesNone (store : TemplateStore) (call : Call) : Prop :=
  call.activates = true → ∀ content ∈ call.writes store, content.version ≤ maxInteger →
    ∀ row ∈ store.rows, row.isActive = true → nameKey row = (content.tenantId, content.name) →
      call.deactivates store row = true

instance (store : TemplateStore) (call : Call) : Decidable (LeavesNone store call) :=
  inferInstanceAs (Decidable (_ → ∀ content ∈ call.writes store, _ → ∀ row ∈ store.rows, _ → _ → _))

theorem mem_activeRows {store : TemplateStore} {row : TemplateRow} :
    row ∈ activeRows store ↔ row ∈ store.rows ∧ row.isActive = true := List.mem_filter

theorem activeRows_deactivate (holds : TemplateRow → Bool) (store : TemplateStore) :
    activeRows (deactivate holds store) = (activeRows store).filter fun row => !holds row := by
  unfold activeRows deactivate Rows.update
  dsimp only
  induction store.rows with
  | nil => rfl
  | cons row rows ih =>
    rw [List.map_cons]
    by_cases hholds : holds row = true
    · rw [if_pos hholds, List.filter_cons_of_neg Bool.false_ne_true, ih]
      by_cases hactive : row.isActive = true
      · rw [List.filter_cons_of_pos hactive, List.filter_cons_of_neg (by simp [hholds])]
      · rw [List.filter_cons_of_neg hactive]
    · rw [if_neg hholds]
      by_cases hactive : row.isActive = true
      · rw [List.filter_cons_of_pos hactive, List.filter_cons_of_pos hactive, List.filter_cons_of_pos (by simp [hholds]),
          ih]
      · rw [List.filter_cons_of_neg hactive, List.filter_cons_of_neg hactive, ih]

theorem activeRows_deactivate_if (p : Prop) [Decidable p] (holds : TemplateRow → Bool) (store : TemplateStore) :
    activeRows (if p then deactivate holds store else store) =
      (activeRows store).filter fun row => !(decide p && holds row) := by
  by_cases hp : p
  · simp [hp, activeRows_deactivate]
  · simp [hp]

theorem insert_of_fits {template : NewTemplate} (hfits : template.version ≤ maxInteger) (store : TemplateStore) :
    insert template store = (.ok (template.row store.nextId),
      { rows := store.rows ++ [template.row store.nextId], nextId := store.nextId + 1 }) :=
  if_neg (Nat.not_lt.2 hfits)

theorem insert_of_not_fits {template : NewTemplate} (hfits : maxInteger < template.version) (store : TemplateStore) :
    insert template store = (.error (.error "value out of range for type integer"), store) := if_pos hfits

/-- The active rows after a call: some of those before, or those that it does not deactivate and the row it writes. -/
theorem run_active (store : TemplateStore) (call : Call) :
    ((activeRows (call.run store).1).Sublist (activeRows store) ∧
      ∀ content ∈ call.writes store, maxInteger < content.version) ∨
    ∃ row, call.writes store = some row.content ∧ row.version ≤ maxInteger ∧ row.isActive = call.activates ∧
      activeRows (call.run store).1 =
        ((activeRows store).filter fun row => !call.deactivates store row) ++ [row].filter TemplateRow.isActive := by
  have hinsert : ∀ (template : NewTemplate) (p : Prop) [Decidable p] (holds : TemplateRow → Bool),
      (activeRows (insert template (if p then deactivate holds store else store)).2).Sublist (activeRows store) ∧
        maxInteger < template.version ∨
      ∃ row, row.content = template.content ∧ row.version ≤ maxInteger ∧ row.isActive = template.isActive ∧
        activeRows (insert template (if p then deactivate holds store else store)).2 =
          ((activeRows store).filter fun row => !(decide p && holds row)) ++ [row].filter TemplateRow.isActive := by
    intro template p _ holds
    by_cases hfits : template.version ≤ maxInteger
    · refine .inr ⟨template.row (if p then deactivate holds store else store).nextId, rfl, hfits, rfl, ?_⟩
      rw [insert_of_fits hfits, ← activeRows_deactivate_if]
      exact List.filter_append ..
    · have hlarge : maxInteger < template.version := Nat.lt_of_not_le hfits
      refine .inl ⟨?_, hlarge⟩
      rw [insert_of_not_fits hlarge]
      dsimp only
      rw [activeRows_deactivate_if]
      exact List.filter_sublist
  cases call with
  | create tenantId dto uuid tie =>
    unfold Call.run Call.writes Call.deactivates Call.activates createTemplate
    dsimp only
    cases currentGroup tenantId dto.name tie store with
    | error failure => exact .inl ⟨List.Sublist.refl _, by simp⟩
    | ok current =>
      rcases hinsert (createOf tenantId dto uuid current) (dto.isActive = some true) (named tenantId dto.name) with
        ⟨hsub, hlarge⟩ | ⟨row, hcontent, hfits, hactive, hrows⟩
      · refine .inl ⟨hsub, fun content hmem => ?_⟩
        cases hmem
        exact hlarge
      · exact .inr ⟨row, congrArg some hcontent.symm, hfits, hactive, hrows⟩
  | update tenantId id dto =>
    unfold Call.run Call.writes Call.deactivates Call.activates updateTemplate
    dsimp only
    cases find tenantId id store with
    | none => exact .inl ⟨List.Sublist.refl _, by simp⟩
    | some existing =>
      rcases hinsert (editOf tenantId dto existing) (dto.isActive.getD true = true)
        (fun row => decide (row.tenantId = tenantId ∧ row.templateKey = existing.templateKey)) with
        ⟨hsub, hlarge⟩ | ⟨row, hcontent, hfits, hactive, hrows⟩
      · refine .inl ⟨hsub, fun content hmem => ?_⟩
        cases hmem
        exact hlarge
      · exact .inr ⟨row, congrArg some hcontent.symm, hfits, hactive, hrows⟩
  | delete tenantId id =>
    unfold Call.run deleteTemplate
    dsimp only
    cases find tenantId id store with
    | none => exact .inl ⟨List.Sublist.refl _, by simp [Call.writes]⟩
    | some existing => exact .inl ⟨List.filter_sublist.filter _, by simp [Call.writes]⟩

/-- One call keeps at most one row of a name active exactly if it leaves none beside its own. -/
theorem oneActive_run_iff {store : TemplateStore} {call : Call} (h : OneActive store) :
    OneActive (call.run store).1 ↔ LeavesNone store call := by
  unfold OneActive at h ⊢
  rcases run_active store call with ⟨hsub, hlarge⟩ | ⟨row, hwrites, hfits, hactive, hrows⟩
  · refine ⟨fun _ _ content hmem hfits => absurd (hlarge content hmem) (Nat.not_lt.2 hfits), fun _ => ?_⟩
    exact h.sublist (hsub.map nameKey)
  · have hkept : Rows.Keyed nameKey ((activeRows store).filter fun row => !call.deactivates store row) :=
      h.sublist (List.filter_sublist.map nameKey)
    rw [hrows]
    by_cases hactivates : call.activates = true
    · rw [List.filter_cons_of_pos (hactive.trans hactivates), List.filter_nil, Rows.Keyed.append_singleton_iff]
      constructor
      · rintro ⟨-, hfresh⟩ - content hmem - other hother hon hname
        rw [hwrites] at hmem
        cases hmem
        by_contra hleft
        exact hfresh other (List.mem_filter.2 ⟨mem_activeRows.2 ⟨hother, hon⟩, by simpa using hleft⟩) hname
      · intro hleaves
        refine ⟨hkept, fun other hother hname => ?_⟩
        obtain ⟨hmem, hleft⟩ := List.mem_filter.1 hother
        obtain ⟨hstored, hon⟩ := mem_activeRows.1 hmem
        have hgone := hleaves hactivates row.content hwrites hfits other hstored hon hname
        simp [hgone] at hleft
    · rw [List.filter_cons_of_neg fun hon => hactivates (hactive.symm.trans hon), List.filter_nil, List.append_nil]
      exact ⟨fun _ hon => absurd hon hactivates, fun _ => hkept⟩

/-! ### What a reference without a version means -/

theorem OneActive.unambiguous {store : TemplateStore} (h : OneActive store) : Unambiguous store := by
  intro tenantId templateRef hversion tie tie'
  unfold resolveTemplate
  dsimp only
  rw [hversion]
  unfold selectTemplate
  dsimp only
  have hlength := h.length_filter_le (tenantId, String.ofList ((templateRef.toList.splitOn '@').headD []))
  have hrows : (store.rows.filter fun row =>
      named tenantId (String.ofList ((templateRef.toList.splitOn '@').headD [])) row && row.isActive) =
        (activeRows store).filter fun row =>
          decide (nameKey row = (tenantId, String.ofList ((templateRef.toList.splitOn '@').headD []))) := by
    unfold activeRows
    rw [List.filter_filter]
    refine List.filter_congr fun row _ => ?_
    unfold named nameKey
    simp [Prod.ext_iff]
  rw [hrows, Queries.newestFirst_of_length_le tie hlength, Queries.newestFirst_of_length_le tie' hlength]

/-- After a run all of whose calls leave no active row beside the one they write, at most one row of every name is active,
and references without a version are unambiguous; the next call keeps this exactly if it leaves none either. -/
theorem one_active {store : TemplateStore} (hrun : Transition.Runs step LeavesNone noTemplates store) :
    OneActive store ∧ Unambiguous store ∧ ∀ call, OneActive (call.run store).1 ↔ LeavesNone store call := by
  have hone : OneActive store := by
    refine hrun.invariant (P := OneActive) List.nodup_nil fun _ _ _ h hleaves hstep => ?_
    cases hstep
    exact (oneActive_run_iff h).2 hleaves
  exact ⟨hone, hone.unambiguous, fun _ => oneActive_run_iff hone⟩

namespace Sample

open SmsPlatform.Sample (tenant)

/-- A template, an edit of it, and a draft. -/
def activations : List Call :=
  [.create tenant ⟨"otp", "one", none⟩ "key" TemplateRow.id, .update tenant 1 ⟨none, some "two", none⟩,
    .update tenant 2 ⟨none, some "three", some false⟩]

/-- A template, and a new version of it, both without the flag. -/
def omitted : List Call :=
  [.create tenant ⟨"otp", "one", none⟩ "key" TemplateRow.id, .create tenant ⟨"otp", "two", none⟩ "key" TemplateRow.id]

end Sample

theorem one_active_activations : ∃ store, store.rows.length = 3 ∧
    Transition.Runs step LeavesNone noTemplates store ∧ OneActive store ∧ Unambiguous store := by
  have h : (Transition.execute (Transition.guarded step fun store call => decide (LeavesNone store call)) noTemplates
      Sample.activations).any (fun store => decide (store.rows.length = 3)) = true := by decide +kernel
  obtain ⟨store, hrun, hlength⟩ := (Option.any_eq_true _ _).1 h
  have hruns : Transition.Runs step LeavesNone noTemplates store :=
    (Transition.runs_of_execute hrun).mono fun _ _ hok => of_decide_eq_true hok
  obtain ⟨hone, hmeaning, -⟩ := one_active hruns
  exact ⟨store, of_decide_eq_true hlength, hruns, hone, hmeaning⟩

/-- Two calls without the flag leave two active rows of one name. -/
theorem two_active : ∃ store, Transition.Reaches step noTemplates store ∧ ¬ OneActive store := by
  have hrun : Transition.execute step noTemplates Sample.omitted =
      some ⟨[⟨1, "key", SmsPlatform.Sample.tenant, "otp", "one", 1, true⟩,
        ⟨2, "key", SmsPlatform.Sample.tenant, "otp", "two", 2, true⟩], 3⟩ := by
    simp [Transition.execute, step, Sample.omitted, noTemplates, Call.run, createTemplate, currentGroup, insert,
      createOf, NewTemplate.row, named, Queries.first, maxInteger]
  exact ⟨_, Transition.reaches_of_execute hrun, by decide +kernel⟩

end Templates

end SmsPlatform
