import SmsPlatform.Lib.Runs
import SmsPlatform.Templates.Templates

/-!
# Template references

A reference `name@version` is meant to denote one body.  `createTemplate` counts the versions of a name; but
`updateTemplate` gives a row the version after that of the row it starts from, whether there is one already or not, and
the resolver takes the name to end at the first `@`.  `references_stable` says when references are stable, for the rows in
the table at any time and for all rows there have ever been.
-/

namespace SmsPlatform

namespace Templates

/-- Two rows with one reference and different bodies. -/
def Clash (content other : TemplateContent) : Prop :=
  content.tenantId = other.tenantId ∧ content.name = other.name ∧ content.version = other.version ∧
    content.body ≠ other.body

instance (content other : TemplateContent) : Decidable (Clash content other) :=
  inferInstanceAs (Decidable (_ ∧ _))

/-- The reference of a row to be written can be read back and has not been given to another body. -/
structure Unclaimed (taken : List TemplateContent) (content : TemplateContent) : Prop where
  plain : '@' ∉ content.name.toList
  free : ∀ other ∈ taken, ¬ Clash other content

instance (taken : List TemplateContent) (content : TemplateContent) : Decidable (Unclaimed taken content) :=
  decidable_of_iff ('@' ∉ content.name.toList ∧ ∀ other ∈ taken, ¬ Clash other content)
    ⟨fun h => ⟨h.1, h.2⟩, fun h => ⟨h.plain, h.free⟩⟩

/-- The reference of every row of a tenant denotes its body. -/
def Stable (store : TemplateStore) (tenantId : TenantId) : Prop :=
  ∀ row ∈ store.rows, row.tenantId = tenantId → ∀ tie, ∃ found,
    resolveTemplate tie store tenantId row.content.reference = .ok found ∧ found.body = row.body

def noTemplates : TemplateStore := ⟨[], 1⟩

def step (store : TemplateStore) (call : Call) : Option TemplateStore := some (call.run store).1

/-- What the call writes, if anything, is unclaimed. -/
def WritesUnclaimed (store : TemplateStore) (call : Call) : Prop :=
  ∀ content ∈ call.writes store, Unclaimed store.contents content

instance (store : TemplateStore) (call : Call) : Decidable (WritesUnclaimed store call) :=
  inferInstanceAs (Decidable (∀ content ∈ call.writes store, Unclaimed store.contents content))

/-! ### Over time -/

/-- The table, and what has ever been written to it. -/
structure TemplateHistory where
  store : TemplateStore
  written : List TemplateContent

namespace TemplateHistory

def start : TemplateHistory := ⟨noTemplates, []⟩

def step (history : TemplateHistory) (call : Call) : Option TemplateHistory :=
  some {
    store := (call.run history.store).1
    written := history.written ++ ((call.run history.store).2.map TemplateRow.content).toList }

def WritesUnclaimed (history : TemplateHistory) (call : Call) : Prop :=
  ∀ content ∈ call.writes history.store, Unclaimed history.written content

instance (history : TemplateHistory) (call : Call) : Decidable (history.WritesUnclaimed call) :=
  inferInstanceAs (Decidable (∀ content ∈ call.writes history.store, Unclaimed history.written content))

/-- A reference denotes the body for which it was given out, or nothing any more. -/
def Lasting (history : TemplateHistory) : Prop :=
  ∀ content ∈ history.written, ∀ tie found,
    resolveTemplate tie history.store content.tenantId content.reference = .ok found → found.body = content.body

end TemplateHistory

/-! ### Reading a reference -/

/-- A row whose reference can be read back. -/
structure Readable (content : TemplateContent) : Prop where
  plain : '@' ∉ content.name.toList
  version_pos : 1 ≤ content.version
  version_le : content.version ≤ maxInteger

theorem Readable.parts {content : TemplateContent} (h : Readable content) :
    content.reference.toList.splitOn '@' = [content.name.toList, Decimal.digits content.version] := by
  have hdigits : '@' ∉ Decimal.digits content.version := fun hmem =>
    absurd (Decimal.allDigits_digits content.version '@' hmem) (by decide)
  have htext : content.reference.toList = content.name.toList ++ '@' :: Decimal.digits content.version := by
    simp [TemplateContent.reference]
  rw [htext, List.splitOn_append_cons_self_of_not_mem h.plain, List.splitOn_eq_singleton hdigits]

theorem Readable.versionOf {content : TemplateContent} (h : Readable content) :
    Templates.versionOf (some (Decimal.digits content.version)) = some (.finite content.version) := by
  have hpos := h.version_pos
  have hle := h.version_le
  have hsmall : content.version < 2 ^ 53 := by
    unfold maxInteger at hle
    omega
  have hnumber := Numerals.toNumber_digits hsmall
  have hnonzero : (content.version : ℚ) ≠ 0 := by exact_mod_cast Nat.one_le_iff_ne_zero.1 hpos
  cases hdigits : Decimal.digits content.version with
  | nil => exact absurd hdigits (Decimal.digits_ne_nil _)
  | cons c cs =>
    rw [hdigits] at hnumber
    unfold Templates.versionOf
    dsimp only
    rw [hnumber]
    exact if_neg hnonzero

theorem Readable.integerOf {content : TemplateContent} (h : Readable content) :
    Templates.integerOf (.finite content.version) = .ok content.version := by
  have hle := h.version_le
  unfold maxInteger at hle
  unfold Templates.integerOf
  dsimp only
  rw [Rat.den_natCast, Rat.num_natCast, if_pos rfl, if_pos (by omega)]

/-- The rows that the resolver of a reference looks at. -/
def candidates (store : TemplateStore) (content : TemplateContent) : List TemplateRow :=
  store.rows.filter fun row =>
    named content.tenantId content.name row && decide ((row.version : Int) = content.version)

theorem mem_candidates {store : TemplateStore} {content : TemplateContent} {row : TemplateRow} :
    row ∈ candidates store content ↔ row ∈ store.rows ∧ row.tenantId = content.tenantId ∧ row.name = content.name ∧
      row.version = content.version := by
  unfold candidates named
  rw [List.mem_filter, Bool.and_eq_true, decide_eq_true_eq, decide_eq_true_eq, Nat.cast_inj, and_assoc]

theorem selectTemplate_number {number : Numerals.Number} {version : Int} (h : integerOf number = .ok version)
    (tie : TemplateRow → Nat) (store : TemplateStore) (tenantId : TenantId) (name : String) :
    selectTemplate tie store tenantId name (some number) = found (Queries.first tie (store.rows.filter fun row =>
      named tenantId name row && decide ((row.version : Int) = version))) := by
  unfold selectTemplate
  dsimp only
  rw [h]

/-- The reference of a readable row resolves to one of the rows with its name and version. -/
theorem Readable.resolveTemplate {content : TemplateContent} (h : Readable content) (tie : TemplateRow → Nat)
    (store : TemplateStore) :
    Templates.resolveTemplate tie store content.tenantId content.reference =
      found (Queries.first tie (candidates store content)) := by
  have hname : String.ofList ([content.name.toList, Decimal.digits content.version].headD []) = content.name :=
    String.ofList_toList
  have hversion : Templates.versionOf [content.name.toList, Decimal.digits content.version][1]? =
      some (.finite content.version) := h.versionOf
  unfold Templates.resolveTemplate
  dsimp only
  rw [h.parts, hname, hversion]
  exact selectTemplate_number h.integerOf tie store content.tenantId content.name

theorem found_eq_ok {template : Option TemplateRow} {row : TemplateRow} (h : found template = .ok row) :
    template = some row := by
  cases template with
  | none => cases h
  | some other =>
    cases h
    rfl

/-! ### Tables without clashes -/

/-- The rows are readable, and no two of them clash. -/
structure Sound (contents : List TemplateContent) : Prop where
  readable : ∀ content ∈ contents, Readable content
  clashFree : ∀ content ∈ contents, ∀ other ∈ contents, ¬ Clash content other

theorem Clash.symm {content other : TemplateContent} (h : Clash content other) : Clash other content :=
  ⟨h.1.symm, h.2.1.symm, h.2.2.1.symm, h.2.2.2.symm⟩

theorem Sound.nil : Sound [] :=
  ⟨fun _ h => (nomatch h), fun _ h => (nomatch h)⟩

theorem Sound.subset {contents contents' : List TemplateContent} (h : Sound contents) (hsub : contents' ⊆ contents) :
    Sound contents' :=
  ⟨fun content hmem => h.readable content (hsub hmem),
    fun content hmem other hother => h.clashFree content (hsub hmem) other (hsub hother)⟩

theorem Sound.append {contents : List TemplateContent} (h : Sound contents) {content : TemplateContent}
    (hreadable : Readable content) (hfree : ∀ other ∈ contents, ¬ Clash other content) :
    Sound (contents ++ [content]) := by
  constructor
  · intro other hmem
    rcases List.mem_append.1 hmem with hmem | hmem
    · exact h.readable other hmem
    · rw [List.mem_singleton.1 hmem]
      exact hreadable
  · intro one hone two htwo
    rcases List.mem_append.1 hone with hone | hone <;> rcases List.mem_append.1 htwo with htwo | htwo
    · exact h.clashFree one hone two htwo
    · rw [List.mem_singleton.1 htwo]
      exact hfree one hone
    · rw [List.mem_singleton.1 hone]
      exact fun hclash => hfree two htwo hclash.symm
    · rw [List.mem_singleton.1 hone, List.mem_singleton.1 htwo]
      exact fun hclash => hclash.2.2.2 rfl

theorem Sound.stable {store : TemplateStore} (h : Sound store.contents) (tenantId : TenantId) :
    Stable store tenantId := by
  rintro row hrow rfl tie
  have hmem : row.content ∈ store.contents := List.mem_map_of_mem hrow
  have hcandidate : row ∈ candidates store row.content := mem_candidates.2 ⟨hrow, rfl, rfl, rfl⟩
  obtain ⟨found', hfound⟩ := Queries.first_of_mem tie hcandidate
  have hresolve := (h.readable row.content hmem).resolveTemplate tie store
  rw [hfound] at hresolve
  refine ⟨found', hresolve, ?_⟩
  obtain ⟨hstored, htenant, hname, hversion⟩ := mem_candidates.1 (Queries.mem_of_first hfound)
  by_contra hbody
  exact h.clashFree found'.content (List.mem_map_of_mem hstored) row.content hmem ⟨htenant, hname, hversion, hbody⟩

/-- Of two rows that clash, one is not found under its reference. -/
theorem not_stable_of_clash {store : TemplateStore} {content other : TemplateContent}
    (hcontent : content ∈ store.contents) (hother : other ∈ store.contents) (hclash : Clash other content) :
    ¬ Stable store content.tenantId := by
  intro hstable
  obtain ⟨row, hrow, rfl⟩ := List.mem_map.1 hcontent
  obtain ⟨row', hrow', rfl⟩ := List.mem_map.1 hother
  obtain ⟨htenant, hname, hversion, hbody⟩ := hclash
  obtain ⟨found₁, hfound₁, hbody₁⟩ := hstable row hrow rfl TemplateRow.id
  obtain ⟨found₂, hfound₂, hbody₂⟩ := hstable row' hrow' htenant TemplateRow.id
  have hreference : row'.content.reference = row.content.reference := by
    unfold TemplateContent.reference
    rw [hname, hversion]
  rw [hreference, hfound₁] at hfound₂
  cases hfound₂
  exact hbody (hbody₂.symm.trans hbody₁)

/-! ### One call -/

/-- Versions begin with one. -/
theorem version_pos_of_writes {store : TemplateStore} {call : Call} {content : TemplateContent}
    (h : call.writes store = some content) : 1 ≤ content.version := by
  cases call with
  | create tenantId dto uuid tie =>
    unfold Call.writes at h
    dsimp only at h
    split at h
    · cases h
    · rename_i current hcurrent
      cases h
      show 1 ≤ (current.map Prod.snd).getD 1
      unfold currentGroup at hcurrent
      dsimp only at hcurrent
      split at hcurrent
      · cases hcurrent
      · cases hcurrent
        cases Queries.first tie (store.rows.filter (named tenantId dto.name)) with
        | none => exact le_refl 1
        | some row => exact Nat.le_add_left ..
  | update tenantId id dto =>
    unfold Call.writes at h
    obtain ⟨existing, -, rfl⟩ := Option.map_eq_some_iff.1 h
    exact Nat.le_add_left ..
  | delete tenantId id => cases h

theorem Sound.run {store : TemplateStore} {call : Call} (h : Sound store.contents)
    (hunclaimed : WritesUnclaimed store call) : Sound (call.run store).1.contents := by
  rcases run_cases store call with ⟨-, hsub⟩ | ⟨row, -, hwrites, hfits, hadded⟩
  · exact h.subset hsub.subset
  · obtain ⟨hplain, hfree⟩ := hunclaimed row.content hwrites
    rw [hadded]
    exact h.append ⟨hplain, version_pos_of_writes hwrites, hfits⟩ hfree

/-- What has been written is sound, and what is in the table has been written. -/
structure TemplateHistory.Kept (history : TemplateHistory) : Prop where
  sound : Sound history.written
  written : history.store.contents ⊆ history.written

theorem TemplateHistory.Kept.step {history history' : TemplateHistory} {call : Call} (h : history.Kept)
    (hunclaimed : history.WritesUnclaimed call) (hstep : history.step call = some history') : history'.Kept := by
  cases hstep
  rcases run_cases history.store call with ⟨hnone, hsub⟩ | ⟨row, hrow, hwrites, hfits, hadded⟩
  · refine ⟨?_, ?_⟩
    · dsimp only
      rw [hnone, Option.map_none, Option.toList_none, List.append_nil]
      exact h.sound
    · dsimp only
      rw [hnone, Option.map_none, Option.toList_none, List.append_nil]
      exact List.Subset.trans hsub.subset h.written
  · obtain ⟨hplain, hfree⟩ := hunclaimed row.content hwrites
    refine ⟨?_, ?_⟩
    · dsimp only
      rw [hrow, Option.map_some, Option.toList_some]
      exact h.sound.append ⟨hplain, version_pos_of_writes hwrites, hfits⟩ hfree
    · dsimp only
      rw [hrow, hadded, Option.map_some, Option.toList_some]
      exact List.append_subset.2 ⟨List.Subset.trans h.written (List.subset_append_left ..), List.subset_append_right ..⟩

theorem TemplateHistory.Kept.lasting {history : TemplateHistory} (h : history.Kept) : history.Lasting := by
  intro content hcontent tie found' hfound
  rw [(h.sound.readable content hcontent).resolveTemplate tie history.store] at hfound
  obtain ⟨hstored, htenant, hname, hversion⟩ := mem_candidates.1 (Queries.mem_of_first (found_eq_ok hfound))
  have hwritten := h.written (List.mem_map_of_mem hstored)
  by_contra hbody
  exact h.sound.clashFree found'.content hwritten content hcontent ⟨htenant, hname, hversion, hbody⟩

/-- References are stable while every row that is written has a name without `@` and a version under which no other body
is stored; and they last for good while no other body has ever been stored there.  A call that writes a row over another
body leaves a reference that is not stable. -/
theorem references_stable (tenantId : TenantId) :
    (∀ store, Transition.Runs step WritesUnclaimed noTemplates store → Stable store tenantId) ∧
    (∀ history, Transition.Runs TemplateHistory.step TemplateHistory.WritesUnclaimed .start history →
      history.Lasting) ∧
    (∀ store (call : Call) row, (call.run store).2 = some row → (∃ other ∈ store.contents, Clash other row.content) →
      ¬ Stable (call.run store).1 row.tenantId) := by
  refine ⟨?_, ?_, ?_⟩
  · intro store hrun
    have hsound : Sound store.contents := by
      refine hrun.invariant (P := fun store => Sound store.contents) Sound.nil fun _ _ _ h hunclaimed hstep => ?_
      cases hstep
      exact h.run hunclaimed
    exact hsound.stable tenantId
  · intro history hrun
    have hkept : history.Kept :=
      hrun.invariant ⟨Sound.nil, List.Subset.refl _⟩ fun _ _ _ h hunclaimed hstep => h.step hunclaimed hstep
    exact hkept.lasting
  · rintro store call row hrow ⟨other, hother, hclash⟩
    rcases run_cases store call with ⟨hnone, -⟩ | ⟨written, hwritten, -, -, hadded⟩
    · rw [hrow] at hnone
      cases hnone
    · rw [hrow] at hwritten
      cases hwritten
      have hrow : row.content ∈ (call.run store).1.contents := by
        rw [hadded]
        exact List.mem_append_right _ (List.mem_singleton_self _)
      refine not_stable_of_clash hrow ?_ hclash
      rw [hadded]
      exact List.mem_append_left _ hother

namespace Sample

open SmsPlatform.Sample (tenant)

/-- A template and two edits, each of the row before. -/
def edits : List Call :=
  [.create tenant ⟨"otp", "one", none⟩ "key" TemplateRow.id, .update tenant 1 ⟨none, some "two", none⟩,
    .update tenant 2 ⟨none, some "three", none⟩]

/-- A template whose first row is edited twice. -/
def editsOfFirst : List Call :=
  [.create tenant ⟨"otp", "one", none⟩ "key" TemplateRow.id, .update tenant 1 ⟨none, some "two", none⟩,
    .update tenant 1 ⟨none, some "three", none⟩]

end Sample

theorem references_stable_edits :
    (∃ store, store.rows.length = 3 ∧ Transition.Runs step WritesUnclaimed noTemplates store ∧
      Stable store SmsPlatform.Sample.tenant) ∧
    (∃ history, history.written.length = 3 ∧
      Transition.Runs TemplateHistory.step TemplateHistory.WritesUnclaimed .start history ∧ history.Lasting) := by
  constructor
  · have h : (Transition.execute (Transition.guarded step fun store call => decide (WritesUnclaimed store call))
        noTemplates Sample.edits).any (fun store => decide (store.rows.length = 3)) = true := by decide +kernel
    obtain ⟨store, hrun, hlength⟩ := (Option.any_eq_true _ _).1 h
    have hruns : Transition.Runs step WritesUnclaimed noTemplates store :=
      (Transition.runs_of_execute hrun).mono fun _ _ hok => of_decide_eq_true hok
    exact ⟨store, of_decide_eq_true hlength, hruns, (references_stable SmsPlatform.Sample.tenant).1 store hruns⟩
  · have h : (Transition.execute (Transition.guarded TemplateHistory.step fun history call =>
        decide (history.WritesUnclaimed call)) .start Sample.edits).any
          (fun history => decide (history.written.length = 3)) = true := by decide +kernel
    obtain ⟨history, hrun, hlength⟩ := (Option.any_eq_true _ _).1 h
    have hruns : Transition.Runs TemplateHistory.step TemplateHistory.WritesUnclaimed .start history :=
      (Transition.runs_of_execute hrun).mono fun _ _ hok => of_decide_eq_true hok
    exact ⟨history, of_decide_eq_true hlength, hruns, (references_stable SmsPlatform.Sample.tenant).2.1 history hruns⟩

/-- `otp@2` denotes two bodies after the first row has been edited twice. -/
theorem edited_twice : ∃ store, Transition.Reaches step noTemplates store ∧
    ¬ Stable store SmsPlatform.Sample.tenant := by
  have h : (Transition.execute step noTemplates Sample.editsOfFirst).any (fun store => decide (store.contents =
      [⟨SmsPlatform.Sample.tenant, "otp", 1, "one"⟩, ⟨SmsPlatform.Sample.tenant, "otp", 2, "two"⟩,
        ⟨SmsPlatform.Sample.tenant, "otp", 2, "three"⟩])) = true := by decide +kernel
  obtain ⟨store, hrun, hcontents⟩ := (Option.any_eq_true _ _).1 h
  refine ⟨store, Transition.reaches_of_execute hrun, ?_⟩
  have hclash : Clash ⟨SmsPlatform.Sample.tenant, "otp", 2, "two"⟩ ⟨SmsPlatform.Sample.tenant, "otp", 2, "three"⟩ := by
    decide +kernel
  refine not_stable_of_clash ?_ ?_ hclash
  · rw [of_decide_eq_true hcontents]
    decide +kernel
  · rw [of_decide_eq_true hcontents]
    decide +kernel

end Templates

end SmsPlatform
