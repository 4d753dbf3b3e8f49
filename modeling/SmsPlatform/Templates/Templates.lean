import SmsPlatform.Database
import SmsPlatform.Lib.Numerals
import SmsPlatform.Lib.Queries
import SmsPlatform.Lib.Rows

/-!
# Templates

`templates.service.ts`: a template is edited by writing a new row with another version, and a reference `name@version`
is resolved by looking for a row.  `mutation_cases` says once what a call does to the table: it deletes rows, or it
writes at most one, and otherwise changes flags alone.

The statements of a call are not in a transaction, so a call that fails may leave rows deactivated.
-/

namespace SmsPlatform

structure TemplateRow where
  id : Nat
  templateKey : String
  tenantId : TenantId
  name : String
  body : String
  version : Nat
  isActive : Bool
  deriving DecidableEq

/-- What a reference depends on. -/
structure TemplateContent where
  tenantId : TenantId
  name : String
  version : Nat
  body : String
  deriving DecidableEq

def TemplateRow.content (row : TemplateRow) : TemplateContent := ⟨row.tenantId, row.name, row.version, row.body⟩

/-- `name@version`. -/
def TemplateContent.reference (content : TemplateContent) : String :=
  content.name ++ "@" ++ String.ofList (Decimal.digits content.version)

structure CreateTemplateDto where
  name : String
  body : String
  isActive : Option Bool := none

structure UpdateTemplateDto where
  name : Option String := none
  body : Option String := none
  isActive : Option Bool := none

/-- The table, and the next value of its identity column. -/
structure TemplateStore where
  rows : List TemplateRow
  nextId : Nat

def TemplateStore.contents (store : TemplateStore) : List TemplateContent := store.rows.map TemplateRow.content

namespace Templates

/-! ### The service -/

/-- The largest INTEGER. -/
def maxInteger : Nat := 2 ^ 31 - 1

/-- The columns that a caller gives a new row. -/
structure NewTemplate where
  tenantId : TenantId
  templateKey : String
  name : String
  body : String
  version : Nat
  isActive : Bool

def NewTemplate.row (template : NewTemplate) (id : Nat) : TemplateRow where
  id := id
  templateKey := template.templateKey
  tenantId := template.tenantId
  name := template.name
  body := template.body
  version := template.version
  isActive := template.isActive

def NewTemplate.content (template : NewTemplate) : TemplateContent :=
  ⟨template.tenantId, template.name, template.version, template.body⟩

def insert (template : NewTemplate) (store : TemplateStore) : Except Failure TemplateRow × TemplateStore :=
  if maxInteger < template.version then (.error (.error "value out of range for type integer"), store)
  else
    let row := template.row store.nextId
    (.ok row, { rows := store.rows ++ [row], nextId := store.nextId + 1 })

/-- `UPDATE templates SET is_active = FALSE`. -/
def deactivate (holds : TemplateRow → Bool) (store : TemplateStore) : TemplateStore :=
  { store with rows := Rows.update holds (fun row => { row with isActive := false }) store.rows }

def named (tenantId : TenantId) (name : String) (row : TemplateRow) : Bool :=
  decide (row.tenantId = tenantId ∧ row.name = name)

/-- The SELECT of `createTemplate`, of which the first group is read: the key and the next version.  `tie` is the order in
which PostgreSQL happens to deliver the groups. -/
def currentGroup (tenantId : TenantId) (name : String) (tie : TemplateRow → Nat) (store : TemplateStore) :
    Except Failure (Option (String × Nat)) :=
  let rows := store.rows.filter (named tenantId name)
  if rows.any fun row => decide (row.version = maxInteger) then .error (.error "integer out of range")
  else .ok ((Queries.first tie rows).map fun row =>
    (row.templateKey, ((rows.filter fun other => decide (other.templateKey = row.templateKey)).map
      TemplateRow.version).foldr max 0 + 1))

/-- The row that `createTemplate` writes; `uuid` is what `gen_random_uuid()` returns. -/
def createOf (tenantId : TenantId) (dto : CreateTemplateDto) (uuid : String) (current : Option (String × Nat)) :
    NewTemplate where
  tenantId := tenantId
  templateKey := (current.map Prod.fst).getD uuid
  name := dto.name
  body := dto.body
  version := (current.map Prod.snd).getD 1
  isActive := dto.isActive.getD true

def createTemplate (tenantId : TenantId) (dto : CreateTemplateDto) (uuid : String) (tie : TemplateRow → Nat)
    (store : TemplateStore) : Except Failure TemplateRow × TemplateStore :=
  match currentGroup tenantId dto.name tie store with
  | .error failure => (.error failure, store)
  | .ok current =>
    let store := if dto.isActive = some true then deactivate (named tenantId dto.name) store else store
    insert (createOf tenantId dto uuid current) store

def find (tenantId : TenantId) (id : Nat) (store : TemplateStore) : Option TemplateRow :=
  store.rows.find? fun row => decide (row.id = id ∧ row.tenantId = tenantId)

/-- The row that `updateTemplate` writes in place of an existing one. -/
def editOf (tenantId : TenantId) (dto : UpdateTemplateDto) (existing : TemplateRow) : NewTemplate where
  tenantId := tenantId
  templateKey := existing.templateKey
  name := dto.name.getD existing.name
  body := dto.body.getD existing.body
  version := existing.version + 1
  isActive := dto.isActive.getD true

def updateTemplate (tenantId : TenantId) (id : Nat) (dto : UpdateTemplateDto) (store : TemplateStore) :
    Except Failure TemplateRow × TemplateStore :=
  match find tenantId id store with
  | none => (.error (.notFound "Template not found"), store)
  | some existing =>
    let store :=
      if dto.isActive.getD true then
        deactivate (fun row => decide (row.tenantId = tenantId ∧ row.templateKey = existing.templateKey)) store
      else store
    insert (editOf tenantId dto existing) store

def deleteTemplate (tenantId : TenantId) (id : Nat) (store : TemplateStore) : Except Failure Unit × TemplateStore :=
  match find tenantId id store with
  | none => (.error (.notFound "Template not found"), store)
  | some _ => (.ok (), { store with
      rows := store.rows.filter fun row => !decide (row.id = id ∧ row.tenantId = tenantId) })

/-- The INTEGER that PostgreSQL reads from a number in a query parameter. -/
def integerOf : Numerals.Number → Except Failure Int
  | .finite value =>
    if value.den = 1 then
      if -(2 ^ 31) ≤ value.num ∧ value.num < 2 ^ 31 then .ok value.num
      else .error (.error "value out of range for type integer")
    else .error (.error "invalid input syntax for type integer")
  | _ => .error (.error "invalid input syntax for type integer")

/-- `version` of `resolveTemplate`, unless it is falsy. -/
def versionOf (versionPart : Option (List Char)) : Option Numerals.Number :=
  match versionPart with
  | none => none
  | some [] => none
  | some text =>
    match Numerals.toNumber text with
    | .nan => none
    | .finite value => if value = 0 then none else some (.finite value)
    | number => some number

/-- What `resolveTemplate` makes of the rows it has selected. -/
def found (template : Option TemplateRow) : Except Failure TemplateRow :=
  match template with
  | none => .error (.notFound "Template not found")
  | some row => .ok row

/-- The two queries of `resolveTemplate`. -/
def selectTemplate (tie : TemplateRow → Nat) (store : TemplateStore) (tenantId : TenantId) (name : String) :
    Option Numerals.Number → Except Failure TemplateRow
  | some number =>
    match integerOf number with
    | .error failure => .error failure
    | .ok version =>
      found (Queries.first tie (store.rows.filter fun row =>
        named tenantId name row && decide ((row.version : Int) = version)))
  | none =>
    found (Queries.newestFirst (fun row => (row.version : Int)) tie (store.rows.filter fun row =>
      named tenantId name row && row.isActive)).head?

def resolveTemplate (tie : TemplateRow → Nat) (store : TemplateStore) (tenantId : TenantId) (templateRef : String) :
    Except Failure TemplateRow :=
  let parts := templateRef.toList.splitOn '@'
  selectTemplate tie store tenantId (String.ofList (parts.headD [])) (versionOf parts[1]?)

/-! ### The calls of tenants -/

inductive Call
  | create (tenantId : TenantId) (dto : CreateTemplateDto) (uuid : String) (tie : TemplateRow → Nat)
  | update (tenantId : TenantId) (id : Nat) (dto : UpdateTemplateDto)
  | delete (tenantId : TenantId) (id : Nat)

/-- The store after a call, whether it has failed or not, and the row that it has written. -/
def Call.run (store : TemplateStore) : Call → TemplateStore × Option TemplateRow
  | .create tenantId dto uuid tie =>
    let (result, store) := createTemplate tenantId dto uuid tie store
    (store, result.toOption)
  | .update tenantId id dto =>
    let (result, store) := updateTemplate tenantId id dto store
    (store, result.toOption)
  | .delete tenantId id => ((deleteTemplate tenantId id store).2, none)

/-! ### What a call does to the table -/

/-- The row that a call is about to write, as far as a reference depends on it. -/
def Call.writes (store : TemplateStore) : Call → Option TemplateContent
  | .create tenantId dto uuid tie =>
    match currentGroup tenantId dto.name tie store with
    | .error _ => none
    | .ok current => some (createOf tenantId dto uuid current).content
  | .update tenantId id dto => (find tenantId id store).map fun existing => (editOf tenantId dto existing).content
  | .delete _ _ => none

theorem contents_deactivate (holds : TemplateRow → Bool) (store : TemplateStore) :
    (deactivate holds store).contents = store.contents := by
  have hflag : ∀ row : TemplateRow, TemplateRow.content { row with isActive := false } = row.content := fun _ => rfl
  exact Rows.map_update hflag store.rows

theorem contents_deactivate_if (p : Prop) [Decidable p] (holds : TemplateRow → Bool) (store : TemplateStore) :
    (if p then deactivate holds store else store).contents = store.contents := by
  split
  · exact contents_deactivate holds store
  · rfl

/-- An insertion fails, or appends the row. -/
theorem insert_cases {store before : TemplateStore} (hbefore : before.contents = store.contents)
    (template : NewTemplate) :
    ((insert template before).1.toOption = none ∧ (insert template before).2.contents.Sublist store.contents) ∨
      (∃ row, (insert template before).1.toOption = some row ∧ row.content = template.content ∧
        row.version ≤ maxInteger ∧ (insert template before).2.contents = store.contents ++ [row.content]) := by
  unfold insert
  split
  · exact .inl ⟨rfl, hbefore ▸ List.Sublist.refl _⟩
  · rename_i hfits
    refine .inr ⟨template.row before.nextId, rfl, rfl, Nat.le_of_not_lt hfits, ?_⟩
    rw [← hbefore]
    exact List.map_append

/-- Everything a call can do to the table: it deletes rows or changes flags, or it writes one row that is known
beforehand. -/
theorem run_cases (store : TemplateStore) (call : Call) :
    ((call.run store).2 = none ∧ (call.run store).1.contents.Sublist store.contents) ∨
      (∃ row, (call.run store).2 = some row ∧ call.writes store = some row.content ∧ row.version ≤ maxInteger ∧
        (call.run store).1.contents = store.contents ++ [row.content]) := by
  cases call with
  | create tenantId dto uuid tie =>
    unfold Call.run Call.writes createTemplate
    dsimp only
    cases currentGroup tenantId dto.name tie store with
    | error failure => exact .inl ⟨rfl, List.Sublist.refl _⟩
    | ok current =>
      rcases insert_cases (contents_deactivate_if (dto.isActive = some true) _ store)
        (createOf tenantId dto uuid current) with hfailed | ⟨row, hrow, hcontent, hfits, hadded⟩
      · exact .inl hfailed
      · exact .inr ⟨row, hrow, congrArg some hcontent.symm, hfits, hadded⟩
  | update tenantId id dto =>
    unfold Call.run Call.writes updateTemplate
    dsimp only
    cases find tenantId id store with
    | none => exact .inl ⟨rfl, List.Sublist.refl _⟩
    | some existing =>
      rcases insert_cases (contents_deactivate_if (dto.isActive.getD true = true) _ store)
        (editOf tenantId dto existing) with hfailed | ⟨row, hrow, hcontent, hfits, hadded⟩
      · exact .inl hfailed
      · exact .inr ⟨row, hrow, congrArg some hcontent.symm, hfits, hadded⟩
  | delete tenantId id =>
    unfold Call.run deleteTemplate
    dsimp only
    cases find tenantId id store with
    | none => exact .inl ⟨rfl, List.Sublist.refl _⟩
    | some existing => exact .inl ⟨rfl, List.filter_sublist.map _⟩

end Templates

end SmsPlatform
