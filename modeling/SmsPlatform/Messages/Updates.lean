import SmsPlatform.Messages.Statements

/-!
# The guarded updates as updates of a record

What the texts of `patchMessage` and `transitionMessage` mean: of the rows whose date, tenant, id, status and version are
those of the row passed in, the given columns are set to their own values, the version is raised, the time of the change
is set, and a transition sets the columns of the status that it reaches.  Executing the text with its values does just
this (`execute_patchStatement`, `execute_transitionStatement`), and every value stands against its own column
(`bindsOwn_numbered`).
-/

namespace SmsPlatform

open Sql StateExcept

variable {α Cell : Type}

/-! ### The update of a record -/

/-- The values of the guard. -/
structure GuardCells (Cell : Type) where
  submitDate : Cell
  tenantId : Cell
  id : Cell
  status : Cell
  version : Cell

section Meaning

variable (engine : Engine MessageColumn (Unknown α) Cell)

def receiveGuard (message : HeldMessage α) : Except Fault (GuardCells Cell) := do
  let submitDate ← engine.receive .submitDate (.text (toDateString message.submitDate))
  let tenantId ← engine.receive .tenantId message.tenantId
  let id ← engine.receive .id message.id
  let status ← engine.receive .status (.text message.status.text)
  let version ← engine.receive .version message.version
  return ⟨submitDate, tenantId, id, status, version⟩

def GuardCells.cells (key : GuardCells Cell) : List Cell :=
  [key.submitDate, key.tenantId, key.id, key.status, key.version]

/-- The row has the date, tenant, id, status and version of the row passed in. -/
def GuardCells.isOf (key : GuardCells Cell) (row : MessageColumn → Cell) : Bool :=
  engine.equal (row .submitDate) key.submitDate && engine.equal (row .tenantId) key.tenantId &&
    engine.equal (row .id) key.id && engine.equal (row .status) key.status && engine.equal (row .version) key.version

/-- The given columns, each with the cell of its own value. -/
def receiveFields (fields : FieldsRecord α) : Except Fault (List (MessageColumn × Cell)) :=
  fields.defined.mapM fun field => do
    let cell ← engine.receive field.1 field.2
    return (field.1, cell)

/-- A time that is set is kept. -/
def firstTime (cell : Cell) : Cell := if engine.isNull cell then engine.now else cell

/-- The attempts are counted up on demand. -/
def attempted (incrementAttempt : Bool) (cell : Cell) : Except Fault Cell :=
  if incrementAttempt then engine.plus cell (engine.number 1) else .ok cell

/-- The row after the update of `patchMessage`. -/
def patchedCells (given : List (MessageColumn × Cell)) (row : MessageColumn → Cell) :
    Except Fault (MessageColumn → Cell) := do
  let version ← engine.plus (row .version) (engine.number 1)
  return fun column => (given.lookup column).getD (match column with
    | .version => version
    | .stateChangedAt => engine.now
    | column => row column)

/-- The row after the update of `transitionMessage`. -/
def transitionedCells (nextStatus : MessageStatus) (incrementAttempt : Bool) (status : Cell)
    (given : List (MessageColumn × Cell)) (row : MessageColumn → Cell) : Except Fault (MessageColumn → Cell) := do
  let version ← engine.plus (row .version) (engine.number 1)
  let attemptCount ← attempted engine incrementAttempt (row .attemptCount)
  return fun column => (given.lookup column).getD (match column with
    | .status => status
    | .version => version
    | .stateChangedAt => engine.now
    | .attemptCount => attemptCount
    | .sentAt => if nextStatus = .providerAccepted then firstTime engine (row .sentAt) else row .sentAt
    | .billingState =>
      if nextStatus = .providerAccepted then engine.quoted .billingState "debited" else row .billingState
    | .deliveredAt => if nextStatus = .delivered then firstTime engine (row .deliveredAt) else row .deliveredAt
    | .failedAt => if nextStatus = .failed then firstTime engine (row .failedAt) else row .failedAt
    | column => row column)

variable (message : HeldMessage α) (fields : FieldsRecord α) (nextStatus : MessageStatus) (incrementAttempt : Bool)
  (rows : List (MessageColumn → Cell))

/-- The guarded update of `patchMessage`; the database lets no update set an identity column. -/
def intendedPatch : Except Fault (List (MessageColumn → Cell) × List (List Cell)) := do
  messagesSchema.refuseGenerated fields.columns
  let given ← receiveFields engine fields
  let key ← receiveGuard engine message
  let (rows, changed) ← updateRows (key.isOf engine) (patchedCells engine given) rows
  return (rows, changed.map fun row => returningColumns.map row)

/-- The guarded update of `transitionMessage`. -/
def intendedTransition : Except Fault (List (MessageColumn → Cell) × List (List Cell)) := do
  messagesSchema.refuseGenerated fields.columns
  let status ← engine.receive .status (.text nextStatus.text)
  let given ← receiveFields engine fields
  let key ← receiveGuard engine message
  let (rows, changed) ←
    updateRows (key.isOf engine) (transitionedCells engine nextStatus incrementAttempt status given) rows
  return (rows, changed.map fun row => returningColumns.map row)

end Meaning

/-- The columns that `patchMessage` sets itself. -/
def patchColumns : List MessageColumn := [.version, .stateChangedAt]

/-- The columns that `transitionMessage` sets itself. -/
def transitionColumns (nextStatus : MessageStatus) (incrementAttempt : Bool) : List MessageColumn :=
  [.status, .version, .stateChangedAt] ++
    ((if incrementAttempt then [.attemptCount] else []) ++
      ((if nextStatus = .providerAccepted then [.sentAt, .billingState] else []) ++
        ((if nextStatus = .delivered then [.deliveredAt] else []) ++
          if nextStatus = .failed then [.failedAt] else [])))

/-- The placeholders of the text are `$1`, `$2` and so on, one for each of the values, and each value stands against its
own column. -/
def BindsOwn (statement : SqlStatement α) (pairs : List (MessageColumn × Unknown α)) : Prop :=
  ∃ update, statement? messagesSchema statement.text.toList = some update ∧
    update.placeholders.map Prod.snd = List.range' 1 statement.values.length ∧
    update.placeholders.map Prod.fst = pairs.map Prod.fst ∧ statement.values = pairs.map Prod.snd

/-! ### The fields -/

section Fields

variable {fields : FieldsRecord α}

theorem defined_sublist (entries : List (MessageColumn × Option (Unknown α))) :
    ((entries.filterMap fun entry => entry.2.map fun value => (entry.1, value)).map Prod.fst).Sublist
      (entries.map Prod.fst) := by
  induction entries with
  | nil => simp
  | cons entry entries ih =>
    obtain ⟨column, value⟩ := entry
    cases value with
    | none => simpa using ih.cons column
    | some value => simpa using ih

theorem FieldsRecord.columns_nodup (fields : FieldsRecord α) : fields.columns.Nodup :=
  (defined_sublist fields.entries).nodup fields.distinct

theorem map_fst_sentItem (fields : FieldsRecord α) : (fields.defined.map sentItem).map Prod.fst = fields.columns := by
  rw [List.map_map]
  rfl

theorem sent_fields (fields : FieldsRecord α) : sent (fields.defined.map sentItem) = fields.defined :=
  sent_map_sent fields.defined

/-- The columns of the items behind the fields. -/
theorem map_fst_closingItems (nextStatus : MessageStatus) (incrementAttempt : Bool) :
    [.status, .version, .stateChangedAt] ++ (closingItems nextStatus incrementAttempt : List (MessageItem α)).map Prod.fst =
      transitionColumns nextStatus incrementAttempt := by
  cases incrementAttempt <;> cases nextStatus <;> rfl

theorem sent_closingItems (nextStatus : MessageStatus) (incrementAttempt : Bool) :
    sent (closingItems nextStatus incrementAttempt : List (MessageItem α)) = [] := by
  cases incrementAttempt <;> cases nextStatus <;> rfl

theorem receive_fields (engine : Engine MessageColumn (Unknown α) Cell) (pairs : List (MessageColumn × Unknown α)) :
    (pairs.mapM fun field => do
      let cell ← engine.receive field.1 field.2
      return (field.1, cell)) = (do
        let cells ← pairs.mapM fun field => engine.receive field.1 field.2
        return (pairs.map Prod.fst).zip cells) := by
  induction pairs with
  | nil => rfl
  | cons pair pairs ih =>
    simp only [List.mapM_cons, ih, bind_assoc, pure_bind]
    rfl

/-- Columns set beside the fields, none of them twice and none by the database: what is checked is that the fields do
not set an identity column. -/
theorem check_numbered {before after : List (MessageItem α)}
    (hown : (before.map Prod.fst ++ after.map Prod.fst).Nodup)
    (hdisjoint : ∀ column ∈ fields.columns, column ∉ before.map Prod.fst ++ after.map Prod.fst)
    (hbefore : .id ∉ before.map Prod.fst) (hafter : .id ∉ after.map Prod.fst) (guard : List (MessageColumn × Unknown α))
    (returning : List MessageColumn) :
    (numbered "messages" (before ++ fields.defined.map sentItem ++ after) guard returning).check messagesSchema =
      messagesSchema.refuseGenerated fields.columns := by
  have hcolumns : (numbered "messages" (before ++ fields.defined.map sentItem ++ after) guard returning).assignments.map
      Prod.fst = before.map Prod.fst ++ fields.columns ++ after.map Prod.fst := by
    show (number 1 _).map Prod.fst = _
    rw [map_fst_number, List.map_append, List.map_append, map_fst_sentItem]
  have hnodup : (before.map Prod.fst ++ fields.columns ++ after.map Prod.fst).Nodup := by
    have hperm : (before.map Prod.fst ++ fields.columns ++ after.map Prod.fst).Perm
        (fields.columns ++ (before.map Prod.fst ++ after.map Prod.fst)) := by
      rw [← List.append_assoc]
      exact List.perm_append_comm.append_right _
    rw [hperm.nodup_iff, List.nodup_append]
    refine ⟨fields.columns_nodup, hown, fun column hcolumn other hother heq => ?_⟩
    exact hdisjoint column hcolumn (heq ▸ hother)
  have hnone {columns : List MessageColumn} (h : .id ∉ columns) : columns.find? messagesSchema.generated = none := by
    rw [List.find?_eq_none]
    intro column hcolumn hid
    have heq : column = .id := of_decide_eq_true hid
    exact h (heq ▸ hcolumn)
  unfold Update.check
  rw [hcolumns, if_neg (by simp [numbered, messagesSchema]), if_pos hnodup]
  unfold Schema.refuseGenerated
  rw [List.find?_append, List.find?_append, hnone hbefore, hnone hafter]
  simp

end Fields

/-! ### The row -/

section Row

variable {engine : Engine MessageColumn (Unknown α) Cell} {row : MessageColumn → Cell}

/-- A row is overwritten by columns of its own and given ones, when these are others. -/
theorem overwrite_given {before given after : List (MessageColumn × Cell)} {column : MessageColumn}
    (hdisjoint : ∀ column ∈ given.map Prod.fst, column ∉ before.map Prod.fst) :
    overwrite row (before ++ given ++ after) column =
      (given.lookup column).getD (overwrite row (before ++ after) column) := by
  unfold overwrite
  rw [List.lookup_append, List.lookup_append, List.lookup_append]
  cases hgiven : given.lookup column with
  | none => simp
  | some cell =>
    have hmem : column ∈ given.map Prod.fst := by
      obtain ⟨l, l', rfl, -⟩ := List.lookup_eq_some_iff.1 hgiven
      simp
    have hbefore : before.lookup column = none := by
      rw [List.lookup_eq_none_iff]
      intro pair hpair
      have hne : pair.1 ≠ column := fun heq => hdisjoint column hmem (heq ▸ List.mem_map_of_mem hpair)
      simpa using hne.symm
    rw [hbefore]
    simp

/-- What is set around the fields, and each of the fields to its own cell. -/
theorem fill_fields {fields : FieldsRecord α} {before after : List (MessageItem α)} {cells cells' : List Cell}
    (hcells : cells.length = (sent before).length) (hcells' : cells'.length = fields.defined.length) :
    fill engine row (before ++ fields.defined.map sentItem ++ after) (cells ++ cells') = (do
      let assigned ← fill engine row before cells
      let assigned' ← fill engine row after []
      return assigned ++ fields.columns.zip cells' ++ assigned') := by
  have hlength : (cells ++ cells').length = (sent (before ++ fields.defined.map sentItem)).length := by
    rw [sent_append, sent_fields, List.length_append, List.length_append, hcells, hcells']
  have hfields : fill engine row (fields.defined.map sentItem) cells' = .ok (fields.columns.zip cells') :=
    fill_map_sent hcells'
  have hall := @fill_append _ _ _ engine row _ after _ [] hlength
  rw [List.append_nil] at hall
  rw [hall, fill_append hcells, hfields]
  simp only [bind_assoc, pure_bind]
  rfl

/-- The cells that a transition sets behind the fields. -/
def closingCells (engine : Engine MessageColumn (Unknown α) Cell) (row : MessageColumn → Cell)
    (nextStatus : MessageStatus) (incrementAttempt : Bool) (attemptCount : Cell) : List (MessageColumn × Cell) :=
  (if incrementAttempt then [(.attemptCount, attemptCount)] else []) ++
    ((if nextStatus = .providerAccepted then
        [(.sentAt, firstTime engine (row .sentAt)), (.billingState, engine.quoted .billingState "debited")] else []) ++
      ((if nextStatus = .delivered then [(.deliveredAt, firstTime engine (row .deliveredAt))] else []) ++
        if nextStatus = .failed then [(.failedAt, firstTime engine (row .failedAt))] else []))

theorem fill_closingItems (nextStatus : MessageStatus) (incrementAttempt : Bool) :
    fill engine row (closingItems nextStatus incrementAttempt) [] = (do
      let attemptCount ← attempted engine incrementAttempt (row .attemptCount)
      return closingCells engine row nextStatus incrementAttempt attemptCount) := by
  cases incrementAttempt <;> cases nextStatus <;> rfl

theorem overwrite_own (nextStatus : MessageStatus) (incrementAttempt : Bool) {status version attemptCount : Cell}
    (hattempt : incrementAttempt = false → attemptCount = row .attemptCount) (column : MessageColumn) :
    overwrite row ([(.status, status), (.version, version), (.stateChangedAt, engine.now)] ++
      closingCells engine row nextStatus incrementAttempt attemptCount) column =
        match column with
        | .status => status
        | .version => version
        | .stateChangedAt => engine.now
        | .attemptCount => attemptCount
        | .sentAt => if nextStatus = .providerAccepted then firstTime engine (row .sentAt) else row .sentAt
        | .billingState =>
          if nextStatus = .providerAccepted then engine.quoted .billingState "debited" else row .billingState
        | .deliveredAt => if nextStatus = .delivered then firstTime engine (row .deliveredAt) else row .deliveredAt
        | .failedAt => if nextStatus = .failed then firstTime engine (row .failedAt) else row .failedAt
        | column => row column := by
  cases incrementAttempt with
  | false =>
    rw [hattempt rfl]
    cases column <;> cases nextStatus <;> rfl
  | true => cases column <;> cases nextStatus <;> rfl

theorem fill_opening (status : Unknown α) (cell : Cell) :
    fill engine row [sentItem (.status, status), versionItem, stateChangedItem] [cell] = (do
      let version ← engine.plus (row .version) (engine.number 1)
      return [(.status, cell), (.version, version), (.stateChangedAt, engine.now)]) := by
  show (do
    let assigned ← (do
      let version ← engine.plus (row .version) (engine.number 1)
      return [(MessageColumn.version, version), (.stateChangedAt, engine.now)])
    return (MessageColumn.status, cell) :: assigned) = _
  simp only [bind_assoc, pure_bind]

theorem mem_map_fst_zip {columns : List MessageColumn} {cells : List Cell} {column : MessageColumn}
    (h : column ∈ (columns.zip cells).map Prod.fst) : column ∈ columns := by
  obtain ⟨pair, hpair, rfl⟩ := List.mem_map.1 h
  exact (List.of_mem_zip hpair).1

variable {fields : FieldsRecord α} {cells : List Cell}

/-- The assignments of `patchMessage`, with the cells of the fields. -/
theorem assign_patchItems (hcells : cells.length = fields.defined.length)
    (hown : ∀ column ∈ fields.columns, column ∉ patchColumns) :
    (do
      let assigned ← fill engine row (patchItems fields) cells
      return overwrite row assigned) = patchedCells engine (fields.columns.zip cells) row := by
  have hfill := @fill_fields _ _ engine row fields [versionItem, stateChangedItem] [] [] cells rfl hcells
  have hopening : fill engine row [versionItem, stateChangedItem] [] = (do
      let version ← engine.plus (row .version) (engine.number 1)
      return [(.version, version), (.stateChangedAt, engine.now)]) := rfl
  rw [List.append_nil, List.nil_append, hopening] at hfill
  unfold patchItems patchedCells
  rw [hfill]
  simp only [bind_assoc, pure_bind]
  refine congrArg _ (funext fun version => congrArg Except.ok (funext fun column => ?_))
  have hdisjoint : ∀ column ∈ (fields.columns.zip cells).map Prod.fst,
      column ∉ [(MessageColumn.version, version), (.stateChangedAt, engine.now)].map Prod.fst :=
    fun column hcolumn => hown column (mem_map_fst_zip hcolumn)
  rw [overwrite_given hdisjoint]
  cases column <;> rfl

/-- The assignments of `transitionMessage`, with the cells of the status and of the fields. -/
theorem assign_transitionItems (hcells : cells.length = fields.defined.length) {nextStatus : MessageStatus}
    {incrementAttempt : Bool} (hown : ∀ column ∈ fields.columns, column ∉ transitionColumns nextStatus incrementAttempt)
    (status : Cell) :
    (do
      let assigned ← fill engine row (transitionItems fields nextStatus incrementAttempt) (status :: cells)
      return overwrite row assigned) =
        transitionedCells engine nextStatus incrementAttempt status (fields.columns.zip cells) row := by
  have hfill : fill engine row (transitionItems fields nextStatus incrementAttempt) (status :: cells) = _ :=
    @fill_fields _ _ engine row fields [sentItem (.status, .text nextStatus.text), versionItem, stateChangedItem]
      (closingItems nextStatus incrementAttempt) [status] cells rfl hcells
  rw [fill_opening, fill_closingItems] at hfill
  unfold transitionedCells
  rw [hfill]
  simp only [bind_assoc, pure_bind]
  refine congrArg _ (funext fun version => ?_)
  cases hattempt : attempted engine incrementAttempt (row .attemptCount) with
  | error fault => rfl
  | ok attemptCount =>
    refine congrArg Except.ok (funext fun column => ?_)
    have hkept : incrementAttempt = false → attemptCount = row .attemptCount := by
      rintro rfl
      exact (Except.ok.inj hattempt).symm
    have hdisjoint : ∀ column ∈ (fields.columns.zip cells).map Prod.fst,
        column ∉ [(.status, status), (.version, version), (.stateChangedAt, engine.now)].map Prod.fst :=
      fun column hcolumn hopening => hown column (mem_map_fst_zip hcolumn) (List.mem_append_left _ hopening)
    rw [overwrite_given hdisjoint, overwrite_own _ _ hkept]

end Row

/-! ### The statements -/

section Statements

variable {engine : Engine MessageColumn (Unknown α) Cell} {message : HeldMessage α}

theorem receive_guard : (message.guard.mapM fun pair => engine.receive pair.1 pair.2) = (do
    let key ← receiveGuard engine message
    return key.cells) := by
  simp only [HeldMessage.guard, List.mapM_cons, List.mapM_nil, receiveGuard, bind_assoc, pure_bind]
  rfl

theorem guarded_cells (key : GuardCells Cell) :
    guarded engine (message.guard.map Prod.fst) key.cells = key.isOf engine := by
  funext row
  simp [guarded, HeldMessage.guard, GuardCells.cells, GuardCells.isOf, Bool.and_assoc]

theorem bindsOwn_numbered {statement : SqlStatement α} {items : List (MessageItem α)}
    {guard : List (MessageColumn × Unknown α)}
    (hstatement : statement? messagesSchema statement.text.toList =
      some (numbered "messages" items guard returningColumns))
    (hvalues : statement.values = (sent items ++ guard).map Prod.snd) : BindsOwn statement (sent items ++ guard) := by
  refine ⟨_, hstatement, ?_, ?_, hvalues⟩
  · rw [placeholders_numbered, List.zipIdx_map_snd, hvalues, List.length_map, List.length_map]
  · rw [placeholders_numbered, List.zipIdx_map_fst]

variable {fields : FieldsRecord α} {nextStatus : MessageStatus} {incrementAttempt : Bool}

theorem sent_patchItems : sent (patchItems fields) = fields.defined := by
  unfold patchItems
  rw [sent_append, sent_fields]
  rfl

theorem sent_transitionItems : sent (transitionItems fields nextStatus incrementAttempt) =
    (.status, .text nextStatus.text) :: fields.defined := by
  unfold transitionItems
  rw [sent_append, sent_append, sent_fields, sent_closingItems, List.append_nil]
  rfl

theorem check_patchItems (hown : ∀ column ∈ fields.columns, column ∉ patchColumns) :
    (numbered "messages" (patchItems fields) message.guard returningColumns).check messagesSchema =
      messagesSchema.refuseGenerated fields.columns := by
  have hopening : ([versionItem, stateChangedItem] : List (MessageItem α)).map Prod.fst = patchColumns := rfl
  have hcheck := @check_numbered _ fields [versionItem, stateChangedItem] []
    (by rw [hopening, List.map_nil, List.append_nil]; decide) (by rwa [hopening, List.map_nil, List.append_nil])
    (by rw [hopening]; decide) List.not_mem_nil message.guard returningColumns
  rwa [List.append_nil] at hcheck

theorem check_transitionItems (hown : ∀ column ∈ fields.columns, column ∉ transitionColumns nextStatus incrementAttempt) :
    (numbered "messages" (transitionItems fields nextStatus incrementAttempt) message.guard returningColumns).check
      messagesSchema = messagesSchema.refuseGenerated fields.columns := by
  have hopening : ([sentItem (.status, .text nextStatus.text), versionItem, stateChangedItem] : List (MessageItem α)).map
      Prod.fst = [.status, .version, .stateChangedAt] := rfl
  refine check_numbered ?_ ?_ ?_ ?_ _ _
  · rw [hopening, map_fst_closingItems]
    cases incrementAttempt <;> cases nextStatus <;> decide
  · rwa [hopening, map_fst_closingItems]
  · rw [hopening]
    decide
  · intro hid
    have hmem : .id ∈ transitionColumns nextStatus incrementAttempt := by
      rw [← map_fst_closingItems]
      exact List.mem_append_right _ hid
    revert hmem
    cases incrementAttempt <;> cases nextStatus <;> decide

theorem execute_patchStatement (rows : List (MessageColumn → Cell))
    (hown : ∀ column ∈ fields.columns, column ∉ patchColumns) :
    execute messagesSchema engine rows (patchStatement message fields).text.toList (patchStatement message fields).values =
      intendedPatch engine message fields rows := by
  obtain ⟨hstatement, hvalues⟩ := statement_patchStatement message fields
  unfold execute intendedPatch receiveFields
  simp only [hstatement]
  rw [hvalues, run_numbered, check_patchItems hown, sent_patchItems, receive_guard, receive_fields]
  simp only [bind_assoc, pure_bind]
  refine bind_congr fun _ => except_bind_congr fun cells hcells => bind_congr fun key => ?_
  rw [guarded_cells, funext fun row => assign_patchItems (length_of_mapM hcells) hown]
  rfl

theorem execute_transitionStatement (rows : List (MessageColumn → Cell))
    (hown : ∀ column ∈ fields.columns, column ∉ transitionColumns nextStatus incrementAttempt) :
    execute messagesSchema engine rows (transitionStatement message fields nextStatus incrementAttempt).text.toList
      (transitionStatement message fields nextStatus incrementAttempt).values =
        intendedTransition engine message fields nextStatus incrementAttempt rows := by
  obtain ⟨hstatement, hvalues⟩ := statement_transitionStatement message fields nextStatus incrementAttempt
  unfold execute intendedTransition receiveFields
  simp only [hstatement]
  rw [hvalues, run_numbered, check_transitionItems hown, sent_transitionItems, receive_guard, receive_fields,
    List.mapM_cons]
  simp only [bind_assoc, pure_bind]
  refine bind_congr fun _ => bind_congr fun status => except_bind_congr fun cells hcells => bind_congr fun key => ?_
  rw [guarded_cells, funext fun row => assign_transitionItems (length_of_mapM hcells) hown status]
  rfl

end Statements

end SmsPlatform
