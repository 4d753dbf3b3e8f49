import SmsPlatform.Messages.StateMachine
import SmsPlatform.Messages.Updates
import SmsPlatform.Routing.Routing

/-!
# The guarded updates on message rows

`Messages.StateMachine` has the two updates as functions of a `MessageRow`.  Here a row is laid out in the columns of the
table and a `MessageFields` in an array of columns and values, and the texts of `patchMessage` and `transitionMessage`,
executed on the table, make of it what these functions make of the rows (`execute_patchMessage`,
`execute_transitionMessage`); where they find a version conflict, no row is returned (`execute_conflict`).  Over any
database the two texts are the updates that are meant (`guarded_updates_as_intended`).
-/

namespace SmsPlatform

open Sql StateExcept

/-! ### Columns -/

/-- What a column holds. -/
inductive MessageCell
  | null
  | integer (n : Int)
  | text (value : String)
  | time (instant : Timestamp)
  deriving DecidableEq

def MessageCell.plus : MessageCell → MessageCell → Except Fault MessageCell
  | .integer m, .integer n => .ok (.integer (m + n))
  | .null, _ => .ok .null
  | _, .null => .ok .null
  | _, _ => .error (.rejected "operator does not exist")

/-- A column that may be NULL. -/
def MessageCell.nullable {β : Type} (cell : β → MessageCell) : Option β → MessageCell
  | none => .null
  | some x => cell x

/-- A value as the driver sends it: a text, an integer, or NULL. -/
def MessageCell.received : Unknown (Option Int) → MessageCell
  | .text value => .text value
  | .other n => .nullable .integer n

/-- The database within a transaction. -/
def messagesEngine (clock : TxClock) : Engine MessageColumn (Unknown (Option Int)) MessageCell where
  receive := fun _ value => .ok (.received value)
  quoted := fun _ value => .text value
  number := fun n => .integer n
  now := .time clock.now
  isNull := fun cell => decide (cell = .null)
  plus := MessageCell.plus
  equal := fun x y => decide (x ≠ .null ∧ x = y)

def BillingState.text : BillingState → String
  | .pending => "pending"
  | .reserved => "reserved"
  | .debited => "debited"
  | .released => "released"

/-- The columns of a row; those that it does not have are the same for its key at all times. -/
def MessageRow.cells (others : MessageCompositeId → MessageColumn → MessageCell) (row : MessageRow) :
    MessageColumn → MessageCell
  | .id => .integer row.id
  | .submitDate => .text row.submitDate.text
  | .tenantId => .text row.tenantId.text
  | .campaignId => .nullable (fun n : Nat => .integer n) row.campaignId
  | .apiKeyId => .nullable .text row.apiKeyId
  | .clientMessageId => .nullable .text row.clientMessageId
  | .apiIdempotencyKey => .nullable .text row.apiIdempotencyKey
  | .sourceAddr => .nullable .text row.sourceAddr
  | .phoneNumber => .text row.phoneNumber
  | .body => .text row.body
  | .bodyHash => .nullable .text row.bodyHash
  | .messageParts => .integer row.messageParts
  | .trafficType => .text row.trafficType.text
  | .status => .text row.status.text
  | .billingState => .text row.billingState.text
  | .providerId => .nullable (fun n : Nat => .integer n) row.providerId
  | .smppConfigId => .nullable (fun n : Nat => .integer n) row.smppConfigId
  | .routeRuleId => .nullable (fun n : Nat => .integer n) row.routeRuleId
  | .providerMessageId => .nullable .text row.providerMessageId
  | .priceMinor => .integer row.priceMinor
  | .costMinor => .integer row.costMinor
  | .attemptCount => .integer row.attemptCount
  | .lastErrorCode => .nullable .text row.lastErrorCode
  | .lastErrorMessage => .nullable .text row.lastErrorMessage
  | .acceptedAt => .time row.acceptedAt
  | .sentAt => .nullable .time row.sentAt
  | .deliveredAt => .nullable .time row.deliveredAt
  | .failedAt => .nullable .time row.failedAt
  | .version => .integer row.version
  | .stateChangedAt => .time row.stateChangedAt
  | column => others row.composite column

/-- The row that is passed in, with its date as the driver has delivered it. -/
def MessageRow.held (message : MessageRow) (submitDate : DriverValue) : HeldMessage (Option Int) where
  submitDate := submitDate
  tenantId := .text message.tenantId.text
  id := .other (some message.id)
  status := message.status
  version := .other (some message.version)

/-! ### Fields -/

/-- A value that may be `null`. -/
def Unknown.nullable {α β : Type} (value : β → Unknown (Option α)) : Option β → Unknown (Option α)
  | none => .other none
  | some x => value x

namespace MessageFields

variable (fields : MessageFields)

def entries : List (MessageColumn × Option (Unknown (Option Int))) :=
  [(.attemptCount, fields.attemptCount.map fun n : Nat => .other (some n)),
    (.providerId, fields.providerId.map (.nullable fun n : Nat => .other (some n))),
    (.smppConfigId, fields.smppConfigId.map (.nullable fun n : Nat => .other (some n))),
    (.routeRuleId, fields.routeRuleId.map (.nullable fun n : Nat => .other (some n))),
    (.costMinor, fields.costMinor.map fun n => .other (some n)),
    (.billingState, fields.billingState.map fun state => .text state.text),
    (.providerMessageId, fields.providerMessageId.map (.nullable .text)),
    (.lastErrorCode, fields.lastErrorCode.map (.nullable .text)),
    (.lastErrorMessage, fields.lastErrorMessage.map (.nullable .text))]

theorem entries_distinct : (fields.entries.map Prod.fst).Nodup := by
  have hcolumns : fields.entries.map Prod.fst = [.attemptCount, .providerId, .smppConfigId, .routeRuleId, .costMinor,
      .billingState, .providerMessageId, .lastErrorCode, .lastErrorMessage] := rfl
  rw [hcolumns]
  decide

def record : FieldsRecord (Option Int) := ⟨fields.entries, fields.entries_distinct⟩

end MessageFields

/-- What a column is given. -/
theorem lookup_defined {entries : List (MessageColumn × Option (Unknown (Option Int)))}
    (hdistinct : (entries.map Prod.fst).Nodup) (column : MessageColumn) :
    (entries.filterMap fun entry => entry.2.map fun value => (entry.1, value)).lookup column =
      (entries.lookup column).join := by
  induction entries with
  | nil => rfl
  | cons entry entries ih =>
    obtain ⟨own, value⟩ := entry
    obtain ⟨hnew, hdistinct⟩ := List.nodup_cons.1 hdistinct
    have hrest := ih hdistinct
    by_cases hown : column = own
    · subst hown
      cases value with
      | none =>
        have hnone : entries.lookup column = none := by
          rw [List.lookup_eq_none_iff]
          intro other hother
          have hne : column ≠ other.1 := fun heq => hnew (List.mem_map.2 ⟨other, hother, heq.symm⟩)
          simpa using hne
        simp [hrest, hnone]
      | some value => simp
    · have hbeq : (column == own) = false := by simpa using hown
      cases value with
      | none => simp [List.lookup_cons, hbeq, hrest]
      | some value => simp [List.lookup_cons, hbeq, hrest]

theorem lookup_received (pairs : List (MessageColumn × Unknown (Option Int))) (column : MessageColumn) :
    (pairs.map fun pair => (pair.1, MessageCell.received pair.2)).lookup column =
      (pairs.lookup column).map MessageCell.received := by
  induction pairs with
  | nil => rfl
  | cons pair pairs ih =>
    obtain ⟨own, value⟩ := pair
    by_cases hown : column = own
    · subst hown
      simp
    · have hbeq : (column == own) = false := by simpa using hown
      simp [List.lookup_cons, hbeq, ih]

section Rows

variable {clock : TxClock} {fields : MessageFields} {message row : MessageRow}
  {others : MessageCompositeId → MessageColumn → MessageCell}

def MessageFields.cells (fields : MessageFields) : List (MessageColumn × MessageCell) :=
  fields.record.defined.map fun pair => (pair.1, .received pair.2)

theorem receiveFields_record : receiveFields (messagesEngine clock) fields.record = .ok fields.cells := by
  show (fields.record.defined.mapM fun pair => (pure (pair.1, MessageCell.received pair.2) : Except Fault _)) = _
  rw [List.mapM_pure]
  rfl

theorem lookup_cells (column : MessageColumn) :
    fields.cells.lookup column = (fields.entries.lookup column).join.map MessageCell.received := by
  unfold MessageFields.cells
  rw [lookup_received]
  exact congrArg _ (lookup_defined fields.entries_distinct column)

/-- The columns of a row that is assigned its fields. -/
theorem cells_assign (column : MessageColumn) :
    (fields.cells.lookup column).getD (row.cells others column) = (fields.assign row).cells others column := by
  rw [lookup_cells]
  obtain ⟨attemptCount, providerId, smppConfigId, routeRuleId, costMinor, billingState, providerMessageId, lastErrorCode,
    lastErrorMessage⟩ := fields
  cases column
  case attemptCount => cases attemptCount <;> rfl
  case providerId => rcases providerId with _ | _ | _ <;> rfl
  case smppConfigId => rcases smppConfigId with _ | _ | _ <;> rfl
  case routeRuleId => rcases routeRuleId with _ | _ | _ <;> rfl
  case costMinor => cases costMinor <;> rfl
  case billingState => cases billingState <;> rfl
  case providerMessageId => rcases providerMessageId with _ | _ | _ <;> rfl
  case lastErrorCode => rcases lastErrorCode with _ | _ | _ <;> rfl
  case lastErrorMessage => rcases lastErrorMessage with _ | _ | _ <;> rfl
  all_goals rfl

theorem patchedCells_cells :
    patchedCells (messagesEngine clock) fields.cells (row.cells others) =
      .ok ((patchedRow clock fields row).cells others) := by
  unfold patchedCells
  refine congrArg Except.ok (funext fun column => ?_)
  have hbump := @cells_assign fields (row.bump clock) others column
  rw [← show _ = (patchedRow clock fields row).cells others column from hbump]
  cases column <;> rfl

/-- What `transitionMessage` sets besides the fields. -/
def MessageRow.step (row : MessageRow) (clock : TxClock) (nextStatus : MessageStatus) (incrementAttempt : Bool) :
    MessageRow :=
  { row.bump clock with
    status := nextStatus
    attemptCount := if incrementAttempt then row.attemptCount + 1 else row.attemptCount
    sentAt := if nextStatus = .providerAccepted then some (row.sentAt.getD clock.now) else row.sentAt
    billingState := if nextStatus = .providerAccepted then .debited else row.billingState
    deliveredAt := if nextStatus = .delivered then some (row.deliveredAt.getD clock.now) else row.deliveredAt
    failedAt := if nextStatus = .failed then some (row.failedAt.getD clock.now) else row.failedAt }

variable {nextStatus : MessageStatus} {incrementAttempt : Bool}

theorem transitionedRow_eq_assign (hattempt : incrementAttempt = true → fields.attemptCount = none)
    (hbilling : nextStatus = .providerAccepted → fields.billingState = none) :
    transitionedRow clock nextStatus fields incrementAttempt row =
      fields.assign (row.step clock nextStatus incrementAttempt) := by
  have hcount : (if incrementAttempt then row.attemptCount + 1 else fields.attemptCount.getD row.attemptCount) =
      fields.attemptCount.getD (if incrementAttempt then row.attemptCount + 1 else row.attemptCount) := by
    by_cases h : incrementAttempt = true
    · rw [if_pos h, if_pos h, hattempt h]
      rfl
    · rw [if_neg h, if_neg h]
  have hstate : (if nextStatus = .providerAccepted then .debited else fields.billingState.getD row.billingState) =
      fields.billingState.getD (if nextStatus = .providerAccepted then .debited else row.billingState) := by
    by_cases h : nextStatus = .providerAccepted
    · rw [if_pos h, if_pos h, hbilling h]
      rfl
    · rw [if_neg h, if_neg h]
  simp only [transitionedRow, MessageRow.step, MessageFields.assign, MessageRow.bump, hcount, hstate]

theorem cells_step (column : MessageColumn) :
    (row.step clock nextStatus incrementAttempt).cells others column = match column with
      | .status => .text nextStatus.text
      | .version => .integer (row.version + 1 : Nat)
      | .stateChangedAt => .time clock.now
      | .attemptCount => .integer (if incrementAttempt then row.attemptCount + 1 else row.attemptCount : Nat)
      | .sentAt =>
        if nextStatus = .providerAccepted then firstTime (messagesEngine clock) (.nullable .time row.sentAt)
        else .nullable .time row.sentAt
      | .billingState => if nextStatus = .providerAccepted then .text "debited" else .text row.billingState.text
      | .deliveredAt =>
        if nextStatus = .delivered then firstTime (messagesEngine clock) (.nullable .time row.deliveredAt)
        else .nullable .time row.deliveredAt
      | .failedAt =>
        if nextStatus = .failed then firstTime (messagesEngine clock) (.nullable .time row.failedAt)
        else .nullable .time row.failedAt
      | column => row.cells others column := by
  have htime (time : Option Timestamp) :
      firstTime (messagesEngine clock) (.nullable .time time) = .nullable .time (some (time.getD clock.now)) := by
    cases time <;> rfl
  simp only [htime]
  cases column <;> cases nextStatus <;> rfl

theorem transitionedCells_cells (hattempt : incrementAttempt = true → fields.attemptCount = none)
    (hbilling : nextStatus = .providerAccepted → fields.billingState = none) :
    transitionedCells (messagesEngine clock) nextStatus incrementAttempt (.text nextStatus.text) fields.cells
      (row.cells others) = .ok ((transitionedRow clock nextStatus fields incrementAttempt row).cells others) := by
  have hcount : attempted (messagesEngine clock) incrementAttempt (row.cells others .attemptCount) =
      .ok (.integer (if incrementAttempt then row.attemptCount + 1 else row.attemptCount : Nat)) := by
    cases incrementAttempt <;> rfl
  unfold transitionedCells
  rw [hcount, transitionedRow_eq_assign hattempt hbilling]
  refine congrArg Except.ok (funext fun column => ?_)
  rw [← cells_assign, cells_step]
  cases column <;> rfl

/-! ### The given columns -/

/-- A column that is given is one of the entries, with a value. -/
theorem lookup_of_mem_columns {column : MessageColumn} (h : column ∈ fields.record.columns) :
    (fields.entries.lookup column).join.isSome = true := by
  rw [← lookup_defined fields.entries_distinct column, Option.isSome_iff_ne_none]
  intro hnone
  obtain ⟨pair, hpair, rfl⟩ := List.mem_map.1 h
  simpa using List.lookup_eq_none_iff.1 hnone pair hpair

theorem columns_patch : ∀ column ∈ fields.record.columns, column ∉ patchColumns := by
  intro column hcolumn hown
  have hgiven := lookup_of_mem_columns hcolumn
  rcases List.mem_pair.1 hown with rfl | rfl <;> cases hgiven

/-- The attempts are counted up only when the fields do not set them, and an acceptance debits the message itself. -/
theorem columns_transition (hattempt : incrementAttempt = true → fields.attemptCount = none)
    (hbilling : nextStatus = .providerAccepted → fields.billingState = none) :
    ∀ column ∈ fields.record.columns, column ∉ transitionColumns nextStatus incrementAttempt := by
  intro column hcolumn hown
  have hgiven := lookup_of_mem_columns hcolumn
  cases column
  case attemptCount =>
    cases incrementAttempt with
    | true =>
      have hnone : (fields.entries.lookup .attemptCount).join = none := by
        show fields.attemptCount.map _ = none
        rw [hattempt rfl]
        rfl
      rw [hnone] at hgiven
      cases hgiven
    | false => cases nextStatus <;> simp [transitionColumns] at hown
  case billingState =>
    by_cases haccepted : nextStatus = .providerAccepted
    · have hnone : (fields.entries.lookup .billingState).join = none := by
        show fields.billingState.map _ = none
        rw [hbilling haccepted]
        rfl
      rw [hnone] at hgiven
      cases hgiven
    · simp [transitionColumns, haccepted] at hown
  case status | version | stateChangedAt | sentAt | deliveredAt | failedAt => cases hgiven
  all_goals simp [transitionColumns] at hown

theorem refuseGenerated_record : messagesSchema.refuseGenerated fields.record.columns = .ok () := by
  have hid : fields.record.columns.find? messagesSchema.generated = none := by
    rw [List.find?_eq_none]
    intro column hcolumn hgenerated
    obtain rfl : column = .id := of_decide_eq_true hgenerated
    cases lookup_of_mem_columns hcolumn
  unfold Schema.refuseGenerated
  rw [hid]

/-! ### The guard -/

/-- The values that a row of the guard has. -/
def MessageRow.key (message : MessageRow) : GuardCells MessageCell :=
  ⟨.text message.submitDate.text, .text message.tenantId.text, .integer message.id, .text message.status.text,
    .integer message.version⟩

theorem receiveGuard_held {submitDate : DriverValue} (hdate : toDateString submitDate = message.submitDate.text) :
    receiveGuard (messagesEngine clock) (message.held submitDate) = .ok message.key := by
  show Except.ok (⟨.text (toDateString submitDate), _, _, _, _⟩ : GuardCells MessageCell) = _
  rw [hdate]
  rfl

theorem isOf_cells (message row : MessageRow) :
    message.key.isOf (messagesEngine clock) (row.cells others) = guardedBy message row := by
  have hstatus : row.status.text = message.status.text ↔ row.status = message.status := by
    cases row.status <;> cases message.status <;> decide
  have htext (s t : Segments.Segment) : s.text = t.text ↔ s = t := ⟨Segments.Segment.ext_text, congrArg _⟩
  rw [Bool.eq_iff_iff, guardedBy_eq_true, ← hstatus]
  simp [GuardCells.isOf, MessageRow.key, messagesEngine, MessageRow.cells, MessageRow.composite, htext, and_assoc]

/-! ### The table -/

/-- The row that the update of the rows changes is the one that the statement changes. -/
theorem updateRows_cells {db db' : Db} {new : MessageRow} {assign : MessageRow → MessageRow}
    {assignCells : (MessageColumn → MessageCell) → Except Fault (MessageColumn → MessageCell)}
    (hassign : ∀ row, assignCells (row.cells others) = .ok ((assign row).cells others))
    (hkeyed : Rows.Keyed MessageRow.composite db.messages) (update : RowUpdate message assign db db' new) :
    updateRows (message.key.isOf (messagesEngine clock)) assignCells (db.messages.map (MessageRow.cells others)) =
      .ok (db'.messages.map (MessageRow.cells others), [new.cells others]) := by
  obtain ⟨before, old, after, hmessages, hguard, -, -, rfl, rfl⟩ := update
  have hcomposite := (guardedBy_eq_true.1 hguard).1
  rw [hmessages] at hkeyed
  have hkeys : ((before ++ old :: after).map MessageRow.composite).Nodup := hkeyed
  rw [List.map_append, List.map_cons, List.nodup_append] at hkeys
  obtain ⟨-, hafter, hbefore⟩ := hkeys
  have hother (other : MessageRow) (hne : other.composite ≠ old.composite) :
      message.key.isOf (messagesEngine clock) (other.cells others) = false := by
    rw [isOf_cells, Bool.eq_false_iff]
    intro hother
    exact hne ((guardedBy_eq_true.1 hother).1.trans hcomposite.symm)
  rw [hmessages, List.map_append, List.map_cons]
  show _ = Except.ok ((before ++ assign old :: after).map (MessageRow.cells others), [(assign old).cells others])
  rw [List.map_append, List.map_cons]
  refine updateRows_one ?_ ((isOf_cells message old).trans hguard) ?_ (hassign old)
  · rw [List.forall_mem_map]
    exact fun other hmem => hother other (hbefore _ (List.mem_map_of_mem hmem) _ (by simp))
  · rw [List.forall_mem_map]
    exact fun other hmem => hother other fun heq => (List.nodup_cons.1 hafter).1 (heq ▸ List.mem_map_of_mem hmem)

variable {db db' : Db} {new : MessageRow} {submitDate : DriverValue}

/-- The patch of the record, once its values have been read. -/
theorem intendedPatch_held (hdate : toDateString submitDate = message.submitDate.text)
    (rows : List (MessageColumn → MessageCell)) :
    intendedPatch (messagesEngine clock) (message.held submitDate) fields.record rows = (do
      let (rows, changed) ← updateRows (message.key.isOf (messagesEngine clock))
        (patchedCells (messagesEngine clock) fields.cells) rows
      return (rows, changed.map fun row => returningColumns.map row)) := by
  unfold intendedPatch
  rw [refuseGenerated_record, receiveFields_record, receiveGuard_held hdate]
  rfl

/-- The transition of the record, once its values have been read. -/
theorem intendedTransition_held (hdate : toDateString submitDate = message.submitDate.text)
    (rows : List (MessageColumn → MessageCell)) :
    intendedTransition (messagesEngine clock) (message.held submitDate) fields.record nextStatus incrementAttempt rows =
      (do
        let (rows, changed) ← updateRows (message.key.isOf (messagesEngine clock))
          (transitionedCells (messagesEngine clock) nextStatus incrementAttempt (.text nextStatus.text) fields.cells) rows
        return (rows, changed.map fun row => returningColumns.map row)) := by
  unfold intendedTransition
  rw [refuseGenerated_record, receiveFields_record, receiveGuard_held hdate]
  rfl

/-- A patch that succeeds on the rows is what its text does to the table. -/
theorem execute_patchMessage (hkeyed : Rows.Keyed MessageRow.composite db.messages)
    (hdate : toDateString submitDate = message.submitDate.text)
    (h : (patchMessage clock message fields).run db = .ok (new, db')) :
    execute messagesSchema (messagesEngine clock) (db.messages.map (MessageRow.cells others))
      (patchStatement (message.held submitDate) fields.record).text.toList
      (patchStatement (message.held submitDate) fields.record).values =
        .ok (db'.messages.map (MessageRow.cells others), [returningColumns.map (new.cells others)]) := by
  obtain ⟨update⟩ := updateMessage_ok h
  rw [execute_patchStatement _ columns_patch, intendedPatch_held hdate,
    updateRows_cells (fun row => patchedCells_cells) hkeyed update]
  rfl

/-- A transition that succeeds on the rows is what its text does to the table. -/
theorem execute_transitionMessage (hkeyed : Rows.Keyed MessageRow.composite db.messages)
    (hdate : toDateString submitDate = message.submitDate.text)
    (hattempt : incrementAttempt = true → fields.attemptCount = none)
    (hbilling : nextStatus = .providerAccepted → fields.billingState = none)
    (h : (transitionMessage clock message nextStatus fields incrementAttempt).run db = .ok (new, db')) :
    execute messagesSchema (messagesEngine clock) (db.messages.map (MessageRow.cells others))
      (transitionStatement (message.held submitDate) fields.record nextStatus incrementAttempt).text.toList
      (transitionStatement (message.held submitDate) fields.record nextStatus incrementAttempt).values =
        .ok (db'.messages.map (MessageRow.cells others), [returningColumns.map (new.cells others)]) := by
  have hupdate : (updateMessage message (transitionedRow clock nextStatus fields incrementAttempt)).run db =
      .ok (new, db') := by
    unfold transitionMessage at h
    split at h
    · exact h
    · cases h
  obtain ⟨update⟩ := updateMessage_ok hupdate
  rw [execute_transitionStatement _ (columns_transition hattempt hbilling), intendedTransition_held hdate,
    updateRows_cells (fun row => transitionedCells_cells hattempt hbilling) hkeyed update]
  rfl

/-- When the row that is passed in has been changed meanwhile, no row is returned, which the code takes for a version
conflict. -/
theorem execute_conflict (hdate : toDateString submitDate = message.submitDate.text)
    (hattempt : incrementAttempt = true → fields.attemptCount = none)
    (hbilling : nextStatus = .providerAccepted → fields.billingState = none)
    (hconflict : ∀ row ∈ db.messages, guardedBy message row = false) :
    (patchMessage clock message fields).run db = .error (.conflict "Message version conflict") ∧
    execute messagesSchema (messagesEngine clock) (db.messages.map (MessageRow.cells others))
      (patchStatement (message.held submitDate) fields.record).text.toList
      (patchStatement (message.held submitDate) fields.record).values =
        .ok (db.messages.map (MessageRow.cells others), []) ∧
    execute messagesSchema (messagesEngine clock) (db.messages.map (MessageRow.cells others))
      (transitionStatement (message.held submitDate) fields.record nextStatus incrementAttempt).text.toList
      (transitionStatement (message.held submitDate) fields.record nextStatus incrementAttempt).values =
        .ok (db.messages.map (MessageRow.cells others), []) := by
  have hnone : ∀ cells ∈ db.messages.map (MessageRow.cells others),
      message.key.isOf (messagesEngine clock) cells = false := by
    rw [List.forall_mem_map]
    exact fun row hrow => (isOf_cells message row).trans (hconflict row hrow)
  refine ⟨updateMessage_conflict hconflict, ?_, ?_⟩
  · rw [execute_patchStatement _ columns_patch, intendedPatch_held hdate, updateRows_none hnone]
    rfl
  · rw [execute_transitionStatement _ (columns_transition hattempt hbilling), intendedTransition_held hdate,
      updateRows_none hnone]
    rfl

end Rows

/-! ### Over any database -/

/-- Executing the text of either function with its values is the intended update of the rows whose date, tenant, id, status
and version are those of the row passed in; every placeholder is in range, used once, and bound to its own value. -/
theorem guarded_updates_as_intended {α Cell : Type} (engine : Engine MessageColumn (Unknown α) Cell) (rows : List (MessageColumn → Cell))
    (message : HeldMessage α) (fields : FieldsRecord α) :
    ((∀ column ∈ fields.columns, column ∉ patchColumns) →
      execute messagesSchema engine rows (patchStatement message fields).text.toList
        (patchStatement message fields).values = intendedPatch engine message fields rows) ∧
    BindsOwn (patchStatement message fields) (fields.defined ++ message.guard) ∧
    ∀ (nextStatus : MessageStatus) (incrementAttempt : Bool),
      ((∀ column ∈ fields.columns, column ∉ transitionColumns nextStatus incrementAttempt) →
        execute messagesSchema engine rows (transitionStatement message fields nextStatus incrementAttempt).text.toList
          (transitionStatement message fields nextStatus incrementAttempt).values =
            intendedTransition engine message fields nextStatus incrementAttempt rows) ∧
      BindsOwn (transitionStatement message fields nextStatus incrementAttempt)
        ((.status, .text nextStatus.text) :: fields.defined ++ message.guard) := by
  refine ⟨execute_patchStatement rows, ?_, fun nextStatus incrementAttempt => ⟨execute_transitionStatement rows, ?_⟩⟩
  · obtain ⟨hstatement, hvalues⟩ := statement_patchStatement message fields
    rw [← sent_patchItems]
    exact bindsOwn_numbered hstatement hvalues
  · obtain ⟨hstatement, hvalues⟩ := statement_transitionStatement message fields nextStatus incrementAttempt
    rw [← sent_transitionItems]
    exact bindsOwn_numbered hstatement hvalues

namespace Sample

/-- A routed message, as it is stored. -/
def routed : MessageRow where
  id := 1
  submitDate := day
  tenantId := tenant
  campaignId := none
  apiKeyId := none
  clientMessageId := none
  apiIdempotencyKey := none
  sourceAddr := some "SENDER"
  phoneNumber := "+251911234567"
  body := "hello"
  bodyHash := none
  messageParts := 1
  trafficType := .otp
  status := .routed
  billingState := .reserved
  providerId := some 1
  smppConfigId := none
  routeRuleId := some 1
  providerMessageId := none
  priceMinor := 18
  costMinor := 9
  attemptCount := 0
  lastErrorCode := some "timeout"
  lastErrorMessage := none
  acceptedAt := 1
  sentAt := none
  deliveredAt := none
  failedAt := none
  version := 3
  stateChangedAt := 2

/-- Another provider, and no error any more. -/
def attempt : MessageFields := { providerId := some (some 7), lastErrorCode := some none }

end Sample

/-- An attempt changes the message that was read, and it only. -/
theorem guarded_updates_attempt :
    (execute messagesSchema (messagesEngine (Sample.clock 9))
      [{ Sample.routed with id := 2 }.cells fun _ _ => .null, Sample.routed.cells fun _ _ => .null]
      (transitionStatement (Sample.routed.held (.text "2026-01-01")) Sample.attempt.record .submitting true).text.toList
      (transitionStatement (Sample.routed.held (.text "2026-01-01")) Sample.attempt.record .submitting true).values).map
        Prod.snd = .ok [returningColumns.map ({ Sample.routed with
          status := .submitting, attemptCount := 1, providerId := some 7, lastErrorCode := none, version := 4,
          stateChangedAt := 9 }.cells fun _ _ => .null)] := by
  have hown : ∀ column ∈ Sample.attempt.record.columns, column ∉ transitionColumns .submitting true := by decide
  rw [((guarded_updates_as_intended (messagesEngine (Sample.clock 9)) _ _ Sample.attempt.record).2.2 .submitting
    true).1 hown]
  rfl

end SmsPlatform
