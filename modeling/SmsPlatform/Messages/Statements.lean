import SmsPlatform.Lib.Updates
import SmsPlatform.Messages.Dates

/-!
# The text of the guarded updates

`patchMessage` and `transitionMessage` put their UPDATE together as a text: one assignment for every field that is given,
with a running number for its placeholder, and five conditions whose numbers go on from there.  What the builder has
written and the values it has collected belong together after every step (`UpdateBuilder.Builds`), so the text is that of
a numbered statement.
-/

namespace SmsPlatform

open Sql

/-! ### The table -/

/-- The columns of `messages`. -/
inductive MessageColumn
  | id | submitDate | tenantId | campaignId | clientMessageId | apiIdempotencyKey | sourceAddr | phoneNumber | body
  | encoding | messageParts | trafficType | priority | status | billingState | providerId | smppConfigId | routeRuleId
  | providerMessageId | priceMinor | costMinor | currency | attemptCount | lastErrorCode | lastErrorMessage | acceptedAt
  | sentAt | deliveredAt | failedAt | metadata | apiKeyId | templateRef | bodyHash | version | stateChangedAt
  deriving DecidableEq

namespace MessageColumn

def name : MessageColumn → String
  | id => "id"
  | submitDate => "submit_date"
  | tenantId => "tenant_id"
  | campaignId => "campaign_id"
  | clientMessageId => "client_message_id"
  | apiIdempotencyKey => "api_idempotency_key"
  | sourceAddr => "source_addr"
  | phoneNumber => "phone_number"
  | body => "body"
  | encoding => "encoding"
  | messageParts => "message_parts"
  | trafficType => "traffic_type"
  | priority => "priority"
  | status => "status"
  | billingState => "billing_state"
  | providerId => "provider_id"
  | smppConfigId => "smpp_config_id"
  | routeRuleId => "route_rule_id"
  | providerMessageId => "provider_message_id"
  | priceMinor => "price_minor"
  | costMinor => "cost_minor"
  | currency => "currency"
  | attemptCount => "attempt_count"
  | lastErrorCode => "last_error_code"
  | lastErrorMessage => "last_error_message"
  | acceptedAt => "accepted_at"
  | sentAt => "sent_at"
  | deliveredAt => "delivered_at"
  | failedAt => "failed_at"
  | metadata => "metadata"
  | apiKeyId => "api_key_id"
  | templateRef => "template_ref"
  | bodyHash => "body_hash"
  | version => "version"
  | stateChangedAt => "state_changed_at"

def all : List MessageColumn :=
  [id, submitDate, tenantId, campaignId, clientMessageId, apiIdempotencyKey, sourceAddr, phoneNumber, body, encoding,
    messageParts, trafficType, priority, status, billingState, providerId, smppConfigId, routeRuleId, providerMessageId,
    priceMinor, costMinor, currency, attemptCount, lastErrorCode, lastErrorMessage, acceptedAt, sentAt, deliveredAt,
    failedAt, metadata, apiKeyId, templateRef, bodyHash, version, stateChangedAt]

def named? (name : String) : Option MessageColumn := all.find? fun column => column.name == name

theorem named?_name (column : MessageColumn) : named? column.name = some column := by
  cases column <;> rfl

theorem name_word (column : MessageColumn) : isWord column.name.toList = true := by
  cases column <;> rfl

end MessageColumn

/-- The table as the migration creates it; `id` is an identity column that is always generated. -/
def messagesSchema : Schema MessageColumn where
  table := "messages"
  name := MessageColumn.name
  column? := MessageColumn.named?
  generated := fun column => column == .id
  table_word := rfl
  name_word := MessageColumn.name_word
  column?_name := MessageColumn.named?_name

/-- The columns of the RETURNING clause. -/
def returningColumns : List MessageColumn :=
  [.id, .submitDate, .tenantId, .apiKeyId, .clientMessageId, .apiIdempotencyKey, .sourceAddr, .phoneNumber, .body,
    .trafficType, .status, .version, .attemptCount, .providerId, .smppConfigId, .routeRuleId, .providerMessageId,
    .priceMinor, .billingState, .messageParts, .acceptedAt, .sentAt, .deliveredAt, .failedAt, .lastErrorCode,
    .lastErrorMessage]

/-! ### What the two functions are given -/

/-- A value of type `unknown`: a text, or anything else. -/
inductive Unknown (α : Type)
  | text (value : String)
  | other (value : α)

/-- `fields: Record<string, unknown>`; a value that is `undefined` is `none`. -/
structure FieldsRecord (α : Type) where
  entries : List (MessageColumn × Option (Unknown α))
  distinct : (entries.map Prod.fst).Nodup

/-- `Object.entries(fields).filter(([, value]) => value !== undefined)`. -/
def FieldsRecord.defined {α : Type} (fields : FieldsRecord α) : List (MessageColumn × Unknown α) :=
  fields.entries.filterMap fun entry => entry.2.map fun value => (entry.1, value)

/-- The columns that are given a value. -/
def FieldsRecord.columns {α : Type} (fields : FieldsRecord α) : List MessageColumn := fields.defined.map Prod.fst

/-- What the two functions read of the row that is passed in. -/
structure HeldMessage (α : Type) where
  submitDate : DriverValue
  tenantId : Unknown α
  id : Unknown α
  status : MessageStatus
  version : Unknown α

/-- The columns of the WHERE clause and the values they are compared with. -/
def HeldMessage.guard {α : Type} (message : HeldMessage α) : List (MessageColumn × Unknown α) :=
  [(.submitDate, .text (toDateString message.submitDate)), (.tenantId, message.tenantId), (.id, message.id),
    (.status, .text message.status.text), (.version, message.version)]

/-! ### Putting the statement together -/

structure SqlStatement (α : Type) where
  text : String
  values : List (Unknown α)

/-- `assignments`, `values` and `parameterIndex`. -/
structure UpdateBuilder (α : Type) where
  assignments : List String
  values : List (Unknown α)
  parameterIndex : Nat

/-- The template; `assignments.join(', ')` is its only part of varying length. -/
def updateText (assignments : List String) (parameterIndex : Nat) : String :=
  "\n        UPDATE messages\n        SET " ++ ", ".intercalate assignments ++
    "\n        WHERE submit_date = $" ++ parameterIndex.repr ++
    "\n          AND tenant_id = $" ++ (parameterIndex + 1).repr ++
    "\n          AND id = $" ++ (parameterIndex + 2).repr ++
    "\n          AND status = $" ++ (parameterIndex + 3).repr ++
    "\n          AND version = $" ++ (parameterIndex + 4).repr ++
    "\n        RETURNING\n          " ++ ",\n          ".intercalate (returningColumns.map MessageColumn.name) ++ "\n      "

namespace UpdateBuilder

variable {α : Type} (builder : UpdateBuilder α)

/-- The body of the loop over the fields. -/
def push (field : MessageColumn × Unknown α) : UpdateBuilder α where
  assignments := builder.assignments ++ [field.1.name ++ " = $" ++ builder.parameterIndex.repr]
  values := builder.values ++ [field.2]
  parameterIndex := builder.parameterIndex + 1

/-- `assignments.push(assignment)`. -/
def also (assignment : String) : UpdateBuilder α :=
  { builder with assignments := builder.assignments ++ [assignment] }

def statement (message : HeldMessage α) : SqlStatement α where
  text := updateText builder.assignments builder.parameterIndex
  values := builder.values ++ [.text (toDateString message.submitDate), message.tenantId, message.id,
    .text message.status.text, message.version]

end UpdateBuilder

section Building

variable {α : Type} (message : HeldMessage α) (fields : FieldsRecord α) (nextStatus : MessageStatus)
  (incrementAttempt : Bool)

/-- The statement of `patchMessage`. -/
def patchStatement : SqlStatement α :=
  (fields.defined.foldl UpdateBuilder.push ⟨["version = version + 1", "state_changed_at = now()"], [], 1⟩).statement
    message

/-- The statement of `transitionMessage`, for an allowed transition. -/
def transitionStatement : SqlStatement α :=
  let builder : UpdateBuilder α := fields.defined.foldl UpdateBuilder.push
    ⟨["status = $1", "version = version + 1", "state_changed_at = now()"], [.text nextStatus.text], 2⟩
  let builder := if incrementAttempt then builder.also "attempt_count = attempt_count + 1" else builder
  let builder :=
    if nextStatus = .providerAccepted then
      (builder.also "sent_at = COALESCE(sent_at, now())").also "billing_state = 'debited'"
    else builder
  let builder :=
    if nextStatus = .delivered then builder.also "delivered_at = COALESCE(delivered_at, now())" else builder
  let builder := if nextStatus = .failed then builder.also "failed_at = COALESCE(failed_at, now())" else builder
  builder.statement message

end Building

example : (patchStatement ⟨.text "2026-04-01", .text "tenant", .other 7, .routed, .other 3⟩
      ⟨[(.attemptCount, some (.other 2)), (.costMinor, none), (.lastErrorCode, some (.other 0))], by decide⟩ :
        SqlStatement Nat).values.length = 7 := by decide

/-! ### What the texts say -/

abbrev MessageItem (α : Type) := MessageColumn × Source MessageColumn (Unknown α)

section Items

variable {α : Type}

def versionItem : MessageItem α := (.version, .computed (.plus (.column .version) (.number 1)) rfl)

def stateChangedItem : MessageItem α := (.stateChangedAt, .computed (.operand .now) rfl)

def attemptItem : MessageItem α := (.attemptCount, .computed (.plus (.column .attemptCount) (.number 1)) rfl)

def debitedItem : MessageItem α := (.billingState, .computed (.operand (.quoted "debited")) rfl)

/-- A time that is set to `now()` unless it is set already. -/
def firstTimeItem (column : MessageColumn) : MessageItem α := (column, .computed (.coalesce (.column column) .now) rfl)

def sentItem (field : MessageColumn × Unknown α) : MessageItem α := (field.1, .sent field.2)

/-- What `patchMessage` sets. -/
def patchItems (fields : FieldsRecord α) : List (MessageItem α) :=
  [versionItem, stateChangedItem] ++ fields.defined.map sentItem

/-- What `transitionMessage` sets after the fields. -/
def closingItems (nextStatus : MessageStatus) (incrementAttempt : Bool) : List (MessageItem α) :=
  (if incrementAttempt then [attemptItem] else []) ++
    ((if nextStatus = .providerAccepted then [firstTimeItem .sentAt, debitedItem] else []) ++
      ((if nextStatus = .delivered then [firstTimeItem .deliveredAt] else []) ++
        if nextStatus = .failed then [firstTimeItem .failedAt] else []))

/-- What `transitionMessage` sets. -/
def transitionItems (fields : FieldsRecord α) (nextStatus : MessageStatus) (incrementAttempt : Bool) :
    List (MessageItem α) :=
  [sentItem (.status, .text nextStatus.text), versionItem, stateChangedItem] ++ fields.defined.map sentItem ++
    closingItems nextStatus incrementAttempt

end Items

/-- The text of an assignment. -/
def Spells (text : String) (assignment : MessageColumn × Expression MessageColumn) : Prop :=
  lex text.toList = some (assignmentTokens MessageColumn.name assignment)

/-- What has been pushed is what the items say, with their placeholders numbered from 1 on. -/
structure UpdateBuilder.Builds {α : Type} (builder : UpdateBuilder α) (items : List (MessageItem α)) : Prop where
  assignments : List.Forall₂ Spells builder.assignments (number 1 items)
  values : builder.values = (sent items).map Prod.snd
  parameterIndex : builder.parameterIndex = (sent items).length + 1

theorem repr_toList (n : Nat) : n.repr.toList = Decimal.digits n := by simp [Nat.repr, Decimal.digits]

/-- `column = $n`. -/
theorem lex_comparison (column : MessageColumn) (n : Nat) :
    lex (column.name ++ " = $" ++ n.repr).toList = some [.word column.name, .symbol '=', .parameter n] := by
  have hword : lex column.name.toList = some [.word column.name] := by
    rw [lex_word column.name_word, String.ofList_toList]
  have hrest : lex (' ' :: '=' :: ' ' :: '$' :: Decimal.digits n) = some [.symbol '=', .parameter n] := by
    rw [lex_whitespace rfl, lex_symbol rfl, lex_whitespace rfl, lex_parameter]
    rfl
  have htext : (column.name ++ " = $" ++ n.repr).toList =
      column.name.toList ++ ' ' :: '=' :: ' ' :: '$' :: Decimal.digits n := by
    simp only [String.toList_append, repr_toList, List.append_assoc]
    rfl
  rw [htext]
  exact lex_append hword rfl hrest

section Builds

variable {α : Type} {builder : UpdateBuilder α} {items : List (MessageItem α)}

theorem UpdateBuilder.Builds.push (h : builder.Builds items) (field : MessageColumn × Unknown α) :
    (builder.push field).Builds (items ++ [sentItem field]) := by
  have hspells : Spells (field.1.name ++ " = $" ++ builder.parameterIndex.repr)
      (field.1, .operand (.parameter (1 + (sent items).length))) := by
    rw [h.parameterIndex, Nat.add_comm]
    exact lex_comparison field.1 _
  constructor
  · rw [number_append]
    exact List.rel_append h.assignments (.cons hspells .nil)
  · rw [sent_append, List.map_append, ← h.values]
    rfl
  · rw [sent_append, List.length_append]
    show builder.parameterIndex + 1 = _
    rw [h.parameterIndex]
    rfl

/-- The loop over the fields. -/
theorem UpdateBuilder.Builds.foldl (h : builder.Builds items) (defined : List (MessageColumn × Unknown α)) :
    (defined.foldl UpdateBuilder.push builder).Builds (items ++ defined.map sentItem) := by
  induction defined generalizing builder items with
  | nil => simpa using h
  | cons field defined ih =>
    have hstep := ih (h.push field)
    rwa [List.append_assoc] at hstep

theorem UpdateBuilder.Builds.also (h : builder.Builds items) {column : MessageColumn}
    {expression : Expression MessageColumn} {closed : expression.parameters = []} {assignment : String}
    (hspells : Spells assignment (column, expression)) :
    (builder.also assignment).Builds (items ++ [(column, .computed expression closed)]) := by
  constructor
  · rw [number_append]
    exact List.rel_append h.assignments (.cons hspells .nil)
  · rw [sent_append]
    show builder.values = (sent items ++ []).map Prod.snd
    rw [List.append_nil, h.values]
  · rw [sent_append]
    show builder.parameterIndex = (sent items ++ []).length + 1
    rw [List.append_nil, h.parameterIndex]

/-- Assignments that are pushed under a condition. -/
theorem UpdateBuilder.Builds.when (h : builder.Builds items) {builder' : UpdateBuilder α} {more : List (MessageItem α)}
    (h' : builder'.Builds (items ++ more)) (p : Prop) [Decidable p] :
    (if p then builder' else builder).Builds (items ++ if p then more else []) := by
  split
  · exact h'
  · rwa [List.append_nil]

theorem UpdateBuilder.Builds.attempted (h : builder.Builds items) (incrementAttempt : Bool) :
    (if incrementAttempt then builder.also "attempt_count = attempt_count + 1" else builder).Builds
      (items ++ if incrementAttempt then [attemptItem] else []) := by
  have hspells : Spells "attempt_count = attempt_count + 1"
      (.attemptCount, .plus (.column .attemptCount) (.number 1)) := rfl
  exact h.when (h.also hspells) _

theorem UpdateBuilder.Builds.accepted (h : builder.Builds items) (nextStatus : MessageStatus) :
    (if nextStatus = .providerAccepted then
      (builder.also "sent_at = COALESCE(sent_at, now())").also "billing_state = 'debited'" else builder).Builds
        (items ++ if nextStatus = .providerAccepted then [firstTimeItem .sentAt, debitedItem] else []) := by
  have hsent : Spells "sent_at = COALESCE(sent_at, now())" (.sentAt, .coalesce (.column .sentAt) .now) := rfl
  have hdebited : Spells "billing_state = 'debited'" (.billingState, .operand (.quoted "debited")) := rfl
  refine h.when ?_ _
  have hfirst : (builder.also "sent_at = COALESCE(sent_at, now())").Builds (items ++ [firstTimeItem .sentAt]) :=
    h.also hsent
  have hboth : ((builder.also "sent_at = COALESCE(sent_at, now())").also "billing_state = 'debited'").Builds
      (items ++ [firstTimeItem .sentAt] ++ [debitedItem]) := hfirst.also hdebited
  rwa [List.append_assoc] at hboth

theorem UpdateBuilder.Builds.delivered (h : builder.Builds items) (nextStatus : MessageStatus) :
    (if nextStatus = .delivered then builder.also "delivered_at = COALESCE(delivered_at, now())" else builder).Builds
      (items ++ if nextStatus = .delivered then [firstTimeItem .deliveredAt] else []) := by
  have hspells : Spells "delivered_at = COALESCE(delivered_at, now())"
      (.deliveredAt, .coalesce (.column .deliveredAt) .now) := rfl
  exact h.when (h.also hspells) _

theorem UpdateBuilder.Builds.failed (h : builder.Builds items) (nextStatus : MessageStatus) :
    (if nextStatus = .failed then builder.also "failed_at = COALESCE(failed_at, now())" else builder).Builds
      (items ++ if nextStatus = .failed then [firstTimeItem .failedAt] else []) := by
  have hspells : Spells "failed_at = COALESCE(failed_at, now())" (.failedAt, .coalesce (.column .failedAt) .now) := rfl
  exact h.when (h.also hspells) _

/-- The assignments, joined. -/
theorem lex_assignments {assignments : List String} {expressions : List (MessageColumn × Expression MessageColumn)}
    (h : List.Forall₂ Spells assignments expressions) :
    lex (", ".intercalate assignments).toList =
      some ([.symbol ','].intercalate (expressions.map (assignmentTokens MessageColumn.name))) := by
  have hseparator : ", ".toList = ',' :: [' '] := rfl
  rw [String.toList_intercalate, hseparator]
  refine lex_intercalate ?_ rfl rfl (List.all_eq_true.1 rfl)
  rw [List.forall₂_map_left_iff, List.forall₂_map_right_iff]
  exact h

theorem lex_returning : lex (",\n          ".intercalate (returningColumns.map MessageColumn.name)).toList =
    some ([.symbol ','].intercalate (returningColumns.map (columnTokens MessageColumn.name))) := by
  have hseparator : ",\n          ".toList = ',' :: "\n          ".toList := rfl
  rw [String.toList_intercalate, hseparator]
  refine lex_intercalate ?_ rfl rfl (List.all_eq_true.1 rfl)
  rw [List.map_map, List.forall₂_map_left_iff, List.forall₂_map_right_iff, List.forall₂_same]
  intro column _
  have hword := lex_word column.name_word
  rwa [String.ofList_toList] at hword

/-- The numbers of the conditions, from the index on. -/
def conditionsFrom (parameterIndex : Nat) : List (MessageColumn × Nat) :=
  [(.submitDate, parameterIndex), (.tenantId, parameterIndex + 1), (.id, parameterIndex + 2), (.status, parameterIndex + 3),
    (.version, parameterIndex + 4)]

/-- A condition behind the keyword and a space. -/
def conditionText (column : MessageColumn) (n : Nat) : List Char := ' ' :: (column.name ++ " = $" ++ n.repr).toList

theorem lex_conditionText (column : MessageColumn) (n : Nat) :
    lex (conditionText column n) = some (conditionTokens MessageColumn.name (column, n)) :=
  (lex_whitespace rfl _).trans (lex_comparison column n)

/-- The template in pieces, each of which begins with white space. -/
def updatePieces (assignments : List String) (parameterIndex : Nat) : List (List Char) :=
  ['\n' :: "        UPDATE messages\n        SET".toList, ' ' :: (", ".intercalate assignments).toList,
    '\n' :: "        WHERE".toList, conditionText .submitDate parameterIndex,
    '\n' :: "          AND".toList, conditionText .tenantId (parameterIndex + 1),
    '\n' :: "          AND".toList, conditionText .id (parameterIndex + 2),
    '\n' :: "          AND".toList, conditionText .status (parameterIndex + 3),
    '\n' :: "          AND".toList, conditionText .version (parameterIndex + 4),
    '\n' :: "        RETURNING".toList,
    '\n' :: "          ".toList ++ (",\n          ".intercalate (returningColumns.map MessageColumn.name)).toList,
    '\n' :: "      ".toList]

theorem updateText_eq (assignments : List String) (parameterIndex : Nat) :
    (updateText assignments parameterIndex).toList = (updatePieces assignments parameterIndex).flatten := by
  have hhead : "\n        UPDATE messages\n        SET ".toList =
      '\n' :: "        UPDATE messages\n        SET".toList ++ [' '] := rfl
  have hfirst : "\n        WHERE submit_date = $".toList =
      '\n' :: "        WHERE".toList ++ ' ' :: ("submit_date".toList ++ " = $".toList) := rfl
  have htenant : "\n          AND tenant_id = $".toList =
      '\n' :: "          AND".toList ++ ' ' :: ("tenant_id".toList ++ " = $".toList) := rfl
  have hid : "\n          AND id = $".toList =
      '\n' :: "          AND".toList ++ ' ' :: ("id".toList ++ " = $".toList) := rfl
  have hstatus : "\n          AND status = $".toList =
      '\n' :: "          AND".toList ++ ' ' :: ("status".toList ++ " = $".toList) := rfl
  have hversion : "\n          AND version = $".toList =
      '\n' :: "          AND".toList ++ ' ' :: ("version".toList ++ " = $".toList) := rfl
  have hreturning : "\n        RETURNING\n          ".toList =
      '\n' :: "        RETURNING".toList ++ '\n' :: "          ".toList := rfl
  have hend : "\n      ".toList = '\n' :: "      ".toList := rfl
  unfold updateText updatePieces conditionText MessageColumn.name
  simp only [String.toList_append, hhead, hfirst, htenant, hid, hstatus, hversion, hreturning, hend, List.append_assoc,
    List.cons_append, List.nil_append, List.flatten_cons, List.flatten_nil, List.append_nil]

theorem updatePieces_delimited (assignments : List String) (parameterIndex : Nat) :
    ∀ piece ∈ (updatePieces assignments parameterIndex).tail, piece.head?.any isDelimiter = true := by
  simp only [updatePieces, List.tail_cons, List.forall_mem_cons]
  exact ⟨rfl, rfl, rfl, rfl, rfl, rfl, rfl, rfl, rfl, rfl, rfl, rfl, rfl, rfl, fun _ h => absurd h List.not_mem_nil⟩

/-- The template is the statement that its assignments say. -/
theorem lex_updateText {assignments : List String} {expressions : List (MessageColumn × Expression MessageColumn)}
    (h : List.Forall₂ Spells assignments expressions) (parameterIndex : Nat) :
    lex (updateText assignments parameterIndex).toList =
      some (Update.tokens MessageColumn.name
        ⟨"messages", expressions, conditionsFrom parameterIndex, returningColumns⟩) := by
  have hhead : lex ('\n' :: "        UPDATE messages\n        SET".toList) =
      some [.word "update", .word "messages", .word "set"] := rfl
  have hassignments := (lex_whitespace (rfl : ' '.isWhitespace = true) _).trans (lex_assignments h)
  have hwhere : lex ('\n' :: "        WHERE".toList) = some [.word "where"] := rfl
  have hand : lex ('\n' :: "          AND".toList) = some [.word "and"] := rfl
  have hreturning : lex ('\n' :: "        RETURNING".toList) = some [.word "returning"] := rfl
  have hspaces : ∀ c ∈ '\n' :: "          ".toList, c.isWhitespace = true := List.all_eq_true.1 rfl
  have hcolumns := (lex_whitespaces hspaces _).trans lex_returning
  have hend : lex ('\n' :: "      ".toList) = some [] := rfl
  have hpieces : List.Forall₂ (fun piece tokens => lex piece = some tokens) (updatePieces assignments parameterIndex)
      [[.word "update", .word "messages", .word "set"],
        [.symbol ','].intercalate (expressions.map (assignmentTokens MessageColumn.name)),
        [.word "where"], conditionTokens MessageColumn.name (.submitDate, parameterIndex),
        [.word "and"], conditionTokens MessageColumn.name (.tenantId, parameterIndex + 1),
        [.word "and"], conditionTokens MessageColumn.name (.id, parameterIndex + 2),
        [.word "and"], conditionTokens MessageColumn.name (.status, parameterIndex + 3),
        [.word "and"], conditionTokens MessageColumn.name (.version, parameterIndex + 4),
        [.word "returning"], [.symbol ','].intercalate (returningColumns.map (columnTokens MessageColumn.name)), []] :=
    .cons hhead <| .cons hassignments <| .cons hwhere <| .cons (lex_conditionText ..) <|
      .cons hand <| .cons (lex_conditionText ..) <| .cons hand <| .cons (lex_conditionText ..) <|
      .cons hand <| .cons (lex_conditionText ..) <| .cons hand <| .cons (lex_conditionText ..) <|
      .cons hreturning <| .cons hcolumns <| .cons hend .nil
  rw [updateText_eq, lex_flatten hpieces (updatePieces_delimited assignments parameterIndex)]
  simp [Update.tokens, conditionsFrom]

/-- What has been built is the statement of the items, and its values are theirs. -/
theorem UpdateBuilder.Builds.statement (h : builder.Builds items) (hne : items ≠ []) (message : HeldMessage α) :
    statement? messagesSchema (builder.statement message).text.toList =
        some (numbered "messages" items message.guard returningColumns) ∧
      (builder.statement message).values = (sent items ++ message.guard).map Prod.snd := by
  constructor
  · have hassignments : number 1 items ≠ [] := by
      intro hnil
      have hmap := map_fst_number 1 items
      rw [hnil] at hmap
      exact hne (List.map_eq_nil_iff.1 hmap.symm)
    have hcomplete : (⟨"messages", number 1 items, conditionsFrom builder.parameterIndex, returningColumns⟩ :
        Update MessageColumn).Complete := ⟨hassignments, by simp [conditionsFrom], by simp [returningColumns]⟩
    unfold statement?
    show (lex (updateText builder.assignments builder.parameterIndex).toList).bind _ = _
    rw [lex_updateText h.assignments]
    show parse MessageColumn.named? _ = _
    rw [parse_tokens MessageColumn.named?_name _ hcomplete, h.parameterIndex]
    rfl
  · show builder.values ++ message.guard.map Prod.snd = _
    rw [h.values, List.map_append]

end Builds

section Statements

variable {α : Type} (message : HeldMessage α) (fields : FieldsRecord α) (nextStatus : MessageStatus)
  (incrementAttempt : Bool)

theorem statement_patchStatement :
    statement? messagesSchema (patchStatement message fields).text.toList =
        some (numbered "messages" (patchItems fields) message.guard returningColumns) ∧
      (patchStatement message fields).values = (sent (patchItems fields) ++ message.guard).map Prod.snd := by
  have hstart : UpdateBuilder.Builds (α := α) ⟨["version = version + 1", "state_changed_at = now()"], [], 1⟩
      [versionItem, stateChangedItem] := ⟨.cons rfl (.cons rfl .nil), rfl, rfl⟩
  exact (hstart.foldl fields.defined).statement (by simp) message

theorem statement_transitionStatement :
    statement? messagesSchema (transitionStatement message fields nextStatus incrementAttempt).text.toList =
        some (numbered "messages" (transitionItems fields nextStatus incrementAttempt) message.guard returningColumns) ∧
      (transitionStatement message fields nextStatus incrementAttempt).values =
        (sent (transitionItems fields nextStatus incrementAttempt) ++ message.guard).map Prod.snd := by
  have hstart : UpdateBuilder.Builds (α := α)
      ⟨["status = $1", "version = version + 1", "state_changed_at = now()"], [.text nextStatus.text], 2⟩
      [sentItem (.status, .text nextStatus.text), versionItem, stateChangedItem] :=
    ⟨.cons rfl (.cons rfl (.cons rfl .nil)), rfl, rfl⟩
  have hfields := hstart.foldl fields.defined
  have hclosed := (((hfields.attempted incrementAttempt).accepted nextStatus).delivered nextStatus).failed nextStatus
  simp only [List.append_assoc] at hclosed
  have hitems : transitionItems fields nextStatus incrementAttempt =
      [sentItem (.status, .text nextStatus.text), versionItem, stateChangedItem] ++
        (fields.defined.map sentItem ++ closingItems nextStatus incrementAttempt) := by
    unfold transitionItems
    rw [List.append_assoc]
  rw [hitems]
  exact hclosed.statement (by simp) message

end Statements

end SmsPlatform
