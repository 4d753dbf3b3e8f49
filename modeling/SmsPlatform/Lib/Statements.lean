import SmsPlatform.Lib.Tokens

/-!
# UPDATE statements

The part of SQL that an UPDATE with placeholders needs: expressions of one operand, a sum or a COALESCE of two, conditions
that compare a column with a placeholder, and a list of returned columns.  The parser reads tokens, and finds the column
that a name stands for by `column?`; what is written in tokens is read again (`parse_tokens`).
-/

namespace Sql

variable {γ : Type}

inductive Operand (γ : Type)
  | parameter (n : Nat)
  | column (column : γ)
  | number (n : Nat)
  | quoted (text : String)
  | now

inductive Expression (γ : Type)
  | operand (a : Operand γ)
  | plus (a b : Operand γ)
  | coalesce (a b : Operand γ)

/-- `UPDATE … SET … WHERE … RETURNING …`; a condition is a column and the number of a placeholder. -/
structure Update (γ : Type) where
  table : String
  assignments : List (γ × Expression γ)
  conditions : List (γ × Nat)
  returning : List γ

/-! ### Writing -/

section Writing

variable (name : γ → String)

def Operand.tokens : Operand γ → List Token
  | .parameter n => [.parameter n]
  | .column c => [.word (name c)]
  | .number n => [.number n]
  | .quoted text => [.quoted text]
  | .now => [.word "now", .symbol '(', .symbol ')']

def Expression.tokens : Expression γ → List Token
  | .operand a => a.tokens name
  | .plus a b => a.tokens name ++ .symbol '+' :: b.tokens name
  | .coalesce a b =>
    .word "coalesce" :: .symbol '(' :: (a.tokens name ++ .symbol ',' :: (b.tokens name ++ [.symbol ')']))

def assignmentTokens (assignment : γ × Expression γ) : List Token :=
  .word (name assignment.1) :: .symbol '=' :: assignment.2.tokens name

def conditionTokens (condition : γ × Nat) : List Token :=
  [.word (name condition.1), .symbol '=', .parameter condition.2]

def columnTokens (column : γ) : List Token := [.word (name column)]

def Update.tokens (update : Update γ) : List Token :=
  .word "update" :: .word update.table :: .word "set" ::
    ([.symbol ','].intercalate (update.assignments.map (assignmentTokens name)) ++
      .word "where" :: ([.word "and"].intercalate (update.conditions.map (conditionTokens name)) ++
        .word "returning" :: [.symbol ','].intercalate (update.returning.map (columnTokens name))))

end Writing

/-! ### Reading -/

section Reading

variable {α : Type} (column? : String → Option γ)

def expect (token : Token) : List Token → Option (List Token)
  | [] => none
  | first :: rest => if first = token then some rest else none

def parseName : List Token → Option (String × List Token)
  | .word name :: rest => some (name, rest)
  | _ => none

def parseColumn (tokens : List Token) : Option (γ × List Token) := do
  let (name, rest) ← parseName tokens
  let column ← column? name
  return (column, rest)

def parseOperand : List Token → Option (Operand γ × List Token)
  | .parameter n :: rest => some (.parameter n, rest)
  | .number n :: rest => some (.number n, rest)
  | .quoted text :: rest => some (.quoted text, rest)
  | .word name :: rest =>
    if rest.head? = some (.symbol '(') then
      if name = "now" then (expect (.symbol ')') rest.tail).map fun rest => (.now, rest) else none
    else (column? name).map fun column => (.column column, rest)
  | _ => none

def parseExpression (tokens : List Token) : Option (Expression γ × List Token) :=
  if tokens.take 2 = [.word "coalesce", .symbol '('] then do
    let (a, rest) ← parseOperand column? (tokens.drop 2)
    let rest ← expect (.symbol ',') rest
    let (b, rest) ← parseOperand column? rest
    let rest ← expect (.symbol ')') rest
    return (.coalesce a b, rest)
  else do
    let (a, rest) ← parseOperand column? tokens
    if rest.head? = some (.symbol '+') then do
      let (b, rest) ← parseOperand column? rest.tail
      return (.plus a b, rest)
    else return (.operand a, rest)

def parseAssignment (tokens : List Token) : Option ((γ × Expression γ) × List Token) := do
  let (column, rest) ← parseColumn column? tokens
  let rest ← expect (.symbol '=') rest
  let (expression, rest) ← parseExpression column? rest
  return ((column, expression), rest)

def parseParameter : List Token → Option (Nat × List Token)
  | .parameter n :: rest => some (n, rest)
  | _ => none

def parseCondition (tokens : List Token) : Option ((γ × Nat) × List Token) := do
  let (column, rest) ← parseColumn column? tokens
  let rest ← expect (.symbol '=') rest
  let (n, rest) ← parseParameter rest
  return ((column, n), rest)

/-- One or more items with a separator between them; the fuel bounds their number. -/
def parseList (item : List Token → Option (α × List Token)) (separator : Token) :
    Nat → List Token → Option (List α × List Token)
  | 0, _ => none
  | fuel + 1, tokens => do
    let (first, rest) ← item tokens
    if rest.head? = some separator then do
      let (items, rest) ← parseList item separator fuel rest.tail
      return (first :: items, rest)
    else return ([first], rest)

def parse (tokens : List Token) : Option (Update γ) := do
  let rest ← expect (.word "update") tokens
  let (table, rest) ← parseName rest
  let rest ← expect (.word "set") rest
  let (assignments, rest) ← parseList (parseAssignment column?) (.symbol ',') rest.length rest
  let rest ← expect (.word "where") rest
  let (conditions, rest) ← parseList (parseCondition column?) (.word "and") rest.length rest
  let rest ← expect (.word "returning") rest
  let (returning, rest) ← parseList (parseColumn column?) (.symbol ',') rest.length rest
  if rest = [] then return ⟨table, assignments, conditions, returning⟩ else none

end Reading

/-! ### What is written is read -/

section RoundTrip

variable {α : Type} {name : γ → String} {column? : String → Option γ}

@[simp] theorem expect_cons (token : Token) (rest : List Token) : expect token (token :: rest) = some rest := by
  simp [expect]

theorem length_le_intercalate {write : α → List Token} (hwrite : ∀ x, write x ≠ []) (separator : Token)
    (items : List α) : items.length ≤ ([separator].intercalate (items.map write)).length := by
  induction items with
  | nil => simp
  | cons x items ih =>
    have hpos : 0 < (write x).length := List.length_pos_iff.2 (hwrite x)
    by_cases hlast : items = []
    · subst hlast
      simp only [List.map_cons, List.map_nil, List.intercalate_singleton, List.length_cons, List.length_nil]
      omega
    · rw [List.map_cons, List.intercalate_cons_of_ne_nil (by simpa using hlast)]
      simp only [List.length_cons, List.length_append]
      omega

theorem parseList_intercalate {item : List Token → Option (α × List Token)} {separator : Token}
    {write : α → List Token} {ends : List Token → Prop}
    (hitem : ∀ x rest, ends rest → item (write x ++ rest) = some (x, rest))
    (hseparator : ∀ rest, ends (separator :: rest)) {items : List α} (hne : items ≠ []) {rest : List Token}
    (hends : ends rest) (hrest : rest.head? ≠ some separator) {fuel : Nat} (hfuel : items.length ≤ fuel) :
    parseList item separator fuel ([separator].intercalate (items.map write) ++ rest) = some (items, rest) := by
  induction items generalizing fuel with
  | nil => exact absurd rfl hne
  | cons x items ih =>
    cases fuel with
    | zero => simp at hfuel
    | succ fuel =>
      by_cases hlast : items = []
      · subst hlast
        simp [parseList, hitem x rest hends, hrest]
      · have hmap : items.map write ≠ [] := by simpa using hlast
        have hmore := ih hlast (by simpa using hfuel)
        rw [List.map_cons, List.intercalate_cons_of_ne_nil hmap, List.append_assoc, List.append_assoc]
        simp [parseList, hitem x _ (hseparator _), hmore]

/-- As many tokens as there are items are fuel enough. -/
theorem parseList_written {item : List Token → Option (α × List Token)} {separator : Token}
    {write : α → List Token} {ends : List Token → Prop}
    (hitem : ∀ x rest, ends rest → item (write x ++ rest) = some (x, rest))
    (hseparator : ∀ rest, ends (separator :: rest)) (hwrite : ∀ x, write x ≠ []) {items : List α} (hne : items ≠ [])
    {rest : List Token} (hends : ends rest) (hrest : rest.head? ≠ some separator) :
    parseList item separator ([separator].intercalate (items.map write) ++ rest).length
      ([separator].intercalate (items.map write) ++ rest) = some (items, rest) := by
  have hlength := length_le_intercalate hwrite separator items
  refine parseList_intercalate hitem hseparator hne hends hrest ?_
  rw [List.length_append]
  omega

variable (hname : ∀ column, column? (name column) = some column)
include hname

theorem parseColumn_tokens (column : γ) (rest : List Token) :
    parseColumn column? (columnTokens name column ++ rest) = some (column, rest) := by
  simp [parseColumn, columnTokens, parseName, hname]

theorem parseOperand_tokens (a : Operand γ) {rest : List Token} (hrest : rest.head? ≠ some (.symbol '(')) :
    parseOperand column? (a.tokens name ++ rest) = some (a, rest) := by
  cases a with
  | column column => simp [Operand.tokens, parseOperand, hrest, hname]
  | _ => simp [Operand.tokens, parseOperand]

omit hname in
/-- An operand does not begin a COALESCE. -/
theorem take_operand_ne (a : Operand γ) {rest : List Token} (hrest : rest.head? ≠ some (.symbol '(')) :
    (a.tokens name ++ rest).take 2 ≠ [.word "coalesce", .symbol '('] := by
  cases a with
  | column column =>
    cases rest with
    | nil => simp [Operand.tokens]
    | cons first rest => simpa [Operand.tokens] using fun _ => hrest
  | _ => simp [Operand.tokens]

/-- What may stand behind an expression. -/
def EndsExpression (rest : List Token) : Prop :=
  rest.head? ≠ some (.symbol '(') ∧ rest.head? ≠ some (.symbol '+')

theorem parseExpression_tokens (expression : Expression γ) {rest : List Token} (hrest : EndsExpression rest) :
    parseExpression column? (expression.tokens name ++ rest) = some (expression, rest) := by
  unfold parseExpression
  cases expression with
  | operand a =>
    rw [Expression.tokens, if_neg (take_operand_ne a hrest.1)]
    simp [parseOperand_tokens hname a hrest.1, hrest.2]
  | plus a b =>
    have hplus : (Token.symbol '+' :: (b.tokens name ++ rest)).head? ≠ some (.symbol '(') := by simp
    have hfirst := parseOperand_tokens hname a hplus
    have hsecond := parseOperand_tokens hname b hrest.1
    rw [Expression.tokens, List.append_assoc, List.cons_append, if_neg (take_operand_ne a hplus)]
    simp [hfirst, hsecond]
  | coalesce a b =>
    have hfirst := parseOperand_tokens hname a
      (by simp : (Token.symbol ',' :: (b.tokens name ++ .symbol ')' :: rest)).head? ≠ some (.symbol '('))
    have hsecond := parseOperand_tokens hname b (by simp : (Token.symbol ')' :: rest).head? ≠ some (.symbol '('))
    simp [Expression.tokens, hfirst, hsecond]

theorem parseAssignment_tokens (assignment : γ × Expression γ) {rest : List Token} (hrest : EndsExpression rest) :
    parseAssignment column? (assignmentTokens name assignment ++ rest) = some (assignment, rest) := by
  have hcolumn := parseColumn_tokens hname assignment.1 (.symbol '=' :: (assignment.2.tokens name ++ rest))
  have hexpression := parseExpression_tokens hname assignment.2 hrest
  simp only [columnTokens, List.cons_append, List.nil_append] at hcolumn
  simp [parseAssignment, assignmentTokens, hcolumn, hexpression]

theorem parseCondition_tokens (condition : γ × Nat) (rest : List Token) :
    parseCondition column? (conditionTokens name condition ++ rest) = some (condition, rest) := by
  have hcolumn := parseColumn_tokens hname condition.1 (.symbol '=' :: .parameter condition.2 :: rest)
  simp only [columnTokens, List.cons_append, List.nil_append] at hcolumn
  simp [parseCondition, conditionTokens, hcolumn, parseParameter]

/-- A statement with an assignment, a condition and a returned column. -/
structure Update.Complete (update : Update γ) : Prop where
  assignments : update.assignments ≠ []
  conditions : update.conditions ≠ []
  returning : update.returning ≠ []

theorem parseAssignments_written {assignments : List (γ × Expression γ)} (hne : assignments ≠ []) (rest : List Token) :
    let tokens := [.symbol ','].intercalate (assignments.map (assignmentTokens name)) ++ .word "where" :: rest
    parseList (parseAssignment column?) (.symbol ',') tokens.length tokens = some (assignments, .word "where" :: rest) := by
  refine parseList_written (fun x _ => parseAssignment_tokens hname x) (fun _ => ?_) (fun _ => ?_) hne ?_ ?_
  · simp [EndsExpression]
  · simp [assignmentTokens]
  · simp [EndsExpression]
  · simp

theorem parseConditions_written {conditions : List (γ × Nat)} (hne : conditions ≠ []) (rest : List Token) :
    let tokens := [.word "and"].intercalate (conditions.map (conditionTokens name)) ++ .word "returning" :: rest
    parseList (parseCondition column?) (.word "and") tokens.length tokens =
      some (conditions, .word "returning" :: rest) := by
  have hitem (x : γ × Nat) (rest : List Token) (_ : True) := parseCondition_tokens hname x rest
  refine parseList_written hitem (fun _ => trivial) (fun _ => ?_) hne trivial ?_
  · simp [conditionTokens]
  · simp

theorem parseReturning_written {returning : List γ} (hne : returning ≠ []) :
    let tokens := [.symbol ','].intercalate (returning.map (columnTokens name))
    parseList (parseColumn column?) (.symbol ',') tokens.length tokens = some (returning, []) := by
  have hitem (x : γ) (rest : List Token) (_ : True) := parseColumn_tokens hname x rest
  have h := @parseList_written _ _ (.symbol ',') _ _ hitem (fun _ => trivial) (by simp [columnTokens]) returning hne []
    trivial (by simp)
  rwa [List.append_nil] at h

/-- The parser reads what a statement is written as. -/
theorem parse_tokens (update : Update γ) (hcomplete : update.Complete) :
    parse column? (update.tokens name) = some update := by
  have hassignments := parseAssignments_written hname hcomplete.assignments
  have hconditions := parseConditions_written hname hcomplete.conditions
  have hreturning := parseReturning_written hname hcomplete.returning
  dsimp only at hassignments hconditions hreturning
  unfold parse Update.tokens
  simp only [expect_cons, parseName, hassignments, hconditions, hreturning, Option.bind_eq_bind, Option.bind_some,
    if_true, Option.pure_def]

end RoundTrip

end Sql
