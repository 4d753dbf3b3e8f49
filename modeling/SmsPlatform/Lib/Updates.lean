import Mathlib.Data.List.Infix
import SmsPlatform.Lib.StateExcept
import SmsPlatform.Lib.Statements

/-!
# What an UPDATE with placeholders does

A statement is executed with an array of values: `$n` stands for the value at place `n`, which is read as a value of the
column that the placeholder is assigned to or compared with.  The right-hand sides read the old row.  A program that
numbers the placeholders as it goes along (`numbered`), first those of the assignments and then those of the conditions,
executes what it means: every value arrives at its own column (`run_numbered`).
-/

namespace Sql

variable {γ Value Cell : Type}

/-- Why a statement is refused. -/
inductive Fault
  | syntaxError
  | undefinedTable (table : String)
  | generatedAlways (column : String)
  | assignedTwice
  | parameterCount (supplied required : Nat)
  | undetermined (n : Nat)
  | rejected (message : String)
  deriving DecidableEq

/-- A table: the names of its columns, and the columns that only the database sets. -/
structure Schema (γ : Type) where
  table : String
  name : γ → String
  column? : String → Option γ
  generated : γ → Bool
  table_word : isWord table.toList = true
  name_word : ∀ column, isWord (name column).toList = true
  column?_name : ∀ column, column? (name column) = some column

/-- What the database makes of values: how it reads one that is sent for a column, and its operators. -/
structure Engine (γ Value Cell : Type) where
  receive : γ → Value → Except Fault Cell
  quoted : γ → String → Cell
  number : Nat → Cell
  now : Cell
  isNull : Cell → Bool
  plus : Cell → Cell → Except Fault Cell
  equal : Cell → Cell → Bool

/-! ### Placeholders -/

def Operand.parameters : Operand γ → List Nat
  | .parameter n => [n]
  | _ => []

def Expression.parameters : Expression γ → List Nat
  | .operand a => a.parameters
  | .plus a b => a.parameters ++ b.parameters
  | .coalesce a b => a.parameters ++ b.parameters

/-- The placeholders in the order of the text, each with the column it stands against. -/
def Update.placeholders (update : Update γ) : List (γ × Nat) :=
  update.assignments.flatMap (fun assignment => assignment.2.parameters.map fun n => (assignment.1, n)) ++
    update.conditions

/-- The greatest number of a placeholder. -/
def Update.required (update : Update γ) : Nat := (update.placeholders.map Prod.snd).foldr max 0

/-! ### Execution -/

/-- The cell of `$n`; there is no `$0`. -/
def parameter? (cells : List Cell) : Nat → Option Cell
  | 0 => none
  | n + 1 => cells[n]?

section Execution

variable (engine : Engine γ Value Cell)

def Operand.eval (cells : List Cell) (row : γ → Cell) (column : γ) : Operand γ → Except Fault Cell
  | .parameter n =>
    match parameter? cells n with
    | some cell => .ok cell
    | none => .error (.undetermined n)
  | .column other => .ok (row other)
  | .number n => .ok (engine.number n)
  | .quoted text => .ok (engine.quoted column text)
  | .now => .ok engine.now

def Expression.eval (cells : List Cell) (row : γ → Cell) (column : γ) : Expression γ → Except Fault Cell
  | .operand a => a.eval engine cells row column
  | .plus a b => do
    let x ← a.eval engine cells row column
    let y ← b.eval engine cells row column
    engine.plus x y
  | .coalesce a b => do
    let x ← a.eval engine cells row column
    let y ← b.eval engine cells row column
    return if engine.isNull x then y else x

variable (update : Update γ)

/-- Every value is read as one of the column its placeholder stands against; a placeholder that is left out has no
type. -/
def Update.bind (values : List Value) : Except Fault (List Cell) :=
  if values.length = update.required then
    (values.zipIdx 1).mapM fun value =>
      match update.placeholders.find? fun placeholder => placeholder.2 == value.2 with
      | some placeholder => engine.receive placeholder.1 value.1
      | none => .error (.undetermined value.2)
  else .error (.parameterCount values.length update.required)

def Update.holds (cells : List Cell) (row : γ → Cell) : Bool :=
  update.conditions.all fun condition =>
    (parameter? cells condition.2).any fun cell => engine.equal (row condition.1) cell

/-- The row with some of its columns set. -/
def overwrite [DecidableEq γ] (row : γ → Cell) (assigned : List (γ × Cell)) : γ → Cell :=
  fun column => (assigned.lookup column).getD (row column)

def Update.assign [DecidableEq γ] (cells : List Cell) (row : γ → Cell) : Except Fault (γ → Cell) := do
  let assigned ← update.assignments.mapM fun assignment => do
    let cell ← assignment.2.eval engine cells row assignment.1
    return (assignment.1, cell)
  return overwrite row assigned

end Execution

/-- The table after an update, and the changed rows. -/
def updateRows {ρ : Type} (holds : ρ → Bool) (assign : ρ → Except Fault ρ) : List ρ → Except Fault (List ρ × List ρ)
  | [] => .ok ([], [])
  | row :: rows =>
    if holds row then do
      let new ← assign row
      let (rows, changed) ← updateRows holds assign rows
      return (new :: rows, new :: changed)
    else do
      let (rows, changed) ← updateRows holds assign rows
      return (row :: rows, changed)

/-- No assignment to a column that the database generates. -/
def Schema.refuseGenerated (schema : Schema γ) (columns : List γ) : Except Fault Unit :=
  match columns.find? schema.generated with
  | some column => .error (.generatedAlways (schema.name column))
  | none => .ok ()

/-- What is checked before any value is looked at. -/
def Update.check [DecidableEq γ] (schema : Schema γ) (update : Update γ) : Except Fault Unit :=
  if update.table ≠ schema.table then .error (.undefinedTable update.table)
  else if (update.assignments.map Prod.fst).Nodup then schema.refuseGenerated (update.assignments.map Prod.fst)
  else .error .assignedTwice

/-- The statement of a text. -/
def statement? (schema : Schema γ) (text : List Char) : Option (Update γ) := (lex text).bind (parse schema.column?)

/-- The table after the statement, and what it returns. -/
def run [DecidableEq γ] (schema : Schema γ) (engine : Engine γ Value Cell) (rows : List (γ → Cell)) (update : Update γ)
    (values : List Value) : Except Fault (List (γ → Cell) × List (List Cell)) := do
  update.check schema
  let cells ← update.bind engine values
  let (rows, changed) ← updateRows (update.holds engine cells) (update.assign engine cells) rows
  return (rows, changed.map fun row => update.returning.map row)

def execute [DecidableEq γ] (schema : Schema γ) (engine : Engine γ Value Cell) (rows : List (γ → Cell))
    (text : List Char) (values : List Value) : Except Fault (List (γ → Cell) × List (List Cell)) :=
  match statement? schema text with
  | some update => run schema engine rows update values
  | none => .error .syntaxError

/-! ### Numbering the placeholders -/

/-- What a column is set to: a value that is sent, or an expression without placeholders. -/
inductive Source (γ Value : Type)
  | sent (value : Value)
  | computed (expression : Expression γ) (closed : expression.parameters = [])

/-- The assignments, with placeholders from `n` on. -/
def number : Nat → List (γ × Source γ Value) → List (γ × Expression γ)
  | _, [] => []
  | n, (column, .sent _) :: items => (column, .operand (.parameter n)) :: number (n + 1) items
  | n, (column, .computed expression _) :: items => (column, expression) :: number n items

/-- The values that are sent, each with its column. -/
def sent : List (γ × Source γ Value) → List (γ × Value)
  | [] => []
  | (column, .sent value) :: items => (column, value) :: sent items
  | (_, .computed _ _) :: items => sent items

/-- The statement that sets columns and is guarded by others, with its placeholders numbered in the order of the text. -/
def numbered (table : String) (items : List (γ × Source γ Value)) (guard : List (γ × Value)) (returning : List γ) :
    Update γ where
  table := table
  assignments := number 1 items
  conditions := (guard.map Prod.fst).zipIdx ((sent items).length + 1)
  returning := returning

/-- The assigned cells when every sent value arrives at its own column. -/
def fill (engine : Engine γ Value Cell) (row : γ → Cell) :
    List (γ × Source γ Value) → List Cell → Except Fault (List (γ × Cell))
  | [], _ => .ok []
  | (_, .sent _) :: _, [] => .error .syntaxError
  | (column, .sent _) :: items, cell :: cells => do
    let assigned ← fill engine row items cells
    return (column, cell) :: assigned
  | (column, .computed expression _) :: items, cells => do
    let cell ← expression.eval engine [] row column
    let assigned ← fill engine row items cells
    return (column, cell) :: assigned

theorem find?_zipIdx {α : Type} {l : List α} {k n : Nat} {x : α} (h : (x, n) ∈ l.zipIdx k) :
    (l.zipIdx k).find? (fun p => p.2 == n) = some (x, n) := by
  induction l generalizing k with
  | nil => simp at h
  | cons y l ih =>
    rw [List.zipIdx_cons] at h ⊢
    rcases List.mem_cons.1 h with heq | hmem
    · obtain ⟨rfl, rfl⟩ := Prod.mk.inj heq
      simp
    · have hle := List.le_snd_of_mem_zipIdx hmem
      rw [List.find?_cons_of_neg (by simp; omega), ih hmem]

section Numbered

variable {items : List (γ × Source γ Value)} {guard : List (γ × Value)}

theorem map_fst_number (n : Nat) (items : List (γ × Source γ Value)) :
    (number n items).map Prod.fst = items.map Prod.fst := by
  induction items generalizing n with
  | nil => rfl
  | cons item items ih =>
    obtain ⟨column, source⟩ := item
    cases source <;> simp [number, ih]

theorem number_append (n : Nat) (items items' : List (γ × Source γ Value)) :
    number n (items ++ items') = number n items ++ number (n + (sent items).length) items' := by
  induction items generalizing n with
  | nil => rfl
  | cons item items ih =>
    obtain ⟨column, source⟩ := item
    cases source with
    | sent value =>
      simp only [List.cons_append, number, sent, ih, List.length_cons]
      rw [Nat.add_assoc, Nat.add_comm 1]
    | computed expression closed => simp only [List.cons_append, number, sent, ih]

theorem placeholders_number (n : Nat) (items : List (γ × Source γ Value)) :
    (number n items).flatMap (fun assignment => assignment.2.parameters.map fun n => (assignment.1, n)) =
      ((sent items).map Prod.fst).zipIdx n := by
  induction items generalizing n with
  | nil => rfl
  | cons item items ih =>
    obtain ⟨column, source⟩ := item
    cases source with
    | sent value =>
      have hone : (Expression.operand (.parameter n) : Expression γ).parameters = [n] := rfl
      simp [number, sent, hone, ih]
    | computed expression closed => simp [number, sent, closed, ih]

/-- The placeholders are those of the values, in their order. -/
theorem placeholders_numbered (table : String) (items : List (γ × Source γ Value)) (guard : List (γ × Value))
    (returning : List γ) :
    (numbered table items guard returning).placeholders = ((sent items ++ guard).map Prod.fst).zipIdx 1 := by
  unfold Update.placeholders numbered
  rw [placeholders_number, List.map_append, List.zipIdx_append, List.length_map, Nat.add_comm 1]

theorem foldr_max_range' (n k : Nat) (hk : 0 < k) : (List.range' k n).foldr max 0 = if n = 0 then 0 else k + n - 1 := by
  induction n generalizing k with
  | zero => rfl
  | succ n ih =>
    rw [List.range'_succ, List.foldr_cons, ih (k + 1) (by omega)]
    split <;> split <;> omega

theorem required_numbered (table : String) (items : List (γ × Source γ Value)) (guard : List (γ × Value))
    (returning : List γ) :
    (numbered table items guard returning).required = (sent items ++ guard).length := by
  unfold Update.required
  rw [placeholders_numbered, List.zipIdx_map_snd, foldr_max_range' _ _ (by decide), List.length_map]
  split <;> omega

theorem mapM_congr {α β : Type} {f g : α → Except Fault β} {l : List α} (h : ∀ x ∈ l, f x = g x) :
    l.mapM f = l.mapM g := by
  induction l with
  | nil => rfl
  | cons x l ih =>
    have hrest := ih fun y hy => h y (List.mem_cons_of_mem _ hy)
    rw [List.mapM_cons, List.mapM_cons, h x (by simp), hrest]

/-- Every value is read for its own column. -/
theorem bind_numbered (engine : Engine γ Value Cell) (table : String) (items : List (γ × Source γ Value))
    (guard : List (γ × Value)) (returning : List γ) :
    (numbered table items guard returning).bind engine ((sent items ++ guard).map Prod.snd) =
      (sent items ++ guard).mapM fun pair => engine.receive pair.1 pair.2 := by
  unfold Update.bind
  rw [required_numbered, placeholders_numbered, if_pos (List.length_map ..)]
  obtain ⟨pairs, hpairs⟩ : ∃ pairs, pairs = sent items ++ guard := ⟨_, rfl⟩
  have hzip : (pairs.map Prod.snd).zipIdx 1 = (pairs.zipIdx 1).map (Prod.map Prod.snd id) := List.zipIdx_map
  rw [← hpairs, hzip, List.mapM_map]
  have hread : ∀ pair ∈ pairs.zipIdx 1,
      (match ((pairs.map Prod.fst).zipIdx 1).find? fun placeholder => placeholder.2 == pair.2 with
        | some placeholder => engine.receive placeholder.1 pair.1.2
        | none => .error (.undetermined pair.2)) = engine.receive pair.1.1 pair.1.2 := by
    intro pair hpair
    have hmem : (pair.1.1, pair.2) ∈ (pairs.map Prod.fst).zipIdx 1 := by
      rw [List.zipIdx_map]
      exact List.mem_map.2 ⟨pair, hpair, rfl⟩
    rw [find?_zipIdx hmem]
  refine (mapM_congr hread).trans ?_
  conv_rhs => rw [← List.zipIdx_map_fst 1 pairs, List.mapM_map]
  rfl

/-- An expression without placeholders does not look at the values. -/
theorem eval_closed {engine : Engine γ Value Cell} {expression : Expression γ} (closed : expression.parameters = [])
    (cells : List Cell) (row : γ → Cell) (column : γ) :
    expression.eval engine cells row column = expression.eval engine [] row column := by
  have hoperand (a : Operand γ) (ha : a.parameters = []) :
      a.eval engine cells row column = a.eval engine [] row column := by
    cases a with
    | parameter n => cases ha
    | _ => rfl
  cases expression with
  | operand a => exact hoperand a closed
  | plus a b =>
    obtain ⟨ha, hb⟩ := List.append_eq_nil_iff.1 closed
    simp only [Expression.eval, hoperand a ha, hoperand b hb]
  | coalesce a b =>
    obtain ⟨ha, hb⟩ := List.append_eq_nil_iff.1 closed
    simp only [Expression.eval, hoperand a ha, hoperand b hb]

/-- The assignments with their placeholders from `n` on, when the cells from `n` on are those of the sent values. -/
theorem eval_number (engine : Engine γ Value Cell) {cells : List Cell} (row : γ → Cell)
    (items : List (γ × Source γ Value)) {given : List Cell} (hlength : given.length = (sent items).length) {n : Nat}
    (hgiven : ∀ i cell, given[i]? = some cell → parameter? cells (n + i) = some cell) :
    (number n items).mapM (fun assignment => do
      let cell ← assignment.2.eval engine cells row assignment.1
      return (assignment.1, cell)) = fill engine row items given := by
  induction items generalizing given n with
  | nil => rfl
  | cons item items ih =>
    obtain ⟨column, source⟩ := item
    cases source with
    | sent value =>
      cases given with
      | nil => cases hlength
      | cons cell given =>
        have hcell : parameter? cells n = some cell := hgiven 0 cell rfl
        have heval : (Expression.operand (.parameter n)).eval engine cells row column = .ok cell := by
          simp only [Expression.eval, Operand.eval, hcell]
        have hrest := @ih given (by simpa [sent] using hlength) (n + 1) fun i other hother => by
          rw [Nat.add_assoc, Nat.add_comm 1]
          exact hgiven (i + 1) other hother
        simp only [number, fill, List.mapM_cons, heval, hrest]
        rfl
    | computed expression closed =>
      have hrest := @ih given (by simpa [sent] using hlength) n hgiven
      simp only [number, fill, List.mapM_cons, eval_closed closed cells, hrest, bind_assoc, pure_bind]

/-- The conditions with their placeholders from `n` on, when the cells from `n` on are those of the guard. -/
theorem holds_zipIdx (engine : Engine γ Value Cell) {cells : List Cell} (row : γ → Cell) {columns : List γ}
    {key : List Cell} (hlength : key.length = columns.length) {n : Nat}
    (hkey : ∀ i cell, key[i]? = some cell → parameter? cells (n + i) = some cell) :
    (columns.zipIdx n).all (fun condition =>
      (parameter? cells condition.2).any fun cell => engine.equal (row condition.1) cell) =
        (columns.zip key).all fun pair => engine.equal (row pair.1) pair.2 := by
  induction columns generalizing key n with
  | nil => rfl
  | cons column columns ih =>
    cases key with
    | nil => cases hlength
    | cons cell key =>
      have hcell : parameter? cells n = some cell := hkey 0 cell rfl
      have hrest := @ih key (by simpa using hlength) (n + 1) fun i other hother => by
        rw [Nat.add_assoc, Nat.add_comm 1]
        exact hkey (i + 1) other hother
      simp [hcell, hrest]

theorem length_of_mapM {α β : Type} {f : α → Except Fault β} {l : List α} {r : List β} (h : l.mapM f = .ok r) :
    r.length = l.length := by
  induction l generalizing r with
  | nil =>
    cases h
    rfl
  | cons x l ih =>
    rw [List.mapM_cons, StateExcept.except_bind_eq_ok] at h
    obtain ⟨y, -, h⟩ := h
    obtain ⟨rest, hrest, h⟩ := StateExcept.except_bind_eq_ok.1 h
    cases h
    simp [ih hrest]

/-- The values of a guard are those of the row. -/
def guarded (engine : Engine γ Value Cell) (columns : List γ) (key : List Cell) (row : γ → Cell) : Bool :=
  (columns.zip key).all fun pair => engine.equal (row pair.1) pair.2

variable [DecidableEq γ]

/-- A numbered statement sets every column to its own value and compares every column of the guard with its own. -/
theorem run_numbered (schema : Schema γ) (engine : Engine γ Value Cell) (rows : List (γ → Cell)) (table : String)
    (items : List (γ × Source γ Value)) (guard : List (γ × Value)) (returning : List γ) :
    run schema engine rows (numbered table items guard returning) ((sent items ++ guard).map Prod.snd) = (do
      (numbered table items guard returning).check schema
      let given ← (sent items).mapM fun pair => engine.receive pair.1 pair.2
      let key ← guard.mapM fun pair => engine.receive pair.1 pair.2
      let (rows, changed) ← updateRows (guarded engine (guard.map Prod.fst) key) (fun row => do
        let assigned ← fill engine row items given
        return overwrite row assigned) rows
      return (rows, changed.map fun row => returning.map row)) := by
  unfold run
  rw [bind_numbered, List.mapM_append]
  refine congrArg _ (funext fun _ => ?_)
  cases hgiven : (sent items).mapM fun pair => engine.receive pair.1 pair.2 with
  | error fault => rfl
  | ok given =>
    cases hkey : guard.mapM fun pair => engine.receive pair.1 pair.2 with
    | error fault => rfl
    | ok key =>
      have hcells (i : Nat) (cell : Cell) (h : given[i]? = some cell) :
          parameter? (given ++ key) (1 + i) = some cell := by
        rw [Nat.add_comm]
        obtain ⟨hi, rfl⟩ := List.getElem?_eq_some_iff.1 h
        show (given ++ key)[i]? = some given[i]
        rw [List.getElem?_append_left hi, List.getElem?_eq_getElem hi]
      have hholds : (numbered table items guard returning).holds engine (given ++ key) =
          guarded engine (guard.map Prod.fst) key := by
        funext row
        refine holds_zipIdx engine row (by rw [length_of_mapM hkey, List.length_map]) fun i cell h => ?_
        rw [← length_of_mapM hgiven, Nat.add_right_comm]
        show (given ++ key)[given.length + i]? = some cell
        rw [List.getElem?_append_right (Nat.le_add_right ..), Nat.add_sub_cancel_left, h]
      have hassign : (numbered table items guard returning).assign engine (given ++ key) = fun row => do
          let assigned ← fill engine row items given
          return overwrite row assigned := by
        funext row
        unfold Update.assign
        rw [← eval_number engine row items (length_of_mapM hgiven) hcells]
        rfl
      show (do
        let (rows, changed) ← updateRows ((numbered table items guard returning).holds engine (given ++ key))
          ((numbered table items guard returning).assign engine (given ++ key)) rows
        return (rows, changed.map fun row => returning.map row)) = _
      rw [hholds, hassign]
      rfl

end Numbered

/-! ### Filling -/

section Filling

variable {engine : Engine γ Value Cell} {row : γ → Cell}

theorem sent_append (items items' : List (γ × Source γ Value)) : sent (items ++ items') = sent items ++ sent items' := by
  induction items with
  | nil => rfl
  | cons item items ih =>
    obtain ⟨column, source⟩ := item
    cases source <;> simp [sent, ih]

theorem fill_append {items items' : List (γ × Source γ Value)} {cells cells' : List Cell}
    (hlength : cells.length = (sent items).length) :
    fill engine row (items ++ items') (cells ++ cells') = (do
      let assigned ← fill engine row items cells
      let assigned' ← fill engine row items' cells'
      return assigned ++ assigned') := by
  induction items generalizing cells with
  | nil =>
    obtain rfl : cells = [] := List.eq_nil_of_length_eq_zero hlength
    show fill engine row items' cells' = (fill engine row items' cells').bind fun assigned' => .ok assigned'
    cases fill engine row items' cells' <;> rfl
  | cons item items ih =>
    obtain ⟨column, source⟩ := item
    cases source with
    | sent value =>
      cases cells with
      | nil => cases hlength
      | cons cell cells =>
        simp only [List.cons_append, fill, ih (by simpa [sent] using hlength), bind_assoc, pure_bind]
    | computed expression closed =>
      simp only [List.cons_append, fill, ih (by simpa [sent] using hlength), bind_assoc, pure_bind]

theorem sent_map_sent (pairs : List (γ × Value)) :
    sent (pairs.map fun pair => (pair.1, (.sent pair.2 : Source γ Value))) = pairs := by
  induction pairs with
  | nil => rfl
  | cons pair pairs ih => simp [sent, ih]

/-- Columns that are all sent. -/
theorem fill_map_sent {pairs : List (γ × Value)} {cells : List Cell} (hlength : cells.length = pairs.length) :
    fill engine row (pairs.map fun pair => (pair.1, .sent pair.2)) cells = .ok ((pairs.map Prod.fst).zip cells) := by
  induction pairs generalizing cells with
  | nil => rfl
  | cons pair pairs ih =>
    cases cells with
    | nil => cases hlength
    | cons cell cells =>
      simp only [List.map_cons, fill, ih (by simpa using hlength)]
      rfl

end Filling

/-! ### The rows that an update changes -/

section Rows

variable {ρ : Type} {holds : ρ → Bool} {assign : ρ → Except Fault ρ}

/-- The guard holds of no row. -/
theorem updateRows_none {rows : List ρ} (h : ∀ row ∈ rows, holds row = false) :
    updateRows holds assign rows = .ok (rows, []) := by
  induction rows with
  | nil => rfl
  | cons row rows ih =>
    have hrow : ¬ holds row = true := by
      rw [h row (by simp)]
      exact Bool.false_ne_true
    rw [updateRows, if_neg hrow, ih fun other hother => h other (List.mem_cons_of_mem _ hother)]
    rfl

/-- The guard holds of one row. -/
theorem updateRows_one {before after : List ρ} {row new : ρ} (hbefore : ∀ other ∈ before, holds other = false)
    (hrow : holds row = true) (hafter : ∀ other ∈ after, holds other = false) (hnew : assign row = .ok new) :
    updateRows holds assign (before ++ row :: after) = .ok (before ++ new :: after, [new]) := by
  induction before with
  | nil =>
    rw [List.nil_append, updateRows, if_pos hrow, hnew, updateRows_none hafter]
    rfl
  | cons first before ih =>
    have hfirst : ¬ holds first = true := by
      rw [hbefore first (by simp)]
      exact Bool.false_ne_true
    rw [List.cons_append, updateRows, if_neg hfirst, ih fun other hother => hbefore other (List.mem_cons_of_mem _ hother)]
    rfl

end Rows

end Sql
