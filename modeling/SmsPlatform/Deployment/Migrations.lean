import Mathlib.Data.List.Sort
import SmsPlatform.Database
import SmsPlatform.Lib.Records

/-!
# The migration runner

`runMigrations` of `migration-runner.mjs`, run by any number of processes at once, each with the `migrations` directory of
its own image.  A process takes the advisory lock, then goes through its files: a file that `schema_migrations` does not
name is executed and named there, in one transaction.  Any query may be refused and any process may die at any point; then
its transaction is rolled back and, with its connection, its lock is gone.

Every file is executed once, whatever the processes do (`migrations_once`); processes with the same directory execute it in
its order, and one that returns has executed all of it (`migrations_in_order`).
-/

namespace SmsPlatform

namespace Migrations

open Transition

/-- A file of the directory, with its SQL, which leaves the runner's own things alone: it neither ends the transaction that
it is executed in nor touches `schema_migrations`. -/
structure File where
  name : String
  sql : String
  deriving DecidableEq

/-- The entries of a directory have different names. -/
structure Directory where
  entries : List File
  nodup : (entries.map File.name).Nodup

/-- `localeCompare` orders the names; the sort is stable. -/
def Directory.files (order : String → String → Bool) (directory : Directory) : List File :=
  (directory.entries.filter fun file => ".sql".toList.isSuffixOf file.name.toList).insertionSort fun left right =>
    order left.name right.name = true

/-! ### Processes and the database -/

/-- Where a process is: what it awaits next. -/
inductive Point (σ : Type)
  | lock
  | createTable
  | select (files : List File)
  | begin (file : File) (files : List File)
  | query (file : File) (files : List File)
  /-- The transaction has executed the file. -/
  | insert (file : File) (files : List File) (schema : σ)
  | commit (file : File) (files : List File) (schema : σ)
  /-- The `finally` of a call that throws. -/
  | throwing
  /-- The `finally` of a call that returns. -/
  | returning
  | returned
  deriving DecidableEq

structure Process (σ : Type) where
  files : List File
  point : Point σ

/-- `schema` is all of the database but `migrations`, the names in `schema_migrations`, if there is that table, and the
session that has the advisory lock. -/
structure State (σ : Type) where
  schema : σ
  migrations : Option (List String)
  lock : Option Nat
  processes : Nat → Option (Process σ)

inductive Action
  | start (pid : Nat) (directory : Directory)
  | next (pid : Nat)
  /-- What the process awaits is refused. -/
  | fail (pid : Nat)
  | crash (pid : Nat)

section Step

variable {σ : Type} (order : String → String → Bool) (execute : String → σ → Except Failure σ)

namespace State

def goTo (state : State σ) (pid : Nat) (process : Process σ) (point : Point σ) : State σ :=
  { state with processes := Function.update state.processes pid (some { process with point := point }) }

/-- The end of a session: the lock is free if it was its own. -/
def unlock (state : State σ) (pid : Nat) : State σ :=
  { state with lock := if state.lock = some pid then none else state.lock }

def exit (state : State σ) (pid : Nat) : State σ :=
  { state.unlock pid with processes := Function.update state.processes pid none }

end State

/-- A process that awaits nothing more, or a lock that another session has, does not go on. -/
def next (state : State σ) (pid : Nat) (process : Process σ) : Option (State σ) :=
  match process.point with
  | .lock => if state.lock = none then some ({ state with lock := some pid }.goTo pid process .createTable) else none
  | .createTable =>
    some ({ state with migrations := some (state.migrations.getD []) }.goTo pid process (.select process.files))
  | .select [] => some (state.goTo pid process .returning)
  | .select (file :: files) =>
    match state.migrations with
    | none => some (state.goTo pid process .throwing)
    | some names =>
      if file.name ∈ names then some (state.goTo pid process (.select files))
      else some (state.goTo pid process (.begin file files))
  | .begin file files => some (state.goTo pid process (.query file files))
  | .query file files =>
    match execute file.sql state.schema with
    | .error _ => some (state.goTo pid process .throwing)
    | .ok schema => some (state.goTo pid process (.insert file files schema))
  | .insert file files schema =>
    if file.name ∈ state.migrations.getD [] then some (state.goTo pid process .throwing)
    else some (state.goTo pid process (.commit file files schema))
  | .commit file files schema =>
    some ({ state with
      schema := schema
      migrations := some (state.migrations.getD [] ++ [file.name]) }.goTo pid process (.select files))
  | .throwing => some (state.exit pid)
  | .returning => some ((state.unlock pid).goTo pid process .returned)
  | .returned => none

def step (state : State σ) : Action → Option (State σ)
  | .start pid directory =>
    match state.processes pid with
    | some _ => none
    | none => some (state.goTo pid ⟨directory.files order, .lock⟩ .lock)
  | .next pid => (state.processes pid).bind (next execute state pid)
  | .fail pid =>
    match state.processes pid with
    | none => none
    | some process =>
      match process.point with
      | .throwing => none
      | .returning => none
      | .returned => none
      | _ => some (state.goTo pid process .throwing)
  | .crash pid =>
    match state.processes pid with
    | none => none
    | some _ => some (state.exit pid)

/-- What is written down beside a run: the files whose transactions commit. -/
def committed (state : State σ) (action : Action) (_ : State σ) : List File :=
  match action with
  | .next pid =>
    match state.processes pid with
    | some ⟨_, .commit file _ _⟩ => [file]
    | _ => []
  | _ => []

/-- The files one after the other. -/
def replay : List File → σ → Except Failure σ
  | [], schema => .ok schema
  | file :: files, schema => (execute file.sql schema).bind (replay files)

/-- Before the first migration. -/
def State.new (schema : σ) : State σ where
  schema := schema
  migrations := none
  lock := none
  processes := fun _ => none

end Step

/-! ### The lock -/

/-- The process has the advisory lock, unless its session is over.  One that throws may still have it until its `finally`,
but writes nothing more. -/
def Point.holds {σ : Type} : Point σ → Bool
  | .lock => false
  | .throwing => false
  | .returned => false
  | _ => true

variable {σ : Type}

/-- The files that come after `files` in the list of the process are executed, and so are those before `file`. -/
structure Before (names : List String) (all files : List File) : Prop where
  split : ∃ done, all = done ++ files ∧ ∀ file ∈ done, file.name ∈ names

/-- What a process may rely on where it is. -/
def Point.Right (execute : String → σ → Except Failure σ) (schema : σ) (names : List String) (all : List File) :
    Point σ → Prop
  | .select files => Before names all files
  | .begin file files => Before names all (file :: files) ∧ file.name ∉ names
  | .query file files => Before names all (file :: files) ∧ file.name ∉ names
  | .insert file files schema' =>
    (Before names all (file :: files) ∧ file.name ∉ names) ∧ execute file.sql schema = .ok schema'
  | .commit file files schema' =>
    (Before names all (file :: files) ∧ file.name ∉ names) ∧ execute file.sql schema = .ok schema'
  | .returning => ∀ file ∈ all, file.name ∈ names
  | .returned => ∀ file ∈ all, file.name ∈ names
  | _ => True

/-- The invariant of a run and of what has been committed on it. -/
structure Inv (execute : String → σ → Except Failure σ) (schema₀ : σ) (state : State σ) (record : List File) : Prop where
  named : state.migrations.getD [] = record.map File.name
  once : (record.map File.name).Nodup
  replayed : replay execute record schema₀ = .ok state.schema
  locked : ∀ pid process, state.processes pid = some process → process.point.holds = true → state.lock = some pid
  right : ∀ pid process, state.processes pid = some process →
    process.point.Right execute state.schema (state.migrations.getD []) process.files

section Invariant

variable {order : String → String → Bool} {execute : String → σ → Except Failure σ} {schema₀ : σ} {state : State σ}
  {record : List File} {pid : Nat} {process : Process σ} {point : Point σ}

theorem replay_append (files : List File) (file : File) (schema : σ) : replay execute (files ++ [file]) schema =
    (replay execute files schema).bind (execute file.sql) := by
  induction files generalizing schema with
  | nil =>
    show (execute file.sql schema).bind (fun schema' => .ok schema') = execute file.sql schema
    cases execute file.sql schema <;> rfl
  | cons first files ih =>
    show (execute first.sql schema).bind (replay execute (files ++ [file])) =
      ((execute first.sql schema).bind (replay execute files)).bind (execute file.sql)
    cases execute first.sql schema with
    | error failure => rfl
    | ok schema' => exact ih schema'

theorem goTo_processes {other : Nat} {process' : Process σ}
    (h : (state.goTo pid process point).processes other = some process') :
    (other = pid ∧ process' = { process with point := point }) ∨ (other ≠ pid ∧ state.processes other = some process') := by
  by_cases heq : other = pid
  · subst heq
    have hself : (state.goTo other process point).processes other = some { process with point := point } :=
      Function.update_self ..
    rw [hself] at h
    exact .inl ⟨rfl, (Option.some.inj h).symm⟩
  · have hother : (state.goTo pid process point).processes other = state.processes other := Function.update_of_ne heq _ _
    rw [hother] at h
    exact .inr ⟨heq, h⟩

theorem unlock_other {other : Nat} (h : state.lock = some other) (hne : other ≠ pid) :
    (state.unlock pid).lock = some other := by
  show (if state.lock = some pid then none else state.lock) = some other
  rw [h, if_neg fun heq => hne (Option.some.inj heq)]

/-- A process moves on, and nothing else changes. -/
theorem Inv.goTo (h : Inv execute schema₀ state record) (hlock : point.holds = true → state.lock = some pid)
    (hright : point.Right execute state.schema (state.migrations.getD []) process.files) :
    Inv execute schema₀ (state.goTo pid process point) record where
  named := h.named
  once := h.once
  replayed := h.replayed
  locked := by
    intro other process' hprocess hholds
    rcases goTo_processes hprocess with ⟨rfl, rfl⟩ | ⟨-, hprocess⟩
    · exact hlock hholds
    · exact h.locked other process' hprocess hholds
  right := by
    intro other process' hprocess
    rcases goTo_processes hprocess with ⟨rfl, rfl⟩ | ⟨-, hprocess⟩
    · exact hright
    · exact h.right other process' hprocess

/-- A session ends, and its process with it. -/
theorem Inv.exit (h : Inv execute schema₀ state record) : Inv execute schema₀ (state.exit pid) record where
  named := h.named
  once := h.once
  replayed := h.replayed
  locked := by
    intro other process' hprocess hholds
    have hne : other ≠ pid := by
      rintro rfl
      have hself : (state.exit other).processes other = none := Function.update_self ..
      rw [hself] at hprocess
      cases hprocess
    have hother : (state.exit pid).processes other = state.processes other := Function.update_of_ne hne _ _
    rw [hother] at hprocess
    exact unlock_other (h.locked other process' hprocess hholds) hne
  right := by
    intro other process' hprocess
    by_cases heq : other = pid
    · have hself : (state.exit pid).processes other = none := by
        rw [heq]
        exact Function.update_self ..
      rw [hself] at hprocess
      cases hprocess
    · have hother : (state.exit pid).processes other = state.processes other := Function.update_of_ne heq _ _
      rw [hother] at hprocess
      exact h.right other process' hprocess

/-- A process takes the lock. -/
theorem Inv.acquire (h : Inv execute schema₀ state record) (hfree : state.lock = none) :
    Inv execute schema₀ ({ state with lock := some pid }.goTo pid process .createTable) record where
  named := h.named
  once := h.once
  replayed := h.replayed
  locked := by
    intro other process' hprocess hholds
    rcases goTo_processes hprocess with ⟨rfl, -⟩ | ⟨-, hprocess⟩
    · rfl
    · have hlock := h.locked other process' hprocess hholds
      rw [hfree] at hlock
      cases hlock
  right := by
    intro other process' hprocess
    rcases goTo_processes hprocess with ⟨rfl, rfl⟩ | ⟨-, hprocess⟩
    · trivial
    · exact h.right other process' hprocess

theorem Inv.createTable (h : Inv execute schema₀ state record) :
    Inv execute schema₀ { state with migrations := some (state.migrations.getD []) } record where
  named := h.named
  once := h.once
  replayed := h.replayed
  locked := h.locked
  right := h.right

/-- The names only grow for a process that does not hold the lock. -/
theorem Point.Right.grow {schema schema' : σ} {names : List String} {name : String} {files : List File}
    (h : point.Right execute schema names files) (hholds : point.holds = false) :
    point.Right execute schema' (names ++ [name]) files := by
  cases point with
  | lock => trivial
  | throwing => trivial
  | returned => exact fun file hfile => List.mem_append_left _ (h file hfile)
  | createTable => cases hholds
  | select => cases hholds
  | «begin» => cases hholds
  | query => cases hholds
  | insert => cases hholds
  | commit => cases hholds
  | returning => cases hholds

/-- Without the lock of its own, no process is in the middle of its files. -/
theorem Inv.not_holds (h : Inv execute schema₀ state record) (hlock : state.lock = some pid) {other : Nat}
    (hne : other ≠ pid) {process' : Process σ} (hprocess : state.processes other = some process') :
    process'.point.holds = false := by
  by_contra hholds
  rw [Bool.not_eq_false] at hholds
  have hother := h.locked other process' hprocess hholds
  rw [hlock] at hother
  exact hne (Option.some.inj hother).symm

/-- The transaction of a file that is not named yet, executed on the present schema, commits. -/
theorem Inv.commit (h : Inv execute schema₀ state record) (hlock : state.lock = some pid) {file : File} {files : List File}
    {schema : σ} (hbefore : Before (state.migrations.getD []) process.files (file :: files))
    (hnew : file.name ∉ state.migrations.getD []) (hexecuted : execute file.sql state.schema = .ok schema) :
    Inv execute schema₀ ({ state with
      schema := schema
      migrations := some (state.migrations.getD [] ++ [file.name]) }.goTo pid process (.select files))
      (record ++ [file]) where
  named := by
    show state.migrations.getD [] ++ [file.name] = _
    rw [h.named, List.map_append, List.map_singleton]
  once := by
    rw [h.named] at hnew
    rw [List.map_append, List.map_singleton]
    refine List.nodup_append.2 ⟨h.once, by simp, ?_⟩
    rintro name hname other hother rfl
    rw [List.mem_singleton.1 hother] at hname
    exact hnew hname
  replayed := by
    rw [replay_append, h.replayed]
    exact hexecuted
  locked := by
    intro other process' hprocess hholds
    rcases goTo_processes hprocess with ⟨rfl, -⟩ | ⟨-, hprocess⟩
    · exact hlock
    · exact h.locked other process' hprocess hholds
  right := by
    intro other process' hprocess
    rcases goTo_processes hprocess with ⟨rfl, rfl⟩ | ⟨hne, hprocess⟩
    · obtain ⟨done, hall, hdone⟩ := hbefore.split
      refine ⟨done ++ [file], ?_, ?_⟩
      · rw [hall]
        simp
      · intro other hother
        rcases List.mem_append.1 hother with hother | hother
        · exact List.mem_append_left _ (hdone other hother)
        · rw [List.mem_singleton.1 hother]
          exact List.mem_append_right _ (List.mem_singleton_self _)
    · exact (h.right other process' hprocess).grow (h.not_holds hlock hne hprocess)

/-- A call returns: its lock is free and its files stay executed. -/
theorem Inv.return (h : Inv execute schema₀ state record)
    (hall : ∀ file ∈ process.files, file.name ∈ state.migrations.getD []) :
    Inv execute schema₀ ((state.unlock pid).goTo pid process .returned) record where
  named := h.named
  once := h.once
  replayed := h.replayed
  locked := by
    intro other process' hprocess hholds
    rcases goTo_processes hprocess with ⟨rfl, rfl⟩ | ⟨hne, hprocess⟩
    · cases hholds
    · exact unlock_other (h.locked other process' hprocess hholds) hne
  right := by
    intro other process' hprocess
    rcases goTo_processes hprocess with ⟨rfl, rfl⟩ | ⟨-, hprocess⟩
    · exact hall
    · exact h.right other process' hprocess

theorem Before.tail {names : List String} {all files : List File} {file : File} (h : Before names all (file :: files))
    (hnamed : file.name ∈ names) : Before names all files := by
  obtain ⟨done, hall, hdone⟩ := h.split
  refine ⟨done ++ [file], ?_, ?_⟩
  · rw [hall]
    simp
  · intro other hother
    rcases List.mem_append.1 hother with hother | hother
    · exact hdone other hother
    · rw [List.mem_singleton.1 hother]
      exact hnamed

theorem Before.all {names : List String} {all : List File} (h : Before names all []) : ∀ file ∈ all, file.name ∈ names := by
  obtain ⟨done, hall, hdone⟩ := h.split
  rw [hall, List.append_nil]
  exact hdone

theorem inv_next (h : Inv execute schema₀ state record) (hprocess : state.processes pid = some process)
    {state' : State σ} (hnext : next execute state pid process = some state') :
    Inv execute schema₀ state' (record ++ committed state (.next pid) state') := by
  obtain ⟨all, point⟩ := process
  have hlock := h.locked pid _ hprocess
  have hright := h.right pid _ hprocess
  unfold committed
  dsimp only
  rw [hprocess]
  unfold next at hnext
  cases point with
  | lock =>
    rw [List.append_nil]
    by_cases hfree : state.lock = none
    · rw [if_pos hfree] at hnext
      cases hnext
      exact h.acquire hfree
    · rw [if_neg hfree] at hnext
      cases hnext
  | createTable =>
    rw [List.append_nil]
    cases hnext
    exact h.createTable.goTo (fun _ => hlock rfl) ⟨[], rfl, by simp⟩
  | select files =>
    rw [List.append_nil]
    cases files with
    | nil =>
      cases hnext
      exact h.goTo (fun _ => hlock rfl) (Before.all hright)
    | cons file files =>
      dsimp only at hnext
      cases hmigrations : state.migrations with
      | none =>
        rw [hmigrations] at hnext
        cases hnext
        exact h.goTo (fun hholds => (nomatch hholds)) trivial
      | some names =>
        rw [hmigrations] at hnext
        dsimp only at hnext
        have hnames : state.migrations.getD [] = names := by rw [hmigrations]; rfl
        by_cases hmem : file.name ∈ names
        · rw [if_pos hmem] at hnext
          cases hnext
          refine h.goTo (fun _ => hlock rfl) ?_
          rw [hnames]
          exact Before.tail (hnames ▸ hright) hmem
        · rw [if_neg hmem] at hnext
          cases hnext
          refine h.goTo (fun _ => hlock rfl) ⟨hright, ?_⟩
          rw [hnames]
          exact hmem
  | «begin» file files =>
    rw [List.append_nil]
    cases hnext
    exact h.goTo (fun _ => hlock rfl) hright
  | query file files =>
    rw [List.append_nil]
    dsimp only at hnext
    cases hexecuted : execute file.sql state.schema with
    | error failure =>
      rw [hexecuted] at hnext
      cases hnext
      exact h.goTo (fun hholds => (nomatch hholds)) trivial
    | ok schema =>
      rw [hexecuted] at hnext
      cases hnext
      exact h.goTo (fun _ => hlock rfl) ⟨hright, hexecuted⟩
  | insert file files schema =>
    rw [List.append_nil]
    dsimp only at hnext
    rw [if_neg hright.1.2] at hnext
    cases hnext
    exact h.goTo (fun _ => hlock rfl) hright
  | commit file files schema =>
    cases hnext
    exact h.commit (hlock rfl) hright.1.1 hright.1.2 hright.2
  | throwing =>
    rw [List.append_nil]
    cases hnext
    exact h.exit
  | returning =>
    rw [List.append_nil]
    cases hnext
    exact h.return hright
  | returned => cases hnext

theorem inv_step (h : Inv execute schema₀ state record) {action : Action} {state' : State σ}
    (hstep : step order execute state action = some state') :
    Inv execute schema₀ state' (record ++ committed state action state') := by
  unfold step at hstep
  cases action with
  | start pid directory =>
    show Inv _ _ _ (record ++ [])
    rw [List.append_nil]
    dsimp only at hstep
    cases hprocess : state.processes pid with
    | some process =>
      rw [hprocess] at hstep
      cases hstep
    | none =>
      rw [hprocess] at hstep
      cases hstep
      exact h.goTo (fun hholds => (nomatch hholds)) trivial
  | next pid =>
    obtain ⟨process, hprocess, hnext⟩ := Option.bind_eq_some_iff.1 hstep
    exact inv_next h hprocess hnext
  | fail pid =>
    show Inv _ _ _ (record ++ [])
    rw [List.append_nil]
    dsimp only at hstep
    cases hprocess : state.processes pid with
    | none =>
      rw [hprocess] at hstep
      cases hstep
    | some process =>
      rw [hprocess] at hstep
      dsimp only at hstep
      have hthrowing : state' = state.goTo pid process .throwing := by
        split at hstep
        · cases hstep
        · cases hstep
        · cases hstep
        · exact (Option.some.inj hstep).symm
      rw [hthrowing]
      exact h.goTo (fun hholds => (nomatch hholds)) trivial
  | crash pid =>
    show Inv _ _ _ (record ++ [])
    rw [List.append_nil]
    dsimp only at hstep
    cases hprocess : state.processes pid with
    | none =>
      rw [hprocess] at hstep
      cases hstep
    | some process =>
      rw [hprocess] at hstep
      cases hstep
      exact h.exit

theorem inv_new (schema : σ) : Inv execute schema (State.new schema) [] where
  named := rfl
  once := List.nodup_nil
  replayed := rfl
  locked := fun _ _ hprocess => (nomatch hprocess)
  right := fun _ _ hprocess => (nomatch hprocess)

theorem inv_of_reaches {t : Recorded (State σ) File}
    (h : Reaches (recorded (step order execute) committed) ⟨State.new schema₀, []⟩ t) :
    Inv execute schema₀ t.state t.record := by
  refine @Runs.invariant _ _ _ _ (fun t => Inv execute schema₀ t.state t.record) _ _ h (inv_new schema₀)
    fun s action t hs _ hstep => ?_
  obtain ⟨hmove, hrecord⟩ := recorded_eq_some hstep
  rw [hrecord]
  exact inv_step hs hmove

end Invariant

/-- Whatever processes are started, with whatever directories, and wherever they fail or die: at most one at a time is
between taking the lock and giving it back, no file's transaction commits twice, `schema_migrations` names what has been
committed, the schema is what these files make one after the other, and a call that has returned has all its files there. -/
theorem migrations_once (order : String → String → Bool) (execute : String → σ → Except Failure σ) (schema₀ : σ)
    {t : Recorded (State σ) File}
    (h : Reaches (recorded (step order execute) committed) ⟨State.new schema₀, []⟩ t) :
    (∀ pid pid' process process', t.state.processes pid = some process → t.state.processes pid' = some process' →
      process.point.holds = true → process'.point.holds = true → pid = pid') ∧
    (t.record.map File.name).Nodup ∧ t.state.migrations.getD [] = t.record.map File.name ∧
    replay execute t.record schema₀ = .ok t.state.schema ∧
    ∀ pid process, t.state.processes pid = some process → process.point = .returned →
      ∀ file ∈ process.files, file.name ∈ t.record.map File.name := by
  have hinv := inv_of_reaches h
  refine ⟨fun pid pid' process process' hprocess hprocess' hholds hholds' => ?_, hinv.once, hinv.named, hinv.replayed,
    fun pid process hprocess hreturned => ?_⟩
  · have hlock := hinv.locked pid process hprocess hholds
    rw [hinv.locked pid' process' hprocess' hholds'] at hlock
    exact (Option.some.inj hlock).symm
  · have hright := hinv.right pid process hprocess
    rw [hreturned, hinv.named] at hright
    exact hright

/-! ### One directory -/

theorem files_nodup (order : String → String → Bool) (directory : Directory) :
    ((directory.files order).map File.name).Nodup := by
  have hperm : (directory.files order).Perm
      (directory.entries.filter fun file => ".sql".toList.isSuffixOf file.name.toList) := List.perm_insertionSort _ _
  exact (hperm.map _).nodup_iff.2 (directory.nodup.sublist (List.filter_sublist.map _))

/-- A prefix that has the names before a file, and not that of the file, ends before it. -/
theorem prefix_eq {record all files : List File} {file : File} (hnodup : (all.map File.name).Nodup)
    (hrecord : record <+: all) (hbefore : Before (record.map File.name) all (file :: files))
    (hnew : file.name ∉ record.map File.name) : all = record ++ file :: files := by
  obtain ⟨done, hall, hdone⟩ := hbefore.split
  have hfirst : done <+: all := ⟨file :: files, hall.symm⟩
  have heq : record = done := by
    rcases List.prefix_or_prefix_of_prefix hrecord hfirst with ⟨more, hmore⟩ | ⟨more, hmore⟩
    · cases more with
      | nil => simpa using hmore
      | cons other more =>
        have hother : other.name ∈ record.map File.name := hdone other (by simp [← hmore])
        rw [hall, ← hmore] at hnodup
        simp only [List.map_append, List.append_assoc] at hnodup
        exact absurd rfl ((List.nodup_append.1 hnodup).2.2 other.name hother other.name (by simp))
    · cases more with
      | nil => simpa using hmore.symm
      | cons other more =>
        obtain ⟨rest, hrest⟩ := hrecord
        rw [hall, ← hmore, List.append_assoc] at hrest
        have hsame : other = file := (List.cons.inj (List.append_cancel_left hrest)).1
        rw [← hmore, hsame] at hnew
        simp at hnew
  rw [heq]
  exact hall

/-- A prefix with all the names is the whole list. -/
theorem prefix_eq_all {record all : List File} (hnodup : (all.map File.name).Nodup) (hrecord : record <+: all)
    (hnames : ∀ file ∈ all, file.name ∈ record.map File.name) : record = all := by
  obtain ⟨rest, rfl⟩ := hrecord
  cases rest with
  | nil => simp
  | cons file rest =>
    have hmem := hnames file (by simp)
    rw [List.map_append] at hnodup
    exact absurd rfl ((List.nodup_append.1 hnodup).2.2 file.name hmem file.name (by simp))

/-- All processes are started with this directory. -/
def Only (directory : Directory) : Action → Prop
  | .start _ other => other = directory
  | _ => True

structure InOrder (order : String → String → Bool) (directory : Directory) (state : State σ) (record : List File) : Prop where
  files : ∀ pid process, state.processes pid = some process → process.files = directory.files order
  executed : record <+: directory.files order

section OneDirectory

variable {order : String → String → Bool} {execute : String → σ → Except Failure σ} {schema₀ : σ} {state state' : State σ}
  {record : List File} {directory : Directory}

/-- What a process awaits changes, or it ends. -/
theorem next_processes {pid : Nat} {process : Process σ} (h : next execute state pid process = some state') :
    ∃ value, state'.processes = Function.update state.processes pid value ∧
      ∀ process', value = some process' → process'.files = process.files := by
  unfold next at h
  repeat' split at h
  all_goals first
    | (cases h; done)
    | (cases h; exact ⟨_, rfl, fun _ heq => by cases heq <;> rfl⟩)

theorem step_files {action : Action} (h : step order execute state action = some state') (honly : Only directory action)
    (hfiles : ∀ pid process, state.processes pid = some process → process.files = directory.files order) :
    ∀ pid process, state'.processes pid = some process → process.files = directory.files order := by
  have hupdate : ∃ pid value, state'.processes = Function.update state.processes pid value ∧
      ∀ process, value = some process → process.files = directory.files order := by
    unfold step at h
    cases action with
    | start pid other =>
      have hother : other = directory := honly
      subst hother
      dsimp only at h
      split at h
      · cases h
      · cases h
        exact ⟨pid, _, rfl, fun _ heq => by cases heq; rfl⟩
    | next pid =>
      obtain ⟨process, hprocess, hnext⟩ := Option.bind_eq_some_iff.1 h
      obtain ⟨value, hprocesses, hvalue⟩ := next_processes hnext
      exact ⟨pid, value, hprocesses, fun process' heq => (hvalue process' heq).trans (hfiles pid process hprocess)⟩
    | fail pid =>
      dsimp only at h
      cases hprocess : state.processes pid with
      | none =>
        rw [hprocess] at h
        cases h
      | some process =>
        rw [hprocess] at h
        dsimp only at h
        refine ⟨pid, some { process with point := .throwing }, ?_, fun _ heq => ?_⟩
        · split at h
          · cases h
          · cases h
          · cases h
          · cases h
            rfl
        · cases heq
          exact hfiles pid process hprocess
    | crash pid =>
      dsimp only at h
      split at h
      · cases h
      · cases h
        exact ⟨pid, none, rfl, fun _ heq => (nomatch heq)⟩
  obtain ⟨changed, value, hprocesses, hvalue⟩ := hupdate
  intro pid process hprocess
  rw [hprocesses] at hprocess
  by_cases heq : pid = changed
  · rw [heq, Function.update_self] at hprocess
    exact hvalue process hprocess
  · rw [Function.update_of_ne heq] at hprocess
    exact hfiles pid process hprocess

/-- What a step commits is the next file of the directory. -/
theorem inOrder_step (hinv : Inv execute schema₀ state record) (h : InOrder order directory state record) {action : Action}
    (hstep : step order execute state action = some state') (honly : Only directory action) :
    InOrder order directory state' (record ++ committed state action state') := by
  refine ⟨step_files hstep honly h.files, ?_⟩
  unfold committed
  split
  · rename_i pid
    split
    · rename_i all file files schema hprocess
      obtain ⟨⟨hbefore, hnew⟩, -⟩ := hinv.right pid _ hprocess
      have hall : all = directory.files order := h.files pid _ hprocess
      rw [hinv.named] at hbefore hnew
      dsimp only at hbefore
      rw [hall] at hbefore
      have hnext := prefix_eq (files_nodup order directory) h.executed hbefore hnew
      refine ⟨files, ?_⟩
      rw [hnext]
      simp
    · rw [List.append_nil]
      exact h.executed
  · rw [List.append_nil]
    exact h.executed

end OneDirectory

/-- If all processes have the same directory, its files are executed in its order, and a call that has returned leaves the
schema that the whole directory makes. -/
theorem migrations_in_order (order : String → String → Bool) (execute : String → σ → Except Failure σ) (schema₀ : σ)
    (directory : Directory) {t : Recorded (State σ) File}
    (h : Runs (recorded (step order execute) committed) (fun _ action => Only directory action)
      ⟨State.new schema₀, []⟩ t) :
    t.record <+: directory.files order ∧ replay execute t.record schema₀ = .ok t.state.schema ∧
    ∀ pid process, t.state.processes pid = some process → process.point = .returned →
      replay execute (directory.files order) schema₀ = .ok t.state.schema := by
  have hinv := inv_of_reaches h.reaches
  have horder : InOrder order directory t.state t.record := by
    refine @Runs.invariant_of _ _ _ _ (fun t => InOrder order directory t.state t.record)
      (fun t => Inv execute schema₀ t.state t.record) _ _ h (fun u hu => inv_of_reaches hu.reaches) ?_ ?_
    · exact ⟨fun _ _ hprocess => (nomatch hprocess), List.nil_prefix⟩
    · intro s action t hs _ hin honly hstep
      obtain ⟨hmove, hrecord⟩ := recorded_eq_some hstep
      rw [hrecord]
      exact inOrder_step hs hin hmove honly
  refine ⟨horder.executed, hinv.replayed, fun pid process hprocess hreturned => ?_⟩
  have hall := hinv.right pid process hprocess
  rw [hreturned, hinv.named, horder.files pid process hprocess] at hall
  rw [← prefix_eq_all (files_nodup order directory) horder.executed hall]
  exact hinv.replayed

/-! ### A run -/

namespace Sample

def directory : Directory where
  entries := [⟨"002_more.sql", "more"⟩, ⟨"README.md", ""⟩, ⟨"001_init.sql", "init"⟩]
  nodup := by decide

def byName (left right : String) : Bool := decide (left.toList ≤ right.toList)

/-- The schema is the texts that have been executed. -/
def executeText (sql : String) (schema : List String) : Except Failure (List String) := .ok (schema ++ [sql])

def nexts (pid times : Nat) : List Action := List.replicate times (.next pid)

/-- The first process dies after it has executed the second file, before the file's COMMIT; the second one goes on. -/
def crashing : List Action :=
  [.start 1 directory, .start 2 directory] ++ nexts 1 10 ++ [.crash 1] ++ nexts 2 10

def run : Option (Recorded (State (List String)) File) :=
  Transition.execute (guarded (recorded (step byName executeText) committed) fun _ _ => true) ⟨State.new [], []⟩ crashing

theorem crashing_only : ∀ action ∈ crashing, Only directory action := by
  intro action haction
  unfold crashing nexts at haction
  rcases List.mem_append.1 haction with haction | haction
  · rcases List.mem_append.1 haction with haction | haction
    · rcases List.mem_append.1 haction with haction | haction
      · rcases List.mem_cons.1 haction with rfl | haction
        · rfl
        · rw [List.mem_singleton.1 haction]
          rfl
      · rw [List.eq_of_mem_replicate haction]
        trivial
    · rw [List.mem_singleton.1 haction]
      trivial
  · rw [List.eq_of_mem_replicate haction]
    trivial

end Sample

/-- What the second process leaves, and that it returns. -/
theorem migrations_in_order_crash : ∃ t, Sample.run = some t ∧
    t.record.map File.name = ["001_init.sql", "002_more.sql"] ∧
    (t.state.processes 2).map Process.point = some .returned ∧
    replay Sample.executeText (Sample.directory.files Sample.byName) [] = .ok t.state.schema := by
  have hseen : Sample.run.map (fun t => (t.record.map File.name, (t.state.processes 2).map Process.point)) =
      some (["001_init.sql", "002_more.sql"], some .returned) := by
    decide +kernel
  obtain ⟨t, hrun, ht⟩ := Option.map_eq_some_iff.1 hseen
  obtain ⟨hrecord, hpoint⟩ := Prod.mk.inj ht
  obtain ⟨process, hprocess, hreturned⟩ := Option.map_eq_some_iff.1 hpoint
  have hruns : Runs (recorded (step Sample.byName Sample.executeText) committed)
      (fun _ action => Only Sample.directory action) ⟨State.new [], []⟩ t :=
    (runs_of_execute_all Sample.crashing_only hrun).mono fun _ _ hok => hok.2
  exact ⟨t, hrun, hrecord, hpoint,
    (migrations_in_order Sample.byName Sample.executeText [] Sample.directory hruns).2.2 2 process hprocess hreturned⟩

/-- Both processes have had the lock, and nothing has been executed twice. -/
theorem migrations_once_crash : ∃ t, Sample.run = some t ∧ t.record.length = 2 ∧ (t.record.map File.name).Nodup ∧
    replay Sample.executeText t.record [] = .ok t.state.schema := by
  have hseen : Sample.run.map (fun t => t.record.length) = some 2 := by decide +kernel
  obtain ⟨t, hrun, ht⟩ := Option.map_eq_some_iff.1 hseen
  have honce := migrations_once Sample.byName Sample.executeText [] (runs_of_execute hrun).reaches
  exact ⟨t, hrun, ht, honce.2.1, honce.2.2.2.1⟩

end Migrations

end SmsPlatform
