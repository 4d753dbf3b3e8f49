import Mathlib.Data.List.Basic

/-!
# Queries over a table

A table is the list of its rows.  `select` is a WHERE of conditions joined by AND, `newestFirst` and `oldestFirst` are an
ORDER BY of a time, `page` is LIMIT and OFFSET.  Two tables that agree on the rows of one condition (`Agree`) cannot be
told apart by a query that has this condition among its own (`Agree.select`) or implies it (`Agree.filter`).  The first
row by falling time on which a condition holds is a `Latest` one, and any latest one may be it
(`exists_tie_find?_newestFirst`).
-/

namespace Queries

variable {ρ : Type*}

/-- `ORDER BY created_at DESC`; `tie` is the order in which PostgreSQL happens to deliver rows of one time. -/
def newestFirst (createdAt : ρ → Int) (tie : ρ → Nat) (rows : List ρ) : List ρ :=
  rows.mergeSort fun a b =>
    decide (createdAt b < createdAt a ∨ (createdAt a = createdAt b ∧ tie a ≤ tie b))

/-- `ORDER BY created_at ASC`. -/
def oldestFirst (createdAt : ρ → Int) (tie : ρ → Nat) (rows : List ρ) : List ρ :=
  rows.mergeSort fun a b =>
    decide (createdAt a < createdAt b ∨ (createdAt a = createdAt b ∧ tie a ≤ tie b))

/-- `LIMIT 1` without an order: the row that PostgreSQL happens to deliver first. -/
def first (tie : ρ → Nat) (rows : List ρ) : Option ρ := (rows.mergeSort fun a b => decide (tie a ≤ tie b)).head?

def page (limit offset : Nat) (rows : List ρ) : List ρ := (rows.drop offset).take limit

def select (filters : List (ρ → Bool)) (rows : List ρ) : List ρ :=
  rows.filter fun row => filters.all fun holds => holds row

/-- The tables have the same rows among those for which `own` holds. -/
def Agree (own : ρ → Bool) (rows rows' : List ρ) : Prop := rows.filter own = rows'.filter own

section

variable {own : ρ → Bool} {filters : List (ρ → Bool)} {rows rows' : List ρ}

theorem mem_newestFirst {createdAt : ρ → Int} {tie : ρ → Nat} {row : ρ} :
    row ∈ newestFirst createdAt tie rows ↔ row ∈ rows := List.mem_mergeSort

/-- The order of at most one row. -/
theorem newestFirst_of_length_le {createdAt : ρ → Int} (tie : ρ → Nat) {rows : List ρ} (h : rows.length ≤ 1) :
    newestFirst createdAt tie rows = rows := by
  unfold newestFirst
  match rows, h with
  | [], _ => simp
  | [row], _ => simp

/-- Rows that are in the order of their times already. -/
theorem oldestFirst_of_pairwise {createdAt : ρ → Int} (tie : ρ → Nat) {rows : List ρ}
    (h : rows.Pairwise fun a b => createdAt a < createdAt b) : oldestFirst createdAt tie rows = rows :=
  List.mergeSort_of_pairwise (h.imp fun hlt => decide_eq_true (.inl hlt))

theorem mem_of_first {tie : ρ → Nat} {row : ρ} (h : first tie rows = some row) : row ∈ rows :=
  List.mem_mergeSort.1 (List.mem_of_head? h)

theorem first_of_mem (tie : ρ → Nat) {row : ρ} (h : row ∈ rows) : ∃ found, first tie rows = some found := by
  cases hfirst : first tie rows with
  | some found => exact ⟨found, rfl⟩
  | none =>
    have hnil : rows.mergeSort (fun a b => decide (tie a ≤ tie b)) = [] := List.head?_eq_none_iff.1 hfirst
    have hmem : row ∈ rows.mergeSort fun a b => decide (tie a ≤ tie b) := List.mem_mergeSort.2 h
    rw [hnil] at hmem
    exact absurd hmem List.not_mem_nil

/-- A condition of the query may be applied first. -/
theorem select_filter (hown : own ∈ filters) : select filters (rows.filter own) = select filters rows := by
  unfold select
  rw [List.filter_filter]
  refine List.filter_congr fun row _ => ?_
  by_cases hall : (filters.all fun holds => holds row) = true
  · have hrow : own row = true := List.all_eq_true.1 hall own hown
    rw [hall, hrow]
    rfl
  · rw [Bool.not_eq_true] at hall
    rw [hall]
    rfl

/-- A condition that only rows of `own` meet. -/
theorem Agree.filter {p : ρ → Bool} (h : Agree own rows rows') (hp : ∀ row, p row = true → own row = true) :
    rows.filter p = rows'.filter p := by
  have hown : ∀ rows : List ρ, (rows.filter own).filter p = rows.filter p := by
    intro rows
    rw [List.filter_filter]
    refine List.filter_congr fun row _ => ?_
    by_cases hrow : p row = true
    · rw [hrow, hp row hrow]
      rfl
    · rw [Bool.not_eq_true] at hrow
      rw [hrow]
      rfl
  rw [← hown rows, h, hown rows']

/-- A join leaves out the rows that join with nothing. -/
theorem flatMap_filter {κ : Type*} {join : ρ → List κ} (h : ∀ row ∈ rows, own row = false → join row = []) :
    (rows.filter own).flatMap join = rows.flatMap join := by
  induction rows with
  | nil => rfl
  | cons row rows ih =>
    have hrest := ih fun other hother => h other (List.mem_cons_of_mem _ hother)
    by_cases hrow : own row = true
    · rw [List.filter_cons_of_pos hrow, List.flatMap_cons, List.flatMap_cons, hrest]
    · rw [List.filter_cons_of_neg hrow, List.flatMap_cons, h row (by simp) (by simpa using hrow), hrest]
      rfl

theorem Agree.select (h : Agree own rows rows') (filters : List (ρ → Bool)) (hown : own ∈ filters) :
    select filters rows = select filters rows' := by
  rw [← select_filter hown, h, select_filter hown]

end

/-! ### The latest row -/

/-- A row on which the condition holds, and no later row. -/
def Latest (createdAt : ρ → Int) (p : ρ → Prop) (rows : List ρ) (row : ρ) : Prop :=
  row ∈ rows ∧ p row ∧ ∀ other ∈ rows, p other → createdAt other ≤ createdAt row

section Latest

variable {createdAt : ρ → Int} {p q : ρ → Prop} {rows : List ρ} {row : ρ}

theorem exists_latest (h : ∃ row ∈ rows, p row) : ∃ row, Latest createdAt p rows row := by
  induction rows with
  | nil => simp at h
  | cons head rows ih =>
    by_cases hrest : ∃ row ∈ rows, p row
    · obtain ⟨row, hrow, hp, hlatest⟩ := ih hrest
      by_cases hhead : p head ∧ createdAt row < createdAt head
      · refine ⟨head, by simp, hhead.1, fun other hother hpo => ?_⟩
        rcases List.mem_cons.1 hother with rfl | hother
        · exact Int.le_refl _
        · have hle := hlatest other hother hpo
          omega
      · refine ⟨row, by simp [hrow], hp, fun other hother hpo => ?_⟩
        rcases List.mem_cons.1 hother with rfl | hother
        · exact Int.not_lt.1 fun hlt => hhead ⟨hpo, hlt⟩
        · exact hlatest other hother hpo
    · obtain ⟨row, hrow, hp⟩ := h
      rcases List.mem_cons.1 hrow with rfl | hrow
      · refine ⟨row, by simp, hp, fun other hother hpo => ?_⟩
        rcases List.mem_cons.1 hother with rfl | hother
        · exact Int.le_refl _
        · exact absurd ⟨other, hother, hpo⟩ hrest
      · exact absurd ⟨row, hrow, hp⟩ hrest

/-- Every latest row among those of `p` is one among those of `q` exactly if each row of `p` alone has a later row of
`q`. -/
theorem latest_sub_iff (hsub : ∀ row ∈ rows, q row → p row) :
    (∀ row, Latest createdAt p rows row → Latest createdAt q rows row) ↔
      ∀ row ∈ rows, p row → ¬ q row → ∃ later ∈ rows, q later ∧ createdAt row < createdAt later := by
  constructor
  · intro h row hrow hp hq
    obtain ⟨latest, hlatest⟩ : ∃ latest, Latest createdAt p rows latest := exists_latest ⟨row, hrow, hp⟩
    obtain ⟨hmem, hql, -⟩ := h latest hlatest
    refine ⟨latest, hmem, hql, Int.lt_of_not_ge fun hle => hq ?_⟩
    -- otherwise the row would be a latest one itself
    exact (h row ⟨hrow, hp, fun other hother hpo => Int.le_trans (hlatest.2.2 other hother hpo) hle⟩).2.1
  · rintro h row ⟨hrow, hp, hlatest⟩
    have hq : q row := by
      by_contra hq
      obtain ⟨later, hmem, hql, hlt⟩ := h row hrow hp hq
      have hle := hlatest later hmem (hsub later hmem hql)
      omega
    exact ⟨hrow, hq, fun other hother hqo => hlatest other hother (hsub other hother hqo)⟩

theorem newestFirst_pairwise (createdAt : ρ → Int) (tie : ρ → Nat) (rows : List ρ) :
    (newestFirst createdAt tie rows).Pairwise fun a b =>
      createdAt b < createdAt a ∨ (createdAt a = createdAt b ∧ tie a ≤ tie b) := by
  refine (List.pairwise_mergeSort ?_ ?_ rows).imp fun h => of_decide_eq_true h
  · intro a b c hab hbc
    rw [decide_eq_true_eq] at *
    omega
  · intro a b
    rw [Bool.or_eq_true, decide_eq_true_eq, decide_eq_true_eq]
    omega

theorem find?_newestFirst_latest {tie : ρ → Nat} {holds : ρ → Bool}
    (h : (newestFirst createdAt tie rows).find? holds = some row) :
    Latest createdAt (fun row => holds row = true) rows row := by
  obtain ⟨hp, before, after, hsplit, hbefore⟩ := List.find?_eq_some_iff_append.1 h
  have hsorted := newestFirst_pairwise createdAt tie rows
  have hmem : row ∈ newestFirst createdAt tie rows := by simp [hsplit]
  refine ⟨mem_newestFirst.1 hmem, hp, fun other hother hpo => ?_⟩
  rw [hsplit] at hsorted
  have hplace : other ∈ before ++ row :: after := hsplit ▸ mem_newestFirst.2 hother
  rcases List.mem_append.1 hplace with hplace | hplace
  · have hnot := hbefore other hplace
    simp [hpo] at hnot
  · rcases List.mem_cons.1 hplace with rfl | hplace
    · exact Int.le_refl _
    · have hle := (List.pairwise_cons.1 (List.pairwise_append.1 hsorted).2.1).1 other hplace
      omega

/-- Any latest row may be delivered first. -/
theorem exists_tie_find?_newestFirst [DecidableEq ρ] {holds : ρ → Bool} :
    (∃ tie, (newestFirst createdAt tie rows).find? holds = some row) ↔
      Latest createdAt (fun row => holds row = true) rows row := by
  constructor
  · rintro ⟨tie, h⟩
    exact find?_newestFirst_latest h
  · rintro ⟨hrow, hp, hlatest⟩
    let tie : ρ → Nat := fun other => if other = row then 0 else 1
    refine ⟨tie, ?_⟩
    have hmem : row ∈ newestFirst createdAt tie rows := mem_newestFirst.2 hrow
    cases hfind : (newestFirst createdAt tie rows).find? holds with
    | none => exact absurd hp (List.find?_eq_none.1 hfind row hmem)
    | some found =>
      obtain ⟨hpf, before, after, hsplit, hbefore⟩ := List.find?_eq_some_iff_append.1 hfind
      have hfound : found ∈ newestFirst createdAt tie rows := by simp [hsplit]
      have hlate := hlatest found (mem_newestFirst.1 hfound) hpf
      rw [hsplit] at hmem
      rcases List.mem_append.1 hmem with hplace | hplace
      · have hnot := hbefore row hplace
        simp [hp] at hnot
      · rcases List.mem_cons.1 hplace with rfl | hplace
        · rfl
        · have hsorted := newestFirst_pairwise createdAt tie rows
          rw [hsplit] at hsorted
          have hle := (List.pairwise_cons.1 (List.pairwise_append.1 hsorted).2.1).1 row hplace
          have hzero : tie row = 0 := if_pos rfl
          have hfz : tie found = 0 := by omega
          have heq : found = row := by
            by_contra hne
            have hone : tie found = 1 := if_neg hne
            omega
          rw [heq]

theorem latest_filter {holds : ρ → Bool} : Latest createdAt p (rows.filter holds) row ↔
    Latest createdAt (fun row => holds row = true ∧ p row) rows row := by
  unfold Latest
  simp only [List.mem_filter, and_imp]
  constructor
  · rintro ⟨⟨hrow, hholds⟩, hp, hlatest⟩
    exact ⟨hrow, ⟨hholds, hp⟩, hlatest⟩
  · rintro ⟨hrow, ⟨hholds, hp⟩, hlatest⟩
    exact ⟨⟨hrow, hholds⟩, hp, hlatest⟩

end Latest

end Queries
