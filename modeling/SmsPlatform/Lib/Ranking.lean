import Mathlib.Data.List.Sort

/-!
# Ranked lists

Facts about the head of a sorted list.  A stable sort by a key puts in front the first entry with the least key
(`head?_insertionSort`), also when the list has been filtered before (`firstLeast_filter`).  In a list without repetitions
that is sorted by falling scores, the first two entries tell whether one entry has a score above all others
(`sole_cons_iff`).  A list sorted by a comparison is in its order (`pairwise_insertionSort_isLE`).
-/

namespace Ranking

variable {ρ κ : Type*} [LinearOrder κ] {key : ρ → κ} {rows : List ρ} {row : ρ}

/-! ### The first of the least -/

/-- Among the entries on which `p` holds, the first one with the least key. -/
def FirstLeast (p : ρ → Prop) (key : ρ → κ) (rows : List ρ) (row : ρ) : Prop :=
  ∃ before after, rows = before ++ row :: after ∧ p row ∧ (∀ other ∈ before, p other → key row < key other) ∧
    ∀ other ∈ after, p other → key row ≤ key other

theorem FirstLeast.mem {p : ρ → Prop} (h : FirstLeast p key rows row) : row ∈ rows := by
  obtain ⟨before, after, rfl, -⟩ := h
  simp

theorem FirstLeast.holds {p : ρ → Prop} (h : FirstLeast p key rows row) : p row := by
  obtain ⟨_, _, -, hp, -⟩ := h
  exact hp

theorem FirstLeast.le {p : ρ → Prop} (h : FirstLeast p key rows row) {other : ρ} (hmem : other ∈ rows) (hp : p other) :
    key row ≤ key other := by
  obtain ⟨before, after, rfl, -, hbefore, hafter⟩ := h
  rcases List.mem_append.1 hmem with hmem | hmem
  · exact (hbefore other hmem hp).le
  · rcases List.mem_cons.1 hmem with rfl | hmem
    · exact le_rfl
    · exact hafter other hmem hp

theorem firstLeast_nil {p : ρ → Prop} : ¬ FirstLeast p key [] row := by
  rintro ⟨before, after, h, -⟩
  simp at h

/-- The first of the least is the head, or it is so in the rest and the head is no match for it. -/
theorem firstLeast_cons {p : ρ → Prop} {head : ρ} : FirstLeast p key (head :: rows) row ↔
    (row = head ∧ p head ∧ ∀ other ∈ rows, p other → key head ≤ key other) ∨
      (FirstLeast p key rows row ∧ (p head → key row < key head)) := by
  constructor
  · rintro ⟨before, after, hsplit, hp, hbefore, hafter⟩
    cases before with
    | nil =>
      obtain ⟨rfl, rfl⟩ := List.cons.inj hsplit
      exact .inl ⟨rfl, hp, hafter⟩
    | cons first before =>
      obtain ⟨rfl, rfl⟩ := List.cons.inj hsplit
      exact .inr ⟨⟨before, after, rfl, hp, fun other hother => hbefore other (by simp [hother]), hafter⟩,
        hbefore head (by simp)⟩
  · rintro (⟨rfl, hp, hrest⟩ | ⟨⟨before, after, rfl, hp, hbefore, hafter⟩, hhead⟩)
    · exact ⟨[], rows, rfl, hp, by simp, hrest⟩
    · refine ⟨head :: before, after, rfl, hp, ?_, hafter⟩
      intro other hother hpo
      rcases List.mem_cons.1 hother with rfl | hother
      · exact hhead hpo
      · exact hbefore other hother hpo

/-- There is only one. -/
theorem FirstLeast.unique {p : ρ → Prop} {row' : ρ} (h : FirstLeast p key rows row) (h' : FirstLeast p key rows row') :
    row = row' := by
  induction rows with
  | nil => exact absurd h firstLeast_nil
  | cons head rows ih =>
    rcases firstLeast_cons.1 h with ⟨rfl, hp, hrest⟩ | ⟨hfirst, hhead⟩ <;>
      rcases firstLeast_cons.1 h' with ⟨rfl, hp', hrest'⟩ | ⟨hfirst', hhead'⟩
    · rfl
    · exact absurd (hrest row' hfirst'.mem hfirst'.holds) (hhead' hp).not_ge
    · exact absurd (hrest' row hfirst.mem hfirst.holds) (hhead hp').not_ge
    · exact ih hfirst hfirst'

theorem exists_firstLeast {p : ρ → Prop} (h : ∃ row ∈ rows, p row) : ∃ row, FirstLeast p key rows row := by
  induction rows with
  | nil => simp at h
  | cons head rows ih =>
    by_cases hrest : ∃ row ∈ rows, p row
    · obtain ⟨row, hrow⟩ := ih hrest
      by_cases hhead : p head → key row < key head
      · exact ⟨row, firstLeast_cons.2 (.inr ⟨hrow, hhead⟩)⟩
      · obtain ⟨hp, hle⟩ := Classical.not_imp.1 hhead
        refine ⟨head, firstLeast_cons.2 (.inl ⟨rfl, hp, fun other hother hpo => ?_⟩)⟩
        exact (not_lt.1 hle).trans (hrow.le hother hpo)
    · obtain ⟨row, hrow, hp⟩ := h
      rcases List.mem_cons.1 hrow with rfl | hrow
      · exact ⟨row, firstLeast_cons.2 (.inl ⟨rfl, hp, fun other hother hpo => absurd ⟨other, hother, hpo⟩ hrest⟩)⟩
      · exact absurd ⟨row, hrow, hp⟩ hrest

theorem firstLeast_filter {p : ρ → Prop} [DecidablePred p] :
    FirstLeast (fun _ => True) key (rows.filter fun row => decide (p row)) row ↔ FirstLeast p key rows row := by
  induction rows with
  | nil => simp [firstLeast_nil]
  | cons head rows ih =>
    by_cases hp : p head
    · rw [List.filter_cons_of_pos (by simp [hp]), firstLeast_cons, firstLeast_cons, ih]
      simp [hp]
    · rw [List.filter_cons_of_neg (by simp [hp]), firstLeast_cons, ih]
      simp [hp]

theorem firstLeast_map {σ : Type*} {key : σ → κ} {make : ρ → σ} {made : σ} :
    FirstLeast (fun _ => True) key (rows.map make) made ↔
      ∃ row, FirstLeast (fun _ => True) (fun row => key (make row)) rows row ∧ made = make row := by
  induction rows generalizing made with
  | nil => simp [firstLeast_nil]
  | cons head rows ih =>
    simp only [List.map_cons, firstLeast_cons, ih]
    constructor
    · rintro (⟨rfl, -, hrest⟩ | ⟨⟨row, hfirst, rfl⟩, hlt⟩)
      · exact ⟨head, .inl ⟨rfl, trivial, by simpa using hrest⟩, rfl⟩
      · exact ⟨row, .inr ⟨hfirst, hlt⟩, rfl⟩
    · rintro ⟨row, ⟨rfl, -, hrest⟩ | ⟨hfirst, hlt⟩, rfl⟩
      · exact .inl ⟨rfl, trivial, by simpa using hrest⟩
      · exact .inr ⟨⟨row, hfirst, rfl⟩, hlt⟩

/-- The first of the least has a property exactly if every entry without it is beaten by an entry with it. -/
theorem firstLeast_has_iff {p q : ρ → Prop} : (∀ row, FirstLeast p key rows row → q row) ↔
    ∀ before row after, rows = before ++ row :: after → p row → ¬ q row →
      (∃ better ∈ before, p better ∧ q better ∧ key better ≤ key row) ∨
        ∃ better ∈ after, p better ∧ q better ∧ key better < key row := by
  constructor
  · rintro h before row after rfl hp hq
    obtain ⟨least, hleast⟩ : ∃ least, FirstLeast p key (before ++ row :: after) least :=
      exists_firstLeast ⟨row, by simp, hp⟩
    have hql := h least hleast
    have hne : least ≠ row := fun heq => hq (heq ▸ hql)
    have hle : key least ≤ key row := hleast.le (by simp) hp
    obtain ⟨before', after', hsplit, hpl, hbefore, -⟩ := hleast
    rcases List.append_eq_append_iff.1 hsplit with ⟨between, rfl, hrest⟩ | ⟨between, rfl, hrest⟩
    · -- the least entry lies behind, so the row before it is greater
      cases between with
      | nil => exact absurd (List.cons.inj hrest).1.symm hne
      | cons first between =>
        obtain ⟨rfl, rfl⟩ := List.cons.inj hrest
        exact .inr ⟨least, by simp, hpl, hql, hbefore row (by simp) hp⟩
    · cases between with
      | nil => exact absurd (List.cons.inj hrest).1 hne
      | cons first between =>
        obtain ⟨rfl, -⟩ := List.cons.inj hrest
        exact .inl ⟨least, by simp, hpl, hql, hle⟩
  · rintro h row ⟨before, after, hsplit, hp, hbefore, hafter⟩
    by_contra hq
    rcases h before row after hsplit hp hq with ⟨better, hmem, hpb, -, hle⟩ | ⟨better, hmem, hpb, -, hlt⟩
    · exact absurd (hbefore better hmem hpb) hle.not_gt
    · exact absurd (hafter better hmem hpb) hlt.not_ge

/-- What a stable sort by the key puts in front. -/
theorem head?_insertionSort : (rows.insertionSort fun a b => key a ≤ key b).head? = some row ↔
    FirstLeast (fun _ => True) key rows row := by
  induction rows generalizing row with
  | nil => simp [firstLeast_nil]
  | cons head rows ih =>
    rw [firstLeast_cons]
    simp only [List.insertionSort_cons]
    cases hsort : rows.insertionSort fun a b => key a ≤ key b with
    | nil =>
      have hnil : rows = [] := by
        rw [← List.length_eq_zero_iff, ← List.length_insertionSort (fun a b => key a ≤ key b) rows, hsort]
        rfl
      subst hnil
      simp [firstLeast_nil, eq_comm]
    | cons best sorted =>
      rw [hsort] at ih
      have hbest : FirstLeast (fun _ => True) key rows best := ih.1 rfl
      rw [List.orderedInsert_cons]
      split
      · rename_i hle
        constructor
        · intro h
          cases h
          exact .inl ⟨rfl, trivial, fun other hother _ => hle.trans (hbest.le hother trivial)⟩
        · rintro (⟨rfl, -⟩ | ⟨hfirst, hlt⟩)
          · rfl
          · rw [hfirst.unique hbest] at hlt
            exact absurd hle (hlt trivial).not_ge
      · rename_i hlt
        constructor
        · intro h
          cases h
          exact .inr ⟨hbest, fun _ => not_le.1 hlt⟩
        · rintro (⟨rfl, -, hrest⟩ | ⟨hfirst, -⟩)
          · exact absurd (hrest best hbest.mem trivial) hlt
          · rw [hfirst.unique hbest]
            rfl

/-! ### A score above all others -/

/-- The entry has a score above that of every other entry. -/
def Sole (score : ρ → κ) (rows : List ρ) (row : ρ) : Prop := row ∈ rows ∧ ∀ other ∈ rows, other ≠ row → score other < score row

theorem Sole.unique {score : ρ → κ} {row' : ρ} (h : Sole score rows row) (h' : Sole score rows row') : row = row' := by
  by_contra hne
  exact absurd (h.2 row' h'.1 (Ne.symm hne)) (h'.2 row h.1 hne).not_gt

/-- In a sorted list the first two entries tell whether there is such an entry. -/
theorem sole_cons_iff {score : ρ → κ} {best : ρ} (hsorted : (best :: rows).Pairwise fun a b => score b ≤ score a)
    (hnodup : (best :: rows).Nodup) :
    Sole score (best :: rows) row ↔ row = best ∧ ∀ runnerUp ∈ rows.head?, score runnerUp < score best := by
  obtain ⟨hbest, hrest⟩ := List.pairwise_cons.1 hsorted
  obtain ⟨hfresh, -⟩ := List.nodup_cons.1 hnodup
  constructor
  · rintro ⟨hmem, habove⟩
    have hrow : row = best := by
      by_contra hne
      have hlt := habove best (by simp) (Ne.symm hne)
      rcases List.mem_cons.1 hmem with heq | hmem
      · exact hne heq
      · exact absurd (hbest row hmem) hlt.not_ge
    subst hrow
    refine ⟨rfl, fun runnerUp hrunner => ?_⟩
    have hmem := List.mem_of_mem_head? hrunner
    exact habove runnerUp (by simp [hmem]) fun heq => hfresh (heq ▸ hmem)
  · rintro ⟨rfl, hrunner⟩
    refine ⟨by simp, fun other hother hne => ?_⟩
    rcases List.mem_cons.1 hother with heq | hother
    · exact absurd heq hne
    · cases rows with
      | nil => simp at hother
      | cons runnerUp rest =>
        have hlt := hrunner runnerUp (by simp)
        rcases List.mem_cons.1 hother with rfl | hother
        · exact hlt
        · exact ((List.pairwise_cons.1 hrest).1 other hother).trans_lt hlt

/-! ### Sorting by a comparison -/

theorem pairwise_insertionSort_isLE (cmp : ρ → ρ → Ordering) [Std.TransCmp cmp] (rows : List ρ) :
    (rows.insertionSort fun a b => (cmp a b).isLE = true).Pairwise fun a b => (cmp a b).isLE = true := by
  have htotal : Std.Total fun a b : ρ => (cmp a b).isLE = true := ⟨fun a b => by
    have hswap : cmp b a = (cmp a b).swap := Std.OrientedCmp.eq_swap
    rw [hswap, Ordering.isLE_swap]
    cases cmp a b <;> simp⟩
  have htrans : IsTrans ρ fun a b => (cmp a b).isLE = true := ⟨fun _ _ _ => Std.TransCmp.isLE_trans⟩
  exact List.pairwise_insertionSort _ rows

end Ranking
