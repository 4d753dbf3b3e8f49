import Mathlib.Data.List.Nodup
import Mathlib.Algebra.BigOperators.Group.List.Basic
import Mathlib.Tactic.Abel
import Mathlib.Data.List.Perm.Basic

/-!
# Tables as lists of rows

A table is a list of rows.  An UPDATE that names a key replaces one row in place: `splitFirst` finds the row and
the two parts of the table around it, and the updated table is the two parts with the new row between them.
`Keyed key rows` says that no two rows share a key; replacing a row by one with the same key keeps it
(`Keyed.replace`), and then a key names one row (`Keyed.unique`).  An UPDATE with any WHERE clause is `update`.
-/

namespace Rows

variable {ρ κ : Type*}

/-- The first row on which `p` holds, with the rows before and after it. -/
def splitFirst (p : ρ → Bool) : List ρ → Option (List ρ × ρ × List ρ)
  | [] => none
  | r :: rows =>
    if p r then some ([], r, rows)
    else (splitFirst p rows).map fun parts => (r :: parts.1, parts.2)

theorem splitFirst_eq_none {p : ρ → Bool} {rows : List ρ} :
    splitFirst p rows = none ↔ ∀ r ∈ rows, p r = false := by
  induction rows with
  | nil => simp [splitFirst]
  | cons r rows ih =>
    by_cases h : p r = true
    · simp [splitFirst, h]
    · simp [splitFirst, h, ih]

theorem eq_append_of_splitFirst {p : ρ → Bool} {rows before after : List ρ} {r : ρ}
    (h : splitFirst p rows = some (before, r, after)) : rows = before ++ r :: after ∧ p r = true := by
  induction rows generalizing before with
  | nil => simp [splitFirst] at h
  | cons x rows ih =>
    unfold splitFirst at h
    split at h
    · rename_i hx
      simp only [Option.some.injEq, Prod.mk.injEq] at h
      obtain ⟨rfl, rfl, rfl⟩ := h
      exact ⟨rfl, hx⟩
    · simp only [Option.map_eq_some_iff, Prod.exists, Prod.mk.injEq] at h
      obtain ⟨b, r', a, hs, rfl, rfl, rfl⟩ := h
      obtain ⟨rfl, hr⟩ := ih hs
      exact ⟨rfl, hr⟩

/-- A row that is found at a place of the list is the first one, or found in the rest. -/
theorem exists_split_cons {first : ρ} {rest : List ρ} {P : List ρ → ρ → Prop} :
    (∃ before r after, first :: rest = before ++ r :: after ∧ P before r) ↔
      P [] first ∨ ∃ before r after, rest = before ++ r :: after ∧ P (first :: before) r := by
  constructor
  · rintro ⟨before, r, after, hsplit, h⟩
    cases before with
    | nil =>
      obtain ⟨rfl, rfl⟩ := List.cons.inj hsplit
      exact .inl h
    | cons head before =>
      obtain ⟨rfl, rfl⟩ := List.cons.inj hsplit
      exact .inr ⟨before, r, after, rfl, h⟩
  · rintro (h | ⟨before, r, after, rfl, h⟩)
    · exact ⟨[], first, rest, rfl, h⟩
    · exact ⟨first :: before, r, after, rfl, h⟩

/-- No two rows share a key. -/
def Keyed (key : ρ → κ) (rows : List ρ) : Prop := (rows.map key).Nodup

theorem Keyed.unique {key : ρ → κ} {rows : List ρ} (h : Keyed key rows) {r s : ρ} (hr : r ∈ rows)
    (hs : s ∈ rows) (he : key r = key s) : r = s :=
  List.inj_on_of_nodup_map h hr hs he

theorem Keyed.replace {key : ρ → κ} {before after : List ρ} {r r' : ρ}
    (h : Keyed key (before ++ r :: after)) (he : key r' = key r) : Keyed key (before ++ r' :: after) := by
  unfold Keyed at h ⊢
  simpa only [List.map_append, List.map_cons, he] using h

theorem Keyed.append_singleton_iff {key : ρ → κ} {rows : List ρ} {r : ρ} :
    Keyed key (rows ++ [r]) ↔ Keyed key rows ∧ ∀ s ∈ rows, key s ≠ key r := by
  unfold Keyed
  rw [List.map_append, List.map_singleton, List.nodup_append]
  simp

theorem Keyed.append_fresh {key : ρ → κ} {rows : List ρ} (h : Keyed key rows) {r : ρ}
    (hr : ∀ s ∈ rows, key s ≠ key r) : Keyed key (rows ++ [r]) := Keyed.append_singleton_iff.2 ⟨h, hr⟩

/-- A key names at most one row. -/
theorem Keyed.length_filter_le [DecidableEq κ] {key : ρ → κ} {rows : List ρ} (h : Keyed key rows) (k : κ) :
    (rows.filter fun r => decide (key r = k)).length ≤ 1 := by
  have hkeys : (rows.filter fun r => decide (key r = k)).map key =
      List.replicate (rows.filter fun r => decide (key r = k)).length k := by
    rw [List.eq_replicate_iff, List.length_map]
    refine ⟨rfl, fun k' hk' => ?_⟩
    obtain ⟨r, hr, rfl⟩ := List.mem_map.1 hk'
    exact of_decide_eq_true (List.mem_filter.1 hr).2
  have hnodup : ((rows.filter fun r => decide (key r = k)).map key).Nodup := h.sublist (List.filter_sublist.map key)
  rw [hkeys] at hnodup
  exact List.nodup_replicate.1 hnodup

/-- A row of the updated table is the new row or a row of the old table. -/
theorem mem_replace {before after : List ρ} {r r' x : ρ} (hx : x ∈ before ++ r' :: after) :
    x = r' ∨ x ∈ before ++ r :: after := by
  simp only [List.mem_append, List.mem_cons] at hx ⊢
  rcases hx with hx | hx | hx
  · exact .inr (.inl hx)
  · exact .inl hx
  · exact .inr (.inr (.inr hx))

/-- Every row of the old table but the replaced one is still there. -/
theorem mem_replace_of_ne {before after : List ρ} {r r' x : ρ} (hx : x ∈ before ++ r :: after) (hne : x ≠ r) :
    x ∈ before ++ r' :: after := by
  simp only [List.mem_append, List.mem_cons] at hx ⊢
  rcases hx with hx | hx | hx
  · exact .inl hx
  · exact absurd hx hne
  · exact .inr (.inr hx)

/-- Taking one entry out of a list. -/
theorem perm_cons_eraseIdx {rows : List ρ} {i : Nat} {r : ρ} (h : rows[i]? = some r) :
    rows.Perm (r :: rows.eraseIdx i) := by
  obtain ⟨hlt, rfl⟩ := List.getElem?_eq_some_iff.1 h
  exact (List.getElem_cons_eraseIdx_perm hlt).symm

/-- An UPDATE of all rows on which `p` holds. -/
def update (p : ρ → Bool) (f : ρ → ρ) (rows : List ρ) : List ρ := rows.map fun r => if p r then f r else r

theorem mem_update {p : ρ → Bool} {f : ρ → ρ} {rows : List ρ} {x : ρ} :
    x ∈ update p f rows ↔ ∃ r ∈ rows, (p r = true ∧ x = f r) ∨ (p r = false ∧ x = r) := by
  unfold update
  rw [List.mem_map]
  constructor
  · rintro ⟨r, hr, rfl⟩
    refine ⟨r, hr, ?_⟩
    by_cases h : p r = true
    · rw [if_pos h]
      exact .inl ⟨h, rfl⟩
    · rw [if_neg h]
      exact .inr ⟨by simpa using h, rfl⟩
  · rintro ⟨r, hr, ⟨h, hx⟩ | ⟨h, hx⟩⟩
    · exact ⟨r, hr, by rw [if_pos h, hx]⟩
    · exact ⟨r, hr, by rw [if_neg (by rw [h]; exact Bool.false_ne_true), hx]⟩

/-- A column that the UPDATE does not assign. -/
theorem map_update {p : ρ → Bool} {f : ρ → ρ} {column : ρ → κ} (h : ∀ r, column (f r) = column r) (rows : List ρ) :
    (update p f rows).map column = rows.map column := by
  unfold update
  rw [List.map_map]
  refine List.map_congr_left fun r _ => ?_
  show column (if p r then f r else r) = column r
  split
  · exact h r
  · rfl

/-- What a query makes of the rows before and after an UPDATE of at most one row. -/
theorem filterMap_update_perm_iff {p : ρ → Bool} {f : ρ → ρ} {see : ρ → Option κ} {rows : List ρ}
    (hone : rows.Pairwise fun r t => ¬ (p r = true ∧ p t = true)) :
    ((update p f rows).filterMap see).Perm (rows.filterMap see) ↔ ∀ r ∈ rows, p r = true → see (f r) = see r := by
  unfold update
  induction rows with
  | nil => simp
  | cons r rows ih =>
    obtain ⟨hhead, htail⟩ := List.pairwise_cons.1 hone
    rw [List.map_cons, List.forall_mem_cons]
    by_cases hp : p r = true
    · have hrest : rows.map (fun t => if p t then f t else t) = rows := by
        refine (List.map_congr_left fun t ht => ?_).trans (List.map_id rows)
        exact if_neg fun hpt => hhead t ht ⟨hp, hpt⟩
      have hothers : ∀ t ∈ rows, p t = true → see (f t) = see t := fun t ht hpt => absurd ⟨hp, hpt⟩ (hhead t ht)
      rw [hrest, if_pos hp, List.filterMap_cons, List.filterMap_cons]
      constructor
      · intro hperm
        refine ⟨fun _ => ?_, hothers⟩
        cases hnew : see (f r) with
        | none =>
          cases hold : see r with
          | none => rfl
          | some old =>
            rw [hnew, hold] at hperm
            exact absurd hperm.length_eq (by simp)
        | some new =>
          cases hold : see r with
          | none =>
            rw [hnew, hold] at hperm
            exact absurd hperm.length_eq (by simp)
          | some old =>
            rw [hnew, hold] at hperm
            have hheads : [new].Perm [old] := (List.perm_append_right_iff _).1 hperm
            simpa using hheads
      · rintro ⟨hsame, -⟩
        rw [hsame hp]
    · rw [if_neg hp, List.filterMap_cons, List.filterMap_cons]
      cases see r with
      | none => exact (ih htail).trans ⟨fun h => ⟨fun hpr => absurd hpr hp, h⟩, And.right⟩
      | some seen =>
        show (seen :: _).Perm (seen :: _) ↔ _
        rw [List.perm_cons]
        exact (ih htail).trans ⟨fun h => ⟨fun hpr => absurd hpr hp, h⟩, And.right⟩

/-! ### Rows changed in place -/

section InPlace

variable {R : ρ → ρ → Prop} {rows rows' : List ρ}

theorem forall₂_replace (hrefl : ∀ r, R r r) {before after : List ρ} {r r' : ρ} (h : R r r') :
    List.Forall₂ R (before ++ r :: after) (before ++ r' :: after) := by
  induction before with
  | nil => exact .cons h (List.forall₂_same.2 fun s _ => hrefl s)
  | cons first before ih => exact .cons (hrefl first) ih

theorem forall₂_update (hrefl : ∀ r, R r r) {p : ρ → Bool} {f : ρ → ρ} (h : ∀ r ∈ rows, p r = true → R r (f r)) :
    List.Forall₂ R rows (update p f rows) := by
  unfold update
  rw [List.forall₂_map_right_iff, List.forall₂_same]
  intro r hr
  by_cases hp : p r = true
  · rw [if_pos hp]
    exact h r hr hp
  · rw [if_neg hp]
    exact hrefl r

/-- A column that no change assigns. -/
theorem map_eq_of_forall₂ {column : ρ → κ} (h : List.Forall₂ R rows rows') (hR : ∀ r r', R r r' → column r' = column r) :
    rows'.map column = rows.map column := by
  induction h with
  | nil => rfl
  | cons hrow _ ih => rw [List.map_cons, List.map_cons, hR _ _ hrow, ih]

/-- Rows that no change touches, and none becomes one of them. -/
theorem filter_eq_of_forall₂ {own : ρ → Bool} (h : List.Forall₂ R rows rows')
    (hR : ∀ r r', R r r' → r' = r ∨ (own r = false ∧ own r' = false)) : rows'.filter own = rows.filter own := by
  induction h with
  | nil => rfl
  | cons hrow _ ih =>
    rcases hR _ _ hrow with rfl | ⟨hbefore, hafter⟩
    · rw [List.filter_cons, List.filter_cons, ih]
    · rw [List.filter_cons_of_neg (by simp [hafter]), List.filter_cons_of_neg (by simp [hbefore]), ih]

theorem exists_of_forall₂ (h : List.Forall₂ R rows rows') {r : ρ} (hr : r ∈ rows) : ∃ r' ∈ rows', R r r' := by
  induction h with
  | nil => simp at hr
  | @cons first first' _ _ hrow _ ih =>
    rcases List.mem_cons.1 hr with rfl | hr
    · exact ⟨first', by simp, hrow⟩
    · obtain ⟨r', hr', hrow'⟩ := ih hr
      exact ⟨r', by simp [hr'], hrow'⟩

end InPlace

/-! ### Sums -/

/-- The change of a sum over the table when one row is replaced. -/
theorem sum_replace {M : Type*} [AddCommGroup M] (f : ρ → M) (before after : List ρ) (r r' : ρ) :
    ((before ++ r' :: after).map f).sum = ((before ++ r :: after).map f).sum - f r + f r' := by
  simp only [List.map_append, List.map_cons, List.sum_append, List.sum_cons]
  abel

/-- A sum over the rows that satisfy a condition, as a sum over all rows. -/
theorem sum_filter {M : Type*} [AddCommMonoid M] (p : ρ → Bool) (f : ρ → M) (rows : List ρ) :
    ((rows.filter p).map f).sum = (rows.map fun r => if p r then f r else 0).sum := by
  induction rows with
  | nil => rfl
  | cons r rows ih =>
    by_cases h : p r = true
    · simp [h, ih]
    · simp [h, ih]

end Rows
