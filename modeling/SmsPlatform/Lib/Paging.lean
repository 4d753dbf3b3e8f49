import Mathlib.Data.List.Nodup
import SmsPlatform.Lib.Queries

/-!
# Pages of a sorted query

Every page is a query of its own, which delivers rows of one time in an order of its own.  The pages together have each
row once, whatever these orders are, exactly if every page begins where the one before it ends and no rows of one time
lie on both sides of a boundary (`paged_perm_iff`).
-/

namespace Queries

variable {ρ : Type*} {createdAt : ρ → Int} {rows : List ρ}

/-- Rows of this time lie on both sides of the boundary: fewer rows are newer, and more are newer or of this time. -/
def Splits (createdAt : ρ → Int) (rows : List ρ) (boundary : Nat) (time : Int) : Prop :=
  rows.countP (fun row => decide (time < createdAt row)) < boundary ∧
    boundary < rows.countP fun row => decide (time ≤ createdAt row)

instance (boundary : Nat) (time : Int) : Decidable (Splits createdAt rows boundary time) :=
  inferInstanceAs (Decidable (_ ∧ _))

/-- The first `n` pages, one behind the other; `order k` are the rows as the query of the page `k` sorts them. -/
def paged (limit : Nat) (offset : Nat → Nat) (order : Nat → List ρ) : Nat → List ρ
  | 0 => []
  | n + 1 => paged limit offset order n ++ page limit (offset n) (order n)

/-- The rows in an order that `ORDER BY created_at DESC` may have. -/
def Ordered (createdAt : ρ → Int) (rows order : List ρ) : Prop :=
  order.Perm rows ∧ order.Pairwise fun a b => createdAt b ≤ createdAt a

theorem newestFirst_ordered (createdAt : ρ → Int) (tie : ρ → Nat) (rows : List ρ) :
    Ordered createdAt rows (newestFirst createdAt tie rows) := by
  refine ⟨List.mergeSort_perm rows _, (newestFirst_pairwise createdAt tie rows).imp fun h => ?_⟩
  omega

/-- Every such order is one that a query may deliver. -/
theorem newestFirst_idxOf [DecidableEq ρ] {order : List ρ} (h : Ordered createdAt rows order) (hnodup : rows.Nodup) :
    newestFirst createdAt order.idxOf rows = order := by
  have hnodup' : order.Nodup := h.1.nodup_iff.2 hnodup
  have hperm : (newestFirst createdAt order.idxOf rows).Perm order :=
    (newestFirst_ordered createdAt order.idxOf rows).1.trans h.1.symm
  refine hperm.eq_of_pairwise ?_ (newestFirst_pairwise createdAt order.idxOf rows) ?_
  · intro a b ha hb hab hba
    have hidx : order.idxOf a = order.idxOf b := by omega
    exact (List.idxOf_inj (hperm.mem_iff.1 ha)).1 hidx
  · rw [List.pairwise_iff_getElem]
    intro i j hi hj hij
    have hle := List.pairwise_iff_getElem.1 h.2 i j hi hj hij
    rw [hnodup'.idxOf_getElem, hnodup'.idxOf_getElem]
    omega

/-! ### Boundaries -/

theorem exists_split {l : List ρ} {i : Nat} (h : i < l.length) :
    ∃ before row after, l = before ++ row :: after ∧ before.length = i := by
  refine ⟨l.take i, l[i], l.drop (i + 1), ?_, ?_⟩
  · rw [← List.drop_eq_getElem_cons h, List.take_append_drop]
  · rw [List.length_take]
    omega

/-- A falling list is cut where a time begins. -/
theorem take_countP {l : List ρ} (h : l.Pairwise fun a b => createdAt b ≤ createdAt a) (time : Int) :
    l.take (l.countP fun row => decide (time ≤ createdAt row)) = l.filter fun row => decide (time ≤ createdAt row) := by
  induction l with
  | nil => rfl
  | cons row l ih =>
    obtain ⟨hhead, htail⟩ := List.pairwise_cons.1 h
    by_cases hrow : time ≤ createdAt row
    · rw [List.countP_cons_of_pos (by simpa using hrow), List.filter_cons_of_pos (by simpa using hrow),
        List.take_succ_cons, ih htail]
    · -- the rows behind an older one are older, too
      have hnone : ∀ other ∈ row :: l, ¬ time ≤ createdAt other := by
        intro other hother
        rcases List.mem_cons.1 hother with rfl | hother
        · exact hrow
        · have hle := hhead other hother
          omega
      rw [List.countP_eq_zero.2 (by simpa using hnone), List.filter_eq_nil_iff.2 (by simpa using hnone)]
      rfl

/-- At a boundary that is not split a time begins. -/
theorem exists_cut {l : List ρ} (h : l.Pairwise fun a b => createdAt b ≤ createdAt a) {boundary : Nat}
    (hpos : 0 < boundary) (hle : boundary ≤ l.length) (hsplits : ∀ time, ¬ Splits createdAt l boundary time) :
    ∃ time, (l.countP fun row => decide (time ≤ createdAt row)) = boundary := by
  obtain ⟨before, row, after, rfl, hlength⟩ := exists_split (show boundary - 1 < l.length by omega)
  obtain ⟨-, hafter, hcross⟩ := List.pairwise_append.1 h
  -- the time of the last row before the boundary
  refine ⟨createdAt row, ?_⟩
  have hnew : (before ++ row :: after).countP (fun other => decide (createdAt row < createdAt other)) ≤ before.length := by
    have hnone : (row :: after).countP (fun other => decide (createdAt row < createdAt other)) = 0 := by
      rw [List.countP_eq_zero]
      intro other hother
      rcases List.mem_cons.1 hother with rfl | hother
      · simp
      · simpa using (List.pairwise_cons.1 hafter).1 other hother
    rw [List.countP_append, hnone]
    exact List.countP_le_length
  have hold : before.length + 1 ≤ (before ++ row :: after).countP fun other => decide (createdAt row ≤ createdAt other) := by
    have hall : before.countP (fun other => decide (createdAt row ≤ createdAt other)) = before.length := by
      rw [List.countP_eq_length]
      intro other hother
      simpa using hcross other hother row List.mem_cons_self
    rw [List.countP_append, hall, List.countP_cons_of_pos (by simp)]
    omega
  have hnot := hsplits (createdAt row)
  unfold Splits at hnot
  omega

theorem not_splits_of_le {boundary : Nat} (h : rows.length ≤ boundary) (time : Int) :
    ¬ Splits createdAt rows boundary time := by
  rintro ⟨-, hlt⟩
  have hle := @List.countP_le_length ρ (fun row => decide (time ≤ createdAt row)) rows
  omega

/-- Up to a boundary that is not split all orders have the same rows. -/
theorem take_perm {order order' : List ρ} (h : Ordered createdAt rows order) (h' : Ordered createdAt rows order')
    {boundary : Nat} (hsplits : ∀ time, ¬ Splits createdAt rows boundary time) :
    (order.take boundary).Perm (order'.take boundary) := by
  have hperm := h.1.trans h'.1.symm
  by_cases hpos : 0 < boundary
  · by_cases hle : boundary ≤ order.length
    · obtain ⟨time, htime⟩ := exists_cut h.2 hpos hle fun time => by
        unfold Splits
        rw [h.1.countP_eq, h.1.countP_eq]
        exact hsplits time
      have htake := take_countP h.2 time
      have htake' := take_countP h'.2 time
      rw [htime] at htake
      rw [← hperm.countP_eq, htime] at htake'
      rw [htake, htake']
      exact hperm.filter _
    · rw [List.take_of_length_le (by omega), List.take_of_length_le (by rw [← hperm.length_eq]; omega)]
      exact hperm
  · obtain rfl : boundary = 0 := by omega
    exact List.Perm.nil

/-- Rows of one time that are neighbours lie on both sides of the boundary between them. -/
theorem neighbours_of_splits {before after : List ρ} {row next : ρ} {time : Int}
    (h : (before ++ row :: next :: after).Pairwise fun a b => createdAt b ≤ createdAt a)
    (hsplits : Splits createdAt (before ++ row :: next :: after) (before.length + 1) time) :
    createdAt row ≤ createdAt next := by
  obtain ⟨-, hafter, hcross⟩ := List.pairwise_append.1 h
  obtain ⟨hrow, hnext⟩ := List.pairwise_cons.1 hafter
  obtain ⟨hnew, hold⟩ := hsplits
  have hrow_le : createdAt row ≤ time := by
    by_contra hlt
    -- otherwise all rows before the boundary are newer
    have hall : (before ++ [row]).countP (fun other => decide (time < createdAt other)) = (before ++ [row]).length := by
      rw [List.countP_eq_length]
      intro other hother
      rw [decide_eq_true_eq]
      rcases List.mem_append.1 hother with hbefore | hmem
      · have hle := hcross other hbefore row List.mem_cons_self
        omega
      · rw [List.mem_singleton.1 hmem]
        omega
    rw [show before ++ row :: next :: after = (before ++ [row]) ++ next :: after by simp, List.countP_append, hall] at hnew
    simp only [List.length_append, List.length_singleton] at hnew
    omega
  have hle_next : time ≤ createdAt next := by
    by_contra hlt
    -- otherwise all rows behind the boundary are older
    have hnone : (next :: after).countP (fun other => decide (time ≤ createdAt other)) = 0 := by
      rw [List.countP_eq_zero]
      intro other hother
      rw [decide_eq_true_eq]
      rcases List.mem_cons.1 hother with rfl | hmem
      · exact hlt
      · have hle := (List.pairwise_cons.1 hnext).1 other hmem
        omega
    have hle := @List.countP_le_length ρ (fun other => decide (time ≤ createdAt other)) (before ++ [row])
    rw [show before ++ row :: next :: after = (before ++ [row]) ++ next :: after by simp, List.countP_append, hnone] at hold
    simp only [List.length_append, List.length_singleton] at hle
    omega
  omega

/-- Neighbours of one time may be delivered the other way round. -/
theorem Ordered.exchange {before after : List ρ} {row next : ρ}
    (h : Ordered createdAt rows (before ++ row :: next :: after)) (hequal : createdAt row ≤ createdAt next) :
    Ordered createdAt rows (before ++ next :: row :: after) := by
  refine ⟨((List.Perm.swap row next after).append_left before).trans h.1, ?_⟩
  obtain ⟨hbefore, hafter, hcross⟩ := List.pairwise_append.1 h.2
  obtain ⟨hrow, hrest⟩ := List.pairwise_cons.1 hafter
  obtain ⟨hnext, hlast⟩ := List.pairwise_cons.1 hrest
  have hle := hrow next List.mem_cons_self
  refine List.pairwise_append.2 ⟨hbefore, List.pairwise_cons.2 ⟨?_, List.pairwise_cons.2 ⟨?_, hlast⟩⟩, ?_⟩
  · intro other hother
    rcases List.mem_cons.1 hother with rfl | hmem
    · exact hequal
    · exact hnext other hmem
  · intro other hother
    exact hrow other (List.mem_cons_of_mem _ hother)
  · intro other hother
    have hleft := hcross other hother
    simpa [and_comm, or_left_comm] using hleft

/-! ### Pages -/

section Paged

variable {limit : Nat} {offset : Nat → Nat} {order : Nat → List ρ} {n : Nat}

theorem mem_paged {row : ρ} : row ∈ paged limit offset order n ↔ ∃ k < n, row ∈ page limit (offset k) (order k) := by
  induction n with
  | zero => simp [paged]
  | succ n ih =>
    rw [paged, List.mem_append, ih]
    constructor
    · rintro (⟨k, hk, hrow⟩ | hrow)
      · exact ⟨k, by omega, hrow⟩
      · exact ⟨n, by omega, hrow⟩
    · rintro ⟨k, hk, hrow⟩
      by_cases hlast : k = n
      · exact .inr (hlast ▸ hrow)
      · exact .inl ⟨k, by omega, hrow⟩

theorem mem_of_mem_paged (horder : ∀ k, (order k).Perm rows) {row : ρ} (h : row ∈ paged limit offset order n) : row ∈ rows := by
  obtain ⟨k, -, hrow⟩ := mem_paged.1 h
  exact (horder k).mem_iff.1 (List.mem_of_mem_drop (List.mem_of_mem_take hrow))

/-- A row of two pages is listed twice. -/
theorem paged_disjoint (h : (paged limit offset order n).Nodup) {j k : Nat} (hjk : j < k) (hk : k < n) {row : ρ}
    (hj : row ∈ page limit (offset j) (order j)) : row ∉ page limit (offset k) (order k) := by
  induction n with
  | zero => omega
  | succ n ih =>
    rw [paged, List.nodup_append] at h
    intro hrow
    by_cases hlast : k = n
    · subst hlast
      exact h.2.2 row (mem_paged.2 ⟨j, hjk, hj⟩) row hrow rfl
    · exact ih h.1 (by omega) hrow

/-- Items that tell rows apart are listed once each exactly if the rows are. -/
theorem perm_of_map_perm {ι : Type*} {item : ρ → ι} {listed : List ρ} (hitems : (rows.map item).Nodup)
    (hlisted : ∀ row ∈ listed, row ∈ rows) (h : (listed.map item).Perm (rows.map item)) : listed.Perm rows := by
  have hnodup : (listed.map item).Nodup := h.nodup_iff.2 hitems
  refine (List.perm_ext_iff_of_nodup hnodup.of_map hitems.of_map).2 fun row => ⟨hlisted row, fun hrow => ?_⟩
  obtain ⟨found, hfound, hitem⟩ := List.mem_map.1 (h.mem_iff.2 (List.mem_map_of_mem hrow))
  rw [← List.inj_on_of_nodup_map hitems (hlisted found hfound) hrow hitem]
  exact hfound

/-- Which row of a list is on a page. -/
theorem mem_page_iff {before after : List ρ} {row : ρ} {start : Nat} (hnodup : (before ++ row :: after).Nodup) :
    row ∈ page limit start (before ++ row :: after) ↔ start ≤ before.length ∧ before.length < start + limit := by
  obtain ⟨hbefore, hafter⟩ : row ∉ before ∧ row ∉ after := by
    rw [List.nodup_append] at hnodup
    exact ⟨fun h => hnodup.2.2 row h row List.mem_cons_self rfl, (List.nodup_cons.1 hnodup.2.1).1⟩
  unfold page
  by_cases hstart : start ≤ before.length
  · have hdrop : (before ++ row :: after).drop start = before.drop start ++ row :: after :=
      List.drop_append_of_le_length hstart
    have hnot : row ∉ (before.drop start).take limit := fun h => hbefore (List.mem_of_mem_drop (List.mem_of_mem_take h))
    rw [hdrop, List.take_append, List.mem_append, List.length_drop]
    simp only [hnot, false_or, hstart, true_and]
    by_cases hlimit : before.length < start + limit
    · obtain ⟨m, hm⟩ : ∃ m, limit - (before.length - start) = m + 1 := ⟨limit - (before.length - start) - 1, by omega⟩
      rw [hm, List.take_succ_cons]
      simp [hlimit]
    · have hm : limit - (before.length - start) = 0 := by omega
      rw [hm]
      simp [hlimit]
  · have hdrop : (before ++ row :: after).drop start = after.drop (start - before.length - 1) := by
      obtain ⟨m, rfl⟩ : ∃ m, start = before.length + (m + 1) := ⟨start - before.length - 1, by omega⟩
      rw [List.drop_append, List.drop_eq_nil_of_le (by omega)]
      simp
    have hnot : row ∉ (after.drop (start - before.length - 1)).take limit :=
      fun h => hafter (List.mem_of_mem_drop (List.mem_of_mem_take h))
    rw [hdrop]
    simp only [hnot, false_iff]
    omega

/-- Pages between boundaries that are not split have the rows up to the last boundary. -/
theorem paged_perm_take (horder : ∀ k, Ordered createdAt rows (order k))
    (hoffset : ∀ k < n, offset k = k * limit)
    (hsplits : ∀ k, 0 < k → k ≤ n → ∀ time, ¬ Splits createdAt rows (k * limit) time) {full : List ρ}
    (hfull : Ordered createdAt rows full) : (paged limit offset order n).Perm (full.take (n * limit)) := by
  induction n generalizing full with
  | zero => simp [paged]
  | succ n ih =>
    have hbefore := ih (fun k hk => hoffset k (by omega)) (fun k hpos hk => hsplits k hpos (by omega)) (horder n)
    have hpage : (order n).take (n * limit) ++ page limit (offset n) (order n) = (order n).take ((n + 1) * limit) := by
      rw [hoffset n (by omega), page, Nat.succ_mul, List.take_add]
    rw [paged]
    refine (hbefore.append_right _).trans ?_
    rw [hpage]
    exact take_perm (horder n) hfull (hsplits (n + 1) (by omega) (Nat.le_refl _))

/-- Pages of one order that have each row once begin where the page before ends. -/
theorem offset_eq {full : List ρ} (hnodup : full.Nodup) (hmono : ∀ j k, j ≤ k → offset j ≤ offset k)
    (hzero : offset 0 = 0) (hn : ∀ k < n, k * limit < full.length)
    (hperm : (paged limit offset (fun _ => full) n).Perm full) {k : Nat} (hk : k < n) : offset k = k * limit := by
  induction k with
  | zero => rw [hzero, Nat.zero_mul]
  | succ k ih =>
    have hprev := ih (by omega)
    have hend : (k + 1) * limit = k * limit + limit := Nat.succ_mul k limit
    have hle : offset (k + 1) ≤ (k + 1) * limit := by
      obtain ⟨before, row, after, hfull, hlength⟩ := exists_split (hn (k + 1) hk)
      obtain ⟨j, hj, hrow⟩ := mem_paged.1 (hperm.mem_iff.2 (show row ∈ full by simp [hfull]))
      rw [hfull, mem_page_iff (hfull ▸ hnodup)] at hrow
      -- the pages up to `k` end before the row
      have hlater : k + 1 ≤ j := by
        by_contra hjk
        have hle := hmono j k (by omega)
        omega
      have hle := hmono (k + 1) j hlater
      omega
    by_contra hne
    -- a page that begins earlier repeats a row of the page before it
    have hstart := hmono k (k + 1) (by omega)
    have hlt : offset (k + 1) < full.length := by
      have hlast := hn (k + 1) hk
      omega
    obtain ⟨before, row, after, hfull, hlength⟩ := exists_split hlt
    have hpage : row ∈ page limit (offset k) full := by
      rw [hfull, mem_page_iff (hfull ▸ hnodup)]
      omega
    refine paged_disjoint (hperm.nodup_iff.2 hnodup) (show k < k + 1 by omega) hk hpage ?_
    rw [hfull, mem_page_iff (hfull ▸ hnodup)]
    have hpos : 0 < limit := by omega
    omega

/-- Rows of one time on both sides of a boundary may come twice: the query of the page behind the boundary may deliver
the two neighbours of the boundary the other way round. -/
theorem not_splits_of_perm [DecidableEq ρ] (hnodup : rows.Nodup) (hlimit : 0 < limit)
    (hoffset : ∀ j < n, offset j = j * limit) (hn : ∀ k < n, k * limit < rows.length)
    (hall : ∀ ties : Nat → ρ → Nat, (paged limit offset (fun k => newestFirst createdAt (ties k) rows) n).Perm rows)
    {k : Nat} (hk : k < n) (hpos : 0 < k) (time : Int) : ¬ Splits createdAt rows (k * limit) time := by
  intro hsplits
  have hsorted := newestFirst_ordered createdAt (fun _ => 0) rows
  have hboundary : 0 < k * limit := Nat.mul_pos hpos hlimit
  have hprev : (k - 1) * limit + limit = k * limit := by
    rw [← Nat.succ_mul, Nat.succ_eq_add_one, Nat.sub_add_cancel hpos]
  have hlength := hsorted.1.length_eq
  have hbefore_lt := hn k hk
  obtain ⟨before, row, rest, hfull, hbefore⟩ :=
    exists_split (show k * limit - 1 < (newestFirst createdAt (fun _ => 0) rows).length by omega)
  obtain ⟨next, after, rfl⟩ : ∃ next after, rest = next :: after := by
    rw [hfull] at hlength
    induction rest with
    | nil => simp at hlength; omega
    | cons next after _ => exact ⟨next, after, rfl⟩
  have hsorted₀ := hfull ▸ hsorted
  have hequal : createdAt row ≤ createdAt next := by
    apply neighbours_of_splits hsorted₀.2
    unfold Splits
    rw [hsorted₀.1.countP_eq, hsorted₀.1.countP_eq, show before.length + 1 = k * limit by omega]
    exact hsplits
  have hexchanged := hsorted₀.exchange hequal
  -- the query of this page delivers the two neighbours the other way round
  obtain ⟨ties, hbefore_ties, hties⟩ : ∃ ties : Nat → ρ → Nat, ties (k - 1) = (fun _ => 0) ∧
      ties k = (before ++ next :: row :: after).idxOf := by
    refine ⟨fun j => if j = k then (before ++ next :: row :: after).idxOf else fun _ => 0, if_neg ?_, if_pos rfl⟩
    omega
  have hperm := hall ties
  have hpage : row ∈ page limit (offset (k - 1)) (newestFirst createdAt (ties (k - 1)) rows) := by
    rw [hbefore_ties, hfull, mem_page_iff (hsorted₀.1.nodup_iff.2 hnodup), hoffset (k - 1) (by omega)]
    omega
  refine paged_disjoint (hperm.nodup_iff.2 hnodup) (show k - 1 < k by omega) hk hpage ?_
  rw [hties, newestFirst_idxOf hexchanged hnodup, List.append_cons,
    mem_page_iff (by rw [← List.append_cons]; exact hexchanged.1.nodup_iff.2 hnodup), hoffset k hk]
  simp only [List.length_append, List.length_singleton]
  omega

/-- The pages have each row once, in whatever order each query delivers rows of one time, exactly if each page begins
where the one before it ends and no rows of one time lie on both sides of a boundary. -/
theorem paged_perm_iff [DecidableEq ρ] (hnodup : rows.Nodup) (hlimit : 0 < limit)
    (hmono : ∀ j k, j ≤ k → offset j ≤ offset k) (hzero : offset 0 = 0) (hlast : rows.length ≤ n * limit)
    (hn : ∀ k < n, k * limit < rows.length) :
    (∀ ties : Nat → ρ → Nat, (paged limit offset (fun k => newestFirst createdAt (ties k) rows) n).Perm rows) ↔
      ∀ k < n, offset k = k * limit ∧ (0 < k → ∀ time, ¬ Splits createdAt rows (k * limit) time) := by
  constructor
  · intro hall k hk
    have hsorted := newestFirst_ordered createdAt (fun _ => 0) rows
    have hoffset : ∀ j < n, offset j = j * limit := fun j hj =>
      offset_eq (hsorted.1.nodup_iff.2 hnodup) hmono hzero (fun j hj => hsorted.1.length_eq ▸ hn j hj)
        ((hall fun _ _ => 0).trans hsorted.1.symm) hj
    exact ⟨hoffset k hk, fun hpos time => not_splits_of_perm hnodup hlimit hoffset hn hall hk hpos time⟩
  · intro hpages ties
    have hfull := newestFirst_ordered createdAt (ties 0) rows
    have hperm := paged_perm_take (fun k => newestFirst_ordered createdAt (ties k) rows) (fun k hk => (hpages k hk).1)
      (fun k hpos hk time => by
        by_cases hlt : k < n
        · exact (hpages k hlt).2 hpos time
        · obtain rfl : k = n := by omega
          exact not_splits_of_le hlast time) hfull
    rw [List.take_of_length_le (by rw [hfull.1.length_eq]; exact hlast)] at hperm
    exact hperm.trans hfull.1

end Paged

end Queries
