import Mathlib.Data.List.DropRight
import SmsPlatform.Lib.Numerals

/-!
# Texts that are joined and cut

What cutting at a separator gives back of a list of texts that have been joined with it, when some of the texts contain
the separator (`splitOn_intercalate_flatMap`), and when the cut pieces still begin with the texts (`take_flatMap_iff`).
A text is tight if trimming leaves it as it is (`strip_eq_self_iff`).
-/

namespace Separated

/-! ### Cutting what has been joined -/

section Cutting

variable {α : Type} [DecidableEq α] {x : α} {texts : List (List α)} {text : List α}

/-- Every text is cut on its own. -/
theorem splitOn_intercalate_flatMap (x : α) (h : texts ≠ []) :
    ([x].intercalate texts).splitOn x = texts.flatMap fun text => text.splitOn x := by
  induction texts with
  | nil => exact absurd rfl h
  | cons first rest ih =>
    by_cases hrest : rest = []
    · subst hrest
      simp
    · rw [List.intercalate_cons_of_ne_nil hrest, List.append_assoc, List.singleton_append,
        List.splitOn_append_cons_self, ih hrest, List.flatMap_cons]

/-- The first piece is what stands before the first separator. -/
theorem splitOn_eq_takeWhile_cons (x : α) (text : List α) :
    text.splitOn x = text.takeWhile (· != x) :: (text.splitOn x).tail := by
  induction text with
  | nil => simp
  | cons c text ih =>
    rw [List.splitOn_cons_eq_if_modifyHead]
    by_cases hc : c = x
    · subst hc
      simp
    · rw [ih]
      simp [hc]

end Cutting

/-! ### Cells and their pieces -/

section Pieces

variable {α : Type} {pieces : α → List α} {cells more : List α}

/-- If every cell is its only piece or differs from its first one, the pieces begin with the cells exactly if every cell
is its only piece. -/
theorem take_flatMap_iff (h : ∀ cell ∈ cells, pieces cell = [cell] ∨ (pieces cell).head? ≠ some cell)
    (hne : ∀ cell ∈ cells, pieces cell ≠ []) :
    (cells.flatMap pieces ++ more).take cells.length = cells ↔ ∀ cell ∈ cells, pieces cell = [cell] := by
  induction cells with
  | nil => simp
  | cons cell cells ih =>
    have hrest := ih (fun other hother => h other (List.mem_cons_of_mem _ hother))
      fun other hother => hne other (List.mem_cons_of_mem _ hother)
    rw [List.forall_mem_cons, ← hrest]
    rcases h cell List.mem_cons_self with hsame | hother
    · rw [List.flatMap_cons, hsame]
      simp
    · -- the first piece of the cell stands in its place
      obtain ⟨first, pieces', hpieces⟩ := List.exists_cons_of_ne_nil (hne cell List.mem_cons_self)
      rw [hpieces] at hother
      have hfirst : first ≠ cell := by simpa using hother
      rw [List.flatMap_cons, hpieces]
      simp [hfirst]

theorem length_le_flatMap (hne : ∀ cell ∈ cells, pieces cell ≠ []) : cells.length ≤ (cells.flatMap pieces).length := by
  induction cells with
  | nil => simp
  | cons cell cells ih =>
    have hrest := ih fun other hother => hne other (List.mem_cons_of_mem _ hother)
    have hcell := List.length_pos_iff.2 (hne cell List.mem_cons_self)
    rw [List.flatMap_cons, List.length_append, List.length_cons]
    omega

theorem flatMap_eq_self (h : ∀ cell ∈ cells, pieces cell = [cell]) : cells.flatMap pieces = cells := by
  induction cells with
  | nil => rfl
  | cons cell cells ih =>
    rw [List.flatMap_cons, h cell List.mem_cons_self, ih fun other hother => h other (List.mem_cons_of_mem _ hother)]
    rfl

/-- A list agrees with the cells in every place but one exactly if it begins with the cells before that place and, behind
it, goes on with those behind it. -/
theorem getElem?_eq_iff {list : List α} {n : Nat} (hn : n < cells.length) :
    (∀ i < cells.length, i ≠ n → list[i]? = cells[i]?) ↔ list.take n = cells.take n ∧
      (list.drop (n + 1)).take (cells.drop (n + 1)).length = cells.drop (n + 1) := by
  constructor
  · intro h
    constructor
    · refine List.ext_getElem? fun i => ?_
      rw [List.getElem?_take, List.getElem?_take]
      by_cases hi : i < n
      · rw [if_pos hi, if_pos hi]
        exact h i (by omega) (by omega)
      · rw [if_neg hi, if_neg hi]
    · refine List.ext_getElem? fun i => ?_
      rw [List.length_drop, List.getElem?_take, List.getElem?_drop, List.getElem?_drop]
      by_cases hi : i < cells.length - (n + 1)
      · rw [if_pos hi]
        exact h (n + 1 + i) (by omega) (by omega)
      · rw [if_neg hi, List.getElem?_eq_none (by omega)]
  · rintro ⟨hbefore, hafter⟩ i hi hne
    rcases Nat.lt_or_gt_of_ne hne with hlt | hgt
    · have hget := congrArg (fun list => list[i]?) hbefore
      simpa [List.getElem?_take, hlt] using hget
    · have hget := congrArg (fun list => list[i - (n + 1)]?) hafter
      simp only [List.length_drop, List.getElem?_take, List.getElem?_drop] at hget
      rw [if_pos (by omega), show n + 1 + (i - (n + 1)) = i by omega] at hget
      exact hget

end Pieces

/-! ### Tight texts -/

open Numerals

/-- The text begins and ends with no white space. -/
structure Tight (text : List Char) : Prop where
  head : ∀ c ∈ text.head?, isSpace c = false
  last : ∀ c ∈ text.getLast?, isSpace c = false

variable {text before after : List Char} {c : Char}

theorem strip_eq_self_iff : strip text = text ↔ Tight text := by
  have hstrip : strip text = (text.dropWhile isSpace).rdropWhile isSpace := rfl
  have hfront : text.dropWhile isSpace = text ↔ ∀ c ∈ text.head?, isSpace c = false := by
    cases text <;> simp
  have hback : text.rdropWhile isSpace = text ↔ ∀ c ∈ text.getLast?, isSpace c = false := by
    rw [List.rdropWhile_eq_self_iff]
    by_cases hnil : text = []
    · simp [hnil]
    · simp [hnil, List.getLast?_eq_some_getLast]
  rw [hstrip]
  constructor
  · intro h
    -- nothing is dropped in front, for a text that has become shorter does not get longer again
    have hinner := (List.rdropWhile_prefix isSpace (l := text.dropWhile isSpace)).length_le
    rw [h] at hinner
    have houter : text.dropWhile isSpace = text :=
      (List.dropWhile_suffix isSpace).eq_of_length_le hinner
    rw [houter] at h
    exact ⟨hfront.1 houter, hback.1 h⟩
  · intro h
    rw [hfront.2 h.head, hback.2 h.last]

/-- Trimming does not take away what is not white space. -/
theorem filter_strip {p : Char → Bool} (h : ∀ c, isSpace c = true → p c = false) (text : List Char) :
    (strip text).filter p = text.filter p := by
  have hdrop : ∀ text : List Char, (text.dropWhile isSpace).filter p = text.filter p := by
    intro text
    induction text with
    | nil => rfl
    | cons c text ih =>
      by_cases hc : isSpace c = true
      · rw [List.dropWhile_cons_of_pos hc, ih, List.filter_cons_of_neg (by simp [h c hc])]
      · rw [List.dropWhile_cons_of_neg hc]
  unfold strip
  rw [List.filter_reverse, hdrop, List.filter_reverse, List.reverse_reverse, hdrop]

theorem mem_of_mem_strip (h : c ∈ strip text) : c ∈ text := by
  unfold strip at h
  rw [List.mem_reverse] at h
  have hinner := (List.dropWhile_sublist isSpace).mem h
  rw [List.mem_reverse] at hinner
  exact (List.dropWhile_sublist isSpace).mem hinner

/-- Two tight texts with something between them that is no white space. -/
theorem Tight.join (hbefore : Tight before) (hafter : Tight after) (hc : isSpace c = false) :
    Tight (before ++ c :: after) := by
  constructor
  · intro d hd
    rw [List.head?_append, List.head?_cons] at hd
    cases hhead : before.head? with
    | none =>
      rw [hhead] at hd
      obtain rfl : c = d := by simpa using hd
      exact hc
    | some first =>
      rw [hhead] at hd
      exact hbefore.head d (by rw [hhead]; exact hd)
  · intro d hd
    rw [List.getLast?_append, List.getLast?_cons] at hd
    cases hlast : after.getLast? with
    | none =>
      rw [hlast] at hd
      obtain rfl : c = d := by simpa using hd
      exact hc
    | some last =>
      rw [hlast] at hd
      exact hafter.last d (by rw [hlast]; simpa using hd)

/-- Two tight texts that are not empty, with anything between them. -/
theorem Tight.append (hbefore : Tight before) (hafter : Tight after) (hne : before ≠ []) (hne' : after ≠ []) (c : Char) :
    Tight (before ++ c :: after) := by
  constructor
  · intro d hd
    rw [List.head?_append_of_ne_nil _ hne] at hd
    exact hbefore.head d hd
  · intro d hd
    rw [List.getLast?_append, List.getLast?_cons, List.getLast?_eq_some_getLast hne'] at hd
    refine hafter.last d ?_
    rw [List.getLast?_eq_some_getLast hne']
    simpa using hd

end Separated
