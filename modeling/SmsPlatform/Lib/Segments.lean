import Mathlib.Data.String.Basic

/-!
# Keys made of segments

A key is a list of segments joined by colons.  Segments without a colon can be read back from the key, so two keys
are equal only when they are made of the same segments (`joinColon_injective`).  Where a segment may contain colons
itself, the segments before it are read from the front (`joinColon_cons_inj`) and those behind it from the end
(`joinColon_snoc_inj`).
-/

namespace Segments

/-- Text without a colon. -/
structure Segment where
  text : String
  colonFree : ':' ∉ text.toList
  deriving DecidableEq

theorem Segment.ext_text {s t : Segment} (h : s.text = t.text) : s = t := by
  cases s; cases t; simpa using h

def joinColon (parts : List String) : String := String.intercalate ":" parts

theorem joinColon_injective {l₁ l₂ : List String} (h₁ : ∀ s ∈ l₁, ':' ∉ s.toList) (h₂ : ∀ s ∈ l₂, ':' ∉ s.toList)
    (n₁ : l₁ ≠ []) (n₂ : l₂ ≠ []) (h : joinColon l₁ = joinColon l₂) : l₁ = l₂ := by
  have e₁ := String.toList_split_intercalate h₁
  have e₂ := String.toList_split_intercalate h₂
  rw [if_neg n₁] at e₁
  rw [if_neg n₂] at e₂
  change ((joinColon l₁).split ':').toList.map (·.copy) = l₁ at e₁
  change ((joinColon l₂).split ':').toList.map (·.copy) = l₂ at e₂
  rw [h] at e₁
  exact e₁.symm.trans e₂

private theorem append_colon_inj {p p' r r' : List Char} (hp : ':' ∉ p) (hp' : ':' ∉ p')
    (h : p ++ ':' :: r = p' ++ ':' :: r') : p = p' ∧ r = r' := by
  induction p generalizing p' with
  | nil =>
    cases p' with
    | nil => exact ⟨rfl, by simpa using h⟩
    | cons c p' =>
      rw [List.nil_append, List.cons_append, List.cons.injEq] at h
      exact absurd (h.1 ▸ List.mem_cons_self) hp'
  | cons c p ih =>
    cases p' with
    | nil =>
      rw [List.nil_append, List.cons_append, List.cons.injEq] at h
      exact absurd (h.1 ▸ List.mem_cons_self) hp
    | cons c' p' =>
      rw [List.cons_append, List.cons_append, List.cons.injEq] at h
      obtain ⟨hpp, hr⟩ := ih (fun hc => hp (List.mem_cons_of_mem _ hc)) (fun hc => hp' (List.mem_cons_of_mem _ hc)) h.2
      exact ⟨by rw [h.1, hpp], hr⟩

private theorem toList_joinColon_cons {s : String} {l : List String} (hl : l ≠ []) :
    (joinColon (s :: l)).toList = s.toList ++ ':' :: (joinColon l).toList := by
  unfold joinColon
  rw [String.intercalate_cons_of_ne_nil hl, String.toList_append, String.toList_append]
  simp

/-- The first segment of a key, up to its first colon. -/
theorem joinColon_cons_inj {s t : String} {l m : List String} (hs : ':' ∉ s.toList) (ht : ':' ∉ t.toList)
    (hl : l ≠ []) (hm : m ≠ []) (h : joinColon (s :: l) = joinColon (t :: m)) :
    s = t ∧ joinColon l = joinColon m := by
  have hlist := congrArg String.toList h
  rw [toList_joinColon_cons hl, toList_joinColon_cons hm] at hlist
  obtain ⟨h₁, h₂⟩ := append_colon_inj hs ht hlist
  exact ⟨String.toList_inj.1 h₁, String.toList_inj.1 h₂⟩

private theorem toList_joinColon_snoc {s : String} {l : List String} (hl : l ≠ []) :
    (joinColon (l ++ [s])).toList = (joinColon l).toList ++ ':' :: s.toList := by
  induction l with
  | nil => exact absurd rfl hl
  | cons a l ih =>
    cases l with
    | nil =>
      rw [List.singleton_append, toList_joinColon_cons (by simp)]
      simp [joinColon]
    | cons b l =>
      have hne : b :: l ≠ [] := List.cons_ne_nil b l
      rw [List.cons_append, toList_joinColon_cons (l := b :: l ++ [s]) (by simp), ih hne,
        toList_joinColon_cons (l := b :: l) hne, List.append_assoc, List.cons_append]

/-- The last segment of a key, after its last colon. -/
theorem joinColon_snoc_inj {s t : String} {l m : List String} (hs : ':' ∉ s.toList) (ht : ':' ∉ t.toList)
    (hl : l ≠ []) (hm : m ≠ []) (h : joinColon (l ++ [s]) = joinColon (m ++ [t])) :
    s = t ∧ joinColon l = joinColon m := by
  have hlist := congrArg (fun key => key.toList.reverse) h
  simp only [toList_joinColon_snoc hl, toList_joinColon_snoc hm, List.reverse_append, List.reverse_cons,
    List.append_assoc, List.singleton_append] at hlist
  obtain ⟨h₁, h₂⟩ := append_colon_inj (by simpa using hs) (by simpa using ht) hlist
  rw [List.reverse_inj] at h₁ h₂
  exact ⟨String.toList_inj.1 h₁, String.toList_inj.1 h₂⟩

theorem colon_not_mem_repr (n : Nat) : ':' ∉ n.repr.toList := by
  rw [Nat.toList_repr]
  intro h
  have := Nat.isDigit_of_mem_toDigits (by decide) (by decide) h
  exact absurd this (by decide)

theorem repr_injective {m n : Nat} (h : m.repr = n.repr) : m = n := by
  have hd : Nat.toDigits 10 m = Nat.toDigits 10 n := by
    rw [← Nat.toList_repr, ← Nat.toList_repr, h]
  rw [← Nat.ofDigitChars_ten_toDigits (n := m), hd, Nat.ofDigitChars_ten_toDigits]

end Segments
