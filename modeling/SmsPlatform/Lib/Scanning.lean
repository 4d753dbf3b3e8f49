import Mathlib.Data.List.Basic
import Mathlib.Tactic.Common

/-!
# Scanning a text for a pattern

A pattern says of a piece of text whether it matches, and what it captures then.  `Cuts` cuts a text at the leftmost
non-overlapping matches of a pattern: into pieces, each a literal text and the match after it, and a tail.  A text can be
cut in one way only (`Cuts.unique`), and in one (`exists_cuts`), if a function reads the pattern at the beginning of a text
(`Reads`).  The loops of a regular expression with the global flag, `matchAll` and `replace`, go through the text step by
step; what they return is read off the cut (`Cuts.matchAll`, `Cuts.replace`).
-/

namespace Scanning

variable {α β : Type*}

/-! ### Cutting a text -/

/-- A literal text, and the match after it with what the match captures. -/
structure Piece (α β : Type*) where
  literal : List α
  matched : List α
  capture : β

/-- A match begins where the text does. -/
def Starts (pattern : List α → β → Prop) (text : List α) : Prop :=
  ∃ matched capture rest, pattern matched capture ∧ text = matched ++ rest

/-- No match begins in the literal text when `rest` comes after it. -/
def Quiet (pattern : List α → β → Prop) (literal rest : List α) : Prop :=
  ∀ before c after, literal = before ++ c :: after → ¬ Starts pattern (c :: after ++ rest)

/-- The leftmost non-overlapping matches of a pattern in a text. -/
inductive Cuts (pattern : List α → β → Prop) : List α → List (Piece α β) → List α → Prop
  | tail {text : List α} (hquiet : Quiet pattern text []) : Cuts pattern text [] text
  | piece {literal matched rest : List α} {capture : β} {pieces : List (Piece α β)} {tail : List α}
      (hquiet : Quiet pattern literal (matched ++ rest)) (hmatch : pattern matched capture)
      (hrest : Cuts pattern rest pieces tail) :
      Cuts pattern (literal ++ (matched ++ rest)) (⟨literal, matched, capture⟩ :: pieces) tail

/-- The text that is made of the pieces when every match is replaced. -/
def substitute (replacement : β → List α) (pieces : List (Piece α β)) (tail : List α) : List α :=
  pieces.flatMap (fun piece => piece.literal ++ replacement piece.capture) ++ tail

section Cutting

variable {pattern : List α → β → Prop}

/-- The pieces and the tail are the text. -/
theorem Cuts.text {text tail : List α} {pieces : List (Piece α β)}
    (h : Cuts pattern text pieces tail) : text = pieces.flatMap (fun piece => piece.literal ++ piece.matched) ++ tail := by
  induction h with
  | tail => rfl
  | piece _ _ _ ih => simp [← ih]

theorem quiet_nil {rest : List α} : Quiet pattern [] rest := by
  intro before c after h
  simp at h

theorem quiet_cons {c : α} {literal rest : List α} :
    Quiet pattern (c :: literal) rest ↔ ¬ Starts pattern (c :: (literal ++ rest)) ∧ Quiet pattern literal rest := by
  constructor
  · intro h
    refine ⟨h [] c literal rfl, fun before d after hsplit => ?_⟩
    exact h (c :: before) d after (by rw [hsplit]; rfl)
  · rintro ⟨hhead, htail⟩ before d after hsplit
    cases before with
    | nil =>
      obtain ⟨rfl, rfl⟩ := List.cons.inj hsplit
      exact hhead
    | cons first before =>
      obtain ⟨rfl, rfl⟩ := List.cons.inj hsplit
      exact htail before d after rfl

/-- A quiet text has no match anywhere. -/
theorem Quiet.no_match {literal matched rest : List α} {capture : β}
    (hnone : Quiet pattern (literal ++ (matched ++ rest)) []) (h : pattern matched capture) (hne : matched ≠ []) : False := by
  obtain ⟨c, matched', rfl⟩ := List.exists_cons_of_ne_nil hne
  refine hnone literal c (matched' ++ rest) rfl ⟨c :: matched', capture, rest, h, ?_⟩
  simp

/-- The literal text before the first match is the same in every cut. -/
theorem Quiet.literal_unique {literal literal' matched matched' rest rest' : List α} {capture capture' : β}
    (hquiet : Quiet pattern literal (matched ++ rest)) (hquiet' : Quiet pattern literal' (matched' ++ rest'))
    (h : pattern matched capture) (h' : pattern matched' capture')
    (htext : literal ++ (matched ++ rest) = literal' ++ (matched' ++ rest')) :
    literal = literal' ∧ matched ++ rest = matched' ++ rest' := by
  induction literal generalizing literal' with
  | nil =>
    cases literal' with
    | nil => exact ⟨rfl, htext⟩
    | cons c literal' =>
      exfalso
      refine (quiet_cons.1 hquiet').1 ?_
      exact ⟨matched, capture, rest, h, htext.symm⟩
  | cons c literal ih =>
    cases literal' with
    | nil =>
      exfalso
      refine (quiet_cons.1 hquiet).1 ?_
      exact ⟨matched', capture', rest', h', htext⟩
    | cons d literal' =>
      obtain ⟨rfl, hrest⟩ := List.cons.inj htext
      obtain ⟨rfl, hmatches⟩ := ih (quiet_cons.1 hquiet).2 (quiet_cons.1 hquiet').2 hrest
      exact ⟨rfl, hmatches⟩

end Cutting

/-! ### Reading a match -/

/-- The function reads the pattern at the beginning of a text: what is captured, and the text after the match. -/
structure Reads (pattern : List α → β → Prop) (matchAt : List α → Option (β × List α)) : Prop where
  spec : ∀ text capture rest, matchAt text = some (capture, rest) ↔
    ∃ matched, pattern matched capture ∧ text = matched ++ rest
  nonempty : ∀ matched capture, pattern matched capture → matched ≠ []

section Reads

variable {pattern : List α → β → Prop} {matchAt : List α → Option (β × List α)} (hreads : Reads pattern matchAt)

include hreads

theorem Reads.starts_iff {text : List α} : Starts pattern text ↔ (matchAt text).isSome = true := by
  constructor
  · rintro ⟨matched, capture, rest, hmatch, htext⟩
    rw [(hreads.spec text capture rest).2 ⟨matched, hmatch, htext⟩]
    rfl
  · intro h
    obtain ⟨⟨capture, rest⟩, hread⟩ := Option.isSome_iff_exists.1 h
    obtain ⟨matched, hmatch, htext⟩ := (hreads.spec text capture rest).1 hread
    exact ⟨matched, capture, rest, hmatch, htext⟩

theorem Reads.not_starts_nil : ¬ Starts pattern [] := by
  rintro ⟨matched, capture, rest, hmatch, htext⟩
  exact hreads.nonempty matched capture hmatch (List.append_eq_nil_iff.1 htext.symm).1

theorem Reads.matchAt_nil : matchAt [] = none := by
  rw [← Option.not_isSome_iff_eq_none, ← hreads.starts_iff]
  exact hreads.not_starts_nil

/-- At one place there is one match. -/
theorem Reads.unique {matched matched' rest rest' : List α} {capture capture' : β} (h : pattern matched capture)
    (h' : pattern matched' capture') (htext : matched ++ rest = matched' ++ rest') :
    matched = matched' ∧ capture = capture' ∧ rest = rest' := by
  have hread := (hreads.spec (matched ++ rest) capture rest).2 ⟨matched, h, rfl⟩
  have hread' := (hreads.spec (matched ++ rest) capture' rest').2 ⟨matched', h', htext⟩
  rw [hread] at hread'
  cases hread'
  exact ⟨List.append_cancel_right htext, rfl, rfl⟩

theorem Cuts.unique {text tail tail' : List α} {pieces pieces' : List (Piece α β)} (h : Cuts pattern text pieces tail)
    (h' : Cuts pattern text pieces' tail') : pieces = pieces' ∧ tail = tail' := by
  induction h generalizing pieces' tail' with
  | tail hquiet =>
    cases h' with
    | tail => exact ⟨rfl, rfl⟩
    | piece _ hmatch _ => exact (hquiet.no_match hmatch (hreads.nonempty _ _ hmatch)).elim
  | @piece literal matched rest capture pieces tail hquiet hmatch hrest ih =>
    generalize htext : literal ++ (matched ++ rest) = text at h'
    cases h' with
    | tail hquiet' =>
      subst htext
      exact (hquiet'.no_match hmatch (hreads.nonempty _ _ hmatch)).elim
    | piece hquiet' hmatch' hrest' =>
      obtain ⟨rfl, hmatches⟩ := hquiet.literal_unique hquiet' hmatch hmatch' htext
      obtain ⟨rfl, rfl, rfl⟩ := hreads.unique hmatch hmatch' hmatches
      obtain ⟨rfl, rfl⟩ := ih hrest'
      exact ⟨rfl, rfl⟩

end Reads

/-! ### The loops -/

/-- The next match: the text before it, what it captures, and the text after it. -/
def exec (matchAt : List α → Option (β × List α)) : List α → Option (List α × β × List α)
  | [] => (matchAt []).map fun found => ([], found)
  | c :: text =>
    match matchAt (c :: text) with
    | some found => some ([], found)
    | none => (exec matchAt text).map fun found => (c :: found.1, found.2)

theorem exec_cons {matchAt : List α → Option (β × List α)} {c : α} {text : List α} :
    exec matchAt (c :: text) = match matchAt (c :: text) with
      | some found => some ([], found)
      | none => (exec matchAt text).map fun found => (c :: found.1, found.2) := rfl

/-- What the matches capture, one after the other, up to the number `fuel` of them. -/
def matchAll (matchAt : List α → Option (β × List α)) : Nat → List α → List β
  | 0, _ => []
  | fuel + 1, text =>
    match exec matchAt text with
    | none => []
    | some (_, capture, rest) => capture :: matchAll matchAt fuel rest

/-- The text with its matches replaced, up to the number `fuel` of them. -/
def replace (matchAt : List α → Option (β × List α)) (replacement : β → List α) : Nat → List α → List α
  | 0, text => text
  | fuel + 1, text =>
    match exec matchAt text with
    | none => text
    | some (literal, capture, rest) => literal ++ (replacement capture ++ replace matchAt replacement fuel rest)

section Loops

variable {pattern : List α → β → Prop} {matchAt : List α → Option (β × List α)} (hreads : Reads pattern matchAt)

include hreads

theorem Reads.exec_eq_none {text : List α} : exec matchAt text = none ↔ Quiet pattern text [] := by
  induction text with
  | nil =>
    unfold exec
    rw [hreads.matchAt_nil]
    exact ⟨fun _ => quiet_nil, fun _ => rfl⟩
  | cons c text ih =>
    rw [quiet_cons, List.append_nil, hreads.starts_iff, ← ih, exec_cons]
    cases hread : matchAt (c :: text) with
    | some found => simp
    | none => simp

theorem Reads.exec_eq_some {text literal rest : List α} {capture : β} :
    exec matchAt text = some (literal, capture, rest) ↔
      ∃ matched, pattern matched capture ∧ text = literal ++ (matched ++ rest) ∧ Quiet pattern literal (matched ++ rest) := by
  induction text generalizing literal with
  | nil =>
    unfold exec
    rw [hreads.matchAt_nil]
    constructor
    · intro h
      cases h
    · rintro ⟨matched, hmatch, htext, -⟩
      have hempty := (List.append_eq_nil_iff.1 (List.append_eq_nil_iff.1 htext.symm).2).1
      exact absurd hempty (hreads.nonempty matched capture hmatch)
  | cons c text ih =>
    rw [exec_cons]
    cases hread : matchAt (c :: text) with
    | some found =>
      obtain ⟨capture', rest'⟩ := found
      obtain ⟨matched', hmatch', htext'⟩ := (hreads.spec _ _ _).1 hread
      constructor
      · intro h
        cases h
        exact ⟨matched', hmatch', htext', quiet_nil⟩
      · rintro ⟨matched, hmatch, htext, hquiet⟩
        have hsame := hquiet.literal_unique quiet_nil hmatch hmatch' (htext.symm.trans htext')
        obtain ⟨rfl, rfl, rfl⟩ := hreads.unique hmatch hmatch' hsame.2
        rw [hsame.1]
    | none =>
      have hnot : ¬ Starts pattern (c :: text) := by
        rw [hreads.starts_iff, hread]
        exact Bool.false_ne_true
      constructor
      · intro h
        obtain ⟨⟨literal', capture', rest'⟩, hexec, hfound⟩ := Option.map_eq_some_iff.1 h
        cases hfound
        obtain ⟨matched, hmatch, rfl, hquiet⟩ := ih.1 hexec
        exact ⟨matched, hmatch, rfl, quiet_cons.2 ⟨hnot, hquiet⟩⟩
      · rintro ⟨matched, hmatch, htext, hquiet⟩
        cases literal with
        | nil =>
          exfalso
          exact hnot ⟨matched, capture, rest, hmatch, htext⟩
        | cons d literal =>
          obtain ⟨rfl, rfl⟩ := List.cons.inj htext
          exact Option.map_eq_some_iff.2
            ⟨(literal, capture, rest), ih.2 ⟨matched, hmatch, rfl, (quiet_cons.1 hquiet).2⟩, rfl⟩

/-- Every text can be cut: cut behind the next match, then cut the rest, which is shorter. -/
theorem Reads.exists_cuts (text : List α) : ∃ pieces tail, Cuts pattern text pieces tail := by
  induction hlength : text.length using Nat.strongRecOn generalizing text with
  | ind n ih =>
    cases hexec : exec matchAt text with
    | none => exact ⟨[], text, .tail (hreads.exec_eq_none.1 hexec)⟩
    | some found =>
      obtain ⟨literal, capture, rest⟩ := found
      obtain ⟨matched, hmatch, rfl, hquiet⟩ := hreads.exec_eq_some.1 hexec
      have hpos := List.length_pos_of_ne_nil (hreads.nonempty matched capture hmatch)
      have hshorter : rest.length < n := by
        rw [← hlength, List.length_append, List.length_append]
        omega
      obtain ⟨pieces, tail, hcuts⟩ := ih rest.length hshorter rest rfl
      exact ⟨_, tail, .piece hquiet hmatch hcuts⟩

theorem Cuts.length_le {text tail : List α} {pieces : List (Piece α β)} (h : Cuts pattern text pieces tail) :
    pieces.length ≤ text.length := by
  induction h with
  | tail => exact Nat.zero_le _
  | piece _ hmatch _ ih =>
    have hpos := List.length_pos_of_ne_nil (hreads.nonempty _ _ hmatch)
    simp only [List.length_append, List.length_cons]
    omega

theorem Cuts.matchAll {text tail : List α} {pieces : List (Piece α β)} (h : Cuts pattern text pieces tail) {fuel : Nat}
    (hfuel : pieces.length ≤ fuel) : Scanning.matchAll matchAt fuel text = pieces.map Piece.capture := by
  induction h generalizing fuel with
  | tail hquiet =>
    cases fuel with
    | zero => rfl
    | succ fuel =>
      unfold Scanning.matchAll
      rw [hreads.exec_eq_none.2 hquiet]
      rfl
  | piece hquiet hmatch _ ih =>
    cases fuel with
    | zero => simp at hfuel
    | succ fuel =>
      unfold Scanning.matchAll
      rw [hreads.exec_eq_some.2 ⟨_, hmatch, rfl, hquiet⟩]
      exact congrArg (_ :: ·) (ih (Nat.le_of_succ_le_succ hfuel))

theorem Cuts.replace {text tail : List α} {pieces : List (Piece α β)} (h : Cuts pattern text pieces tail)
    (replacement : β → List α) {fuel : Nat} (hfuel : pieces.length ≤ fuel) :
    Scanning.replace matchAt replacement fuel text = substitute replacement pieces tail := by
  induction h generalizing fuel with
  | tail hquiet =>
    cases fuel with
    | zero => rfl
    | succ fuel =>
      unfold Scanning.replace
      rw [hreads.exec_eq_none.2 hquiet]
      rfl
  | piece hquiet hmatch _ ih =>
    cases fuel with
    | zero => simp at hfuel
    | succ fuel =>
      unfold Scanning.replace
      rw [hreads.exec_eq_some.2 ⟨_, hmatch, rfl, hquiet⟩]
      dsimp only
      rw [ih (Nat.le_of_succ_le_succ hfuel)]
      simp [substitute]

end Loops

/-! ### Each capture once -/

/-- The entries of a list, each once, in the order in which they first occur. -/
structure FirstOccurrences [BEq β] (all distinct : List β) : Prop where
  mem : ∀ x, x ∈ distinct ↔ x ∈ all
  sorted : distinct.Pairwise fun x y => all.idxOf x < all.idxOf y

section Distinct

variable [BEq β] [LawfulBEq β]

theorem idxOf_filter_lt {p : β → Bool} {x y : β} (hx : p x = true) (hy : p y = true) {all : List β}
    (h : (all.filter p).idxOf x < (all.filter p).idxOf y) : all.idxOf x < all.idxOf y := by
  induction all with
  | nil => simp at h
  | cons z all ih =>
    by_cases hz : p z = true
    · rw [List.filter_cons_of_pos hz] at h
      by_cases hzy : z = y
      · subst hzy
        rw [List.idxOf_cons_self] at h
        omega
      · rw [List.idxOf_cons_ne _ hzy] at h ⊢
        by_cases hzx : z = x
        · subst hzx
          rw [List.idxOf_cons_self]
          omega
        · rw [List.idxOf_cons_ne _ hzx] at h ⊢
          have hlt := ih (by omega)
          omega
    · rw [List.filter_cons_of_neg hz] at h
      have hzx : z ≠ x := by
        rintro rfl
        exact hz hx
      have hzy : z ≠ y := by
        rintro rfl
        exact hz hy
      rw [List.idxOf_cons_ne _ hzx, List.idxOf_cons_ne _ hzy]
      have hlt := ih h
      omega

theorem firstOccurrences_eraseDups (all : List β) : FirstOccurrences all all.eraseDups := by
  refine ⟨fun x => List.mem_eraseDups, ?_⟩
  induction hlength : all.length using Nat.strongRecOn generalizing all with
  | ind n ih =>
    cases all with
    | nil => simp
    | cons z all =>
      rw [List.eraseDups_cons, List.pairwise_cons]
      have hshorter : (all.filter fun b => !b == z).length < n := by
        have hle := List.length_filter_le (fun b => !b == z) all
        simp only [List.length_cons] at hlength
        omega
      have hne : ∀ x ∈ (all.filter fun b => !b == z).eraseDups, z ≠ x := by
        rintro x hx rfl
        simpa using (List.mem_filter.1 (List.mem_eraseDups.1 hx)).2
      constructor
      · intro x hx
        rw [List.idxOf_cons_self, List.idxOf_cons_ne _ (hne x hx)]
        omega
      · refine (ih _ hshorter _ rfl).imp_of_mem fun {x y} hx hy hlt => ?_
        have hpx := (List.mem_filter.1 (List.mem_eraseDups.1 hx)).2
        have hpy := (List.mem_filter.1 (List.mem_eraseDups.1 hy)).2
        have hlt' : all.idxOf x < all.idxOf y := @idxOf_filter_lt _ _ _ (fun b => !b == z) _ _ hpx hpy _ hlt
        rw [List.idxOf_cons_ne _ (hne x hx), List.idxOf_cons_ne _ (hne y hy)]
        omega

end Distinct

end Scanning
