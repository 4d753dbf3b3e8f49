import SmsPlatform.Database
import SmsPlatform.Lib.Numerals
import SmsPlatform.Lib.Scanning

/-!
# Rendering a template

`extractMergeFields`, `validateMergeData` and `render` of `templates.service.ts`, and `buildTemplatePreview` of the control
plane's page for sending.  All of them go through a text with one regular expression; what they make of it is read off the
one cut of the text at its placeholders (`render_spec`).

Merge data are the own properties of an object; a value that is null or undefined is `none`.  Outside the program are
`inherited`, what a property that the object does not have is read as, `toText`, which is `String` on values that are not
null, and `parse`, which is `JSON.parse`.
-/

namespace SmsPlatform

namespace Templates

open Scanning

abbrev MergeData (α : Type) := List (String × Option α)

/-! ### The pattern -/

/-- One of `[a-zA-Z0-9_.-]`. -/
def isFieldChar (c : Char) : Bool := c.isAlphanum || c == '_' || c == '.' || c == '-'

/-- What the regular expression matches: two opening braces, white space, a field, white space, two closing braces. -/
def Placeholder (matched : List Char) (field : String) : Prop :=
  ∃ before after : List Char, (∀ c ∈ before, Numerals.isSpace c = true) ∧ (∀ c ∈ after, Numerals.isSpace c = true) ∧
    field ≠ "" ∧ (∀ c ∈ field.toList, isFieldChar c = true) ∧
    matched = '{' :: '{' :: (before ++ (field.toList ++ (after ++ ['}', '}'])))

/-- The regular expression at the beginning of a text; no two of its parts can take the same character. -/
def placeholderAt : List Char → Option (String × List Char)
  | '{' :: '{' :: text =>
    let text := text.dropWhile Numerals.isSpace
    let field := text.takeWhile isFieldChar
    match (text.dropWhile isFieldChar).dropWhile Numerals.isSpace with
    | '}' :: '}' :: rest => if field = [] then none else some (String.ofList field, rest)
    | _ => none
  | _ => none

/-! ### The service -/

def extractMergeFields (body : String) : List String :=
  ((matchAll placeholderAt body.length body.toList).filter fun value => decide (value ≠ "")).eraseDups

section Functions

variable {α : Type} (inherited : String → Option α) (toText : α → String) (parse : String → Except Failure (MergeData α))

/-- `mergeData[field]`. -/
def property (mergeData : MergeData α) (field : String) : Option α :=
  match mergeData.lookup field with
  | some value => value
  | none => inherited field

def validateMergeData (body : String) (mergeData : MergeData α) : Except Failure Unit :=
  let fields := extractMergeFields body
  let missing := fields.filter fun field => (property inherited mergeData field).isNone
  if 0 < missing.length then .error (.badRequest ("Missing merge fields: " ++ String.intercalate ", " missing))
  else .ok ()

def render (body : String) (mergeData : MergeData α) : Except Failure String := do
  validateMergeData inherited body mergeData
  return String.ofList (replace placeholderAt (fun field =>
    match property inherited mergeData field with
    | none => []
    | some value => (toText value).toList) body.length body.toList)

/-- The merge data of the preview. -/
def previewData (mergeDataJson : Option String) : Except Failure (MergeData α) :=
  match mergeDataJson with
  | none => .ok []
  | some json => if Numerals.strip json.toList = [] then .ok [] else parse json

/-- An absent body is `none`. -/
def buildTemplatePreview (templateBody mergeDataJson : Option String) : Except Failure String :=
  match templateBody with
  | none => .ok ""
  | some body =>
    if body = "" then .ok ""
    else do
      let mergeData ← previewData parse mergeDataJson
      return String.ofList (replace placeholderAt (fun key =>
        (((property inherited mergeData key).map toText).getD "").toList) body.length body.toList)

end Functions

/-! ### Reading a placeholder -/

theorem isFieldChar_toNat {c : Char} (h : isFieldChar c = true) : (48 ≤ c.toNat ∧ c.toNat ≤ 57) ∨
    (65 ≤ c.toNat ∧ c.toNat ≤ 90) ∨ (97 ≤ c.toNat ∧ c.toNat ≤ 122) ∨ c.toNat = 95 ∨ c.toNat = 46 ∨ c.toNat = 45 := by
  have hrange : ∀ low high : UInt32, low ≤ c.val ∧ c.val ≤ high → low.toNat ≤ c.toNat ∧ c.toNat ≤ high.toNat :=
    fun low high hboth => ⟨UInt32.le_iff_toNat_le.1 hboth.1, UInt32.le_iff_toNat_le.1 hboth.2⟩
  have hboth : ∀ low high : UInt32, (decide (low ≤ c.val) && decide (c.val ≤ high)) = true →
      low.toNat ≤ c.toNat ∧ c.toNat ≤ high.toNat := by
    intro low high h
    rw [Bool.and_eq_true, decide_eq_true_eq, decide_eq_true_eq] at h
    exact hrange low high h
  change (c.isUpper || c.isLower || c.isDigit || c == '_' || c == '.' || c == '-') = true at h
  simp only [Bool.or_eq_true, beq_iff_eq] at h
  rcases h with (((((hupper | hlower) | hdigit) | rfl) | rfl) | rfl)
  · exact .inr (.inl (hrange 65 90 (of_decide_eq_true hupper)))
  · exact .inr (.inr (.inl (hboth 97 122 hlower)))
  · exact .inl (hboth 48 57 hdigit)
  all_goals decide

theorem isSpace_of_isFieldChar {c : Char} (h : isFieldChar c = true) : Numerals.isSpace c = false := by
  have hrange := isFieldChar_toNat h
  unfold Numerals.isSpace
  simp only [List.mem_cons, List.not_mem_nil, or_false, Bool.or_eq_false_iff, decide_eq_false_iff_not]
  omega

theorem not_isFieldChar_of_isSpace {c : Char} (h : Numerals.isSpace c = true) : ¬ isFieldChar c = true := by
  intro hfield
  rw [isSpace_of_isFieldChar hfield] at h
  cases h

/-- White space is skipped up to the first character that is none. -/
theorem dropWhile_isSpace {before text : List Char} (hbefore : ∀ c ∈ before, Numerals.isSpace c = true)
    (htext : ∀ c ∈ text.head?, Numerals.isSpace c = false) : (before ++ text).dropWhile Numerals.isSpace = text := by
  rw [List.dropWhile_append_of_pos hbefore]
  cases text with
  | nil => rfl
  | cons c text => exact List.dropWhile_cons_of_neg (by simp [htext c rfl])

/-- A field is taken up to the first character that cannot be part of it. -/
theorem takeWhile_isFieldChar {field text : List Char} (hfield : ∀ c ∈ field, isFieldChar c = true)
    (htext : ∀ c ∈ text.head?, ¬ isFieldChar c = true) :
    (field ++ text).takeWhile isFieldChar = field ∧ (field ++ text).dropWhile isFieldChar = text := by
  rw [List.takeWhile_append_of_pos hfield, List.dropWhile_append_of_pos hfield]
  cases text with
  | nil => simp
  | cons c text =>
    rw [List.takeWhile_cons_of_neg (htext c rfl), List.dropWhile_cons_of_neg (htext c rfl), List.append_nil]
    exact ⟨rfl, rfl⟩

theorem placeholderAt_cons (text : List Char) : placeholderAt ('{' :: '{' :: text) =
    match ((text.dropWhile Numerals.isSpace).dropWhile isFieldChar).dropWhile Numerals.isSpace with
    | '}' :: '}' :: rest =>
      if (text.dropWhile Numerals.isSpace).takeWhile isFieldChar = [] then none
      else some (String.ofList ((text.dropWhile Numerals.isSpace).takeWhile isFieldChar), rest)
    | _ => none := rfl

theorem placeholderAt_of_placeholder {matched rest : List Char} {field : String} (h : Placeholder matched field) :
    placeholderAt (matched ++ rest) = some (field, rest) := by
  obtain ⟨before, after, hbefore, hafter, hne, hfield, rfl⟩ := h
  have hempty : field.toList ≠ [] := by simpa using hne
  have hfirst : ∀ c ∈ (field.toList ++ (after ++ '}' :: '}' :: rest)).head?, Numerals.isSpace c = false := by
    obtain ⟨d, ds, hds⟩ := List.exists_cons_of_ne_nil hempty
    intro c hc
    rw [hds] at hc hfield
    cases hc
    exact isSpace_of_isFieldChar (hfield d (by simp))
  have hclosing : ∀ c ∈ (after ++ '}' :: '}' :: rest).head?, ¬ isFieldChar c = true := by
    intro c hc
    cases after with
    | nil =>
      cases hc
      decide
    | cons d after =>
      cases hc
      exact not_isFieldChar_of_isSpace (hafter c (by simp))
  have hbrace : ∀ c ∈ ('}' :: '}' :: rest).head?, Numerals.isSpace c = false := by
    intro c hc
    cases hc
    decide
  obtain ⟨htake, hdrop⟩ := takeWhile_isFieldChar hfield hclosing
  have htext : ('{' :: '{' :: (before ++ (field.toList ++ (after ++ ['}', '}'])))) ++ rest =
      '{' :: '{' :: (before ++ (field.toList ++ (after ++ '}' :: '}' :: rest))) := by simp
  rw [htext, placeholderAt_cons, dropWhile_isSpace hbefore hfirst, htake, hdrop, dropWhile_isSpace hafter hbrace]
  refine (if_neg hempty).trans ?_
  rw [String.ofList_toList]

theorem placeholder_of_placeholderAt {text rest : List Char} {field : String}
    (h : placeholderAt text = some (field, rest)) : ∃ matched, Placeholder matched field ∧ text = matched ++ rest := by
  unfold placeholderAt at h
  split at h
  · rename_i text
    dsimp only at h
    split at h
    · rename_i closing hclosing
      split at h
      · cases h
      · rename_i hne
        cases h
        have hspace := List.takeWhile_append_dropWhile (p := Numerals.isSpace) (l := text)
        have hname := List.takeWhile_append_dropWhile (p := isFieldChar) (l := text.dropWhile Numerals.isSpace)
        have hskip := List.takeWhile_append_dropWhile (p := Numerals.isSpace)
          (l := (text.dropWhile Numerals.isSpace).dropWhile isFieldChar)
        rw [hclosing] at hskip
        refine ⟨_, ⟨text.takeWhile Numerals.isSpace,
          ((text.dropWhile Numerals.isSpace).dropWhile isFieldChar).takeWhile Numerals.isSpace, ?_, ?_, ?_, ?_, rfl⟩, ?_⟩
        · exact fun c hc => List.mem_takeWhile_imp hc
        · exact fun c hc => List.mem_takeWhile_imp hc
        · simpa using hne
        · rw [String.toList_ofList]
          exact fun c hc => List.mem_takeWhile_imp hc
        · rw [String.toList_ofList]
          simp only [List.cons_append, List.append_assoc, List.nil_append]
          rw [hskip, hname, hspace]
    · cases h
  · cases h

/-- The function reads what the pattern matches. -/
theorem reads_placeholder : Reads Placeholder placeholderAt where
  spec := fun _ _ _ => ⟨placeholder_of_placeholderAt, fun ⟨_, hmatch, htext⟩ => htext ▸ placeholderAt_of_placeholder hmatch⟩
  nonempty := by
    rintro matched field ⟨before, after, -, -, -, -, rfl⟩
    exact List.cons_ne_nil _ _

/-! ### What the functions make of the placeholders -/

/-- What an own property of the merge data holds, unless it is null. -/
def ownValue {α : Type} (mergeData : MergeData α) (field : String) : Option α := (mergeData.lookup field).join

theorem ownValue_eq_some {α : Type} {mergeData : MergeData α} {field : String} {value : α} :
    ownValue mergeData field = some value ↔ mergeData.lookup field = some (some value) := by
  unfold ownValue
  cases mergeData.lookup field <;> simp

section Rendering

variable {α : Type} {inherited : String → Option α} {toText : α → String} {mergeData : MergeData α} {body : String}
  {pieces : List (Piece Char String)} {tail : List Char}

theorem property_eq {field : String} (h : inherited field = none) :
    property inherited mergeData field = ownValue mergeData field := by
  unfold property ownValue
  cases mergeData.lookup field with
  | none => exact h
  | some value => rfl

theorem length_le (h : Cuts Placeholder body.toList pieces tail) : pieces.length ≤ body.length := by
  rw [← String.length_toList]
  exact h.length_le reads_placeholder

theorem Placeholder.ne_empty {matched : List Char} {field : String} (h : Placeholder matched field) : field ≠ "" := by
  obtain ⟨_, _, -, -, hne, -, -⟩ := h
  exact hne

theorem capture_ne_empty {text : List Char} (h : Cuts Placeholder text pieces tail) :
    ∀ piece ∈ pieces, piece.capture ≠ "" := by
  induction h with
  | tail => simp
  | piece _ hmatch _ ih =>
    intro piece hpiece
    rcases List.mem_cons.1 hpiece with rfl | hpiece
    · exact hmatch.ne_empty
    · exact ih piece hpiece

/-- The fields of the placeholders, each once. -/
theorem extractMergeFields_eq (h : Cuts Placeholder body.toList pieces tail) :
    extractMergeFields body = (pieces.map Piece.capture).eraseDups := by
  unfold extractMergeFields
  rw [h.matchAll reads_placeholder (length_le h), List.filter_eq_self.2]
  intro field hfield
  obtain ⟨piece, hpiece, rfl⟩ := List.mem_map.1 hfield
  simpa using capture_ne_empty h piece hpiece

theorem mem_extractMergeFields (h : Cuts Placeholder body.toList pieces tail) {field : String} :
    field ∈ extractMergeFields body ↔ ∃ piece ∈ pieces, piece.capture = field := by
  rw [extractMergeFields_eq h, List.mem_eraseDups, List.mem_map]

theorem validateMergeData_cases (h : Cuts Placeholder body.toList pieces tail)
    (hplain : ∀ piece ∈ pieces, inherited piece.capture = none) :
    (validateMergeData inherited body mergeData = .ok () ∧
      ∀ piece ∈ pieces, (ownValue mergeData piece.capture).isSome = true) ∨
    ∃ failure, validateMergeData inherited body mergeData = .error failure ∧
      ∃ piece ∈ pieces, ownValue mergeData piece.capture = none := by
  unfold validateMergeData
  dsimp only
  split
  · rename_i hmissing
    obtain ⟨field, hfield⟩ := List.exists_mem_of_length_pos hmissing
    obtain ⟨hextracted, hnone⟩ := List.mem_filter.1 hfield
    obtain ⟨piece, hpiece, rfl⟩ := (mem_extractMergeFields h).1 hextracted
    rw [property_eq (hplain piece hpiece), Option.isNone_iff_eq_none] at hnone
    exact .inr ⟨_, rfl, piece, hpiece, hnone⟩
  · rename_i hmissing
    refine .inl ⟨rfl, fun piece hpiece => ?_⟩
    by_contra hnone
    refine hmissing (List.length_pos_of_mem (a := piece.capture) (List.mem_filter.2 ⟨?_, ?_⟩))
    · exact (mem_extractMergeFields h).2 ⟨piece, hpiece, rfl⟩
    · rw [property_eq (hplain piece hpiece)]
      simpa using hnone

/-- The text of an own value, where there is one. -/
def valueText (toText : α → String) (mergeData : MergeData α) (field : String) : List Char :=
  match ownValue mergeData field with
  | none => []
  | some value => (toText value).toList

/-- Two replacements that agree on the fields of the placeholders make the same text. -/
theorem substitute_congr {replacement replacement' : String → List Char}
    (h : ∀ piece ∈ pieces, replacement piece.capture = replacement' piece.capture) :
    substitute replacement pieces tail = substitute replacement' pieces tail := by
  unfold substitute
  congr 1
  refine List.flatMap_congr fun piece hpiece => ?_
  rw [h piece hpiece]

theorem render_of_validates (h : Cuts Placeholder body.toList pieces tail)
    (hplain : ∀ piece ∈ pieces, inherited piece.capture = none)
    (hvalid : validateMergeData inherited body mergeData = .ok ()) :
    render inherited toText body mergeData = .ok (.ofList (substitute (valueText toText mergeData) pieces tail)) := by
  unfold render
  rw [hvalid, h.replace reads_placeholder _ (length_le h)]
  show Except.ok _ = Except.ok _
  refine congrArg (fun text => Except.ok (String.ofList text)) (substitute_congr fun piece hpiece => ?_)
  rw [property_eq (hplain piece hpiece)]
  rfl

/-- The preview replaces a field by the same text, whether it has a value or not. -/
theorem buildTemplatePreview_eq {parse : String → Except Failure (MergeData α)} {mergeDataJson : Option String}
    (h : Cuts Placeholder body.toList pieces tail) (hplain : ∀ piece ∈ pieces, inherited piece.capture = none)
    (hdata : previewData parse mergeDataJson = .ok mergeData) :
    buildTemplatePreview inherited toText parse (some body) mergeDataJson =
      .ok (.ofList (substitute (valueText toText mergeData) pieces tail)) := by
  unfold buildTemplatePreview
  dsimp only
  split
  · rename_i hempty
    subst hempty
    obtain ⟨rfl, rfl⟩ := h.unique reads_placeholder (.tail quiet_nil)
    rfl
  · rw [hdata]
    show Except.ok (String.ofList (replace placeholderAt _ body.length body.toList)) = _
    rw [h.replace reads_placeholder _ (length_le h)]
    refine congrArg (fun text => Except.ok (String.ofList text)) (substitute_congr fun piece hpiece => ?_)
    rw [property_eq (hplain piece hpiece)]
    unfold valueText
    cases ownValue mergeData piece.capture <;> rfl

end Rendering

/-- A body has one cut at its placeholders, and the extracted fields are those of the placeholders, each once, by their
first occurrence.  Rendering throws exactly if the field of a placeholder has no value, and else it is the body with every
placeholder replaced by the text of the value and nothing else changed; the preview shows what is rendered. -/
theorem render_spec {α : Type} (inherited : String → Option α) (toText : α → String) (body : String)
    (mergeData : MergeData α) :
    ∃ pieces tail,
      (∀ pieces' tail', Cuts Placeholder body.toList pieces' tail' ↔ pieces' = pieces ∧ tail' = tail) ∧
      body.toList = pieces.flatMap (fun piece => piece.literal ++ piece.matched) ++ tail ∧
      FirstOccurrences (pieces.map Piece.capture) (extractMergeFields body) ∧
      ((∀ piece ∈ pieces, inherited piece.capture = none) →
        ((∃ failure, render inherited toText body mergeData = .error failure) ↔
          ∃ piece ∈ pieces, ∀ value, mergeData.lookup piece.capture ≠ some (some value)) ∧
        (∀ result, render inherited toText body mergeData = .ok result ↔
          (∀ piece ∈ pieces, ∃ value, mergeData.lookup piece.capture = some (some value)) ∧
            result.toList = substitute (valueText toText mergeData) pieces tail) ∧
        ∀ parse mergeDataJson result, previewData parse mergeDataJson = .ok mergeData →
          render inherited toText body mergeData = .ok result →
          buildTemplatePreview inherited toText parse (some body) mergeDataJson = .ok result) := by
  obtain ⟨pieces, tail, hcuts⟩ := reads_placeholder.exists_cuts body.toList
  refine ⟨pieces, tail, fun pieces' tail' => ⟨fun h => h.unique reads_placeholder hcuts, ?_⟩, hcuts.text, ?_, ?_⟩
  · rintro ⟨rfl, rfl⟩
    exact hcuts
  · rw [extractMergeFields_eq hcuts]
    exact firstOccurrences_eraseDups _
  · intro hplain
    have hvalue : ∀ piece ∈ pieces, (ownValue mergeData piece.capture).isSome = true ↔
        ∃ value, mergeData.lookup piece.capture = some (some value) := by
      intro piece _
      rw [Option.isSome_iff_exists]
      exact exists_congr fun value => ownValue_eq_some
    rcases @validateMergeData_cases _ inherited mergeData _ _ _ hcuts hplain with
      ⟨hvalid, hvalues⟩ | ⟨failure, hinvalid, piece, hpiece, hnone⟩
    · have hrender := @render_of_validates _ inherited toText mergeData _ _ _ hcuts hplain hvalid
      rw [hrender]
      refine ⟨⟨?_, ?_⟩, fun result => ⟨?_, ?_⟩, ?_⟩
      · rintro ⟨failure, hfailure⟩
        cases hfailure
      · rintro ⟨piece, hpiece, hnone⟩
        obtain ⟨value, hsome⟩ := (hvalue piece hpiece).1 (hvalues piece hpiece)
        exact absurd hsome (hnone value)
      · intro h
        cases h
        exact ⟨fun piece hpiece => (hvalue piece hpiece).1 (hvalues piece hpiece), String.toList_ofList⟩
      · rintro ⟨-, hresult⟩
        rw [← hresult, String.ofList_toList]
      · intro parse mergeDataJson result hdata hresult
        rw [buildTemplatePreview_eq hcuts hplain hdata]
        exact hresult
    · have hrender : render inherited toText body mergeData = .error failure := by
        unfold render
        rw [hinvalid]
        rfl
      have hmissing : ∀ value, mergeData.lookup piece.capture ≠ some (some value) := by
        intro value hsome
        rw [ownValue_eq_some.2 hsome] at hnone
        cases hnone
      rw [hrender]
      refine ⟨⟨fun _ => ⟨piece, hpiece, hmissing⟩, fun _ => ⟨failure, rfl⟩⟩, fun result => ⟨?_, ?_⟩, ?_⟩
      · intro h
        cases h
      · rintro ⟨hvalues, -⟩
        obtain ⟨value, hsome⟩ := hvalues piece hpiece
        exact absurd hsome (hmissing value)
      · intro parse mergeDataJson result _ hresult
        cases hresult

namespace Sample

/-- A body with two placeholders, and a value for the first of them that looks like the second. -/
def body : String := "\x7b\x7bname\x7d\x7d: \x7b\x7b code \x7d\x7d"

def mergeData : MergeData String := [("name", some "\x7b\x7bcode\x7d\x7d"), ("code", some "$&")]

end Sample

theorem render_spec_sample : ∃ (pieces : List (Piece Char String)) (tail : List Char),
    Cuts Placeholder Sample.body.toList pieces tail ∧
      "\x7b\x7bcode\x7d\x7d: $&".toList = substitute (valueText id Sample.mergeData) pieces tail := by
  have hrender : render (fun _ => none) id Sample.body Sample.mergeData = .ok "\x7b\x7bcode\x7d\x7d: $&" := by
    rfl
  obtain ⟨pieces, tail, hcuts, -, -, hspec⟩ := render_spec (fun _ => none) id Sample.body Sample.mergeData
  obtain ⟨-, hresult, -⟩ := hspec fun _ _ => rfl
  exact ⟨pieces, tail, (hcuts pieces tail).2 ⟨rfl, rfl⟩, ((hresult _).1 hrender).2⟩

end Templates

end SmsPlatform
