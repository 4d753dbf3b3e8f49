import SmsPlatform.Compliance.Spelling
import SmsPlatform.Contacts.Csv
import SmsPlatform.Lib.Separated

/-!
# Written cells and lines

`escapeCell` and `downloadCsv` of `lib/csv.ts`, which quote a cell with a comma or a quote, against `parseCsvContent`,
which cuts a line at every comma and keeps the quotes: a cell comes back as it is exactly if it is not quoted
(`pieces_eq_singleton_iff`), and a number comes back exactly if nothing behind its first comma belongs to it
(`normalize_firstPiece_iff`).
-/

namespace SmsPlatform

/-! ### Writing -/

/-- `text.replaceAll('"', '""')`. -/
def doubleQuotes (text : List Char) : List Char := text.flatMap fun c => if c = '"' then ['"', '"'] else [c]

def escapeCell (value : String) : List Char :=
  let stringValue := value.toList
  if stringValue.any fun c => decide (c = '"' ∨ c = ',' ∨ c = '\n') then '"' :: (doubleQuotes stringValue ++ ['"'])
  else stringValue

def csvLine (cells : List String) : List Char := [','].intercalate (cells.map escapeCell)

/-- The text of the file. -/
def downloadCsv (headers : List String) (rows : List (List String)) : String :=
  String.ofList (['\n'].intercalate ((headers :: rows).map csvLine))

namespace ContactsService

open Separated

/-! ### Cells -/

/-- A cell that is trimmed and has no line break. -/
structure Tidy (cell : String) : Prop where
  trimmed : Numerals.strip cell.toList = cell.toList
  line : '\n' ∉ cell.toList

/-- A cell that is not quoted. -/
structure Plain (cell : String) : Prop where
  comma : ',' ∉ cell.toList
  quote : '"' ∉ cell.toList

/-- The columns that a written cell is read as. -/
def pieces (cell : String) : List String := columnsOf "," (escapeCell cell)

instance (cell : String) : Decidable (Tidy cell) :=
  decidable_of_iff (Numerals.strip cell.toList = cell.toList ∧ '\n' ∉ cell.toList)
    ⟨fun h => ⟨h.1, h.2⟩, fun h => ⟨h.trimmed, h.line⟩⟩

section Cells

variable {cell : String}

theorem escapeCell_plain (htidy : Tidy cell) (hplain : Plain cell) : escapeCell cell = cell.toList := by
  unfold escapeCell
  refine if_neg ?_
  rw [List.any_eq_true]
  rintro ⟨c, hc, hspecial⟩
  rcases of_decide_eq_true hspecial with rfl | rfl | rfl
  · exact hplain.quote hc
  · exact hplain.comma hc
  · exact htidy.line hc

theorem escapeCell_quoted (hplain : ¬ Plain cell) : escapeCell cell = '"' :: (doubleQuotes cell.toList ++ ['"']) := by
  unfold escapeCell
  refine if_pos ?_
  rw [List.any_eq_true]
  by_contra hnone
  refine hplain ⟨fun hc => hnone ⟨',', hc, by decide⟩, fun hc => hnone ⟨'"', hc, by decide⟩⟩

theorem columnsOf_eq (line : List Char) :
    columnsOf "," line = (line.splitOn ',').map fun value => String.ofList (Numerals.strip value) := rfl

/-- The first column is read from what stands before the first comma. -/
theorem pieces_eq_cons (cell : String) : pieces cell =
    String.ofList (Numerals.strip ((escapeCell cell).takeWhile (· != ','))) :: (pieces cell).tail := by
  unfold pieces
  rw [columnsOf_eq, splitOn_eq_takeWhile_cons]
  rfl

theorem pieces_ne_nil (cell : String) : pieces cell ≠ [] := by
  rw [pieces_eq_cons]
  exact List.cons_ne_nil _ _

theorem pieces_plain (htidy : Tidy cell) (hplain : Plain cell) : pieces cell = [cell] := by
  unfold pieces
  rw [columnsOf_eq, escapeCell_plain htidy hplain, List.splitOn_eq_singleton hplain.comma, List.map_singleton,
    htidy.trimmed, String.ofList_toList]

theorem doubleQuotes_cons (c : Char) (text : List Char) :
    doubleQuotes (c :: text) = (if c = '"' then ['"', '"'] else [c]) ++ doubleQuotes text := rfl

theorem count_doubleQuotes (text : List Char) : (doubleQuotes text).count '"' = 2 * text.count '"' := by
  induction text with
  | nil => rfl
  | cons c text ih =>
    rw [doubleQuotes_cons, List.count_append, ih]
    by_cases hquote : c = '"'
    · subst hquote
      simp
      omega
    · simp [hquote]

theorem filter_doubleQuotes {p : Char → Bool} (hp : p '"' = false) (text : List Char) :
    (doubleQuotes text).filter p = text.filter p := by
  induction text with
  | nil => rfl
  | cons c text ih =>
    rw [doubleQuotes_cons, List.filter_append, ih, List.filter_cons]
    by_cases hquote : c = '"'
    · subst hquote
      simp [hp]
    · rw [if_neg hquote]
      by_cases hc : p c = true
      · simp [hc]
      · simp [hc]

/-- What stands before the first comma of a text whose quotes are doubled. -/
theorem takeWhile_doubleQuotes (text rest : List Char) : (doubleQuotes text ++ rest).takeWhile (· != ',') =
    if ',' ∈ text then doubleQuotes (text.takeWhile (· != ','))
    else doubleQuotes text ++ rest.takeWhile (· != ',') := by
  induction text with
  | nil => rfl
  | cons c text ih =>
    rw [doubleQuotes_cons]
    by_cases hcomma : c = ','
    · -- nothing stands before the comma
      subst hcomma
      simp [doubleQuotes]
    · have hmem : ',' ∈ c :: text ↔ ',' ∈ text := by simp [Ne.symm hcomma]
      have htake : (c :: text).takeWhile (· != ',') = c :: text.takeWhile (· != ',') := by simp [hcomma]
      simp only [hmem, htake, doubleQuotes_cons]
      by_cases hquote : c = '"'
      · subst hquote
        simp only [if_true, List.cons_append, List.nil_append]
        rw [List.takeWhile_cons_of_pos (by decide), List.takeWhile_cons_of_pos (by decide), ih]
        by_cases h : ',' ∈ text
        · rw [if_pos h, if_pos h]
        · rw [if_neg h, if_neg h]
      · simp only [if_neg hquote, List.cons_append, List.nil_append]
        rw [List.takeWhile_cons_of_pos (by simpa using hcomma), ih]
        by_cases h : ',' ∈ text
        · rw [if_pos h, if_pos h]
        · rw [if_neg h, if_neg h]

/-- What the first column of a written cell is read from. -/
theorem takeWhile_escapeCell_quoted (hplain : ¬ Plain cell) : (escapeCell cell).takeWhile (· != ',') =
    '"' :: if ',' ∈ cell.toList then doubleQuotes (cell.toList.takeWhile (· != ','))
      else doubleQuotes cell.toList ++ ['"'] := by
  rw [escapeCell_quoted hplain, List.takeWhile_cons_of_pos (by decide), takeWhile_doubleQuotes]
  rfl

/-- The first of the columns that a written cell is read as. -/
def firstPiece (cell : String) : String := String.ofList (Numerals.strip ((escapeCell cell).takeWhile (· != ',')))

theorem filter_firstPiece {p : Char → Bool} (hp : ∀ c, Numerals.isSpace c = true → p c = false) :
    (firstPiece cell).toList.filter p = ((escapeCell cell).takeWhile (· != ',')).filter p := by
  unfold firstPiece
  rw [String.toList_ofList, filter_strip hp]

theorem comma_not_mem_firstPiece : ',' ∉ (firstPiece cell).toList := by
  intro hmem
  unfold firstPiece at hmem
  rw [String.toList_ofList] at hmem
  have hcomma := List.mem_takeWhile_imp (mem_of_mem_strip hmem)
  simp at hcomma

theorem count_firstPiece (hplain : ¬ Plain cell) : (firstPiece cell).toList.count '"' =
    if ',' ∈ cell.toList then 2 * (cell.toList.takeWhile (· != ',')).count '"' + 1
    else 2 * cell.toList.count '"' + 2 := by
  have hspace : ∀ c, Numerals.isSpace c = true → (c == '"') = false := by
    intro c hc
    rw [beq_eq_false_iff_ne]
    rintro rfl
    revert hc
    decide
  rw [List.count_eq_length_filter, filter_firstPiece hspace, ← List.count_eq_length_filter,
    takeWhile_escapeCell_quoted hplain]
  by_cases hcomma : ',' ∈ cell.toList
  · rw [if_pos hcomma, if_pos hcomma, List.count_cons_self, count_doubleQuotes]
  · rw [if_neg hcomma, if_neg hcomma, List.count_cons_self, List.count_append, count_doubleQuotes,
      List.count_singleton_self]

/-- The first column of a quoted cell is not the cell. -/
theorem firstPiece_ne (hplain : ¬ Plain cell) : firstPiece cell ≠ cell := by
  intro hsame
  by_cases hcomma : ',' ∈ cell.toList
  · have hnone := @comma_not_mem_firstPiece cell
    rw [hsame] at hnone
    exact hnone hcomma
  · -- the whole of the cell, with its quotes doubled and two more
    have hcount := count_firstPiece hplain
    rw [if_neg hcomma, hsame] at hcount
    omega

theorem pieces_eq_singleton_iff (htidy : Tidy cell) : pieces cell = [cell] ↔ Plain cell := by
  constructor
  · intro h
    by_contra hplain
    rw [pieces_eq_cons] at h
    exact firstPiece_ne hplain (List.cons.inj h).1
  · exact pieces_plain htidy

theorem not_digitOrPlus_of_isSpace {c : Char} (h : Numerals.isSpace c = true) : (c.isDigit || c == '+') = false := by
  rw [Bool.or_eq_false_iff, beq_eq_false_iff_ne]
  constructor
  · by_contra hdigit
    rw [Numerals.isSpace_of_isDigit (by simpa using hdigit)] at h
    cases h
  · rintro rfl
    revert h
    decide

theorem takeWhile_of_not_mem {text : List Char} (h : ',' ∉ text) : text.takeWhile (· != ',') = text := by
  rw [List.takeWhile_eq_self_iff]
  intro c hc
  rw [bne_iff_ne]
  rintro rfl
  exact h hc

/-- The digits of the first column are those of the cell before its first comma. -/
theorem digitsAndPlus_firstPiece (htidy : Tidy cell) : digitsAndPlus (firstPiece cell) =
    (cell.toList.takeWhile (· != ',')).filter fun c => c.isDigit || c == '+' := by
  unfold digitsAndPlus
  rw [filter_firstPiece fun c => not_digitOrPlus_of_isSpace]
  by_cases hplain : Plain cell
  · rw [escapeCell_plain htidy hplain]
  · rw [takeWhile_escapeCell_quoted hplain, List.filter_cons_of_neg (by decide)]
    by_cases hcomma : ',' ∈ cell.toList
    · rw [if_pos hcomma, filter_doubleQuotes (by decide)]
    · rw [if_neg hcomma, takeWhile_of_not_mem hcomma, List.filter_append, filter_doubleQuotes (by decide),
        List.filter_cons_of_neg (by decide), List.filter_nil, List.append_nil]

/-- A text that goes on with further digits writes the number with them behind it. -/
theorem writes_append {text longer : String} {number more : List Char}
    (hmore : digitsAndPlus longer = digitsAndPlus text ++ more) (h : Writes text number) :
    Writes longer (number ++ more) := by
  cases h with
  | plus htext =>
    apply Writes.plus
    rw [hmore, htext]
    rfl
  | country htext =>
    rw [List.append_assoc]
    apply Writes.country
    rw [hmore, htext, List.append_assoc]
  | national htext =>
    rw [List.append_assoc]
    apply Writes.national
    rw [hmore, htext]
    rfl

/-- The contacts service's normaliser is a copy of that of submissions. -/
theorem normalizePhoneNumber_ok {phoneNumber normalized : String} :
    normalizePhoneNumber phoneNumber = .ok normalized ↔
      ∃ number, Writes phoneNumber number ∧ normalized = .ofList ('+' :: number) :=
  MessagesService.normalizePhoneNumber_ok

/-- The first column has the number of the cell exactly if nothing behind the first comma of the cell belongs to the
number. -/
theorem normalize_firstPiece_iff {number : String} (htidy : Tidy cell) (h : normalizePhoneNumber cell = .ok number) :
    normalizePhoneNumber (firstPiece cell) = .ok number ↔
      ∀ c ∈ cell.toList.dropWhile (· != ','), (c.isDigit || c == '+') = false := by
  have hmore : digitsAndPlus cell = digitsAndPlus (firstPiece cell) ++
      (cell.toList.dropWhile (· != ',')).filter fun c => c.isDigit || c == '+' := by
    rw [digitsAndPlus_firstPiece htidy, ← List.filter_append, List.takeWhile_append_dropWhile]
    rfl
  constructor
  · intro hfirst
    obtain ⟨digits, hwrites, hdigits⟩ := normalizePhoneNumber_ok.1 h
    obtain ⟨digits', hwrites', hdigits'⟩ := normalizePhoneNumber_ok.1 hfirst
    have hsame : digits' = digits := (List.cons.inj (String.ofList_inj.1 (hdigits'.symm.trans hdigits))).2
    have hnumber := (writes_append hmore (hsame ▸ hwrites')).unique hwrites
    have hnil := List.append_right_eq_self.1 hnumber
    intro c hc
    by_contra hdigit
    exact List.filter_eq_nil_iff.1 hnil c hc (eq_true_of_ne_false hdigit)
  · intro hnone
    have hnil : ((cell.toList.dropWhile (· != ',')).filter fun c => c.isDigit || c == '+') = [] :=
      List.filter_eq_nil_iff.2 fun c hc => by rw [hnone c hc]; exact Bool.false_ne_true
    rw [hnil, List.append_nil] at hmore
    rw [← h]
    unfold normalizePhoneNumber
    rw [hmore]

end Cells

/-! ### Lines -/

section Lines

variable {cells : List String} {lines : List (List Char)} {line text : List Char}

theorem not_isSpace_comma : Numerals.isSpace ',' = false := by decide

theorem not_isSpace_quote : Numerals.isSpace '"' = false := by decide

theorem columnsOf_csvLine (h : cells ≠ []) : columnsOf "," (csvLine cells) = cells.flatMap pieces := by
  unfold csvLine
  rw [columnsOf_eq, splitOn_intercalate_flatMap _ (by simpa using h), List.map_flatMap, List.flatMap_map]
  rfl

theorem tight_escapeCell {cell : String} (h : Tidy cell) : Tight (escapeCell cell) := by
  by_cases hplain : Plain cell
  · rw [escapeCell_plain h hplain]
    exact strip_eq_self_iff.1 h.trimmed
  · rw [escapeCell_quoted hplain]
    constructor
    · intro c hc
      obtain rfl : '"' = c := by simpa using hc
      exact not_isSpace_quote
    · intro c hc
      rw [← List.cons_append, List.getLast?_concat] at hc
      obtain rfl : '"' = c := by simpa using hc
      exact not_isSpace_quote

/-- Writing a cell adds nothing but quotes. -/
theorem mem_of_mem_escapeCell {cell : String} {c : Char} (hc : c ≠ '"') (h : c ∈ escapeCell cell) : c ∈ cell.toList := by
  unfold escapeCell at h
  dsimp only at h
  split at h
  · rw [List.mem_cons, List.mem_append, List.mem_singleton] at h
    have hdouble := (h.resolve_left hc).resolve_right hc
    unfold doubleQuotes at hdouble
    obtain ⟨d, hd, hmem⟩ := List.mem_flatMap.1 hdouble
    by_cases hquote : d = '"'
    · simp [hquote, hc] at hmem
    · rw [if_neg hquote, List.mem_singleton] at hmem
      rwa [hmem]
  · exact h

theorem break_not_mem_escapeCell {cell : String} (h : Tidy cell) : '\n' ∉ escapeCell cell :=
  fun hmem => h.line (mem_of_mem_escapeCell (by decide) hmem)

/-- A cell without a comma is one column. -/
theorem tail_pieces {cell : String} (h : ',' ∉ cell.toList) : (pieces cell).tail = [] := by
  unfold pieces
  rw [columnsOf_eq, List.splitOn_eq_singleton fun hmem => h (mem_of_mem_escapeCell (by decide) hmem)]
  rfl

theorem tight_csvLine (h : ∀ cell ∈ cells, Tidy cell) : Tight (csvLine cells) := by
  unfold csvLine
  induction cells with
  | nil => exact ⟨by simp, by simp⟩
  | cons cell cells ih =>
    have hcell := tight_escapeCell (h cell List.mem_cons_self)
    by_cases hcells : cells = []
    · subst hcells
      simpa using hcell
    · -- a cell may be empty, but the comma behind it is no white space
      rw [List.map_cons, List.intercalate_cons_of_ne_nil (by simpa using hcells), List.append_assoc]
      exact hcell.join (ih fun other hother => h other (List.mem_cons_of_mem _ hother)) not_isSpace_comma

theorem break_not_mem_csvLine (h : ∀ cell ∈ cells, Tidy cell) : '\n' ∉ csvLine cells := by
  unfold csvLine
  induction cells with
  | nil => simp
  | cons cell cells ih =>
    have hcell := break_not_mem_escapeCell (h cell List.mem_cons_self)
    by_cases hcells : cells = []
    · subst hcells
      simpa using hcell
    · have hrest := ih fun other hother => h other (List.mem_cons_of_mem _ hother)
      rw [List.map_cons, List.intercalate_cons_of_ne_nil (by simpa using hcells)]
      simp only [List.mem_append, not_or]
      exact ⟨⟨hcell, by decide⟩, hrest⟩

/-- A line of two columns or more has a comma. -/
theorem csvLine_ne_nil (h : 2 ≤ cells.length) : csvLine cells ≠ [] := by
  unfold csvLine
  cases cells with
  | nil => simp at h
  | cons cell cells =>
    have hcells : cells ≠ [] := by
      rintro rfl
      simp at h
    rw [List.map_cons, List.intercalate_cons_of_ne_nil (by simpa using hcells)]
    simp

theorem splitLines_cons {c : Char} {first : List Char} {rest : List (List Char)} (hc : c ≠ '\n')
    (hreturn : c = '\r' → text.head? ≠ some '\n') (h : splitLines text = first :: rest) :
    splitLines (c :: text) = (c :: first) :: rest := by
  rw [splitLines, h]
  · exact hc
  · rintro text' rfl rfl
    exact hreturn rfl rfl

theorem splitLines_of_not_mem (h : '\n' ∉ line) : splitLines line = [line] := by
  induction line with
  | nil => rfl
  | cons c line ih =>
    rw [List.mem_cons, not_or] at h
    refine splitLines_cons (Ne.symm h.1) (fun _ hhead => ?_) (ih h.2)
    exact h.2 (List.mem_of_mem_head? hhead)

/-- A line that does not end in a carriage return ends at the line break behind it. -/
theorem splitLines_append (h : '\n' ∉ line) (hreturn : line.getLast? ≠ some '\r') :
    splitLines (line ++ '\n' :: text) = line :: splitLines text := by
  induction line with
  | nil => rfl
  | cons c line ih =>
    rw [List.mem_cons, not_or] at h
    by_cases hline : line = []
    · -- the line ends with this character, which is no carriage return
      subst hline
      refine splitLines_cons (Ne.symm h.1) (fun hsame => ?_) rfl
      exact absurd (congrArg some hsame) hreturn
    · rw [List.getLast?_cons, List.getLast?_eq_some_getLast hline] at hreturn
      rw [List.cons_append]
      refine splitLines_cons (Ne.symm h.1) (fun _ hhead => ?_) (ih h.2 ?_)
      · rw [List.head?_append_of_ne_nil _ hline] at hhead
        exact h.2 (List.mem_of_mem_head? hhead)
      · rw [List.getLast?_eq_some_getLast hline]
        exact hreturn

/-- The lines are read back. -/
theorem splitLines_intercalate (hne : lines ≠ []) (hbreak : ∀ line ∈ lines, '\n' ∉ line)
    (htight : ∀ line ∈ lines, Tight line) : splitLines (['\n'].intercalate lines) = lines := by
  induction lines with
  | nil => exact absurd rfl hne
  | cons line lines ih =>
    have hline := hbreak line List.mem_cons_self
    by_cases hlines : lines = []
    · subst hlines
      simpa using splitLines_of_not_mem hline
    · have hreturn : line.getLast? ≠ some '\r' := by
        intro hlast
        have hspace := (htight line List.mem_cons_self).last '\r' hlast
        revert hspace
        decide
      rw [List.intercalate_cons_of_ne_nil hlines, List.append_assoc, List.singleton_append,
        splitLines_append hline hreturn, ih hlines (fun other hother => hbreak other (List.mem_cons_of_mem _ hother))
          fun other hother => htight other (List.mem_cons_of_mem _ hother)]

theorem tight_intercalate (htight : ∀ line ∈ lines, Tight line) (hfilled : ∀ line ∈ lines, line ≠ []) :
    Tight (['\n'].intercalate lines) := by
  induction lines with
  | nil => exact ⟨by simp, by simp⟩
  | cons line lines ih =>
    have hline := htight line List.mem_cons_self
    by_cases hlines : lines = []
    · subst hlines
      simpa using hline
    · have hrest := ih (fun other hother => htight other (List.mem_cons_of_mem _ hother))
        fun other hother => hfilled other (List.mem_cons_of_mem _ hother)
      have hrestFilled : ['\n'].intercalate lines ≠ [] := by
        obtain ⟨next, others, rfl⟩ := List.exists_cons_of_ne_nil hlines
        cases others with
        | nil => simpa using hfilled next (by simp)
        | cons other others => simp [List.intercalate_cons_cons]
      rw [List.intercalate_cons_of_ne_nil hlines, List.append_assoc]
      exact hline.append hrest (hfilled line List.mem_cons_self) hrestFilled _

/-- The parser trims nothing off the text, and finds its lines. -/
theorem lines_downloadCsv {headers : List String} {rows : List (List String)}
    (htidy : ∀ cells ∈ headers :: rows, ∀ cell ∈ cells, Tidy cell)
    (hwide : ∀ cells ∈ headers :: rows, 2 ≤ cells.length) :
    Numerals.strip (downloadCsv headers rows).toList ≠ [] ∧
      splitLines (Numerals.strip (downloadCsv headers rows).toList) = (headers :: rows).map csvLine := by
  have hall : ∀ line ∈ (headers :: rows).map csvLine, Tight line ∧ line ≠ [] ∧ '\n' ∉ line := by
    intro line hline
    obtain ⟨cells, hcells, rfl⟩ := List.mem_map.1 hline
    exact ⟨tight_csvLine (htidy cells hcells), csvLine_ne_nil (hwide cells hcells),
      break_not_mem_csvLine (htidy cells hcells)⟩
  have htight : Tight (['\n'].intercalate ((headers :: rows).map csvLine)) :=
    tight_intercalate (fun line hline => (hall line hline).1) fun line hline => (hall line hline).2.1
  have hlines : splitLines (['\n'].intercalate ((headers :: rows).map csvLine)) = (headers :: rows).map csvLine :=
    splitLines_intercalate (by simp) (fun line hline => (hall line hline).2.2) fun line hline => (hall line hline).1
  unfold downloadCsv
  rw [String.toList_ofList, strip_eq_self_iff.2 htight]
  refine ⟨fun hnil => ?_, hlines⟩
  rw [hnil] at hlines
  exact (hall [] (hlines ▸ List.mem_singleton_self _)).2.1 rfl

end Lines

end ContactsService

end SmsPlatform
