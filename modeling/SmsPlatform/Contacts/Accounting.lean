import SmsPlatform.Contacts.Csv

/-!
# The accounts of an upload

What `parseCsvContent` makes of a text with different headers, line by line: every data line that is not blank is a
parsed row or an error, both in the order of the lines, and a parsed row has the cells of its line.  A name whose cell is
missing is absent, while a missing cell of another column is read as the empty text.
-/

namespace SmsPlatform

namespace ContactsService

/-! ### Records with different keys -/

theorem setProperty_of_not_mem {key value : String} {record : CsvRecord} (h : key ∉ record.map Prod.fst) :
    setProperty key value record = record ++ [(key, value)] := by
  induction record with
  | nil => rfl
  | cons entry record ih =>
    obtain ⟨k, v⟩ := entry
    rw [List.map_cons, List.mem_cons, not_or] at h
    unfold setProperty
    rw [if_neg (Ne.symm h.1), ih h.2]
    rfl

theorem foldl_setProperty {entries : List (String × String)} {record : CsvRecord}
    (h : ((record ++ entries).map Prod.fst).Nodup) :
    entries.foldl (fun record entry => setProperty entry.1 entry.2 record) record = record ++ entries := by
  induction entries generalizing record with
  | nil => simp
  | cons entry entries ih =>
    have hnew : entry.1 ∉ record.map Prod.fst := by
      rw [List.map_append, List.map_cons] at h
      intro hmem
      exact List.nodup_append.1 h |>.2.2 entry.1 hmem entry.1 (by simp) rfl
    rw [List.foldl_cons, setProperty_of_not_mem hnew, ih (by simpa using h)]
    simp

theorem fromEntries_of_nodup {entries : List (String × String)} (h : (entries.map Prod.fst).Nodup) :
    fromEntries entries = entries :=
  foldl_setProperty h

/-- Of different headers, the metadata are the cells of the columns that are neither the number nor the name. -/
theorem metadata_of_nodup {header : CsvHeader} (h : header.headers.Nodup) (row : DataRow) :
    row.metadata header = (header.headers.zipIdx.filter fun column =>
      decide (column.2 ≠ header.phoneIndex ∧ some column.2 ≠ header.nameIndex)).map fun column =>
        (column.1, row.columns.getD column.2 "") := by
  have hkeys : ((header.headers.zipIdx.filter fun column =>
      decide (column.2 ≠ header.phoneIndex ∧ some column.2 ≠ header.nameIndex)).map Prod.fst).Nodup := by
    refine h.sublist ?_
    have hsublist := (List.filter_sublist (p := fun column =>
      decide (column.2 ≠ header.phoneIndex ∧ some column.2 ≠ header.nameIndex)) (l := header.headers.zipIdx)).map Prod.fst
    rwa [List.zipIdx_map_fst] at hsublist
  unfold DataRow.metadata
  rw [fromEntries_of_nodup (by simpa [Function.comp_def] using hkeys)]
  refine List.map_congr_left fun column hcolumn => ?_
  have hget := List.mem_zipIdx_iff_getElem?.1 (List.mem_of_mem_filter hcolumn)
  obtain ⟨hlt, hget⟩ := List.getElem?_eq_some_iff.1 hget
  rw [← hget, h.idxOf_getElem]

/-! ### Data lines -/

/-- Line `n`, counted from one, is behind the first, is not blank and has these cells. -/
def DataLine (delimiter : String) (lines : List (List Char)) (n : Nat) (columns : List String) : Prop :=
  2 ≤ n ∧ ∃ line, lines[n - 1]? = some line ∧ Numerals.strip line ≠ [] ∧ columns = columnsOf delimiter line

variable {delimiter : String} {lines : List (List Char)} {header : CsvHeader} {rows before after : List DataRow}
  {row : DataRow} {seen : List String} {phoneNumber : String} {n : Nat} {columns : List String}

theorem mem_dataRows : row ∈ dataRows delimiter lines ↔ DataLine delimiter lines row.rowNumber row.columns := by
  unfold dataRows DataLine
  simp only [List.mem_map, List.mem_filter, List.mem_zipIdx_iff_le_and_getElem?_sub, List.getElem?_drop,
    decide_eq_true_eq]
  constructor
  · rintro ⟨⟨line, m⟩, ⟨⟨hle, hget⟩, hblank⟩, rfl⟩
    refine ⟨hle, line, ?_, hblank, rfl⟩
    rwa [show 1 + (m - 2) = m - 1 by omega] at hget
  · rintro ⟨hle, line, hget, hblank, hcolumns⟩
    refine ⟨(line, row.rowNumber), ⟨⟨hle, ?_⟩, hblank⟩, ?_⟩
    · rwa [show 1 + (row.rowNumber - 2) = row.rowNumber - 1 by omega]
    · rw [← hcolumns]

theorem dataRows_increasing (delimiter : String) (lines : List (List Char)) :
    ((dataRows delimiter lines).map DataRow.rowNumber).Pairwise (· < ·) := by
  have hall : (((lines.drop 1).zipIdx 2).map Prod.snd).Pairwise (· < ·) := by
    rw [List.zipIdx_map_snd]
    exact List.pairwise_lt_range'
  unfold dataRows
  rw [List.map_map]
  exact hall.sublist (List.filter_sublist.map Prod.snd)

/-! ### Parsed rows and errors in order -/

@[simp] theorem refusal_rowNumber (header : CsvHeader) (row : DataRow) : (row.refusal header).rowNumber = row.rowNumber := by
  unfold DataRow.refusal
  split <;> rfl

/-- The parsed rows and the errors are all the rows. -/
theorem parseRows_perm : ((parseRows header rows seen).1.map ParsedContactRow.rowNumber ++
    (parseRows header rows seen).2.map ParsedContactError.rowNumber).Perm (rows.map DataRow.rowNumber) := by
  induction rows generalizing seen with
  | nil => simp [parseRows]
  | cons first rest ih =>
    rcases parseRows_cons header first rest seen with ⟨new, -, -, hparse⟩ | ⟨-, hparse⟩
    · rw [hparse]
      exact ih.cons first.rowNumber
    · rw [hparse]
      refine List.perm_middle.trans ?_
      rw [refusal_rowNumber]
      exact ih.cons first.rowNumber

theorem parseRows_sublist :
    ((parseRows header rows seen).1.map ParsedContactRow.rowNumber).Sublist (rows.map DataRow.rowNumber) ∧
      ((parseRows header rows seen).2.map ParsedContactError.rowNumber).Sublist (rows.map DataRow.rowNumber) := by
  induction rows generalizing seen with
  | nil => simp [parseRows]
  | cons first rest ih =>
    rcases parseRows_cons header first rest seen with ⟨new, -, -, hparse⟩ | ⟨-, hparse⟩
    · rw [hparse]
      exact ⟨ih.1.cons_cons first.rowNumber, ih.2.cons first.rowNumber⟩
    · rw [hparse]
      refine ⟨ih.1.cons first.rowNumber, ?_⟩
      rw [List.map_cons, refusal_rowNumber]
      exact ih.2.cons_cons first.rowNumber

/-- The row has the number, and no row of an earlier line does. -/
def FirstWith (header : CsvHeader) (rows : List DataRow) (row : DataRow) (phoneNumber : String) : Prop :=
  row.normalizedPhone header = .ok phoneNumber ∧
    ∀ earlier ∈ rows, earlier.rowNumber < row.rowNumber → earlier.normalizedPhone header ≠ .ok phoneNumber

/-- In the order of the lines, the rows before a row are those of earlier lines. -/
theorem mem_before_iff (h : ((before ++ row :: after).map DataRow.rowNumber).Pairwise (· < ·)) {earlier : DataRow} :
    earlier ∈ before ↔ earlier ∈ before ++ row :: after ∧ earlier.rowNumber < row.rowNumber := by
  rw [List.pairwise_map, List.pairwise_append, List.pairwise_cons] at h
  obtain ⟨-, ⟨hafter, -⟩, hbefore⟩ := h
  constructor
  · intro hmem
    exact ⟨by simp [hmem], hbefore earlier hmem row (by simp)⟩
  · rintro ⟨hmem, hlt⟩
    rcases List.mem_append.1 hmem with hmem | hmem
    · exact hmem
    · rcases List.mem_cons.1 hmem with rfl | hmem
      · omega
      · have hgt := hafter earlier hmem
        omega

theorem fresh_iff_firstWith (h : ((before ++ row :: after).map DataRow.rowNumber).Pairwise (· < ·)) :
    Fresh header [] before row phoneNumber ↔ FirstWith header (before ++ row :: after) row phoneNumber := by
  constructor
  · rintro ⟨hphone, -, hfirst⟩
    exact ⟨hphone, fun earlier hmem hlt => hfirst earlier ((mem_before_iff h).2 ⟨hmem, hlt⟩)⟩
  · rintro ⟨hphone, hfirst⟩
    refine ⟨hphone, by simp, fun earlier hearlier => ?_⟩
    obtain ⟨hmem, hlt⟩ := (mem_before_iff h).1 hearlier
    exact hfirst earlier hmem hlt

section Increasing

variable (hrows : (rows.map DataRow.rowNumber).Pairwise (· < ·))

include hrows

theorem mem_parseRows_iff {parsed : ParsedContactRow} : parsed ∈ (parseRows header rows []).1 ↔
    ∃ row ∈ rows, ∃ phoneNumber, FirstWith header rows row phoneNumber ∧ parsed = row.parsed header phoneNumber := by
  rw [mem_parseRows]
  constructor
  · rintro ⟨before, row, after, rfl, phoneNumber, hfresh, rfl⟩
    exact ⟨row, by simp, phoneNumber, (fresh_iff_firstWith hrows).1 hfresh, rfl⟩
  · rintro ⟨row, hrow, phoneNumber, hfirst, rfl⟩
    obtain ⟨before, after, rfl⟩ := List.append_of_mem hrow
    exact ⟨before, row, after, rfl, phoneNumber, (fresh_iff_firstWith hrows).2 hfirst, rfl⟩

theorem mem_parseErrors_iff {refused : ParsedContactError} : refused ∈ (parseRows header rows []).2 ↔
    ∃ row ∈ rows, (∀ phoneNumber, ¬ FirstWith header rows row phoneNumber) ∧ refused = row.refusal header := by
  rw [mem_parseErrors]
  constructor
  · rintro ⟨before, row, after, rfl, hstale, rfl⟩
    exact ⟨row, by simp, fun phoneNumber hfirst => hstale phoneNumber ((fresh_iff_firstWith hrows).2 hfirst), rfl⟩
  · rintro ⟨row, hrow, hstale, rfl⟩
    obtain ⟨before, after, rfl⟩ := List.append_of_mem hrow
    exact ⟨before, row, after, rfl, fun phoneNumber hfresh => hstale phoneNumber ((fresh_iff_firstWith hrows).1 hfresh),
      rfl⟩

theorem eq_of_rowNumber {row' : DataRow} (hrow : row ∈ rows) (hrow' : row' ∈ rows)
    (h : row.rowNumber = row'.rowNumber) : row = row' := by
  have hkeyed : Rows.Keyed DataRow.rowNumber rows := hrows.imp Nat.ne_of_lt
  exact hkeyed.unique hrow hrow' h

end Increasing

/-- Of the rows with a number, one is the first. -/
theorem exists_firstWith (hrow : row ∈ rows) (h : row.normalizedPhone header = .ok phoneNumber) :
    ∃ first ∈ rows, FirstWith header rows first phoneNumber ∧ first.rowNumber ≤ row.rowNumber := by
  induction hn : row.rowNumber using Nat.strong_induction_on generalizing row with
  | _ n ih =>
    by_cases hfirst : FirstWith header rows row phoneNumber
    · exact ⟨row, hrow, hfirst, hn.le⟩
    · unfold FirstWith at hfirst
      push Not at hfirst
      obtain ⟨earlier, hearlier, hlt, hphone⟩ := hfirst h
      obtain ⟨first, hmem, hfirst, hle⟩ := ih earlier.rowNumber (by omega) hearlier hphone rfl
      exact ⟨first, hmem, hfirst, by omega⟩

/-! ### The accounts -/

/-- What `normalizePhoneNumber` says of a text that it cannot normalise. -/
def invalidNumber : String := "Phone number must be in Ethiopian local format or E.164"

theorem message_of_normalize {text : String} {failure : Failure} (h : normalizePhoneNumber text = .error failure) :
    failure.message = invalidNumber := by
  unfold normalizePhoneNumber at h
  dsimp only at h
  split at h
  · cases h
  · split at h
    · cases h
    · split at h
      · cases h
      · cases h
        rfl

theorem invalidNumber_ne : invalidNumber ≠ "duplicate_in_upload" := by decide

theorem refusal_of_error {failure : Failure} (h : row.normalizedPhone header = .error failure) :
    (row.refusal header).errorReason = invalidNumber := by
  unfold DataRow.refusal
  rw [h]
  exact message_of_normalize h

theorem refusal_of_ok (h : row.normalizedPhone header = .ok phoneNumber) :
    (row.refusal header).errorReason = "duplicate_in_upload" := by
  unfold DataRow.refusal
  rw [h]
  rfl

section Lines

variable (hline : DataLine delimiter lines n columns)

include hline

/-- The errors of a line are that of its row. -/
theorem exists_error_iff {p : String → Prop} :
    (∃ error ∈ (parseRows header (dataRows delimiter lines) []).2, error.rowNumber = n ∧ p error.errorReason) ↔
      (∀ phoneNumber, ¬ FirstWith header (dataRows delimiter lines) ⟨n, columns⟩ phoneNumber) ∧
        p (DataRow.refusal header ⟨n, columns⟩).errorReason := by
  have hrows := dataRows_increasing delimiter lines
  have hmem : ⟨n, columns⟩ ∈ dataRows delimiter lines := mem_dataRows.2 hline
  constructor
  · rintro ⟨error, herror, hn, hreason⟩
    obtain ⟨row, hrow, hstale, rfl⟩ := (mem_parseErrors_iff hrows).1 herror
    rw [refusal_rowNumber] at hn
    obtain rfl := eq_of_rowNumber hrows hrow hmem hn
    exact ⟨hstale, hreason⟩
  · rintro ⟨hstale, hreason⟩
    exact ⟨_, (mem_parseErrors_iff hrows).2 ⟨_, hmem, hstale, rfl⟩, refusal_rowNumber header _, hreason⟩

/-- A line is a duplicate if and only if it has the number of a parsed row of an earlier line. -/
theorem duplicate_iff : (∃ error ∈ (parseRows header (dataRows delimiter lines) []).2,
      error.rowNumber = n ∧ error.errorReason = "duplicate_in_upload") ↔
    ∃ row ∈ (parseRows header (dataRows delimiter lines) []).1, row.rowNumber < n ∧
      normalizePhoneNumber (columns.getD header.phoneIndex "") = .ok row.phoneNumber := by
  have hrows := dataRows_increasing delimiter lines
  have hmem : ⟨n, columns⟩ ∈ dataRows delimiter lines := mem_dataRows.2 hline
  have hiff := @exists_error_iff delimiter lines header n columns hline (fun reason => reason = "duplicate_in_upload")
  rw [hiff]
  constructor
  · rintro ⟨hstale, hreason⟩
    cases hphone : DataRow.normalizedPhone header ⟨n, columns⟩ with
    | error failure =>
      rw [refusal_of_error hphone] at hreason
      exact absurd hreason invalidNumber_ne
    | ok phoneNumber =>
      obtain ⟨first, hfound, hfirst, hle⟩ := exists_firstWith hmem hphone
      refine ⟨_, (mem_parseRows_iff hrows).2 ⟨first, hfound, phoneNumber, hfirst, rfl⟩, ?_, hphone⟩
      refine lt_of_le_of_ne hle fun hsame => ?_
      rw [eq_of_rowNumber hrows hfound hmem hsame] at hfirst
      exact hstale phoneNumber hfirst
  · rintro ⟨parsed, hparsed, hlt, hphone⟩
    obtain ⟨earlier, hearlier, phoneNumber, hfirst, rfl⟩ := (mem_parseRows_iff hrows).1 hparsed
    refine ⟨?_, refusal_of_ok hphone⟩
    rintro other ⟨hother, hnone⟩
    obtain rfl := Except.ok.inj (hother.symm.trans hphone)
    exact hnone earlier hearlier hlt hfirst.1

/-- A line is invalid if and only if its number cannot be normalised. -/
theorem invalid_iff : (∃ error ∈ (parseRows header (dataRows delimiter lines) []).2,
      error.rowNumber = n ∧ error.errorReason = invalidNumber) ↔
    ∃ failure, normalizePhoneNumber (columns.getD header.phoneIndex "") = .error failure := by
  have hiff := @exists_error_iff delimiter lines header n columns hline (fun reason => reason = invalidNumber)
  rw [hiff]
  constructor
  · rintro ⟨-, hreason⟩
    cases hphone : DataRow.normalizedPhone header ⟨n, columns⟩ with
    | error failure => exact ⟨failure, hphone⟩
    | ok phoneNumber =>
      rw [refusal_of_ok hphone] at hreason
      exact absurd hreason.symm invalidNumber_ne
  · rintro ⟨failure, hphone⟩
    refine ⟨?_, refusal_of_error hphone⟩
    rintro phoneNumber ⟨hok, -⟩
    exact absurd (hphone.symm.trans hok) (by simp)

end Lines

/-- Every data line is accounted for. -/
structure Accounts (delimiter : String) (lines : List (List Char)) (header : CsvHeader) (rows : List ParsedContactRow)
    (errors : List ParsedContactError) : Prop where
  covered : ∀ n, (∃ columns, DataLine delimiter lines n columns) ↔
    n ∈ rows.map ParsedContactRow.rowNumber ∨ n ∈ errors.map ParsedContactError.rowNumber
  disjoint : ∀ n ∈ rows.map ParsedContactRow.rowNumber, n ∉ errors.map ParsedContactError.rowNumber
  rowsInOrder : (rows.map ParsedContactRow.rowNumber).Pairwise (· < ·)
  errorsInOrder : (errors.map ParsedContactError.rowNumber).Pairwise (· < ·)
  duplicate : ∀ n columns, DataLine delimiter lines n columns →
    ((∃ error ∈ errors, error.rowNumber = n ∧ error.errorReason = "duplicate_in_upload") ↔
      ∃ row ∈ rows, row.rowNumber < n ∧
        normalizePhoneNumber (columns.getD header.phoneIndex "") = .ok row.phoneNumber)
  invalid : ∀ n columns, DataLine delimiter lines n columns →
    ((∃ error ∈ errors, error.rowNumber = n ∧ error.errorReason = invalidNumber) ↔
      ∃ failure, normalizePhoneNumber (columns.getD header.phoneIndex "") = .error failure)
  numbers : (rows.map ParsedContactRow.phoneNumber).Nodup
  cells : ∀ row ∈ rows, ∀ columns, DataLine delimiter lines row.rowNumber columns →
    normalizePhoneNumber (columns.getD header.phoneIndex "") = .ok row.phoneNumber ∧
      row.name = header.nameIndex.bind (fun index => columns[index]?) ∧
      row.metadata = (header.headers.zipIdx.filter fun column =>
        decide (column.2 ≠ header.phoneIndex ∧ some column.2 ≠ header.nameIndex)).map fun column =>
          (column.1, columns.getD column.2 "")

theorem accounts_parseRows (hheaders : header.headers.Nodup) :
    Accounts delimiter lines header (parseRows header (dataRows delimiter lines) []).1
      (parseRows header (dataRows delimiter lines) []).2 := by
  have hrows := dataRows_increasing delimiter lines
  have hperm := @parseRows_perm header (dataRows delimiter lines) []
  refine ⟨?_, ?_, hrows.sublist parseRows_sublist.1, hrows.sublist parseRows_sublist.2,
    fun _ _ => duplicate_iff, fun _ _ => invalid_iff, parseRows_numbers.1, ?_⟩
  · intro n
    rw [← List.mem_append, hperm.mem_iff, List.mem_map]
    constructor
    · rintro ⟨columns, h⟩
      exact ⟨⟨n, columns⟩, mem_dataRows.2 h, rfl⟩
    · rintro ⟨row, hrow, rfl⟩
      exact ⟨row.columns, mem_dataRows.1 hrow⟩
  · intro n hn herror
    have hnodup : ((dataRows delimiter lines).map DataRow.rowNumber).Nodup := hrows.imp Nat.ne_of_lt
    exact (List.nodup_append.1 (hperm.nodup_iff.2 hnodup)).2.2 n hn n herror rfl
  · intro parsed hparsed columns h
    obtain ⟨row, hrow, phoneNumber, hfirst, rfl⟩ := (mem_parseRows_iff hrows).1 hparsed
    have hmem : ⟨row.rowNumber, columns⟩ ∈ dataRows delimiter lines := mem_dataRows.2 h
    have hcolumns : row.columns = columns := congrArg DataRow.columns (eq_of_rowNumber hrows hrow hmem rfl)
    subst hcolumns
    exact ⟨hfirst.1, rfl, metadata_of_nodup hheaders row⟩

/-- Of a text with different headers that is parsed, every data line is accounted for. -/
theorem parseCsvContent_accounts {content : String} {c : Char} {rows : List ParsedContactRow}
    {errors : List ParsedContactError} (h : parseCsvContent content (String.singleton c) = .ok (rows, errors))
    (hheaders : (columnsOf (String.singleton c) ((splitLines (Numerals.strip content.toList)).headD [])).Nodup) :
    ∃ header, readHeader (columnsOf (String.singleton c) ((splitLines (Numerals.strip content.toList)).headD [])) =
        .ok header ∧
      Accounts (String.singleton c) (splitLines (Numerals.strip content.toList)) header rows errors := by
  obtain ⟨-, -, header, hread, hparse⟩ := parseCsvContent_ok_iff.1 h
  obtain ⟨rfl, rfl⟩ := Prod.mk.inj hparse
  exact ⟨header, hread, accounts_parseRows (headers_of_readHeader hread ▸ hheaders)⟩

namespace Sample

/-- A ragged row, a blank line, the same number once more, and a row without one. -/
def mixed : String := "phone_number,name,city\n0911234567\n\n+251 911 234 567,Abel,Adama\nnone,Selam,Jimma"

/-- A row without its last two cells. -/
def ragged : String := "phone_number,name,city\n0911234567"

def raggedRow : ParsedContactRow := ⟨2, "+251911234567", none, [("city", "")]⟩

theorem parse_ragged : parseCsvContent ragged (String.singleton ',') = .ok ([raggedRow], []) := rfl

def duplicateRow : ParsedContactError where
  rowNumber := 4
  rawRecord := [("phone_number", "+251 911 234 567"), ("name", "Abel"), ("city", "Adama")]
  errorReason := "duplicate_in_upload"

def invalidRow : ParsedContactError where
  rowNumber := 5
  rawRecord := [("phone_number", "none"), ("name", "Selam"), ("city", "Jimma")]
  errorReason := invalidNumber

theorem parse_mixed : parseCsvContent mixed (String.singleton ',') = .ok ([raggedRow], [duplicateRow, invalidRow]) := by
  decide +kernel

end Sample

theorem accounts_mixed : ∃ header, readHeader ["phone_number", "name", "city"] = .ok header ∧
    Accounts (String.singleton ',') (splitLines (Numerals.strip Sample.mixed.toList)) header [Sample.raggedRow]
      [Sample.duplicateRow, Sample.invalidRow] :=
  parseCsvContent_accounts Sample.parse_mixed (by decide +kernel)

/-- The name of a row whose name cell is missing is not the empty text. -/
theorem missing_name_not_empty : ∃ row, parseCsvContent Sample.ragged (String.singleton ',') = .ok ([row], []) ∧
    readHeader (columnsOf (String.singleton ',') ((splitLines (Numerals.strip Sample.ragged.toList)).headD [])) =
      .ok ⟨["phone_number", "name", "city"], 0, some 1⟩ ∧ row.name ≠ some "" :=
  ⟨Sample.raggedRow, Sample.parse_ragged, rfl, by decide⟩

end ContactsService

end SmsPlatform
