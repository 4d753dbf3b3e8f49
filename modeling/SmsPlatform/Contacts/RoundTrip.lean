import Mathlib.Algebra.Order.BigOperators.Group.List
import SmsPlatform.Contacts.Accounting
import SmsPlatform.Contacts.Blanks
import SmsPlatform.Contacts.Download

/-!
# Tables written and read

A table that is written with `downloadCsv` and read with `parseCsvContent` comes back as it was exactly if no header is
quoted and every record is legible (`roundTrips_iff`): none of its cells but the number is quoted and the number has no
comma, or what the number has behind its first comma happens to stand in the columns behind it.
-/

namespace SmsPlatform

namespace ContactsService

open Separated

/-! ### Tables -/

/-- The first column whose header is one of a number. -/
def phoneColumn (headers : List String) : Nat := headers.findIdx fun header => decide (header ∈ phoneHeaders)

def nameColumn (headers : List String) : Nat := headers.findIdx fun header => decide (header ∈ nameHeaders)

/-- A table of trimmed cells without line breaks: its headers are different, and one of them is that of a number and one
that of a name; its numbers can be normalised and are different then. -/
structure CsvTable where
  headers : List String
  records : List (List String)
  distinct : headers.Nodup
  hasPhone : ∃ header ∈ headers, header ∈ phoneHeaders
  hasName : ∃ header ∈ headers, header ∈ nameHeaders
  rectangular : ∀ record ∈ records, record.length = headers.length
  tidy : ∀ cells ∈ headers :: records, ∀ cell ∈ cells, Tidy cell
  valid : ∀ record ∈ records, ∃ number, normalizePhoneNumber (record.getD (phoneColumn headers) "") = .ok number
  numbers : (records.map fun record => normalizePhoneNumber (record.getD (phoneColumn headers) "")).Nodup

namespace CsvTable

variable (table : CsvTable) (record : List String)

def phone : String := record.getD (phoneColumn table.headers) ""

def name : String := record.getD (nameColumn table.headers) ""

/-- The cells behind the number. -/
def behind : List String := record.drop (phoneColumn table.headers + 1)

/-- The columns that are read behind that of the number: what the number has behind its first comma, and the cells. -/
def columnsBehind : List String := (pieces (table.phone record)).tail ++ (table.behind record).flatMap pieces

/-- The cells of the other columns under their headers. -/
def metadata : CsvRecord :=
  (table.headers.zipIdx.filter fun column =>
    decide (column.2 ≠ phoneColumn table.headers ∧ column.2 ≠ nameColumn table.headers)).map fun column =>
      (column.1, record.getD column.2 "")

/-- The parsed row is the record. -/
structure ReadsAs (row : ParsedContactRow) : Prop where
  phoneNumber : normalizePhoneNumber (table.phone record) = .ok row.phoneNumber
  name : row.name = some (table.name record)
  metadata : ∀ key, row.metadata.lookup key = (table.metadata record).lookup key

/-- What is read of the written table are its records in order, and no errors. -/
def RoundTrips : Prop := ∃ rows, parseCsvContent (downloadCsv table.headers table.records) "," = .ok (rows, []) ∧
  List.Forall₂ table.ReadsAs table.records rows

/-- The record is read as it was written: the cells before the number are not quoted, nothing behind the first comma of
the number belongs to it, and the columns behind the number begin with the cells behind it, which without a comma in the
number are not quoted either. -/
structure Legible : Prop where
  before : ∀ cell ∈ record.take (phoneColumn table.headers), Plain cell
  number : ∀ c ∈ (table.phone record).toList.dropWhile (· != ','), (c.isDigit || c == '+') = false
  after : if ',' ∈ (table.phone record).toList then
      (table.columnsBehind record).take (table.behind record).length = table.behind record
    else ∀ cell ∈ table.behind record, Plain cell

def header : CsvHeader := ⟨table.headers, phoneColumn table.headers, some (nameColumn table.headers)⟩

end CsvTable

/-- The rows that the lines of records are read as. -/
def fileRows (n : Nat) (records : List (List String)) : List DataRow :=
  (records.zipIdx n).map fun record => ⟨record.2, record.1.flatMap pieces⟩

section Tables

variable {table : CsvTable} {record : List String}

theorem not_phone_and_name {header : String} (hphone : header ∈ phoneHeaders) (hname : header ∈ nameHeaders) :
    False := by
  unfold phoneHeaders at hphone
  simp only [List.mem_cons, List.not_mem_nil, or_false] at hphone
  rcases hphone with rfl | rfl | rfl <;> revert hname <;> decide

namespace CsvTable

theorem phoneColumn_lt (table : CsvTable) : phoneColumn table.headers < table.headers.length := by
  obtain ⟨header, hmem, hphone⟩ := table.hasPhone
  exact List.findIdx_lt_length_of_exists ⟨header, hmem, decide_eq_true hphone⟩

theorem nameColumn_lt (table : CsvTable) : nameColumn table.headers < table.headers.length := by
  obtain ⟨header, hmem, hname⟩ := table.hasName
  exact List.findIdx_lt_length_of_exists ⟨header, hmem, decide_eq_true hname⟩

theorem phoneColumn_ne (table : CsvTable) : phoneColumn table.headers ≠ nameColumn table.headers := by
  intro hsame
  have hphoneLt := table.phoneColumn_lt
  have hnameLt := table.nameColumn_lt
  have hphone : table.headers[phoneColumn table.headers] ∈ phoneHeaders :=
    of_decide_eq_true (List.findIdx_getElem (w := hphoneLt))
  have hname : table.headers[nameColumn table.headers] ∈ nameHeaders :=
    of_decide_eq_true (List.findIdx_getElem (w := hnameLt))
  simp only [hsame] at hphone
  exact not_phone_and_name hphone hname

/-- A table has at least the two columns. -/
theorem width (table : CsvTable) : 2 ≤ table.headers.length := by
  have hphone := table.phoneColumn_lt
  have hname := table.nameColumn_lt
  have hne := table.phoneColumn_ne
  omega

theorem readHeader_eq (table : CsvTable) : readHeader table.headers = .ok table.header := by
  obtain ⟨name, hname, hisName⟩ := table.hasName
  have hnameIndex : table.headers.findIdx? (fun header => decide (header ∈ nameHeaders)) =
      some (nameColumn table.headers) :=
    List.findIdx?_eq_some_of_exists ⟨name, hname, decide_eq_true hisName⟩
  rw [readHeader_of_phone table.hasPhone, hnameIndex]
  rfl

end CsvTable

/-- No line of a record is blank. -/
theorem dataRows_lines {records : List (List String)} {line : List Char}
    (htidy : ∀ record ∈ records, ∀ cell ∈ record, Tidy cell) (hwide : ∀ record ∈ records, 2 ≤ record.length) :
    dataRows "," (line :: records.map csvLine) = fileRows 2 records := by
  have hfilled : ∀ entry ∈ (records.map csvLine).zipIdx 2, decide (Numerals.strip entry.1 ≠ []) = true := by
    rintro ⟨text, n⟩ hentry
    obtain ⟨record, hrecord, rfl⟩ := List.mem_map.1 (List.fst_mem_of_mem_zipIdx hentry)
    dsimp only
    rw [strip_eq_self_iff.2 (tight_csvLine (htidy record hrecord))]
    exact decide_eq_true (csvLine_ne_nil (hwide record hrecord))
  unfold dataRows fileRows
  rw [List.drop_one, List.tail_cons, List.filter_eq_self.2 hfilled, List.zipIdx_map, List.map_map]
  refine List.map_congr_left fun entry hentry => ?_
  obtain ⟨record, n⟩ := entry
  have hrecord := List.fst_mem_of_mem_zipIdx hentry
  have hne : record ≠ [] := by
    have hlength := hwide record hrecord
    rintro rfl
    simp at hlength
  exact congrArg (DataRow.mk n) (columnsOf_csvLine hne)

/-- What the parser makes of the written table. -/
theorem CsvTable.parse_iff (table : CsvTable) {parsed : List ParsedContactRow × List ParsedContactError} :
    parseCsvContent (downloadCsv table.headers table.records) "," = .ok parsed ↔ table.records.length ≤ 100000 ∧
      ∃ header, readHeader (table.headers.flatMap pieces) = .ok header ∧
        parseRows header (fileRows 2 table.records) [] = parsed := by
  have hwide : ∀ cells ∈ table.headers :: table.records, 2 ≤ cells.length := by
    intro cells hcells
    rcases List.mem_cons.1 hcells with rfl | hrecord
    · exact table.width
    · rw [table.rectangular cells hrecord]
      exact table.width
  obtain ⟨hne, hlines⟩ := lines_downloadCsv table.tidy hwide
  have hheader : table.headers ≠ [] := List.ne_nil_of_length_pos (by have hwidth := table.width; omega)
  rw [parseCsvContent_ok_iff, hlines, and_iff_right hne, List.map_cons, List.headD_cons, List.length_cons,
    List.length_map, columnsOf_csvLine hheader,
    dataRows_lines (fun record hrecord => table.tidy record (List.mem_cons_of_mem _ hrecord))
      fun record hrecord => hwide record (List.mem_cons_of_mem _ hrecord)]
  exact and_congr_left fun _ => by omega

/-! ### Records -/

section Records

variable {cells more : List String}

/-- The columns begin with the cells exactly if none of them is quoted. -/
theorem take_pieces_iff (htidy : ∀ cell ∈ cells, Tidy cell) :
    (cells.flatMap pieces ++ more).take cells.length = cells ↔ ∀ cell ∈ cells, Plain cell := by
  rw [take_flatMap_iff]
  · exact forall₂_congr fun cell hcell => pieces_eq_singleton_iff (htidy cell hcell)
  · intro cell hcell
    by_cases hplain : Plain cell
    · exact .inl (pieces_plain (htidy cell hcell) hplain)
    · right
      rw [pieces_eq_cons, List.head?_cons, ne_eq, Option.some.injEq]
      exact firstPiece_ne hplain
  · exact fun cell _ => pieces_ne_nil cell

theorem flatMap_pieces (htidy : ∀ cell ∈ cells, Tidy cell) (hplain : ∀ cell ∈ cells, Plain cell) :
    cells.flatMap pieces = cells :=
  flatMap_eq_self fun cell hcell => pieces_plain (htidy cell hcell) (hplain cell hcell)

end Records

namespace CsvTable

theorem length_before (hlt : phoneColumn table.headers < record.length) :
    (record.take (phoneColumn table.headers)).length = phoneColumn table.headers := by
  rw [List.length_take]
  omega

/-- The columns of a record's line. -/
theorem columns_eq (hlt : phoneColumn table.headers < record.length) : record.flatMap pieces =
    (record.take (phoneColumn table.headers)).flatMap pieces ++
      (pieces (table.phone record) ++ (table.behind record).flatMap pieces) := by
  have hphone : table.phone record = record[phoneColumn table.headers] := by
    unfold phone
    rw [List.getD_eq_getElem?_getD, List.getElem?_eq_getElem hlt, Option.getD_some]
  have hsplit : record = record.take (phoneColumn table.headers) ++
      table.phone record :: table.behind record := by
    unfold behind
    rw [hphone, ← List.drop_eq_getElem_cons hlt, List.take_append_drop]
  have hcolumns := congrArg (List.flatMap pieces) hsplit
  rw [List.flatMap_append, List.flatMap_cons] at hcolumns
  exact hcolumns

/-- The columns agree with the record outside the number. -/
theorem columns_iff (htidy : ∀ cell ∈ record, Tidy cell) (hlt : phoneColumn table.headers < record.length) :
    (∀ i < record.length, i ≠ phoneColumn table.headers → (record.flatMap pieces)[i]? = record[i]?) ↔
      (∀ cell ∈ record.take (phoneColumn table.headers), Plain cell) ∧
        (table.columnsBehind record).take (table.behind record).length = table.behind record := by
  have htidyBefore : ∀ cell ∈ record.take (phoneColumn table.headers), Tidy cell :=
    fun cell hcell => htidy cell (List.mem_of_mem_take hcell)
  have hlength := length_before hlt
  have hbefore := @take_pieces_iff (record.take (phoneColumn table.headers))
    (pieces (table.phone record) ++ (table.behind record).flatMap pieces) htidyBefore
  rw [← columns_eq hlt, hlength] at hbefore
  rw [getElem?_eq_iff hlt, hbefore]
  refine and_congr_right fun hplain => ?_
  -- behind the cells before the number come its columns
  have hbehind : (record.flatMap pieces).drop (phoneColumn table.headers + 1) =
      table.columnsBehind record := by
    unfold columnsBehind
    rw [columns_eq hlt, flatMap_pieces htidyBefore hplain, List.drop_append, hlength, Nat.add_sub_cancel_left,
      List.drop_eq_nil_of_le (by omega), pieces_eq_cons (table.phone record)]
    rfl
  rw [hbehind]
  rfl

/-- The metadata of a record are those of a row with its cells. -/
theorem metadata_eq (table : CsvTable) (record : List String) (n : Nat) :
    table.metadata record = (DataRow.mk n record).metadata table.header := by
  rw [metadata_of_nodup table.distinct]
  unfold metadata header
  simp only [ne_eq, Option.some.injEq]

theorem cell_eq {row : DataRow} {key : String} {i : Nat} (hget : table.headers[i]? = some key) :
    row.cell table.header key = row.columns.getD i "" := by
  obtain ⟨hlt, rfl⟩ := List.getElem?_eq_some_iff.1 hget
  have hindex := table.distinct.idxOf_getElem i hlt
  exact congrArg (fun i => row.columns.getD i "") hindex

/-- A row has the metadata of a record exactly if it has its cells in the other columns. -/
theorem metadata_iff {row : DataRow} :
    (∀ key, (row.metadata table.header).lookup key = (table.metadata record).lookup key) ↔
      ∀ i < table.headers.length, i ≠ phoneColumn table.headers → i ≠ nameColumn table.headers →
        row.columns.getD i "" = record.getD i "" := by
  rw [metadata_eq table record 0]
  constructor
  · intro h i hi hphone hname
    have hget : table.headers[i]? = some table.headers[i] := List.getElem?_eq_getElem hi
    have hkey : table.header.MetadataKey table.headers[i] :=
      ⟨i, hget, hphone, fun hsame => hname (Option.some.inj hsame)⟩
    have hlookup := h table.headers[i]
    rw [DataRow.lookup_metadata_of_key hkey, DataRow.lookup_metadata_of_key hkey, cell_eq hget, cell_eq hget] at hlookup
    exact Option.some.inj hlookup
  · intro h key
    by_cases hkey : table.header.MetadataKey key
    · rw [DataRow.lookup_metadata_of_key hkey, DataRow.lookup_metadata_of_key hkey]
      obtain ⟨i, hget, hphone, hname⟩ := hkey
      rw [cell_eq hget, cell_eq hget]
      obtain ⟨hi, -⟩ := List.getElem?_eq_some_iff.1 hget
      exact congrArg some (h i hi hphone fun hsame => hname (congrArg some hsame))
    · rw [DataRow.lookup_metadata_of_not_key hkey, DataRow.lookup_metadata_of_not_key hkey]

/-- The row that the line of a record is read as is parsed as the record. -/
def ReadsBack (table : CsvTable) (record : List String) : Prop :=
  ∀ n, ∃ number, (DataRow.mk n (record.flatMap pieces)).normalizedPhone table.header = .ok number ∧
    table.ReadsAs record ((DataRow.mk n (record.flatMap pieces)).parsed table.header number)

theorem readsAs_iff {n : Nat} {number : String} (hlength : record.length = table.headers.length) :
    table.ReadsAs record ((DataRow.mk n (record.flatMap pieces)).parsed table.header number) ↔
      normalizePhoneNumber (table.phone record) = .ok number ∧
        ∀ i < record.length, i ≠ phoneColumn table.headers → (record.flatMap pieces)[i]? = record[i]? := by
  have hlonger : record.length ≤ (record.flatMap pieces).length := length_le_flatMap fun cell _ => pieces_ne_nil cell
  have hget : ∀ i < record.length, ((record.flatMap pieces).getD i "" = record.getD i "" ↔
      (record.flatMap pieces)[i]? = record[i]?) := by
    intro i hi
    rw [List.getD_eq_getElem?_getD, List.getD_eq_getElem?_getD, List.getElem?_eq_getElem hi,
      List.getElem?_eq_getElem (Nat.lt_of_lt_of_le hi hlonger)]
    simp
  have hnameLt : nameColumn table.headers < record.length := hlength ▸ table.nameColumn_lt
  have hname : record[nameColumn table.headers]? = some (table.name record) := by
    unfold name
    rw [List.getD_eq_getElem?_getD, List.getElem?_eq_getElem hnameLt, Option.getD_some]
  constructor
  · rintro ⟨hphone, hnameSame, hmetadata⟩
    refine ⟨hphone, fun i hi hne => ?_⟩
    -- the name is not among the metadata
    by_cases hi' : i = nameColumn table.headers
    · subst hi'
      rw [hname]
      exact hnameSame
    · exact (hget i hi).1 (metadata_iff.1 hmetadata i (hlength ▸ hi) hne hi')
  · rintro ⟨hphone, hcolumns⟩
    refine ⟨hphone, ?_, metadata_iff.2 fun i hi hne _ => (hget i (hlength ▸ hi)).2 (hcolumns i (hlength ▸ hi) hne)⟩
    have hnameSame := hcolumns _ hnameLt (Ne.symm table.phoneColumn_ne)
    rw [hname] at hnameSame
    exact hnameSame

/-- The column of the number, if no cell before it is quoted. -/
theorem phone_column (htidy : ∀ cell ∈ record, Tidy cell) (hlt : phoneColumn table.headers < record.length)
    (hplain : ∀ cell ∈ record.take (phoneColumn table.headers), Plain cell) :
    (record.flatMap pieces).getD (phoneColumn table.headers) "" = firstPiece (table.phone record) := by
  have hlength := length_before hlt
  rw [columns_eq hlt, flatMap_pieces (fun cell hcell => htidy cell (List.mem_of_mem_take hcell)) hplain,
    List.getD_eq_getElem?_getD, List.getElem?_append_right (by omega), hlength, Nat.sub_self,
    pieces_eq_cons (table.phone record)]
  rfl

theorem behind_iff (htidy : ∀ cell ∈ record, Tidy cell) :
    (table.columnsBehind record).take (table.behind record).length = table.behind record ↔
      if ',' ∈ (table.phone record).toList then
        (table.columnsBehind record).take (table.behind record).length = table.behind record
      else ∀ cell ∈ table.behind record, Plain cell := by
  by_cases hcomma : ',' ∈ (table.phone record).toList
  · rw [if_pos hcomma]
  · have htidyBehind : ∀ cell ∈ table.behind record, Tidy cell :=
      fun cell hcell => htidy cell (List.mem_of_mem_drop hcell)
    unfold columnsBehind
    rw [if_neg hcomma, tail_pieces hcomma, List.nil_append, ← @take_pieces_iff _ [] htidyBehind, List.append_nil]

/-- The records that are read back are the legible ones. -/
theorem readsBack_iff (hrecord : record ∈ table.records) : table.ReadsBack record ↔ table.Legible record := by
  have htidy : ∀ cell ∈ record, Tidy cell := table.tidy record (List.mem_cons_of_mem _ hrecord)
  have hlength := table.rectangular record hrecord
  have hlt : phoneColumn table.headers < record.length := hlength ▸ table.phoneColumn_lt
  have htidyPhone : Tidy (table.phone record) := by
    refine htidy _ ?_
    unfold phone
    rw [List.getD_eq_getElem?_getD, List.getElem?_eq_getElem hlt]
    exact List.getElem_mem hlt
  constructor
  · intro h
    obtain ⟨number, hcolumn, hreads⟩ := h 0
    obtain ⟨hnumber, hcolumns⟩ := (readsAs_iff hlength).1 hreads
    obtain ⟨hbefore, hafter⟩ := (columns_iff htidy hlt).1 hcolumns
    have hfirst : normalizePhoneNumber (firstPiece (table.phone record)) = .ok number := by
      rw [← phone_column htidy hlt hbefore]
      exact hcolumn
    exact ⟨hbefore, (normalize_firstPiece_iff htidyPhone hnumber).1 hfirst, (behind_iff htidy).1 hafter⟩
  · rintro ⟨hbefore, hnone, hafter⟩ n
    obtain ⟨number, hnumber⟩ := table.valid record hrecord
    refine ⟨number, ?_, (readsAs_iff hlength).2 ⟨hnumber, ?_⟩⟩
    · have hfirst := (normalize_firstPiece_iff htidyPhone hnumber).2 hnone
      rw [← phone_column htidy hlt hbefore] at hfirst
      exact hfirst
    · exact (columns_iff htidy hlt).2 ⟨hbefore, (behind_iff htidy).2 hafter⟩

/-- The numbers of the other records stay new. -/
theorem valid_rest {records : List (List String)} {seen : List String} {number : String}
    (hvalid : ∀ other ∈ record :: records,
      ∃ number, normalizePhoneNumber (table.phone other) = .ok number ∧ number ∉ seen)
    (hnumbers : ((record :: records).map fun record => normalizePhoneNumber (table.phone record)).Nodup)
    (hnumber : normalizePhoneNumber (table.phone record) = .ok number) :
    ∀ other ∈ records, ∃ new, normalizePhoneNumber (table.phone other) = .ok new ∧ new ∉ number :: seen := by
  intro other hother
  obtain ⟨new, hnew, hunseen⟩ := hvalid other (List.mem_cons_of_mem _ hother)
  refine ⟨new, hnew, ?_⟩
  rw [List.mem_cons, not_or]
  refine ⟨?_, hunseen⟩
  rintro rfl
  rw [List.map_cons, List.nodup_cons] at hnumbers
  exact hnumbers.1 (List.mem_map.2 ⟨other, hother, hnew.trans hnumber.symm⟩)

/-- The rows are parsed in order and without errors as the records exactly if every record is read back. -/
theorem parseRows_iff {records : List (List String)} {n : Nat} {seen : List String}
    (hvalid : ∀ record ∈ records, ∃ number, normalizePhoneNumber (table.phone record) = .ok number ∧ number ∉ seen)
    (hnumbers : (records.map fun record => normalizePhoneNumber (table.phone record)).Nodup) :
    (∃ rows, parseRows table.header (fileRows n records) seen = (rows, []) ∧ List.Forall₂ table.ReadsAs records rows) ↔
      ∀ record ∈ records, table.ReadsBack record := by
  induction records generalizing n seen with
  | nil =>
    constructor
    · intro _ record hrecord
      cases hrecord
    · intro _
      exact ⟨[], rfl, .nil⟩
  | cons record records ih =>
    have hnumbersRest : (records.map fun record => normalizePhoneNumber (table.phone record)).Nodup :=
      (List.nodup_cons.1 hnumbers).2
    have hfile : fileRows n (record :: records) = ⟨n, record.flatMap pieces⟩ :: fileRows (n + 1) records := rfl
    rw [hfile, List.forall_mem_cons]
    rcases parseRows_cons table.header ⟨n, record.flatMap pieces⟩ (fileRows (n + 1) records) seen with
      ⟨number, hnormalized, -, hparse⟩ | ⟨hrefused, hparse⟩
    · rw [hparse]
      constructor
      · rintro ⟨rows, hrows, hall⟩
        obtain ⟨rfl, herrors⟩ := Prod.mk.inj hrows
        cases hall with
        | cons hreads hrest =>
          have hvalidRest := valid_rest hvalid hnumbers hreads.phoneNumber
          refine ⟨fun m => ⟨number, hnormalized, hreads.phoneNumber, hreads.name, hreads.metadata⟩, ?_⟩
          exact (ih hvalidRest hnumbersRest).1 ⟨_, Prod.ext rfl herrors, hrest⟩
      · rintro ⟨hback, hrest⟩
        obtain ⟨number', hnormalized', hreads⟩ := hback n
        obtain rfl : number' = number := Except.ok.inj (hnormalized'.symm.trans hnormalized)
        have hnumber : normalizePhoneNumber (table.phone record) = .ok number' := hreads.phoneNumber
        obtain ⟨rows, hrows, hall⟩ := (@ih (n + 1) _ (valid_rest hvalid hnumbers hnumber) hnumbersRest).2 hrest
        rw [hrows]
        exact ⟨_, rfl, .cons hreads hall⟩
    · -- an error has been recorded
      rw [hparse]
      constructor
      · rintro ⟨rows, hrows, -⟩
        exact absurd (Prod.mk.inj hrows).2 (List.cons_ne_nil _ _)
      · rintro ⟨hback, -⟩
        obtain ⟨number, hnormalized, hreads⟩ := hback n
        obtain ⟨number', hnumber', hunseen⟩ := hvalid record List.mem_cons_self
        obtain rfl : number' = number := Except.ok.inj (hnumber'.symm.trans hreads.phoneNumber)
        exact absurd (hrefused _ hnormalized) hunseen

end CsvTable

/-! ### Headers -/

/-- The headers of a number and of a name are not quoted. -/
theorem plain_known {header : String} (h : header ∈ phoneHeaders ∨ header ∈ nameHeaders) : Plain header := by
  unfold phoneHeaders nameHeaders at h
  simp only [List.mem_cons, List.not_mem_nil, or_false] at h
  rcases h with (rfl | rfl | rfl) | (rfl | rfl) <;> exact ⟨by decide, by decide⟩

/-- The columns that `readHeader` finds have their headers. -/
theorem readHeader_columns {headers : List String} {header : CsvHeader} (h : readHeader headers = .ok header) {i : Nat}
    {found : String} (hget : headers[i]? = some found) (hcolumn : i = header.phoneIndex ∨ some i = header.nameIndex) :
    found ∈ phoneHeaders ∨ found ∈ nameHeaders := by
  obtain ⟨-, hphone, hname⟩ := readHeader_ok_iff.1 h
  rcases hcolumn with rfl | hindex
  · obtain ⟨hlt, hfound, -⟩ := List.findIdx?_eq_some_iff_getElem.1 hphone
    rw [List.getElem?_eq_getElem hlt] at hget
    cases hget
    exact .inl (of_decide_eq_true hfound)
  · rw [← hindex] at hname
    obtain ⟨hlt, hfound, -⟩ := List.findIdx?_eq_some_iff_getElem.1 hname
    rw [List.getElem?_eq_getElem hlt] at hget
    cases hget
    exact .inr (of_decide_eq_true hfound)

namespace CsvTable

/-- If one record is read as it was written, a column whose header has a quote has a header of the table. -/
theorem mem_headers_of_reads {header : CsvHeader} {row : DataRow} {number piece : String}
    (hheader : readHeader (table.headers.flatMap pieces) = .ok header)
    (hreads : table.ReadsAs record (row.parsed header number)) (hpiece : piece ∈ table.headers.flatMap pieces)
    (hquote : '"' ∈ piece.toList) : piece ∈ table.headers := by
  have hkey : header.MetadataKey piece := by
    obtain ⟨i, hi, hget⟩ := List.mem_iff_getElem.1 hpiece
    have hget' : (table.headers.flatMap pieces)[i]? = some piece := by rw [List.getElem?_eq_getElem hi, hget]
    have hcolumn : ¬ (i = header.phoneIndex ∨ some i = header.nameIndex) :=
      fun hcolumn => (plain_known (readHeader_columns hheader hget' hcolumn)).quote hquote
    rw [not_or] at hcolumn
    exact ⟨i, by rw [headers_of_readHeader hheader]; exact hget', hcolumn.1, hcolumn.2⟩
  have hlookup := hreads.metadata piece
  rw [metadata_eq table record 0] at hlookup
  have hread : (row.metadata header).lookup piece = ((DataRow.mk 0 record).metadata table.header).lookup piece := hlookup
  rw [DataRow.lookup_metadata_of_key hkey] at hread
  by_contra hnone
  rw [DataRow.lookup_metadata_of_not_key] at hread
  · cases hread
  · rintro ⟨i, hget, -⟩
    exact hnone (List.mem_of_getElem? hget)

/-- If one record is read as it was written, no header is quoted: its first column would be a header with a quote and no
comma, whose column would be a header with more quotes, and so on. -/
theorem plain_of_reads {header : CsvHeader} {row : DataRow} {number : String}
    (hheader : readHeader (table.headers.flatMap pieces) = .ok header)
    (hreads : table.ReadsAs record (row.parsed header number)) : ∀ cell ∈ table.headers, Plain cell := by
  intro cell hcell
  by_contra hplain
  have hfirst : ∀ quoted ∈ table.headers, ¬ Plain quoted → firstPiece quoted ∈ table.headers := by
    intro quoted hmem hquoted
    refine mem_headers_of_reads hheader hreads (List.mem_flatMap.2 ⟨quoted, hmem, ?_⟩) ?_
    · rw [pieces_eq_cons]
      exact List.mem_cons_self
    · rw [← List.count_pos_iff, count_firstPiece hquoted]
      split <;> omega
  -- without a comma, the first column is the whole of the quoted header
  have hmore : ∀ n, ∃ quoted ∈ table.headers, ',' ∉ quoted.toList ∧ n < quoted.toList.count '"' := by
    intro n
    induction n with
    | zero =>
      refine ⟨firstPiece cell, hfirst cell hcell hplain, comma_not_mem_firstPiece, ?_⟩
      rw [count_firstPiece hplain]
      split <;> omega
    | succ n ih =>
      obtain ⟨quoted, hmem, hcomma, hcount⟩ := ih
      have hquoted : ¬ Plain quoted := fun h => h.quote (List.count_pos_iff.1 (by omega))
      refine ⟨firstPiece quoted, hfirst quoted hmem hquoted, comma_not_mem_firstPiece, ?_⟩
      rw [count_firstPiece hquoted, if_neg hcomma]
      omega
  obtain ⟨quoted, hmem, -, hcount⟩ := hmore (table.headers.map fun header => header.toList.count '"').sum
  have hle : quoted.toList.count '"' ≤ (table.headers.map fun header => header.toList.count '"').sum :=
    List.single_le_sum (fun _ _ => Nat.zero_le _) _ (List.mem_map_of_mem hmem)
  omega

end CsvTable

/-- The header line is read, whatever the other headers are. -/
theorem readHeader_ok (table : CsvTable) : ∃ header, readHeader (table.headers.flatMap pieces) = .ok header := by
  obtain ⟨phone, hphone, hisPhone⟩ := table.hasPhone
  have hpieces := pieces_plain (table.tidy _ List.mem_cons_self phone hphone) (plain_known (.inl hisPhone))
  have hmem : phone ∈ table.headers.flatMap pieces := by
    refine List.mem_flatMap.2 ⟨phone, hphone, ?_⟩
    rw [hpieces]
    exact List.mem_singleton_self _
  exact ⟨_, readHeader_of_phone ⟨phone, hmem, hisPhone⟩⟩

theorem readHeader_plain (table : CsvTable) (hplain : ∀ header ∈ table.headers, Plain header) :
    readHeader (table.headers.flatMap pieces) = .ok table.header := by
  rw [flatMap_pieces (table.tidy _ List.mem_cons_self) hplain, table.readHeader_eq]

/-- A table that is not too long comes back exactly if the rows of its file are parsed in order as its records. -/
theorem CsvTable.roundTrips_of_header {header : CsvHeader} (hfew : table.records.length ≤ 100000)
    (hheader : readHeader (table.headers.flatMap pieces) = .ok header) : table.RoundTrips ↔
      ∃ rows, parseRows header (fileRows 2 table.records) [] = (rows, []) ∧
        List.Forall₂ table.ReadsAs table.records rows := by
  unfold CsvTable.RoundTrips
  refine exists_congr fun rows => and_congr_left fun _ => ?_
  rw [table.parse_iff, and_iff_right hfew, hheader]
  constructor
  · rintro ⟨header', hsame, hparse⟩
    rw [Except.ok.inj hsame]
    exact hparse
  · intro hparse
    exact ⟨header, rfl, hparse⟩

/-- A table with records that comes back has no quoted header. -/
theorem CsvTable.plain_of_roundTrips (hfew : table.records.length ≤ 100000) (hsome : table.records ≠ [])
    (h : table.RoundTrips) : ∀ header ∈ table.headers, Plain header := by
  obtain ⟨header, hheader⟩ := readHeader_ok table
  obtain ⟨rows, hrows, hall⟩ := (roundTrips_of_header hfew hheader).1 h
  obtain ⟨record, records, hrecords⟩ := List.exists_cons_of_ne_nil hsome
  rw [hrecords] at hall
  obtain ⟨parsed, others, hreads, -, rfl⟩ := List.forall₂_cons_left_iff.1 hall
  have hmem : parsed ∈ (parseRows header (fileRows 2 table.records) []).1 := by
    rw [hrows]
    exact List.mem_cons_self
  obtain ⟨before, row, after, -, number, -, rfl⟩ := mem_parseRows.1 hmem
  exact plain_of_reads hheader hreads

/-- A table without quoted headers comes back exactly if its records are legible. -/
theorem CsvTable.roundTrips_of_plain (hfew : table.records.length ≤ 100000)
    (hplain : ∀ header ∈ table.headers, Plain header) :
    table.RoundTrips ↔ ∀ record ∈ table.records, table.Legible record := by
  have hvalid : ∀ record ∈ table.records,
      ∃ number, normalizePhoneNumber (table.phone record) = .ok number ∧ number ∉ ([] : List String) := by
    intro record hrecord
    obtain ⟨number, hnumber⟩ := table.valid record hrecord
    exact ⟨number, hnumber, by simp⟩
  rw [roundTrips_of_header hfew (readHeader_plain table hplain), parseRows_iff hvalid table.numbers]
  exact forall₂_congr fun record hrecord => readsBack_iff hrecord

/-- A written table is read as it was exactly if it has no more records than an upload may have and either no records or
no quoted header and legible records only. -/
theorem roundTrips_iff (table : CsvTable) : table.RoundTrips ↔ table.records.length ≤ 100000 ∧
    (table.records = [] ∨
      ((∀ header ∈ table.headers, Plain header) ∧ ∀ record ∈ table.records, table.Legible record)) := by
  constructor
  · intro h
    have hfew : table.records.length ≤ 100000 := by
      obtain ⟨rows, hrows, -⟩ := h
      exact (table.parse_iff.1 hrows).1
    refine ⟨hfew, ?_⟩
    by_cases hnil : table.records = []
    · exact .inl hnil
    · have hplain := table.plain_of_roundTrips hfew hnil h
      exact .inr ⟨hplain, (CsvTable.roundTrips_of_plain hfew hplain).1 h⟩
  · rintro ⟨hfew, hnil | ⟨hplain, hlegible⟩⟩
    · obtain ⟨header, hheader⟩ := readHeader_ok table
      rw [CsvTable.roundTrips_of_header hfew hheader, hnil]
      exact ⟨[], rfl, .nil⟩
    · exact (CsvTable.roundTrips_of_plain hfew hplain).2 hlegible

end Tables

/-! ### A small instance -/

namespace Sample

/-- A name with a comma. -/
def juniors : CsvTable where
  headers := ["phone_number", "name", "city"]
  records := [["0911234567", "Abebe, Jr", "Adama"]]
  distinct := by decide
  hasPhone := by decide
  hasName := by decide
  rectangular := by decide
  tidy := by decide
  valid := by
    intro record hrecord
    obtain rfl := List.mem_singleton.1 hrecord
    exact ⟨"+251911234567", rfl⟩
  numbers := List.nodup_singleton _

theorem parse_juniors : parseCsvContent (downloadCsv juniors.headers juniors.records) "," =
    .ok ([⟨2, "+251911234567", some "\"Abebe", [("city", "Jr\"")]⟩], []) := rfl

end Sample

/-- The name is cut at its comma, and what it has behind the comma is read as the city. -/
theorem not_roundTrips_juniors : ¬ Sample.juniors.RoundTrips := by
  rintro ⟨rows, hrows, hall⟩
  rw [Sample.parse_juniors] at hrows
  obtain ⟨rfl, -⟩ := Prod.mk.inj (Except.ok.inj hrows)
  obtain ⟨hreads, -⟩ := List.forall₂_cons.1 hall
  have hname := hreads.name
  revert hname
  decide

end ContactsService

end SmsPlatform
