import Mathlib.Data.List.Basic
import SmsPlatform.Compliance.OptOuts
import SmsPlatform.Lib.Numerals
import SmsPlatform.Lib.Rows

/-!
# The CSV text of a contact upload

`normalizePhoneNumber` and `parseCsvContent` of `contacts.service.ts`.  The first line names the columns; every other line
that is not blank is a data row.  A row whose number can be normalised and has not come before is parsed, and every other
one is an error (`mem_parseRows`, `mem_parseErrors`).  A text is a list of characters here, so it has no lone surrogates.
-/

namespace SmsPlatform

def Failure.message : Failure → String
  | .badRequest message => message
  | .conflict message => message
  | .forbidden message => message
  | .notFound message => message
  | .tooManyRequests message => message
  | .trigger message => message
  | .uniqueViolation index => "duplicate key value violates unique constraint " ++ index
  | .error message => message

namespace ContactsService

/-- The contacts service's own copy of the normaliser. -/
def normalizePhoneNumber (phoneNumber : String) : Except Failure String :=
  let trimmed := digitsAndPlus phoneNumber
  if startsWith trimmed "+" then .ok (.ofList trimmed)
  else if startsWith trimmed "251" then .ok (.ofList ('+' :: trimmed))
  else if startsWith trimmed "0" then .ok (.ofList ("+251".toList ++ trimmed.drop 1))
  else .error (.badRequest "Phone number must be in Ethiopian local format or E.164")

/-! ### Lines and columns -/

/-- An object whose values are texts. -/
abbrev CsvRecord := List (String × String)

def setProperty (key value : String) : CsvRecord → CsvRecord
  | [] => [(key, value)]
  | (k, v) :: record => if k = key then (k, value) :: record else (k, v) :: setProperty key value record

/-- `Object.fromEntries`: of two entries with one key, the later one counts. -/
def fromEntries (entries : List (String × String)) : CsvRecord :=
  entries.foldl (fun record entry => setProperty entry.1 entry.2 record) []

/-- `text.split(/\r?\n/)`. -/
def splitLines : List Char → List (List Char)
  | [] => [[]]
  | '\n' :: text => [] :: splitLines text
  | '\r' :: '\n' :: text => [] :: splitLines text
  | c :: text =>
    match splitLines text with
    | [] => [[c]]
    | line :: lines => (c :: line) :: lines

/-- `text.split(delimiter)`, for a delimiter of one character or none. -/
def split (delimiter : String) (text : List Char) : List (List Char) :=
  match delimiter.toList with
  | [] => text.map fun c => [c]
  | c :: _ => text.splitOn c

/-- A line, split and trimmed. -/
def columnsOf (delimiter : String) (line : List Char) : List String :=
  (split delimiter line).map fun value => String.ofList (Numerals.strip value)

structure CsvHeader where
  headers : List String
  phoneIndex : Nat
  nameIndex : Option Nat

def phoneHeaders : List String := ["phone_number", "phoneNumber", "msisdn"]

def nameHeaders : List String := ["name", "full_name"]

def readHeader (headers : List String) : Except Failure CsvHeader :=
  if headers.length = 0 then .error (.badRequest "CSV header is missing")
  else
    match headers.findIdx? fun header => decide (header ∈ phoneHeaders) with
    | none => .error (.badRequest "CSV must include a phone_number column")
    | some phoneIndex => .ok ⟨headers, phoneIndex, headers.findIdx? fun header => decide (header ∈ nameHeaders)⟩

/-! ### Data rows -/

structure DataRow where
  rowNumber : Nat
  columns : List String

/-- The lines after the first one that are not blank; the first of them is line 2. -/
def dataRows (delimiter : String) (lines : List (List Char)) : List DataRow :=
  (((lines.drop 1).zipIdx 2).filter fun line => decide (Numerals.strip line.1 ≠ [])).map fun line =>
    ⟨line.2, columnsOf delimiter line.1⟩

structure ParsedContactRow where
  rowNumber : Nat
  phoneNumber : String
  name : Option String
  metadata : CsvRecord
  deriving DecidableEq

structure ParsedContactError where
  rowNumber : Nat
  rawRecord : CsvRecord
  errorReason : String
  deriving DecidableEq

namespace DataRow

variable (header : CsvHeader) (row : DataRow)

def rawRecord : CsvRecord :=
  fromEntries (header.headers.zipIdx.map fun column => (column.1, row.columns.getD column.2 ""))

/-- The columns that are neither the number nor the name; of columns with one header, the first one is read. -/
def metadata : CsvRecord :=
  fromEntries ((header.headers.zipIdx.filter fun column =>
    decide (column.2 ≠ header.phoneIndex ∧ some column.2 ≠ header.nameIndex)).map fun column =>
      (column.1, row.columns.getD (header.headers.idxOf column.1) ""))

def normalizedPhone : Except Failure String := normalizePhoneNumber (row.columns.getD header.phoneIndex "")

def name : Option String := header.nameIndex.bind fun index => row.columns[index]?

def parsed (phoneNumber : String) : ParsedContactRow where
  rowNumber := row.rowNumber
  phoneNumber := phoneNumber
  name := row.name header
  metadata := row.metadata header

def error (errorReason : String) : ParsedContactError where
  rowNumber := row.rowNumber
  rawRecord := row.rawRecord header
  errorReason := errorReason

end DataRow

/-- The loop of `parseCsvContent`; `seen` are the numbers of the rows before. -/
def parseRows (header : CsvHeader) : List DataRow → List String → List ParsedContactRow × List ParsedContactError
  | [], _ => ([], [])
  | row :: rest, seen =>
    match row.normalizedPhone header with
    | .error failure =>
      let parsed := parseRows header rest seen
      (parsed.1, row.error header failure.message :: parsed.2)
    | .ok phoneNumber =>
      if phoneNumber ∈ seen then
        let parsed := parseRows header rest seen
        (parsed.1, row.error header "duplicate_in_upload" :: parsed.2)
      else
        let parsed := parseRows header rest (phoneNumber :: seen)
        (row.parsed header phoneNumber :: parsed.1, parsed.2)

def parseCsvContent (csvContent delimiter : String) :
    Except Failure (List ParsedContactRow × List ParsedContactError) :=
  let trimmed := Numerals.strip csvContent.toList
  if trimmed = [] then .error (.badRequest "CSV content is empty")
  else
    let lines := splitLines trimmed
    if 100001 < lines.length then .error (.badRequest "Inline upload exceeds 100000 data rows")
    else (readHeader (columnsOf delimiter (lines.headD []))).map fun header =>
      parseRows header (dataRows delimiter lines) []

/-! ### Which texts are parsed -/

theorem readHeader_ok_iff {headers : List String} {header : CsvHeader} : readHeader headers = .ok header ↔
    header.headers = headers ∧
      headers.findIdx? (fun header => decide (header ∈ phoneHeaders)) = some header.phoneIndex ∧
      headers.findIdx? (fun header => decide (header ∈ nameHeaders)) = header.nameIndex := by
  unfold readHeader
  by_cases hnone : headers.length = 0
  · rw [if_pos hnone, List.eq_nil_of_length_eq_zero hnone]
    simp
  · rw [if_neg hnone]
    cases hphone : headers.findIdx? fun header => decide (header ∈ phoneHeaders) with
    | none => simp
    | some phoneIndex =>
      constructor
      · intro h
        cases h
        exact ⟨rfl, rfl, rfl⟩
      · rintro ⟨rfl, hindex, hname⟩
        obtain rfl := Option.some.inj hindex
        rw [hname]

/-- Headers with one of a number are read. -/
theorem readHeader_of_phone {headers : List String} (h : ∃ header ∈ headers, header ∈ phoneHeaders) :
    readHeader headers = .ok ⟨headers, headers.findIdx fun header => decide (header ∈ phoneHeaders),
      headers.findIdx? fun header => decide (header ∈ nameHeaders)⟩ := by
  obtain ⟨header, hmem, hphone⟩ := h
  exact readHeader_ok_iff.2
    ⟨rfl, List.findIdx?_eq_some_of_exists ⟨header, hmem, decide_eq_true hphone⟩, rfl⟩

theorem exists_phone_of_readHeader {headers : List String} {header : CsvHeader} (h : readHeader headers = .ok header) :
    ∃ header ∈ headers, header ∈ phoneHeaders := by
  obtain ⟨-, hphone, -⟩ := readHeader_ok_iff.1 h
  obtain ⟨hlt, hfound, -⟩ := List.findIdx?_eq_some_iff_getElem.1 hphone
  exact ⟨_, List.getElem_mem hlt, of_decide_eq_true hfound⟩

theorem headers_of_readHeader {headers : List String} {header : CsvHeader} (h : readHeader headers = .ok header) :
    header.headers = headers :=
  (readHeader_ok_iff.1 h).1

theorem parseCsvContent_ok_iff {csvContent delimiter : String}
    {parsed : List ParsedContactRow × List ParsedContactError} :
    parseCsvContent csvContent delimiter = .ok parsed ↔ Numerals.strip csvContent.toList ≠ [] ∧
      (splitLines (Numerals.strip csvContent.toList)).length ≤ 100001 ∧ ∃ header,
        readHeader (columnsOf delimiter ((splitLines (Numerals.strip csvContent.toList)).headD [])) = .ok header ∧
          parseRows header (dataRows delimiter (splitLines (Numerals.strip csvContent.toList))) [] = parsed := by
  unfold parseCsvContent
  dsimp only
  by_cases hempty : Numerals.strip csvContent.toList = []
  · simp [hempty]
  · rw [if_neg hempty]
    by_cases hmany : 100001 < (splitLines (Numerals.strip csvContent.toList)).length
    · rw [if_pos hmany]
      simp [hmany]
    · rw [if_neg hmany]
      refine ⟨fun h => ⟨hempty, Nat.not_lt.1 hmany, ?_⟩, fun h => ?_⟩
      · cases hread : readHeader
          (columnsOf delimiter ((splitLines (Numerals.strip csvContent.toList)).headD [])) with
        | error failure =>
          rw [hread] at h
          cases h
        | ok header =>
          rw [hread] at h
          exact ⟨header, rfl, Except.ok.inj h⟩
      · obtain ⟨-, -, header, hread, hparse⟩ := h
        rw [hread]
        exact congrArg Except.ok hparse

/-! ### Which rows are parsed -/

section Parsing

variable {header : CsvHeader} {rows rest before after : List DataRow} {row : DataRow} {seen : List String}
  {phoneNumber : String}

/-- The number of the row is not among those seen, and no row before it has it. -/
structure Fresh (header : CsvHeader) (seen : List String) (before : List DataRow) (row : DataRow)
    (phoneNumber : String) : Prop where
  normalized : row.normalizedPhone header = .ok phoneNumber
  unseen : phoneNumber ∉ seen
  first : ∀ earlier ∈ before, earlier.normalizedPhone header ≠ .ok phoneNumber

/-- The error that a row is recorded with when it is not parsed. -/
def DataRow.refusal (header : CsvHeader) (row : DataRow) : ParsedContactError :=
  match row.normalizedPhone header with
  | .error failure => row.error header failure.message
  | .ok _ => row.error header "duplicate_in_upload"

theorem Fresh.unique {phoneNumber' : String} (h : Fresh header seen before row phoneNumber)
    (h' : Fresh header seen before row phoneNumber') : phoneNumber = phoneNumber' :=
  Except.ok.inj (h.normalized.symm.trans h'.normalized)

/-- A row with a new number adds it to those seen. -/
theorem fresh_cons_new {first : DataRow} {new : String} (hfirst : first.normalizedPhone header = .ok new) :
    Fresh header seen (first :: before) row phoneNumber ↔ Fresh header (new :: seen) before row phoneNumber := by
  constructor
  · rintro ⟨hnormalized, hunseen, hbefore⟩
    refine ⟨hnormalized, ?_, fun earlier hearlier => hbefore earlier (by simp [hearlier])⟩
    rw [List.mem_cons, not_or]
    refine ⟨?_, hunseen⟩
    rintro rfl
    exact hbefore first (by simp) hfirst
  · rintro ⟨hnormalized, hunseen, hbefore⟩
    rw [List.mem_cons, not_or] at hunseen
    refine ⟨hnormalized, hunseen.2, fun earlier hearlier => ?_⟩
    rcases List.mem_cons.1 hearlier with rfl | hearlier
    · rw [hfirst]
      intro hsame
      exact hunseen.1 (Except.ok.inj hsame).symm
    · exact hbefore earlier hearlier

/-- A row that is refused does not. -/
theorem fresh_cons_refused {first : DataRow}
    (hfirst : ∀ phoneNumber, first.normalizedPhone header = .ok phoneNumber → phoneNumber ∈ seen) :
    Fresh header seen (first :: before) row phoneNumber ↔ Fresh header seen before row phoneNumber := by
  constructor
  · rintro ⟨hnormalized, hunseen, hbefore⟩
    exact ⟨hnormalized, hunseen, fun earlier hearlier => hbefore earlier (by simp [hearlier])⟩
  · rintro ⟨hnormalized, hunseen, hbefore⟩
    refine ⟨hnormalized, hunseen, fun earlier hearlier => ?_⟩
    rcases List.mem_cons.1 hearlier with rfl | hearlier
    · exact fun hsame => hunseen (hfirst phoneNumber hsame)
    · exact hbefore earlier hearlier

/-- What the loop does with its first row. -/
theorem parseRows_cons (header : CsvHeader) (row : DataRow) (rest : List DataRow) (seen : List String) :
    (∃ phoneNumber, row.normalizedPhone header = .ok phoneNumber ∧ phoneNumber ∉ seen ∧
      parseRows header (row :: rest) seen = (row.parsed header phoneNumber :: (parseRows header rest (phoneNumber :: seen)).1,
        (parseRows header rest (phoneNumber :: seen)).2)) ∨
    ((∀ phoneNumber, row.normalizedPhone header = .ok phoneNumber → phoneNumber ∈ seen) ∧
      parseRows header (row :: rest) seen =
        ((parseRows header rest seen).1, row.refusal header :: (parseRows header rest seen).2)) := by
  cases hphone : row.normalizedPhone header with
  | error failure =>
    refine .inr ⟨fun phoneNumber h => (nomatch h), ?_⟩
    unfold DataRow.refusal
    rw [parseRows, hphone]
  | ok phoneNumber =>
    by_cases hseen : phoneNumber ∈ seen
    · refine .inr ⟨fun other h => Except.ok.inj h ▸ hseen, ?_⟩
      unfold DataRow.refusal
      rw [parseRows, hphone]
      exact if_pos hseen
    · refine .inl ⟨phoneNumber, rfl, hseen, ?_⟩
      rw [parseRows, hphone]
      exact if_neg hseen

/-- The parsed rows are those with a fresh number. -/
theorem mem_parseRows {parsed : ParsedContactRow} : parsed ∈ (parseRows header rows seen).1 ↔
    ∃ before row after, rows = before ++ row :: after ∧
      ∃ phoneNumber, Fresh header seen before row phoneNumber ∧ parsed = row.parsed header phoneNumber := by
  induction rows generalizing seen with
  | nil => simp [parseRows]
  | cons first rest ih =>
    rw [Rows.exists_split_cons]
    rcases parseRows_cons header first rest seen with ⟨new, hfirst, hunseen, hparse⟩ | ⟨hrefused, hparse⟩
    · have hhead : (∃ phoneNumber, Fresh header seen [] first phoneNumber ∧ parsed = first.parsed header phoneNumber) ↔
          parsed = first.parsed header new := by
        constructor
        · rintro ⟨phoneNumber, hfresh, rfl⟩
          rw [Except.ok.inj (hfirst.symm.trans hfresh.normalized)]
        · rintro rfl
          exact ⟨new, ⟨hfirst, hunseen, by simp⟩, rfl⟩
      rw [hparse, hhead]
      simp only [List.mem_cons, ih, fresh_cons_new hfirst]
    · have hhead : ¬ ∃ phoneNumber, Fresh header seen [] first phoneNumber ∧ parsed = first.parsed header phoneNumber := by
        rintro ⟨phoneNumber, hfresh, -⟩
        exact hfresh.unseen (hrefused phoneNumber hfresh.normalized)
      rw [hparse, or_iff_right hhead]
      simp only [ih, fresh_cons_refused hrefused]

/-- The errors are the other rows. -/
theorem mem_parseErrors {refused : ParsedContactError} : refused ∈ (parseRows header rows seen).2 ↔
    ∃ before row after, rows = before ++ row :: after ∧
      (∀ phoneNumber, ¬ Fresh header seen before row phoneNumber) ∧ refused = row.refusal header := by
  induction rows generalizing seen with
  | nil => simp [parseRows]
  | cons first rest ih =>
    rw [Rows.exists_split_cons]
    rcases parseRows_cons header first rest seen with ⟨new, hfirst, hunseen, hparse⟩ | ⟨hrefused, hparse⟩
    · have hhead : ¬ ((∀ phoneNumber, ¬ Fresh header seen [] first phoneNumber) ∧ refused = first.refusal header) := by
        rintro ⟨hstale, -⟩
        exact hstale new ⟨hfirst, hunseen, by simp⟩
      rw [hparse, or_iff_right hhead]
      simp only [ih, fresh_cons_new hfirst]
    · have hhead : ∀ phoneNumber, ¬ Fresh header seen [] first phoneNumber :=
        fun phoneNumber hfresh => hfresh.unseen (hrefused phoneNumber hfresh.normalized)
      rw [hparse]
      simp only [List.mem_cons, ih, fresh_cons_refused hrefused, hhead, not_false_eq_true, implies_true, true_and]

/-- The parsed rows have different numbers, none of those seen before. -/
theorem parseRows_numbers : ((parseRows header rows seen).1.map ParsedContactRow.phoneNumber).Nodup ∧
    ∀ parsed ∈ (parseRows header rows seen).1, parsed.phoneNumber ∉ seen := by
  induction rows generalizing seen with
  | nil => simp [parseRows]
  | cons first rest ih =>
    rcases parseRows_cons header first rest seen with ⟨new, hfirst, hunseen, hparse⟩ | ⟨hrefused, hparse⟩
    · rw [hparse]
      obtain ⟨hnodup, hnew⟩ := @ih (new :: seen)
      constructor
      · rw [List.map_cons, List.nodup_cons]
        refine ⟨fun hmem => ?_, hnodup⟩
        obtain ⟨parsed, hparsed, hsame⟩ := List.mem_map.1 hmem
        exact hnew parsed hparsed (by rw [hsame]; exact List.mem_cons_self)
      · intro parsed hparsed
        rcases List.mem_cons.1 hparsed with rfl | hparsed
        · exact hunseen
        · exact fun hseen => hnew parsed hparsed (List.mem_cons_of_mem _ hseen)
    · rw [hparse]
      exact ih

/-- Every data row is parsed or refused. -/
theorem parseRows_length : (parseRows header rows seen).1.length + (parseRows header rows seen).2.length = rows.length := by
  induction rows generalizing seen with
  | nil => rfl
  | cons first rest ih =>
    rcases parseRows_cons header first rest seen with ⟨new, hfirst, hunseen, hparse⟩ | ⟨hrefused, hparse⟩
    · have hrest := @ih (new :: seen)
      rw [hparse]
      simp only [List.length_cons]
      omega
    · have hrest := @ih seen
      rw [hparse]
      simp only [List.length_cons]
      omega

end Parsing

end ContactsService

end SmsPlatform
