import Mathlib.Data.List.Basic
import SmsPlatform.Lib.Decimal

/-!
# The tokens of an SQL text

The lexer goes through a text character by character and keeps what it is in the middle of.  Two texts may be put one
behind the other if the second begins with a character that ends whatever the first leaves open (`lex_append`), so a text
that is put together from pieces has the tokens of the pieces.  Words are folded to lower case; escapes in quoted texts,
comments and letters beyond ASCII are not read.
-/

namespace Sql

inductive Token
  | word (name : String)
  | parameter (n : Nat)
  | number (n : Nat)
  | quoted (text : String)
  | symbol (c : Char)
  deriving DecidableEq

/-- The apostrophe. -/
def quote : Char := Char.ofNat 39

def isWordStart (c : Char) : Bool := c.isAlpha || c == '_'

def isWordChar (c : Char) : Bool := c.isAlphanum || c == '_' || c == '$'

/-! ### The lexer -/

/-- What the lexer is in the middle of. -/
inductive Unfinished
  | nothing
  | word (letters : List Char)
  | parameter (digits : List Char)
  | number (digits : List Char)
  | quoted (text : List Char)

/-- The token that ends here; a quoted text goes on until its apostrophe. -/
def Unfinished.tokens : Unfinished → List Token
  | .nothing => []
  | .word letters => [.word (.ofList letters)]
  | .parameter digits => [.parameter (Decimal.value digits)]
  | .number digits => [.number (Decimal.value digits)]
  | .quoted _ => []

def Unfinished.isQuoted : Unfinished → Bool
  | .quoted _ => true
  | _ => false

structure Lexer where
  tokens : List Token
  current : Unfinished

namespace Lexer

def start : Lexer := ⟨[], .nothing⟩

def flush (lexer : Lexer) : List Token := lexer.tokens ++ lexer.current.tokens

/-- A character that does not belong to what came before. -/
def enter (lexer : Lexer) (c : Char) : Lexer :=
  if c.isWhitespace then ⟨lexer.flush, .nothing⟩
  else if isWordStart c then ⟨lexer.flush, .word [c.toLower]⟩
  else if c = '$' then ⟨lexer.flush, .parameter []⟩
  else if c.isDigit then ⟨lexer.flush, .number [c]⟩
  else if c = quote then ⟨lexer.flush, .quoted []⟩
  else ⟨lexer.flush ++ [.symbol c], .nothing⟩

def step (lexer : Lexer) (c : Char) : Lexer :=
  match lexer.current with
  | .nothing => lexer.enter c
  | .word letters => if isWordChar c then ⟨lexer.tokens, .word (letters ++ [c.toLower])⟩ else lexer.enter c
  | .parameter digits => if c.isDigit then ⟨lexer.tokens, .parameter (digits ++ [c])⟩ else lexer.enter c
  | .number digits => if c.isDigit then ⟨lexer.tokens, .number (digits ++ [c])⟩ else lexer.enter c
  | .quoted text =>
    if c = quote then ⟨lexer.tokens ++ [.quoted (.ofList text)], .nothing⟩ else ⟨lexer.tokens, .quoted (text ++ [c])⟩

def run (lexer : Lexer) (text : List Char) : Lexer := text.foldl step lexer

end Lexer

open Lexer

/-- The tokens of a text, unless it ends within quotes. -/
def lex (text : List Char) : Option (List Token) :=
  if (start.run text).current.isQuoted then none else some (start.run text).flush

/-! ### Texts one behind the other -/

/-- The lexer after other tokens. -/
def Lexer.after (before : List Token) (lexer : Lexer) : Lexer := ⟨before ++ lexer.tokens, lexer.current⟩

theorem flush_after (before : List Token) (lexer : Lexer) : (lexer.after before).flush = before ++ lexer.flush := by
  simp [Lexer.after, flush]

theorem enter_after (before : List Token) (lexer : Lexer) (c : Char) :
    (lexer.after before).enter c = (lexer.enter c).after before := by
  unfold enter
  rw [flush_after]
  split_ifs <;> simp [Lexer.after]

theorem step_after (before : List Token) (lexer : Lexer) (c : Char) :
    (lexer.after before).step c = (lexer.step c).after before := by
  obtain ⟨tokens, current⟩ := lexer
  have henter := enter_after before ⟨tokens, current⟩ c
  cases current with
  | nothing => exact henter
  | word letters =>
    by_cases hc : isWordChar c = true
    · simp [step, Lexer.after, hc]
    · simpa [step, Lexer.after, hc] using henter
  | parameter digits =>
    by_cases hc : c.isDigit = true
    · simp [step, Lexer.after, hc]
    · simpa [step, Lexer.after, hc] using henter
  | number digits =>
    by_cases hc : c.isDigit = true
    · simp [step, Lexer.after, hc]
    · simpa [step, Lexer.after, hc] using henter
  | quoted text =>
    by_cases hc : c = quote
    · simp [step, Lexer.after, hc]
    · simp [step, Lexer.after, hc]

theorem run_after (before : List Token) (lexer : Lexer) (text : List Char) :
    (lexer.after before).run text = (lexer.run text).after before := by
  induction text generalizing lexer with
  | nil => rfl
  | cons c text ih =>
    show ((lexer.after before).step c).run text = ((lexer.step c).run text).after before
    rw [step_after, ih]

/-- A character that neither continues a word nor a number. -/
def isDelimiter (c : Char) : Bool := !isWordChar c

theorem isDigit_of_isDelimiter {c : Char} (h : isDelimiter c = true) : c.isDigit = false := by
  unfold isDelimiter isWordChar Char.isAlphanum at h
  cases hdigit : c.isDigit with
  | false => rfl
  | true => simp [hdigit] at h

/-- A delimiter ends what is open. -/
theorem step_of_isDelimiter {lexer : Lexer} {c : Char} (hopen : lexer.current.isQuoted = false)
    (hc : isDelimiter c = true) : lexer.step c = (start.step c).after lexer.flush := by
  have hdigit := isDigit_of_isDelimiter hc
  have hword : isWordChar c = false := by simpa [isDelimiter] using hc
  have henter : lexer.enter c = (start.enter c).after lexer.flush := by
    unfold enter
    split_ifs <;> simp [Lexer.after, flush, start, Unfinished.tokens]
  obtain ⟨tokens, current⟩ := lexer
  cases current with
  | nothing => exact henter
  | word letters => simpa [step, hword, start] using henter
  | parameter digits => simpa [step, hdigit, start] using henter
  | number digits => simpa [step, hdigit, start] using henter
  | quoted text => cases hopen

theorem lex_eq_some {text : List Char} {tokens : List Token} : lex text = some tokens ↔
    (start.run text).current.isQuoted = false ∧ (start.run text).flush = tokens := by
  unfold lex
  cases h : (start.run text).current.isQuoted <;> simp

/-- A text that begins with a delimiter, behind another one. -/
theorem lex_append {text text' : List Char} {tokens tokens' : List Token} (h : lex text = some tokens)
    (hc : text'.head?.any isDelimiter = true) (h' : lex text' = some tokens') :
    lex (text ++ text') = some (tokens ++ tokens') := by
  cases text' with
  | nil => cases hc
  | cons c text' =>
    obtain ⟨hopen, hflush⟩ := lex_eq_some.1 h
    obtain ⟨hopen', hflush'⟩ := lex_eq_some.1 h'
    have hrun : start.run (text ++ c :: text') = (start.run (c :: text')).after tokens := by
      show (text ++ c :: text').foldl step start = _
      rw [List.foldl_append, List.foldl_cons]
      show ((start.run text).step c).run text' = ((start.step c).run text').after tokens
      rw [step_of_isDelimiter hopen hc, hflush, run_after]
    rw [lex_eq_some, hrun]
    exact ⟨hopen', by rw [flush_after, hflush']⟩

/-! ### The pieces of a text -/

/-- White space in front of a text. -/
theorem lex_whitespace {c : Char} (hc : c.isWhitespace = true) (text : List Char) : lex (c :: text) = lex text := by
  have hstep : start.step c = start := by
    show start.enter c = start
    unfold enter
    rw [if_pos hc]
    rfl
  have hrun : start.run (c :: text) = start.run text := by
    show (start.step c).run text = start.run text
    rw [hstep]
  unfold lex
  rw [hrun]

theorem lex_whitespaces {space : List Char} (hspace : ∀ c ∈ space, c.isWhitespace = true) (text : List Char) :
    lex (space ++ text) = lex text := by
  induction space with
  | nil => rfl
  | cons c space ih =>
    rw [List.cons_append, lex_whitespace (hspace c (by simp)), ih fun d hd => hspace d (List.mem_cons_of_mem _ hd)]

/-- A character that is a token of its own. -/
def isSymbol (c : Char) : Bool := !(c.isWhitespace || isWordStart c || c == '$' || c.isDigit || c == quote)

theorem lex_symbol {c : Char} (hc : isSymbol c = true) (text : List Char) :
    lex (c :: text) = (lex text).map fun tokens => .symbol c :: tokens := by
  simp only [isSymbol, Bool.not_eq_true', Bool.or_eq_false_iff, beq_eq_false_iff_ne] at hc
  obtain ⟨⟨⟨⟨hspace, hword⟩, hdollar⟩, hdigit⟩, hquote⟩ := hc
  have hstep : start.step c = start.after [.symbol c] := by
    show start.enter c = _
    simp [enter, hspace, hword, hdollar, hdigit, hquote, Lexer.after, start, flush, Unfinished.tokens]
  have hrun : start.run (c :: text) = (start.run text).after [.symbol c] := by
    show (start.step c).run text = _
    rw [hstep, run_after]
  unfold lex
  rw [hrun, flush_after]
  show (if (start.run text).current.isQuoted then none else some _) = _
  cases (start.run text).current.isQuoted <;> rfl

/-- A word in lower case. -/
def isWord : List Char → Bool
  | [] => false
  | c :: letters => isWordStart c && (c :: letters).all fun c => isWordChar c && c.toLower == c

theorem run_word {letters more : List Char} (h : ∀ c ∈ more, isWordChar c = true ∧ c.toLower = c) :
    (⟨[], .word letters⟩ : Lexer).run more = ⟨[], .word (letters ++ more)⟩ := by
  induction more generalizing letters with
  | nil => simp [run]
  | cons c more ih =>
    obtain ⟨hword, hlower⟩ := h c (by simp)
    have hstep : (⟨[], .word letters⟩ : Lexer).step c = ⟨[], .word (letters ++ [c])⟩ := by simp [step, hword, hlower]
    show ((⟨[], .word letters⟩ : Lexer).step c).run more = _
    rw [hstep, ih fun d hd => h d (List.mem_cons_of_mem _ hd), List.append_assoc]
    rfl

theorem not_isWhitespace_of_isWordStart {c : Char} (h : isWordStart c = true) : c.isWhitespace = false := by
  by_contra hspace
  have hspace := eq_true_of_ne_false hspace
  simp only [Char.isWhitespace, Bool.or_eq_true, decide_eq_true_eq] at hspace
  rcases hspace with ((rfl | rfl) | rfl) | rfl <;> exact absurd h (by decide)

theorem lex_word {letters : List Char} (h : isWord letters = true) : lex letters = some [.word (.ofList letters)] := by
  cases letters with
  | nil => cases h
  | cons c letters =>
    simp only [isWord, Bool.and_eq_true, List.all_eq_true, beq_iff_eq] at h
    obtain ⟨hstart, hall⟩ := h
    have hstep : start.step c = ⟨[], .word [c]⟩ := by
      show start.enter c = _
      unfold enter
      rw [if_neg (by simp [not_isWhitespace_of_isWordStart hstart]), if_pos hstart, (hall c (by simp)).2]
      rfl
    have hrun : start.run (c :: letters) = ⟨[], .word (c :: letters)⟩ := by
      show (start.step c).run letters = _
      rw [hstep, run_word fun d hd => hall d (List.mem_cons_of_mem _ hd)]
      rfl
    rw [lex_eq_some, hrun]
    exact ⟨rfl, rfl⟩

theorem run_parameter {digits more : List Char} (h : Decimal.AllDigits more) :
    (⟨[], .parameter digits⟩ : Lexer).run more = ⟨[], .parameter (digits ++ more)⟩ := by
  induction more generalizing digits with
  | nil => simp [run]
  | cons c more ih =>
    have hstep : (⟨[], .parameter digits⟩ : Lexer).step c = ⟨[], .parameter (digits ++ [c])⟩ := by
      simp [step, h c (by simp)]
    show ((⟨[], .parameter digits⟩ : Lexer).step c).run more = _
    rw [hstep, ih fun d hd => h d (List.mem_cons_of_mem _ hd), List.append_assoc]
    rfl

/-- A placeholder. -/
theorem lex_parameter (n : Nat) : lex ('$' :: Decimal.digits n) = some [.parameter n] := by
  have hrun : start.run ('$' :: Decimal.digits n) = ⟨[], .parameter (Decimal.digits n)⟩ := by
    show (start.step '$').run (Decimal.digits n) = _
    exact run_parameter (Decimal.allDigits_digits n)
  rw [lex_eq_some, hrun]
  refine ⟨rfl, ?_⟩
  simp [flush, Unfinished.tokens]

/-- Texts joined by a symbol and white space. -/
theorem lex_intercalate {texts : List (List Char)} {tokens : List (List Token)}
    (hlex : List.Forall₂ (fun text tokens => lex text = some tokens) texts tokens) {c : Char}
    (hdelimiter : isDelimiter c = true) (hsymbol : isSymbol c = true) {space : List Char}
    (hspace : ∀ c ∈ space, c.isWhitespace = true) :
    lex ((c :: space).intercalate texts) = some ([.symbol c].intercalate tokens) := by
  induction hlex with
  | nil => rfl
  | @cons text first texts tokens hfirst hrest ih =>
    cases hrest with
    | nil => simpa using hfirst
    | cons hsecond hmore =>
      rw [List.intercalate_cons_cons, List.intercalate_cons_cons, List.append_assoc, List.append_assoc, List.cons_append]
      apply lex_append hfirst (by simpa using hdelimiter)
      rw [lex_symbol hsymbol, lex_whitespaces hspace, ih]
      rfl

/-- Pieces of a text of which all but the first begin with a delimiter. -/
theorem lex_flatten {pieces : List (List Char)} {tokens : List (List Token)}
    (hlex : List.Forall₂ (fun piece tokens => lex piece = some tokens) pieces tokens)
    (hdelimited : ∀ piece ∈ pieces.tail, piece.head?.any isDelimiter = true) :
    lex pieces.flatten = some tokens.flatten := by
  induction hlex with
  | nil => rfl
  | @cons piece first pieces tokens hfirst hrest ih =>
    cases hrest with
    | nil => simpa using hfirst
    | @cons next _ pieces _ hnext hmore =>
      have hrest := ih fun other hother => hdelimited other (List.mem_of_mem_tail hother)
      have hhead : (next :: pieces).flatten.head?.any isDelimiter = true := by
        have hdelimiter := hdelimited next (by simp)
        cases next with
        | nil => cases hdelimiter
        | cons c next => exact hdelimiter
      rw [List.flatten_cons]
      exact lex_append hfirst hhead hrest

end Sql
