import Mathlib.Data.List.Basic

/-! How a POSIX shell takes a command line apart: quotations, words and operators, and the lines that
are one simple command as they stand. -/

namespace AutoVPN

namespace Posix

abbrev Bytes := List UInt8

def newline : UInt8 := '\n'.toUInt8
def space : UInt8 := ' '.toUInt8
def apostrophe : UInt8 := '\''.toUInt8
def quotationMark : UInt8 := '"'.toUInt8
def backslash : UInt8 := '\\'.toUInt8

def isBlank (b : UInt8) : Bool := b == space || b == '\t'.toUInt8

def isOperator (b : UInt8) : Bool :=
  (['&', ';', '|', '<', '>', '(', ')', '\n'].map Char.toUInt8).contains b

/-- A parameter, a command or an arithmetic expression is substituted. -/
def isSubstitution (b : UInt8) : Bool := b == '$'.toUInt8 || b == '`'.toUInt8

/-- A byte of a word, and whether a quotation took its meaning to the shell away. -/
structure WordByte where
  byte : UInt8
  quoted : Bool
  deriving DecidableEq

/-- An operator of two bytes is two operators. -/
inductive Token
  | word (pieces : List WordByte)
  | operator (byte : UInt8)
  deriving DecidableEq

inductive Quotation
  | plain
  | escape
  | single
  | double
  | doubleEscape
  | comment
  deriving DecidableEq

/-- The word that is being read is `none` between two words; a pair of quotation marks opens one. -/
structure Lexer where
  quotation : Quotation := .plain
  word : Option (List WordByte) := none
  tokens : List Token := []
  deriving DecidableEq

namespace Lexer

def opened (s : Lexer) (quotation : Quotation) : Lexer :=
  { s with quotation := quotation, word := some (s.word.getD []) }

def append (s : Lexer) (byte : UInt8) (quoted : Bool) : Lexer :=
  { s with word := some (s.word.getD [] ++ [⟨byte, quoted⟩]) }

def delimit (s : Lexer) : Lexer :=
  { s with word := none, tokens := s.tokens ++ (s.word.map Token.word).toList }

def operator (s : Lexer) (byte : UInt8) : Lexer :=
  { s.delimit with quotation := .plain, tokens := s.delimit.tokens ++ [.operator byte] }

/-- One byte; a line with a substitution is not read further. -/
def step (s : Lexer) (b : UInt8) : Option Lexer :=
  match s.quotation with
  | .plain =>
    if b = apostrophe then some (s.opened .single)
    else if b = quotationMark then some (s.opened .double)
    else if b = backslash then some { s with quotation := .escape }
    else if isSubstitution b then none
    else if isBlank b then some s.delimit
    else if isOperator b then some (s.operator b)
    else if b = '#'.toUInt8 ∧ s.word = none then some { s with quotation := .comment }
    else some (s.append b false)
  | .escape =>
    if b = newline then some { s with quotation := .plain }
    else some { s.append b true with quotation := .plain }
  | .single =>
    if b = apostrophe then some { s with quotation := .plain } else some (s.append b true)
  | .double =>
    if b = quotationMark then some { s with quotation := .plain }
    else if b = backslash then some { s with quotation := .doubleEscape }
    else if isSubstitution b then none
    else some (s.append b true)
  | .doubleEscape =>
    let s := { s with quotation := .double }
    if b = newline then some s
    else if b = quotationMark ∨ b = backslash ∨ isSubstitution b then some (s.append b true)
    else some ((s.append backslash true).append b true)
  | .comment => some (if b = newline then s.operator b else s)

def run (s : Lexer) (line : Bytes) : Option Lexer := line.foldlM step s

/-- A line that ends inside a quotation is not complete. -/
def finish (s : Lexer) : Option (List Token) :=
  if s.quotation = .plain ∨ s.quotation = .comment then some s.delimit.tokens else none

end Lexer

def tokens (line : Bytes) : Option (List Token) := (Lexer.run {} line).bind Lexer.finish

/-- The word after the removal of the quotations. Every expansion, pattern, assignment, redirection
and reserved word has a byte that is not quoted. -/
def Token.quotedWord? : Token → Option Bytes
  | .word pieces => if pieces.all WordByte.quoted then some (pieces.map WordByte.byte) else none
  | .operator _ => none

/-- The arguments of a line that is one simple command whose words mean themselves. -/
def simpleCommand (line : Bytes) : Option (List Bytes) := (tokens line).bind (·.mapM Token.quotedWord?)

def quotedWord (value : Bytes) : List WordByte := value.map (⟨·, true⟩)

theorem quotedWord?_word_literal (value : Bytes) :
    (Token.word (quotedWord value)).quotedWord? = some value := by
  have hquoted : (quotedWord value).all WordByte.quoted = true := by
    simp only [quotedWord, List.all_map, List.all_eq_true]
    exact fun _ _ => rfl
  have hbytes : (quotedWord value).map WordByte.byte = value := by
    rw [quotedWord, List.map_map]
    exact List.map_id _
  rw [Token.quotedWord?, if_pos hquoted, hbytes]

theorem mapM_literal? (words : List Bytes) :
    (words.map fun value => Token.word (quotedWord value)).mapM Token.quotedWord? = some words := by
  induction words with
  | nil => rfl
  | cons value words ih =>
    rw [List.map_cons, List.mapM_cons, quotedWord?_word_literal, ih]
    rfl

namespace Lexer

theorem run_nil (s : Lexer) : s.run [] = some s := rfl

theorem run_cons (s : Lexer) (b : UInt8) (line : Bytes) :
    s.run (b :: line) = (s.step b).bind (·.run line) := List.foldlM_cons

theorem run_append (s : Lexer) (line line' : Bytes) :
    s.run (line ++ line') = (s.run line).bind (·.run line') := List.foldlM_append

/-- Between apostrophes a byte that is no apostrophe stands for itself. -/
theorem step_single {pieces : List WordByte} {tokens : List Token} {b : UInt8} (h : b ≠ apostrophe) :
    step ⟨.single, some pieces, tokens⟩ b = some ⟨.single, some (pieces ++ [⟨b, true⟩]), tokens⟩ := by
  rw [step]
  exact if_neg h

/-- An apostrophe in a quotation by apostrophes: close, the escaped one, and open again. -/
theorem run_apostrophe {pieces : List WordByte} {tokens : List Token} :
    run ⟨.single, some pieces, tokens⟩ [apostrophe, backslash, apostrophe, apostrophe] =
      some ⟨.single, some (pieces ++ [⟨apostrophe, true⟩]), tokens⟩ := rfl

theorem step_space (s : Lexer) (h : s.quotation = .plain) : s.step space = some s.delimit := by
  rw [step, h]
  rfl

end Lexer

end Posix

end AutoVPN
