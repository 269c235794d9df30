import AutoVPN.Lib.Posix

/-! The command lines that the router runs: every argument is quoted, and the shell reads the arguments
back, as one simple command, and nothing else. -/

namespace AutoVPN

namespace Process

open Posix

/-- A value as far as the builder of the command tells it from others. -/
inductive UcodeValue
  | string (bytes : Bytes)
  | array (items : List UcodeValue)
  | other

def isPathByte (b : UInt8) : Bool :=
  let c := Char.ofNat b.toNat
  c.isAlphanum || ['.', '_', '+', '/', '-'].contains c

/-- A slash, and then letters, digits, dots, underscores, signs and slashes. -/
def executablePattern (value : Bytes) : Bool :=
  match value with
  | b :: rest => b == '/'.toUInt8 && !rest.isEmpty && rest.all isPathByte
  | [] => false

def validExecutable : UcodeValue → Bool
  | .string value => decide (1 < value.length) && decide (value.length ≤ 192) &&
      executablePattern value && !(value.zip value.tail).contains ('/'.toUInt8, '/'.toUInt8)
  | _ => false

/-- Every apostrophe closes the quotation, stands escaped and opens it again. -/
def quote (value : Bytes) : Bytes :=
  [apostrophe] ++
    value.flatMap (fun b =>
      if b = apostrophe then [apostrophe, backslash, apostrophe, apostrophe] else [b]) ++
    [apostrophe]

/-- The loop over the arguments, from the command so far and the index. -/
def appendArguments : Bytes → Nat → List UcodeValue → Option Bytes
  | command, _, [] => some command
  | command, i, .string value :: rest =>
    if 1024 < value.length ∨ 0 ∈ value then none
    else appendArguments (command ++ ((if i = 0 then [] else [space]) ++ quote value)) (i + 1) rest
  | _, _, _ :: _ => none

def isMode : UcodeValue → Bool
  | .string mode => mode == ['r'.toUInt8] || mode == ['w'.toUInt8]
  | _ => false

/-- The command line and the mode that the native function gets. -/
def popen : UcodeValue → UcodeValue → Option (Bytes × UcodeValue)
  | .array (executable :: rest), mode =>
    if 32 < (executable :: rest).length ∨ validExecutable executable = false ∨ isMode mode = false then
      none
    else do
      let command ← appendArguments [] 0 (executable :: rest)
      if command.length ≤ 8192 then some (command, mode) else none
  | _, _ => none

/-! The quotation of one argument. -/

theorem run_quote_body (value : Bytes) (pieces : List WordByte) (tokens : List Token) :
    Lexer.run ⟨.single, some pieces, tokens⟩ (value.flatMap fun b =>
        if b = apostrophe then [apostrophe, backslash, apostrophe, apostrophe] else [b]) =
      some ⟨.single, some (pieces ++ quotedWord value), tokens⟩ := by
  induction value generalizing pieces with
  | nil => rw [List.flatMap_nil, Lexer.run_nil, quotedWord, List.map_nil, List.append_nil]
  | cons b value ih =>
    have hstep : Lexer.run ⟨.single, some pieces, tokens⟩
        (if b = apostrophe then [apostrophe, backslash, apostrophe, apostrophe] else [b]) =
        some ⟨.single, some (pieces ++ [⟨b, true⟩]), tokens⟩ := by
      split
      · rename_i h
        rw [h]
        exact Lexer.run_apostrophe
      · rename_i h
        rw [Lexer.run_cons, Lexer.step_single h]
        rfl
    have hliteral : quotedWord (b :: value) = ⟨b, true⟩ :: quotedWord value := rfl
    rw [List.flatMap_cons, Lexer.run_append, hstep, Option.bind_some, ih, hliteral, List.append_assoc,
      List.singleton_append]

theorem run_quote (value : Bytes) (tokens : List Token) :
    Lexer.run ⟨.plain, none, tokens⟩ (quote value) = some ⟨.plain, some (quotedWord value), tokens⟩ := by
  have hopen : Lexer.run ⟨.plain, none, tokens⟩ [apostrophe] = some ⟨.single, some [], tokens⟩ := rfl
  have hclose : Lexer.run ⟨.single, some (quotedWord value), tokens⟩ [apostrophe] =
      some ⟨.plain, some (quotedWord value), tokens⟩ := rfl
  rw [quote, Lexer.run_append, Lexer.run_append, hopen, Option.bind_some, run_quote_body,
    List.nil_append, Option.bind_some, hclose]

theorem not_mem_quote {value : Bytes} (h : 0 ∉ value) : 0 ∉ quote value := by
  simp only [quote, List.mem_append, List.mem_flatMap, not_or, not_exists, not_and]
  refine ⟨⟨by decide, fun b hb => ?_⟩, by decide⟩
  split
  · decide
  · rw [List.mem_singleton]
    exact fun hz => h (hz ▸ hb)

/-! The command line. -/

/-- A command line that the shell has read as the words, with no quotation open. -/
def Reads (command : Bytes) (words : List Bytes) : Prop :=
  0 ∉ command ∧ ∃ s, Lexer.run {} command = some s ∧ s.quotation = .plain ∧
    s.delimit.tokens = words.map (fun value => Token.word (quotedWord value))

theorem Reads.append {command : Bytes} {words : List Bytes} (h : Reads command words) {value : Bytes}
    (hz : 0 ∉ value) :
    Reads (command ++ ([space] ++ quote value)) (words ++ [value]) := by
  obtain ⟨hnul, s, hrun, hplain, htokens⟩ := h
  have hdelimit : s.delimit = ⟨.plain, none, s.delimit.tokens⟩ := by
    rw [← hplain]
    rfl
  have hspace : s.run [space] = some ⟨.plain, none, s.delimit.tokens⟩ := by
    rw [Lexer.run_cons, Lexer.step_space s hplain, Option.bind_some, Lexer.run_nil, ← hdelimit]
  refine ⟨?_, ⟨.plain, some (quotedWord value), s.delimit.tokens⟩, ?_, rfl, ?_⟩
  · simp only [List.mem_append, hnul, not_mem_quote hz, or_false, false_or]
    decide
  · rw [Lexer.run_append, hrun, Option.bind_some, Lexer.run_append, hspace, Option.bind_some, run_quote]
  · rw [List.map_append, ← htokens]
    rfl

theorem reads_quote {value : Bytes} (hz : 0 ∉ value) : Reads (quote value) [value] :=
  ⟨not_mem_quote hz, _, run_quote value [], rfl, rfl⟩

theorem reads_appendArguments {items : List UcodeValue} {command result : Bytes}
    {words : List Bytes} {i : Nat} (hi : i ≠ 0) (h : Reads command words)
    (hloop : appendArguments command i items = some result) :
    ∃ rest, items = rest.map .string ∧ Reads result (words ++ rest) := by
  induction items generalizing command words i with
  | nil =>
    obtain rfl := Option.some.inj hloop
    exact ⟨[], rfl, by rwa [List.append_nil]⟩
  | cons item items ih =>
    cases item with
    | string value =>
      obtain ⟨hvalue, hloop⟩ := Option.ite_none_left_eq_some.mp hloop
      rw [if_neg hi] at hloop
      obtain ⟨rest, rfl, hreads⟩ :=
        ih i.succ_ne_zero (h.append fun hz => hvalue (.inr hz)) hloop
      exact ⟨value :: rest, rfl, by rwa [List.append_assoc] at hreads⟩
    | array _ => cases hloop
    | other => cases hloop

theorem Reads.simpleCommand {command : Bytes} {words : List Bytes} (h : Reads command words) :
    simpleCommand command = some words := by
  obtain ⟨-, s, hrun, hplain, htokens⟩ := h
  have hread : tokens command = some (words.map fun value => Token.word (quotedWord value)) := by
    rw [tokens, hrun, Option.bind_some, Lexer.finish, if_pos (.inl hplain), htokens]
  rw [Posix.simpleCommand, hread, Option.bind_some, mapM_literal?]

/-- The shell takes the line of an accepted vector as one simple command with the arguments of the
vector, and nothing in it is expanded, substituted or redirected. -/
theorem popen_tokenises {argv mode mode' : UcodeValue} {command : Bytes}
    (h : popen argv mode = some (command, mode')) :
    mode' = mode ∧ 0 ∉ command ∧ ∃ executable arguments,
      argv = .array ((executable :: arguments).map .string) ∧
      validExecutable (.string executable) = true ∧
      simpleCommand command = some (executable :: arguments) := by
  cases argv with
  | string _ => cases h
  | other => cases h
  | array items =>
    cases items with
    | nil => cases h
    | cons executable rest =>
      obtain ⟨hguard, hcommand⟩ := Option.ite_none_left_eq_some.mp h
      obtain ⟨line, hline, hlimit⟩ := Option.bind_eq_some_iff.mp hcommand
      obtain ⟨-, hpair⟩ := Option.ite_none_right_eq_some.mp hlimit
      obtain ⟨rfl, rfl⟩ := Prod.mk.inj (Option.some.inj hpair)
      cases executable with
      | array _ => cases hline
      | other => cases hline
      | string executable =>
        obtain ⟨hvalue, hloop⟩ := Option.ite_none_left_eq_some.mp hline
        obtain ⟨arguments, rfl, hreads⟩ := reads_appendArguments (Nat.succ_ne_zero 0)
          (reads_quote fun hz => hvalue (.inr hz)) hloop
        have hexecutable : validExecutable (.string executable) = true :=
          Bool.of_not_eq_false fun hv => hguard (.inr (.inl hv))
        exact ⟨rfl, hreads.1, executable, arguments, rfl, hexecutable, hreads.simpleCommand⟩

namespace CommandSample

/-- A program, an argument with quotations, substitutions and a line end, and an empty one. -/
def words : List Bytes :=
  ["/bin/ip".toList.map Char.toUInt8, "it's \"$(id)\" \\`w`; x\n#y".toList.map Char.toUInt8, []]

def argv : UcodeValue := .array (words.map .string)

def mode : UcodeValue := .string ['r'.toUInt8]

theorem accepted : (popen argv mode).isSome = true := by decide

end CommandSample

open CommandSample in
theorem popen_tokenises_quotations : ∃ command, popen argv mode = some (command, mode) ∧
    0 ∉ command ∧ simpleCommand command = some words := by
  obtain ⟨⟨command, mode'⟩, h⟩ := Option.isSome_iff_exists.mp accepted
  obtain ⟨rfl, hz, executable, arguments, hargv, -, hcommand⟩ := popen_tokenises h
  have hwords : words = executable :: arguments :=
    List.map_injective_iff.mpr (fun _ _ => UcodeValue.string.inj) (UcodeValue.array.inj hargv)
  exact ⟨command, h, hz, hwords ▸ hcommand⟩

end Process

end AutoVPN
