import AutoVPN.Router.Http
import AutoVPN.Router.JournalLoad
import AutoVPN.Server.ApplyResults

/-! The formats of a report: what the journal holds, what the adapter sends and what the server takes. -/

namespace AutoVPN

namespace Formats

open Server (validateRouterApplyResult validateDiagnosticValue validateDiagnosticItems
  validateDiagnosticFields stringComplaint keyComplaint)

/-! The strings and the numbers among the values of the diagnostics. -/

mutual

def strings : Value → List String
  | .string s => [s]
  | .array items => itemStrings items
  | .object fields => fieldStrings fields
  | _ => []

def itemStrings : List Value → List String
  | [] => []
  | item :: items => strings item ++ itemStrings items

def fieldStrings : List (String × Value) → List String
  | [] => []
  | (_, value) :: fields => strings value ++ fieldStrings fields

end

mutual

/-- No number is infinite. -/
def finite : Value → Bool
  | .infinite _ => false
  | .array items => finiteItems items
  | .object fields => finiteFields fields
  | _ => true

def finiteItems : List Value → Bool
  | [] => true
  | item :: items => finite item && finiteItems items

def finiteFields : List (String × Value) → Bool
  | [] => true
  | (_, value) :: fields => finite value && finiteFields fields

end

def keyOpening : List Char := "-----begin ".toList

/-- None of the texts has the opening of a key in it. -/
def unmarked (texts : List String) : Bool :=
  texts.all fun s => !decide (keyOpening <:+: Http.lower s)

/-- What the server's library does with printable characters of ASCII. -/
structure Ascii (py : PythonLibrary) : Prop where
  lower : ∀ s, Http.printable s = true → (py.lower s).toList = Http.lower s
  isControl : ∀ c, ' ' ≤ c → c ≤ '~' → py.isControl c = false

/-! Texts. -/

theorem size_of_printable {s : String} (h : Http.printable s = true) :
    s.utf8ByteSize = s.length := by
  have hlist (cs : List Char) (hcs : ∀ c ∈ cs, c ≤ '~') :
      (String.ofList cs).utf8ByteSize = cs.length := by
    induction cs with
    | nil => rfl
    | cons c cs ih =>
      have hsize : c.utf8Size = 1 := by
        have hle : c.val ≤ '~'.val := hcs c List.mem_cons_self
        have hval : c.val ≤ 127 := UInt32.le_trans hle (by decide)
        simp [Char.utf8Size, hval]
      rw [String.ofList_cons, String.utf8ByteSize_append, String.utf8ByteSize_singleton, hsize,
        ih fun d hd => hcs d (List.mem_cons_of_mem _ hd), List.length_cons, Nat.add_comm]
  have hs := hlist s.toList fun c hc => by
    have hboth := List.all_eq_true.mp h c hc
    simp only [Bool.and_eq_true, decide_eq_true_eq] at hboth
    exact hboth.2
  rwa [String.ofList_toList, String.length_toList] at hs

theorem secretValue_of_diagnostic {s : String} (hsize : s.utf8ByteSize = s.length)
    (h : (decide (s.utf8ByteSize < 32) || decide (s.utf8ByteSize > 256) ||
      !Http.tokenPattern.matches s) = true) : Server.secretValuePattern.matches s = false := by
  refine Bool.eq_false_iff.mpr fun hsecret => ?_
  obtain ⟨⟨hleast, hmost⟩, hclass⟩ := Piece.accepts_between.mp (Pattern.matchesList_singleton.mp hsecret)
  have htoken : Http.tokenPattern.matches s = true := Pattern.matchesList_singleton.mpr
    (Piece.accepts_many.mpr ⟨Nat.le_trans (by decide) hleast, hclass⟩)
  rw [String.length_toList] at hleast hmost
  simp only [htoken, Bool.not_true, Bool.or_false, Bool.or_eq_true, decide_eq_true_eq, hsize] at h
  omega

section

variable {py : PythonLibrary} (hpy : Ascii py)

include hpy

theorem hasControlCharacter_printable {s : String} (h : Http.printable s = true) :
    Server.hasControlCharacter py s = false := by
  refine List.any_eq_false.mpr fun c hc => ?_
  have hboth := List.all_eq_true.mp h c hc
  simp only [Bool.and_eq_true, decide_eq_true_eq] at hboth
  rw [hpy.isControl c hboth.1 hboth.2]
  exact Bool.false_ne_true

theorem stringComplaint_diagnostic {s : String} (h : Http.diagnosticString s = true) :
    stringComplaint py s = if decide (keyOpening <:+: Http.lower s) then
      some "Diagnostics may contain secret material" else none := by
  simp only [Http.diagnosticString, Bool.and_eq_true, decide_eq_true_eq, Bool.not_eq_true'] at h
  obtain ⟨⟨⟨⟨⟨hlength, hprintable⟩, hmarkup⟩, hwords⟩, htoken⟩, huuid⟩ := h
  have hsize := size_of_printable hprintable
  have hlong : ¬s.length > 500 := by omega
  have hsecret := secretValue_of_diagnostic hsize htoken
  have hsensitive : Server.looksSensitive py s = decide (keyOpening <:+: Http.lower s) := by
    have hcontains (word : String) :
        Server.contains (py.lower s) word = decide (word.toList <:+: Http.lower s) := by
      rw [Server.contains, hpy.lower s hprintable]
    have hmarkers : Server.sensitiveMarkers = "-----begin " :: Http.secretWords := rfl
    rw [Server.looksSensitive, huuid, hsecret, hmarkers, List.any_cons, Bool.or_false, Bool.or_false,
      hcontains]
    have hrest : (Http.secretWords.any (Server.contains (py.lower s))) = false := by
      rw [← hwords]
      exact congrArg (Http.secretWords.any) (funext hcontains)
    rw [hrest, Bool.or_false]
    rfl
  have hmark : Server.hasMarkup s = false := hmarkup
  rw [stringComplaint, if_neg hlong, hasControlCharacter_printable hpy hprintable, hmark, hsensitive]
  rfl

theorem normalizedKey_printable {key : String} (h : Http.printable key = true) :
    Server.normalizedKey py key = Http.normalized key := by
  rw [Server.normalizedKey, hpy.lower key h]
  rfl

theorem keyComplaint_diagnostic {key : String} (h : Http.diagnosticKey key = true) :
    keyComplaint py key = none := by
  simp only [Http.diagnosticKey, Bool.and_eq_true, decide_eq_true_eq, Bool.not_eq_true'] at h
  obtain ⟨⟨⟨⟨⟨hleast, hmost⟩, hprintable⟩, hmarkup⟩, hwords⟩, hcompact⟩ := h
  have hsize := size_of_printable hprintable
  have hempty : key.isEmpty = false := by
    refine Bool.eq_false_iff.mpr fun he => ?_
    rw [String.isEmpty_iff.mp he] at hleast
    exact absurd hleast (by decide)
  have hlong : decide (key.length > 64) = false := decide_eq_false (by omega)
  have hmark : Server.hasMarkup key = false := hmarkup
  have hforbidden : Server.forbiddenKey py key = false := by
    rw [Server.forbiddenKey, normalizedKey_printable hpy hprintable]
    refine List.any_eq_false.mpr fun part hpart => ?_
    have hplain := List.any_eq_false.mp hwords part hpart
    have hparts : (Server.forbiddenKeyParts.all fun part =>
        Http.secretCompactWords.any fun word => word.toList == Server.without '_' part.toList) = true := by
      decide
    obtain ⟨word, hword, heq⟩ := List.any_eq_true.mp (List.all_eq_true.mp hparts part hpart)
    have hshort := List.any_eq_false.mp hcompact word hword
    rw [eq_of_beq heq] at hshort
    rw [Bool.or_eq_true, not_or]
    exact ⟨hplain, hshort⟩
  rw [keyComplaint, hempty, hlong, hasControlCharacter_printable hpy hprintable, hmark, hforbidden]
  rfl

theorem isStatus_diagnostic {key : String} (h : Http.diagnosticKey key = true) (v : Value) :
    Server.isStatus py key v = Http.statusValue key v := by
  simp only [Http.diagnosticKey, Bool.and_eq_true] at h
  rw [Server.isStatus, normalizedKey_printable hpy h.1.1.1.2]
  rfl

end

theorem unmarked_status {key : String} {v : Value} (h : Http.statusValue key v = true) :
    (unmarked (strings v) && finite v) = true := by
  obtain ⟨-, hmatches⟩ := Bool.and_eq_true_iff.mp h
  obtain ⟨s, rfl, hs⟩ := Value.matches_iff.mp hmatches
  have hclass : ∀ c ∈ s.toList, isCodeChar c = true := by
    obtain ⟨a, b, hab, ha, hb⟩ := Pattern.matchesList_cons.mp hs
    obtain ⟨-, ha⟩ := Piece.accepts_exactly.mp ha
    obtain ⟨-, hb⟩ := Piece.accepts_between.mp (Pattern.matchesList_singleton.mp hb)
    intro c hc
    rw [hab] at hc
    rcases List.mem_append.mp hc with hc | hc
    · simp only [isCodeChar, ha c hc, Bool.or_true, Bool.true_or]
    · exact hb c hc
  have hdash : '-' ∉ Http.lower s := by
    intro hmem
    obtain ⟨c, hc, heq⟩ := List.mem_map.mp hmem
    rw [toLower_codeChar (hclass c hc)] at heq
    exact absurd (heq ▸ hclass c hc) (by decide)
  have habsent : ¬keyOpening <:+: Http.lower s := fun hinside =>
    hdash (hinside.subset List.mem_cons_self)
  simp only [unmarked, strings, finite, List.all_cons, List.all_nil, Bool.and_true, Bool.not_eq_true',
    decide_eq_false_iff_not]
  exact habsent

/-! The diagnostics. -/

theorem unmarked_append (a b : List String) : unmarked (a ++ b) = (unmarked a && unmarked b) :=
  List.all_append

/-- The budget that is left where the server accepts values that the adapter lets through. -/
def answer (accepted : Bool) (budget : Nat) : Option Nat := if accepted then some budget else none

theorem answer_bind {x : Except String Nat} {f : Nat → Except String Nat} {a b c : Bool} {m n : Nat}
    (hx : x.toOption = answer a m) (hf : (f m).toOption = answer b n) (hc : c = (a && b)) :
    (x.bind f).toOption = answer c n := by
  subst hc
  cases x with
  | error e =>
    cases a with
    | false => rfl
    | true => cases hx
  | ok k =>
    cases a with
    | false => cases hx
    | true =>
      obtain rfl : k = m := Option.some.inj hx
      exact hf

theorem ok_of_answer {x : Except String Nat} {n : Nat} (h : x.toOption = answer true n) : x = .ok n := by
  cases x with
  | error e => cases h
  | ok k => exact congrArg Except.ok (Option.some.inj h)

theorem error_of_answer {x : Except String Nat} {n : Nat} (h : x.toOption = answer false n) :
    ∃ e, x = .error e := by
  cases x with
  | error e => exact ⟨e, rfl⟩
  | ok k => cases h

theorem enter_of {depth budget : Nat} (h : (decide (depth ≤ 5) && decide (budget < 128)) = true) :
    Server.enter depth budget = .ok (budget + 1) := by
  simp only [Bool.and_eq_true, decide_eq_true_eq] at h
  rw [Server.enter, if_neg (by omega), if_neg (by omega)]

theorem validate_scalar {py : PythonLibrary} {v : Value} {depth budget n : Nat}
    (h : Http.diagnosticValue depth budget v = some n)
    (hv : Http.diagnosticValue depth budget v =
      if decide (depth ≤ 5) && decide (budget < 128) then some (budget + 1) else none)
    (hserver : validateDiagnosticValue py depth budget v = Server.enter depth budget)
    (hstrings : (unmarked (strings v) && finite v) = true) :
    (validateDiagnosticValue py depth budget v).toOption = answer (unmarked (strings v) && finite v) n := by
  rw [hv] at h
  split at h
  · rename_i hc
    obtain rfl := Option.some.inj h
    rw [hserver, hstrings, enter_of hc]
    rfl
  · cases h

theorem accepted_append (a b : List String) (c d : Bool) :
    (unmarked (a ++ b) && (c && d)) = ((unmarked a && c) && (unmarked b && d)) := by
  rw [unmarked_append]
  cases unmarked a <;> cases unmarked b <;> cases c <;> rfl

mutual

theorem validateDiagnosticValue_eq {py : PythonLibrary} (hpy : Ascii py) :
    ∀ (v : Value) (depth budget n : Nat), Http.diagnosticValue depth budget v = some n →
      (validateDiagnosticValue py depth budget v).toOption = answer (unmarked (strings v) && finite v) n
  | .string s, depth, budget, n, h => by
    rw [Http.diagnosticValue] at h
    split at h
    · rename_i hc
      obtain ⟨henter, hs⟩ := Bool.and_eq_true_iff.mp hc
      obtain rfl := Option.some.inj h
      rw [validateDiagnosticValue, enter_of henter]
      show (Server.complain (stringComplaint py s) (.ok (budget + 1))).toOption = _
      rw [stringComplaint_diagnostic hpy hs]
      simp only [answer, unmarked, strings, finite, List.all_cons, List.all_nil, Bool.and_true]
      cases decide (keyOpening <:+: Http.lower s) <;> rfl
    · cases h
  | .array items, depth, budget, n, h => by
    rw [Http.diagnosticValue] at h
    split at h
    · rename_i hc
      obtain ⟨henter, hlength⟩ := Bool.and_eq_true_iff.mp hc
      have hshort : ¬items.length > 32 := by simpa using hlength
      rw [validateDiagnosticValue, enter_of henter]
      show Except.toOption (if items.length > 32 then _ else
        validateDiagnosticItems py (depth + 1) (budget + 1) items) = _
      rw [if_neg hshort]
      exact validateDiagnosticItems_eq hpy items (depth + 1) (budget + 1) n h
    · cases h
  | .object fields, depth, budget, n, h => by
    rw [Http.diagnosticValue] at h
    split at h
    · rename_i hc
      obtain ⟨henter, hlength⟩ := Bool.and_eq_true_iff.mp hc
      have hshort : ¬fields.length > 32 := by simpa using hlength
      rw [validateDiagnosticValue, enter_of henter]
      show Except.toOption (if fields.length > 32 then _ else
        validateDiagnosticFields py (depth + 1) (budget + 1) fields) = _
      rw [if_neg hshort]
      exact validateDiagnosticFields_eq hpy fields (depth + 1) (budget + 1) n h
    · cases h
  | .infinite negative, depth, budget, n, h => by
    rw [validateDiagnosticValue]
    cases Server.enter depth budget <;> rfl
  | .null, depth, budget, n, h => validate_scalar h rfl rfl rfl
  | .bool _, depth, budget, n, h => validate_scalar h rfl rfl rfl
  | .int _, depth, budget, n, h => validate_scalar h rfl rfl rfl
  | .double _, depth, budget, n, h => validate_scalar h rfl rfl rfl

theorem validateDiagnosticItems_eq {py : PythonLibrary} (hpy : Ascii py) :
    ∀ (items : List Value) (depth budget n : Nat), Http.diagnosticItems depth budget items = some n →
      (validateDiagnosticItems py depth budget items).toOption =
        answer (unmarked (itemStrings items) && finiteItems items) n
  | [], depth, budget, n, h => by
    rw [Http.diagnosticItems] at h
    obtain rfl := Option.some.inj h
    rfl
  | item :: items, depth, budget, n, h => by
    rw [Http.diagnosticItems] at h
    obtain ⟨m, hitem, hrest⟩ := Option.bind_eq_some_iff.mp h
    rw [validateDiagnosticItems]
    exact answer_bind (validateDiagnosticValue_eq hpy item depth budget m hitem)
      (validateDiagnosticItems_eq hpy items depth m n hrest) (accepted_append _ _ _ _)

theorem validateDiagnosticFields_eq {py : PythonLibrary} (hpy : Ascii py) :
    ∀ (fields : List (String × Value)) (depth budget n : Nat),
    Http.diagnosticFields depth budget fields = some n →
      (validateDiagnosticFields py depth budget fields).toOption =
        answer (unmarked (fieldStrings fields) && finiteFields fields) n
  | [], depth, budget, n, h => by
    rw [Http.diagnosticFields] at h
    obtain rfl := Option.some.inj h
    rfl
  | (key, value) :: fields, depth, budget, n, h => by
    rw [Http.diagnosticFields] at h
    split at h
    · cases h
    rename_i hkey
    have hkey : Http.diagnosticKey key = true := by simpa using hkey
    rw [validateDiagnosticFields, keyComplaint_diagnostic hpy hkey, isStatus_diagnostic hpy hkey,
      fieldStrings, finiteFields, accepted_append]
    split at h
    · rename_i hstatus
      rw [hstatus, unmarked_status hstatus, Bool.true_and]
      exact validateDiagnosticFields_eq hpy fields depth budget n h
    · rename_i hstatus
      obtain ⟨m, hvalue, hrest⟩ := Option.bind_eq_some_iff.mp h
      rw [Bool.eq_false_iff.mpr hstatus]
      exact answer_bind (validateDiagnosticValue_eq hpy value depth budget m hvalue)
        (validateDiagnosticFields_eq hpy fields depth m n hrest) rfl

end

/-! The body. -/

def isText : Value → Bool
  | .string _ => true
  | _ => false

/-- What the server asks for beyond the adapter: a version that is no text, diagnostics without a text
that opens a key and without an infinite number, and which are short when the server prints them. -/
structure Taken (py : PythonLibrary) (body : Value) : Prop where
  version : isText (body.get "schema_version") = false
  openings : unmarked (strings (body.get "diagnostics")) = true
  numbers : finite (body.get "diagnostics") = true
  size : (py.canonicalJson (body.get "diagnostics")).utf8ByteSize ≤ 8192

/-- What the adapter has checked. -/
structure Sendable (body : Value) : Prop where
  keys : body.hasExactKeys ["schema_version", "revision", "snapshot_sha256", "outcome",
    "active_profile", "capabilities", "diagnostics"] = true
  version : (body.get "schema_version").looseEq (.int 1) = true
  revision : ∃ n : Nat, body.get "revision" = .int n
  sha256 : ∃ s, body.get "snapshot_sha256" = .string s ∧ sha256Pattern.matches s = true
  outcome : ∃ s, body.get "outcome" = .string s ∧ Server.outcomes.contains s = true
  profile : (body.get "active_profile").isNull = true ∨
    (body.get "active_profile").matches profilePattern = true
  capabilities : (body.get "capabilities").hasExactKeys Server.capabilityNames = true
  switches : (Server.capabilityNames.all fun name => ((body.get "capabilities").get name).isBool) = true
  diagnostics : (body.get "diagnostics").isObject = true
  values : ∃ n, Http.diagnosticValue 0 0 (body.get "diagnostics") = some n

theorem sendable_of_applyBody {jsonLength : Value → Nat} {body : Value}
    (h : Http.applyBody jsonLength body = true) : Sendable body := by
  simp only [Http.applyBody, Bool.and_eq_true] at h
  obtain ⟨⟨⟨⟨⟨⟨⟨⟨⟨⟨hkeys, hversion⟩, hrevision⟩, hsha⟩, houtcome⟩, hprofile⟩, hcapabilities⟩,
    hdiagnostics⟩, hswitches⟩, hvalues⟩, -⟩ := h
  refine ⟨hkeys, hversion, ?_, Value.matches_iff.mp hsha, ?_, Bool.or_eq_true_iff.mp hprofile,
    hcapabilities, hswitches, hdiagnostics, Option.isSome_iff_exists.mp hvalues⟩
  · cases hr : body.get "revision" with
    | int n =>
      rw [hr] at hrevision
      exact ⟨n.toNat, by rw [Int.toNat_of_nonneg (of_decide_eq_true hrevision)]⟩
    | _ =>
      rw [hr] at hrevision
      cases hrevision
  · cases ho : body.get "outcome" with
    | string s =>
      rw [ho] at houtcome
      refine ⟨s, rfl, ?_⟩
      simpa [Server.outcomes, or_assoc] using houtcome
    | _ =>
      rw [ho] at houtcome
      cases houtcome

theorem equalsInt_one {v : Value} (h : v.looseEq (.int 1) = true) :
    Server.equalsInt v 1 = !isText v := by
  cases v with
  | null => cases h
  | bool b => cases b <;> simp_all [Value.looseEq, Value.toNumber?, Server.equalsInt, isText]
  | int n => simpa [Value.looseEq, Value.toNumber?, Server.equalsInt, isText] using h
  | double d => simpa [Value.looseEq, Value.toNumber?, Server.equalsInt, isText] using h
  | infinite negative => cases negative <;> exact absurd h (by decide +kernel)
  | string s => rfl
  | array items => cases h
  | object fields => cases h

theorem taken_iff {py : PythonLibrary} (hpy : Ascii py) {jsonLength : Value → Nat} {body : Value}
    (h : Http.applyBody jsonLength body = true) :
    (∃ result, validateRouterApplyResult py body = .ok result) ↔ Taken py body := by
  have hs := sendable_of_applyBody h
  obtain ⟨revision, hrevision⟩ := hs.revision
  obtain ⟨sha256, hsha, hshaOk⟩ := hs.sha256
  obtain ⟨outcome, houtcome, houtcomeOk⟩ := hs.outcome
  obtain ⟨n, hvalues⟩ := hs.values
  have hobject : body.isObject = true := by
    obtain ⟨fields, hfields, -⟩ := Value.hasExactKeys_iff.mp hs.keys
    rw [hfields]
    rfl
  have hprofile : (!(body.get "active_profile").isNull &&
      !(body.get "active_profile").matches profilePattern) =
      false := by
    rcases hs.profile with hp | hp <;> rw [hp] <;> simp
  unfold validateRouterApplyResult
  dsimp only
  rw [hobject, hs.keys, equalsInt_one hs.version, hrevision, hsha, houtcome]
  dsimp only
  rw [hshaOk, houtcomeOk, hprofile, hs.capabilities, hs.switches, hs.diagnostics]
  have hanswer := validateDiagnosticValue_eq hpy _ 0 0 n hvalues
  constructor
  · rintro ⟨result, hresult⟩
    cases hversion : isText (body.get "schema_version") with
    | true =>
      rw [hversion] at hresult
      cases hresult
    | false =>
      rw [hversion] at hresult
      cases haccepted : (unmarked (strings (body.get "diagnostics")) &&
          finite (body.get "diagnostics")) with
      | false =>
        obtain ⟨e, he⟩ := error_of_answer (hanswer.trans (congrArg (answer · n) haccepted))
        rw [he] at hresult
        cases hresult
      | true =>
        rw [ok_of_answer (hanswer.trans (congrArg (answer · n) haccepted))] at hresult
        obtain ⟨hopenings, hnumbers⟩ := Bool.and_eq_true_iff.mp haccepted
        refine ⟨hversion, hopenings, hnumbers, Nat.not_lt.mp fun hsize => ?_⟩
        have herror := (if_pos hsize).symm.trans hresult
        cases herror
  · rintro ⟨hversion, hopenings, hnumbers, hsize⟩
    rw [hopenings, hnumbers] at hanswer
    rw [hversion, ok_of_answer hanswer]
    refine ⟨_, if_neg (Nat.not_lt.mpr hsize)⟩

/-! The codes of the journal. -/

/-- A code is sent on as it is where it begins with a letter, and else like any other text. -/
def CodeSent (code : String) : Prop :=
  code.toList.head?.any Char.isLower = true ∨
    (code.utf8ByteSize < 32 ∧ ¬"avrt_".toList <:+: code.toList ∧
      ¬"presharedkey".toList <:+: code.toList)

section

variable {code : String} (h : codePattern.matches code = true)

include h

theorem code_class : ∀ c ∈ code.toList, isCodeChar c = true :=
  (Piece.accepts_between.mp (Pattern.matchesList_singleton.mp h)).2

theorem code_length : 1 ≤ code.toList.length ∧ code.toList.length ≤ 64 :=
  (Piece.accepts_between.mp (Pattern.matchesList_singleton.mp h)).1

theorem lower_code : Http.lower code = code.toList := by
  rw [Http.lower]
  conv_rhs => rw [← List.map_id code.toList]
  exact List.map_congr_left fun c hc => toLower_codeChar (code_class h c hc)

theorem word_not_in_code {word : String} (hword : (word.toList.all isCodeChar) = false) :
    ¬word.toList <:+: code.toList := by
  intro hinside
  refine Bool.eq_false_iff.mp hword (List.all_eq_true.mpr fun c hc => ?_)
  exact code_class h c (hinside.subset hc)

theorem statusPattern_iff : Http.statusPattern.matches code = true ↔
    code.toList.head?.any Char.isLower = true := by
  obtain ⟨hleast, hmost⟩ := code_length h
  have hclass := code_class h
  rw [Pattern.matches, Http.statusPattern, Pattern.matchesList_cons]
  cases hcode : code.toList with
  | nil =>
    rw [hcode] at hleast
    exact absurd hleast (by decide)
  | cons c cs =>
    rw [hcode] at hmost hclass
    constructor
    · rintro ⟨a, b, hab, ha, -⟩
      obtain ⟨hlength, ha⟩ := Piece.accepts_exactly.mp ha
      obtain ⟨x, rfl⟩ := List.length_eq_one_iff.mp hlength
      obtain ⟨rfl, rfl⟩ := List.cons.inj hab
      exact ha _ List.mem_cons_self
    · intro hc
      refine ⟨[c], cs, rfl, Piece.accepts_exactly.mpr ⟨rfl, fun x hx => ?_⟩,
        Pattern.matchesList_singleton.mpr (Piece.accepts_between.mpr ⟨⟨Nat.zero_le _, ?_⟩, ?_⟩)⟩
      · exact List.mem_singleton.mp hx ▸ hc
      · exact Nat.le_of_succ_le_succ hmost
      · exact fun x hx => hclass x (List.mem_cons_of_mem _ hx)

theorem printable_code : Http.printable code = true := by
  refine List.all_eq_true.mpr fun c hc => ?_
  have hcode := code_class h c hc
  have hbounds : 32 ≤ c.toNat ∧ c.toNat ≤ 126 := by
    simp only [isCodeChar, Bool.or_eq_true, beq_iff_eq] at hcode
    rcases hcode with (hcode | hcode) | rfl
    · have hdigit := isDigit_toNat hcode
      omega
    · have hlower := isLower_toNat hcode
      omega
    · decide
  have hspace : ' ' ≤ c := UInt32.le_iff_toNat_le.mpr hbounds.1
  have htilde : c ≤ '~' := UInt32.le_iff_toNat_le.mpr hbounds.2
  exact Bool.and_eq_true_iff.mpr ⟨decide_eq_true hspace, decide_eq_true htilde⟩

theorem mentions_code : Http.mentions Http.secretWords (Http.lower code) =
    (decide ("presharedkey".toList <:+: code.toList) || decide ("avrt_".toList <:+: code.toList)) := by
  have hno (word : String) (hword : (word.toList.all isCodeChar) = false) :
      decide (word.toList <:+: code.toList) = false := decide_eq_false (word_not_in_code h hword)
  rw [lower_code h]
  simp only [Http.mentions, Http.secretWords, List.any_cons, List.any_nil]
  rw [hno "authorization:" (by decide), hno "bearer " (by decide),
    hno "password=" (by decide), hno "private key" (by decide),
    hno "vless://" (by decide), hno "hy2://" (by decide),
    hno "vpn://" (by decide)]
  simp only [Bool.false_or, Bool.or_false]

theorem uuid_code : uuidPattern.matches code = false := by
  refine Bool.eq_false_iff.mpr fun huuid => ?_
  obtain ⟨a, b, hab, -, hb⟩ := Pattern.matchesList_cons.mp huuid
  obtain ⟨d, e, rfl, hd, -⟩ := Pattern.matchesList_cons.mp hb
  obtain rfl := Piece.accepts_char.mp hd
  have hdash := code_class h '-' (hab ▸ by simp)
  exact absurd hdash (by decide)

theorem diagnosticString_code : Http.diagnosticString code = true ↔
    code.utf8ByteSize < 32 ∧ ¬"avrt_".toList <:+: code.toList ∧
      ¬"presharedkey".toList <:+: code.toList := by
  have hprintable := printable_code h
  have hsize := size_of_printable hprintable
  obtain ⟨hleast, hmost⟩ := code_length h
  rw [String.length_toList] at hleast hmost
  have hmarkup : Http.hasMarkup code = false := by
    refine List.any_eq_false.mpr fun c hc hmark => ?_
    rcases Bool.or_eq_true_iff.mp hmark with he | he
    · exact absurd (eq_of_beq he ▸ code_class h c hc) (by decide)
    · exact absurd (eq_of_beq he ▸ code_class h c hc) (by decide)
  have htoken : Http.tokenPattern.matches code = true := by
    refine Pattern.matchesList_singleton.mpr (Piece.accepts_many.mpr ⟨?_, fun c hc => ?_⟩)
    · rwa [String.length_toList]
    · have hcode := code_class h c hc
      simp only [isCodeChar, alphanumericOr, isAlphanumeric, Bool.or_eq_true, List.contains_iff_mem,
        List.mem_cons, beq_iff_eq] at hcode ⊢
      tauto
  simp only [Http.diagnosticString, hprintable, hmarkup, mentions_code h, htoken, uuid_code h,
    Bool.and_eq_true, Bool.or_eq_true, decide_eq_true_eq, Bool.not_eq_true', Bool.or_eq_false_iff,
    decide_eq_false_iff_not, hsize]
  constructor
  · rintro ⟨⟨⟨-, hmarks⟩, hshort⟩, -⟩
    refine ⟨?_, hmarks.2, hmarks.1⟩
    rcases hshort with (hshort | hlong) | htrue
    · exact hshort
    · omega
    · cases htrue
  · rintro ⟨hshort, havrt, hpreshared⟩
    exact ⟨⟨⟨⟨⟨by omega, trivial⟩, trivial⟩, hpreshared, havrt⟩, .inl (.inl hshort)⟩, trivial⟩

end

/-! The diagnostics of the journal. -/

/-- A stage, and a code where there is one; either may come first. -/
inductive Stages : Value → Prop
  | verified : Stages (.object [("stage", .string "verified")])
  | failed {stage code : String} {fields : List (String × String)}
      (hstage : stage = "rolled_back" ∨ stage = "rollback_failed")
      (hcode : codePattern.matches code = true)
      (hfields : fields = [("stage", stage), ("code", code)] ∨
        fields = [("code", code), ("stage", stage)]) :
      Stages (.object (fields.map fun f => (f.1, .string f.2)))

theorem stages_of_valid {v outcome : Value}
    (h : Journal.validDiagnostics v outcome = true) : Stages v := by
  rw [Journal.validDiagnostics] at h
  split at h
  · obtain ⟨hkeys, hstage⟩ := Bool.and_eq_true_iff.mp h
    obtain ⟨fields, rfl, hperm⟩ := Value.hasExactKeys_iff.mp hkeys
    rw [Value.is_iff rfl] at hstage
    obtain ⟨⟨key, value⟩, rfl⟩ : ∃ f, fields = [f] := by
      have hlength := hperm.length_eq
      rw [List.length_map] at hlength
      exact List.length_eq_one_iff.mp hlength
    obtain rfl : key = "stage" := by simpa using hperm
    obtain rfl : value = .string "verified" := by simpa [Value.get] using hstage
    exact .verified
  · simp only [Bool.and_eq_true, Bool.or_eq_true] at h
    obtain ⟨⟨hkeys, hstage⟩, hcode⟩ := h
    obtain ⟨fields, rfl, hperm⟩ := Value.hasExactKeys_iff.mp hkeys
    rw [Value.is_iff rfl, Value.is_iff rfl] at hstage
    obtain ⟨code, hget, hcode⟩ := Value.matches_iff.mp hcode
    obtain ⟨⟨first, x⟩, ⟨second, y⟩, rfl⟩ : ∃ f g, fields = [f, g] := by
      have hlength := hperm.length_eq
      rw [List.length_map] at hlength
      exact List.length_eq_two.mp hlength
    have hfirst : first = "stage" ∨ first = "code" := by
      simpa using hperm.subset List.mem_cons_self
    obtain ⟨stage, hget', hnames⟩ : ∃ stage, Value.get (.object [(first, x), (second, y)]) "stage" =
        .string stage ∧ (stage = "rolled_back" ∨ stage = "rollback_failed") := by
      rcases hstage with hs | hs
      · exact ⟨_, hs, .inl rfl⟩
      · exact ⟨_, hs, .inr rfl⟩
    rcases hfirst with rfl | rfl
    · have hrest : [second].Perm ["code"] := (List.perm_cons "stage").mp hperm
      obtain rfl : second = "code" := by simpa using hrest
      obtain rfl : x = .string stage := hget'
      obtain rfl : y = .string code := hget
      have hs := Stages.failed hnames hcode (.inl rfl)
      exact hs
    · have hrest : [second].Perm ["stage"] :=
        (List.perm_cons "code").mp (hperm.trans (List.Perm.swap "code" "stage" []))
      obtain rfl : second = "stage" := by simpa using hrest
      obtain rfl : x = .string code := hget
      obtain rfl : y = .string stage := hget'
      have hs := Stages.failed hnames hcode (.inr rfl)
      exact hs

/-- What the adapter prints for texts of letters, digits and underscores. -/
def PrintsPlain (jsonLength : Value → Nat) : Prop :=
  ∀ fields : List (String × String),
    (∀ f ∈ fields, (f.1.toList.all isCodeChar && f.2.toList.all isCodeChar) = true) →
      jsonLength (.object (fields.map fun f => (f.1, .string f.2))) ≤
        4 + (fields.map fun f => f.1.utf8ByteSize + f.2.utf8ByteSize + 8).sum

theorem diagnosticFields_stage {stage : String}
    (hstage : stage = "verified" ∨ stage = "rolled_back" ∨ stage = "rollback_failed") (budget : Nat)
    (rest : List (String × Value)) :
    Http.diagnosticFields 1 budget (("stage", .string stage) :: rest) =
      Http.diagnosticFields 1 budget rest := by
  have hkey : Http.diagnosticKey "stage" = true := by decide +kernel
  have hstatus : Http.statusValue "stage" (.string stage) = true := by
    rcases hstage with rfl | rfl | rfl <;> decide +kernel
  rw [Http.diagnosticFields, hkey, hstatus]
  rfl

theorem diagnosticFields_code (code : String) (rest : List (String × Value)) :
    Http.diagnosticFields 1 1 (("code", .string code) :: rest) =
      if Http.statusPattern.matches code then Http.diagnosticFields 1 1 rest
      else if Http.diagnosticString code then Http.diagnosticFields 1 2 rest else none := by
  have hkey : Http.diagnosticKey "code" = true := by decide +kernel
  have hname : (Http.normalized "code" == "code".toList || Http.normalized "code" == "stage".toList) =
      true := by decide +kernel
  have hstatus : Http.statusValue "code" (.string code) = Http.statusPattern.matches code := by
    rw [Http.statusValue, hname, Bool.true_and]
    rfl
  rw [Http.diagnosticFields, hkey, hstatus]
  cases Http.statusPattern.matches code with
  | true => rfl
  | false =>
    rw [Http.diagnosticValue]
    cases Http.diagnosticString code <;> rfl

theorem codeSent_iff {code : String} (h : codePattern.matches code = true) :
    CodeSent code ↔ (Http.statusPattern.matches code || Http.diagnosticString code) = true := by
  rw [Bool.or_eq_true, statusPattern_iff h, diagnosticString_code h]
  rfl

theorem values_stages {v : Value} (h : Stages v) :
    (Http.diagnosticValue 0 0 v).isSome = true ↔
      ∀ code, v.get "code" = .string code → CodeSent code := by
  cases h with
  | verified =>
    rw [Http.diagnosticValue]
    refine iff_of_true ?_ fun code hget => absurd (show Value.null = .string code from hget) (by simp)
    show (Http.diagnosticFields 1 1 [("stage", .string "verified")]).isSome = true
    rw [diagnosticFields_stage (.inl rfl)]
    rfl
  | @failed stage code fields hstage hcode hfields =>
    have hsent : (Http.diagnosticFields 1 1 (fields.map fun f => (f.1, Value.string f.2))).isSome =
        (Http.statusPattern.matches code || Http.diagnosticString code) := by
      rcases hfields with rfl | rfl
      · show (Http.diagnosticFields 1 1 [("stage", .string stage), ("code", .string code)]).isSome = _
        rw [diagnosticFields_stage (.inr hstage), diagnosticFields_code]
        cases Http.statusPattern.matches code <;> cases Http.diagnosticString code <;> rfl
      · show (Http.diagnosticFields 1 1 [("code", .string code), ("stage", .string stage)]).isSome = _
        rw [diagnosticFields_code, diagnosticFields_stage (.inr hstage),
          diagnosticFields_stage (.inr hstage)]
        cases Http.statusPattern.matches code <;> cases Http.diagnosticString code <;> rfl
    have hget : Value.get (.object (fields.map fun f => (f.1, Value.string f.2))) "code" =
        .string code := by
      rcases hfields with rfl | rfl <;> rfl
    have hshort : (fields.map fun f => (f.1, Value.string f.2)).length ≤ 32 := by
      rcases hfields with rfl | rfl <;> exact Nat.le_of_ble_eq_true rfl
    have hvalue : Http.diagnosticValue 0 0 (.object (fields.map fun f => (f.1, Value.string f.2))) =
        Http.diagnosticFields 1 1 (fields.map fun f => (f.1, Value.string f.2)) := by
      rw [Http.diagnosticValue]
      exact if_pos (by simpa using hshort)
    rw [hvalue, hsent, ← codeSent_iff hcode]
    refine ⟨fun hc code' hget' => ?_, fun hall => hall code hget⟩
    rw [hget] at hget'
    obtain rfl := Value.string.inj hget'
    exact hc

theorem length_stages {jsonLength : Value → Nat} (hprint : PrintsPlain jsonLength) {v : Value}
    (h : Stages v) : jsonLength v ≤ 8192 := by
  cases h with
  | verified =>
    refine (hprint [("stage", "verified")] fun f hf => ?_).trans (by decide)
    rw [List.mem_singleton.mp hf]
    decide
  | @failed stage code fields hstage hcode hfields =>
    have hcodeSize : code.utf8ByteSize ≤ 64 := by
      rw [size_of_printable (printable_code hcode), ← String.length_toList]
      exact (code_length hcode).2
    have hstageSize : stage.utf8ByteSize ≤ 15 := by
      rcases hstage with rfl | rfl <;> decide
    have hstagePlain : stage.toList.all isCodeChar = true := by
      rcases hstage with rfl | rfl <;> decide
    have hcodePlain : code.toList.all isCodeChar = true := List.all_eq_true.mpr (code_class hcode)
    have hkeys : "stage".toList.all isCodeChar = true ∧ "code".toList.all isCodeChar = true := by decide
    have hclass : ∀ f ∈ fields, (f.1.toList.all isCodeChar && f.2.toList.all isCodeChar) = true := by
      intro f hf
      rcases hfields with rfl | rfl <;> simp only [List.mem_cons, List.not_mem_nil, or_false] at hf <;>
        rcases hf with rfl | rfl <;> simp only [hkeys, hstagePlain, hcodePlain, Bool.and_self]
    have hsum : (fields.map fun f => f.1.utf8ByteSize + f.2.utf8ByteSize + 8).sum ≤ 104 := by
      have hs : "stage".utf8ByteSize = 5 := by decide
      have hc : "code".utf8ByteSize = 4 := by decide
      rcases hfields with rfl | rfl <;> simp only [List.map_cons, List.map_nil, List.sum_cons,
        List.sum_nil, hs, hc] <;> omega
    have hlength := hprint fields hclass
    omega

/-! The agreement. -/

theorem applyBody_iff {jsonLength : Value → Nat} (hprint : PrintsPlain jsonLength) {body : Value}
    (h : Journal.validReportBody body = true) : Http.applyBody jsonLength body = true ↔
      ∀ code, (body.get "diagnostics").get "code" = .string code → CodeSent code := by
  simp only [Journal.validReportBody, Journal.validCapabilities, Journal.validProfile,
    Bool.and_eq_true] at h
  obtain ⟨⟨⟨⟨⟨⟨⟨hkeys, hversion⟩, hrevision⟩, hsha⟩, houtcome⟩, hprofile⟩, hcapabilities, hswitches⟩,
    hdiagnostics⟩ := h
  have hstages := stages_of_valid hdiagnostics
  rw [← values_stages hstages]
  obtain ⟨n, hn, hleast, -⟩ := Value.isInteger_iff.mp hrevision
  have hobject {v : Value} (hv : Stages v) : v.isObject = true := by
    cases hv <;> rfl
  have hlength : decide (jsonLength (body.get "diagnostics") ≤ 8192) = true :=
    decide_eq_true (length_stages hprint hstages)
  obtain ⟨outcome, ho, hnames⟩ : ∃ s, body.get "outcome" = .string s ∧
      (s == "APPLIED" || s == "DEGRADED" || s == "FAILED") = true := by
    rw [Bool.or_eq_true, Value.is_iff rfl, Value.is_iff rfl] at houtcome
    rcases houtcome with ho | ho
    · exact ⟨_, ho, rfl⟩
    · exact ⟨_, ho, rfl⟩
  have hleast : decide (0 ≤ n) = true := decide_eq_true hleast
  have hnamed : (body.get "capabilities").hasExactKeys Http.capabilityNames = true := hcapabilities
  have hswitched : (Http.capabilityNames.all fun name => ((body.get "capabilities").get name).isBool) =
      true := hswitches
  unfold Http.applyBody
  dsimp only
  rw [hkeys, hversion, hn, hsha, ho, hprofile, hnamed, hobject hstages, hswitched, hlength]
  dsimp only
  rw [hleast, hnames]
  simp only [Bool.true_and, Bool.and_true]

theorem validReportBody_of_validState {state : Value} (h : Journal.validState state = true)
    (hpending : (state.get "pending_report").isNull = false) :
    Journal.validReportBody ((state.get "pending_report").get "body") = true := by
  unfold Journal.validState at h
  split at h
  · obtain ⟨-, hreport⟩ := Bool.and_eq_true_iff.mp h
    rw [hpending, Bool.false_or] at hreport
    simp only [Journal.validPendingIn, Journal.validPending, Bool.and_eq_true] at hreport
    exact hreport.1.1.1.1.2
  · cases h

/-- What the journal holds the adapter sends where the code allows it, and what the adapter sends the
server takes where it asks for nothing more. -/
theorem formats_agree_iff {jsonLength : Value → Nat} (hprint : PrintsPlain jsonLength)
    {py : PythonLibrary} (hpy : Ascii py) :
    (∀ state : Value, Journal.validState state = true → (state.get "pending_report").isNull = false →
      (Http.applyBody jsonLength ((state.get "pending_report").get "body") = true ↔
        ∀ code, (((state.get "pending_report").get "body").get "diagnostics").get "code" = .string code →
          CodeSent code)) ∧
    ∀ body : Value, Http.applyBody jsonLength body = true →
      ((∃ result, validateRouterApplyResult py body = .ok result) ↔ Taken py body) :=
  ⟨fun _ h hpending => applyBody_iff hprint (validReportBody_of_validState h hpending),
    fun _ h => taken_iff hpy h⟩

namespace FormatSample

/-- The library on the one body that the server takes here. -/
def library : PythonLibrary where
  lower := fun s => String.ofList (s.toList.map Char.toLower)
  isControl := fun c => c < ' ' || c == Char.ofNat 127
  canonicalJson := fun v =>
    if (v.get "outcome").isNull then
      "\x7b\"code\":\"activation_failed\",\"stage\":\"rolled_back\"\x7d"
    else "\x7b\"active_profile\":null,\"capabilities\":\x7b\"amneziawg\":false,\"hysteria2\":false," ++
      "\"policy_routing\":false,\"vless\":false,\"zapret\":false\x7d,\"diagnostics\":" ++
      "\x7b\"code\":\"activation_failed\",\"stage\":\"rolled_back\"\x7d,\"outcome\":\"FAILED\"," ++
      "\"revision\":7,\"schema_version\":1,\"snapshot_sha256\":" ++
      "\"e3b0c44298fc1c149afbf4c8996fb92427ae41e4649b934ca495991b7852b855\"\x7d"
  sha256 := fun _ => "f12f9214bff2d7eae1899592cf8ee22eee404d29a77a83a0f2a39ab29f9510d1"

theorem ascii_library : Ascii library where
  lower := fun _ _ => String.toList_ofList
  isControl := by
    intro c hspace htilde
    have hdel : c ≠ Char.ofNat 127 := by
      rintro rfl
      exact absurd htilde (by decide)
    have hlow : decide (c < ' ') = false := decide_eq_false (Char.not_lt.mpr hspace)
    show (decide (c < ' ') || c == Char.ofNat 127) = false
    rw [hlow, beq_eq_false_iff_ne.mpr hdel]
    rfl

def textOf : Value → String
  | .string s => s
  | _ => ""

/-- The adapter prints an object with a space around each pair. -/
def printed : Value → Nat
  | .object fields =>
    4 + (fields.map fun f => f.1.utf8ByteSize + (textOf f.2).utf8ByteSize + 8).sum
  | _ => 4

theorem printsPlain_printed : PrintsPlain printed := by
  intro fields _
  rw [printed, List.map_map]
  exact Nat.le_refl _

def digest : String := "e3b0c44298fc1c149afbf4c8996fb92427ae41e4649b934ca495991b7852b855"

def body (diagnostics : Value) : Value :=
  .object [("schema_version", .int 1), ("revision", .int 7), ("snapshot_sha256", .string digest),
    ("outcome", .string "FAILED"), ("active_profile", .null),
    ("capabilities", .object (Server.capabilityNames.map fun name => (name, .bool false))),
    ("diagnostics", diagnostics)]

def rolledBack (code : String) : Value :=
  .object [("stage", .string "rolled_back"), ("code", .string code)]

/-- A journal whose only entry is the report of a failure. -/
def state (code : String) : Value :=
  .object [("journal_version", .int 1), ("sequence", .int 1), ("phase", .string "IDLE"),
    ("desired", .null), ("applied", .null), ("last_good", .null),
    ("rejected", .object [("revision", .int 7), ("etag", .string ("\"" ++ digest ++ "\"")),
      ("code", .string "activation_failed"), ("errors", .array [])]),
    ("pending_report", .object [("idempotency_key", .string "r7-e3b0c44298fc1c14-s1"),
      ("etag", .string ("\"" ++ digest ++ "\"")), ("body", body (rolledBack code))]),
    ("capabilities", .object (Server.capabilityNames.map fun name => (name, .bool false))),
    ("active_profile", .null), ("last_error", .null)]

def certificate : Value := body (.object [("note", .string "-----BEGIN CERTIFICATE-----")])

end FormatSample

open FormatSample in
/-- A code that begins with a digit and looks like a token stays in the journal, and a text that opens a
certificate stays with the adapter. -/
theorem formats_disagree :
    Journal.validState (state "0avrt_key") = true ∧
      Http.applyBody printed (((state "0avrt_key").get "pending_report").get "body") = false ∧
      Http.applyBody printed certificate = true ∧
      validateRouterApplyResult library certificate =
        .error "Diagnostics may contain secret material" := by
  have hstate : Journal.validState (state "0avrt_key") = true := by decide +kernel
  have hbody : Http.applyBody printed (((state "0avrt_key").get "pending_report").get "body") = false := by
    decide +kernel
  have hsent : Http.applyBody printed certificate = true := by decide +kernel
  exact ⟨hstate, hbody, hsent, rfl⟩

open FormatSample in
theorem formats_agree_iff_failed :
    Http.applyBody printed (((state "activation_failed").get "pending_report").get "body") = true ∧
      ∃ result, validateRouterApplyResult library (body (rolledBack "activation_failed")) = .ok result := by
  have hagree := formats_agree_iff printsPlain_printed ascii_library
  have hsent : Http.applyBody printed (((state "activation_failed").get "pending_report").get "body") =
      true := by
    refine (hagree.1 (state "activation_failed") (by decide +kernel) (by decide)).mpr ?_
    intro code hcode
    obtain rfl : "activation_failed" = code := Value.string.inj hcode
    exact .inl (by decide)
  exact ⟨hsent, (hagree.2 (body (rolledBack "activation_failed")) hsent).mpr
    ⟨by decide, by decide +kernel, by decide, by decide +kernel⟩⟩

end Formats

end AutoVPN
