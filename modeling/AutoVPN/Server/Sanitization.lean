import AutoVPN.Lib.Substitution
import AutoVPN.Server.Artifacts

/-! The message of an error, without the secrets of the configuration and without what looks like
one. -/

namespace AutoVPN

namespace Sanitization

open Substitution
open Server (isSpace split strip)

/-! What looks like a secret. -/

/-- Equality without regard to case; four letters beyond ASCII are taken for three of the alphabet. -/
def sameLetter (letter c : Char) : Bool :=
  letter.toLower == c.toLower || (letter.toLower == 'i' && [304, 305].contains c.toNat) ||
    (letter.toLower == 's' && c.toNat == 383) || (letter.toLower == 'k' && c.toNat == 8490)

def caseless (text : String) : Regex Char := literal sameLetter text.toList

def headerCharacter (c : Char) : Bool := !(['-', '\r', '\n'].contains c)

def keyMarker (word : String) : Regex Char := fun next =>
  caseless ("-----" ++ word ++ " ") (between headerCharacter 0 64 (caseless "PRIVATE KEY-----" next))

def privateKeyBlock : Regex Char := fun next => keyMarker "BEGIN" (anything (keyMarker "END" next))

def privateKeyMarker : Regex Char := fun next cs =>
  (keyMarker "BEGIN" next cs).or (keyMarker "END" next cs)

def tokenCharacter : Char → Bool := alphanumericOr ['_', '-']

def routerToken : Regex Char := fun next =>
  literal (· == ·) "avrt_".toList (between tokenCharacter 8 64
    (one (· == '.') (between tokenCharacter 20 128 next)))

def assignment (name : String) : Regex Char := fun next =>
  caseless name (many isSpace (one [':', '='].contains (many isSpace
    (one (!isSpace ·) (many (!isSpace ·) next)))))

/-! The redaction. -/

def secretMark : List Char := "[redacted]".toList

def keyMark : List Char := "[redacted-private-key]".toList

def tokenMark : List Char := "[redacted-router-token]".toList

/-- The name stays, with a mark for its value. -/
def assignments : Matcher Char := fun cs =>
  ["password", "passwd", "authorization"].findSome? fun name =>
    (assignment name some cs).map fun rest =>
      (cs.length - rest.length, cs.take name.length ++ '=' :: secretMark)

def redactSecret (message : List Char) (secret : String) : List Char :=
  if secret = "" then message else substitute (verbatim secret.toList secretMark) message

def redactSecrets (secrets : List String) (message : List Char) : List Char :=
  secrets.foldl redactSecret message

/-- The message before it is brought onto one line. -/
def redacted (message : String) (secrets : List String) : List Char :=
  let message := redactSecrets secrets message.toList
  let message := substitute (privateKeyBlock.becomes keyMark) message
  let message := substitute (privateKeyMarker.becomes keyMark) message
  let message := substitute (routerToken.becomes tokenMark) message
  substitute assignments message

def controlCharacter (c : Char) : Bool := decide (c.toNat ≤ 31) || c.toNat == 127

def oneLine (message : List Char) : List Char :=
  [' '].intercalate (split (substitute (run controlCharacter [' ']) message))

/-- `[:limit]`. -/
def slice (limit : Int) (cs : List Char) : List Char :=
  if 0 ≤ limit then cs.take limit.toNat else cs.take (cs.length - limit.natAbs)

def sanitizeError (message : String) (secrets : List String) (limit : Int) : String :=
  String.ofList (slice limit (oneLine (redacted message secrets)))

/-! The caller of the address change. -/

def clean (value : String) (limit : Int) : String :=
  String.ofList (slice limit (strip (substitute (run controlCharacter [' ']) value.toList)))

def safeError (text className token password : String) : String :=
  sanitizeError (if clean text 1000 = "" then className else clean text 1000)
    [String.ofList (strip token.toList), password] 1000

/-! What the redaction lets through. -/

def marks : List (List Char) := [secretMark, keyMark, tokenMark]

def plain (c : Char) : Bool := !(['[', ']', '='].contains c)

/-- A secret that is long enough and that the marks do not bring about. -/
structure Admissible (secret : String) : Prop where
  long : 8 ≤ secret.length
  plain : ∀ c ∈ secret.toList, plain c = true
  unmarked : ∀ mark ∈ marks, ¬secret.toList <:+: mark

theorem framed_marks : ∀ mark ∈ marks, Framed plain mark := by
  intro mark hmark
  simp only [marks, List.mem_cons, List.not_mem_nil, or_false] at hmark
  rcases hmark with rfl | rfl | rfl
  · exact ⟨'[', "redacted".toList, ']', by decide, by decide, by decide⟩
  · exact ⟨'[', "redacted-private-key".toList, ']', by decide, by decide, by decide⟩
  · exact ⟨'[', "redacted-router-token".toList, ']', by decide, by decide, by decide⟩

theorem redacts_assignments : Redacts plain ['=' :: secretMark] assignments := by
  intro cs n new h
  obtain ⟨name, -, hname⟩ := List.exists_of_findSome?_eq_some h
  obtain ⟨rest, -, hnew⟩ := Option.map_eq_some_iff.mp hname
  obtain ⟨-, rfl⟩ := Prod.mk.inj hnew
  exact ⟨cs.take name.length, '=' :: secretMark, rfl, List.take_prefix _ _,
    List.mem_singleton_self _, '=', "[redacted".toList, ']', by decide, by decide, by decide⟩

section

variable {word : List Char} (hword : ∀ c ∈ word, plain c = true)
  (hmarks : ∀ mark ∈ marks, ¬word <:+: mark)

include hword hmarks

theorem infix_of_redactSecret {secret : String} {message : List Char}
    (h : word <:+: redactSecret message secret) : word <:+: message := by
  rw [redactSecret] at h
  split at h
  · exact h
  · exact infix_of_substitute (redacts_verbatim (framed_marks secretMark (by simp [marks]))) hword
      (fun _ hmem => List.mem_singleton.mp hmem ▸ hmarks secretMark (by simp [marks])) h

theorem infix_of_redactSecrets {secrets : List String} {message : List Char}
    (h : word <:+: redactSecrets secrets message) : word <:+: message := by
  induction secrets generalizing message with
  | nil => exact h
  | cons secret secrets ih => exact infix_of_redactSecret hword hmarks (ih h)

theorem not_infix_assignment : ¬word <:+: '=' :: secretMark := by
  intro h
  have hsplit := (infix_middle hword (show plain '=' = false by decide)).mp
    (show word <:+: [] ++ '=' :: secretMark from h)
  rcases hsplit with hnil | hmark
  · exact hmarks secretMark (by simp [marks]) (List.infix_nil.mp hnil ▸ List.nil_infix)
  · exact hmarks secretMark (by simp [marks]) hmark

theorem infix_of_becomes {r : Regex Char} {mark : List Char} (hmark : mark ∈ marks) {cs : List Char}
    (h : word <:+: substitute (r.becomes mark) cs) : word <:+: cs :=
  infix_of_substitute (redacts_becomes (framed_marks mark hmark)) hword
    (fun _ hmem => List.mem_singleton.mp hmem ▸ hmarks mark hmark) h

theorem infix_redactSecrets_of_redacted {message : String} {secrets : List String}
    (h : word <:+: redacted message secrets) : word <:+: redactSecrets secrets message.toList := by
  have hassignments := infix_of_substitute redacts_assignments hword
    (fun _ hmem => List.mem_singleton.mp hmem ▸ not_infix_assignment hword hmarks) h
  have htoken := infix_of_becomes hword hmarks (by simp [marks]) hassignments
  have hmarker := infix_of_becomes hword hmarks (by simp [marks]) htoken
  exact infix_of_becomes hword hmarks (by simp [marks]) hmarker

theorem infix_of_redacted {message : String} {secrets : List String}
    (h : word <:+: redacted message secrets) : word <:+: message.toList :=
  infix_of_redactSecrets hword hmarks (infix_redactSecrets_of_redacted hword hmarks h)

end

theorem Admissible.ne_nil {secret : String} (h : Admissible secret) : secret.toList ≠ [] := by
  have hlong := h.long
  rw [← String.length_toList] at hlong
  exact List.ne_nil_of_length_pos (Nat.lt_of_lt_of_le (by decide) hlong)

theorem not_infix_redactSecrets {secret : String} (h : Admissible secret) {secrets : List String}
    (hmem : secret ∈ secrets) (message : List Char) :
    ¬secret.toList <:+: redactSecrets secrets message := by
  induction secrets generalizing message with
  | nil => cases hmem
  | cons first secrets ih =>
    rcases List.mem_cons.mp hmem with rfl | hmem
    · intro hinside
      have hfirst : secret.toList <:+: redactSecret message secret :=
        infix_of_redactSecrets h.plain h.unmarked hinside
      have hne : secret ≠ "" := by
        rintro rfl
        exact h.ne_nil rfl
      rw [redactSecret, if_neg hne] at hfirst
      exact not_infix_substitute h.plain h.ne_nil (framed_marks secretMark (by simp [marks]))
        (h.unmarked secretMark (by simp [marks])) message hfirst
    · exact ih hmem _

theorem not_infix_redacted {secret : String} (h : Admissible secret) {secrets : List String}
    (hmem : secret ∈ secrets) (message : String) : ¬secret.toList <:+: redacted message secrets :=
  fun hinside => not_infix_redactSecrets h hmem message.toList
    (infix_redactSecrets_of_redacted h.plain h.unmarked hinside)

/-! One line. -/

def blank : Char → Bool := either controlCharacter isSpace

theorem oneLine_eq (message : List Char) : oneLine message = squeeze blank ' ' (trim blank message) := by
  have hwords : split (substitute (run controlCharacter [' ']) message) = words blank message :=
    (words_run (by decide) 0 message).1
  rw [oneLine, hwords]
  exact joined_eq_squeeze message

theorem slice_start (limit : Int) (cs : List Char) : slice limit cs <+: cs := by
  rw [slice]
  split <;> exact List.take_prefix _ _

theorem slice_length (cs : List Char) : slice cs.length cs = cs := by
  rw [slice, if_pos (Int.natCast_nonneg _), Int.toNat_natCast, List.take_length]

/-- A part that is not the secret and reads as the secret, with each run of blanks as one space. -/
def Respells (secret part : List Char) : Prop := part ≠ secret ∧ squeeze blank ' ' part = secret

theorem Respells.plain {secret part : List Char} (h : Respells secret part)
    (hsecret : ∀ c ∈ secret, plain c = true) : ∀ c ∈ part, Sanitization.plain c = true := by
  intro c hc
  cases hb : blank c with
  | false => exact hsecret c (h.2 ▸ mem_squeeze hb hc)
  | true =>
    refine Bool.of_not_eq_false fun hplain => ?_
    have hmarks : (['[', ']', '='].all fun x => !blank x) = true := by decide
    rw [Sanitization.plain, Bool.not_eq_false', List.contains_iff_mem] at hplain
    have hx := List.all_eq_true.mp hmarks c hplain
    rw [hb] at hx
    cases hx

theorem Respells.unmarked {secret part : List Char} (h : Respells secret part) :
    ∀ mark ∈ marks, ¬part <:+: mark := by
  intro mark hmark hinside
  have hclass : (marks.all fun mark => mark.all fun c => !blank c) = true := by decide
  have hvisible := List.all_eq_true.mp (List.all_eq_true.mp hclass mark hmark)
  refine h.1 ((squeeze_of_visible fun c hc => ?_).symm.trans h.2)
  simpa using hvisible c (hinside.subset hc)

/-- No secret is in what is returned, wherever it is cut. -/
def Leakless (message : String) (secrets : List String) : Prop :=
  ∀ limit : Int, ∀ secret ∈ secrets, ¬secret.toList <:+: (sanitizeError message secrets limit).toList

theorem leakless_iff {message : String} {secrets : List String} (h : ∀ s ∈ secrets, Admissible s) :
    Leakless message secrets ↔ ∀ secret ∈ secrets, ∀ part, Respells secret.toList part →
      ¬part <:+: trim blank (redacted message secrets) := by
  constructor
  · intro hleakless secret hmem part hpart hinside
    have hline : secret.toList <:+: oneLine (redacted message secrets) := by
      rw [oneLine_eq]
      exact infix_squeeze_iff.mpr ⟨part, hinside, hpart.2⟩
    refine hleakless (oneLine (redacted message secrets)).length secret hmem ?_
    rw [sanitizeError, String.toList_ofList, slice_length]
    exact hline
  · intro hparts limit secret hmem hinside
    rw [sanitizeError, String.toList_ofList] at hinside
    have hline := hinside.trans (slice_start limit _).isInfix
    rw [oneLine_eq] at hline
    obtain ⟨part, hpart, hread⟩ := infix_squeeze_iff.mp hline
    refine hparts secret hmem part ⟨?_, hread⟩ hpart
    rintro rfl
    exact not_infix_redacted (h secret hmem) hmem message (hpart.trans (trim_part _))

theorem not_respells {secret part : List Char} (hsecret : ' ' ∉ secret) : ¬Respells secret part := by
  rintro ⟨hne, hread⟩
  refine hne ((squeeze_of_visible fun c hc => ?_).symm.trans hread)
  refine Bool.eq_false_iff.mpr fun hb => hsecret ?_
  rw [← hread]
  exact space_mem_squeeze hb hc

/-- Nothing leaks where, in what the redaction leaves, no part between the outer blanks reads as a secret
that it is not. For this it is enough that the message has no such part, or that no secret has a space. -/
theorem leakless_unless_respelled (message : String) (secrets : List String)
    (h : ∀ secret ∈ secrets, Admissible secret) :
    (Leakless message secrets ↔ ∀ secret ∈ secrets, ∀ part, Respells secret.toList part →
      ¬part <:+: trim blank (redacted message secrets)) ∧
    ((∀ secret ∈ secrets, ∀ part, Respells secret.toList part → ¬part <:+: message.toList) →
      Leakless message secrets) ∧
    ((∀ secret ∈ secrets, ' ' ∉ secret.toList) → Leakless message secrets) := by
  have hiff : Leakless message secrets ↔ _ := leakless_iff h
  refine ⟨hiff, fun hmessage => hiff.mpr ?_, fun hspace => hiff.mpr ?_⟩
  · intro secret hmem part hpart hinside
    exact hmessage secret hmem part hpart (infix_of_redacted (hpart.plain (h secret hmem).plain)
      hpart.unmarked (hinside.trans (trim_part _)))
  · intro secret hmem part hpart
    exact absurd hpart (not_respells (hspace secret hmem))

/-- Every space of a secret may have been another blank of the message: here a line break, and two
spaces on the way through the caller. -/
theorem passphrase_leaks : Admissible "correct horse" ∧
    sanitizeError "ssh: correct\nhorse" ["correct horse"] 4000 = "ssh: correct horse" ∧
    ¬Leakless "ssh: correct\nhorse" ["correct horse"] ∧
    safeError "ssh: correct  horse" "RuntimeError" "token-12345" "correct horse" =
      "ssh: correct horse" := by
  have hplain : ("correct horse".toList.all plain) = true := by decide
  have hline : sanitizeError "ssh: correct\nhorse" ["correct horse"] 4000 = "ssh: correct horse" := by
    decide +kernel
  refine ⟨⟨by decide, List.all_eq_true.mp hplain, by decide⟩, hline, fun h => ?_, by decide +kernel⟩
  refine h 4000 "correct horse" List.mem_cons_self ?_
  rw [hline]
  exact ⟨"ssh: ".toList, [], by decide⟩

/-- The secret stands in the message as it is. -/
theorem leakless_unless_respelled_passphrase :
    Leakless "login: correct horse\n" ["correct horse", "secret-token"] := by
  have hplain : (["correct horse", "secret-token"].all fun secret =>
      secret.toList.all plain) = true := by decide
  have hadmissible : ∀ secret ∈ ["correct horse", "secret-token"], Admissible secret := by
    intro secret hmem
    refine ⟨?_, List.all_eq_true.mp (List.all_eq_true.mp hplain secret hmem), ?_⟩ <;>
      · rcases List.mem_pair.mp hmem with rfl | rfl <;> decide
  refine (leakless_unless_respelled _ _ hadmissible).2.1 fun secret hmem part hpart hinside => ?_
  have hparts : ("login: correct horse\n".toList.tails.all fun rest => rest.inits.all fun part =>
      ["correct horse", "secret-token"].all fun secret =>
        part == secret.toList || squeeze blank ' ' part != secret.toList) = true := by
    decide +kernel
  obtain ⟨rest, hprefix, hsuffix⟩ := List.infix_iff_prefix_suffix.mp hinside
  have hrest := List.all_eq_true.mp hparts rest ((List.mem_tails rest _).mpr hsuffix)
  have hread := List.all_eq_true.mp
    (List.all_eq_true.mp hrest part ((List.mem_inits part rest).mpr hprefix)) secret hmem
  rw [Bool.or_eq_true, beq_iff_eq, bne_iff_ne] at hread
  exact hread.elim hpart.1 fun hne => hne hpart.2

end Sanitization

end AutoVPN
