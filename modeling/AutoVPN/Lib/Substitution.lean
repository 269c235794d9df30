import Mathlib.Data.List.DropRight
import Mathlib.Data.List.Infix

/-! Substitutions in a text, the words that they cannot bring about, and texts whose runs of blanks are
read as one. -/

namespace AutoVPN

namespace Substitution

variable {α : Type}

/-! Patterns of a backtracking engine: each takes what follows it, and finds the first match. -/

/-- From what follows to what is left of a text. -/
abbrev Regex (α : Type) := (List α → Option (List α)) → List α → Option (List α)

def one (p : α → Bool) : Regex α
  | _, [] => none
  | next, c :: cs => if p c then next cs else none

def literal (same : α → α → Bool) : List α → Regex α
  | [], next => next
  | w :: ws, next => one (same w) (literal same ws next)

/-- The longest run first. -/
def many (p : α → Bool) (next : List α → Option (List α)) : List α → Option (List α)
  | [] => next []
  | c :: cs => if p c then (many p next cs).or (next (c :: cs)) else next (c :: cs)

def upTo (p : α → Bool) (next : List α → Option (List α)) : Nat → List α → Option (List α)
  | bound + 1, c :: cs =>
    if p c then (upTo p next bound cs).or (next (c :: cs)) else next (c :: cs)
  | _, cs => next cs

def exactly (p : α → Bool) : Nat → Regex α
  | 0, next => next
  | n + 1, next => one p (exactly p n next)

def between (p : α → Bool) (least most : Nat) : Regex α :=
  fun next => exactly p least fun cs => upTo p next (most - least) cs

/-- The shortest text first. -/
def anything (next : List α → Option (List α)) : List α → Option (List α)
  | [] => next []
  | c :: cs => (next (c :: cs)).or (anything next cs)

/-! Substitutions. -/

/-- The length of a match at the start of a text, and what it becomes. -/
abbrev Matcher (α : Type) := List α → Option (Nat × List α)

def Regex.becomes (r : Regex α) (mark : List α) : Matcher α := fun cs =>
  (r some cs).map fun rest => (cs.length - rest.length, mark)

def verbatim [BEq α] (word mark : List α) : Matcher α := fun cs =>
  if word.isPrefixOf cs then some (word.length, mark) else none

/-- A run of a class that is not empty. -/
def run (p : α → Bool) (mark : List α) : Matcher α := fun cs =>
  match cs.takeWhile p with
  | [] => none
  | c :: cs => some ((c :: cs).length, mark)

/-- The matches from the left, where the first `skip` characters belong to one that has been
replaced. -/
def substituteFrom (m : Matcher α) : Nat → List α → List α
  | _, [] => []
  | skip + 1, _ :: cs => substituteFrom m skip cs
  | 0, c :: cs =>
    match m (c :: cs) with
    | none => c :: substituteFrom m 0 cs
    | some (n, new) => new ++ substituteFrom m (n - 1) cs

def substitute (m : Matcher α) (cs : List α) : List α := substituteFrom m 0 cs

/-! Words of a class in a text. -/

section

variable {p : α → Bool} {word : List α}

theorem prefix_middle (hword : ∀ c ∈ word, p c = true) {x : α} (hx : p x = false)
    {a b : List α} : word <+: a ++ x :: b ↔ word <+: a := by
  refine ⟨fun h => ?_, fun h => h.trans (List.prefix_append a (x :: b))⟩
  induction a generalizing word with
  | nil =>
    cases word with
    | nil => exact List.nil_prefix
    | cons w word =>
      have hw := hword w List.mem_cons_self
      rw [(List.cons_prefix_cons.mp h).1, hx] at hw
      cases hw
  | cons c a ih =>
    cases word with
    | nil => exact List.nil_prefix
    | cons w word =>
      obtain ⟨rfl, hrest⟩ := List.cons_prefix_cons.mp h
      exact List.cons_prefix_cons.mpr
        ⟨rfl, ih (fun d hd => hword d (List.mem_cons_of_mem _ hd)) hrest⟩

/-- A word does not reach over a character of another class. -/
theorem infix_middle (hword : ∀ c ∈ word, p c = true) {x : α} (hx : p x = false)
    {a b : List α} : word <:+: a ++ x :: b ↔ word <:+: a ∨ word <:+: b := by
  induction a with
  | nil =>
    have hnil : word <+: [] ++ x :: b ↔ word <+: [] := prefix_middle hword hx
    rw [List.nil_append] at hnil
    rw [List.nil_append, List.infix_cons_iff, hnil, List.prefix_nil, List.infix_nil]
  | cons c a ih =>
    rw [List.cons_append, List.infix_cons_iff, ← List.cons_append, prefix_middle hword hx, ih,
      List.infix_cons_iff, or_assoc]

/-- Neither end of a mark belongs to the class. -/
def Framed (p : α → Bool) (mark : List α) : Prop :=
  ∃ first inner last, mark = first :: (inner ++ [last]) ∧ p first = false ∧ p last = false

theorem infix_framed (hword : ∀ c ∈ word, p c = true) {a mark b : List α} (hmark : Framed p mark)
    (h : word <:+: a ++ (mark ++ b)) : word <:+: a ∨ word <:+: mark ∨ word <:+: b := by
  obtain ⟨first, inner, last, rfl, hfirst, hlast⟩ := hmark
  rw [List.cons_append, infix_middle hword hfirst, List.append_assoc, List.singleton_append,
    infix_middle hword hlast] at h
  have hinner : inner <:+: first :: (inner ++ [last]) := ⟨[first], [last], rfl⟩
  exact h.imp_right fun hb => hb.imp_left fun hi => hi.trans hinner

/-- A match becomes a part of the text at its start, and one of the marks. -/
def Redacts (p : α → Bool) (marks : List (List α)) (m : Matcher α) : Prop :=
  ∀ cs n new, m cs = some (n, new) →
    ∃ kept mark, new = kept ++ mark ∧ kept <+: cs ∧ mark ∈ marks ∧ Framed p mark

theorem infix_of_substituteFrom {marks : List (List α)} {m : Matcher α} (hm : Redacts p marks m)
    (hword : ∀ c ∈ word, p c = true) (hmarks : ∀ mark ∈ marks, ¬word <:+: mark)
    (before : List α) {cs : List α} (skip : Nat)
    (h : word <:+: before ++ substituteFrom m skip cs) : word <:+: before ++ cs.drop skip := by
  induction cs generalizing before skip with
  | nil => simpa [substituteFrom] using h
  | cons c cs ih =>
    cases skip with
    | succ skip => exact ih before skip h
    | zero =>
      rw [substituteFrom] at h
      split at h
      · have hrest := ih (before ++ [c]) 0 (by simpa using h)
        simpa using hrest
      · rename_i n new hmatch
        obtain ⟨kept, mark, rfl, hkept, hmem, hframed⟩ := hm _ _ _ hmatch
        rw [List.append_assoc, ← List.append_assoc] at h
        rcases infix_framed hword hframed h with hleft | hmark | hright
        · exact hleft.trans ((List.prefix_append_right_inj before).mpr hkept).isInfix
        · exact absurd hmark (hmarks mark hmem)
        · have hrest := ih [] (n - 1) (by simpa using hright)
          rw [List.nil_append] at hrest
          exact hrest.trans (((List.drop_suffix _ _).trans (List.suffix_cons c cs)).trans
            (List.suffix_append before _)).isInfix

/-- A substitution makes no word that was not there, but for those in its marks. -/
theorem infix_of_substitute {marks : List (List α)} {m : Matcher α} (hm : Redacts p marks m)
    (hword : ∀ c ∈ word, p c = true) (hmarks : ∀ mark ∈ marks, ¬word <:+: mark) {cs : List α}
    (h : word <:+: substitute m cs) : word <:+: cs :=
  infix_of_substituteFrom hm hword hmarks [] 0 h

theorem redacts_becomes {r : Regex α} {mark : List α} (hmark : Framed p mark) :
    Redacts p [mark] (r.becomes mark) := by
  intro cs n new h
  obtain ⟨rest, -, hnew⟩ := Option.map_eq_some_iff.mp h
  obtain ⟨-, rfl⟩ := Prod.mk.inj hnew
  exact ⟨[], mark, rfl, List.nil_prefix, List.mem_singleton_self mark, hmark⟩

theorem redacts_verbatim [BEq α] {w mark : List α} (hmark : Framed p mark) :
    Redacts p [mark] (verbatim w mark) := by
  intro cs n new h
  rw [verbatim] at h
  split at h
  · obtain ⟨-, rfl⟩ := Prod.mk.inj (Option.some.inj h)
    exact ⟨[], mark, rfl, List.nil_prefix, List.mem_singleton_self mark, hmark⟩
  · cases h

/-- No occurrence of the word begins in the first of two texts. -/
def NoStart (word before after : List α) : Prop :=
  ∀ a b, before = a ++ b → b ≠ [] → ¬word <+: b ++ after

theorem NoStart.absent {before after : List α} (h : NoStart word before after) (hne : word ≠ []) :
    ¬word <:+: before := by
  rintro ⟨a, b, rfl⟩
  refine h a (word ++ b) (List.append_assoc a word b) (by simp [hne]) ?_
  rw [List.append_assoc]
  exact List.prefix_append word (b ++ after)

theorem NoStart.step {before after : List α} {c : α} (h : NoStart word before (c :: after))
    (hc : ¬word <+: c :: after) : NoStart word (before ++ [c]) after := by
  intro a b hab hb
  obtain ⟨b, d, rfl⟩ := List.eq_nil_or_concat b |>.resolve_left hb
  rw [List.concat_eq_append, ← List.append_assoc] at hab
  obtain ⟨hbefore, hd⟩ := List.append_inj' hab rfl
  obtain rfl := List.singleton_inj.mp hd
  rw [List.concat_eq_append, List.append_assoc, List.singleton_append]
  cases b with
  | nil => exact hc
  | cons x b => exact h a (x :: b) hbefore (List.cons_ne_nil x b)

theorem noStart_nil (word after : List α) : NoStart word [] after := fun _ _ hab hb =>
  absurd (List.append_eq_nil_iff.mp hab.symm).2 hb

theorem not_infix_substituteFrom [BEq α] [LawfulBEq α] (hword : ∀ c ∈ word, p c = true)
    (hne : word ≠ []) {mark : List α} (hframed : Framed p mark) (hmark : ¬word <:+: mark)
    (before : List α) {cs : List α} (skip : Nat) (hbefore : NoStart word before (cs.drop skip)) :
    ¬word <:+: before ++ substituteFrom (verbatim word mark) skip cs := by
  induction cs generalizing before skip with
  | nil =>
    rw [substituteFrom, List.append_nil]
    exact hbefore.absent hne
  | cons c cs ih =>
    cases skip with
    | succ skip => exact ih before skip hbefore
    | zero =>
      rw [substituteFrom]
      split
      · rename_i hmatch
        have hstart : ¬word <+: c :: cs := by
          intro hp
          rw [verbatim, if_pos (List.isPrefixOf_iff_prefix.mpr hp)] at hmatch
          cases hmatch
        have hrest := ih (before ++ [c]) 0 (hbefore.step hstart)
        simpa using hrest
      · rename_i n new hmatch
        have hnew : new = mark := by
          rw [verbatim] at hmatch
          split at hmatch
          · exact (Prod.mk.inj (Option.some.inj hmatch)).2.symm
          · cases hmatch
        rw [hnew]
        intro hinside
        rcases infix_framed hword hframed hinside with hleft | hmiddle | hright
        · exact hbefore.absent hne hleft
        · exact hmark hmiddle
        · exact ih [] (n - 1) (noStart_nil word _) (by simpa using hright)

/-- The word that a substitution replaces is gone. -/
theorem not_infix_substitute [BEq α] [LawfulBEq α] (hword : ∀ c ∈ word, p c = true)
    (hne : word ≠ []) {mark : List α} (hframed : Framed p mark) (hmark : ¬word <:+: mark)
    (cs : List α) : ¬word <:+: substitute (verbatim word mark) cs :=
  not_infix_substituteFrom hword hne hframed hmark [] 0 (noStart_nil word _)

end

/-! Runs of blanks. -/

section

variable (blank : α → Bool) (space : α)

def either (p q : α → Bool) (c : α) : Bool := p c || q c

/-- Each run of blanks as one space, at its end. -/
def squeeze : List α → List α
  | [] => []
  | c :: cs =>
    if blank c then if cs.head?.any blank then squeeze cs else space :: squeeze cs
    else c :: squeeze cs

def trim (cs : List α) : List α := (cs.dropWhile blank).rdropWhile blank

def words (cs : List α) : List (List α) := (cs.splitOnP blank).filter (!·.isEmpty)

def joined (cs : List α) : List α := [space].intercalate (words blank cs)

end

section

variable {blank : α → Bool} {space : α}

theorem squeeze_visible {c : α} (hc : blank c = false) (cs : List α) :
    squeeze blank space (c :: cs) = c :: squeeze blank space cs := by
  rw [squeeze, hc]
  rfl

theorem squeeze_inner {c : α} (hc : blank c = true) {cs : List α} (hcs : cs.head?.any blank = true) :
    squeeze blank space (c :: cs) = squeeze blank space cs := by
  rw [squeeze, if_pos hc, if_pos hcs]

theorem squeeze_last {c : α} (hc : blank c = true) {cs : List α} (hcs : cs.head?.any blank = false) :
    squeeze blank space (c :: cs) = space :: squeeze blank space cs := by
  rw [squeeze, if_pos hc, if_neg (Bool.eq_false_iff.mp hcs)]

theorem squeeze_blank {cs : List α} (hcs : cs.head?.any blank = true) :
    ∃ rest, squeeze blank space cs = space :: rest := by
  induction cs with
  | nil => cases hcs
  | cons c cs ih =>
    have hc : blank c = true := hcs
    by_cases hnext : cs.head?.any blank = true
    · obtain ⟨rest, hrest⟩ := ih hnext
      exact ⟨rest, by rw [squeeze_inner hc hnext, hrest]⟩
    · exact ⟨_, squeeze_last hc (Bool.eq_false_iff.mpr hnext)⟩

theorem squeeze_cons (c : α) (cs : List α) : squeeze blank space (c :: cs) = squeeze blank space cs ∨
    ∃ x, squeeze blank space (c :: cs) = x :: squeeze blank space cs := by
  rw [squeeze]
  split
  · split
    · exact .inl rfl
    · exact .inr ⟨space, rfl⟩
  · exact .inr ⟨c, rfl⟩

theorem squeeze_cons_suffix (c : α) (cs : List α) :
    squeeze blank space cs <:+ squeeze blank space (c :: cs) := by
  have hcons : squeeze blank space (c :: cs) = squeeze blank space cs ∨
    ∃ x, squeeze blank space (c :: cs) = x :: squeeze blank space cs := squeeze_cons c cs
  rcases hcons with h | ⟨x, h⟩
  · rw [h]
  · rw [h]
    exact List.suffix_cons x _

theorem squeeze_suffix (a cs : List α) : squeeze blank space cs <:+ squeeze blank space (a ++ cs) := by
  induction a with
  | nil => exact List.suffix_rfl
  | cons c a ih => exact ih.trans (squeeze_cons_suffix c (a ++ cs))

theorem squeeze_start (cs b : List α) : squeeze blank space cs <+: squeeze blank space (cs ++ b) := by
  induction cs with
  | nil => exact List.nil_prefix
  | cons c cs ih =>
    by_cases hc : blank c = true
    · cases cs with
      | nil =>
        rw [squeeze_last hc (show ([] : List α).head?.any blank = false from rfl)]
        by_cases hb : b.head?.any blank = true
        · obtain ⟨rest, hrest⟩ : ∃ rest, squeeze blank space b = space :: rest := squeeze_blank hb
          rw [List.singleton_append, squeeze_inner hc hb, hrest]
          exact List.cons_prefix_cons.mpr ⟨rfl, List.nil_prefix⟩
        · rw [List.singleton_append, squeeze_last hc (Bool.eq_false_iff.mpr hb)]
          exact List.cons_prefix_cons.mpr ⟨rfl, List.nil_prefix⟩
      | cons d cs =>
        by_cases hd : blank d = true
        · rw [squeeze_inner hc (show (d :: cs).head?.any blank = true from hd), List.cons_append,
            squeeze_inner hc (show (d :: cs ++ b).head?.any blank = true from hd)]
          exact ih
        · have hd' := Bool.eq_false_iff.mpr hd
          rw [squeeze_last hc (show (d :: cs).head?.any blank = false from hd'), List.cons_append,
            squeeze_last hc (show (d :: cs ++ b).head?.any blank = false from hd')]
          exact List.cons_prefix_cons.mpr ⟨rfl, ih⟩
    · have hc' := Bool.eq_false_iff.mpr hc
      rw [List.cons_append, squeeze_visible hc', squeeze_visible hc']
      exact List.cons_prefix_cons.mpr ⟨rfl, ih⟩

theorem exists_prefix_squeeze {s cs : List α} (h : s <+: squeeze blank space cs) :
    ∃ p, p <+: cs ∧ squeeze blank space p = s := by
  induction cs generalizing s with
  | nil => exact ⟨[], List.nil_prefix, (List.prefix_nil.mp h).symm⟩
  | cons c cs ih =>
    cases s with
    | nil => exact ⟨[], List.nil_prefix, rfl⟩
    | cons d s =>
      by_cases hc : blank c = true
      · by_cases hnext : cs.head?.any blank = true
        · rw [squeeze_inner hc hnext] at h
          obtain ⟨p, hp, hs⟩ := ih h
          have hhead : p.head?.any blank = true := by
            cases p with
            | nil => cases hs
            | cons x p =>
              obtain ⟨rest, rfl⟩ := hp
              exact hnext
          exact ⟨c :: p, List.cons_prefix_cons.mpr ⟨rfl, hp⟩, by rw [squeeze_inner hc hhead, hs]⟩
        · have hnext' := Bool.eq_false_iff.mpr hnext
          rw [squeeze_last hc hnext'] at h
          obtain ⟨rfl, hrest⟩ := List.cons_prefix_cons.mp h
          obtain ⟨p, hp, hs⟩ := ih hrest
          have hhead : p.head?.any blank = false := by
            cases p with
            | nil => rfl
            | cons x p =>
              obtain ⟨rest, rfl⟩ := hp
              exact hnext'
          exact ⟨c :: p, List.cons_prefix_cons.mpr ⟨rfl, hp⟩, by rw [squeeze_last hc hhead, hs]⟩
      · have hc' := Bool.eq_false_iff.mpr hc
        rw [squeeze_visible hc'] at h
        obtain ⟨rfl, hrest⟩ := List.cons_prefix_cons.mp h
        obtain ⟨p, hp, hs⟩ := ih hrest
        exact ⟨d :: p, List.cons_prefix_cons.mpr ⟨rfl, hp⟩, by rw [squeeze_visible hc', hs]⟩

theorem exists_infix_squeeze {s cs : List α} (h : s <:+: squeeze blank space cs) :
    ∃ p, p <:+: cs ∧ squeeze blank space p = s := by
  induction cs with
  | nil =>
    exact ⟨[], List.infix_rfl, (List.infix_nil.mp h).symm⟩
  | cons c cs ih =>
    have hstep : s <+: squeeze blank space (c :: cs) ∨ s <:+: squeeze blank space cs := by
      have hcons : squeeze blank space (c :: cs) = squeeze blank space cs ∨
        ∃ x, squeeze blank space (c :: cs) = x :: squeeze blank space cs := squeeze_cons c cs
      rcases hcons with hsame | ⟨x, hmore⟩
      · exact .inr (hsame ▸ h)
      · rw [hmore] at h ⊢
        exact List.infix_cons_iff.mp h
    rcases hstep with hbegin | hinside
    · obtain ⟨p, hp, hs⟩ := exists_prefix_squeeze hbegin
      exact ⟨p, hp.isInfix, hs⟩
    · obtain ⟨p, hp, hs⟩ := ih hinside
      exact ⟨p, hp.trans (List.suffix_cons c cs).isInfix, hs⟩

/-- A part of what is read is what is read in a part. -/
theorem infix_squeeze_iff {s cs : List α} :
    s <:+: squeeze blank space cs ↔ ∃ p, p <:+: cs ∧ squeeze blank space p = s := by
  constructor
  · exact exists_infix_squeeze
  · rintro ⟨p, ⟨a, b, rfl⟩, rfl⟩
    rw [List.append_assoc]
    exact (squeeze_start p b).isInfix.trans (squeeze_suffix a (p ++ b)).isInfix

theorem words_blank {c : α} (hc : blank c = true) (cs : List α) :
    words blank (c :: cs) = words blank cs := by
  rw [words, List.splitOnP_cons_eq_if_modifyHead, if_pos hc]
  rfl

theorem words_blanks {run : List α} (hrun : ∀ c ∈ run, blank c = true) (cs : List α) :
    words blank (run ++ cs) = words blank cs := by
  induction run with
  | nil => rfl
  | cons c run ih =>
    rw [List.cons_append, words_blank (hrun c List.mem_cons_self),
      ih fun d hd => hrun d (List.mem_cons_of_mem _ hd)]

theorem words_visible {c : α} (hc : blank c = false) (cs : List α) :
    words blank (c :: cs) = if cs.head?.all blank then [c] :: words blank cs
      else (words blank cs).modifyHead (c :: ·) := by
  cases cs with
  | nil => simp [words, List.splitOnP_cons_eq_if_modifyHead, hc]
  | cons d cs =>
    cases hd : blank d with
    | true => simp [words, List.splitOnP_cons_eq_if_modifyHead, hc, hd]
    | false =>
      obtain ⟨w, ws, hws⟩ := List.exists_cons_of_ne_nil (List.splitOnP_ne_nil blank cs)
      simp [words, List.splitOnP_cons_eq_if_modifyHead, hc, hd, hws]

/-- The words of a text are those of what becomes of it when the runs of another class are spaces. -/
theorem words_run {p : α → Bool} (hspace : blank space = true) (skip : Nat) (cs : List α) :
    words blank (substituteFrom (run p [space]) skip cs) =
        words (either p blank) (cs.drop skip) ∧
      (substituteFrom (run p [space]) skip cs).head?.all blank =
        (cs.drop skip).head?.all (either p blank) := by
  induction cs generalizing skip with
  | nil => simp [substituteFrom, words]
  | cons c cs ih =>
    cases skip with
    | succ skip => exact ih skip
    | zero =>
      rw [substituteFrom, List.drop_zero]
      cases hp : p c with
      | true =>
        have hmatch : run p [space] (c :: cs) = some ((cs.takeWhile p).length + 1, [space]) := by
          simp [run, List.takeWhile_cons_of_pos hp]
        have hboth : either p blank c = true := by rw [either, hp, Bool.true_or]
        have hdrop : cs.drop (cs.takeWhile p).length = cs.dropWhile p := by
          have hleft : (cs.takeWhile p ++ cs.dropWhile p).drop (cs.takeWhile p).length =
            cs.dropWhile p := List.drop_left
          rwa [List.takeWhile_append_dropWhile] at hleft
        have hrun : words (either p blank) (c :: cs) =
            words (either p blank) (cs.dropWhile p) := by
          have hclass : ∀ d ∈ cs.takeWhile p, either p blank d = true := fun d hd =>
            Bool.or_eq_true_iff.mpr (.inl (List.mem_takeWhile_imp hd))
          have hblanks := words_blanks hclass (cs.dropWhile p)
          rw [List.takeWhile_append_dropWhile] at hblanks
          exact (words_blank hboth cs).trans hblanks
        obtain ⟨hwords, -⟩ := ih (cs.takeWhile p).length
        rw [hmatch]
        refine ⟨?_, ?_⟩
        · show words blank (space :: substituteFrom (run p [space]) (cs.takeWhile p).length cs) = _
          rw [words_blank hspace, hwords, hdrop, hrun]
        · exact hspace.trans hboth.symm
      | false =>
        have hmatch : run p [space] (c :: cs) = none := by
          simp [run, hp]
        obtain ⟨hwords, hhead⟩ := ih 0
        rw [List.drop_zero] at hwords hhead
        rw [hmatch]
        have hboth : either p blank c = blank c := by rw [either, hp, Bool.false_or]
        refine ⟨?_, hboth.symm⟩
        dsimp only
        cases hc : blank c with
        | true =>
          rw [words_blank hc, words_blank (hboth.trans hc), hwords]
        | false =>
          rw [words_visible hc, words_visible (hboth.trans hc), hwords, hhead]

theorem rdropWhile_cons (p : α → Bool) (c : α) (cs : List α) :
    (c :: cs).rdropWhile p = if (c :: cs).all p then [] else c :: cs.rdropWhile p := by
  split
  · rename_i hall
    exact List.rdropWhile_eq_nil_iff.mpr (List.all_eq_true.mp hall)
  · rename_i hall
    rw [List.rdropWhile, List.rdropWhile, List.reverse_cons, List.dropWhile_append]
    split
    · rename_i hempty
      have hnil := List.isEmpty_iff.mp hempty
      have hcs : ∀ d ∈ cs, p d = true := by
        simpa [List.dropWhile_eq_nil_iff] using hnil
      have hc : p c = false := by
        refine Bool.eq_false_iff.mpr fun hc => hall (List.all_eq_true.mpr fun d hd => ?_)
        rcases List.mem_cons.mp hd with rfl | hd
        · exact hc
        · exact hcs d hd
      rw [hnil, List.dropWhile_cons_of_neg (Bool.eq_false_iff.mp hc)]
      rfl
    · rw [List.reverse_append]
      rfl

theorem words_eq_nil_iff (cs : List α) : words blank cs = [] ↔ cs.all blank = true := by
  induction cs with
  | nil => simp [words]
  | cons c cs ih =>
    cases hc : blank c with
    | true => rw [words_blank hc, ih, List.all_cons, hc, Bool.true_and]
    | false =>
      rw [words_visible hc, List.all_cons, hc, Bool.false_and]
      split
      · simp
      · rename_i hhead
        have hne : words blank cs ≠ [] := by
          intro hnil
          have hall := ih.mp hnil
          cases cs with
          | nil => exact hhead rfl
          | cons d cs => exact hhead (List.all_eq_true.mp hall d List.mem_cons_self)
        obtain ⟨w, ws, hws⟩ := List.exists_cons_of_ne_nil hne
        simp [hws]

theorem joined_blank {c : α} (hc : blank c = true) (cs : List α) :
    joined blank space (c :: cs) = joined blank space cs := by
  rw [joined, joined, words_blank hc]

theorem joined_visible {c : α} (hc : blank c = false) (cs : List α) :
    joined blank space (c :: cs) = c ::
      if cs.all blank then [] else if cs.head?.all blank then space :: joined blank space cs
        else joined blank space cs := by
  by_cases hall : cs.all blank = true
  · have hhead : cs.head?.all blank = true := by
      cases cs with
      | nil => rfl
      | cons d cs => exact List.all_eq_true.mp hall d List.mem_cons_self
    rw [joined, words_visible hc, if_pos hall, if_pos hhead, (words_eq_nil_iff cs).mpr hall]
    rfl
  · obtain ⟨w, ws, hws⟩ := List.exists_cons_of_ne_nil (mt (words_eq_nil_iff cs).mp hall)
    rw [joined, words_visible hc, if_neg hall]
    split
    · rw [joined, hws, List.intercalate_cons_cons]
      rfl
    · rw [joined, hws]
      cases ws with
      | nil => rfl
      | cons w₂ ws =>
        rw [List.modifyHead_cons, List.intercalate_cons_cons, List.intercalate_cons_cons]
        rfl

/-- What is left of a text when the blanks at its end are, is its words and, before them, a space where
it begins with a blank. -/
theorem squeeze_rdropWhile (cs : List α) :
    squeeze blank space (cs.rdropWhile blank) =
      if cs.all blank then [] else if cs.head?.all blank then space :: joined blank space cs
        else joined blank space cs := by
  induction cs with
  | nil => rfl
  | cons c cs ih =>
    rw [rdropWhile_cons]
    split
    · rfl
    · rename_i hall
      cases hc : blank c with
      | false =>
        have hhead : ¬(c :: cs).head?.all blank = true := Bool.eq_false_iff.mp hc
        rw [squeeze_visible hc, ih, if_neg hhead, joined_visible hc]
      | true =>
        have hrest : ¬cs.all blank = true := fun hcs => hall (by rw [List.all_cons, hc, hcs]; rfl)
        rw [if_pos (by simp [hc]), joined_blank hc]
        cases cs with
        | nil => exact absurd rfl hrest
        | cons d cs =>
          rw [rdropWhile_cons, if_neg hrest] at ih ⊢
          rw [if_neg hrest] at ih
          cases hd : blank d with
          | true => rw [squeeze_inner hc (by simp [hd]), ih, if_pos (by simp [hd])]
          | false => rw [squeeze_last hc (by simp [hd]), ih, if_neg (by simp [hd])]

/-- The words of a text are what one reads of it between its outer blanks. -/
theorem joined_eq_squeeze (cs : List α) :
    joined blank space cs = squeeze blank space (trim blank cs) := by
  have hstart : joined blank space cs = joined blank space (cs.dropWhile blank) := by
    have hclass : ∀ c ∈ cs.takeWhile blank, blank c = true := fun c hc => List.mem_takeWhile_imp hc
    have hblanks := words_blanks hclass (cs.dropWhile blank)
    rw [List.takeWhile_append_dropWhile] at hblanks
    rw [joined, joined, hblanks]
  rw [hstart, trim, squeeze_rdropWhile]
  cases ht : cs.dropWhile blank with
  | nil => rfl
  | cons c t =>
    have hhead := List.head?_dropWhile_not blank cs
    rw [ht] at hhead
    have hc : blank c = false := hhead
    rw [if_neg (by simp [hc]), if_neg (by simp [hc])]

theorem trim_part (cs : List α) : trim blank cs <:+: cs :=
  (List.rdropWhile_prefix blank _).isInfix.trans (List.dropWhile_suffix blank).isInfix

theorem squeeze_of_visible {cs : List α} (hcs : ∀ c ∈ cs, blank c = false) :
    squeeze blank space cs = cs := by
  induction cs with
  | nil => rfl
  | cons c cs ih =>
    rw [squeeze_visible (hcs c List.mem_cons_self), ih fun d hd => hcs d (List.mem_cons_of_mem _ hd)]

theorem mem_squeeze {c : α} (hc : blank c = false) {cs : List α} (hmem : c ∈ cs) :
    c ∈ squeeze blank space cs := by
  obtain ⟨a, b, rfl⟩ := List.append_of_mem hmem
  refine (squeeze_suffix a (c :: b)).subset ?_
  rw [squeeze_visible hc]
  exact List.mem_cons_self

theorem space_mem_squeeze {c : α} (hc : blank c = true) {cs : List α} (hmem : c ∈ cs) :
    space ∈ squeeze blank space cs := by
  obtain ⟨a, b, rfl⟩ := List.append_of_mem hmem
  obtain ⟨rest, hrest⟩ : ∃ rest, squeeze blank space (c :: b) = space :: rest := squeeze_blank hc
  refine (squeeze_suffix a (c :: b)).subset ?_
  rw [hrest]
  exact List.mem_cons_self

end

end Substitution

end AutoVPN
