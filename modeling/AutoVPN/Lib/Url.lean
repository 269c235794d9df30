import AutoVPN.Lib.Lines
import AutoVPN.Lib.Pattern
import Mathlib.Data.List.TakeWhile
import Mathlib.Data.String.Basic

/-! URLs: the percent-encoding of texts in their components, the pairs of a query and the parts that
the delimiters separate, with the reading that undoes each. -/

namespace AutoVPN

namespace Url

/-- The characters that are never encoded. -/
def alwaysSafe (c : Char) : Bool := c.isAlphanum || "_.-~".toList.contains c

def hexDigit (n : Nat) : Char := "0123456789ABCDEF".toList.getD n '0'

def hexValue (c : Char) : Option Nat :=
  if c.isDigit then some (c.toNat - '0'.toNat)
  else if 'A' ≤ c ∧ c ≤ 'F' then some (c.toNat - 'A'.toNat + 10)
  else if 'a' ≤ c ∧ c ≤ 'f' then some (c.toNat - 'a'.toNat + 10)
  else none

def bytes (s : String) : List UInt8 := s.toList.flatMap String.utf8EncodeChar

def quoteByte (safe : List Char) (b : UInt8) : List Char :=
  let c := Char.ofNat b.toNat
  if alwaysSafe c || safe.contains c then [c]
  else ['%', hexDigit (b.toNat / 16), hexDigit (b.toNat % 16)]

def quote (safe : List Char) (s : String) : List Char := (bytes s).flatMap (quoteByte safe)

/-- Spaces are written as plus signs. -/
def quotePlus (s : String) : List Char :=
  if s.toList.contains ' ' then (quote [' '] s).map fun c => if c = ' ' then '+' else c
  else quote [] s

def urlencode (query : List (String × String)) : List Char :=
  ['&'].intercalate (query.map fun q => quotePlus q.1 ++ '=' :: quotePlus q.2)

/-! Reading. A percent sign that no two digits follow stands for itself. -/

def unquoteBytes : List Char → List UInt8
  | [] => []
  | '%' :: h :: l :: cs =>
    match hexValue h, hexValue l with
    | some high, some low => UInt8.ofNat (16 * high + low) :: unquoteBytes cs
    | _, _ => String.utf8EncodeChar '%' ++ unquoteBytes (h :: l :: cs)
  | c :: cs => String.utf8EncodeChar c ++ unquoteBytes cs

def unquote (cs : List Char) : Option String := String.fromUTF8? (unquoteBytes cs).toByteArray

def unquotePlus (cs : List Char) : Option String :=
  unquote (cs.map fun c => if c = '+' then ' ' else c)

/-- What stands before the first separator and what follows it. -/
def cut (c : Char) (cs : List Char) : List Char × List Char :=
  (cs.takeWhile (· != c), (cs.dropWhile (· != c)).drop 1)

def parseQuery (cs : List Char) : Option (List (String × String)) :=
  (cs.splitOn '&').mapM fun part => do
    return (← unquotePlus (cut '=' part).1, ← unquotePlus (cut '=' part).2)

/-! Cutting. -/

theorem mapM_map_eq_some {α β γ : Type} {f : β → Option γ} {k : α → β} {g : α → γ} {as : List α}
    (h : ∀ a ∈ as, f (k a) = some (g a)) : (as.map k).mapM f = some (as.map g) := by
  induction as with
  | nil => rfl
  | cons a as ih =>
    rw [List.map_cons, List.mapM_cons, h a List.mem_cons_self,
      ih fun b hb => h b (List.mem_cons_of_mem _ hb)]
    rfl

theorem cut_append {c : Char} {cs : List Char} (h : c ∉ cs) (rest : List Char) :
    cut c (cs ++ c :: rest) = (cs, rest) := by
  have hall : ∀ d ∈ cs, (d != c) = true := fun d hd => bne_iff_ne.mpr fun he => h (he ▸ hd)
  rw [cut, List.takeWhile_append_of_pos hall, List.dropWhile_append_of_pos hall,
    List.takeWhile_cons_of_neg (by simp), List.dropWhile_cons_of_neg (by simp), List.append_nil]
  rfl

/-! The characters of an encoded text. -/

theorem alwaysSafe_lt {c : Char} (h : alwaysSafe c = true) : c.toNat < 128 := by
  have hcases : (c.isUpper || c.isLower || c.isDigit || "_.-~".toList.contains c) = true := h
  rw [Bool.or_eq_true, Bool.or_eq_true, Bool.or_eq_true] at hcases
  rcases hcases with ((h | h) | h) | h
  · have := isUpper_toNat h
    omega
  · have := isLower_toNat h
    omega
  · have := isDigit_toNat h
    omega
  · have hall : ("_.-~".toList.all fun d => decide (d.toNat < 128)) = true := by decide
    exact of_decide_eq_true (List.all_eq_true.mp hall c (List.contains_iff_mem.mp h))

theorem alwaysSafe_hexDigit {n : Nat} (h : n < 16) : alwaysSafe (hexDigit n) = true := by
  have hall : ∀ n : Fin 16, alwaysSafe (hexDigit n) = true := by decide
  exact hall ⟨n, h⟩

theorem hexValue_hexDigit {n : Nat} (h : n < 16) : hexValue (hexDigit n) = some n := by
  have hall : ∀ n : Fin 16, hexValue (hexDigit n) = some n.val := by decide
  exact hall ⟨n, h⟩

theorem mem_quoteByte {safe : List Char} {b : UInt8} {c : Char} (h : c ∈ quoteByte safe b) :
    alwaysSafe c = true ∨ c ∈ safe ∨ c = '%' := by
  have hb := UInt8.toNat_lt b
  rw [quoteByte] at h
  split at h
  · rename_i hsafe
    rw [List.mem_singleton] at h
    subst h
    rw [Bool.or_eq_true, List.contains_iff_mem] at hsafe
    exact hsafe.imp_right Or.inl
  · simp only [List.mem_cons, List.not_mem_nil, or_false] at h
    rcases h with rfl | rfl | rfl
    · exact Or.inr (Or.inr rfl)
    · exact Or.inl (alwaysSafe_hexDigit (by omega))
    · exact Or.inl (alwaysSafe_hexDigit (by omega))

theorem mem_quote {safe : List Char} {s : String} {c : Char} (h : c ∈ quote safe s) :
    alwaysSafe c = true ∨ c ∈ safe ∨ c = '%' := by
  obtain ⟨b, -, hc⟩ := List.mem_flatMap.mp h
  exact mem_quoteByte hc

theorem mem_quotePlus {s : String} {c : Char} (h : c ∈ quotePlus s) :
    alwaysSafe c = true ∨ c = '+' ∨ c = '%' := by
  rw [quotePlus] at h
  split at h
  · obtain ⟨d, hd, rfl⟩ := List.mem_map.mp h
    split
    · exact Or.inr (Or.inl rfl)
    · rename_i hne
      refine (mem_quote hd).imp_right fun h => Or.inr (h.resolve_left ?_)
      simpa using hne
  · exact (mem_quote h).imp_right fun h => Or.inr (h.resolve_left List.not_mem_nil)

/-- No delimiter is in an encoded text. -/
theorem not_mem_quote {safe : List Char} {c : Char} (hc : alwaysSafe c = false) (hs : c ∉ safe)
    (hp : c ≠ '%') (s : String) : c ∉ quote safe s := by
  intro h
  rcases mem_quote h with h | h | h
  · exact absurd h (by rw [hc]; exact Bool.false_ne_true)
  · exact hs h
  · exact hp h

theorem not_mem_quotePlus {c : Char} (hc : alwaysSafe c = false) (ha : c ≠ '+') (hp : c ≠ '%')
    (s : String) : c ∉ quotePlus s := by
  intro h
  rcases mem_quotePlus h with h | h | h
  · exact absurd h (by rw [hc]; exact Bool.false_ne_true)
  · exact ha h
  · exact hp h

theorem not_mem_urlencode {c : Char} (hc : alwaysSafe c = false)
    (hd : c ∉ ['+', '%', '&', '=']) (query : List (String × String)) : c ∉ urlencode query := by
  simp only [List.mem_cons, List.not_mem_nil, or_false, not_or] at hd
  intro h
  rcases Lines.mem_intercalate h with h | ⟨l, hl, h⟩
  · exact hd.2.2.1 (List.mem_singleton.mp h)
  · obtain ⟨q, -, rfl⟩ := List.mem_map.mp hl
    rcases List.mem_append.mp h with h | h
    · exact not_mem_quotePlus hc hd.1 hd.2.1 _ h
    · rcases List.mem_cons.mp h with h | h
      · exact hd.2.2.2 h
      · exact not_mem_quotePlus hc hd.1 hd.2.1 _ h

/-! Reading undoes writing. -/

theorem unquoteBytes_cons {c : Char} (h : c ≠ '%') (cs : List Char) :
    unquoteBytes (c :: cs) = String.utf8EncodeChar c ++ unquoteBytes cs := by
  rw [unquoteBytes]
  rintro _ _ _ rfl
  exact fun _ => h rfl

theorem toNat_byte {n : Nat} (h : n < 256) : (Char.ofNat n).toNat = n := by
  have hvalid : n.isValidChar := Or.inl (by omega)
  rw [Char.ofNat, dif_pos hvalid]
  rfl

theorem utf8EncodeChar_byte {b : UInt8} (h : b.toNat < 128) :
    String.utf8EncodeChar (Char.ofNat b.toNat) = [b] := by
  have hall : ∀ n : Fin 128, String.utf8EncodeChar (Char.ofNat n) = [UInt8.ofNat n] := by decide
  rw [hall ⟨b.toNat, h⟩, UInt8.ofNat_toNat]

/-- Characters that may be left as they are: those of one byte that are no percent signs. -/
def Plain (safe : List Char) : Prop := ∀ c ∈ safe, c.toNat < 128 ∧ c ≠ '%'

theorem unquoteBytes_quoteByte {safe : List Char} (hs : Plain safe) (b : UInt8) (cs : List Char) :
    unquoteBytes (quoteByte safe b ++ cs) = b :: unquoteBytes cs := by
  have hb := UInt8.toNat_lt b
  rw [quoteByte]
  split
  · rename_i hsafe
    rw [Bool.or_eq_true, List.contains_iff_mem] at hsafe
    have hlt : (Char.ofNat b.toNat).toNat < 128 := hsafe.elim alwaysSafe_lt fun h => (hs _ h).1
    have hne : Char.ofNat b.toNat ≠ '%' := hsafe.elim
      (fun h he => absurd (he ▸ h) (by decide)) fun h => (hs _ h).2
    have hbyte : (Char.ofNat b.toNat).toNat = b.toNat := toNat_byte hb
    rw [List.singleton_append, unquoteBytes_cons hne, utf8EncodeChar_byte (hbyte ▸ hlt)]
    rfl
  · have hhigh : hexValue (hexDigit (b.toNat / 16)) = some (b.toNat / 16) :=
      hexValue_hexDigit (by omega)
    have hlow : hexValue (hexDigit (b.toNat % 16)) = some (b.toNat % 16) :=
      hexValue_hexDigit (by omega)
    rw [List.cons_append, List.cons_append, List.cons_append, List.nil_append, unquoteBytes, hhigh,
      hlow]
    show UInt8.ofNat (16 * (b.toNat / 16) + b.toNat % 16) :: _ = _
    rw [Nat.div_add_mod, UInt8.ofNat_toNat]

theorem unquoteBytes_quote {safe : List Char} (hs : Plain safe) (s : String) :
    unquoteBytes (quote safe s) = bytes s := by
  have hrun : ∀ bs : List UInt8, unquoteBytes (bs.flatMap (quoteByte safe)) = bs := by
    intro bs
    induction bs with
    | nil => rfl
    | cons b bs ih => rw [List.flatMap_cons, unquoteBytes_quoteByte hs, ih]
  exact hrun _

theorem fromUTF8?_bytes (s : String) : String.fromUTF8? (bytes s).toByteArray = some s := by
  have hs : (bytes s).toByteArray = s.toByteArray := by
    have hlist : s.toList.utf8Encode = (String.ofList s.toList).toByteArray :=
      String.toByteArray_ofList.symm
    rw [String.ofList_toList] at hlist
    exact hlist
  rw [hs, String.fromUTF8?, dif_pos s.isValidUTF8]
  rfl

theorem unquote_quote {safe : List Char} (hs : Plain safe) (s : String) :
    unquote (quote safe s) = some s := by
  rw [unquote, unquoteBytes_quote hs, fromUTF8?_bytes]

/-- Plus signs are encoded, so that those in an encoded text are spaces. -/
theorem unquotePlus_quotePlus (s : String) : unquotePlus (quotePlus s) = some s := by
  have hspace : Plain [' '] := by
    intro c hc
    rw [List.mem_singleton.mp hc]
    decide
  have hplus : ∀ safe : List Char, '+' ∉ safe →
      (quote safe s).map (fun c => if c = '+' then ' ' else c) = quote safe s := by
    intro safe hsafe
    refine (List.map_congr_left fun c hc => if_neg fun he => ?_).trans (List.map_id _)
    exact not_mem_quote (by decide) hsafe (by decide) s (he ▸ hc)
  rw [unquotePlus, quotePlus]
  split
  · rw [List.map_map]
    have hback : ∀ c ∈ quote [' '] s, ((fun c => if c = '+' then ' ' else c) ∘
        fun c => if c = ' ' then '+' else c) c = if c = '+' then ' ' else c := by
      intro c _
      by_cases hc : c = ' '
      · subst hc
        decide
      · rw [Function.comp_apply, if_neg hc]
    rw [List.map_congr_left hback, hplus _ (by decide), unquote_quote hspace]
  · rw [hplus _ List.not_mem_nil, unquote_quote (fun c hc => absurd hc List.not_mem_nil)]

theorem parseQuery_urlencode {query : List (String × String)} (h : query ≠ []) :
    parseQuery (urlencode query) = some query := by
  have hamp : ∀ part ∈ query.map (fun q => quotePlus q.1 ++ '=' :: quotePlus q.2),
      '&' ∉ part := by
    intro part hpart hc
    obtain ⟨q, -, rfl⟩ := List.mem_map.mp hpart
    rcases List.mem_append.mp hc with hc | hc
    · exact not_mem_quotePlus (by decide) (by decide) (by decide) _ hc
    · rcases List.mem_cons.mp hc with hc | hc
      · exact absurd hc (by decide)
      · exact not_mem_quotePlus (by decide) (by decide) (by decide) _ hc
  have hread : ∀ q : String × String, (do
      return (← unquotePlus (cut '=' (quotePlus q.1 ++ '=' :: quotePlus q.2)).1,
        ← unquotePlus (cut '=' (quotePlus q.1 ++ '=' :: quotePlus q.2)).2) :
      Option (String × String)) = some q := by
    intro q
    rw [cut_append (not_mem_quotePlus (by decide) (by decide) (by decide) q.1),
      unquotePlus_quotePlus, unquotePlus_quotePlus]
    rfl
  rw [parseQuery, urlencode, List.splitOn_intercalate _ hamp (by simpa using h)]
  exact (mapM_map_eq_some fun q _ => hread q).trans (congrArg some (List.map_id' query))

/-- A text without percent signs stands for itself. -/
theorem unquote_of_not_mem {s : String} (h : '%' ∉ s.toList) : unquote s.toList = some s := by
  have hbytes : ∀ cs : List Char, '%' ∉ cs → unquoteBytes cs = cs.flatMap String.utf8EncodeChar := by
    intro cs hcs
    induction cs with
    | nil => rfl
    | cons c cs ih =>
      have hc : c ≠ '%' := fun he => hcs (he ▸ List.mem_cons_self)
      rw [unquoteBytes_cons hc, ih fun h => hcs (List.mem_cons_of_mem _ h), List.flatMap_cons]
  rw [unquote, hbytes _ h]
  exact fromUTF8?_bytes s

end Url

/-! The parts of a URL with a user and a port. -/

structure Url where
  scheme : List Char
  user : List Char
  host : List Char
  port : List Char
  path : List Char
  query : List Char
  fragment : List Char

namespace Url

def authority (u : Url) : List Char := u.user ++ '@' :: (u.host ++ ':' :: u.port)

def text (u : Url) : List Char :=
  u.scheme ++ ':' :: '/' :: '/' :: (u.authority ++ u.path) ++ '?' :: u.query ++ '#' :: u.fragment

/-- The parts in a row. -/
theorem text_mk (scheme user host port path query fragment : List Char) :
    text ⟨scheme, user, host, port, path, query, fragment⟩ =
      scheme ++ [':', '/', '/'] ++ user ++ '@' :: host ++ ':' :: port ++ path ++ '?' :: query ++
        '#' :: fragment := by
  simp [text, authority]

def parse (cs : List Char) : Option Url :=
  let (address, fragment) := cut '#' cs
  let (place, query) := cut '?' address
  match cut ':' place with
  | (scheme, '/' :: '/' :: rest) =>
    let (user, server) := cut '@' (rest.takeWhile (· != '/'))
    let (host, port) := cut ':' server
    some ⟨scheme, user, host, port, rest.dropWhile (· != '/'), query, fragment⟩
  | _ => none

def delimiters : List Char := [':', '/', '?', '#', '@']

/-- No part holds a delimiter that ends it. -/
structure Separable (u : Url) : Prop where
  scheme : ∀ c ∈ u.scheme, c ∉ delimiters
  user : ∀ c ∈ u.user, c ∉ delimiters
  host : ∀ c ∈ u.host, c ∉ delimiters
  port : ∀ c ∈ u.port, c ∉ delimiters
  path : u.path = [] ∨ u.path = ['/']
  query : '#' ∉ u.query

namespace Separable

variable {u : Url} (h : u.Separable)

include h

theorem slash_not_mem : '/' ∉ u.authority := by
  intro hc
  simp only [authority, List.mem_append, List.mem_cons] at hc
  rcases hc with hc | hc | hc | hc | hc
  · exact h.user _ hc (by decide)
  · exact absurd hc (by decide)
  · exact h.host _ hc (by decide)
  · exact absurd hc (by decide)
  · exact h.port _ hc (by decide)

/-- Neither the mark of the query nor that of the fragment stands before the query. -/
theorem mark_not_mem {c : Char} (hc : c = '?' ∨ c = '#') :
    c ∉ u.scheme ++ ':' :: '/' :: '/' :: (u.authority ++ u.path) := by
  have hd : c ∈ delimiters ∧ c ∉ [':', '/', '@'] := by
    rcases hc with rfl | rfl <;> decide
  have hother : ∀ d ∈ [':', '/', '@'], c ≠ d := fun d hmem he => hd.2 (he ▸ hmem)
  intro hmem
  simp only [authority, List.mem_append, List.mem_cons] at hmem
  rcases hmem with hmem | hmem | hmem | hmem | (hmem | hmem | hmem | hmem | hmem) | hmem
  · exact h.scheme _ hmem hd.1
  · exact hother ':' (by decide) hmem
  · exact hother '/' (by decide) hmem
  · exact hother '/' (by decide) hmem
  · exact h.user _ hmem hd.1
  · exact hother '@' (by decide) hmem
  · exact h.host _ hmem hd.1
  · exact hother ':' (by decide) hmem
  · exact h.port _ hmem hd.1
  · rcases h.path with hp | hp <;> rw [hp] at hmem
    · exact List.not_mem_nil hmem
    · exact hother '/' (by decide) (List.mem_singleton.mp hmem)

/-- The authority ends where the path begins. -/
theorem split_path : (u.authority ++ u.path).takeWhile (· != '/') = u.authority ∧
    (u.authority ++ u.path).dropWhile (· != '/') = u.path := by
  have hall : ∀ c ∈ u.authority, (c != '/') = true := fun c hc =>
    bne_iff_ne.mpr fun he => h.slash_not_mem (he ▸ hc)
  rw [List.takeWhile_append_of_pos hall, List.dropWhile_append_of_pos hall]
  rcases h.path with hp | hp <;> rw [hp]
  · exact ⟨List.append_nil _, rfl⟩
  · rw [List.takeWhile_cons_of_neg (by simp), List.dropWhile_cons_of_neg (by simp)]
    exact ⟨List.append_nil _, rfl⟩

theorem parse_text : parse u.text = some u := by
  have hfragment : cut '#' u.text =
      (u.scheme ++ ':' :: '/' :: '/' :: (u.authority ++ u.path) ++ '?' :: u.query,
        u.fragment) := by
    refine cut_append (fun hc => ?_) _
    rcases List.mem_append.mp hc with hc | hc
    · exact h.mark_not_mem (Or.inr rfl) hc
    · rcases List.mem_cons.mp hc with hc | hc
      · exact absurd hc (by decide)
      · exact h.query hc
  have hquery := cut_append (h.mark_not_mem (Or.inl rfl)) u.query
  have hscheme := cut_append (fun hc => h.scheme ':' hc (by decide))
    ('/' :: '/' :: (u.authority ++ u.path))
  have huser : cut '@' u.authority = (u.user, u.host ++ ':' :: u.port) :=
    cut_append (fun hc => h.user '@' hc (by decide)) _
  have hhost := cut_append (fun hc => h.host ':' hc (by decide)) u.port
  rw [parse, hfragment]
  simp only [hquery, hscheme, h.split_path.1, h.split_path.2, huser, hhost]

end Separable

end Url

end AutoVPN
